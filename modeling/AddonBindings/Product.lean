/-!
Contract: the fixed names of the generator.

Owns: the command name, the notice on generated files, and the names under which
a project keeps its settings and its generated files.

Does not own: the paths built from these names, which are in
`AddonBindings.Output` and `AddonBindings.Project.Settings`.
-/

namespace AddonBindings.Product

def name : String := "gonode"

def version : String := "0.1.0"

/-- The first line of every generated file. -/
def notice : String := "// AUTO-GENERATED by " ++ name ++ " - DO NOT EDIT"

def settingsFile : String := "." ++ name ++ ".yaml"

end AddonBindings.Product

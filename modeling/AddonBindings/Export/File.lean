import AddonBindings.Export.Extraction
import AddonBindings.Fault
import AddonBindings.Files.Reading

/-!
Contract: the exported functions of a source file.

Owns: reading a source file, and the report of a file that cannot be read or
is no UTF-8.

Does not own: extraction from the text, which is in
`AddonBindings.Export.Extraction`.
-/

namespace AddonBindings

def Export.ofBytes (file : String) (bytes : List UInt8) :
    Except GenerationFault (List ExportedFunction) :=
  match Text.decodeUtf8 bytes with
  | .ok text => Export.ofSource file (String.ofList (Text.foldNewlines text.toList))
  | .error fault => .error ⟨.source (.notUtf8 fault), some file, none⟩

def Export.ofFile (tree : Files.FileTree) (path : Files.Path) :
    Except Fault (List ExportedFunction) :=
  match Files.readFile tree path with
  | .ok bytes => (Export.ofBytes path.text bytes).mapError .generation
  | .error (.refused fault) =>
      .error (.generation ⟨.source (.unreadable fault), some path.text, none⟩)
  | .error .nullCharacter => .error (.access .nullCharacter)

end AddonBindings

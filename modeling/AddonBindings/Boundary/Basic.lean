import AddonBindings.Text.Quoted

/-!
Contract: the kinds of values that cross between the two languages.

Owns:
- the two boundary types, and labels that are no boundary type;
- the fault of looking up a label that is no boundary type.

Does not own: which written types have a boundary type, which is in
`AddonBindings.Boundary.Expression`.
-/

namespace AddonBindings

/-- The type that a record states for a parameter or a result.  Extraction only
gives `text` and `numeric`; a record made by hand may state any other label. -/
inductive BoundaryType where
  /-- A C string on one side, a string on the other. -/
  | text
  /-- A signed integer or a floating-point number on one side, a number on the other. -/
  | numeric
  /-- A label that is no boundary type. -/
  | foreign (label : String)
deriving DecidableEq, Repr

def BoundaryType.isKnown : BoundaryType → Bool
  | text | numeric => true
  | foreign _ => false

/-- A table of boundary types has no row for this label, or for a type that is
not stated. -/
structure UnknownBoundary where
  label : Option String
deriving DecidableEq, Repr

/-- The wording of a failed look-up: the label between quotation marks. -/
def UnknownBoundary.message (fault : UnknownBoundary) : String :=
  match fault.label with
  | none => "None"
  | some label => Text.quoted label

end AddonBindings

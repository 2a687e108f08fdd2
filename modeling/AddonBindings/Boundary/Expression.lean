import AddonBindings.Boundary.Basic
import AddonBindings.Text.Blank
import AddonBindings.Text.IdentifierCharacter

/-!
Contract: which written types can cross the boundary.

Owns:
- the three shapes of a written type;
- the classification of a text into these shapes;
- the boundary type of a shape, if it has one.

Does not own: the shapes of types inside a source file, which are in
`AddonBindings.Export.Signature`.
-/

namespace AddonBindings

/-- A written type, reduced to what decides whether it can cross. -/
inductive TypeExpression where
  /-- A bare name. -/
  | identifier (name : String)
  /-- A pointer to a name inside a package. -/
  | pointer (package name : String)
  /-- Any other type, as written. -/
  | other (raw : String)
deriving DecidableEq, Repr

structure UnsupportedType where
  raw : String
deriving DecidableEq, Repr

namespace TypeExpression

/-- The text of a type; blanks inside a pointer are gone. -/
def raw : TypeExpression → String
  | identifier name => name
  | pointer package name => "*" ++ package ++ "." ++ name
  | other raw => raw

def isAsciiName : List Char → Bool
  | [] => false
  | first :: rest => Text.isAsciiNameStart first && rest.all Text.isAsciiNameRest

/-- The package and the name of `*package.name`, with blanks after the star and
around the point. -/
def pointerTarget? : List Char → Option (List Char × List Char)
  | '*' :: rest =>
      let target := rest.dropWhile Text.isBlank
      let package := target.takeWhile Text.isAsciiNameRest
      match (target.dropWhile Text.isAsciiNameRest).dropWhile Text.isBlank with
      | '.' :: rest =>
          let name := rest.dropWhile Text.isBlank
          if isAsciiName package && isAsciiName name then some (package, name) else none
      | _ => none
  | _ => none

/-- The shape of a text without the blanks around it. -/
def classify (text : String) : TypeExpression :=
  let cs := Text.trimChars text.toList
  if isAsciiName cs then identifier (String.ofList cs)
  else
    match pointerTarget? cs with
    | some (package, name) => pointer (String.ofList package) (String.ofList name)
    | none => other (String.ofList cs)

/-- The names of the signed integer and floating-point types. -/
def numericNames : List String :=
  ["int", "int8", "int16", "int32", "int64", "float32", "float64"]

/-- The boundary type of a written type: a numeric name, or a pointer to `C.char`. -/
def boundary (expression : TypeExpression) : Except UnsupportedType BoundaryType :=
  match expression with
  | identifier name =>
      if name ∈ numericNames then .ok .numeric else .error ⟨expression.raw⟩
  | pointer package name =>
      if package = "C" ∧ name = "char" then .ok .text else .error ⟨expression.raw⟩
  | other raw => .error ⟨raw⟩

def boundaryOfText (text : String) : Except UnsupportedType BoundaryType :=
  (classify text).boundary

/-- A written type only ever gets one of the two boundary types. -/
theorem isKnown_of_boundary
    {expression : TypeExpression} {type : BoundaryType}
    (mapped : expression.boundary = .ok type) : type.isKnown = true := by
  cases expression with
  | identifier name =>
      by_cases isNumeric : name ∈ numericNames
      · simp only [boundary, isNumeric, if_true, Except.ok.injEq] at mapped
        rw [← mapped]
        rfl
      · simp [boundary, isNumeric] at mapped
  | pointer package name =>
      by_cases isText : package = "C" ∧ name = "char"
      · simp only [boundary, isText, and_self, if_true, Except.ok.injEq] at mapped
        rw [← mapped]
        rfl
      · simp [boundary, isText] at mapped
  | other raw => simp [boundary] at mapped

end TypeExpression

end AddonBindings

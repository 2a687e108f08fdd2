import AddonBindings.Boundary.Expression
import AddonBindings.Proofs.Text.Trimming
import AddonBindings.Proofs.Text.Word

/-!
Contract: the language of written types that cross the boundary.

Owns:
- the types that cross the boundary, and as what;
- the blanks by their code points, none of which is part of a name;
- the spelling of a pointer to a name of a package, and the three shapes of a text;
- the law that classification finds exactly these shapes;
- which texts are numbers, which are texts, and how every other text is refused.

Does not own: types inside a source file, which `AddonBindings.Proofs.Go.TypeText` compares
with their texts.
-/

namespace AddonBindings

/-! ## What crosses -/

/-- A numeric name crosses as a number, a pointer to `C.char` as a text, and nothing
else crosses. -/
inductive TypeExpression.CrossesAs : TypeExpression → BoundaryType → Prop
  | number {name : String} (isNumeric : name ∈ numericNames) : CrossesAs (.identifier name) .numeric
  | text : CrossesAs (.pointer "C" "char") .text

theorem Export.boundary_eq_ok_iff {expression : TypeExpression} {boundary : BoundaryType} :
    expression.boundary = .ok boundary ↔ expression.CrossesAs boundary := by
  constructor
  · intro mapped
    cases expression with
    | identifier name =>
        rw [TypeExpression.boundary] at mapped
        split at mapped
        · cases mapped
          exact .number ‹_›
        · cases mapped
    | pointer package name =>
        rw [TypeExpression.boundary] at mapped
        split at mapped
        · obtain ⟨rfl, rfl⟩ := ‹package = "C" ∧ name = "char"›
          cases mapped
          exact .text
        · cases mapped
    | other raw => cases mapped
  · intro crosses
    cases crosses with
    | number isNumeric => exact if_pos isNumeric
    | text => rfl

/-! ## Blanks and names -/

namespace Text

def blankCodes : List Nat :=
  [9, 10, 11, 12, 13, 28, 29, 30, 31, 32, 0x85, 0xA0, 0x1680, 0x2000, 0x2001, 0x2002, 0x2003,
    0x2004, 0x2005, 0x2006, 0x2007, 0x2008, 0x2009, 0x200A, 0x2028, 0x2029, 0x202F, 0x205F, 0x3000]

/-- A property of all blanks, checked code point by code point. -/
theorem forall_isBlank {P : Char → Prop} (each : ∀ code ∈ blankCodes, P (Char.ofNat code))
    {c : Char} (blank : isBlank c = true) : P c := by
  have isCode : c.val.toNat ∈ blankCodes := by
    simp only [isBlank, Bool.or_eq_true, Bool.and_eq_true, decide_eq_true_eq, beq_iff_eq,
      UInt32.le_iff_toNat_le, ← UInt32.toNat_inj, UInt32.toNat_ofNat] at blank
    simp only [blankCodes, List.mem_cons, List.not_mem_nil, or_false]
    omega
  have holds := each c.toNat isCode
  rwa [Char.ofNat_toNat] at holds

/-- No blank continues an identifier. -/
theorem isIdentifierRest_of_isBlank {c : Char} (blank : isBlank c = true) :
    isIdentifierRest c = false :=
  forall_isBlank (P := fun c => isIdentifierRest c = false) (by decide +kernel) blank

theorem isBlank_of_isIdentifierRest {c : Char} (isRest : isIdentifierRest c = true) :
    isBlank c = false := by
  rw [Bool.eq_false_iff]
  intro blank
  rw [isIdentifierRest_of_isBlank blank] at isRest
  cases isRest

theorem isBlank_of_isAsciiNameRest {c : Char} (isRest : isAsciiNameRest c = true) :
    isBlank c = false :=
  isBlank_of_isIdentifierRest (isIdentifierRest_of_ascii (lt_of_isAsciiNameRest isRest) isRest)

end Text

namespace TypeExpression

open Export Text

variable {text package name : String} {cs front back : List Char}

theorem ne_nil_of_isAsciiName (isName : isAsciiName cs = true) : cs ≠ [] := by
  rintro rfl
  cases isName

theorem isTrimmed_of_isAsciiName (isName : isAsciiName cs = true) : IsTrimmed cs where
  start _ isHead :=
    isBlank_of_isAsciiNameRest (isAsciiNameRest_of_mem isName (List.mem_of_mem_head? isHead))
  stop _ isLast :=
    isBlank_of_isAsciiNameRest (isAsciiNameRest_of_mem isName (List.mem_of_mem_getLast? isLast))

/-- A name ends where anything but a letter, a digit or an underscore follows. -/
theorem takeWhile_isAsciiNameRest (isName : isAsciiName front = true)
    (ends : ∀ c ∈ back.head?, isAsciiNameRest c = false) :
    (front ++ back).takeWhile isAsciiNameRest = front ∧
      (front ++ back).dropWhile isAsciiNameRest = back := by
  have inside : ∀ c ∈ front, isAsciiNameRest c = true := fun c => isAsciiNameRest_of_mem isName
  exact ⟨takeWhile_append_of_head? inside ends, dropWhile_append_of_head? inside ends⟩

/-! ## Pointers to names of packages -/

/-- The characters are `*package.name`, with blanks after the star and around the point. -/
structure IsPointer (package name cs : List Char) : Prop where
  isPackage : isAsciiName package = true
  isName : isAsciiName name = true
  spelled : ∃ afterStar beforePoint afterPoint,
    AreBlanks afterStar ∧ AreBlanks beforePoint ∧ AreBlanks afterPoint ∧
      cs = '*' :: (afterStar ++ (package ++ (beforePoint ++ '.' :: (afterPoint ++ name))))

private theorem isPointer_of_pointerTarget? {package name : List Char}
    (found : pointerTarget? cs = some (package, name)) : IsPointer package name cs := by
  unfold pointerTarget? at found
  split at found
  · rename_i rest
    dsimp only at found
    split at found
    · rename_i others isPoint
      split at found
      · rename_i areNames
        rw [Bool.and_eq_true] at areNames
        cases found
        obtain ⟨afterStar, starBlank, isRest⟩ := exists_dropWhile_append rest
        obtain ⟨beforePoint, beforeBlank, isBefore⟩ :=
          exists_dropWhile_append ((rest.dropWhile isBlank).dropWhile isAsciiNameRest)
        obtain ⟨afterPoint, afterBlank, isAfter⟩ := exists_dropWhile_append others
        refine ⟨areNames.1, areNames.2, afterStar, beforePoint, afterPoint, starBlank, beforeBlank,
          afterBlank, ?_⟩
        rw [← isAfter, ← isPoint, ← isBefore, List.takeWhile_append_dropWhile, ← isRest]
      · cases found
    · cases found
  · cases found

theorem IsPointer.pointerTarget? {package name : List Char} (isPointer : IsPointer package name cs) :
    pointerTarget? cs = some (package, name) := by
  obtain ⟨isPackage, isName, afterStar, beforePoint, afterPoint, starBlank, beforeBlank, afterBlank,
    rfl⟩ := isPointer
  have startsName {front back : List Char} (isFront : isAsciiName front = true) :
      ∀ c ∈ (front ++ back).head?, isBlank c = false := by
    cases front with
    | nil => cases isFront
    | cons first others => exact (isTrimmed_of_isAsciiName isFront).start
  -- the package ends before a blank or before the point
  have endsPackage : ∀ c ∈ (beforePoint ++ '.' :: (afterPoint ++ name)).head?,
      isAsciiNameRest c = false := by
    intro c isHead
    cases beforePoint with
    | nil =>
        cases isHead
        rfl
    | cons first others =>
        cases isHead
        rw [Bool.eq_false_iff]
        intro isRest
        have noBlank := isBlank_of_isAsciiNameRest isRest
        rw [beforeBlank _ List.mem_cons_self] at noBlank
        cases noBlank
  have endsBlanks : ∀ c ∈ ('.' :: (afterPoint ++ name)).head?, isBlank c = false := by
    rintro _ ⟨⟩
    rfl
  have nameStarts : ∀ c ∈ name.head?, isBlank c = false := (isTrimmed_of_isAsciiName isName).start
  obtain ⟨packageTaken, packageDropped⟩ := takeWhile_isAsciiNameRest isPackage endsPackage
  rw [TypeExpression.pointerTarget?, dropWhile_append_of_head? starBlank (startsName isPackage),
    packageTaken, packageDropped, dropWhile_append_of_head? beforeBlank endsBlanks]
  show (if (isAsciiName package && isAsciiName ((afterPoint ++ name).dropWhile isBlank)) = true then
      some (package, (afterPoint ++ name).dropWhile isBlank) else none) = some (package, name)
  rw [dropWhile_append_of_head? afterBlank nameStarts, isPackage, isName]
  rfl

/-- A pointer is found exactly where one is spelled. -/
theorem pointerTarget?_eq_some_iff {package name : List Char} :
    pointerTarget? cs = some (package, name) ↔ IsPointer package name cs :=
  ⟨isPointer_of_pointerTarget?, IsPointer.pointerTarget?⟩

theorem IsPointer.exists_cons {package name : List Char} (isPointer : IsPointer package name cs) :
    ∃ rest, cs = '*' :: rest := by
  obtain ⟨-, -, _, _, _, -, -, -, spelled⟩ := isPointer
  exact ⟨_, spelled⟩

/-! ## Shapes -/

/-- The text is `*package.name`, with blanks after the star and around the point. -/
def IsPointerText (package name text : String) : Prop :=
  IsPointer package.toList name.toList text.toList

/-- A text without blanks at its ends has one of three shapes. -/
inductive IsShapeOf : String → TypeExpression → Prop
  | identifier {name : String} (isName : isAsciiName name.toList = true) :
      IsShapeOf name (.identifier name)
  | pointer {text package name : String} (isPointer : IsPointerText package name text) :
      IsShapeOf text (.pointer package name)
  | other {text : String} (noName : isAsciiName text.toList = false)
      (noPointer : ∀ package name, ¬ IsPointerText package name text) : IsShapeOf text (.other text)

private theorem isShapeOf_classify (text : String) : IsShapeOf (trim text) (classify text) := by
  have isTrim : (trim text).toList = trimChars text.toList := String.toList_ofList
  rw [classify]
  split
  · rename_i isName
    exact .identifier (isTrim ▸ isName)
  · rename_i noName
    split
    · rename_i package name found
      have isPointer := isPointer_of_pointerTarget? found
      refine .pointer ?_
      rw [IsPointerText, isTrim, String.toList_ofList, String.toList_ofList]
      exact isPointer
    · rename_i notFound
      refine .other (by rw [isTrim]; exact Bool.eq_false_iff.mpr noName) ?_
      intro package name isPointer
      rw [IsPointerText, isTrim, ← pointerTarget?_eq_some_iff, notFound] at isPointer
      cases isPointer

theorem IsPointerText.isAsciiName_eq_false (isPointer : IsPointerText package name text) :
    isAsciiName text.toList = false := by
  obtain ⟨rest, isText⟩ := isPointer.exists_cons
  rw [isText]
  rfl

theorem IsPointerText.unique {package' name' : String} (isPointer : IsPointerText package name text)
    (isPointer' : IsPointerText package' name' text) : package = package' ∧ name = name' := by
  have found := isPointer.pointerTarget?
  rw [isPointer'.pointerTarget?] at found
  obtain ⟨samePackage, sameName⟩ := Prod.mk.inj (Option.some.inj found)
  exact ⟨String.toList_injective samePackage.symm, String.toList_injective sameName.symm⟩

/-- A text has only one shape. -/
theorem IsShapeOf.unique {first second : TypeExpression} (isFirst : IsShapeOf text first)
    (isSecond : IsShapeOf text second) : first = second := by
  cases isFirst with
  | identifier isName =>
      cases isSecond with
      | identifier _ => rfl
      | pointer isPointer => rw [isPointer.isAsciiName_eq_false] at isName; cases isName
      | other noName _ => rw [noName] at isName; cases isName
  | pointer isPointer =>
      cases isSecond with
      | identifier isName => rw [isPointer.isAsciiName_eq_false] at isName; cases isName
      | pointer isPointer' =>
          obtain ⟨rfl, rfl⟩ := isPointer.unique isPointer'
          rfl
      | other _ noPointer => exact absurd isPointer (noPointer _ _)
  | other noName noPointer =>
      cases isSecond with
      | identifier isName => rw [noName] at isName; cases isName
      | pointer isPointer => exact absurd isPointer (noPointer _ _)
      | other _ _ => rfl

/-- Classification finds the shape of the text without the blanks at its ends. -/
theorem classify_eq_iff {expression : TypeExpression} :
    classify text = expression ↔ IsShapeOf (trim text) expression := by
  constructor
  · rintro rfl
    exact isShapeOf_classify text
  · exact (isShapeOf_classify text).unique

private theorem trim_trim (text : String) : trim (trim text) = trim text := by
  rw [trim, trim, String.toList_ofList, trimChars_trimChars]

theorem trim_eq_self (trimmed : IsTrimmed text.toList) : trim text = text := by
  rw [trim, trimmed.trimChars_eq, String.ofList_toList]

private theorem isPointerText_raw (isPackage : isAsciiName package.toList = true)
    (isName : isAsciiName name.toList = true) :
    IsPointerText package name (pointer package name).raw := by
  refine ⟨isPackage, isName, [], [], [], ?_, ?_, ?_, ?_⟩
  · rintro _ ⟨⟩
  · rintro _ ⟨⟩
  · rintro _ ⟨⟩
  · simp [TypeExpression.raw, String.toList_append]

theorem IsPointerText.isTrimmed (isPointer : IsPointerText package name text) :
    IsTrimmed text.toList := by
  obtain ⟨-, isName, afterStar, beforePoint, afterPoint, -, -, -, spelled⟩ := isPointer
  have starNoBlank : Text.isBlank '*' = false := rfl
  have ends := (isTrimmed_of_isAsciiName isName).cons starNoBlank (ne_nil_of_isAsciiName isName)
    (afterStar ++ (package.toList ++ (beforePoint ++ '.' :: afterPoint)))
  rw [spelled]
  simpa [List.append_assoc] using ends

/-- The text of a shape has this shape. -/
theorem IsShapeOf.raw {expression : TypeExpression} (isShape : IsShapeOf text expression)
    (trimmed : trim text = text) : IsShapeOf (trim expression.raw) expression := by
  cases isShape with
  | identifier isName =>
      rw [TypeExpression.raw, trimmed]
      exact .identifier isName
  | pointer isPointer =>
      have isPointerRaw := isPointerText_raw isPointer.isPackage isPointer.isName
      rw [trim_eq_self isPointerRaw.isTrimmed]
      exact .pointer isPointerRaw
  | other noName noPointer =>
      rw [TypeExpression.raw, trimmed]
      exact .other noName noPointer

private theorem classify_raw (text : String) : classify (classify text).raw = classify text :=
  classify_eq_iff.mpr ((isShapeOf_classify text).raw (trim_trim text))

/-! ## Boundary types of texts -/

theorem isAsciiName_of_mem_numericNames :
    ∀ name ∈ numericNames, isAsciiName name.toList = true := by
  decide

theorem boundaryOfText_eq_numeric_iff :
    boundaryOfText text = .ok .numeric ↔ trim text ∈ numericNames := by
  rw [boundaryOfText, boundary_eq_ok_iff]
  constructor
  · intro crosses
    have isShape := isShapeOf_classify text
    generalize classify text = expression at crosses isShape
    cases crosses with
    | number isNumeric =>
        cases isShape with
        | identifier _ => exact isNumeric
  · intro isNumeric
    have isName := isAsciiName_of_mem_numericNames _ isNumeric
    rw [classify_eq_iff.mpr (.identifier isName)]
    exact .number isNumeric

theorem boundaryOfText_eq_text_iff :
    boundaryOfText text = .ok .text ↔ IsPointerText "C" "char" (trim text) := by
  rw [boundaryOfText, boundary_eq_ok_iff]
  constructor
  · intro crosses
    have isShape := isShapeOf_classify text
    generalize classify text = expression at crosses isShape
    cases crosses with
    | text =>
        cases isShape with
        | pointer isPointer => exact isPointer
  · intro isPointer
    rw [classify_eq_iff.mpr (.pointer isPointer)]
    exact .text

/-- How a refused text is told: a pointer to a name of a package without the blanks inside
it, and any other text as it is written. -/
inductive IsToldAs (text : String) : String → Prop
  | pointer {package name : String} (isPointer : IsPointerText package name text) :
      IsToldAs text ("*" ++ package ++ "." ++ name)
  | asWritten (noPointer : ∀ package name, ¬ IsPointerText package name text) : IsToldAs text text

theorem IsToldAs.unique {first second : String} (isFirst : IsToldAs text first)
    (isSecond : IsToldAs text second) : first = second := by
  cases isFirst with
  | pointer isPointer =>
      cases isSecond with
      | pointer isPointer' =>
          obtain ⟨rfl, rfl⟩ := isPointer.unique isPointer'
          rfl
      | asWritten noPointer => exact absurd isPointer (noPointer _ _)
  | asWritten noPointer =>
      cases isSecond with
      | pointer isPointer => exact absurd isPointer (noPointer _ _)
      | asWritten _ => rfl

private theorem isToldAs_of_boundaryOfText {fault : UnsupportedType}
    (refused : boundaryOfText text = .error fault) : IsToldAs (trim text) fault.raw := by
  have isShape := isShapeOf_classify text
  rw [boundaryOfText] at refused
  generalize classify text = expression at refused isShape
  cases isShape with
  | identifier isName =>
      rw [boundary] at refused
      split at refused
      · cases refused
      · cases refused
        refine .asWritten fun package name isPointer => ?_
        rw [isPointer.isAsciiName_eq_false] at isName
        cases isName
  | pointer isPointer =>
      rw [boundary] at refused
      split at refused
      · cases refused
      · cases refused
        exact .pointer isPointer
  | other noName noPointer =>
      cases refused
      exact .asWritten noPointer

private theorem boundaryOfText_eq_error_iff {fault : UnsupportedType} :
    boundaryOfText text = .error fault ↔
      trim text ∉ numericNames ∧ ¬ IsPointerText "C" "char" (trim text) ∧
        IsToldAs (trim text) fault.raw := by
  rw [← boundaryOfText_eq_numeric_iff, ← boundaryOfText_eq_text_iff]
  constructor
  · intro refused
    refine ⟨?_, ?_, isToldAs_of_boundaryOfText refused⟩
    · rw [refused]
      rintro ⟨⟩
    · rw [refused]
      rintro ⟨⟩
  · rintro ⟨noNumber, noText, told⟩
    cases mapped : boundaryOfText text with
    | error other =>
        have same := (isToldAs_of_boundaryOfText mapped).unique told
        exact congrArg Except.error (congrArg UnsupportedType.mk same)
    | ok type =>
        cases type with
        | numeric => exact absurd mapped noNumber
        | text => exact absurd mapped noText
        | foreign label => cases isKnown_of_boundary mapped

/-- **The language of written types.**  Without the blanks at its ends, a text that crosses
as a number is one of seven names, and a text that crosses as a text is a pointer to `char`
of `C`, however it is spaced.  Every other text is refused: a pointer to a name of a package
is told without the blanks inside it, all else as it is written.  What is told of a
classification is classified as before. -/
theorem boundaryOfText_exact (text : String) :
    (boundaryOfText text = .ok .numeric ↔
      trim text ∈ ["int", "int8", "int16", "int32", "int64", "float32", "float64"]) ∧
    (boundaryOfText text = .ok .text ↔ IsPointerText "C" "char" (trim text)) ∧
    (∀ fault, boundaryOfText text = .error fault ↔
      trim text ∉ ["int", "int8", "int16", "int32", "int64", "float32", "float64"] ∧
        ¬ IsPointerText "C" "char" (trim text) ∧ IsToldAs (trim text) fault.raw) ∧
    classify (classify text).raw = classify text :=
  ⟨boundaryOfText_eq_numeric_iff, boundaryOfText_eq_text_iff, fun _ => boundaryOfText_eq_error_iff,
    classify_raw text⟩

end TypeExpression

end AddonBindings

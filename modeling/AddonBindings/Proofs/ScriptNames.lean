import Mathlib.Data.List.Nodup
import AddonBindings.Proofs.Declaration.Reading
import AddonBindings.Proofs.Native.SourceReading

/-!
Contract: under which names scripts reach the exported functions.

Owns:
- names that only differ in the case of their first letter, and that these are the
  names that become one script name;
- the names that are registered and the names of the members of the interface, both
  read from the generated lines;
- the law that a function is hidden exactly by a later one whose name only differs in
  the case of its first letter.

Does not own: what a callback does, which is in `AddonBindings.Proofs.Native.Execution`.
-/

namespace AddonBindings

open Text

/-! ## Script names -/

/-- What every Go identifier is: a word without the combining dot above.  Identifiers
are made of letters, digits and underscores, and the dot is none of them. -/
structure CanBeIdentifier (name : String) : Prop where
  word : isWord name = true
  undotted : '\u0307' ∉ name.toList

/-- The names have the same letters but for the case of the first. -/
def AlikeButForCase (name other : String) : Prop :=
  ∃ first second rest, name.toList = first :: rest ∧ other.toList = second :: rest ∧
    lowerCase first = lowerCase second

private theorem alikeButForCase_iff {name other : String} :
    AlikeButForCase name other ↔
      name.toList ≠ [] ∧ name.toList.head?.map lowerCase = other.toList.head?.map lowerCase ∧
        name.toList.tail = other.toList.tail := by
  constructor
  · rintro ⟨first, second, rest, letters, otherLetters, small⟩
    simp [letters, otherLetters, small]
  · rintro ⟨filled, small, tails⟩
    obtain ⟨first, rest, letters⟩ := List.exists_cons_of_ne_nil filled
    cases otherLetters : other.toList with
    | nil => simp [letters, otherLetters] at small
    | cons second others =>
        rw [letters, otherLetters] at small tails
        obtain rfl : rest = others := tails
        exact ⟨first, second, rest, letters, otherLetters, Option.some.inj small⟩

instance (name other : String) : Decidable (AlikeButForCase name other) :=
  decidable_of_iff _ alikeButForCase_iff.symm

/-- The lower case of a letter is one letter, but for the dotted capital letter. -/
theorem lowerCase_eq_singleton_or (c : Char) :
    (∃ small, lowerCase c = [small]) ∨ lowerCase c = ['i', '\u0307'] := by
  unfold lowerCase
  split
  · exact .inl ⟨_, rfl⟩
  · unfold caseCounterpart
    split
    next codes found =>
      have entry := mem_of_lookup_eq_some found
      rw [lowerSequences, List.mem_singleton, Prod.mk.injEq] at entry
      rw [entry.2]
      exact .inr (by decide)
    next =>
      split
      · exact .inl ⟨_, rfl⟩
      · exact .inl ⟨_, rfl⟩

private theorem toList_lowerFirst {name : String} {first : Char} {rest : List Char}
    (letters : name.toList = first :: rest) :
    (lowerFirst name).toList = lowerCase first ++ rest := by
  rw [lowerFirst, changeFirst, letters, String.toList_ofList]

/-- Without the dot that the dotted capital letter leaves behind, the lower case of
the first letter can be told from the other letters. -/
theorem lowerCase_append_inj {first second : Char} {rest others : List Char}
    (undotted : '\u0307' ∉ rest) (otherUndotted : '\u0307' ∉ others) :
    lowerCase first ++ rest = lowerCase second ++ others ↔
      lowerCase first = lowerCase second ∧ rest = others := by
  constructor
  · intro same
    -- one letter against the dotted two would put the dot among the other letters
    rcases lowerCase_eq_singleton_or first with ⟨small, single⟩ | dotted
    · rcases lowerCase_eq_singleton_or second with ⟨otherSmall, otherSingle⟩ | otherDotted
      · rw [single, otherSingle, List.singleton_append, List.singleton_append,
          List.cons.injEq] at same
        exact ⟨by rw [single, otherSingle, same.1], same.2⟩
      · rw [single, otherDotted, List.singleton_append, List.cons_append, List.cons.injEq] at same
        rw [same.2] at undotted
        exact absurd List.mem_cons_self undotted
    · rcases lowerCase_eq_singleton_or second with ⟨otherSmall, otherSingle⟩ | otherDotted
      · rw [dotted, otherSingle, List.singleton_append, List.cons_append, List.cons.injEq] at same
        rw [← same.2] at otherUndotted
        exact absurd List.mem_cons_self otherUndotted
      · rw [dotted, otherDotted] at same
        exact ⟨by rw [dotted, otherDotted], List.append_cancel_left same⟩
  · rintro ⟨small, rfl⟩
    rw [small]

/-- Two names become one script name iff they only differ in the case of the first
letter. -/
theorem lowerFirst_eq_iff {name other : String} (identifier : CanBeIdentifier name)
    (otherIdentifier : CanBeIdentifier other) :
    lowerFirst name = lowerFirst other ↔ AlikeButForCase name other := by
  obtain ⟨first, rest, letters⟩ := List.exists_cons_of_ne_nil (isWord_iff.mp identifier.word).1
  obtain ⟨second, others, otherLetters⟩ :=
    List.exists_cons_of_ne_nil (isWord_iff.mp otherIdentifier.word).1
  have undotted : '\u0307' ∉ rest := fun member =>
    identifier.undotted (by rw [letters]; exact List.mem_cons_of_mem first member)
  have otherUndotted : '\u0307' ∉ others := fun member =>
    otherIdentifier.undotted (by rw [otherLetters]; exact List.mem_cons_of_mem second member)
  rw [← String.toList_inj, toList_lowerFirst letters, toList_lowerFirst otherLetters,
    lowerCase_append_inj undotted otherUndotted]
  constructor
  · rintro ⟨small, rfl⟩
    exact ⟨first, second, rest, letters, otherLetters, small⟩
  · rintro ⟨c, d, letters', sameLetters, otherSame, small⟩
    rw [letters, List.cons.injEq] at sameLetters
    rw [otherLetters, List.cons.injEq] at otherSame
    obtain ⟨rfl, rfl⟩ := sameLetters
    obtain ⟨rfl, rfl⟩ := otherSame
    exact ⟨small, rfl⟩

/-- No two of the functions have names that only differ in the case of the first
letter. -/
def AreApartInScripts (functions : List ExportedFunction) : Prop :=
  functions.Pairwise fun function later => ¬ AlikeButForCase function.name later.name

instance (functions : List ExportedFunction) : Decidable (AreApartInScripts functions) :=
  inferInstanceAs (Decidable (functions.Pairwise _))

private theorem nodup_scriptNames_iff {functions : List ExportedFunction}
    (identifiers : ∀ function ∈ functions, CanBeIdentifier function.name) :
    (functions.map ExportedFunction.scriptName).Nodup ↔ AreApartInScripts functions := by
  rw [List.Nodup, List.pairwise_map, AreApartInScripts]
  apply List.Pairwise.iff_of_mem
  intro function later member laterMember
  exact not_congr (lowerFirst_eq_iff (identifiers function member) (identifiers later laterMember))

/-! ## Registered names -/

namespace Native

/-- The registrations that the lines of the function that registers callbacks make. -/
def readRegistrations (lines : List String) : Option (List (String × String)) :=
  registrations? (phrases (tokens (fileText lines)))

theorem readRegistrations_initFunction {functions : List ExportedFunction}
    (named : ∀ function ∈ functions, isWord function.name = true) :
    readRegistrations (initFunction functions) =
      some (functions.map fun function => (function.scriptName, wrapperName function)) := by
  have joined : tokens (fileText (initFunction functions)) = (initPhrases functions).flatten :=
    tokens_fileText (by simp [initFunction]) (readsLines_initFunction named).reads
  have cut := phrases_flatten_append (isPhrase_initPhrases functions) []
  rw [List.append_nil, ← joined] at cut
  rw [readRegistrations, cut, registrations?_initPhrases]

/-- The callback that scripts reach under a name: a later registration replaces an
earlier one. -/
def reached? (registered : List (String × String)) (script : String) : Option String :=
  registered.reverse.lookup script

private theorem wrapperName_inj {function other : ExportedFunction} :
    wrapperName function = wrapperName other ↔ function.name = other.name :=
  String.append_left_inj _

/-- A function is reached under its script name unless a later one has the same. -/
theorem reached?_scriptName_iff {before later : List ExportedFunction} {function : ExportedFunction}
    (distinct : ((before ++ function :: later).map ExportedFunction.name).Nodup) :
    reached? ((before ++ function :: later).map fun function =>
        (function.scriptName, wrapperName function)) function.scriptName =
      some (wrapperName function) ↔
    ∀ other ∈ later, function.scriptName ≠ other.scriptName := by
  let entry (function : ExportedFunction) := (function.scriptName, wrapperName function)
  have reversed : ((before ++ function :: later).map entry).reverse =
      (later.map entry).reverse ++ entry function :: (before.map entry).reverse := by
    simp
  -- an entry of another function names another callback
  have foreign : ((later.map entry).reverse).lookup function.scriptName ≠
      some (wrapperName function) := by
    intro found
    have inLater := List.mem_reverse.mp (mem_of_lookup_eq_some found)
    obtain ⟨other, member, same⟩ := List.mem_map.mp inLater
    have sameName : other.name = function.name := wrapperName_inj.mp (Prod.mk.inj same).2
    rw [List.map_append, List.map_cons, List.nodup_middle, List.nodup_cons, ← sameName] at distinct
    exact distinct.1 (List.mem_append_right _ (List.mem_map_of_mem member))
  have unfound : ((later.map entry).reverse).lookup function.scriptName = none ↔
      ∀ other ∈ later, function.scriptName ≠ other.scriptName := by
    simp [List.lookup_eq_none_iff, entry]
  rw [reached?, reversed, List.lookup_append, List.lookup_cons_self, Option.or_eq_some_iff,
    or_iff_right foreign, unfound, and_iff_left rfl]

/-- Every function is reached under its own script name iff no two functions have the
same. -/
theorem forall_reached?_iff {functions : List ExportedFunction}
    (distinct : (functions.map ExportedFunction.name).Nodup) :
    (∀ function ∈ functions,
      reached? (functions.map fun function => (function.scriptName, wrapperName function))
        function.scriptName = some (wrapperName function)) ↔
      (functions.map ExportedFunction.scriptName).Nodup := by
  rw [List.Nodup, List.pairwise_map, Traversal.pairwise_iff_forall_split]
  constructor
  · rintro reached before function later rfl
    exact (reached?_scriptName_iff distinct).mp (reached function (by simp))
  · intro apart function member
    obtain ⟨before, later, rfl⟩ := List.append_of_mem member
    exact (reached?_scriptName_iff distinct).mpr (apart before function later rfl)

end Native

/-! ## Member names -/

namespace Declaration

/-- The name that a line of the interface gives to a member.  A line of documentation
has a mark in front and names none. -/
def memberName? (line : String) : Option String :=
  let front := (line.toList.dropWhile (· == ' ')).takeWhile isWordCharacter
  if front = [] then none else some (String.ofList front)

def memberNames (lines : List String) : List String :=
  lines.filterMap memberName?

private theorem memberName?_of_mark {line : String} {blanks rest : List Char} {c : Char}
    (characters : line.toList = blanks ++ c :: rest) (blank : ∀ b ∈ blanks, b = ' ')
    (noBlank : c ≠ ' ') (mark : isWordCharacter c = false) : memberName? line = none := by
  have dropped : line.toList.dropWhile (· == ' ') = c :: rest := by
    rw [characters, List.dropWhile_append_of_pos fun b member => beq_iff_eq.mpr (blank b member),
      List.dropWhile_cons_of_neg (by simpa using noBlank)]
  rw [memberName?, dropped, List.takeWhile_cons_of_neg (by rw [mark]; exact Bool.false_ne_true)]
  rfl

private theorem memberNames_documentationBlock (documentation : String) :
    memberNames ((documentationBlock documentation).map (indentation ++ ·)) = [] := by
  have line (characters : List Char) :
      memberName? (indentation ++ documentationLine characters) = none := by
    unfold documentationLine
    split
    · decide
    · have stars : (indentation ++ (" * " ++ String.ofList (breakBlockEnds characters))).toList =
          [' ', ' ', ' '] ++ '*' :: ' ' :: breakBlockEnds characters := by
        simp [String.toList_append, indentation]
      exact memberName?_of_mark stars (by simp) (by decide) (by decide)
  have opening : memberName? (indentation ++ "/**") = none := by decide
  have closing : memberName? (indentation ++ " */") = none := by decide
  unfold documentationBlock
  split
  · rfl
  · simp [memberNames, opening, closing, line]

private theorem memberName?_member {name : String} (named : isWord name = true) (rest : String) :
    memberName? (indentation ++ (name ++ ": (" ++ rest)) = some name := by
  obtain ⟨filled, word⟩ := isWord_iff.mp named
  obtain ⟨first, others, letters⟩ := List.exists_cons_of_ne_nil filled
  have noBlank : first ≠ ' ' := by
    rintro rfl
    have isWord := word ' ' (by rw [letters]; exact List.mem_cons_self)
    revert isWord
    decide
  have characters : (indentation ++ (name ++ ": (" ++ rest)).toList =
      [' ', ' '] ++ (name.toList ++ ':' :: ' ' :: '(' :: rest.toList) := by
    simp [String.toList_append, indentation]
  have dropped : (indentation ++ (name ++ ": (" ++ rest)).toList.dropWhile (· == ' ') =
      name.toList ++ ':' :: ' ' :: '(' :: rest.toList := by
    rw [characters, List.dropWhile_append_of_pos (by simp), letters, List.cons_append,
      List.dropWhile_cons_of_neg (by simpa using noBlank)]
  have front : (name.toList ++ ':' :: ' ' :: '(' :: rest.toList).takeWhile isWordCharacter =
      name.toList := by
    rw [List.takeWhile_append_of_pos word, List.takeWhile_cons_of_neg (by decide), List.append_nil]
  rw [memberName?, dropped, front, if_neg filled, String.ofList_toList]

/-- The lines of a member name it once, whatever its documentation, its parameters and
its result are. -/
theorem memberNames_memberLines {function : ExportedFunction} (named : isWord function.name = true)
    {lines : List String} (made : memberLines function = .ok lines) :
    memberNames lines = [function.scriptName] := by
  obtain ⟨line, memberMade, rfl⟩ := Traversal.map_eq_ok_iff.mp made
  obtain ⟨parameters, -, memberMade⟩ := Traversal.bind_eq_ok_iff.mp memberMade
  obtain ⟨result, -, memberMade⟩ := Traversal.bind_eq_ok_iff.mp memberMade
  cases memberMade
  have script : isWord function.scriptName = true := isWord_lowerFirst named
  have member := memberName?_member script
    (String.intercalate ", " parameters ++ ") => " ++ result ++ ";")
  have documented := memberNames_documentationBlock function.documentation
  simp only [memberNames, String.append_assoc] at documented member ⊢
  rw [List.map_append, List.filterMap_append, documented, List.map_singleton,
    List.filterMap_cons_some member]
  rfl

/-- The lines between the braces of the interface name one member for each function,
in their order. -/
theorem memberNames_intercalate {functions : List ExportedFunction}
    (named : ∀ function ∈ functions, isWord function.name = true) {blocks : List (List String)}
    (made : functions.mapM memberLines = .ok blocks) :
    memberNames ([""].intercalate blocks) = functions.map ExportedFunction.scriptName := by
  induction functions generalizing blocks with
  | nil =>
      cases made
      rfl
  | cons function rest inductionHypothesis =>
      obtain ⟨lines, others, first, restMade, rfl⟩ := Traversal.mapM_cons_eq_ok_iff.mp made
      have alone := memberNames_memberLines (named function (by simp)) first
      have back := inductionHypothesis (fun other member => named other (by simp [member])) restMade
      rw [List.map_cons]
      cases others with
      | nil =>
          rw [← back, List.intercalate_singleton, alone]
          rfl
      | cons next others =>
          have blank : memberNames [""] = [] := by decide
          rw [List.intercalate_cons_cons, memberNames, List.filterMap_append,
            List.filterMap_append]
          simp only [memberNames] at alone back blank
          rw [alone, blank, back]
          rfl

end Declaration

/-! ## Functions that scripts reach -/

/-- When scripts reach every exported function.  For all functions with pairwise
distinct names that can be Go identifiers: the registered names are pairwise distinct,
every function is reached under its own script name, and the names of the members of
the interface are pairwise distinct, each exactly if no two names only differ in the
case of the first letter. -/
theorem scripts_reach_every_function_iff {functions : List ExportedFunction}
    (identifiers : ∀ function ∈ functions, CanBeIdentifier function.name)
    (distinct : (functions.map ExportedFunction.name).Nodup) :
    ∃ registered,
      Native.readRegistrations (Native.initFunction functions) = some registered ∧
      ((registered.map Prod.fst).Nodup ↔ AreApartInScripts functions) ∧
      ((∀ function ∈ functions,
          Native.reached? registered function.scriptName = some (Native.wrapperName function)) ↔
        AreApartInScripts functions) ∧
      ∀ blocks, functions.mapM Declaration.memberLines = .ok blocks →
        ((Declaration.memberNames ([""].intercalate blocks)).Nodup ↔
          AreApartInScripts functions) := by
  have named (function : ExportedFunction) (member : function ∈ functions) :
      isWord function.name = true :=
    (identifiers function member).word
  have apart := nodup_scriptNames_iff identifiers
  refine ⟨_, Native.readRegistrations_initFunction named, ?_, ?_, ?_⟩
  · rw [List.map_map]
    exact apart
  · exact (Native.forall_reached?_iff distinct).trans apart
  · intro blocks made
    rw [Declaration.memberNames_intercalate named made]
    exact apart

/-- Names that differ in the case of a later letter, or in more than the case of the
first. -/
def similarFunctions : List ExportedFunction :=
  [ { name := "Sum", parameters := [⟨"values", some .text⟩], result := some .numeric },
    { name := "SUM", documentation := "sum: () => void;" },
    { name := "Summe" } ]

theorem similarFunctions_reached :
    ∃ registered,
      Native.readRegistrations (Native.initFunction similarFunctions) = some registered ∧
      (registered.map Prod.fst).Nodup ∧
      (∀ function ∈ similarFunctions,
        Native.reached? registered function.scriptName = some (Native.wrapperName function)) ∧
      ∃ blocks, similarFunctions.mapM Declaration.memberLines = .ok blocks ∧
        (Declaration.memberNames ([""].intercalate blocks)).Nodup := by
  have identifiers : ∀ function ∈ similarFunctions, CanBeIdentifier function.name := by
    simp only [similarFunctions, List.forall_mem_cons, List.not_mem_nil, false_implies,
      implies_true, and_true]
    exact ⟨⟨by decide, by decide⟩, ⟨by decide, by decide⟩, ⟨by decide, by decide⟩⟩
  have apart : AreApartInScripts similarFunctions := by decide
  obtain ⟨registered, read, registeredOnce, reached, membersOnce⟩ :=
    scripts_reach_every_function_iff identifiers (by decide)
  exact ⟨registered, read, registeredOnce.mpr apart, reached.mpr apart, _, rfl,
    (membersOnce _ rfl).mpr apart⟩

def caseTwins : List ExportedFunction :=
  [{ name := "Sum" }, { name := "sum" }]

/-- Two functions that Go tells apart are registered under one name, and the later
hides the earlier. -/
theorem caseTwins_collide :
    (∀ function ∈ caseTwins, CanBeIdentifier function.name) ∧
    (caseTwins.map ExportedFunction.name).Nodup ∧
    ∃ registered blocks,
      Native.readRegistrations (Native.initFunction caseTwins) = some registered ∧
      caseTwins.mapM Declaration.memberLines = .ok blocks ∧
      ¬ (registered.map Prod.fst).Nodup ∧
      ¬ (Declaration.memberNames ([""].intercalate blocks)).Nodup ∧
      ∃ function ∈ caseTwins,
        Native.reached? registered function.scriptName ≠ some (Native.wrapperName function) := by
  have identifiers : ∀ function ∈ caseTwins, CanBeIdentifier function.name := by
    simp only [caseTwins, List.forall_mem_cons, List.not_mem_nil, false_implies, implies_true,
      and_true]
    exact ⟨⟨by decide, by decide⟩, ⟨by decide, by decide⟩⟩
  have read := Native.readRegistrations_initFunction fun function member =>
    (identifiers function member).word
  refine ⟨identifiers, by decide, _, _, read, rfl, by decide, by decide, ?_⟩
  exact ⟨_, List.mem_cons_self, by decide⟩

end AddonBindings

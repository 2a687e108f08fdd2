import Mathlib.Algebra.GroupWithZero.Nat
import AddonBindings.Proofs.Boundary.Classification
import AddonBindings.Proofs.Datum.Writing
import AddonBindings.Proofs.Output.FileNames
import AddonBindings.Proofs.Text.LineBreaks
import AddonBindings.Proofs.Typing

/-!
Contract: which names an addon may have, and what the generated files make of them.

Owns:
- the accepted names, told without the check;
- how many lines generated text has, and which part of them the name is answerable for;
- the capstone: the accepted names, the failure for every other value, and what a name
  does to the lines and to the names of the generated files.

Does not own: the check of the settings around the name, which is in
`AddonBindings.Proofs.Project.Acceptance`.
-/

namespace AddonBindings

namespace Text

variable {cs : List Char} {line text : String} {lines : List String}

/-! ## Blanks -/

def IsBlankFree (text : String) : Prop :=
  ∀ c ∈ text.toList, isBlank c = false

instance : Decidable (IsBlankFree text) :=
  List.decidableBAll (fun c => isBlank c = false) text.toList

private theorem isBlankFree_append_iff {first second : String} :
    IsBlankFree (first ++ second) ↔ IsBlankFree first ∧ IsBlankFree second := by
  rw [IsBlankFree, String.toList_append]
  exact List.forall_mem_append

/-! ## Line counts -/

def lineCount (text : String) : Nat :=
  (splitLines text.toList).length

/-- How many lines there are in a line of a file, which is one unless it holds line breaks. -/
def linesWithin (line : String) : Nat :=
  (splitLines (line.toList ++ ['\n'])).length

private theorem lineCount_fileText (filled : lines ≠ []) :
    lineCount (fileText lines) = (lines.map linesWithin).sum := by
  rw [lineCount, toList_fileText filled]
  clear filled
  induction lines with
  | nil => rfl
  | cons line rest inductionHypothesis =>
      rw [linesText_cons, splitLines_append_lineFeed, List.length_append, inductionHypothesis,
        List.map_cons, List.sum_cons, linesWithin]

def lineFeeds (text : String) : Nat :=
  text.toList.count '\n'

private theorem lineFeeds_append (first second : String) :
    lineFeeds (first ++ second) = lineFeeds first + lineFeeds second := by
  rw [lineFeeds, String.toList_append, List.count_append]
  rfl

/-- The only line breaks in the text are line feeds. -/
def BreaksAtLineFeeds (text : String) : Prop :=
  ∀ c ∈ text.toList, isLineBreak c = true → c = '\n'

instance : Decidable (BreaksAtLineFeeds text) :=
  List.decidableBAll (fun c => isLineBreak c = true → c = '\n') text.toList

theorem BreaksAtLineFeeds.append {first second : String} (firstBreaks : BreaksAtLineFeeds first)
    (secondBreaks : BreaksAtLineFeeds second) : BreaksAtLineFeeds (first ++ second) := by
  rw [BreaksAtLineFeeds, String.toList_append]
  exact List.forall_mem_append.mpr ⟨firstBreaks, secondBreaks⟩

private theorem length_splitLines_of_breaks (breaks : ∀ c ∈ cs, isLineBreak c = true → c = '\n') :
    (splitLines (cs ++ ['\n'])).length = cs.count '\n' + 1 := by
  induction cs with
  | nil => rfl
  | cons c rest inductionHypothesis =>
      obtain ⟨first, others⟩ := List.forall_mem_cons.mp breaks
      have restCount := inductionHypothesis others
      by_cases isFeed : c = '\n'
      · rw [isFeed, List.cons_append, splitLines_lineFeed, List.length_cons, restCount,
          List.count_cons_self]
      · have noBreak : isLineBreak c = false := Bool.eq_false_iff.mpr (mt first isFeed)
        rw [List.cons_append, splitLines_cons noBreak, List.count_cons_of_ne isFeed, ← restCount]
        cases found : splitLines (rest ++ ['\n']) with
        | nil => exact absurd found (splitLines_ne_nil (by simp))
        | cons line more => rfl

private theorem linesWithin_eq (breaks : BreaksAtLineFeeds line) :
    linesWithin line = lineFeeds line + 1 :=
  length_splitLines_of_breaks breaks

private theorem breaksAtLineFeeds_of_isOneLine (oneLine : IsOneLine text.toList) :
    lineFeeds text = 0 ∧ BreaksAtLineFeeds text := by
  refine ⟨List.count_eq_zero.mpr oneLine.lineFeed_not_mem, fun c member isBreak => ?_⟩
  rw [oneLine c member] at isBreak
  cases isBreak

/-- A line has the line feeds of what is put into it. -/
theorem linesWithin_around {before middle behind : String} (breaks : BreaksAtLineFeeds middle)
    (beforeOneLine : IsOneLine before.toList) (behindOneLine : IsOneLine behind.toList) :
    linesWithin (before ++ middle ++ behind) = lineFeeds middle + 1 := by
  obtain ⟨beforeFeeds, beforeBreaks⟩ := breaksAtLineFeeds_of_isOneLine beforeOneLine
  obtain ⟨behindFeeds, behindBreaks⟩ := breaksAtLineFeeds_of_isOneLine behindOneLine
  rw [linesWithin_eq ((beforeBreaks.append breaks).append behindBreaks), lineFeeds_append,
    lineFeeds_append, beforeFeeds, behindFeeds, Nat.zero_add, Nat.add_zero]

end Text

open Output Text Traversal

variable {addon other text : String} {functions : List ExportedFunction}

/-! ## The accepted names -/

/-- An ASCII letter or underscore, and ASCII letters, digits and underscores after it. -/
def IsIdentifier (name : String) : Prop :=
  TypeExpression.isAsciiName name.toList = true

instance {name : String} : Decidable (IsIdentifier name) :=
  inferInstanceAs (Decidable (TypeExpression.isAsciiName name.toList = true))

/-- The names of addons are the identifiers, and the identifiers with a line feed after them. -/
inductive IsAddonName : String → Prop
  | whole {name : String} (isIdentifier : IsIdentifier name) : IsAddonName name
  | lineFeed {name : String} (isIdentifier : IsIdentifier name) : IsAddonName (name ++ "\n")

private theorem exists_isAddonName_of_check (accepted : isAddonName addon.toList = true) :
    IsAddonName addon := by
  cases characters : addon.toList with
  | nil => rw [characters] at accepted; cases accepted
  | cons first rest =>
      rw [characters, isAddonName, Bool.and_eq_true] at accepted
      obtain ⟨isStart, ending⟩ := accepted
      have split := List.takeWhile_append_dropWhile (p := isAsciiNameRest) (l := rest)
      have named : TypeExpression.isAsciiName (first :: rest.takeWhile isAsciiNameRest) = true := by
        rw [TypeExpression.isAsciiName, isStart, List.all_takeWhile]
        rfl
      split at ending
      · rename_i nothing
        rw [nothing, List.append_nil] at split
        rw [split, ← characters] at named
        exact .whole named
      · rename_i lineFeed
        rw [lineFeed] at split
        have whole : addon = String.ofList (first :: rest.takeWhile isAsciiNameRest) ++ "\n" := by
          rw [← String.toList_inj, characters, String.toList_append, String.toList_ofList,
            List.cons_append]
          exact congrArg (first :: ·) split.symm
        rw [whole]
        exact .lineFeed (by rw [IsIdentifier, String.toList_ofList]; exact named)
      · cases ending

private theorem isAddonName_append {front ending : List Char}
    (isName : TypeExpression.isAsciiName front = true) (isEnding : ending = [] ∨ ending = ['\n']) :
    isAddonName (front ++ ending) = true := by
  cases front with
  | nil => cases isName
  | cons first rest =>
      rw [TypeExpression.isAsciiName, Bool.and_eq_true, List.all_eq_true] at isName
      have ends : ∀ c ∈ ending.head?, isAsciiNameRest c = false := by
        rcases isEnding with rfl | rfl
        · rintro c ⟨⟩
        · rintro c ⟨⟩
          decide
      rw [List.cons_append, isAddonName, isName.1, dropWhile_append_of_head? isName.2 ends]
      rcases isEnding with rfl | rfl <;> rfl

theorem isAddonName_iff : isAddonName addon.toList = true ↔ IsAddonName addon := by
  constructor
  · exact exists_isAddonName_of_check
  · intro isName
    cases isName with
    | whole isIdentifier =>
        rw [← List.append_nil addon.toList]
        exact isAddonName_append isIdentifier (.inl rfl)
    | lineFeed isIdentifier =>
        rw [String.toList_append]
        exact isAddonName_append isIdentifier (.inr rfl)

private theorem checkAddonName_cases (name : Datum) :
    (∃ addon, name = .text addon ∧ IsAddonName addon ∧ checkAddonName name = .ok addon) ∨
      (∀ addon, name = .text addon → ¬ IsAddonName addon) ∧
        checkAddonName name = .error (refusedName name) := by
  cases name with
  | text addon =>
      by_cases isName : isAddonName addon.toList = true
      · exact .inl ⟨addon, rfl, isAddonName_iff.mp isName, if_pos isName⟩
      · refine .inr ⟨?_, if_neg isName⟩
        rintro _ ⟨⟩
        exact mt isAddonName_iff.mpr isName
  | _ =>
      refine .inr ⟨?_, rfl⟩
      rintro _ ⟨⟩

theorem checkAddonName_eq_ok_iff {name : Datum} :
    checkAddonName name = .ok addon ↔ name = .text addon ∧ IsAddonName addon := by
  rcases checkAddonName_cases name with ⟨found, rfl, isName, checked⟩ | ⟨noName, refused⟩
  · rw [checked]
    constructor
    · rintro ⟨⟩
      exact ⟨rfl, isName⟩
    · rintro ⟨⟨⟩, -⟩
      rfl
  · rw [refused]
    constructor
    · rintro ⟨⟩
    · rintro ⟨isText, isName⟩
      exact absurd isName (noName addon isText)

private theorem checkAddonName_eq_error_iff {name : Datum} {fault : NameFault} :
    checkAddonName name = .error fault ↔
      (∀ addon, name = .text addon → ¬ IsAddonName addon) ∧ fault = refusedName name := by
  rcases checkAddonName_cases name with ⟨found, rfl, isName, checked⟩ | ⟨noName, refused⟩
  · rw [checked]
    constructor
    · rintro ⟨⟩
    · rintro ⟨noName, -⟩
      exact absurd isName (noName found rfl)
  · rw [refused]
    constructor
    · rintro ⟨⟩
      exact ⟨noName, rfl⟩
    · rintro ⟨-, rfl⟩
      rfl

/-- A value is refused in a report exactly if it is no name and has a text, which the
report shows. -/
theorem checkAddonName_eq_report_iff {name : Datum} {fault : GenerationFault} :
    checkAddonName name = .error (.generation fault) ↔
      (∀ addon, name = .text addon → ¬ IsAddonName addon) ∧
        ∃ shown, name.written? = some shown ∧
          fault = ⟨.configuration (.invalidName shown), none, none⟩ := by
  rw [checkAddonName_eq_error_iff, refusedName]
  cases name.written? <;> simp

/-- A value is refused without a report exactly if it holds a number that is too long to be
shown. -/
theorem checkAddonName_eq_unwritable_iff {name : Datum} :
    checkAddonName name = .error .unwritable ↔ name.HoldsLongNumber := by
  rw [checkAddonName_eq_error_iff, ← Datum.written?_eq_none_iff, refusedName]
  constructor
  · rintro ⟨-, refused⟩
    cases written : name.written? with
    | none => rfl
    | some shown =>
        rw [written] at refused
        cases refused
  · intro unwritten
    rw [unwritten]
    refine ⟨?_, rfl⟩
    rintro addon rfl
    cases unwritten

/-! ## Line feeds and blanks in names -/

theorem IsAddonName.exists_ending (isName : IsAddonName addon) :
    ∃ identifier ending, addon = identifier ++ ending ∧ IsIdentifier identifier ∧
      (ending = "" ∨ ending = "\n") := by
  cases isName with
  | whole isIdentifier => exact ⟨addon, "", String.append_empty.symm, isIdentifier, .inl rfl⟩
  | @lineFeed name isIdentifier => exact ⟨name, "\n", rfl, isIdentifier, .inr rfl⟩

/-- No line break is in a text that letters, digits and underscores are put in front of,
but the ones it has itself. -/
theorem lineFeeds_of_nameCharacters {text ending : String} {front : List Char}
    (split : text.toList = front ++ ending.toList) (isRest : ∀ c ∈ front, isAsciiNameRest c = true)
    (breaks : BreaksAtLineFeeds ending) :
    lineFeeds text = lineFeeds ending ∧ BreaksAtLineFeeds text := by
  have noBlank {c : Char} (member : c ∈ front) : isBlank c = false :=
    isBlank_of_isAsciiNameRest (isRest c member)
  constructor
  · have noFeed : '\n' ∉ front := by
      intro member
      cases noBlank member
    rw [lineFeeds, split, List.count_append, List.count_eq_zero.mpr noFeed, Nat.zero_add]
    rfl
  · intro c member isBreak
    rw [split, List.mem_append] at member
    rcases member with inFront | inEnding
    · cases (isBlank_of_isLineBreak isBreak).symm.trans (noBlank inFront)
    · exact breaks c inEnding isBreak

private theorem breaksAtLineFeeds_of_ending {ending : String}
    (isEnding : ending = "" ∨ ending = "\n") :
    BreaksAtLineFeeds ending := by
  rcases isEnding with rfl | rfl <;> decide

theorem IsAddonName.breaksAtLineFeeds (isName : IsAddonName addon) : BreaksAtLineFeeds addon := by
  obtain ⟨identifier, ending, rfl, isIdentifier, isEnding⟩ := isName.exists_ending
  exact (lineFeeds_of_nameCharacters String.toList_append
    (fun c => isAsciiNameRest_of_mem isIdentifier) (breaksAtLineFeeds_of_ending isEnding)).2

/-- The first character of an identifier is changed to a character of identifiers. -/
theorem IsIdentifier.toList_upperFirst {identifier : String}
    (isIdentifier : IsIdentifier identifier) (behind : String) :
    ∃ changed, (upperFirst (identifier ++ behind)).toList = changed ++ behind.toList ∧
      ∀ c ∈ changed, isAsciiNameRest c = true := by
  rw [IsIdentifier] at isIdentifier
  cases characters : identifier.toList with
  | nil => rw [characters] at isIdentifier; cases isIdentifier
  | cons first rest =>
      rw [characters] at isIdentifier
      have isRest : isAsciiNameRest first = true :=
        isAsciiNameRest_of_mem isIdentifier List.mem_cons_self
      have ascii := lt_of_isAsciiNameRest isRest
      have changedIsRest := isAsciiNameRest_toUpper first.toNat ascii
      rw [Char.ofNat_toNat] at changedIsRest
      refine ⟨first.toUpper :: rest, ?_, List.forall_mem_cons.mpr ⟨changedIsRest isRest, ?_⟩⟩
      · rw [upperFirst, changeFirst, String.toList_append, characters, List.cons_append,
          String.toList_ofList, upperCase, if_pos ascii]
        rfl
      · exact fun c member =>
          isAsciiNameRest_of_mem isIdentifier (List.mem_cons_of_mem first member)

/-- The name of the interface has the line feeds of the addon's name. -/
theorem IsAddonName.lineFeeds_interfaceName (isName : IsAddonName addon) :
    lineFeeds (Declaration.interfaceName addon) = lineFeeds addon ∧
      BreaksAtLineFeeds (Declaration.interfaceName addon) := by
  obtain ⟨identifier, ending, rfl, isIdentifier, isEnding⟩ := isName.exists_ending
  have endingBreaks := breaksAtLineFeeds_of_ending isEnding
  obtain ⟨changed, split, isRest⟩ := isIdentifier.toList_upperFirst ending
  have interfaceFeeds := lineFeeds_of_nameCharacters split isRest endingBreaks
  have parts : (identifier ++ ending).toList = identifier.toList ++ ending.toList :=
    String.toList_append
  have addonFeeds := lineFeeds_of_nameCharacters parts
    (fun c => isAsciiNameRest_of_mem isIdentifier) endingBreaks
  exact ⟨interfaceFeeds.1.trans addonFeeds.1.symm, interfaceFeeds.2⟩

/-- An accepted name is an identifier iff it has no line feed, and iff no blank is in it. -/
theorem IsAddonName.isIdentifier_iff (isName : IsAddonName addon) :
    (IsIdentifier addon ↔ lineFeeds addon = 0) ∧
      (IsIdentifier addon ↔ IsBlankFree addon) := by
  have noBlanks (isIdentifier : IsIdentifier addon) : IsBlankFree addon :=
    fun c member => isBlank_of_isAsciiNameRest (isAsciiNameRest_of_mem isIdentifier member)
  have noFeeds (isIdentifier : IsIdentifier addon) : lineFeeds addon = 0 := by
    rw [lineFeeds, List.count_eq_zero]
    intro isBreak
    cases noBlanks isIdentifier '\n' isBreak
  cases isName with
  | whole isIdentifier =>
      exact ⟨iff_of_true isIdentifier (noFeeds isIdentifier),
        iff_of_true isIdentifier (noBlanks isIdentifier)⟩
  | @lineFeed name isIdentifier =>
      have member : '\n' ∈ (name ++ "\n").toList := by
        rw [String.toList_append]
        exact List.mem_append_right _ List.mem_cons_self
      refine ⟨⟨noFeeds, fun noFeed => ?_⟩, noBlanks, fun free => ?_⟩
      · exact absurd member (List.count_eq_zero.mp noFeed)
      · cases free '\n' member

/-! ## Lines of the generated files -/

/-- The name stands in three lines of the native source. -/
theorem lineCount_nativeSource (isName : IsAddonName addon) (otherIsName : IsAddonName other)
    (made : Native.source functions addon = .ok text) :
    ∃ otherText, Native.source functions other = .ok otherText ∧
      lineCount text + 3 * lineFeeds other = lineCount otherText + 3 * lineFeeds addon := by
  have header {name : String} (named : IsAddonName name) :
      linesWithin ("#include \"../" ++ name ++ ".h\"") = lineFeeds name + 1 :=
    linesWithin_around named.breaksAtLineFeeds (by decide) (by decide)
  have opening {name : String} (named : IsAddonName name) :
      linesWithin ("namespace " ++ name ++ " \x7b") = lineFeeds name + 1 :=
    linesWithin_around named.breaksAtLineFeeds (by decide) (by decide)
  have closing {name : String} (named : IsAddonName name) :
      linesWithin ("\x7d  // namespace " ++ name) = lineFeeds name + 1 := by
    rw [← String.append_empty (s := "\x7d  // namespace " ++ name)]
    exact linesWithin_around named.breaksAtLineFeeds (by decide) (by decide)
  obtain ⟨wrappers, wrapped, same⟩ := bind_eq_ok_iff.mp made
  cases same
  refine ⟨Native.sourceText other functions wrappers,
    bind_eq_ok_iff.mpr ⟨wrappers, wrapped, rfl⟩, ?_⟩
  rw [Native.sourceText, Native.sourceText, lineCount_fileText (by simp),
    lineCount_fileText (by simp)]
  simp only [Native.headerIncludes, List.map_append, List.map_cons, List.map_nil, List.sum_append,
    List.sum_cons, List.sum_nil, List.cons_append, header isName, header otherIsName,
    opening isName, opening otherIsName, closing isName, closing otherIsName]
  omega

/-- The name of the interface stands in two lines of the declarations, and the name of the
addon in one of them. -/
theorem lineCount_declarationSource (isName : IsAddonName addon) (otherIsName : IsAddonName other)
    (made : Declaration.source functions addon = .ok text) :
    ∃ otherText, Declaration.source functions other = .ok otherText ∧
      lineCount text + 3 * lineFeeds other = lineCount otherText + 3 * lineFeeds addon := by
  have header {name : String} (named : IsAddonName name) :
      linesWithin ("export interface " ++ Declaration.interfaceName name ++ " \x7b") =
        lineFeeds name + 1 := by
    obtain ⟨feeds, breaks⟩ := named.lineFeeds_interfaceName
    rw [linesWithin_around breaks (by decide) (by decide), feeds]
  have binding {name : String} (named : IsAddonName name) :
      linesWithin ("const addon: " ++ Declaration.interfaceName name ++ " = require(\"" ++ name ++
        "\");") = 2 * lineFeeds name + 1 := by
    obtain ⟨feeds, interfaceBreaks⟩ := named.lineFeeds_interfaceName
    have frontOneLine : IsOneLine "const addon: ".toList := by decide
    have requireOneLine : IsOneLine " = require(\"".toList := by decide
    have behindOneLine : IsOneLine "\");".toList := by decide
    obtain ⟨requireFeeds, requireBreaks⟩ := breaksAtLineFeeds_of_isOneLine requireOneLine
    have middleBreaks := (interfaceBreaks.append requireBreaks).append named.breaksAtLineFeeds
    have around := linesWithin_around middleBreaks frontOneLine behindOneLine
    rw [lineFeeds_append, lineFeeds_append, feeds, requireFeeds] at around
    rw [← String.append_assoc, ← String.append_assoc] at around
    omega
  obtain ⟨members, listed, same⟩ := bind_eq_ok_iff.mp made
  cases same
  refine ⟨_, bind_eq_ok_iff.mpr ⟨members, listed, rfl⟩, ?_⟩
  rw [lineCount_fileText (by simp), lineCount_fileText (by simp)]
  simp only [Declaration.addonBinding, List.map_append, List.map_cons, List.map_nil,
    List.sum_append, List.sum_cons, List.sum_nil, header isName, header otherIsName, binding isName,
    binding otherIsName]
  omega

/-- Bindings are made under every accepted name if they are made under one, and only the line
feeds of the names make a difference to their lines. -/
theorem exists_generate_lineCount (otherIsName : IsAddonName other) {bindings : Bindings}
    (made : Bindings.generate functions (.text addon) = .ok bindings) :
    ∃ others, Bindings.generate functions (.text other) = .ok others ∧
      lineCount bindings.native + 3 * lineFeeds other =
        lineCount others.native + 3 * lineFeeds addon ∧
      lineCount bindings.declaration + 3 * lineFeeds other =
        lineCount others.declaration + 3 * lineFeeds addon := by
  obtain ⟨checked, named, rest⟩ := bind_eq_ok_iff.mp made
  have isName : IsAddonName addon := by
    obtain ⟨isText, isName⟩ := checkAddonName_eq_ok_iff.mp (ok_of_mapError named)
    cases isText
    exact isName
  rw [generate_eq (isAddonName_iff.mpr isName)] at made
  obtain ⟨native, nativeMade, made⟩ := bind_eq_ok_iff.mp made
  obtain ⟨declaration, declarationMade, same⟩ := bind_eq_ok_iff.mp made
  cases same
  obtain ⟨otherNative, otherNativeMade, nativeLines⟩ :=
    lineCount_nativeSource isName otherIsName (ok_of_mapError nativeMade)
  obtain ⟨otherDeclaration, otherDeclarationMade, declarationLines⟩ :=
    lineCount_declarationSource isName otherIsName (ok_of_mapError declarationMade)
  refine ⟨⟨otherNative, otherDeclaration⟩, ?_, nativeLines, declarationLines⟩
  rw [generate_eq (isAddonName_iff.mpr otherIsName), otherNativeMade, otherDeclarationMade]
  rfl

/-- **Names of addons.**  The accepted values are the texts that are an identifier as a whole
or up to one line feed at the end.  Every other value is refused in a report that shows it,
but for the values that hold a whole number too long to be shown: these are refused without
a report.  If bindings are made under one name, they are made under every name, and of two
names the one with a line feed more gives three lines more to each file.  So the number of
lines is the same under all identifiers; and the names of the two files hold no blank iff
the name is an identifier. -/
theorem addonNames_exact (name : Datum) (functions : List ExportedFunction)
    (directory : Files.Path) (addon : String) :
    (checkAddonName name = .ok addon ↔ name = .text addon ∧ IsAddonName addon) ∧
    (∀ fault, checkAddonName name = .error (.generation fault) ↔
      (∀ addon, name = .text addon → ¬ IsAddonName addon) ∧
        ∃ shown, name.written? = some shown ∧
          fault = ⟨.configuration (.invalidName shown), none, none⟩) ∧
    (checkAddonName name = .error .unwritable ↔ name.HoldsLongNumber) ∧
    (∀ other bindings,
      Bindings.generate functions (.text addon) = .ok bindings → IsAddonName other →
      ∃ others, Bindings.generate functions (.text other) = .ok others ∧
        lineCount bindings.native + 3 * lineFeeds other =
          lineCount others.native + 3 * lineFeeds addon ∧
        lineCount bindings.declaration + 3 * lineFeeds other =
          lineCount others.declaration + 3 * lineFeeds addon) ∧
    (IsAddonName addon →
      (IsIdentifier addon ↔ lineFeeds addon = 0) ∧
      nativePath directory addon = directory.child (nativeName addon) ∧
      declarationPath directory addon = directory.child (declarationName addon) ∧
      (IsIdentifier addon ↔ IsBlankFree (nativeName addon)) ∧
      (IsIdentifier addon ↔ IsBlankFree (declarationName addon))) := by
  refine ⟨checkAddonName_eq_ok_iff, fun _ => checkAddonName_eq_report_iff,
    checkAddonName_eq_unwritable_iff,
    fun _ _ made otherIsName => exists_generate_lineCount otherIsName made, fun isName => ?_⟩
  have accepted := isAddonName_iff.mpr isName
  obtain ⟨feeds, blanks⟩ := isName.isIdentifier_iff
  have nativeBlanks : IsBlankFree (nativeName addon) ↔ IsBlankFree addon :=
    isBlankFree_append_iff.trans (and_iff_left (by decide))
  have declarationBlanks : IsBlankFree (declarationName addon) ↔ IsBlankFree addon :=
    isBlankFree_append_iff.trans (and_iff_left (by decide))
  exact ⟨feeds, nativePath_eq accepted, declarationPath_eq accepted,
    blanks.trans nativeBlanks.symm, blanks.trans declarationBlanks.symm⟩

def loggingFunction : ExportedFunction :=
  { name := "Log", parameters := [⟨"line", some .text⟩] }

private theorem exists_generate_loggingFunction (isName : IsAddonName addon) :
    ∃ bindings, Bindings.generate [loggingFunction] (.text addon) = .ok bindings := by
  rw [exists_generate_eq_ok_iff (isAddonName_iff.mpr isName)]
  intro function member
  rw [List.mem_singleton.mp member]
  exact ⟨by decide, by decide⟩

theorem loggingFunction_named :
    ∃ bindings others,
      Bindings.generate [loggingFunction] (.text "calc") = .ok bindings ∧
      Bindings.generate [loggingFunction] (.text "math_2") = .ok others ∧
      lineCount bindings.native = lineCount others.native ∧
      lineCount bindings.declaration = lineCount others.declaration ∧
      IsBlankFree (nativeName "calc") ∧ IsBlankFree (declarationName "calc") := by
  have isIdentifier : IsIdentifier "calc" := by decide
  obtain ⟨-, -, -, generated, written⟩ :=
    addonNames_exact (.text "calc") [loggingFunction] ⟨.current, []⟩ "calc"
  obtain ⟨bindings, made⟩ := exists_generate_loggingFunction (.whole isIdentifier)
  obtain ⟨others, otherMade, nativeLines, declarationLines⟩ :=
    generated "math_2" bindings made (.whole (by decide))
  obtain ⟨-, -, -, native, declaration⟩ := written (.whole isIdentifier)
  exact ⟨bindings, others, made, otherMade, nativeLines, declarationLines,
    native.mp isIdentifier, declaration.mp isIdentifier⟩

/-- A name with a line feed is accepted.  It is no identifier, its files have blanks in their
names, and three lines more than under the name without the line feed. -/
theorem lineFeed_name_accepted :
    checkAddonName (.text "calc\n") = .ok "calc\n" ∧ ¬ IsIdentifier "calc\n" ∧
      ¬ IsBlankFree (nativeName "calc\n") ∧ ¬ IsBlankFree (declarationName "calc\n") ∧
      ∃ bindings others,
        Bindings.generate [loggingFunction] (.text "calc\n") = .ok bindings ∧
        Bindings.generate [loggingFunction] (.text "calc") = .ok others ∧
        lineCount bindings.native = lineCount others.native + 3 ∧
        lineCount bindings.declaration = lineCount others.declaration + 3 := by
  have isCalc : IsIdentifier "calc" := by decide
  have isName : IsAddonName "calc\n" := .lineFeed isCalc
  obtain ⟨bindings, made⟩ := exists_generate_loggingFunction isName
  obtain ⟨others, otherMade, nativeLines, declarationLines⟩ :=
    exists_generate_lineCount (.whole isCalc) made
  exact ⟨checkAddonName_eq_ok_iff.mpr ⟨rfl, isName⟩, by decide, by decide, by decide, bindings,
    others, made, otherMade, nativeLines, declarationLines⟩

end AddonBindings

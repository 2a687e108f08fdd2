import AddonBindings.Proofs.AddonNames
import AddonBindings.Proofs.Project.Expansion

/-!
Contract: which documents are settings.

Owns:
- what a value says about the patterns and about the output directory;
- the settings that a document states, and what is wrong with every other document;
- the capstone: the checks accept exactly the settings that a document states, and
  otherwise find the first thing that is wrong with it.

Does not own: which names an addon may have, which is in `AddonBindings.Proofs.AddonNames`,
and which patterns can be expanded.
-/

namespace AddonBindings.Settings

open Files Project Traversal

variable {value document : Datum} {entries : List (Datum × Datum)} {patterns : List String}
  {output source : String} {settings : Settings} {problem : ConfigurationProblem}

/-! ## The patterns -/

def ListsPatterns (value : Datum) (patterns : List String) : Prop :=
  value = .sequence (patterns.map .text) ∧ AreAcceptable patterns

/-- Why a value lists no patterns: it is no list with something in it, or something in it
is no text or an empty one, or else one of its texts is an absolute path. -/
inductive ArePatternsRefused (value : Datum) : ConfigurationProblem → Prop
  | noPatterns (noItems : ∀ items, value = .sequence items → items = []) :
      ArePatternsRefused value .noPatterns
  | emptyPattern {items : List Datum} {item : Datum} (isList : value = .sequence items)
      (member : item ∈ items) (noText : ∀ text, item = .text text → text = "") :
      ArePatternsRefused value .emptyPattern
  | absolutePattern {texts : List String} {text : String}
      (isList : value = .sequence (texts.map .text)) (filled : ∀ other ∈ texts, other ≠ "")
      (member : text ∈ texts) (absolute : (Path.ofText text).isAbsolute = true) :
      ArePatternsRefused value .absolutePattern

private theorem exists_of_texts?_eq_none {items : List Datum} (unlisted : texts? items = none) :
    ∃ item ∈ items, ∀ text, item = .text text → text = "" := by
  by_contra allFilled
  push Not at allFilled
  have listed : ∀ items : List Datum,
      (∀ item ∈ items, ∃ text, item = .text text ∧ text ≠ "") → texts? items ≠ none := by
    intro items each
    induction items with
    | nil => simp [texts?]
    | cons first rest inductionHypothesis =>
        obtain ⟨⟨text, rfl, filled⟩, restFilled⟩ := List.forall_mem_cons.mp each
        rw [texts?, if_neg (by simpa using filled)]
        simpa using inductionHypothesis restFilled
  exact listed items allFilled unlisted

private theorem arePatternsRefused_of_patternsOf (refused : patternsOf value = .error problem) :
    ArePatternsRefused value problem := by
  unfold patternsOf at refused
  split at refused
  · rename_i first rest
    split at refused
    · rename_i unlisted
      cases refused
      obtain ⟨item, member, noText⟩ := exists_of_texts?_eq_none unlisted
      exact .emptyPattern rfl member noText
    · rename_i texts listed
      split at refused
      · rename_i absolute
        cases refused
        obtain ⟨same, filled⟩ := texts?_eq_some_iff.mp listed
        obtain ⟨text, member, isAbsolute⟩ := List.any_eq_true.mp absolute
        exact .absolutePattern (congrArg Datum.sequence same) filled member isAbsolute
      · cases refused
  · rename_i noList
    cases refused
    refine .noPatterns ?_
    rintro (_ | ⟨first, rest⟩) isList
    · rfl
    · exact absurd isList (noList first rest)

private theorem patternsOf_of_arePatternsRefused (refused : ArePatternsRefused value problem) :
    patternsOf value = .error problem := by
  cases refused with
  | noPatterns noItems =>
      unfold patternsOf
      split
      · rename_i first rest
        exact absurd (noItems _ rfl) (List.cons_ne_nil first rest)
      · rfl
  | @emptyPattern items item isList member noText =>
      have unlisted : texts? items = none := by
        rw [Option.eq_none_iff_forall_ne_some]
        intro texts listed
        obtain ⟨rfl, filled⟩ := texts?_eq_some_iff.mp listed
        obtain ⟨text, isText, rfl⟩ := List.mem_map.mp member
        exact filled text isText (noText text rfl)
      cases items with
      | nil => cases member
      | cons first rest => rw [isList, patternsOf, unlisted]
  | @absolutePattern texts text isList filled member absolute =>
      have listed := texts?_eq_some_iff.mpr ⟨rfl, filled⟩
      have isAny : (texts.any fun other => (Path.ofText other).isAbsolute) = true :=
        List.any_eq_true.mpr ⟨text, member, absolute⟩
      cases texts with
      | nil => cases member
      | cons first rest =>
          rw [List.map_cons] at isList listed
          rw [isList, patternsOf, listed]
          exact if_pos isAny

/-! ## The output directory -/

/-- The values that name no output directory: besides null and the empty text they are
all other empty values, of whatever type. -/
inductive NamesNothing : Datum → Prop
  | null : NamesNothing .null
  | no : NamesNothing (.bool false)
  | zero : NamesNothing (.int 0)
  | zeroFloat {value : Float} (isZero : Decimal.isZero value = true) : NamesNothing (.float value)
  | noText : NamesNothing (.text "")
  | noBytes : NamesNothing (.bytes [])
  | noItems : NamesNothing (.sequence [])
  | noEntries : NamesNothing (.mapping [])
  | noMembers : NamesNothing (.set [])

theorem isEmpty_iff : value.isEmpty = true ↔ NamesNothing value := by
  constructor
  · intro isEmpty
    cases value with
    | null => exact .null
    | bool value =>
        cases value with
        | false => exact .no
        | true => cases isEmpty
    | int value =>
        rw [Datum.isEmpty, beq_iff_eq] at isEmpty
        rw [isEmpty]
        exact .zero
    | float value => exact .zeroFloat isEmpty
    | text value =>
        rw [Datum.isEmpty, String.isEmpty_iff] at isEmpty
        rw [isEmpty]
        exact .noText
    | bytes value =>
        rw [List.isEmpty_iff.mp isEmpty]
        exact .noBytes
    | sequence items =>
        rw [List.isEmpty_iff.mp isEmpty]
        exact .noItems
    | mapping entries =>
        rw [List.isEmpty_iff.mp isEmpty]
        exact .noEntries
    | set members =>
        rw [List.isEmpty_iff.mp isEmpty]
        exact .noMembers
    | date _ | moment _ | pair _ _ | enclosingSequence | enclosingMapping => cases isEmpty
  · intro nothing
    cases nothing with
    | zeroFloat isZero => exact isZero
    | null | no | zero | noText | noBytes | noItems | noEntries | noMembers => rfl

/-- What a value says about the output directory: a text names it, and a value that names
nothing stands for the project itself. -/
inductive NamesOutput : Datum → String → Prop
  | text (output : String) : NamesOutput (.text output) output
  | nothing {value : Datum} (nothing : NamesNothing value) : NamesOutput value ""

private theorem outputOf_eq_ok_iff : outputOf value = .ok output ↔ NamesOutput value output := by
  constructor
  · intro named
    unfold outputOf at named
    split at named
    · rename_i isEmpty
      cases named
      exact .nothing (isEmpty_iff.mp isEmpty)
    · split at named
      · cases named
        exact .text output
      · cases named
  · intro names
    cases names with
    | text output =>
        unfold outputOf
        split
        · rename_i isEmpty
          rw [Datum.isEmpty, String.isEmpty_iff] at isEmpty
          rw [isEmpty]
        · rfl
    | nothing nothing =>
        unfold outputOf
        exact if_pos (isEmpty_iff.mpr nothing)

private theorem outputOf_eq_error_iff :
    outputOf value = .error problem ↔
      problem = .outputNotText ∧ ∀ output, ¬ NamesOutput value output := by
  constructor
  · intro refused
    refine ⟨?_, fun output names => ?_⟩
    · unfold outputOf at refused
      split at refused
      · cases refused
      · split at refused
        · cases refused
        · cases refused
          rfl
    · rw [outputOf_eq_ok_iff.mpr names] at refused
      cases refused
  · rintro ⟨rfl, unnamed⟩
    unfold outputOf
    split
    · rename_i isEmpty
      exact absurd (.nothing (isEmpty_iff.mp isEmpty)) (unnamed "")
    · split
      · exact absurd (.text _) (unnamed _)
      · rfl

/-! ## Documents -/

/-- The entries state these settings: the patterns are listed under `files`, the output
directory is named under `outputDirectory`, and the name of the addon stands under `name`. -/
structure AreStatedBy (settings : Settings) (entries : List (Datum × Datum)) : Prop where
  patterns : ListsPatterns (valueUnder entries "files") settings.patterns
  output : NamesOutput (valueUnder entries "outputDirectory") settings.output
  name : settings.name = valueUnder entries "name"
  accepted : ∃ addon, checkAddonName settings.name = .ok addon

/-- What is wrong with a document that states no settings.  A reason only counts if the
ones before it do not hold. -/
inductive IsRefusedFor : Datum → ConfigurationProblem → Prop
  | notMapping {document : Datum} (noMapping : ∀ entries, document ≠ .mapping entries) :
      IsRefusedFor document .notMapping
  | patterns {entries : List (Datum × Datum)} {problem : ConfigurationProblem}
      (refused : ArePatternsRefused (valueUnder entries "files") problem) :
      IsRefusedFor (.mapping entries) problem
  | output {entries : List (Datum × Datum)} {patterns : List String}
      (listed : ListsPatterns (valueUnder entries "files") patterns)
      (unnamed : ∀ output, ¬ NamesOutput (valueUnder entries "outputDirectory") output) :
      IsRefusedFor (.mapping entries) .outputNotText
  | name {entries : List (Datum × Datum)} {patterns : List String} {output shown : String}
      (listed : ListsPatterns (valueUnder entries "files") patterns)
      (named : NamesOutput (valueUnder entries "outputDirectory") output)
      (unaccepted : ∀ addon, checkAddonName (valueUnder entries "name") ≠ .ok addon)
      (written : (valueUnder entries "name").written? = some shown) :
      IsRefusedFor (.mapping entries) (.invalidName shown)

/-- Nothing is wrong with a document but the name, and the report cannot show what stands in
its place. -/
inductive IsUnwritable : Datum → Prop
  | name {entries : List (Datum × Datum)} {patterns : List String} {output : String}
      (listed : ListsPatterns (valueUnder entries "files") patterns)
      (named : NamesOutput (valueUnder entries "outputDirectory") output)
      (long : (valueUnder entries "name").HoldsLongNumber) : IsUnwritable (.mapping entries)

private theorem ofDatum_mapping_eq_ok_iff :
    ofDatum (.mapping entries) source = .ok settings ↔ settings.AreStatedBy entries := by
  rw [ofDatum, bind_eq_ok_iff]
  constructor
  · rintro ⟨patterns, listed, read⟩
    obtain ⟨output, named, read⟩ := bind_eq_ok_iff.mp read
    obtain ⟨addon, accepted, same⟩ := bind_eq_ok_iff.mp read
    cases same
    have accepted := ok_of_mapError accepted
    obtain ⟨isText, -⟩ := checkAddonName_eq_ok_iff.mp accepted
    exact ⟨patternsOf_eq_ok_iff.mp (ok_of_mapError listed),
      outputOf_eq_ok_iff.mp (ok_of_mapError named), isText.symm, addon, isText ▸ accepted⟩
  · rintro ⟨listed, named, sameName, addon, accepted⟩
    obtain ⟨isText, -⟩ := checkAddonName_eq_ok_iff.mp accepted
    refine ⟨settings.patterns, by rw [patternsOf_eq_ok_iff.mpr listed]; rfl, ?_⟩
    refine bind_eq_ok_iff.mpr ⟨settings.output, by rw [outputOf_eq_ok_iff.mpr named]; rfl, ?_⟩
    refine bind_eq_ok_iff.mpr ⟨addon, by rw [← sameName, accepted]; rfl, ?_⟩
    rw [← isText]
    rfl

theorem ofDatum_eq_ok_iff :
    ofDatum document source = .ok settings ↔
      ∃ entries, document = .mapping entries ∧ settings.AreStatedBy entries := by
  constructor
  · intro accepted
    cases document with
    | mapping entries => exact ⟨entries, rfl, ofDatum_mapping_eq_ok_iff.mp accepted⟩
    | _ => cases accepted
  · rintro ⟨entries, rfl, stated⟩
    exact ofDatum_mapping_eq_ok_iff.mpr stated

/-- The checks of the patterns and of the output directory are passed, and what is left is
the check of the name. -/
theorem ofDatum_mapping_of_output
    (listed : ListsPatterns (valueUnder entries "files") patterns)
    (named : NamesOutput (valueUnder entries "outputDirectory") output) :
    ofDatum (.mapping entries) source =
      ((checkAddonName (valueUnder entries "name")).mapError (NameFault.toFault (some source))).map
        fun name => ⟨.text name, patterns, output⟩ := by
  rw [ofDatum, patternsOf_eq_ok_iff.mpr listed, outputOf_eq_ok_iff.mpr named]
  rfl

private theorem ofDatum_eq_error_of_isRefusedFor (refused : IsRefusedFor document problem) :
    ofDatum document source = .error (.generation ⟨.configuration problem, some source, none⟩) := by
  cases refused with
  | notMapping noMapping =>
      cases document with
      | mapping entries => exact absurd rfl (noMapping entries)
      | _ => rfl
  | patterns refused =>
      rw [ofDatum, patternsOf_of_arePatternsRefused refused]
      rfl
  | output listed unnamed =>
      rw [ofDatum, patternsOf_eq_ok_iff.mpr listed, outputOf_eq_error_iff.mpr ⟨rfl, unnamed⟩]
      rfl
  | name listed named unaccepted written =>
      have noName (addon : String) (isText : valueUnder _ "name" = .text addon) :
          ¬ IsAddonName addon :=
        fun isName => unaccepted addon (checkAddonName_eq_ok_iff.mpr ⟨isText, isName⟩)
      rw [ofDatum_mapping_of_output listed named,
        checkAddonName_eq_report_iff.mpr ⟨noName, _, written, rfl⟩]
      rfl

theorem ofDatum_eq_error_of_isUnwritable (unwritable : IsUnwritable document) :
    ofDatum document source = .error .unwritableName := by
  obtain ⟨listed, named, long⟩ := unwritable
  rw [ofDatum_mapping_of_output listed named, checkAddonName_eq_unwritable_iff.mpr long]
  rfl

/-- A document that is refused is refused for something that is wrong with it, or cannot be
reported. -/
theorem cases_of_ofDatum_eq_error {fault : Fault}
    (refused : ofDatum document source = .error fault) :
    (∃ problem, IsRefusedFor document problem ∧
        fault = .generation ⟨.configuration problem, some source, none⟩) ∨
      IsUnwritable document ∧ fault = .unwritableName := by
  cases document with
  | mapping entries =>
      rcases bind_eq_error_iff.mp refused with patterns | ⟨patterns, listed, refused⟩
      · obtain ⟨found, unlisted, rfl⟩ := mapError_eq_error_iff.mp patterns
        exact .inl ⟨found, .patterns (arePatternsRefused_of_patternsOf unlisted), rfl⟩
      · have listed := patternsOf_eq_ok_iff.mp (ok_of_mapError listed)
        rcases bind_eq_error_iff.mp refused with output | ⟨output, named, refused⟩
        · obtain ⟨found, unstated, rfl⟩ := mapError_eq_error_iff.mp output
          obtain ⟨rfl, unnamed⟩ := outputOf_eq_error_iff.mp unstated
          exact .inl ⟨_, .output listed unnamed, rfl⟩
        · have named := outputOf_eq_ok_iff.mp (ok_of_mapError named)
          rcases bind_eq_error_iff.mp refused with name | ⟨addon, -, same⟩
          · obtain ⟨found, misnamed, rfl⟩ := mapError_eq_error_iff.mp name
            cases found with
            | generation report =>
                obtain ⟨noName, shown, written, rfl⟩ := checkAddonName_eq_report_iff.mp misnamed
                refine .inl ⟨_, .name listed named (fun addon checked => ?_) written, rfl⟩
                rw [misnamed] at checked
                cases checked
            | unwritable =>
                exact .inr ⟨.name listed named (checkAddonName_eq_unwritable_iff.mp misnamed), rfl⟩
          · cases same
  | _ =>
      cases refused
      exact .inl ⟨.notMapping, .notMapping fun entries => by rintro ⟨⟩, rfl⟩

/-- **Which documents are settings.**  A document is accepted exactly if it is a mapping
whose entries state settings, and these are the settings it gives: the patterns are a list
with something in it, of texts that are neither empty nor absolute paths; the output
directory is a text, or a value that names nothing; and the name is one that an addon may
have.  Every other document is refused for the first of these things that is wrong with it,
and the failure names the source of the document, unless this thing is a name with a whole
number in it that is too long to be shown: then the failure is another one, and is not
reported. -/
theorem ofDatum_exact (document : Datum) (source : String) :
    (∀ settings, ofDatum document source = .ok settings ↔
      ∃ entries, document = .mapping entries ∧ settings.AreStatedBy entries) ∧
    ∀ fault, ofDatum document source = .error fault ↔
      (∃ problem, IsRefusedFor document problem ∧
        fault = .generation ⟨.configuration problem, some source, none⟩) ∨
      IsUnwritable document ∧ fault = .unwritableName := by
  refine ⟨fun _ => ofDatum_eq_ok_iff, fun _ => ⟨cases_of_ofDatum_eq_error, ?_⟩⟩
  rintro (⟨problem, refused, rfl⟩ | ⟨unwritable, rfl⟩)
  · exact ofDatum_eq_error_of_isRefusedFor refused
  · exact ofDatum_eq_error_of_isUnwritable unwritable

/-- The entries of settings that say no to an output directory. -/
def declinedOutputEntries : List (Datum × Datum) :=
  [(.text "name", .text "calc"), (.text "files", .sequence [.text "*.go"]),
    (.text "outputDirectory", .bool false)]

/-- Not every output directory of accepted settings is a text, null or left out. -/
theorem declinedOutputEntries_accepted :
    valueUnder declinedOutputEntries "outputDirectory" = .bool false ∧
      ofDatum (.mapping declinedOutputEntries) Product.settingsFile =
        .ok ⟨.text "calc", ["*.go"], ""⟩ :=
  ⟨rfl, rfl⟩

end AddonBindings.Settings

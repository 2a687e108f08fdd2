import AddonBindings.Proofs.Export.Extraction
import AddonBindings.Proofs.Run.Sources
import AddonBindings.Proofs.Typing

/-!
Contract: every extracted program can be generated.

Owns:
- the law that extracted records are typed, for a source, a file and several files;
- how a run ends once its sources have been extracted.

Does not own: what is generated for typed records, and how others are refused, which is
in `AddonBindings.Proofs.Typing`.
-/

namespace AddonBindings

open AddonBindings.Files
open AddonBindings.Traversal

/-! ## Extracted records -/

namespace Export

open AddonBindings.Go

private theorem isKnown_of_boundaryType {type : TypeSyntax} {boundary : BoundaryType}
    (mapped : boundaryType type = .ok boundary) : boundary.isKnown = true := by
  rw [boundaryType] at mapped
  cases known : type.expression.boundary with
  | error fault =>
      rw [known] at mapped
      cases mapped
  | ok found =>
      rw [known] at mapped
      cases mapped
      exact TypeExpression.isKnown_of_boundary known

private theorem type_of_mem_declaredParameters {before : Nat} {names : List String}
    {type : BoundaryType}
    {parameter : Parameter} (member : parameter ∈ declaredParameters before names type) :
    parameter.type = some type := by
  cases names with
  | nil => rw [List.mem_singleton.mp member]
  | cons first rest =>
      obtain ⟨name, -, rfl⟩ := List.mem_map.mp member
      rfl

private theorem known_of_parametersAfter {before : Nat} {items : List ParameterItem}
    {taken : List Parameter} (mapped : parametersAfter before items = .ok taken) :
    ∀ parameter ∈ taken, parameter.type.any BoundaryType.isKnown = true := by
  induction items generalizing before taken with
  | nil =>
      cases mapped
      simp
  | cons item rest inductionHypothesis =>
      cases item with
      | comment text => exact inductionHypothesis mapped
      | variadic name type => cases mapped
      | declared names type =>
          obtain ⟨boundary, known, mappedRest⟩ := bind_eq_ok_iff.mp mapped
          obtain ⟨others, foundRest, same⟩ := bind_eq_ok_iff.mp mappedRest
          cases same
          intro parameter member
          rcases List.mem_append.mp member with declared | inRest
          · rw [type_of_mem_declaredParameters declared]
            exact isKnown_of_boundaryType known
          · exact inductionHypothesis foundRest parameter inRest

private theorem known_of_map_boundaryType {type : TypeSyntax} {given : Option BoundaryType}
    (mapped : (boundaryType type).map some = .ok given) :
    given.all BoundaryType.isKnown = true := by
  cases known : boundaryType type with
  | error fault =>
      rw [known] at mapped
      cases mapped
  | ok boundary =>
      rw [known] at mapped
      cases mapped
      exact isKnown_of_boundaryType known

private theorem known_of_firstResult {items : List ParameterItem} {given : Option BoundaryType}
    (mapped : firstResult items = .ok given) : given.all BoundaryType.isKnown = true := by
  induction items with
  | nil =>
      cases mapped
      rfl
  | cons item rest inductionHypothesis =>
      cases item with
      | comment text => exact inductionHypothesis mapped
      | variadic name type => cases mapped
      | declared names type => exact known_of_map_boundaryType mapped

private theorem known_of_result {declared : ResultSyntax} {given : Option BoundaryType}
    (mapped : result declared = .ok given) : given.all BoundaryType.isKnown = true := by
  cases declared with
  | absent =>
      cases mapped
      rfl
  | single type => exact known_of_map_boundaryType mapped
  | listed items =>
      simp only [result] at mapped
      split at mapped
      · cases mapped
      · exact known_of_firstResult mapped

/-- The record of a function is typed. -/
theorem IsRecordOf.isTyped {file : String} {marked : MarkedFunction}
    {function : ExportedFunction} (isRecord : IsRecordOf file marked function) :
    function.IsTyped := by
  obtain ⟨taken, parameters, mapped⟩ := bind_eq_ok_iff.mp isRecord.signature
  obtain ⟨given, result, same⟩ := bind_eq_ok_iff.mp mapped
  cases same
  exact ⟨known_of_parametersAfter parameters, known_of_result result⟩

/-- The record of a marked function of a source. -/
def IsExtracted (function : ExportedFunction) : Prop :=
  ∃ file source children marked, readSource source = .ok children ∧
    marked ∈ markedFunctions children ∧ IsRecordOf file marked function

theorem IsExtracted.isTyped {function : ExportedFunction} (extracted : IsExtracted function) :
    function.IsTyped := by
  obtain ⟨_, _, _, _, -, -, isRecord⟩ := extracted
  exact isRecord.isTyped

theorem isExtracted_of_ofSource {file source : String} {functions : List ExportedFunction}
    (extracted : ofSource file source = .ok functions) :
    ∀ function ∈ functions, IsExtracted function := by
  rw [ofSource] at extracted
  cases read : readSource source with
  | error position =>
      rw [read] at extracted
      cases extracted
  | ok children =>
      rw [read] at extracted
      simp only [ofChildren_eq_mapM] at extracted
      intro function member
      obtain ⟨marked, isMarked, recorded⟩ := exists_of_mem_of_mapM extracted member
      exact ⟨file, source, children, marked, read, isMarked, isRecordOf_of_record recorded⟩

theorem isExtracted_of_ofFile {tree : FileTree} {path : Path} {functions : List ExportedFunction}
    (extracted : ofFile tree path = .ok functions) :
    ∀ function ∈ functions, IsExtracted function := by
  rw [ofFile] at extracted
  split at extracted
  next bytes isRead =>
    rw [ofBytes] at extracted
    cases decoded : Text.decodeUtf8 bytes with
    | error fault =>
        rw [decoded] at extracted
        cases extracted
    | ok text =>
        rw [decoded] at extracted
        exact isExtracted_of_ofSource (ok_of_mapError extracted)
  next => cases extracted
  next => cases extracted

end Export

/-- Every function of a successful extraction is one that some source exports. -/
theorem isExtracted_of_extractFiles {tree : FileTree} {sources : List Path}
    {functions : List ExportedFunction}
    (extracted : (extractFiles tree sources).outcome = .ok functions) :
    ∀ function ∈ functions, Export.IsExtracted function := by
  obtain ⟨found, extractedEach, rfl⟩ := ok_of_extractFiles_ok extracted
  intro function member
  obtain ⟨ofOne, inFound, inOne⟩ := List.mem_flatten.mp member
  obtain ⟨path, -, extractedOne⟩ := exists_of_mem_of_mapM extractedEach inFound
  exact Export.isExtracted_of_ofFile extractedOne function inOne

private theorem isTyped_of_extractFiles {tree : FileTree} {sources : List Path}
    {functions : List ExportedFunction}
    (extracted : (extractFiles tree sources).outcome = .ok functions) :
    ∀ function ∈ functions, function.IsTyped :=
  fun function member => (isExtracted_of_extractFiles extracted function member).isTyped

/-! ## Runs -/

variable {tree : FileTree} {project : Path} {settings : Settings} {addon : String}
  {sources : List Path} {functions : List ExportedFunction}

private theorem exists_addon_of_isTyped (named : isAddonName addon.toList = true)
    (typed : ∀ function ∈ functions, function.IsTyped) :
    ∃ made, Addon.generate functions (.text addon) = .ok made := by
  obtain ⟨bindings, made⟩ := (exists_generate_eq_ok_iff named functions).mpr typed
  have checked : checkAddonName (.text addon) = .ok addon := if_pos named
  exact ⟨⟨addon, bindings⟩, by rw [Addon.generate, made, checked]; rfl⟩

/-- Under a name that an addon may have, nothing fails between the extraction and the
writes. -/
theorem exists_preparation_of_extracted (named : isAddonName addon.toList = true)
    (stated : settings.name = .text addon)
    (discovered : Project.sources tree project settings.patterns = .ok sources)
    (extracted : (extractFiles tree sources).outcome = .ok functions) :
    ∃ preparation, (prepare tree project settings).outcome = .ok preparation := by
  obtain ⟨made, generated⟩ := exists_addon_of_isTyped named (isTyped_of_extractFiles extracted)
  rcases extraction : extractFiles tree sources with ⟨messages, outcome⟩
  rw [extraction] at extracted
  cases extracted
  simp only [prepare, discovered, extraction, stated, Attempt.bind_eq_andThen,
    Attempt.silent_ok_andThen, Attempt.report_andThen, Attempt.mk_ok_andThen]
  split
  · exact ⟨_, rfl⟩
  · simp only [generated, Attempt.silent_ok_andThen]
    exact ⟨_, rfl⟩

/-- Functions that have been extracted are made into an addon. -/
theorem prepare_of_functions (named : isAddonName addon.toList = true)
    (stated : settings.name = .text addon)
    (discovered : Project.sources tree project settings.patterns = .ok sources)
    (extracted : (extractFiles tree sources).outcome = .ok functions) (nonempty : functions ≠ []) :
    ∃ made, Addon.generate functions settings.name = .ok made ∧
      (prepare tree project settings).outcome = .ok ⟨sources, functions, some made⟩ := by
  obtain ⟨made, generated⟩ := exists_addon_of_isTyped named (isTyped_of_extractFiles extracted)
  rw [← stated] at generated
  rcases extraction : extractFiles tree sources with ⟨messages, outcome⟩
  rw [extraction] at extracted
  cases extracted
  refine ⟨made, generated, ?_⟩
  simp [prepare, discovered, extraction, nonempty, generated, Attempt.done]

/-- After the extraction only an access to files can fail. -/
theorem run_of_extracted (named : isAddonName addon.toList = true)
    (stated : settings.name = .text addon)
    (discovered : Project.sources tree project settings.patterns = .ok sources)
    (extracted : (extractFiles tree sources).outcome = .ok functions) :
    (∃ result, (run project settings tree).1.outcome = .ok result) ∨
      ∃ failure, (run project settings tree).1.outcome = .error (.access failure) := by
  obtain ⟨preparation, prepared⟩ := exists_preparation_of_extracted named stated discovered extracted
  rcases run_of_prepare_ok prepared with ⟨written, ended⟩ | refused
  · exact .inl ⟨_, ended⟩
  · exact .inr refused

/-- **Every extracted program can be generated.**

Under any name that an addon may have:

1. Bindings are made iff all types of all records cross the boundary.
2. Otherwise they fail with the refusal of the first record that states another type:
   for its result if that is refused, else for its first parameter that is.
3. The records that are extracted from a source, and from any files, are typed.
4. So a run whose sources have been extracted succeeds, or is refused an access to files
   by the writes. -/
theorem extracted_records_generate (named : isAddonName addon.toList = true) :
    (∀ functions, (∃ bindings, Bindings.generate functions (.text addon) = .ok bindings) ↔
      ∀ function ∈ functions, function.IsTyped) ∧
    (∀ functions fault, Bindings.generate functions (.text addon) = .error fault ↔
      ∃ before function later, functions = before ++ function :: later ∧
        (∀ earlier ∈ before, earlier.IsTyped) ∧ function.refusal? = some fault) ∧
    (∀ file source functions, Export.ofSource file source = .ok functions →
      ∀ function ∈ functions, function.IsTyped) ∧
    (∀ tree sources functions, (extractFiles tree sources).outcome = .ok functions →
      ∀ function ∈ functions, function.IsTyped) ∧
    ∀ tree project settings sources functions, settings.name = .text addon →
      Project.sources tree project settings.patterns = .ok sources →
      (extractFiles tree sources).outcome = .ok functions →
      (∃ result, (run project settings tree).1.outcome = .ok result) ∨
        ∃ failure, (run project settings tree).1.outcome = .error (.access failure) := by
  refine ⟨exists_generate_eq_ok_iff named, generate_eq_error_iff named, ?_, ?_, ?_⟩
  · intro file source functions extracted function member
    exact (Export.isExtracted_of_ofSource extracted function member).isTyped
  · intro tree sources functions extracted
    exact isTyped_of_extractFiles extracted
  · intro tree project settings sources functions stated discovered extracted
    exact run_of_extracted named stated discovered extracted

/-- A typed record, one with two parameters and one with a result that do not cross. -/
def partlyTyped : List ExportedFunction :=
  [ { name := "Add", parameters := [⟨"a", some .numeric⟩, ⟨"b", some .numeric⟩],
      result := some .numeric },
    { name := "Mask", parameters := [⟨"bits", some (.foreign "uint")⟩, ⟨"on", some (.foreign "bool")⟩],
      sourceFile := "mask.go" },
    { name := "Flag", parameters := [⟨"index", some (.foreign "byte")⟩],
      result := some (.foreign "bool"), sourceFile := "flag.go" } ]

theorem partlyTyped_refused :
    isAddonName "calc".toList = true ∧
      Bindings.generate partlyTyped (.text "calc") = .error (.unknownBoundary ⟨some "uint"⟩) ∧
      Bindings.generate partlyTyped.reverse (.text "calc") =
        .error (.generation ⟨.unsupportedResult "bool", some "flag.go", some "Flag"⟩) ∧
      separateSettings.name = .text "calc" ∧
      ∃ functions,
        Project.sources separateProject ⟨.current, []⟩ separateSettings.patterns =
          .ok [⟨.current, ["go", "a.go"]⟩] ∧
        (extractFiles separateProject [⟨.current, ["go", "a.go"]⟩]).outcome = .ok functions ∧
        functions.map ExportedFunction.name = ["A"] ∧ (∀ function ∈ functions, function.IsTyped) ∧
        ((∃ result, (run ⟨.current, []⟩ separateSettings separateProject).1.outcome = .ok result) ∨
          ∃ failure, (run ⟨.current, []⟩ separateSettings separateProject).1.outcome =
            .error (.access failure)) := by
  have named : isAddonName "calc".toList = true := by decide
  obtain ⟨-, refused, -, typed, runs⟩ := extracted_records_generate named
  have discovered : Project.sources separateProject ⟨.current, []⟩ separateSettings.patterns =
      .ok [⟨.current, ["go", "a.go"]⟩] := eq_ok_of_toOption (by decide +kernel)
  have evaluated : (extractFiles separateProject [⟨.current, ["go", "a.go"]⟩]).outcome.toOption.map
      (List.map ExportedFunction.name) = some ["A"] := by decide +kernel
  obtain ⟨functions, ended, names⟩ := Option.map_eq_some_iff.mp evaluated
  have extracted := eq_ok_of_toOption ended
  have addTyped : ∀ earlier ∈ partlyTyped.take 1, earlier.IsTyped := by
    intro earlier member
    rw [List.mem_singleton.mp member]
    exact ⟨by decide, by decide⟩
  refine ⟨named, ?_, ?_, rfl, functions, discovered, extracted, names, typed _ _ _ extracted,
    runs _ _ _ _ _ rfl discovered extracted⟩
  · exact (refused partlyTyped _).mpr ⟨partlyTyped.take 1, _, _, rfl, addTyped, rfl⟩
  · exact (refused partlyTyped.reverse _).mpr ⟨[], _, _, rfl, by simp, rfl⟩

end AddonBindings

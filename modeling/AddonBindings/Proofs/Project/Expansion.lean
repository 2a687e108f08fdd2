import AddonBindings.Project.Discovery
import AddonBindings.Project.Settings
import AddonBindings.Proofs.Files.Selection

/-!
Contract: which accepted patterns can be expanded.

Owns:
- the patterns that settings accept;
- the patterns that can be expanded, and why the others cannot;
- the capstone: how discovery ends for accepted settings.

Does not own: what a pattern selects.
-/

namespace AddonBindings.Project

open AddonBindings.Files AddonBindings.Traversal

/-! ## Patterns that can be expanded -/

/-- Some part is left of the pattern, and two stars in a row are a part of their own. -/
structure IsExpandable (pattern : String) : Prop where
  filled : (Path.ofText pattern).parts ≠ []
  stars : ∀ part ∈ (Path.ofText pattern).parts, ['*', '*'] <:+: part.toList → part = "**"

inductive IsUnexpandable (pattern : String) : GlobFault → Prop
  | noPart (empty : (Path.ofText pattern).parts = [])
      (unslashed : pattern.toList.getLast? ≠ some '/') : IsUnexpandable pattern .noPart
  | noPartBeforeSlash (empty : (Path.ofText pattern).parts = [])
      (slashed : pattern.toList.getLast? = some '/') : IsUnexpandable pattern .noPartBeforeSlash
  | partialDeep {part : String} (member : part ∈ (Path.ofText pattern).parts)
      (stars : ['*', '*'] <:+: part.toList) (differs : part ≠ "**") :
      IsUnexpandable pattern .partialDeep

private theorem hasTwoStars_iff {cs : List Char} : hasTwoStars cs = true ↔ ['*', '*'] <:+: cs := by
  induction cs using hasTwoStars.induct with
  | case1 rest => exact iff_of_true rfl ⟨[], rest, rfl⟩
  | case2 c rest isOther inductionHypothesis =>
      rw [hasTwoStars, inductionHypothesis, List.infix_cons_iff]
      · refine ⟨.inr, ?_⟩
        rintro (⟨later, same⟩ | inRest)
        · obtain ⟨rfl, rfl⟩ := List.cons.inj same
          exact absurd rfl (isOther later rfl)
        · exact inRest
      · exact isOther
  | case3 => exact iff_of_false (by simp [hasTwoStars]) (by simp)

private theorem ofName_eq_error_iff {name : String} {fault : GlobFault} :
    GlobPart.ofName name = .error fault ↔
      ['*', '*'] <:+: name.toList ∧ name ≠ "**" ∧ fault = .partialDeep := by
  rw [← hasTwoStars_iff, GlobPart.ofName]
  by_cases isDeep : name = "**"
  · simp [isDeep]
  · by_cases stars : hasTwoStars name.toList = true
    · simp [isDeep, stars, eq_comm]
    · by_cases wild : isNamePattern name = true
      · simp [isDeep, stars, wild]
      · simp [isDeep, stars, wild]

/-- A pattern that is neither empty nor absolute is a pattern of paths iff it can be
expanded. -/
theorem ofText_cases {pattern : String} (filled : pattern ≠ "")
    (relative : (Path.ofText pattern).isAbsolute = false) :
    ((∃ glob, Glob.ofText pattern = .ok glob) ∧ IsExpandable pattern) ∨
      ∃ fault, Glob.ofText pattern = .error fault ∧ IsUnexpandable pattern fault := by
  have notEmpty : ¬ pattern.isEmpty = true := by simpa using filled
  have notAbsolute : ¬ (Path.ofText pattern).isAbsolute = true := by simp [relative]
  rw [Glob.ofText, if_neg notEmpty]
  simp only [if_neg notAbsolute]
  by_cases empty : (Path.ofText pattern).parts = []
  · right
    rw [if_pos (by simp [empty])]
    by_cases slashed : pattern.toList.getLast? = some '/'
    · exact ⟨_, by simp only [slashed, decide_true, if_true]; rfl, .noPartBeforeSlash empty slashed⟩
    · exact ⟨_, by simp only [slashed, decide_false, if_false]; rfl, .noPart empty slashed⟩
  · rw [if_neg (by simpa using empty)]
    cases made : (Path.ofText pattern).parts.mapM GlobPart.ofName with
    | error fault =>
        right
        refine ⟨fault, rfl, ?_⟩
        rw [← fault?_eq_some_iff, fault?_mapM] at made
        obtain ⟨part, member, refused⟩ := List.exists_of_findSome?_eq_some made
        obtain ⟨stars, differs, rfl⟩ := ofName_eq_error_iff.mp (fault?_eq_some_iff.mp refused)
        exact .partialDeep member stars differs
    | ok parts =>
        left
        refine ⟨⟨_, rfl⟩, empty, ?_⟩
        intro part member stars
        obtain ⟨found, -, named⟩ := ok_of_mem_of_mapM made member
        by_contra differs
        rw [ofName_eq_error_iff.mpr ⟨stars, differs, rfl⟩] at named
        cases named

/-! ## Patterns that settings accept -/

/-- The patterns are a list that settings may hold: some pattern is given, and none is
empty or absolute. -/
structure AreAcceptable (patterns : List String) : Prop where
  some : patterns ≠ []
  filled : ∀ pattern ∈ patterns, pattern ≠ ""
  relative : ∀ pattern ∈ patterns, (Path.ofText pattern).isAbsolute = false

private theorem texts?_cons_eq_some_iff {value : Datum} {rest : List Datum} {texts : List String} :
    Settings.texts? (value :: rest) = some texts ↔
      ∃ text others, value = .text text ∧ text ≠ "" ∧ Settings.texts? rest = some others ∧
        texts = text :: others := by
  constructor
  · intro read
    cases value with
    | text text =>
        rw [Settings.texts?] at read
        split at read
        · cases read
        · rename_i filled
          obtain ⟨others, readRest, rfl⟩ := Option.map_eq_some_iff.mp read
          exact ⟨text, others, rfl, by simpa using filled, readRest, rfl⟩
    | _ => cases read
  · rintro ⟨text, others, rfl, filled, readRest, rfl⟩
    rw [Settings.texts?, if_neg (by simpa using filled), readRest]
    rfl

theorem texts?_eq_some_iff {values : List Datum} {texts : List String} :
    Settings.texts? values = some texts ↔
      values = texts.map Datum.text ∧ ∀ text ∈ texts, text ≠ "" := by
  induction values generalizing texts with
  | nil =>
      constructor
      · intro same
        cases same
        exact ⟨rfl, by simp⟩
      · rintro ⟨same, -⟩
        rw [List.map_eq_nil_iff.mp same.symm]
        rfl
  | cons value rest inductionHypothesis =>
      rw [texts?_cons_eq_some_iff]
      constructor
      · rintro ⟨text, others, rfl, filled, readRest, rfl⟩
        obtain ⟨rfl, othersFilled⟩ := inductionHypothesis.mp readRest
        exact ⟨rfl, List.forall_mem_cons.mpr ⟨filled, othersFilled⟩⟩
      · rintro ⟨same, filled⟩
        obtain ⟨text, others, rfl, rfl, rfl⟩ := List.map_eq_cons_iff.mp same.symm
        obtain ⟨textFilled, othersFilled⟩ := List.forall_mem_cons.mp filled
        exact ⟨text, others, rfl, textFilled, inductionHypothesis.mpr ⟨rfl, othersFilled⟩, rfl⟩

theorem patternsOf_eq_ok_iff {value : Datum} {patterns : List String} :
    Settings.patternsOf value = .ok patterns ↔
      value = .sequence (patterns.map .text) ∧ AreAcceptable patterns := by
  constructor
  · intro read
    unfold Settings.patternsOf at read
    split at read
    · rename_i first rest
      split at read
      · cases read
      · rename_i texts listed
        split at read
        · cases read
        · rename_i relative
          cases read
          obtain ⟨same, filled⟩ := texts?_eq_some_iff.mp listed
          refine ⟨congrArg Datum.sequence same, ?_, filled, ?_⟩
          · rintro rfl
            cases same
          · simpa using relative
    · cases read
  · rintro ⟨rfl, acceptable⟩
    have listed := texts?_eq_some_iff.mpr ⟨rfl, acceptable.filled⟩
    have relative : ¬ (patterns.any fun pattern => (Path.ofText pattern).isAbsolute) = true := by
      simpa using acceptable.relative
    cases patterns with
    | nil => exact absurd rfl acceptable.some
    | cons first rest =>
        rw [List.map_cons] at listed ⊢
        rw [Settings.patternsOf, listed]
        exact if_neg relative

/-- The patterns of accepted settings. -/
theorem areAcceptable_of_ofDatum {document : Datum} {source : String} {settings : Settings}
    (accepted : Settings.ofDatum document source = .ok settings) :
    AreAcceptable settings.patterns := by
  cases document with
  | mapping entries =>
      obtain ⟨patterns, read, checked⟩ := bind_eq_ok_iff.mp accepted
      obtain ⟨output, -, checked⟩ := bind_eq_ok_iff.mp checked
      obtain ⟨name, -, checked⟩ := bind_eq_ok_iff.mp checked
      cases checked
      exact (patternsOf_eq_ok_iff.mp (ok_of_mapError read)).2
  | _ => cases accepted

/-- Settings may hold any list of patterns of which none is empty or absolute. -/
theorem exists_accepted_iff {patterns : List String} :
    (∃ document source settings, Settings.ofDatum document source = .ok settings ∧
      settings.patterns = patterns) ↔ AreAcceptable patterns := by
  constructor
  · rintro ⟨document, source, settings, accepted, rfl⟩
    exact areAcceptable_of_ofDatum accepted
  · intro acceptable
    have read := patternsOf_eq_ok_iff.mpr ⟨rfl, acceptable⟩
    refine ⟨.mapping [(.text "name", .text "calc"), (.text "files", .sequence (patterns.map .text))],
      Product.settingsFile, ⟨.text "calc", patterns, ""⟩, ?_, rfl⟩
    have files : Settings.valueUnder
        [(.text "name", .text "calc"), (.text "files", .sequence (patterns.map .text))] "files" =
          .sequence (patterns.map .text) := rfl
    rw [Settings.ofDatum, files, read]
    rfl

/-! ## Discovery -/

variable {tree : FileTree} {project path : Path}

private theorem isRefusal_of_isSource {failure : Failure}
    (failed : isSource tree project path = .error failure) : failure.IsRefusal tree := by
  rw [isSource] at failed
  split at failed
  · cases failed
  · exact isRefusal_of_map_entryAt failed

private theorem isRefusal_of_newSources {known paths : List Path} {failure : Failure}
    (failed : newSources tree project known paths = .error failure) : failure.IsRefusal tree := by
  induction paths generalizing known with
  | nil => cases failed
  | cons first rest inductionHypothesis =>
      rw [newSources] at failed
      split at failed
      · exact inductionHypothesis failed
      · rcases bind_eq_error_iff.mp failed with refused | ⟨isNew, -, onward⟩
        · exact isRefusal_of_isSource refused
        · cases isNew with
          | false => exact inductionHypothesis onward
          | true =>
              rcases bind_eq_error_iff.mp onward with later | ⟨others, -, same⟩
              · exact inductionHypothesis later
              · cases same

/-- How the expansion of patterns can end: with sources if all of them can be expanded, at a
path that the system refuses to follow, or at the first pattern that cannot be expanded. -/
inductive ExpansionEnd (tree : FileTree) (patterns : List String) :
    Except Fault (List Path) → Prop
  | found (sources : List Path) (expandable : ∀ pattern ∈ patterns, IsExpandable pattern) :
      ExpansionEnd tree patterns (.ok sources)
  | refused {failure : Failure} (isRefusal : failure.IsRefusal tree) :
      ExpansionEnd tree patterns (.error (.access failure))
  | unexpandable {earlier later : List String} {pattern : String} {fault : GlobFault}
      (split : patterns = earlier ++ pattern :: later)
      (expandable : ∀ other ∈ earlier, IsExpandable other)
      (unexpandable : IsUnexpandable pattern fault) :
      ExpansionEnd tree patterns (.error (.pattern fault))

/-- One more expandable pattern in front, behind which something is found or not. -/
theorem ExpansionEnd.cons {patterns : List String} {attempt : Except Fault (List Path)}
    (ends : ExpansionEnd tree patterns attempt) {first : String} (expandable : IsExpandable first)
    (found : List Path) :
    ExpansionEnd tree (first :: patterns) (attempt >>= fun others => pure (found ++ others)) := by
  cases ends with
  | found sources all => exact .found _ (List.forall_mem_cons.mpr ⟨expandable, all⟩)
  | refused isRefusal => exact .refused isRefusal
  | unexpandable split all unexpandable =>
      rw [split]
      exact .unexpandable (List.cons_append).symm (List.forall_mem_cons.mpr ⟨expandable, all⟩)
        unexpandable

private theorem expansionEnd_sourcesAfter (possible : tree.IsPossible) {patterns : List String}
    (filled : ∀ pattern ∈ patterns, pattern ≠ "")
    (relative : ∀ pattern ∈ patterns, (Path.ofText pattern).isAbsolute = false)
    (known : List Path) :
    ExpansionEnd tree patterns (sourcesAfter tree project known patterns) := by
  -- what is found for a pattern only changes what is known when the next one is expanded
  induction patterns generalizing known with
  | nil => exact .found [] (by simp)
  | cons pattern rest inductionHypothesis =>
      obtain ⟨filled, restFilled⟩ := List.forall_mem_cons.mp filled
      obtain ⟨relative, restRelative⟩ := List.forall_mem_cons.mp relative
      rw [sourcesAfter, selection]
      rcases ofText_cases filled relative with ⟨⟨glob, made⟩, expandable⟩ | ⟨fault, refused, why⟩
      · rw [made]
        show ExpansionEnd tree (pattern :: rest)
          (((select tree project glob).mapError .access >>= fun paths =>
            pure (Sorting.sort Path.le paths)) >>= fun paths =>
              (newSources tree project known paths).mapError .access >>= fun found =>
                sourcesAfter tree project (found ++ known) rest >>= fun others =>
                  pure (found ++ others))
        cases selected : select tree project glob with
        | error failure => exact .refused (isRefusal_of_select possible selected)
        | ok paths =>
            show ExpansionEnd tree (pattern :: rest)
              ((newSources tree project known (Sorting.sort Path.le paths)).mapError .access >>=
                fun found => sourcesAfter tree project (found ++ known) rest >>= fun others =>
                  pure (found ++ others))
            cases new : newSources tree project known (Sorting.sort Path.le paths) with
            | error failure => exact .refused (isRefusal_of_newSources new)
            | ok found =>
                exact (inductionHypothesis restFilled restRelative (found ++ known)).cons expandable found
      · rw [refused]
        exact @ExpansionEnd.unexpandable tree (pattern :: rest) [] rest pattern fault rfl (by simp) why

/-- **Accepted patterns and expansion.**  Settings only hold patterns that are neither empty
nor absolute.  Their discovery succeeds only if every pattern can be expanded; it then
succeeds unless the file system refuses to follow some path, because it, or a name on its
way, is too long or a directory may not be searched.  Otherwise it fails at the first pattern
that cannot be expanded.  Neither failure is one that is reported. -/
theorem discovery_of_accepted {document : Datum} {source : String} {settings : Settings}
    (accepted : Settings.ofDatum document source = .ok settings) {tree : FileTree}
    (possible : tree.IsPossible) (project : Path) :
    AreAcceptable settings.patterns ∧
      ExpansionEnd tree settings.patterns (sources tree project settings.patterns) ∧
      ∀ fault, sources tree project settings.patterns = .error fault → fault.isReported = false := by
  have acceptable := areAcceptable_of_ofDatum accepted
  have ends : ExpansionEnd tree settings.patterns (sources tree project settings.patterns) :=
    expansionEnd_sourcesAfter possible acceptable.filled acceptable.relative []
  refine ⟨acceptable, ends, ?_⟩
  intro fault failed
  rw [failed] at ends
  cases ends with
  | refused _ => rfl
  | unexpandable _ _ _ => rfl

/-- Settings with two patterns that can be expanded. -/
def plainDocument : Datum :=
  .mapping [(.text "name", .text "calc"),
    (.text "files", .sequence [.text "go/*.go", .text "**/*.go"])]

/-- A project with one source in a directory. -/
def plainTree : FileTree where
  entries := [(["go"], .directory), (["go", "a.go"], .file [])]
  working := []

theorem plainDocument_expanded :
    ∃ settings, Settings.ofDatum plainDocument Product.settingsFile = .ok settings ∧
      plainTree.IsPossible ∧ (∀ pattern ∈ settings.patterns, IsExpandable pattern) ∧
      sources plainTree (Path.ofText ".") settings.patterns =
        .ok [Path.ofText "go/a.go"] := by
  have accepted : Settings.ofDatum plainDocument Product.settingsFile =
      .ok ⟨.text "calc", ["go/*.go", "**/*.go"], ""⟩ := rfl
  have possible : plainTree.IsPossible := by decide +kernel
  have found : sources plainTree (Path.ofText ".") ["go/*.go", "**/*.go"] =
      .ok [Path.ofText "go/a.go"] := eq_ok_of_toOption (by decide +kernel)
  obtain ⟨-, ends, -⟩ := discovery_of_accepted accepted possible (Path.ofText ".")
  rw [found] at ends
  refine ⟨_, accepted, possible, ?_, found⟩
  cases ends with
  | found _ expandable => exact expandable

/-- Settings with two stars inside a name. -/
def starredDocument : Datum :=
  .mapping [(.text "name", .text "calc"), (.text "files", .sequence [.text "**.go"])]

/-- Not every accepted pattern can be expanded: two stars inside a name are accepted. -/
theorem starredDocument_not_expanded :
    ∃ settings, Settings.ofDatum starredDocument Product.settingsFile = .ok settings ∧
      plainTree.IsPossible ∧
      sources plainTree (Path.ofText ".") settings.patterns = .error (.pattern .partialDeep) :=
  ⟨⟨.text "calc", ["**.go"], ""⟩, rfl, by decide +kernel, rfl⟩

end AddonBindings.Project

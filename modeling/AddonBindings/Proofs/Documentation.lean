import AddonBindings.Proofs.Agreement
import AddonBindings.Proofs.Declaration.Code

/-!
Contract: documentation and places do not reach generated code.

Owns: the theorem that records with the same names, parameters and results have the
same native source, and the same declarations up to comments.

Does not own: removal of comments, which is in `AddonBindings.Proofs.Declaration.Code`.
-/

namespace AddonBindings

open Text

/-- The record with only what a caller has to know: name, parameters and result. -/
def ExportedFunction.undocumented (function : ExportedFunction) : ExportedFunction :=
  { name := function.name, parameters := function.parameters, result := function.result }

/-- The record without the place of its declaration. -/
def ExportedFunction.unplaced (function : ExportedFunction) : ExportedFunction :=
  { function.undocumented with documentation := function.documentation }

theorem IsBindable.of_undocumented {function : ExportedFunction}
    (bindable : IsBindable function.undocumented) : IsBindable function :=
  ⟨bindable.named, bindable.parametersNamed, bindable.parametersKnown, bindable.resultKnown⟩

theorem IsBindable.undocumented {function : ExportedFunction} (bindable : IsBindable function) :
    IsBindable function.undocumented :=
  ⟨bindable.named, bindable.parametersNamed, bindable.parametersKnown, bindable.resultKnown⟩

/-- Records that agree on what a caller has to know are bindable together. -/
theorem isBindable_of_map_undocumented_eq {functions others : List ExportedFunction}
    (bindable : ∀ function ∈ functions, IsBindable function)
    (agree : functions.map ExportedFunction.undocumented = others.map ExportedFunction.undocumented) :
    ∀ other ∈ others, IsBindable other := by
  intro other member
  have inBoth : other.undocumented ∈ functions.map ExportedFunction.undocumented := by
    rw [agree]
    exact List.mem_map_of_mem member
  obtain ⟨function, inFunctions, same⟩ := List.mem_map.mp inBoth
  apply IsBindable.of_undocumented
  rw [← same]
  exact (bindable function inFunctions).undocumented

private theorem map_unplaced_eq {functions others : List ExportedFunction}
    (agree : functions.map ExportedFunction.undocumented = others.map ExportedFunction.undocumented)
    (documented : functions.map ExportedFunction.documentation =
      others.map ExportedFunction.documentation) :
    functions.map ExportedFunction.unplaced = others.map ExportedFunction.unplaced := by
  induction functions generalizing others with
  | nil =>
      rw [List.map_nil, List.nil_eq, List.map_eq_nil_iff] at agree
      rw [agree]
  | cons function rest inductionHypothesis =>
      cases others with
      | nil => cases agree
      | cons other more =>
          simp only [List.map_cons, List.cons.injEq] at agree documented ⊢
          refine ⟨?_, inductionHypothesis agree.2 documented.2⟩
          rw [ExportedFunction.unplaced, ExportedFunction.unplaced, agree.1, documented.1]

private theorem mapM_signature?_undocumented (functions : List ExportedFunction) :
    (functions.map ExportedFunction.undocumented).mapM ExportedFunction.signature? =
      functions.mapM ExportedFunction.signature? := by
  rw [List.mapM_map]
  rfl

/-- The native source only depends on what a caller has to know. -/
theorem Native.source_undocumented {functions : List ExportedFunction}
    (bindable : ∀ function ∈ functions, IsBindable function) (addon : String) :
    Native.source (functions.map ExportedFunction.undocumented) addon =
      Native.source functions addon := by
  have alsoBindable : ∀ function ∈ functions.map ExportedFunction.undocumented,
      IsBindable function := by
    intro function member
    obtain ⟨original, inFunctions, rfl⟩ := List.mem_map.mp member
    exact (bindable original inFunctions).undocumented
  rw [Native.source_eq alsoBindable, Native.source_eq bindable, Native.sourceText,
    Native.sourceText, Native.initFunction, Native.initFunction, List.map_map, List.map_map]
  rfl

/-- The declarations do not depend on where functions are declared. -/
theorem Declaration.source_unplaced (functions : List ExportedFunction) (addon : String) :
    Declaration.source (functions.map ExportedFunction.unplaced) addon =
      Declaration.source functions addon := by
  rw [Declaration.source, Declaration.source, List.mapM_map]
  rfl

theorem Bindings.generate_eq_ok {functions : List ExportedFunction} {addon native declaration : String}
    (isName : TypeExpression.isAsciiName addon.toList = true)
    (nativeMade : Native.source functions addon = .ok native)
    (made : Declaration.source functions addon = .ok declaration) :
    Bindings.generate functions (.text addon) = .ok ⟨native, declaration⟩ := by
  simp only [Bindings.generate, checkAddonName_of_isAsciiName isName, Except.mapError, bind,
    Except.bind, nativeMade, made]
  rfl

/-- **Documentation and places do not reach generated code.**  For all records whose
names are words and whose types cross the boundary, and for all others with the same
names, parameters and results: both sequences have bindings, with the same native source
and the same lines of code in the declarations.  With the same documentation the
declarations are the same text. -/
theorem generate_of_map_undocumented_eq {functions others : List ExportedFunction} {addon : String}
    (bindable : ∀ function ∈ functions, IsBindable function)
    (agree : functions.map ExportedFunction.undocumented = others.map ExportedFunction.undocumented)
    (isName : TypeExpression.isAsciiName addon.toList = true) :
    ∃ bindings otherBindings,
      Bindings.generate functions (.text addon) = .ok bindings ∧
      Bindings.generate others (.text addon) = .ok otherBindings ∧
      bindings.native = otherBindings.native ∧
      Declaration.codeLines bindings.declaration =
        Declaration.codeLines otherBindings.declaration ∧
      (functions.map ExportedFunction.documentation = others.map ExportedFunction.documentation →
        bindings.declaration = otherBindings.declaration) := by
  have named := isWord_of_isAsciiName isName
  have othersBindable := isBindable_of_map_undocumented_eq bindable agree
  obtain ⟨native, nativeMade⟩ : ∃ text, Native.source functions addon = .ok text :=
    ⟨_, Native.source_eq bindable addon⟩
  have otherNativeMade : Native.source others addon = .ok native := by
    rw [← Native.source_undocumented othersBindable, ← agree, Native.source_undocumented bindable,
      nativeMade]
  obtain ⟨declaration, made⟩ := Declaration.exists_source bindable addon
  obtain ⟨otherDeclaration, otherMade⟩ := Declaration.exists_source othersBindable addon
  obtain ⟨signatures, stated⟩ := exists_signatures bindable
  have otherStated : others.mapM ExportedFunction.signature? = some signatures := by
    rw [← mapM_signature?_undocumented, ← agree, mapM_signature?_undocumented, stated]
  refine ⟨⟨native, declaration⟩, ⟨native, otherDeclaration⟩,
    Bindings.generate_eq_ok isName nativeMade made,
    Bindings.generate_eq_ok isName otherNativeMade otherMade, rfl, ?_, ?_⟩
  · rw [Declaration.codeLines_source bindable named stated made,
      Declaration.codeLines_source othersBindable named otherStated otherMade]
  · intro documented
    rw [← Declaration.source_unplaced, map_unplaced_eq agree documented,
      Declaration.source_unplaced, otherMade] at made
    exact (Except.ok.inj made).symm

/-- A function with documentation that tries to leave its comment and to open another
one, and with a member of its own. -/
def injectingFunction : ExportedFunction :=
  { name := "Add", parameters := [⟨"a", some .numeric⟩], result := some .numeric,
    documentation := "*/ evil: (x: string) => void; /*\n**/\n/", sourceFile := "a.go", line := 7 }

theorem injectingFunction_hidden :
    ∃ bindings plainBindings,
      Bindings.generate [injectingFunction] (.text "demo") = .ok bindings ∧
      Bindings.generate [injectingFunction.undocumented] (.text "demo") = .ok plainBindings ∧
      bindings.native = plainBindings.native ∧
      Declaration.codeLines bindings.declaration =
        Declaration.codeLines plainBindings.declaration := by
  have bindable : ∀ function ∈ [injectingFunction], IsBindable function := by
    intro function member
    rw [List.mem_singleton.mp member]
    exact ⟨by decide, by decide, by decide, by decide⟩
  obtain ⟨bindings, plainBindings, made, plainMade, native, code, -⟩ :=
    generate_of_map_undocumented_eq bindable
      (show [injectingFunction].map ExportedFunction.undocumented =
        [injectingFunction.undocumented].map ExportedFunction.undocumented from rfl)
      (show TypeExpression.isAsciiName "demo".toList = true by decide)
  exact ⟨bindings, plainBindings, made, plainMade, native, code⟩

end AddonBindings

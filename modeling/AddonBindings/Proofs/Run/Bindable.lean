import AddonBindings.Proofs.Go.DeclaredNames
import AddonBindings.Proofs.Run.Typing
import AddonBindings.Proofs.Signature

/-!
Contract: every extracted record can be bound.

Owns:
- that the names of an extracted record are words;
- the law that records extracted from files are bindable.

Does not own: what the generated sides of a bindable record agree on, which is in
`AddonBindings.Proofs.Agreement`.
-/

namespace AddonBindings

open AddonBindings.Go
open AddonBindings.Files
open AddonBindings.Text
open AddonBindings.Traversal

namespace Export

/-- A parameter has a declared name, or one made from its position. -/
theorem isWord_of_mem_declaredParameters {before : Nat} {names : List String} {type : BoundaryType}
    (words : ∀ name ∈ names, isWord name = true) {parameter : Parameter}
    (member : parameter ∈ declaredParameters before names type) : isWord parameter.name = true := by
  cases names with
  | nil =>
      rw [List.mem_singleton.mp member]
      exact isWord_append (by decide) (isWord_iff.mp (isWord_repr before)).2
  | cons first rest =>
      obtain ⟨name, isName, rfl⟩ := List.mem_map.mp member
      exact words name isName

private theorem isWord_of_parametersAfter {before : Nat} {items : List ParameterItem}
    {taken : List Parameter} (words : ∀ name ∈ items.flatMap ParameterItem.names, isWord name = true)
    (mapped : parametersAfter before items = .ok taken) :
    ∀ parameter ∈ taken, isWord parameter.name = true := by
  induction items generalizing before taken with
  | nil =>
      cases mapped
      simp
  | cons item rest inductionHypothesis =>
      rw [List.flatMap_cons, List.forall_mem_append] at words
      obtain ⟨itemWords, restWords⟩ := words
      cases item with
      | comment text => exact inductionHypothesis restWords mapped
      | variadic name type => cases mapped
      | declared names type =>
          obtain ⟨boundary, -, mappedRest⟩ := bind_eq_ok_iff.mp mapped
          obtain ⟨others, foundRest, same⟩ := bind_eq_ok_iff.mp mappedRest
          cases same
          intro parameter member
          rcases List.mem_append.mp member with declared | inRest
          · exact isWord_of_mem_declaredParameters itemWords declared
          · exact inductionHypothesis restWords foundRest parameter inRest

theorem IsRecordOf.isBindable {file : String} {marked : MarkedFunction}
    {function : ExportedFunction} (isRecord : IsRecordOf file marked function)
    (words : ∀ name ∈ marked.declaration.names, isWord name = true) : IsBindable function := by
  obtain ⟨named, parametersNamed⟩ := List.forall_mem_cons.mp words
  obtain ⟨taken, mapped, mappedRest⟩ := bind_eq_ok_iff.mp isRecord.signature
  obtain ⟨given, -, same⟩ := bind_eq_ok_iff.mp mappedRest
  cases same
  have typed := isRecord.isTyped
  refine ⟨?_, isWord_of_parametersAfter parametersNamed mapped, typed.parameters, typed.result⟩
  rw [isRecord.name]
  exact named

theorem IsExtracted.isBindable {function : ExportedFunction} (extracted : IsExtracted function) :
    IsBindable function := by
  obtain ⟨file, source, children, marked, read, isMarked, isRecord⟩ := extracted
  obtain ⟨node, member, isFunction⟩ := exists_node_of_mem_markedFunctions isMarked
  exact isRecord.isBindable (isWord_of_readSource read member isFunction)

end Export

/-- All functions that are extracted from files are bindable. -/
theorem isBindable_of_extractFiles {tree : FileTree} {sources : List Path}
    {functions : List ExportedFunction}
    (extracted : (extractFiles tree sources).outcome = .ok functions) :
    ∀ function ∈ functions, IsBindable function :=
  fun function member => (isExtracted_of_extractFiles extracted function member).isBindable

end AddonBindings

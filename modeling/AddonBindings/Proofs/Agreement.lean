import Mathlib.Data.List.TakeWhile
import AddonBindings.Bindings
import AddonBindings.Boundary.Expression
import AddonBindings.Proofs.Declaration.Reading
import AddonBindings.Proofs.Native.SignatureReading

/-!
Contract: the two generated files of an addon say the same.

Owns: the theorem that the signatures read from the native source alone and those
read from the declarations alone are the signatures of the records.

Does not own: the two readers, which are in `AddonBindings.Proofs.Native.SignatureReading`
and `AddonBindings.Proofs.Declaration.Reading`.
-/

namespace AddonBindings

open Text

theorem isWord_of_isAsciiName {name : String} (isName : TypeExpression.isAsciiName name.toList = true) :
    isWord name = true := by
  refine isWord_iff.mpr ⟨?_, fun c member => ?_⟩
  · intro isEmpty
    rw [isEmpty] at isName
    cases isName
  · exact isWordCharacter_of_isAsciiNameRest (isAsciiNameRest_of_mem isName member)

theorem checkAddonName_of_isAsciiName {name : String}
    (isName : TypeExpression.isAsciiName name.toList = true) :
    checkAddonName (.text name) = .ok name := by
  have accepted : isAddonName name.toList = true := by
    cases same : name.toList with
    | nil => rw [same] at isName; cases isName
    | cons first rest =>
        rw [same, TypeExpression.isAsciiName, Bool.and_eq_true, List.all_eq_true] at isName
        have nothing : rest.dropWhile isAsciiNameRest = [] :=
          List.dropWhile_eq_nil_iff.mpr isName.2
        rw [isAddonName, isName.1, nothing]
        rfl
  rw [checkAddonName, if_pos accepted]

/-- The two back-ends agree.  For all records with pairwise distinct names whose names
are words and whose types cross the boundary, whatever their documentation says, and
for every name an addon can have: both files are generated, and the signatures that
are read from the native source alone and from the declarations alone are those of
the records, in their order. -/
theorem readSource_native_eq_readSource_declaration
    {functions : List ExportedFunction} {addon : String}
    (bindable : ∀ function ∈ functions, IsBindable function)
    (distinct : (functions.map ExportedFunction.name).Nodup)
    (isName : TypeExpression.isAsciiName addon.toList = true) :
    ∃ bindings signatures,
      Bindings.generate functions (.text addon) = .ok bindings ∧
      functions.mapM ExportedFunction.signature? = some signatures ∧
      Native.readSource bindings.native = some signatures ∧
      Declaration.readSource bindings.declaration = some signatures := by
  have named := isWord_of_isAsciiName isName
  obtain ⟨native, nativeMade⟩ : ∃ text, Native.source functions addon = .ok text :=
    ⟨_, Native.source_eq bindable addon⟩
  obtain ⟨declaration, made⟩ := Declaration.exists_source bindable addon
  obtain ⟨signatures, stated⟩ := exists_signatures bindable
  have shown := Native.readSource_source bindable distinct named nativeMade
  have declared := Declaration.readSource_source bindable named made
  rw [stated] at shown declared
  refine ⟨⟨native, declaration⟩, signatures, ?_, stated, shown, declared⟩
  simp only [Bindings.generate, checkAddonName_of_isAsciiName isName, Except.mapError, bind,
    Except.bind, nativeMade, made]
  rfl

/-- Documentation that looks like a member, a closing brace and the end of its own
block. -/
def misleadingFunctions : List ExportedFunction :=
  [ { name := "Add", parameters := [⟨"a", some .numeric⟩, ⟨"b", some .numeric⟩],
      result := some .numeric, documentation := "\x7d\nsub: (x: string) => void; */" },
    { name := "Log", parameters := [⟨"line", some .text⟩] } ]

theorem misleadingFunctions_agree :
    ∃ bindings signatures,
      Bindings.generate misleadingFunctions (.text "demo") = .ok bindings ∧
      misleadingFunctions.mapM ExportedFunction.signature? = some signatures ∧
      Native.readSource bindings.native = some signatures ∧
      Declaration.readSource bindings.declaration = some signatures := by
  have bindable : ∀ function ∈ misleadingFunctions, IsBindable function := by
    simp only [misleadingFunctions, List.forall_mem_cons, List.not_mem_nil, false_implies,
      implies_true, and_true]
    exact ⟨⟨by decide, by decide, by decide, by decide⟩, ⟨by decide, by decide, by decide, by decide⟩⟩
  exact readSource_native_eq_readSource_declaration bindable (by decide) (by decide)

end AddonBindings

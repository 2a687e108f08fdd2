import AddonBindings.Proofs.Go.Reading
import AddonBindings.Proofs.Text.Word

/-!
Contract: the names that are declared in a Go file.

Owns:
- that name tokens are words;
- the law on all function declarations of a source.

Does not own: that declared names are read from name tokens, which is in
`AddonBindings.Proofs.Go.Reading`, and which functions are exported.
-/

namespace AddonBindings.Go

open AddonBindings.Text

/-! ## Name tokens -/

private theorem isWordCharacter_of_isIdentifierStart {c : Char}
    (start : isIdentifierStart c = true) :
    isWordCharacter c = true := by
  by_cases ascii : c.toNat < 128
  · rw [isIdentifierStart, if_pos ascii] at start
    exact isWordCharacter_of_isAsciiNameRest (isAsciiNameRest_of_isAsciiNameStart start)
  · rw [isWordCharacter, decide_eq_true (Nat.le_of_not_lt ascii), Bool.true_or]

theorem IsLexedAs.isWord {lexeme : Lexeme} {cs after : List Char}
    (isLexed : IsLexedAs lexeme cs after) (isName : lexeme.kind = .name) :
    Text.isWord lexeme.text = true := by
  obtain ⟨first, more, left, -, isCut, isText, -⟩ := isLexed
  obtain ⟨start, rfl⟩ := cut_eq_name (isCut.trans (congrArg (·, left) isName))
  rw [isWord_iff, isText, take_length_sub_dropWhile]
  refine ⟨List.cons_ne_nil _ _, List.forall_mem_cons.mpr ⟨?_, fun c inName => ?_⟩⟩
  · exact isWordCharacter_of_isIdentifierStart start
  · exact isWordCharacter_of_isIdentifierRest
      (List.all_eq_true.mp List.all_takeWhile c inName)

private theorem isWord_of_mem_lexemes {source : String} {lexeme : Lexeme}
    (member : lexeme ∈ lexemes source)
    (isName : lexeme.kind = .name) : isWord lexeme.text = true := by
  have noBlank : lexeme.kind ≠ .blank := by
    rw [isName]
    decide
  obtain ⟨front, after, isLexed⟩ := exists_isLexedAs_of_mem_lexemes member noBlank
  exact isLexed.isWord isName

private theorem isWord_of_isNamedIn {source name : String}
    (named : IsNamedIn (tokens source) name) :
    isWord name = true := by
  obtain ⟨token, member, isName, rfl⟩ := named
  rcases (mem_of_mem_tokensAfter member).2 with inLexemes | isFinish
  · exact isWord_of_mem_lexemes inLexemes isName
  · rw [isName] at isFinish
    cases isFinish

/-- All names of the function declarations of a source are words. -/
theorem isWord_of_readSource {source : String} {children : List RootChild}
    (read : readSource source = .ok children) {node : Node} (member : .node node ∈ children)
    {declaration : FunctionDeclaration} (isFunction : node.content = .function declaration) :
    ∀ name ∈ declaration.names, isWord name = true := by
  intro name isName
  refine isWord_of_isNamedIn (isNamedIn_of_readSource read name ?_)
  refine List.mem_flatMap.mpr ⟨.node node, member, ?_⟩
  rwa [RootChild.names, isFunction]

end AddonBindings.Go

import AddonBindings.Go.Grammar

/-!
Contract: which tokens recognition takes.

Owns:
- readers that take tokens from the front, all of them with a property;
- the kinds of lexemes that a pattern asks for;
- the law that recognition only takes tokens of the kinds that are asked for.

Does not own: how many tokens a construct takes, which is in
`AddonBindings.Proofs.Go.TokenCount`.
-/

namespace AddonBindings.Go

variable {P : Token → Prop} {token : Token} {tokens middle rest : List Token}

/-- The tokens from `tokens` up to `rest` have the property. -/
def GoesOver (P : Token → Prop) (tokens rest : List Token) : Prop :=
  ∃ taken, taken ++ rest = tokens ∧ ∀ token ∈ taken, P token

namespace GoesOver

theorem refl (tokens : List Token) : GoesOver P tokens tokens :=
  ⟨[], rfl, List.forall_mem_nil _⟩

theorem cons (holds : P token) (rest : List Token) : GoesOver P (token :: rest) rest :=
  ⟨[token], rfl, List.forall_mem_singleton.mpr holds⟩

theorem trans (front : GoesOver P tokens middle) (back : GoesOver P middle rest) :
    GoesOver P tokens rest := by
  obtain ⟨first, rfl, firstHolds⟩ := front
  obtain ⟨second, rfl, secondHolds⟩ := back
  exact ⟨first ++ second, List.append_assoc first second rest,
    List.forall_mem_append.mpr ⟨firstHolds, secondHolds⟩⟩

theorem suffix (goes : GoesOver P tokens rest) : rest <:+ tokens := by
  obtain ⟨taken, isTokens, -⟩ := goes
  exact ⟨taken, isTokens⟩

end GoesOver

/-- A reader only takes tokens with the property. -/
def TakesOnly (P : Token → Prop) (reader : List Token → Option (List Token)) : Prop :=
  ∀ tokens rest, reader tokens = some rest → GoesOver P tokens rest

/-- A reader only takes tokens from the front. -/
def TakesFront (reader : List Token → Option (List Token)) : Prop :=
  ∀ tokens rest, reader tokens = some rest → rest <:+ tokens

theorem TakesOnly.takesFront {reader : List Token → Option (List Token)}
    (takes : TakesOnly P reader) : TakesFront reader :=
  fun tokens rest read => (takes tokens rest read).suffix

namespace Pattern

variable {Rule : Type} {call : Rule → Place → List Token → Option (List Token)}

def kinds : Pattern Rule → List LexemeKind
  | nothing | rule _ => []
  | fixed _ | terminator => [.fixed]
  | anyOf kind => [kind]
  | next first second | either first second => kinds first ++ kinds second
  | maybe part | many part | joined part | literal part | within _ part => kinds part

private theorem takesOnly_single {test : Token → Bool}
    (holds : ∀ token, test token = true → P token) :
    TakesOnly P (single test) := by
  intro tokens rest read
  cases tokens with
  | nil => cases read
  | cons token others =>
      rw [single] at read
      split at read
      · rename_i passes
        cases read
        exact .cons (holds token passes) _
      · cases read

private theorem goesOver_exhaust {step : List Token → Option (List Token)}
    (steps : TakesOnly P step)
    (count : Nat) (tokens : List Token) : GoesOver P tokens (exhaust step count tokens) := by
  induction count generalizing tokens with
  | zero => exact .refl tokens
  | succ count inductionHypothesis =>
      rw [exhaust]
      cases taken : step tokens with
      | none => exact .refl tokens
      | some rest => exact (steps tokens rest taken).trans (inductionHypothesis rest)

theorem kind_of_isFixed {text : String} (isFixed : token.isFixed text = true) :
    token.lexeme.kind = .fixed := by
  rw [Token.isFixed, Bool.and_eq_true, decide_eq_true_eq] at isFixed
  exact isFixed.1

private theorem takesOnly_afterItem
    (holds : ∀ token : Token, token.lexeme.kind = .fixed → P token) :
    TakesOnly P afterItem := by
  intro tokens rest read
  cases tokens with
  | nil => cases read
  | cons token others =>
      rw [afterItem] at read
      split at read
      · cases read
        exact .refl _
      · split at read
        · rename_i isSemicolon
          cases read
          exact .cons (holds token (kind_of_isFixed isSemicolon)) _
        · split at read
          · cases read
            exact .refl _
          · cases read

private theorem takesOnly_unless {test : List Token → Bool}
    {reader : List Token → Option (List Token)}
    (takes : TakesOnly P reader) :
    TakesOnly P fun tokens => if test tokens then none else reader tokens := by
  intro tokens rest read
  dsimp only at read
  split at read
  · cases read
  · exact takes tokens rest read

/-- A pattern only takes what it asks for, if the rules in it do. -/
theorem takesOnly_recognise (calls : ∀ name place, TakesOnly P (call name place))
    (pattern : Pattern Rule)
    (holds : ∀ token : Token, token.lexeme.kind ∈ pattern.kinds → P token) (place : Place) :
    TakesOnly P (pattern.recognise call place) := by
  induction pattern generalizing place with
  | nothing =>
      intro tokens rest read
      cases read
      exact .refl _
  | fixed text =>
      refine takesOnly_single fun token isFixed => holds token ?_
      rw [kind_of_isFixed isFixed]
      exact List.mem_singleton_self _
  | anyOf kind =>
      refine takesOnly_single fun token isKind => holds token ?_
      rw [of_decide_eq_true isKind]
      exact List.mem_singleton_self _
  | rule name => exact calls name place
  | next first second firstHypothesis secondHypothesis =>
      intro tokens rest read
      rw [recognise] at read
      split at read
      · cases read
      · rename_i middle front
        have before := firstHypothesis
          (fun token member => holds token (List.mem_append_left _ member)) _ tokens middle front
        have after := secondHypothesis
          (fun token member => holds token (List.mem_append_right _ member)) place middle rest read
        exact before.trans after
  | either first second firstHypothesis secondHypothesis =>
      intro tokens rest read
      rw [recognise] at read
      split at read
      · exact secondHypothesis (fun token member => holds token (List.mem_append_right _ member))
          place tokens rest read
      · rename_i found front
        cases read
        exact firstHypothesis (fun token member => holds token (List.mem_append_left _ member))
          place tokens _ front
  | maybe part partHypothesis =>
      intro tokens rest read
      rw [recognise] at read
      split at read
      · cases read
        exact .refl _
      · split at read
        · cases read
          exact .refl _
        · rename_i found front
          cases read
          exact partHypothesis holds place tokens _ front
  | many part partHypothesis =>
      intro tokens rest read
      cases read
      exact goesOver_exhaust (takesOnly_unless (partHypothesis holds place)) _ _
  | joined part partHypothesis => exact takesOnly_unless (partHypothesis holds place)
  | literal part partHypothesis =>
      intro tokens rest read
      rw [recognise] at read
      split at read
      · exact partHypothesis holds place tokens rest read
      · cases read
  | within other part partHypothesis => exact partHypothesis holds other
  | terminator =>
      refine takesOnly_afterItem fun token isFixed => holds token ?_
      rw [isFixed]
      exact List.mem_singleton_self _

/-- A pattern takes tokens from the front if the rules in it do. -/
theorem takesFront_recognise (calls : ∀ name place, TakesFront (call name place))
    (pattern : Pattern Rule) (place : Place) : TakesFront (pattern.recognise call place) := by
  have calls : ∀ name place, TakesOnly (fun _ => True) (call name place) := by
    intro name place tokens rest read
    obtain ⟨taken, isTokens⟩ := calls name place tokens rest read
    exact ⟨taken, isTokens, fun _ _ => trivial⟩
  exact (takesOnly_recognise calls pattern (fun _ _ => trivial) place).takesFront

end Pattern

namespace Rule

/-- What holds of the kinds in every pattern holds of all tokens that are taken. -/
theorem takesOnly_recogniseWithin
    (holds : ∀ (rule : Rule) (token : Token), token.lexeme.kind ∈ rule.pattern.kinds → P token)
    (depth : Nat) (rule : Rule) (place : Place) :
    TakesOnly P (recogniseWithin depth rule place) := by
  -- the depth bounds the nesting of rules, so the rules inside a pattern have one less
  induction depth generalizing rule place with
  | zero =>
      intro tokens rest read
      cases read
  | succ depth inductionHypothesis =>
      exact Pattern.takesOnly_recognise inductionHypothesis rule.pattern (holds rule) place

theorem takesFront_recogniseWithin (depth : Nat) (rule : Rule) (place : Place) :
    TakesFront (recogniseWithin depth rule place) :=
  (takesOnly_recogniseWithin (P := fun _ => True) (fun _ _ _ => trivial)
    depth rule place).takesFront

theorem takesFront_recognise (rule : Rule) (place : Place) : TakesFront (rule.recognise place) :=
  fun tokens => takesFront_recogniseWithin _ rule place tokens

end Rule

theorem consumed_append (isEnd : rest <:+ tokens) : consumed tokens rest ++ rest = tokens := by
  obtain ⟨taken, rfl⟩ := isEnd
  simp [consumed]

end AddonBindings.Go

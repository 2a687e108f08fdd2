import AddonBindings.Go.Grammar

/-!
Contract: what the first token says about a construct.

Owns:
- whether a pattern may take a given first token, and whether it may match without
  taking any;
- constructs that do not start with a closing or an opening brace.

Does not own: recognition of constructs that are there, which is in
`AddonBindings.Proofs.Go.PrintedReading`.
-/

namespace AddonBindings.Go

/-- What a pattern may do on a first token: take it, or match without taking any. -/
structure Start where
  takes : Bool
  skips : Bool
deriving DecidableEq

namespace Pattern

variable {Rule : Type}

/-- What a pattern may do on a first token of the given kind and text, if this is known
of the rules in it. -/
def startOn (table : Rule → Start) (kind : LexemeKind) (text : String) : Pattern Rule → Start
  | nothing => ⟨false, true⟩
  | fixed expected => ⟨kind = .fixed && text == expected, false⟩
  | anyOf expected => ⟨kind = expected, false⟩
  | rule name => table name
  | next first second =>
      let before := startOn table kind text first
      let after := startOn table kind text second
      ⟨before.takes || (before.skips && after.takes), before.skips && after.skips⟩
  | either first second =>
      let left := startOn table kind text first
      let right := startOn table kind text second
      ⟨left.takes || right.takes, left.skips || right.skips⟩
  | maybe part | many part => ⟨(startOn table kind text part).takes, true⟩
  | joined part | literal part | within _ part => startOn table kind text part
  | terminator => ⟨kind = .fixed && text == ";", true⟩

/-- The result of a reader agrees with what it may do on the first of the tokens. -/
def Agrees (start : Start) (tokens : List Token) (result : Option (List Token)) : Prop :=
  ∀ rest, result = some rest → start.takes = true ∨ start.skips = true ∧ rest = tokens

private theorem exhaust_eq_self {step : List Token → Option (List Token)} {tokens : List Token}
    (stays : ∀ rest, step tokens = some rest → rest = tokens) (count : Nat) :
    exhaust step count tokens = tokens := by
  induction count with
  | zero => rfl
  | succ count inductionHypothesis =>
      rw [exhaust]
      cases taken : step tokens with
      | none => rfl
      | some rest =>
          dsimp only
          rw [stays rest taken, inductionHypothesis]

private theorem agrees_unless {start : Start} {tokens : List Token} {result : Option (List Token)}
    (agrees : Agrees start tokens result) (condition : Bool) :
    Agrees start tokens (if condition then none else result) := by
  intro rest read
  split at read
  · cases read
  · exact agrees rest read

/-- Recognition agrees with the analysis of the first token. -/
theorem agrees_recognise {call : Rule → Place → List Token → Option (List Token)}
    {table : Rule → Start} {token : Token} {rest : List Token}
    (calls : ∀ name place, Agrees (table name) (token :: rest) (call name place (token :: rest)))
    (pattern : Pattern Rule) (place : Place) :
    Agrees (pattern.startOn table token.lexeme.kind token.lexeme.text) (token :: rest)
      (pattern.recognise call place (token :: rest)) := by
  induction pattern generalizing place with
  | nothing =>
      intro left read
      cases read
      exact .inr ⟨rfl, rfl⟩
  | fixed text =>
      intro left read
      rw [recognise, single] at read
      split at read
      · rename_i isFixed
        exact .inl isFixed
      · cases read
  | anyOf kind =>
      intro left read
      rw [recognise, single] at read
      split at read
      · rename_i isKind
        exact .inl isKind
      · cases read
  | rule name => exact calls name place
  | next first second firstHypothesis secondHypothesis =>
      intro left read
      rw [recognise] at read
      split at read
      · cases read
      · rename_i middle front
        rcases firstHypothesis _ middle front with takes | ⟨skips, rfl⟩
        · exact .inl (by simp [startOn, takes])
        · rcases secondHypothesis _ left read with takes | ⟨skipsToo, rfl⟩
          · exact .inl (by simp [startOn, skips, takes])
          · exact .inr ⟨by simp [startOn, skips, skipsToo], rfl⟩
  | either first second firstHypothesis secondHypothesis =>
      intro left read
      rw [recognise] at read
      split at read
      · rcases secondHypothesis _ left read with takes | ⟨skips, rfl⟩
        · exact .inl (by simp [startOn, takes])
        · exact .inr ⟨by simp [startOn, skips], rfl⟩
      · rename_i found front
        cases read
        rcases firstHypothesis _ _ front with takes | ⟨skips, same⟩
        · exact .inl (by simp [startOn, takes])
        · exact .inr ⟨by simp [startOn, skips], same⟩
  | maybe part partHypothesis =>
      intro left read
      rw [recognise] at read
      split at read
      · cases read
        exact .inr ⟨rfl, rfl⟩
      · split at read
        · cases read
          exact .inr ⟨rfl, rfl⟩
        · rename_i found front
          cases read
          rcases partHypothesis place _ front with takes | ⟨-, same⟩
          · exact .inl takes
          · exact .inr ⟨rfl, same⟩
  | many part partHypothesis =>
      intro left read
      cases read
      cases takes : (part.startOn table token.lexeme.kind token.lexeme.text).takes with
      | true => exact .inl takes
      | false =>
          refine .inr ⟨rfl, exhaust_eq_self (fun left read => ?_) _⟩
          rcases agrees_unless (partHypothesis place) _ left read with takesIt | ⟨-, same⟩
          · rw [takes] at takesIt
            cases takesIt
          · exact same
  | joined part partHypothesis => exact agrees_unless (partHypothesis place) _
  | literal part partHypothesis =>
      intro left read
      rw [recognise] at read
      split at read
      · exact partHypothesis place left read
      · cases read
  | within other part partHypothesis => exact partHypothesis other
  | terminator =>
      intro left read
      rw [recognise, afterItem] at read
      split at read
      · cases read
        exact .inr ⟨rfl, rfl⟩
      · split at read
        · rename_i isSemicolon
          exact .inl isSemicolon
        · split at read
          · cases read
            exact .inr ⟨rfl, rfl⟩
          · cases read

end Pattern

namespace Rule

/-- Only the `starters` may take a first token of the given kind and text, and no construct
matches without taking a token. -/
def OnlyStart (starters : List Rule) (kind : LexemeKind) (text : String) : Prop :=
  ∀ rule : Rule,
    rule.pattern.startOn (fun other => ⟨decide (other ∈ starters), false⟩) kind text =
      ⟨decide (rule ∈ starters), false⟩

/-- No rule but a starter takes a token of this kind and text. -/
theorem recogniseWithin_eq_none {starters : List Rule} {token : Token}
    (onlyStart : OnlyStart starters token.lexeme.kind token.lexeme.text) {rule : Rule}
    (noStarter : rule ∉ starters) (depth : Nat) (place : Place) (rest : List Token) :
    recogniseWithin depth rule place (token :: rest) = none := by
  -- the depth bounds the nesting of rules, so the rules inside a pattern have one less
  have agrees : ∀ depth name place, Pattern.Agrees ⟨decide (name ∈ starters), false⟩ (token :: rest)
      (recogniseWithin depth name place (token :: rest)) := by
    intro depth
    induction depth with
    | zero =>
        intro name place left read
        cases read
    | succ depth inductionHypothesis =>
        intro name place
        rw [← onlyStart name]
        exact Pattern.agrees_recognise inductionHypothesis name.pattern place
  rw [Option.eq_none_iff_forall_ne_some]
  intro left read
  rcases agrees depth rule place left read with takes | ⟨skips, -⟩
  · exact noStarter (of_decide_eq_true takes)
  · cases skips

/-- No construct starts with a closing brace. -/
theorem onlyStart_closingBrace : OnlyStart [] .fixed "\x7d" := by
  intro rule
  cases rule <;> rfl

/-- The constructs that start with an opening brace. -/
theorem onlyStart_openingBrace :
    OnlyStart [block, statementItem, statement, literalValue, element, elementValue] .fixed
      "\x7b" := by
  intro rule
  cases rule <;> rfl

end Rule

end AddonBindings.Go

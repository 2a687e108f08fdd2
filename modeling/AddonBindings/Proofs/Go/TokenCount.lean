import AddonBindings.Go.Parameters
import AddonBindings.Proofs.Go.Recognition

/-!
Contract: how many tokens a construct takes.

Owns:
- a lower bound for the tokens a pattern takes, from bounds for the rules in it;
- that a type of one token is a name.

Does not own: which tokens a construct may start with, which is in
`AddonBindings.Proofs.Go.FirstToken`.
-/

namespace AddonBindings.Go

namespace Pattern

variable {Rule : Type}

/-- How many tokens a pattern takes at least, if this is known of the rules in it. -/
def least (table : Rule → Nat) : Pattern Rule → Nat
  | nothing | maybe _ | many _ | terminator => 0
  | fixed _ | anyOf _ => 1
  | rule name => table name
  | next first second => least table first + least table second
  | either first second => min (least table first) (least table second)
  | joined part | literal part | within _ part => least table part

/-- A reader takes at least so many tokens. -/
def TakesLeast (count : Nat) (reader : List Token → Option (List Token)) : Prop :=
  ∀ tokens rest, reader tokens = some rest → rest.length + count ≤ tokens.length

private theorem takesLeast_zero {reader : List Token → Option (List Token)}
    (takes : TakesFront reader) :
    TakesLeast 0 reader :=
  fun tokens rest read => (takes tokens rest read).length_le

private theorem takesLeast_single (test : Token → Bool) : TakesLeast 1 (single test) := by
  intro tokens rest read
  cases tokens with
  | nil => cases read
  | cons token others =>
      rw [single] at read
      split at read
      · cases read
        exact Nat.le_refl _
      · cases read

theorem takesLeast_recognise {call : Rule → Place → List Token → Option (List Token)}
    {table : Rule → Nat} (fronts : ∀ name place, TakesFront (call name place))
    (calls : ∀ name place, TakesLeast (table name) (call name place)) (pattern : Pattern Rule)
    (place : Place) : TakesLeast (pattern.least table) (pattern.recognise call place) := by
  induction pattern generalizing place with
  | nothing => exact takesLeast_zero (takesFront_recognise fronts nothing place)
  | fixed text => exact takesLeast_single _
  | anyOf kind => exact takesLeast_single _
  | rule name => exact calls name place
  | next first second firstHypothesis secondHypothesis =>
      intro tokens rest read
      rw [recognise] at read
      split at read
      · cases read
      · rename_i middle front
        have before := firstHypothesis _ tokens middle front
        have after := secondHypothesis place middle rest read
        rw [least]
        omega
  | either first second firstHypothesis secondHypothesis =>
      intro tokens rest read
      rw [recognise] at read
      split at read
      · have taken := secondHypothesis place tokens rest read
        rw [least]
        omega
      · rename_i found front
        cases read
        have taken := firstHypothesis place tokens _ front
        rw [least]
        omega
  | maybe part partHypothesis => exact takesLeast_zero (takesFront_recognise fronts (maybe part) place)
  | many part partHypothesis => exact takesLeast_zero (takesFront_recognise fronts (many part) place)
  | joined part partHypothesis =>
      intro tokens rest read
      rw [recognise] at read
      split at read
      · cases read
      · exact partHypothesis place tokens rest read
  | literal part partHypothesis =>
      intro tokens rest read
      rw [recognise] at read
      split at read
      · exact partHypothesis place tokens rest read
      · cases read
  | within other part partHypothesis => exact partHypothesis other
  | terminator => exact takesLeast_zero (takesFront_recognise fronts terminator place)

end Pattern

namespace Rule

/-- How many tokens a construct takes at least. -/
def least : Rule → Nat
  | channelType => 2
  | arrayType | mapType | structType | interfaceType => 3
  | _ => 1

private theorem least_le_least_pattern (rule : Rule) : rule.least ≤ rule.pattern.least least := by
  cases rule <;> decide

theorem takesLeast_recogniseWithin (depth : Nat) (rule : Rule) (place : Place) :
    Pattern.TakesLeast rule.least (recogniseWithin depth rule place) := by
  induction depth generalizing rule place with
  | zero =>
      intro tokens rest read
      cases read
  | succ depth inductionHypothesis =>
      intro tokens rest read
      have taken := Pattern.takesLeast_recognise (takesFront_recogniseWithin depth) inductionHypothesis
        rule.pattern place tokens rest read
      have enough := least_le_least_pattern rule
      omega

private theorem kind_of_typeName {depth : Nat} {place : Place} {first : Token}
    {others rest : List Token}
    (read : recogniseWithin depth typeName place (first :: others) = some rest) :
    first.lexeme.kind = .name := by
  cases depth with
  | zero => cases read
  | succ depth =>
      obtain ⟨more, isNext⟩ : ∃ more, typeName.pattern = .next (.anyOf .name) more := ⟨_, rfl⟩
      rw [recogniseWithin] at read
      dsimp only at read
      rw [isNext, Pattern.recognise] at read
      split at read
      · cases read
      · rename_i middle named
        rw [Pattern.recognise, Pattern.single] at named
        split at named
        · rename_i isName
          exact of_decide_eq_true isName
        · cases named

theorem kind_of_type {depth : Nat} {place : Place} {first : Token} {others : List Token}
    (read : recogniseWithin depth type place (first :: others) = some others) :
    first.lexeme.kind = .name := by
  cases depth with
  | zero => cases read
  | succ depth =>
      -- every type that is not just a name takes two tokens
      obtain ⟨longer, isEither, two⟩ : ∃ longer, type.pattern = .either (.rule typeName) longer ∧
          2 ≤ longer.least least := ⟨_, rfl, by decide⟩
      rw [recogniseWithin] at read
      dsimp only at read
      rw [isEither, Pattern.recognise] at read
      split at read
      · have taken := Pattern.takesLeast_recognise (takesFront_recogniseWithin depth)
          (takesLeast_recogniseWithin depth) longer place _ _ read
        rw [List.length_cons] at taken
        omega
      · rename_i left named
        exact kind_of_typeName named

end Rule

/-- A type of one token is a name, and stands in front. -/
theorem kind_of_readType {place : Place} {tokens rest : List Token} {name : Token}
    (read : readType place tokens = some (⟨[name]⟩, rest)) :
    name ∈ tokens ∧ name.lexeme.kind = .name := by
  obtain ⟨left, recognised, same⟩ := Option.map_eq_some_iff.mp read
  obtain ⟨taken, rfl⟩ := Prod.mk.inj same
  have parts := consumed_append (Rule.takesFront_recognise .type place tokens left recognised)
  rw [(TypeSyntax.mk.inj taken)] at parts
  subst parts
  exact ⟨List.mem_cons_self, Rule.kind_of_type recognised⟩

end AddonBindings.Go

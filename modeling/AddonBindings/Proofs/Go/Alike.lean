import AddonBindings.Go.SourceFile
import AddonBindings.Proofs.Go.LineEndings
import AddonBindings.Proofs.Go.TokenCount

/-!
Contract: reading does not tell tokens apart that are alike.

Owns:
- what is seen of a token: its kind, its word, whether it starts a line;
- recognition of patterns and constructs in tokens that are alike.

Does not own: the children that are read, which are in `AddonBindings.Proofs.Go.AlikeChildren`.
-/

namespace AddonBindings.Go

variable {token other : Token} {tokens others : List Token}

/-! ## What is seen of a token -/

theorem IsSpelledLike.lineFeed_mem_iff {kind : LexemeKind} {chars others : List Char}
    (spelled : IsSpelledLike kind chars others) : '\n' ∈ others ↔ '\n' ∈ chars := by
  rw [← List.count_pos_iff, ← List.count_pos_iff, spelled.lineFeeds]

namespace Token.IsLike

theorem text (isLike : token.IsLike other)
    (isWord : token.lexeme.kind = .name ∨ token.lexeme.kind = .fixed) :
    other.lexeme.text = token.lexeme.text :=
  String.toList_injective (isLike.lexeme.spelled.word isWord)

theorem isFixed (isLike : token.IsLike other) (text : String) :
    other.isFixed text = token.isFixed text := by
  rw [Token.isFixed, Token.isFixed, isLike.lexeme.kind]
  by_cases fixed : token.lexeme.kind = .fixed
  · rw [isLike.text (.inr fixed)]
  · simp [fixed]

theorem isFinish (isLike : token.IsLike other) : other.isFinish = token.isFinish := by
  rw [Token.isFinish, Token.isFinish, isLike.lexeme.kind]

theorem startsLine (isLike : token.IsLike other) : other.startsLine = token.startsLine := by
  rw [Token.startsLine, Token.startsLine]
  have areLike := isLike.lead
  generalize token.lead = lead, other.lead = otherLead at areLike ⊢
  induction areLike with
  | nil => rfl
  | cons first _ inductionHypothesis =>
      rw [List.any_cons, List.any_cons, inductionHypothesis, first.kind, List.contains_eq_mem,
        List.contains_eq_mem, decide_eq_decide.mpr first.spelled.lineFeed_mem_iff]

theorem name (isLike : token.IsLike other) (isName : token.lexeme.kind = .name) :
    other.name = token.name :=
  isLike.text (.inl isName)

theorem comments (isLike : token.IsLike other) :
    List.Forall₂ (fun comment otherComment => comment.IsLike otherComment ∧
      IsCommentLike comment.text otherComment.text) token.comments other.comments := by
  rw [Token.comments, Token.comments]
  have areLike := isLike.lead
  generalize token.lead = lead, other.lead = otherLead at areLike ⊢
  induction areLike with
  | nil => exact .nil
  | cons first _ inductionHypothesis =>
      rw [List.filter_cons, List.filter_cons, first.kind]
      split
      · rename_i isComment
        have isCommentLike := first.spelled.comment (of_decide_eq_true isComment)
        rw [String.ofList_toList, String.ofList_toList] at isCommentLike
        exact .cons ⟨first, isCommentLike⟩ inductionHypothesis
      · exact inductionHypothesis

end Token.IsLike

/-! ## Optional results -/

section Option

variable {α β γ δ : Type} {R : α → β → Prop} {S : γ → δ → Prop} {a : Option α} {b : Option β}

theorem cases_of_rel (rel : Option.Rel R a b) :
    (a = none ∧ b = none) ∨ ∃ x y, a = some x ∧ b = some y ∧ R x y := by
  cases rel with
  | none => exact .inl ⟨rfl, rfl⟩
  | some holds => exact .inr ⟨_, _, rfl, rfl, holds⟩

theorem rel_map {f : α → γ} {g : β → δ} (rel : Option.Rel R a b)
    (holds : ∀ {x y}, R x y → S (f x) (g y)) : Option.Rel S (a.map f) (b.map g) := by
  cases rel with
  | none => exact .none
  | some related => exact .some (holds related)

theorem rel_or {a' : Option α} {b' : Option β} (rel : Option.Rel R a b)
    (other : Option.Rel R a' b') : Option.Rel R (a.or a') (b.or b') := by
  cases rel with
  | none => exact other
  | some related => exact .some related

theorem rel_bind {f : α → Option γ} {g : β → Option δ} (rel : Option.Rel R a b)
    (holds : ∀ {x y}, R x y → Option.Rel S (f x) (g y)) :
    Option.Rel S (a.bind f) (b.bind g) := by
  cases rel with
  | none => exact .none
  | some related => exact holds related

end Option

/-! ## Recognition -/

/-- A reader leaves tokens over that are alike, or none of either. -/
def TakesAlike (reader : List Token → Option (List Token)) : Prop :=
  ∀ ⦃tokens others⦄, AreLike tokens others → Option.Rel AreLike (reader tokens) (reader others)

namespace Pattern

variable {Rule : Type} {call : Rule → Place → List Token → Option (List Token)}

theorem endsHere_eq (place : Place) (areLike : AreLike tokens others) :
    endsHere place others = endsHere place tokens := by
  cases areLike with
  | nil => rfl
  | cons isLike _ =>
      rw [endsHere, endsHere, List.head?_cons, List.head?_cons, Option.any_some, Option.any_some,
        isLike.startsLine]

private theorem takesAlike_single {test : Token → Bool}
    (same : ∀ ⦃token other⦄, Token.IsLike token other → test other = test token) :
    TakesAlike (single test) := by
  intro tokens others areLike
  cases areLike with
  | nil => exact .none
  | cons isLike areLike =>
      rw [single, single, same isLike]
      split
      · exact .some areLike
      · exact .none

private theorem takesAlike_unless {reader : List Token → Option (List Token)} (place : Place)
    (takes : TakesAlike reader) :
    TakesAlike fun tokens => if endsHere place tokens then none else reader tokens := by
  intro tokens others areLike
  dsimp only
  rw [endsHere_eq place areLike]
  split
  · exact .none
  · exact takes areLike

private theorem areLike_exhaust {step : List Token → Option (List Token)} (steps : TakesAlike step)
    (count : Nat) (areLike : AreLike tokens others) :
    AreLike (exhaust step count tokens) (exhaust step count others) := by
  induction count generalizing tokens others with
  | zero => exact areLike
  | succ count inductionHypothesis =>
      rw [exhaust, exhaust]
      rcases cases_of_rel (steps areLike) with
        ⟨none, otherNone⟩ | ⟨rest, otherRest, found, otherFound, restAreLike⟩
      · rw [none, otherNone]
        exact areLike
      · rw [found, otherFound]
        exact inductionHypothesis restAreLike

private theorem takesAlike_afterItem : TakesAlike afterItem := by
  intro tokens others areLike
  cases areLike with
  | nil => exact .none
  | cons isLike areLike =>
      rw [afterItem, afterItem, isLike.startsLine, isLike.isFixed, isLike.isFixed, isLike.isFixed,
        isLike.isFinish]
      split
      · exact .some (.cons isLike areLike)
      · split
        · exact .some areLike
        · split
          · exact .some (.cons isLike areLike)
          · exact .none

/-- A pattern does not tell tokens apart that are alike if the rules in it do not. -/
theorem takesAlike_recognise (calls : ∀ name place, TakesAlike (call name place))
    (pattern : Pattern Rule) (place : Place) : TakesAlike (pattern.recognise call place) := by
  induction pattern generalizing place with
  | nothing => exact fun _ _ areLike => .some areLike
  | fixed text => exact takesAlike_single fun _ _ isLike => isLike.isFixed text
  | anyOf kind => exact takesAlike_single fun _ _ isLike => by rw [isLike.lexeme.kind]
  | rule name => exact calls name place
  | next first second firstHypothesis secondHypothesis =>
      intro tokens others areLike
      rw [recognise, recognise]
      rcases cases_of_rel (firstHypothesis _ areLike) with
        ⟨none, otherNone⟩ | ⟨rest, otherRest, found, otherFound, restAreLike⟩
      · rw [none, otherNone]
        exact .none
      · rw [found, otherFound]
        exact secondHypothesis place restAreLike
  | either first second firstHypothesis secondHypothesis =>
      intro tokens others areLike
      rw [recognise, recognise]
      rcases cases_of_rel (firstHypothesis place areLike) with
        ⟨none, otherNone⟩ | ⟨rest, otherRest, found, otherFound, restAreLike⟩
      · rw [none, otherNone]
        exact secondHypothesis place areLike
      · rw [found, otherFound]
        exact .some restAreLike
  | maybe part partHypothesis =>
      intro tokens others areLike
      rw [recognise, recognise, endsHere_eq place areLike]
      split
      · exact .some areLike
      · rcases cases_of_rel (partHypothesis place areLike) with
          ⟨none, otherNone⟩ | ⟨rest, otherRest, found, otherFound, restAreLike⟩
        · rw [none, otherNone]
          exact .some areLike
        · rw [found, otherFound]
          exact .some restAreLike
  | many part partHypothesis =>
      intro tokens others areLike
      rw [recognise, recognise, areLike.length_eq]
      exact .some (areLike_exhaust (takesAlike_unless place (partHypothesis place)) _ areLike)
  | joined part partHypothesis => exact takesAlike_unless place (partHypothesis place)
  | literal part partHypothesis =>
      intro tokens others areLike
      rw [recognise, recognise]
      split
      · exact partHypothesis place areLike
      · exact .none
  | within other part partHypothesis => exact partHypothesis other
  | terminator => exact takesAlike_afterItem

end Pattern

namespace Rule

private theorem takesAlike_recogniseWithin (depth : Nat) (rule : Rule) (place : Place) :
    TakesAlike (recogniseWithin depth rule place) := by
  -- the rules inside a pattern are nested one less deep
  induction depth generalizing rule place with
  | zero => exact fun _ _ _ => .none
  | succ depth inductionHypothesis =>
      exact Pattern.takesAlike_recognise inductionHypothesis rule.pattern place

theorem takesAlike_recognise (rule : Rule) (place : Place) :
    TakesAlike (rule.recognise place) := by
  intro tokens others areLike
  rw [recognise, recognise, depthBound, depthBound, areLike.length_eq]
  exact takesAlike_recogniseWithin _ rule place areLike

end Rule

end AddonBindings.Go

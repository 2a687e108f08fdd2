import AddonBindings.Go.Syntax

/-!
Contract: what stands in a source in order.

Owns:
- the order of places, and that characters only move forward;
- children of a file in source order;
- spans that follow one another between two places;
- the order of the lexemes and tokens of a source.

Does not own: the children that are read from tokens, which are in
`AddonBindings.Proofs.Go.Reading`.
-/

namespace AddonBindings.Go

/-! ## Places -/

namespace Position

/-- The first place is not behind the second. -/
def NotAfter (first second : Position) : Prop :=
  first.row < second.row ∨ first.row = second.row ∧ first.column ≤ second.column

instance (first second : Position) : Decidable (first.NotAfter second) :=
  inferInstanceAs (Decidable (_ ∨ _))

theorem NotAfter.refl (position : Position) : position.NotAfter position :=
  .inr ⟨rfl, Nat.le_refl _⟩

theorem NotAfter.trans {first second third : Position} (front : first.NotAfter second)
    (back : second.NotAfter third) : first.NotAfter third := by
  unfold NotAfter at *
  omega

theorem NotAfter.row_le {first second : Position} (ordered : first.NotAfter second) :
    first.row ≤ second.row := by
  unfold NotAfter at ordered
  omega

theorem notAfter_after (position : Position) (c : Char) : position.NotAfter (position.after c) := by
  rw [after]
  by_cases isBreak : c = '\n'
  · rw [if_pos isBreak]
    exact .inl (Nat.lt_succ_self _)
  · rw [if_neg isBreak]
    exact .inr ⟨rfl, Nat.le_add_right _ _⟩

theorem notAfter_advance (position : Position) (cs : List Char) :
    position.NotAfter (position.advance cs) := by
  induction cs generalizing position with
  | nil => exact .refl position
  | cons c cs inductionHypothesis =>
      rw [advance_cons]
      exact (notAfter_after position c).trans (inductionHypothesis _)

end Position

/-- No child ends before it starts, and none starts before an earlier one ends. -/
structure InSourceOrder (children : List RootChild) : Prop where
  spans : ∀ child ∈ children, child.start.NotAfter child.stop
  ordered : children.Pairwise fun earlier later => earlier.stop.NotAfter later.start

theorem InSourceOrder.of_append {front back : List RootChild}
    (inOrder : InSourceOrder (front ++ back)) : InSourceOrder front where
  spans child member := inOrder.spans child (List.mem_append_left back member)
  ordered := (List.pairwise_append.mp inOrder.ordered).1

/-- A child does not start above the row on which an earlier one ends. -/
theorem InSourceOrder.row_le {front back : List RootChild}
    (inOrder : InSourceOrder (front ++ back)) {earlier later : RootChild}
    (inFront : earlier ∈ front) (inBack : later ∈ back) : earlier.stop.row ≤ later.start.row :=
  ((List.pairwise_append.mp inOrder.ordered).2.2 earlier inFront later inBack).row_le

theorem InSourceOrder.start_row_le_stop_row {children : List RootChild}
    (inOrder : InSourceOrder children) {child : RootChild} (member : child ∈ children) :
    child.start.row ≤ child.stop.row :=
  (inOrder.spans child member).row_le

/-! ## Spans -/

/-- A part of a source. -/
structure Span where
  start : Position
  stop : Position

/-- The spans stand one after the other between two places. -/
def Between : Position → List Span → Position → Prop
  | lower, [], upper => lower.NotAfter upper
  | lower, span :: rest, upper =>
      lower.NotAfter span.start ∧ span.start.NotAfter span.stop ∧ Between span.stop rest upper

namespace Between

variable {lower upper : Position} {spans : List Span}

theorem weaken {before : Position} (isBefore : before.NotAfter lower)
    (between : Between lower spans upper) : Between before spans upper := by
  cases spans with
  | nil => exact isBefore.trans between
  | cons span rest =>
      obtain ⟨starts, rest⟩ := between
      exact ⟨isBefore.trans starts, rest⟩

theorem append_iff {front back : List Span} :
    Between lower (front ++ back) upper ↔
      ∃ middle, Between lower front middle ∧ Between middle back upper := by
  induction front generalizing lower with
  | nil =>
      constructor
      · intro between
        exact ⟨lower, .refl lower, between⟩
      · rintro ⟨middle, isBefore, between⟩
        exact between.weaken isBefore
  | cons span rest inductionHypothesis =>
      simp only [List.cons_append, Between, inductionHypothesis]
      constructor
      · rintro ⟨starts, spans, middle, front, back⟩
        exact ⟨middle, ⟨starts, spans, front⟩, back⟩
      · rintro ⟨middle, ⟨starts, spans, front⟩, back⟩
        exact ⟨starts, spans, middle, front, back⟩

theorem append {middle : Position} {front back : List Span} (first : Between lower front middle)
    (second : Between middle back upper) : Between lower (front ++ back) upper :=
  append_iff.mpr ⟨middle, first, second⟩

theorem sublist {kept : List Span} (isSublist : kept.Sublist spans)
    (between : Between lower spans upper) : Between lower kept upper := by
  induction isSublist generalizing lower with
  | slnil => exact between
  | cons span _ inductionHypothesis =>
      obtain ⟨starts, spans, rest⟩ := between
      exact inductionHypothesis (rest.weaken (starts.trans spans))
  | cons_cons span _ inductionHypothesis =>
      obtain ⟨starts, spans, rest⟩ := between
      exact ⟨starts, spans, inductionHypothesis rest⟩

theorem of_mem {span : Span} (member : span ∈ spans) (between : Between lower spans upper) :
    lower.NotAfter span.start ∧ span.start.NotAfter span.stop ∧ span.stop.NotAfter upper :=
  between.sublist (List.singleton_sublist.mpr member)

/-- Spans can be made one, from the start of the first to the end of any other. -/
theorem cover {first last : Span} {rest : List Span}
    (between : Between lower (first :: rest) upper) (member : last ∈ first :: rest) :
    Between lower [⟨first.start, last.stop⟩] upper := by
  obtain ⟨starts, spans, others⟩ := between
  have fromFirst : Between first.start (first :: rest) upper := ⟨.refl _, spans, others⟩
  obtain ⟨isFirst, lastSpans, ends⟩ := fromFirst.of_mem member
  exact ⟨starts, isFirst.trans lastSpans, ends⟩

theorem pairwise (between : Between lower spans upper) :
    spans.Pairwise fun earlier later => earlier.stop.NotAfter later.start := by
  induction spans generalizing lower with
  | nil => exact .nil
  | cons span rest inductionHypothesis =>
      obtain ⟨-, -, others⟩ := between
      refine .cons ?_ (inductionHypothesis others)
      intro later member
      exact (others.of_mem member).1

end Between

def RootChild.span (child : RootChild) : Span := ⟨child.start, child.stop⟩

theorem InSourceOrder.of_between {lower upper : Position} {children : List RootChild}
    (between : Between lower (children.map RootChild.span) upper) : InSourceOrder children where
  spans _ member := (between.of_mem (List.mem_map_of_mem member)).2.1
  ordered := List.pairwise_map.mp between.pairwise

/-! ## Lexemes and tokens -/

def Lexeme.span (lexeme : Lexeme) : Span := ⟨lexeme.start, lexeme.stop⟩

/-- The places of tokens and of the blanks and comments before them. -/
def tokenSpans (tokens : List Token) : List Span :=
  tokens.flatMap fun token => token.lead.map Lexeme.span ++ [token.lexeme.span]

private theorem between_lexemesFrom (position : Position) (cs : List Char) :
    Between position ((lexemesFrom position cs).map Lexeme.span) (position.advance cs) := by
  fun_induction lexemesFrom position cs with
  | case1 position => exact .refl position
  | case2 position first rest kind after _ count taken next inductionHypothesis =>
      have cut : first :: rest = taken ++ rest.drop count := by simp [taken]
      rw [cut, Position.advance_append]
      exact ⟨.refl position, Position.notAfter_advance position taken, inductionHypothesis⟩

private theorem between_lexemes (source : String) :
    ∃ upper, Between .origin ((lexemes source).map Lexeme.span) upper := by
  rw [lexemes]
  split
  · exact ⟨_, .refl _, Position.notAfter_after .origin '\uFEFF', between_lexemesFrom _ _⟩
  · exact ⟨_, between_lexemesFrom _ _⟩

private theorem between_tokensAfter {lower stop upper : Position} {lead lexemes : List Lexeme}
    (front : Between lower (lead.map Lexeme.span) stop)
    (back : Between stop (lexemes.map Lexeme.span) upper) :
    Between lower (tokenSpans (tokensAfter lead stop lexemes)) upper := by
  induction lexemes generalizing lower stop lead with
  | nil =>
      have finish : Between stop [⟨stop, stop⟩] upper := ⟨.refl stop, .refl stop, back⟩
      simpa [tokensAfter, tokenSpans, Lexeme.span] using front.append finish
  | cons lexeme rest inductionHypothesis =>
      obtain ⟨starts, spans, others⟩ := back
      have one : Between stop [lexeme.span] lexeme.stop := ⟨starts, spans, .refl _⟩
      rw [tokensAfter]
      -- a blank or comment joins the lead, any other lexeme ends it
      by_cases isLead : lexeme.kind = .blank ∨ lexeme.kind = .comment
      · rw [if_pos isLead]
        apply inductionHypothesis _ others
        rw [List.map_append]
        exact front.append one
      · rw [if_neg isLead, tokenSpans, List.flatMap_cons]
        exact (front.append one).append (inductionHypothesis (.refl _) others)

theorem between_tokens (source : String) :
    ∃ upper, Between .origin (tokenSpans (tokens source)) upper := by
  obtain ⟨upper, between⟩ := between_lexemes source
  exact ⟨upper, between_tokensAfter (.refl .origin) between⟩

end AddonBindings.Go

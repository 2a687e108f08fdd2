import AddonBindings.Proofs.Text.Token

/-!
Contract: the phrases of generated text.

Owns:
- phrases: the tokens up to a semicolon or a brace;
- cutting tokens into phrases, and that it finds the phrases the tokens were put
  together from;
- the items of a list between parentheses.

Does not own: what a phrase means, which belongs to the readers of the two files.
-/

namespace AddonBindings.Text

def endsPhrase : Token → Bool
  | .mark c => c = ';' || c = '\x7b' || c = '\x7d'
  | .word _ | .quoted _ => false

def phrases : List Token → List (List Token)
  | [] => []
  | token :: rest =>
      if endsPhrase token then [token] :: phrases rest
      else
        match phrases rest with
        | [] => [[token]]
        | phrase :: more => (token :: phrase) :: more

/-- The last token, and only the last token, ends a phrase. -/
def isPhrase : List Token → Bool
  | [] => false
  | [token] => endsPhrase token
  | token :: rest => !endsPhrase token && isPhrase rest

theorem isPhrase_append {front back : List Token} (inside : ∀ token ∈ front, endsPhrase token = false)
    (phrase : isPhrase back = true) : isPhrase (front ++ back) = true := by
  induction front with
  | nil => exact phrase
  | cons token front inductionHypothesis =>
      have rest := inductionHypothesis (fun other member => inside other (by simp [member]))
      cases same : front ++ back with
      | nil => rw [same] at rest; cases rest
      | cons next others =>
          rw [same] at rest
          rw [List.cons_append, same, isPhrase, inside token (by simp), rest]
          · rfl
          · exact List.cons_ne_nil next others

private theorem phrases_append {phrase : List Token} (ended : isPhrase phrase = true)
    (rest : List Token) :
    phrases (phrase ++ rest) = phrase :: phrases rest := by
  induction phrase with
  | nil => cases ended
  | cons token others inductionHypothesis =>
      cases others with
      | nil =>
          rw [isPhrase] at ended
          rw [List.cons_append, List.nil_append, phrases, if_pos ended]
      | cons next others =>
          rw [isPhrase, Bool.and_eq_true, Bool.not_eq_true'] at ended
          · rw [List.cons_append, phrases, ended.1, inductionHypothesis ended.2]
            rfl
          · exact List.cons_ne_nil next others

/-- Cutting finds the phrases that the tokens were put together from. -/
theorem phrases_flatten_append {all : List (List Token)}
    (each : ∀ phrase ∈ all, isPhrase phrase = true) (rest : List Token) :
    phrases (all.flatten ++ rest) = all ++ phrases rest := by
  induction all with
  | nil => rfl
  | cons phrase others inductionHypothesis =>
      have back := inductionHypothesis (fun other member => each other (by simp [member]))
      rw [List.flatten_cons, List.append_assoc, phrases_append (each phrase (by simp)), back,
        List.cons_append]

/-! ## Parts of a phrase -/

def after? : List Token → List Token → Option (List Token)
  | [], listed => some listed
  | token :: front, first :: listed => if token = first then after? front listed else none
  | _ :: _, [] => none

@[simp] theorem after?_append (front back : List Token) :
    after? front (front ++ back) = some back := by
  induction front with
  | nil => rfl
  | cons token front inductionHypothesis =>
      rw [List.cons_append, after?, if_pos rfl, inductionHypothesis]

/-! ## Lists between parentheses -/

/-- The items between commas; no tokens are no items. -/
def itemsOf (listed : List Token) : List (List Token) :=
  if listed = [] then [] else listed.splitOn (.mark ',')

def closedItems? (listed : List Token) : Option (List (List Token) × List Token) :=
  match listed.dropWhile (· ≠ .mark ')') with
  | _ :: rest => some (itemsOf (listed.takeWhile (· ≠ .mark ')')), rest)
  | [] => none

def isItem (item : List Token) : Bool :=
  item ≠ [] && .mark ',' ∉ item && .mark ')' ∉ item

private theorem itemsOf_intercalate {items : List (List Token)}
    (each : ∀ item ∈ items, isItem item = true) :
    itemsOf ([.mark ','].intercalate items) = items := by
  have parts (item : List Token) (member : item ∈ items) : item ≠ [] ∧ .mark ',' ∉ item := by
    have this := each item member
    simp only [isItem, Bool.and_eq_true, decide_eq_true_eq] at this
    exact this.1
  cases items with
  | nil => rfl
  | cons item others =>
      have filled : ([.mark ','].intercalate (item :: others) : List Token) ≠ [] := by
        have first := (parts item (by simp)).1
        cases others with
        | nil => rwa [List.intercalate_singleton]
        | cons next others =>
            rw [List.intercalate_cons_cons, List.append_assoc]
            exact List.append_ne_nil_of_left_ne_nil first _
      rw [itemsOf, if_neg filled]
      exact List.splitOn_intercalate _ (fun part member => (parts part member).2)
        (List.cons_ne_nil item others)

theorem mem_intercalate {separator token : Token} {items : List (List Token)}
    (member : token ∈ [separator].intercalate items) :
    token = separator ∨ ∃ item ∈ items, token ∈ item := by
  induction items with
  | nil => cases member
  | cons item others inductionHypothesis =>
      cases others with
      | nil =>
          rw [List.intercalate_singleton] at member
          exact .inr ⟨item, by simp, member⟩
      | cons next others =>
          rw [List.intercalate_cons_cons] at member
          rcases List.mem_append.mp member with inFront | inBack
          · rcases List.mem_append.mp inFront with inItem | isSeparator
            · exact .inr ⟨item, by simp, inItem⟩
            · exact .inl (List.mem_singleton.mp isSeparator)
          · rcases inductionHypothesis inBack with isSeparator | ⟨found, inOthers, inFound⟩
            · exact .inl isSeparator
            · exact .inr ⟨found, List.mem_cons_of_mem item inOthers, inFound⟩

theorem closedItems?_intercalate {items : List (List Token)}
    (each : ∀ item ∈ items, isItem item = true) (rest : List Token) :
    closedItems? ([.mark ','].intercalate items ++ .mark ')' :: rest) = some (items, rest) := by
  have inside (token : Token) (member : token ∈ [.mark ','].intercalate items) :
      decide (token ≠ .mark ')') = true := by
    rcases mem_intercalate member with rfl | ⟨item, inItems, inItem⟩
    · decide
    · have this := each item inItems
      simp only [isItem, Bool.and_eq_true, decide_eq_true_eq] at this
      exact decide_eq_true (fun same => this.2 (same ▸ inItem))
  rw [closedItems?, List.dropWhile_append_of_pos inside, List.takeWhile_append_of_pos inside]
  simp [itemsOf_intercalate each]

end AddonBindings.Text

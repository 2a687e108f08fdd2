/-!
Contract: places in a source text.

Owns: rows and columns, and how characters move them.

Does not own: the text itself.
-/

namespace AddonBindings.Go

/-- A place in a text, counted from zero: the number of line feeds before it, and
the number of bytes since the last of them. -/
structure Position where
  row : Nat
  column : Nat
deriving DecidableEq, Repr, Inhabited

namespace Position

/-- The start of a text. -/
def origin : Position := ⟨0, 0⟩

/-- The place after one more character. -/
def after (position : Position) (c : Char) : Position :=
  if c = '\n' then ⟨position.row + 1, 0⟩ else ⟨position.row, position.column + c.utf8Size⟩

/-- The place after more characters. -/
def advance (position : Position) (cs : List Char) : Position :=
  cs.foldl after position

@[simp] theorem advance_nil (position : Position) : position.advance [] = position := rfl

@[simp] theorem advance_cons (position : Position) (c : Char) (cs : List Char) :
    position.advance (c :: cs) = (position.after c).advance cs := rfl

/-- Moving over a joined text is moving over its parts. -/
theorem advance_append (position : Position) (front back : List Char) :
    position.advance (front ++ back) = (position.advance front).advance back := by
  simp [advance]

/-- The row grows by the number of line feeds. -/
theorem row_advance (position : Position) (cs : List Char) :
    (position.advance cs).row = position.row + cs.count '\n' := by
  induction cs generalizing position with
  | nil => rfl
  | cons c cs inductionHypothesis =>
      rw [advance_cons, inductionHypothesis, List.count_cons]
      by_cases isBreak : c = '\n'
      · simp [after, isBreak]
        omega
      · simp [after, isBreak]

end Position

end AddonBindings.Go

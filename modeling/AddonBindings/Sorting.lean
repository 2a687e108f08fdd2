/-!
Contract: putting lists into order.

Owns: insertion into a list in order, and sorting by insertion.

Does not own: the orders, which stand beside the things they order.

Elements that stand in both orders to each other keep their places.
-/

namespace AddonBindings.Sorting

variable {α : Type}

/-- The list with one more element before the first that it may stand before. -/
def insert (le : α → α → Bool) (item : α) : List α → List α
  | [] => [item]
  | first :: rest => if le item first then item :: first :: rest else first :: insert le item rest

/-- The elements in order. -/
def sort (le : α → α → Bool) : List α → List α
  | [] => []
  | first :: rest => insert le first (sort le rest)

end AddonBindings.Sorting

/-!
Contract: membership in a set of code points given by its boundaries.

Owns: the reading of an ascending list of boundaries as a set.

Does not own: any particular set; those stand beside the property they define.
-/

namespace AddonBindings.Text

/-- Membership flips at every boundary, starting from outside: a code point is in
the set when an odd number of the ascending `boundaries` is at most that code
point. -/
def withinBoundaries (boundaries : List Nat) (code : Nat) : Bool :=
  match boundaries with
  | [] => false
  | boundary :: rest => if code < boundary then false else !withinBoundaries rest code

end AddonBindings.Text

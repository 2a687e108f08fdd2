import AddonBindings.Proofs.Export.Attachment
import Mathlib.Data.List.Chain
import Mathlib.Data.List.Nodup

/-!
Contract: the group of comments that belongs to a node, told without the pass that
gathers it.

Owns:
- the gap in front of a node, and the comments in it that stand on rows of their own;
- the longest unbroken end of a list of comments;
- the group of a node, and that no comment is in two groups.

Does not own: the pass over the children, which `AddonBindings.Proofs.Export.Attachment`
relates to what stands before a node.
-/

namespace AddonBindings.Export

open AddonBindings.Go

/-! ## The gap in front of a node -/

/-- `gap` is what stands at the end of `before` since the last node, or since the start of
the file if there is none. -/
inductive IsGap : List RootChild → Option Node → List RootChild → Prop
  | ofFile {gap : List RootChild} (noNode : ∀ child ∈ gap, node? child = none) : IsGap gap none gap
  | behind (front : List RootChild) (previous : Node) {gap : List RootChild}
      (noNode : ∀ child ∈ gap, node? child = none) :
      IsGap (front ++ .node previous :: gap) (some previous) gap

/-- The comments of a gap, without those that start on the row where the last node ends. -/
def gapComments (previous : Option Node) (gap : List RootChild) : List Comment :=
  (gap.filterMap comment?).filter fun comment =>
    previous.map (·.stop.row) ≠ some comment.start.row

private theorem gapComments_append_comment (previous : Option Node) (gap : List RootChild)
    (comment : Comment) :
    gapComments previous (gap ++ [.comment comment]) =
      gapComments previous gap ++
        if previous.map (·.stop.row) = some comment.start.row then [] else [comment] := by
  have one : [RootChild.comment comment].filterMap comment? = [comment] := rfl
  rw [gapComments, List.filterMap_append, List.filter_append, one, List.filter_cons,
    List.filter_nil, gapComments]
  by_cases behind : previous.map (·.stop.row) = some comment.start.row
  · rw [if_pos behind, if_neg (by simpa using behind)]
  · rw [if_neg behind, if_pos (by simpa using behind)]

private theorem gapComments_append_mark (previous : Option Node) (gap : List RootChild)
    (start stop : Position) :
    gapComments previous (gap ++ [.mark start stop]) = gapComments previous gap := by
  simp [gapComments]

theorem IsGap.append_singleton {before gap : List RootChild} {previous : Option Node}
    (isGap : IsGap before previous gap) {child : RootChild} (noNode : node? child = none) :
    IsGap (before ++ [child]) previous (gap ++ [child]) := by
  have still {others : List RootChild} (noOther : ∀ other ∈ others, node? other = none) :
      ∀ other ∈ others ++ [child], node? other = none := by
    simpa [or_imp, forall_and, noNode] using noOther
  cases isGap with
  | ofFile noOther => exact .ofFile (still noOther)
  | behind front previous noOther =>
      rw [List.append_assoc, List.cons_append]
      exact .behind front previous (still noOther)

/-- What the pass keeps in view is the gap: the row on which the last node ends, and the
comments since then. -/
theorem exists_isGap (before : List RootChild) :
    ∃ previous gap, IsGap before previous gap ∧
      lastRow? before = previous.map (·.stop.row) ∧
      (ownLineComments before).reverse = gapComments previous gap := by
  -- the pass goes forward, so the child that is added is the last one
  induction before using List.reverseRecOn with
  | nil => exact ⟨none, [], .ofFile (by simp), rfl, rfl⟩
  | append_singleton before child inductionHypothesis =>
      obtain ⟨previous, gap, isGap, row, own⟩ := inductionHypothesis
      cases child with
      | node node =>
          refine ⟨some node, [], .behind before node (by simp), lastRow?_append_node before node, ?_⟩
          rw [ownLineComments_append_node]
          rfl
      | mark start stop =>
          refine ⟨previous, gap ++ [.mark start stop], isGap.append_singleton rfl, ?_, ?_⟩
          · rw [lastRow?_append_mark, row]
          · rw [ownLineComments_append_mark, own, gapComments_append_mark]
      | comment comment =>
          refine ⟨previous, gap ++ [.comment comment], isGap.append_singleton rfl, ?_, ?_⟩
          · rw [lastRow?_append_comment, row]
          · rw [ownLineComments_append_comment, gapComments_append_comment, row, ← own]
            by_cases behind : previous.map (·.stop.row) = some comment.start.row
            · rw [if_pos behind, if_pos behind, List.append_nil]
            · rw [if_neg behind, if_neg behind, List.reverse_cons]

/-! ## The longest unbroken end -/

/-- Each comment starts at most one row below the end of the one before. -/
def IsUnbroken (comments : List Comment) : Prop :=
  comments.IsChain fun earlier later => later.start.row ≤ earlier.stop.row + 1

instance (comments : List Comment) : Decidable (IsUnbroken comments) :=
  inferInstanceAs (Decidable (comments.IsChain _))

/-- `run` is the longest suffix of `comments` that is unbroken. -/
structure IsLongestRun (comments run : List Comment) : Prop where
  suffix : run <:+ comments
  unbroken : IsUnbroken run
  longest : ∀ other, other <:+ comments → IsUnbroken other → other.length ≤ run.length

private theorem isChain_latestRun (newestFirst : List Comment) :
    (latestRun newestFirst).IsChain fun newer older => newer.start.row ≤ older.stop.row + 1 := by
  induction newestFirst with
  | nil => exact .nil
  | cons newer rest inductionHypothesis =>
      cases rest with
      | nil => exact .singleton newer
      | cons older others =>
          rw [latestRun_cons_cons]
          by_cases apart : older.stop.row + 1 < newer.start.row
          · rw [if_pos apart]
            exact .singleton newer
          · rw [if_neg apart]
            obtain ⟨run, isRun⟩ := exists_latestRun_cons older others
            rw [isRun] at inductionHypothesis ⊢
            exact .cons_cons (Nat.le_of_not_lt apart) inductionHypothesis

/-- No unbroken front is longer than the run. -/
theorem length_le_latestRun {newestFirst front : List Comment} (isFront : front <+: newestFirst)
    (unbroken : front.IsChain fun newer older => newer.start.row ≤ older.stop.row + 1) :
    front.length ≤ (latestRun newestFirst).length := by
  induction newestFirst generalizing front with
  | nil =>
      rw [List.prefix_nil.mp isFront]
      exact Nat.le_refl _
  | cons newer rest inductionHypothesis =>
      obtain ⟨run, isRun⟩ := exists_latestRun_cons newer rest
      match front with
      | [] => exact Nat.zero_le _
      | [first] =>
          rw [isRun]
          exact Nat.succ_le_succ (Nat.zero_le _)
      | first :: second :: others =>
          obtain ⟨rfl, behindFirst⟩ := List.cons_prefix_cons.mp isFront
          cases rest with
          | nil => cases List.prefix_nil.mp behindFirst
          | cons older back =>
              obtain ⟨close, others⟩ := List.isChain_cons_cons.mp unbroken
              have tail := inductionHypothesis behindFirst others
              obtain ⟨rfl, -⟩ := List.cons_prefix_cons.mp behindFirst
              rw [latestRun_cons_cons, if_neg (Nat.not_lt.mpr close)]
              exact Nat.succ_le_succ tail

private theorem isLongestRun_latestRun (newestFirst : List Comment) :
    IsLongestRun newestFirst.reverse (latestRun newestFirst).reverse where
  suffix := List.reverse_suffix.mpr (isPrefix_latestRun newestFirst)
  unbroken := List.isChain_reverse.mpr (isChain_latestRun newestFirst)
  longest other isSuffix unbroken := by
    have isFront : other.reverse <+: newestFirst := by
      rw [← List.reverse_suffix, List.reverse_reverse]
      exact isSuffix
    have chained := List.isChain_reverse.mpr unbroken
    have short := length_le_latestRun isFront chained
    rw [List.length_reverse] at short ⊢
    exact short

/-! ## The group of a node -/

def EndsAbove (comments : List Comment) (node : Node) : Prop :=
  ∃ last ∈ comments.getLast?, last.stop.row + 1 = node.start.row

/-- The group of a node behind a gap: the longest unbroken end of its comments, if that
ends right above the node. -/
inductive IsGroup (previous : Option Node) (gap : List RootChild) (node : Node) :
    List Comment → Prop
  | touching {run : List Comment} (isRun : IsLongestRun (gapComments previous gap) run)
      (touches : EndsAbove run node) : IsGroup previous gap node run
  | apart {run : List Comment} (isRun : IsLongestRun (gapComments previous gap) run)
      (apart : ¬ EndsAbove run node) : IsGroup previous gap node []

private theorem endsAbove_reverse_iff {newestFirst : List Comment} {node : Node} :
    EndsAbove newestFirst.reverse node ↔
      newestFirst.head?.any (fun newest => newest.stop.row + 1 = node.start.row) = true := by
  rw [EndsAbove, List.getLast?_reverse, Option.any_eq_true]
  simp only [Option.mem_def, decide_eq_true_eq]

private theorem exists_isGroup (before : List RootChild) (node : Node) :
    ∃ previous gap, IsGap before previous gap ∧
      IsGroup previous gap node (commentsAbove before node) := by
  obtain ⟨previous, gap, isGap, -, own⟩ := exists_isGap before
  refine ⟨previous, gap, isGap, ?_⟩
  have isRun := isLongestRun_latestRun (ownLineComments before)
  rw [own] at isRun
  rw [commentsAbove]
  by_cases touches : EndsAbove (latestRun (ownLineComments before)).reverse node
  · simp only [if_pos (endsAbove_reverse_iff.mp touches)]
    exact .touching isRun touches
  · have isApart := mt endsAbove_reverse_iff.mpr touches
    simp only [if_neg isApart]
    exact .apart isRun touches

/-! ## All groups of a file -/

private theorem attached_append_singleton {before : List RootChild} {child : RootChild}
    (noNode : node? child = none) : attached (before ++ [child]) = attached before := by
  rw [attached_eq, attached_eq, nodesAfter_append, nodesAfter, noNode]
  simp [nodesAfter]

private theorem commentsAbove_sublist (before : List RootChild) (node : Node) :
    (commentsAbove before node).Sublist (ownLineComments before).reverse := by
  rw [commentsAbove]
  split
  · exact (isPrefix_latestRun _).sublist.reverse
  · exact List.nil_sublist _

/-- The groups so far and the comments that are still to be attached are taken from
different places among the comments so far. -/
theorem groups_sublist (before : List RootChild) :
    ((attached before).flatMap Prod.snd ++ (ownLineComments before).reverse).Sublist
      (before.filterMap comment?) := by
  -- a node ends the gap: a part of its comments moves from the back to the groups
  induction before using List.reverseRecOn with
  | nil => exact List.Sublist.slnil
  | append_singleton before child inductionHypothesis =>
      rw [List.filterMap_append]
      cases child with
      | mark start stop =>
          rw [attached_append_singleton rfl, ownLineComments_append_mark]
          exact inductionHypothesis.trans (List.sublist_append_left _ _)
      | comment comment =>
          rw [attached_append_singleton rfl, ownLineComments_append_comment]
          by_cases behind : lastRow? before = some comment.start.row
          · rw [if_pos behind]
            exact inductionHypothesis.trans (List.sublist_append_left _ _)
          · rw [if_neg behind, List.reverse_cons, ← List.append_assoc]
            exact inductionHypothesis.append (List.Sublist.refl _)
      | node node =>
          rw [attached_append_node, ownLineComments_append_node, List.flatMap_append,
            List.reverse_nil, List.append_nil]
          have group := commentsAbove_sublist before node
          have taken := (List.Sublist.refl ((attached before).flatMap Prod.snd)).append group
          have kept := (taken.trans inductionHypothesis).trans
            (List.sublist_append_left _ ([RootChild.node node].filterMap comment?))
          simpa [attachedAfter] using kept

/-- **The comments of a declaration.**  Every node of a file is reached, in order.  A
node behind a gap gets the longest unbroken end of the comments of the gap, without
those on the row where the node before ends, if it ends right above the node, and
nothing otherwise.  Each comment of the file is used at most once, so if no two are
the same, no two nodes share a comment. -/
theorem attached_exact (children : List RootChild) :
    (attached children).map Prod.fst = children.filterMap node? ∧
    (∀ before node later, children = before ++ .node node :: later →
      ∃ previous gap group others, IsGap before previous gap ∧
        IsGroup previous gap node group ∧
        attached children = attached before ++ (node, group) :: others) ∧
    ((attached children).flatMap Prod.snd).Sublist (children.filterMap comment?) ∧
    ((children.filterMap comment?).Nodup →
      (attached children).Pairwise fun earlier later => earlier.2.Disjoint later.2) := by
  have once : ((attached children).flatMap Prod.snd).Sublist (children.filterMap comment?) :=
    (List.sublist_append_left _ _).trans (groups_sublist children)
  refine ⟨?_, ?_, once, ?_⟩
  · rw [attached, map_fst_attachedAfter]
    refine congrArg (fun pick => children.filterMap pick) (funext fun child => ?_)
    cases child <;> rfl
  · rintro before node later rfl
    obtain ⟨previous, gap, isGap, isGroup⟩ := exists_isGroup before node
    exact ⟨previous, gap, commentsAbove before node, _, isGap, isGroup,
      attached_append_node before later node⟩
  · intro apart
    exact (List.nodup_flatMap.mp (once.nodup apart)).2

/-- A comment behind a node, two comments that touch over a row break, two nodes on one
row, and a comment that is set apart by a blank line. -/
def sampleChildren : List RootChild :=
  [.node ⟨.other, ⟨0, 0⟩, ⟨1, 1⟩⟩, .comment ⟨"/* behind */", ⟨1, 3⟩, ⟨2, 9⟩⟩,
    .comment ⟨"// above", ⟨3, 0⟩, ⟨3, 8⟩⟩, .comment ⟨"// right above", ⟨4, 0⟩, ⟨4, 14⟩⟩,
    .node ⟨.other, ⟨5, 0⟩, ⟨5, 5⟩⟩, .mark ⟨5, 5⟩ ⟨5, 6⟩, .node ⟨.other, ⟨5, 7⟩, ⟨5, 9⟩⟩,
    .comment ⟨"// apart", ⟨7, 0⟩, ⟨7, 8⟩⟩, .node ⟨.other, ⟨9, 0⟩, ⟨9, 5⟩⟩]

theorem sampleChildren_attached :
    (attached sampleChildren).map (fun entry => entry.2.map Comment.text) =
        [[], ["// above", "// right above"], [], []] ∧
      ((attached sampleChildren).flatMap Prod.snd).Sublist (sampleChildren.filterMap comment?) ∧
      (attached sampleChildren).Pairwise fun earlier later => earlier.2.Disjoint later.2 := by
  obtain ⟨-, -, once, disjoint⟩ := attached_exact sampleChildren
  exact ⟨by decide, once, disjoint (by decide)⟩

end AddonBindings.Export

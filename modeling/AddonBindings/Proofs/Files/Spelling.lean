import AddonBindings.Proofs.Files.Selection

/-!
Contract: paths as they are spelled.

Owns:
- that a path that is read from a text has its characters, and a text of its own;
- that a path without a null character is never refused for one.

Does not own: reading and writing of paths, which are in `AddonBindings.Files.Path`.
-/

namespace AddonBindings.Files

open Traversal

/-- Besides points and slashes, all characters of a path that is read from a text come from
this text. -/
theorem Path.mem_of_mem_text_ofText {spelling : String} {c : Char} (noPoint : c ≠ '.')
    (noSlash : c ≠ '/') (member : c ∈ (ofText spelling).text.toList) : c ∈ spelling.toList := by
  obtain ⟨part, isPart, inPart⟩ := (mem_text_iff noPoint noSlash).mp member
  obtain ⟨cs, isSplit, rfl⟩ := List.mem_map.mp (List.mem_of_mem_filter isPart)
  rw [← Text.intercalate_splitAtMark '/' spelling.toList, Text.mem_intercalate_iff noSlash]
  exact ⟨cs, isSplit, by simpa using inPart⟩

theorem Path.text_ofText_ne_empty (spelling : String) : (ofText spelling).text ≠ "" := by
  have filled : ∀ part ∈ (ofText spelling).parts, part ≠ "" := by
    intro part member
    have kept := (List.mem_filter.mp member).2
    rintro rfl
    simp at kept
  generalize ofText spelling = path at filled ⊢
  obtain ⟨anchor, parts⟩ := path
  cases anchor with
  | root => simp [text, Anchor.text]
  | doubleRoot => simp [text, Anchor.text]
  | current =>
      cases parts with
      | nil => decide
      | cons first rest =>
          cases rest with
          | nil => simpa [text, Anchor.text] using filled first List.mem_cons_self
          | cons second others => simp [text, Anchor.text, String.intercalate_cons_cons]

theorem readFile_ne_nullCharacter {path : Path} (noNull : '\x00' ∉ path.text.toList)
    (tree : FileTree) : readFile tree path ≠ .error .nullCharacter := by
  intro failed
  have located : locate tree true path ≠ .error .nullCharacter := by
    rw [locate, if_neg (by simpa using noNull)]
    intro refused
    obtain ⟨_, -, same⟩ := mapError_eq_error_iff.mp refused
    cases same
  rcases bind_eq_error_iff.mp failed with unlocated | ⟨destination, -, refused⟩
  · exact located unlocated
  · split at refused
    · split at refused
      · cases refused
      · split at refused <;> cases refused
    · cases refused

end AddonBindings.Files

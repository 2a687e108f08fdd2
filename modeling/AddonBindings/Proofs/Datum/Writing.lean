import Mathlib.Data.List.Basic
import AddonBindings.Datum.Written

/-!
Contract: which values cannot be written into a message.

Owns: the values that hold a whole number of too many digits, and the law that these
are exactly the ones without a text.

Does not own: the texts of the other values, which are in `AddonBindings.Datum.Written`.
-/

namespace AddonBindings.Datum

/-- Somewhere in the value there is a whole number with more digits than are written. -/
inductive HoldsLongNumber : Datum → Prop
  | int {value : Int} (tooLong : Decimal.isTooLong value = true) : HoldsLongNumber (.int value)
  | item {items : List Datum} {item : Datum} (member : item ∈ items)
      (holds : HoldsLongNumber item) : HoldsLongNumber (.sequence items)
  | key {entries : List (Datum × Datum)} {key value : Datum} (member : (key, value) ∈ entries)
      (holds : HoldsLongNumber key) : HoldsLongNumber (.mapping entries)
  | value {entries : List (Datum × Datum)} {key value : Datum} (member : (key, value) ∈ entries)
      (holds : HoldsLongNumber value) : HoldsLongNumber (.mapping entries)
  | member {members : List Datum} {item : Datum} (member : item ∈ members)
      (holds : HoldsLongNumber item) : HoldsLongNumber (.set members)
  | first {first second : Datum} (holds : HoldsLongNumber first) :
      HoldsLongNumber (.pair first second)
  | second {first second : Datum} (holds : HoldsLongNumber second) :
      HoldsLongNumber (.pair first second)

private theorem holdsLongNumber_int_iff {value : Int} :
    HoldsLongNumber (.int value) ↔ Decimal.isTooLong value = true := by
  constructor
  · rintro ⟨tooLong⟩
    exact tooLong
  · exact .int

private theorem holdsLongNumber_sequence_iff {items : List Datum} :
    HoldsLongNumber (.sequence items) ↔ ∃ item ∈ items, HoldsLongNumber item := by
  constructor
  · rintro (_ | ⟨member, holds⟩)
    exact ⟨_, member, holds⟩
  · rintro ⟨item, member, holds⟩
    exact .item member holds

private theorem holdsLongNumber_set_iff {members : List Datum} :
    HoldsLongNumber (.set members) ↔ ∃ item ∈ members, HoldsLongNumber item := by
  constructor
  · rintro (_ | _ | _ | _ | ⟨member, holds⟩)
    exact ⟨_, member, holds⟩
  · rintro ⟨item, member, holds⟩
    exact .member member holds

private theorem holdsLongNumber_mapping_iff {entries : List (Datum × Datum)} :
    HoldsLongNumber (.mapping entries) ↔
      ∃ entry ∈ entries, HoldsLongNumber entry.1 ∨ HoldsLongNumber entry.2 := by
  constructor
  · rintro (_ | _ | ⟨member, holds⟩ | ⟨member, holds⟩)
    · exact ⟨_, member, .inl holds⟩
    · exact ⟨_, member, .inr holds⟩
  · rintro ⟨entry, member, holds | holds⟩
    · exact .key member holds
    · exact .value member holds

private theorem holdsLongNumber_pair_iff {first second : Datum} :
    HoldsLongNumber (.pair first second) ↔ HoldsLongNumber first ∨ HoldsLongNumber second := by
  constructor
  · rintro (_ | _ | _ | _ | _ | holds | holds)
    · exact .inl holds
    · exact .inr holds
  · rintro (holds | holds)
    · exact .first holds
    · exact .second holds

mutual

/-- A value has no text iff there is a whole number of too many digits in it. -/
theorem written?_eq_none_iff : ∀ value : Datum, value.written? = none ↔ HoldsLongNumber value
  | .null | .bool true | .bool false | .float _ | .text _ | .bytes _ | .date _ | .moment _
  | .enclosingSequence | .enclosingMapping =>
      iff_of_false (by rintro ⟨⟩) (by rintro ⟨⟩)
  | .int value => by
      rw [holdsLongNumber_int_iff, written?, Decimal.writeWhole?]
      cases Decimal.isTooLong value <;> simp
  | .sequence items => by
      rw [holdsLongNumber_sequence_iff, ← writtenItems?_eq_none_iff items, written?]
      cases writtenItems? items <;> simp
  | .mapping entries => by
      rw [holdsLongNumber_mapping_iff, ← writtenEntries?_eq_none_iff entries, written?]
      cases writtenEntries? entries <;> simp
  | .set [] => by simp [written?, holdsLongNumber_set_iff]
  | .set (first :: rest) => by
      rw [holdsLongNumber_set_iff, ← writtenItems?_eq_none_iff (first :: rest), written?]
      cases writtenItems? (first :: rest) <;> simp
  | .pair first second => by
      rw [holdsLongNumber_pair_iff, ← written?_eq_none_iff first, ← written?_eq_none_iff second,
        written?]
      cases written? first <;> cases written? second <;> simp

private theorem writtenItems?_eq_none_iff :
    ∀ items : List Datum, writtenItems? items = none ↔ ∃ item ∈ items, HoldsLongNumber item
  | [] => by simp [writtenItems?]
  | item :: rest => by
      rw [List.exists_mem_cons_iff, ← written?_eq_none_iff item, ← writtenItems?_eq_none_iff rest,
        writtenItems?]
      cases written? item <;> cases writtenItems? rest <;> simp

private theorem writtenEntries?_eq_none_iff :
    ∀ entries : List (Datum × Datum), writtenEntries? entries = none ↔
      ∃ entry ∈ entries, HoldsLongNumber entry.1 ∨ HoldsLongNumber entry.2
  | [] => by simp [writtenEntries?]
  | (key, value) :: rest => by
      rw [List.exists_mem_cons_iff, ← written?_eq_none_iff key, ← written?_eq_none_iff value,
        ← writtenEntries?_eq_none_iff rest, writtenEntries?]
      cases written? key <;> cases written? value <;> cases writtenEntries? rest <;> simp

end

end AddonBindings.Datum

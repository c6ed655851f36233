import QueryCursor.Proofs.Entries
import QueryCursor.Value.Literal

/-!
# Values without a literal

A value is written out part by part, and only one thing can go wrong: a record is written as a
mapping, and a column of it cannot be hashed.
-/

namespace QueryCursor

/-- Somewhere in the value there is a record one of whose columns cannot be hashed because of
such a part. -/
inductive Value.HoldsUnhashable (part : Unhashable) : Value → Prop where
  | column {fields : Entries} {field : Value × Value} :
      field ∈ fields → field.1.hash = .error part → HoldsUnhashable part (.record fields)
  | inColumn {fields : Entries} {field : Value × Value} :
      field ∈ fields → HoldsUnhashable part field.1 → HoldsUnhashable part (.record fields)
  | inField {fields : Entries} {field : Value × Value} :
      field ∈ fields → HoldsUnhashable part field.2 → HoldsUnhashable part (.record fields)
  | inList {items : List Value} {item : Value} :
      item ∈ items → HoldsUnhashable part item → HoldsUnhashable part (.list items)
  | inTuple {items : List Value} {item : Value} :
      item ∈ items → HoldsUnhashable part item → HoldsUnhashable part (.tuple items)
  | inKey {entries : Entries} {entry : Value × Value} :
      entry ∈ entries → HoldsUnhashable part entry.1 → HoldsUnhashable part (.mapping entries)
  | inEntry {entries : Entries} {entry : Value × Value} :
      entry ∈ entries → HoldsUnhashable part entry.2 → HoldsUnhashable part (.mapping entries)

namespace Unhashable

variable {part : Unhashable}

theorem of_bind_error {α β : Type} {first : Except Unhashable α}
    {rest : α → Except Unhashable β} (failed : first >>= rest = .error part) :
    first = .error part ∨ ∃ value, first = .ok value ∧ rest value = .error part := by
  cases first with
  | error other =>
      cases failed
      exact .inl rfl
  | ok value => exact .inr ⟨value, rfl, failed⟩

theorem of_mapM_error {α β : Type} {make : α → Except Unhashable β} {values : List α}
    (failed : values.mapM make = .error part) : ∃ value ∈ values, make value = .error part := by
  induction values with
  | nil => cases failed
  | cons value values ih =>
      rw [List.mapM_cons] at failed
      rcases of_bind_error failed with first | ⟨made, _, failed⟩
      · exact ⟨value, .head _, first⟩
      · rcases of_bind_error failed with others | ⟨_, _, ⟨⟩⟩
        obtain ⟨other, member, failed⟩ := ih others
        exact ⟨other, .tail _ member, failed⟩

/-- A mapping of fields is not written because a column cannot be hashed, or because a column
or a value of it has no literal. -/
theorem of_mapping_error {fields : List SpelledField}
    (failed : SpelledField.mapping fields = .error part) :
    ∃ field ∈ fields, field.1.column.hash = .error part ∨ field.1.literal = .error part ∨
      field.2 = .error part := by
  rw [SpelledField.mapping] at failed
  rcases of_bind_error failed with unhashable | ⟨table, put, failed⟩
  · obtain ⟨field, member, unhashable⟩ := exists_of_putEntries_error unhashable
    exact ⟨field, member, .inl unhashable⟩
  · rcases of_bind_error failed with failed | ⟨_, _, ⟨⟩⟩
    obtain ⟨entry, inTable, failed⟩ := of_mapM_error failed
    have known := forall_mem_putEntries (fun key => ∃ field ∈ fields, field.1 = key)
      (fun value => ∃ field ∈ fields, field.2 = value) put (List.forall_mem_nil _)
      fun field member => ⟨⟨field, member, rfl⟩, field, member, rfl⟩
    obtain ⟨⟨first, inFields, sameKey⟩, second, inFields', sameValue⟩ := known entry inTable
    rw [SpelledField.entry] at failed
    rcases of_bind_error failed with failed | ⟨column, _, failed⟩
    · exact ⟨first, inFields, .inr (.inl (sameKey ▸ failed))⟩
    · rcases of_bind_error failed with failed | ⟨_, _, ⟨⟩⟩
      exact ⟨second, inFields', .inr (.inr (sameValue.trans failed))⟩

end Unhashable

open Unhashable

mutual

/-- A value has no literal only because of a record in it. -/
theorem Value.holdsUnhashable_of_literal {part : Unhashable} :
    ∀ value : Value, value.literal = .error part → value.HoldsUnhashable part
  | .list items, failed => by
      rw [Value.literal] at failed
      rcases of_bind_error failed with failed | ⟨_, _, ⟨⟩⟩
      obtain ⟨item, member, holds⟩ := exists_of_literals items failed
      exact .inList member holds
  | .tuple items, failed => by
      rw [Value.literal] at failed
      rcases of_bind_error failed with failed | ⟨_, _, ⟨⟩⟩
      obtain ⟨item, member, holds⟩ := exists_of_literals items failed
      exact .inTuple member holds
  | .mapping entries, failed => by
      rw [Value.literal] at failed
      rcases of_bind_error failed with failed | ⟨_, _, ⟨⟩⟩
      obtain ⟨entry, member, holds | holds⟩ := exists_of_entryLiterals entries failed
      · exact .inKey member holds
      · exact .inEntry member holds
  | .record fields, failed => by
      rw [Value.literal] at failed
      rcases of_bind_error failed with failed | ⟨_, _, ⟨⟩⟩
      obtain ⟨spelled, inSpelled, failed⟩ := of_mapping_error failed
      obtain ⟨field, member, column_eq, inColumn, inField⟩ := of_mem_spelledFields fields inSpelled
      rcases failed with unhashable | failed | failed
      · exact .column member (column_eq ▸ unhashable)
      · exact .inColumn member (inColumn failed)
      · exact .inField member (inField failed)
  | .null, failed | .bool _, failed | .int _, failed | .double _, failed | .string _, failed
  | .bytes _, failed => by
      rw [Value.literal] at failed
      cases failed

theorem exists_of_literals {part : Unhashable} :
    ∀ items : List Value, Value.literals items = .error part →
      ∃ item ∈ items, item.HoldsUnhashable part
  | [], failed => by
      rw [Value.literals] at failed
      cases failed
  | item :: items, failed => by
      rw [Value.literals] at failed
      rcases of_bind_error failed with failed | ⟨_, _, failed⟩
      · exact ⟨item, .head _, item.holdsUnhashable_of_literal failed⟩
      · rcases of_bind_error failed with failed | ⟨_, _, ⟨⟩⟩
        obtain ⟨other, member, holds⟩ := exists_of_literals items failed
        exact ⟨other, .tail _ member, holds⟩

theorem exists_of_entryLiterals {part : Unhashable} :
    ∀ entries : Entries, Value.entryLiterals entries = .error part →
      ∃ entry ∈ entries, entry.1.HoldsUnhashable part ∨ entry.2.HoldsUnhashable part
  | [], failed => by
      rw [Value.entryLiterals] at failed
      cases failed
  | (key, value) :: entries, failed => by
      rw [Value.entryLiterals] at failed
      rcases of_bind_error failed with failed | ⟨_, _, failed⟩
      · exact ⟨(key, value), .head _, .inl (key.holdsUnhashable_of_literal failed)⟩
      · rcases of_bind_error failed with failed | ⟨_, _, failed⟩
        · exact ⟨(key, value), .head _, .inr (value.holdsUnhashable_of_literal failed)⟩
        · rcases of_bind_error failed with failed | ⟨_, _, ⟨⟩⟩
          obtain ⟨other, member, holds⟩ := exists_of_entryLiterals entries failed
          exact ⟨other, .tail _ member, holds⟩

theorem of_mem_spelledFields {part : Unhashable} :
    ∀ fields : Entries, ∀ {spelled : SpelledField}, spelled ∈ Value.spelledFields fields →
      ∃ field ∈ fields, spelled.1.column = field.1 ∧
        (spelled.1.literal = .error part → field.1.HoldsUnhashable part) ∧
        (spelled.2 = .error part → field.2.HoldsUnhashable part)
  | [], _, member => by
      rw [Value.spelledFields] at member
      cases member
  | (column, value) :: fields, _, member => by
      rw [Value.spelledFields] at member
      rcases List.mem_cons.mp member with rfl | member
      · exact ⟨(column, value), .head _, rfl, column.holdsUnhashable_of_literal,
          value.holdsUnhashable_of_literal⟩
      · obtain ⟨field, member, known⟩ := of_mem_spelledFields fields member
        exact ⟨field, .tail _ member, known⟩

end

end QueryCursor

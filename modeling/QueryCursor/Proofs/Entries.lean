import Mathlib.Data.List.Induction
import QueryCursor.Value.Entries

/-!
# Building tables

Adding entries to a table puts no key and no value into it that was not among them, and under
string keys the last value that was added for a key is found.  The keys stay in the order in
which they came first.
-/

namespace QueryCursor

@[simp] theorem Value.equal_string (left right : String) :
    (Value.string left).equal (.string right) = decide (left = right) := by
  rw [Value.equal]
  rfl

@[simp] theorem Value.exists_hash_string (text : String) :
    ∃ code, (Value.string text).hash = .ok code :=
  ⟨_, by rw [Value.hash]⟩

section Putting

variable {κ β : Type} {keyOf : κ → Value} {table entries result : List (κ × β)}

/-- Entries fail to be added only where one of their keys cannot be hashed. -/
theorem exists_of_putEntries_error {part : Unhashable}
    (failed : putEntries keyOf table entries = .error part) :
    ∃ entry ∈ entries, (keyOf entry.1).hash = .error part := by
  induction entries generalizing table with
  | nil => cases failed
  | cons entry entries ih =>
      rw [putEntries] at failed
      cases hashed : (keyOf entry.1).hash with
      | error other =>
          rw [hashed] at failed
          cases failed
          exact ⟨entry, .head _, hashed⟩
      | ok code =>
          rw [hashed] at failed
          obtain ⟨other, member, unhashable⟩ := ih failed
          exact ⟨other, .tail _ member, unhashable⟩

theorem putEntries_of_hashable
    (hashable : ∀ entry ∈ entries, ∃ code, (keyOf entry.1).hash = .ok code) :
    putEntries keyOf table entries =
      .ok (entries.foldl (fun table entry => putEntry keyOf entry.1 entry.2 table) table) := by
  induction entries generalizing table with
  | nil => rfl
  | cons entry entries ih =>
      obtain ⟨code, hashed⟩ := hashable entry (.head _)
      rw [putEntries, hashed]
      exact ih fun other member => hashable other (.tail _ member)

/-- What holds of all keys and of all values goes on to hold when such an entry is added. -/
theorem forall_mem_putEntry (keys : κ → Prop) (values : β → Prop) {key : κ} {value : β}
    (new : keys key ∧ values value) (held : ∀ entry ∈ table, keys entry.1 ∧ values entry.2) :
    ∀ entry ∈ putEntry keyOf key value table, keys entry.1 ∧ values entry.2 := by
  induction table with
  | nil => simpa [putEntry] using new
  | cons first table ih =>
      obtain ⟨ofFirst, others⟩ := List.forall_mem_cons.mp held
      rw [putEntry]
      split
      · exact List.forall_mem_cons.mpr ⟨⟨ofFirst.1, new.2⟩, others⟩
      · exact List.forall_mem_cons.mpr ⟨ofFirst, ih others⟩

theorem forall_mem_putEntries (keys : κ → Prop) (values : β → Prop)
    (put : putEntries keyOf table entries = .ok result)
    (held : ∀ entry ∈ table, keys entry.1 ∧ values entry.2)
    (added : ∀ entry ∈ entries, keys entry.1 ∧ values entry.2) :
    ∀ entry ∈ result, keys entry.1 ∧ values entry.2 := by
  induction entries generalizing table with
  | nil =>
      cases put
      exact held
  | cons first entries ih =>
      obtain ⟨ofFirst, others⟩ := List.forall_mem_cons.mp added
      rw [putEntries] at put
      cases hashed : (keyOf first.1).hash with
      | error part =>
          rw [hashed] at put
          cases put
      | ok code =>
          rw [hashed] at put
          exact ih put (forall_mem_putEntry keys values ofFirst held) others

end Putting

/-! ## Names as keys -/

section Names

variable {β : Type} {name : String} {value : β} {pairs : List (String × β)}

theorem keys_putEntry (name : String) (value : β) (pairs : List (String × β)) :
    (putEntry Value.string name value pairs).map Prod.fst =
      if name ∈ pairs.map Prod.fst then pairs.map Prod.fst
      else pairs.map Prod.fst ++ [name] := by
  induction pairs with
  | nil => rfl
  | cons first pairs ih =>
      rw [putEntry, Value.equal_string]
      by_cases same : first.1 = name
      · simp [same]
      · have different : name ≠ first.1 := fun equal => same equal.symm
        simp only [same, decide_false, Bool.false_eq_true, if_false, List.map_cons, ih,
          List.mem_cons, different, false_or]
        split <;> rfl

theorem lookup_cons_eq (first : String × β) (pairs : List (String × β)) (name : String) :
    (first :: pairs).lookup name = if name = first.1 then some first.2 else pairs.lookup name := by
  obtain ⟨key, value⟩ := first
  rw [List.lookup_cons]
  by_cases same : name = key
  · rw [if_pos same, beq_iff_eq.mpr same]
  · rw [if_neg same, beq_eq_false_iff_ne.mpr same]

/-- Under a name the value is found that was added for it last. -/
theorem lookup_putEntry (name : String) (value : β) (pairs : List (String × β)) (other : String) :
    (putEntry Value.string name value pairs).lookup other =
      if other = name then some value else pairs.lookup other := by
  induction pairs with
  | nil => rw [putEntry, lookup_cons_eq]
  | cons first pairs ih =>
      rw [putEntry, Value.equal_string]
      by_cases same : first.1 = name
      · simp only [same, decide_true, if_true, lookup_cons_eq]
        split <;> rfl
      · simp only [same, decide_false, Bool.false_eq_true, if_false, lookup_cons_eq, ih]
        by_cases here : other = first.1
        · have different : other ≠ name := fun equal => same (here.symm.trans equal)
          simp only [here, same, if_true, if_false]
        · simp only [here, if_false]

theorem putEntry_of_new (new : name ∉ pairs.map Prod.fst) :
    putEntry Value.string name value pairs = pairs ++ [(name, value)] := by
  induction pairs with
  | nil => rfl
  | cons first pairs ih =>
      rw [List.map_cons, List.mem_cons, not_or] at new
      have different : first.1 ≠ name := fun equal => new.1 equal.symm
      rw [putEntry, Value.equal_string, if_neg (by simp [different]), ih new.2]
      rfl

/-- The table that pairs make when they are added in order. -/
def tabled (pairs : List (String × β)) : List (String × β) :=
  pairs.foldl (fun table pair => putEntry Value.string pair.1 pair.2 table) []

theorem tabled_append (pairs : List (String × β)) (last : String × β) :
    tabled (pairs ++ [last]) = putEntry Value.string last.1 last.2 (tabled pairs) := by
  rw [tabled, List.foldl_append]
  rfl

/-- Every name is there once, where it came first. -/
theorem keys_tabled (pairs : List (String × β)) :
    (tabled pairs).map Prod.fst = (pairs.map Prod.fst).eraseDups := by
  induction pairs using List.reverseRecOn with
  | nil => rfl
  | append_singleton pairs last ih =>
      rw [tabled_append, keys_putEntry, ih, List.map_append, List.eraseDups_append]
      by_cases known : last.1 ∈ pairs.map Prod.fst
      · simp [known, List.removeAll, List.mem_eraseDups]
      · simp [known, List.removeAll, List.mem_eraseDups, List.eraseDups_cons]

theorem lookup_tabled (pairs : List (String × β)) (name : String) :
    (tabled pairs).lookup name = pairs.reverse.lookup name := by
  induction pairs using List.reverseRecOn with
  | nil => rfl
  | append_singleton pairs last ih =>
      rw [tabled_append, lookup_putEntry, ih, List.reverse_append]
      exact (lookup_cons_eq last pairs.reverse name).symm

/-- Where no name is repeated, the pairs are a table already. -/
theorem tabled_of_nodup (nodup : (pairs.map Prod.fst).Nodup) : tabled pairs = pairs := by
  induction pairs using List.reverseRecOn with
  | nil => rfl
  | append_singleton pairs last ih =>
      rw [List.map_append, List.nodup_append] at nodup
      obtain ⟨nodup, _, apart⟩ := nodup
      have new : last.1 ∉ pairs.map Prod.fst := fun member => apart _ member _ (.head _) rfl
      rw [tabled_append, ih nodup, putEntry_of_new new]

theorem length_tabled_append (pairs : List (String × β)) (last : String × β) :
    (tabled (pairs ++ [last])).length =
      (tabled pairs).length + if last.1 ∈ pairs.map Prod.fst then 0 else 1 := by
  have keys := congrArg List.length (keys_putEntry last.1 last.2 (tabled pairs))
  have known : last.1 ∈ (tabled pairs).map Prod.fst ↔ last.1 ∈ pairs.map Prod.fst := by
    rw [keys_tabled, List.mem_eraseDups]
  rw [List.length_map] at keys
  rw [tabled_append, keys]
  simp only [known]
  split <;> simp

theorem length_tabled_le (pairs : List (String × β)) : (tabled pairs).length ≤ pairs.length := by
  induction pairs using List.reverseRecOn with
  | nil => exact Nat.le_refl 0
  | append_singleton pairs last ih =>
      rw [length_tabled_append, List.length_append, List.length_singleton]
      split <;> omega

/-- A table has as many entries as were added only where no name is repeated. -/
theorem nodup_of_length_tabled (all : (tabled pairs).length = pairs.length) :
    (pairs.map Prod.fst).Nodup := by
  induction pairs using List.reverseRecOn with
  | nil => exact List.nodup_nil
  | append_singleton pairs last ih =>
      have fewer := length_tabled_le pairs
      rw [length_tabled_append, List.length_append, List.length_singleton] at all
      by_cases known : last.1 ∈ pairs.map Prod.fst
      · rw [if_pos known] at all
        omega
      · rw [if_neg known] at all
        rw [List.map_append, List.nodup_append]
        refine ⟨ih (by omega), by simp, ?_⟩
        rintro other member _ (_ | ⟨_, ⟨⟩⟩) rfl
        exact known member

end Names

namespace Entries

/-- Entries under string keys. -/
def named (pairs : List (String × Value)) : Entries :=
  pairs.map fun pair => (.string pair.1, pair.2)

theorem putEntry_named (name : String) (value : Value) (pairs : List (String × Value)) :
    putEntry id (.string name) value (named pairs) =
      named (putEntry Value.string name value pairs) := by
  induction pairs with
  | nil => rfl
  | cons first pairs ih =>
      rw [named, List.map_cons, putEntry, putEntry, ← named, ih]
      simp only [id]
      split <;> rfl

theorem ofPairs_named (pairs : List (String × Value)) :
    ofPairs (named pairs) = .ok (named (tabled pairs)) := by
  have hashable : ∀ entry ∈ named pairs, ∃ code, entry.1.hash = .ok code := by
    intro entry member
    obtain ⟨pair, _, rfl⟩ := List.mem_map.mp member
    exact Value.exists_hash_string pair.1
  rw [ofPairs, putEntries_of_hashable hashable]
  congr 1
  clear hashable
  induction pairs using List.reverseRecOn with
  | nil => rfl
  | append_singleton pairs last ih =>
      rw [named, List.map_append, List.foldl_append, ← named, ih, tabled_append]
      exact putEntry_named last.1 last.2 (tabled pairs)

theorem find?_named (pairs : List (String × Value)) (name : String) :
    (named pairs).find? (.string name) = pairs.lookup name := by
  induction pairs with
  | nil => rfl
  | cons first pairs ih =>
      show Entries.find? ((.string first.1, first.2) :: named pairs) (.string name) = _
      rw [lookup_cons_eq, ← ih, find?, find?, List.find?_cons, Value.equal_string]
      by_cases same : first.1 = name
      · rw [if_pos same.symm, decide_eq_true same]
        rfl
      · rw [if_neg fun equal => same equal.symm, decide_eq_false same]

end Entries

end QueryCursor

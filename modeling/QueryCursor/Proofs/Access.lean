import QueryCursor.Proofs.Spelling
import QueryCursor.Record

/-!
# Access to fields

A field of a record is found by its name or by its position, in a number of ways.  By name they
all find the first field of that name, or none of them finds any; by position they count from
either end.  Only to say that there is no such attribute the whole record is written out, which
a record among its values can prevent.
-/

namespace QueryCursor

namespace Record

variable {record : Record} {names : List String} {name : String} {place : Nat} {value : Value}
  {position : Int}

/-- A name by which a column can be got as a member: no operation has it, and it does not begin
with an underscore. -/
def Visible (name : String) : Prop :=
  operations.contains name = false ∧ name.startsWith "_" = false

/-! ## By name -/

/-- Whichever way the name is looked up, the first field of that name is found, with its value. -/
structure FoundAt (record : Record) (name : String) (place : Nat) (value : Value) : Prop where
  column_eq : record.columns[place]? = some (.string name)
  first : ∀ earlier < place, record.columns[earlier]? ≠ some (.string name)
  value_eq : record.values[place]? = some value
  field_eq : record.fields[place]? = some (.string name, value)
  index : record.index (.string name) = .ok place
  lookup : record.lookup (.string name) = .ok value
  get : ∀ absent, record.get (.string name) absent = .ok value
  member : Visible name → record.member name = .ok (.value value)

/-- A fault of such a kind is raised, with such a message. -/
def Raises {α : Type} (outcome : Except Fault α) (kind message : String) : Prop :=
  ∃ fault, outcome = .error fault ∧ fault.kind = kind ∧ fault.message = message

/-- Whichever way the name is looked up, no field is found.  As a member it is refused with the
record written out; where that cannot be done, a value of the record holds what cannot be hashed,
and this is told instead. -/
structure Missing (record : Record) (name : String) : Prop where
  index : Raises (record.index (.string name)) "KeyError"
    ("Record Error: invalid column name " ++ name)
  lookup : Raises (record.lookup (.string name)) "KeyError"
    ("Record Error: invalid column name " ++ name)
  get : ∀ absent, record.get (.string name) absent = .ok absent
  member : Visible name → ∀ text, record.literal = .ok text →
    Raises (record.member name) "AttributeError"
      ("Record Error: invalid column name " ++ name ++ " on " ++ text)
  unwritten : Visible name → ∀ fault, record.literal = .error fault →
    record.member name = .error fault ∧
      ∃ part, fault = .unhashable part ∧ ∃ value ∈ record.values, value.HoldsUnhashable part

theorem any_equal_string (names : List String) (name : String) :
    (names.map Value.string).any (·.equal (.string name)) = decide (name ∈ names) := by
  induction names with
  | nil => rfl
  | cons first names ih =>
      have swap : first = name ↔ name = first := eq_comm
      rw [List.map_cons, List.any_cons, ih, Value.equal_string]
      simp only [List.mem_cons, Bool.decide_or, swap]

theorem findIdx?_equal_string (names : List String) (name : String) :
    (names.map Value.string).findIdx? (·.equal (.string name)) =
      names.findIdx? fun other => decide (other = name) := by
  rw [List.findIdx?_map]
  congr 1
  funext other
  exact Value.equal_string other name

/-- A visible name is looked for among the columns. -/
theorem member_of_visible (visible : Visible name) :
    record.member name =
      match record.columns.findIdx? (·.equal (.string name)) with
      | some _ => (record.atColumn (.string name)).map .value
      | none => record.literal.bind fun text => .error (.record (.noAttribute name text)) := by
  obtain ⟨noOperation, notHidden⟩ := visible
  have notColumns : name ≠ "_columns" := by
    rintro rfl
    exact absurd notHidden (by decide +kernel)
  have notValues : name ≠ "_values" := by
    rintro rfl
    exact absurd notHidden (by decide +kernel)
  rw [member]
  simp only [noOperation, notHidden, notColumns, notValues, Bool.false_eq_true, if_false]
  cases record.columns.findIdx? (·.equal (.string name)) with
  | some place => cases record.atColumn (.string name) <;> rfl
  | none => cases record.literal <;> rfl

theorem get_of_lookup_ok {key : Value} (found : record.lookup key = .ok value) (absent : Value) :
    record.get key absent = .ok value := by
  rw [get, found]

theorem get_of_lookup_error {key : Value} {fault : Fault} (failed : record.lookup key = .error fault)
    (isLookup : fault.isLookup = true) (absent : Value) : record.get key absent = .ok absent := by
  rw [get, failed]
  exact if_pos isLookup

theorem exists_foundAt (columns_eq : record.columns = names.map .string) (known : name ∈ names) :
    ∃ place value, FoundAt record name place value := by
  obtain ⟨place, found⟩ : ∃ place, names.findIdx? (fun other => decide (other = name)) = some place := by
    rw [← Option.isSome_iff_exists, List.findIdx?_isSome, List.any_eq_true]
    exact ⟨name, known, decide_eq_true rfl⟩
  obtain ⟨inNames, there, first⟩ := List.findIdx?_eq_some_iff_getElem.mp found
  have column_eq : record.columns[place]? = some (.string name) := by
    rw [columns_eq, List.getElem?_map, List.getElem?_eq_getElem inNames, of_decide_eq_true there]
    rfl
  obtain ⟨⟨column, value⟩, field_eq, rfl⟩ : ∃ field, record.fields[place]? = some field ∧
      field.1 = .string name := by
    rw [columns, List.getElem?_map] at column_eq
    exact Option.map_eq_some_iff.mp column_eq
  have value_eq : record.values[place]? = some value := by
    rw [values, List.getElem?_map, field_eq]
    rfl
  have index : record.index (.string name) = .ok place := by
    rw [Record.index, columns_eq, findIdx?_equal_string, found]
  have lookup : record.lookup (.string name) = .ok value := by
    show record.atColumn (.string name) = .ok value
    rw [atColumn, index]
    simp only [bind, Except.bind, value_eq]
    rfl
  refine ⟨place, value, column_eq, ?_, value_eq, field_eq, index, lookup, get_of_lookup_ok lookup, ?_⟩
  · intro earlier before same
    have shorter : earlier < names.length := Nat.lt_trans before inNames
    rw [columns_eq, List.getElem?_map, List.getElem?_eq_getElem shorter] at same
    exact first earlier before (decide_eq_true (Value.string.inj (Option.some.inj same)))
  · intro visible
    have atColumn_eq : record.atColumn (.string name) = .ok value := lookup
    rw [member_of_visible visible, columns_eq, findIdx?_equal_string, found, atColumn_eq]
    rfl

/-- A record of named columns is not written out because of one of its values. -/
theorem exists_of_literal_error {fault : Fault} (columns_eq : record.columns = names.map .string)
    (failed : record.literal = .error fault) :
    ∃ part, fault = .unhashable part ∧ ∃ value ∈ record.values, value.HoldsUnhashable part := by
  have named : ∀ field ∈ record.fields, ∃ text, field.1 = .string text := by
    intro field member
    have inColumns : field.1 ∈ record.columns := List.mem_map_of_mem member
    rw [columns_eq] at inColumns
    obtain ⟨text, _, same⟩ := List.mem_map.mp inColumns
    exact ⟨text, same.symm⟩
  rw [literal] at failed
  cases literal_eq : record.toValue.literal with
  | ok text =>
      rw [literal_eq] at failed
      cases failed
  | error part =>
      rw [literal_eq] at failed
      cases failed
      refine ⟨part, rfl, ?_⟩
      cases record.toValue.holdsUnhashable_of_literal literal_eq with
      | column member unhashable =>
          obtain ⟨text, same⟩ := named _ member
          obtain ⟨code, hashed⟩ := Value.exists_hash_string text
          rw [same, hashed] at unhashable
          cases unhashable
      | inColumn member holds =>
          obtain ⟨text, same⟩ := named _ member
          rw [same] at holds
          cases holds
      | inField member holds => exact ⟨_, List.mem_map_of_mem member, holds⟩

/-- No way of looking a name up finds it when it is not among the columns. -/
theorem missing_of_notMem (columns_eq : record.columns = names.map .string)
    (unknown : name ∉ names) : Missing record name := by
  have none_eq : record.columns.findIdx? (·.equal (.string name)) = none := by
    rw [columns_eq, findIdx?_equal_string, List.findIdx?_eq_none_iff]
    intro other member
    exact decide_eq_false fun same => unknown (same ▸ member)
  have index : record.index (.string name) = .error (.record (.noColumn name)) := by
    rw [Record.index, none_eq]
    rfl
  have lookup : record.lookup (.string name) = .error (.record (.noColumn name)) := by
    show record.atColumn (.string name) = _
    rw [atColumn, index]
    rfl
  refine ⟨⟨_, index, rfl, rfl⟩, ⟨_, lookup, rfl, rfl⟩, get_of_lookup_error lookup rfl, ?_, ?_⟩
  · intro visible text literal_eq
    rw [member_of_visible visible, none_eq, literal_eq]
    exact ⟨_, rfl, rfl, rfl⟩
  · intro visible fault literal_eq
    rw [member_of_visible visible, none_eq, literal_eq]
    exact ⟨rfl, exists_of_literal_error columns_eq literal_eq⟩

/-- A name that is missing is no member, whether or not the record can be written out. -/
theorem Missing.not_member (missing : Missing record name) (visible : Visible name)
    (found : Member) : record.member name ≠ .ok found := by
  intro member_eq
  cases literal_eq : record.literal with
  | ok text =>
      obtain ⟨fault, failed, -, -⟩ := missing.member visible text literal_eq
      rw [member_eq] at failed
      cases failed
  | error fault =>
      have failed := (missing.unwritten visible fault literal_eq).1
      rw [member_eq] at failed
      cases failed

/-! ## By position -/

/-- The position that a key stands for: an integer itself, a truth value as zero or one. -/
inductive StandsFor : Value → Int → Prop where
  | int (position : Int) : StandsFor (.int position) position
  | bool (truth : Bool) : StandsFor (.bool truth) (if truth then 1 else 0)

/-- Whether asked for with or without a default, the key has this value. -/
def Gives (record : Record) (key value : Value) : Prop :=
  record.lookup key = .ok value ∧ ∀ absent, record.get key absent = .ok value

/-- The key finds the value at its position, counted from the end when it is negative, and
nothing beyond the two ends. -/
structure Positional (record : Record) (key : Value) (position : Int) : Prop where
  fromStart : 0 ≤ position → position < record.size →
    ∃ value, record.values[position.toNat]? = some value ∧ record.Gives key value
  fromEnd : -record.size ≤ position → position < 0 →
    ∃ value, record.values[(record.size + position).toNat]? = some value ∧ record.Gives key value
  beyond : position < -record.size ∨ record.size ≤ position →
    (∃ fault, record.lookup key = .error fault ∧ fault.kind = "IndexError") ∧
      ∀ absent, record.get key absent = .ok absent

theorem lookup_of_standsFor {key : Value} (stands : StandsFor key position) :
    record.lookup key = record.atPosition position := by
  cases stands <;> rfl

@[simp] theorem length_values (record : Record) : record.values.length = record.size :=
  List.length_map _

/-- A position within the bounds is counted from the start when it is not negative. -/
theorem atPosition_eq (fits : (record.size : Int) ≤ positionBound)
    (lower : -record.size ≤ position) (upper : position < record.size) :
    ∃ value, record.values[(if position < 0 then position + record.size else position).toNat]? =
      some value ∧ record.atPosition position = .ok value := by
  have notHuge : ¬(position < -positionBound ∨ positionBound ≤ position) := by omega
  have within : (if position < 0 then position + record.size else position).toNat <
      record.values.length := by
    rw [length_values]
    split <;> omega
  have notNegative : ¬(if position < 0 then position + record.size else position) < 0 := by
    split <;> omega
  refine ⟨_, List.getElem?_eq_getElem within, ?_⟩
  rw [atPosition, if_neg notHuge]
  simp only [if_neg notNegative, List.getElem?_eq_getElem within]

theorem atPosition_error (beyond : position < -record.size ∨ record.size ≤ position) :
    ∃ fault, record.atPosition position = .error fault ∧ fault.kind = "IndexError" ∧
      fault.isLookup = true := by
  rw [atPosition]
  by_cases huge : position < -positionBound ∨ positionBound ≤ position
  · rw [if_pos huge]
    exact ⟨_, rfl, rfl, rfl⟩
  · rw [if_neg huge]
    simp only
    generalize place_eq : (if position < 0 then position + record.size else position) = place
    by_cases negative : place < 0
    · rw [if_pos negative]
      exact ⟨_, rfl, rfl, rfl⟩
    · have outside : record.values.length ≤ place.toNat := by
        rw [length_values]
        split at place_eq <;> omega
      rw [if_neg negative, List.getElem?_eq_none outside]
      exact ⟨_, rfl, rfl, rfl⟩

theorem gives_of_atPosition {key : Value} (stands : StandsFor key position)
    (found : record.atPosition position = .ok value) : record.Gives key value :=
  have lookup_eq := (lookup_of_standsFor stands).trans found
  ⟨lookup_eq, get_of_lookup_ok lookup_eq⟩

theorem positional (fits : (record.size : Int) ≤ positionBound) {key : Value}
    (stands : StandsFor key position) : Positional record key position where
  fromStart notNegative upper := by
    obtain ⟨value, value_eq, found⟩ := atPosition_eq fits (by omega) upper
    rw [if_neg (by omega)] at value_eq
    exact ⟨value, value_eq, gives_of_atPosition stands found⟩
  fromEnd lower negative := by
    obtain ⟨value, value_eq, found⟩ := atPosition_eq fits lower (by omega)
    rw [if_pos negative, Int.add_comm] at value_eq
    exact ⟨value, value_eq, gives_of_atPosition stands found⟩
  beyond outside := by
    obtain ⟨fault, failed, isIndex, isLookup⟩ := atPosition_error outside
    rw [← lookup_of_standsFor stands] at failed
    exact ⟨⟨fault, failed, isIndex⟩, get_of_lookup_error failed isLookup⟩

/-! ## All ways agree -/

/-- All ways to look a name up find its first field, or none finds any.  In a record whose places
can all be counted with a sign in sixty-four bits, a position is counted from either end. -/
theorem lookups_agree (columns_eq : record.columns = names.map .string) :
    (∀ name,
      (record.contains (.string name) = true ↔
        ∃ place, record.index (.string name) = .ok place) ∧
      (record.contains (.string name) = true ↔
        ∃ value, record.lookup (.string name) = .ok value) ∧
      (Visible name → (record.contains (.string name) = true ↔
        ∃ found, record.member name = .ok found)) ∧
      (record.contains (.string name) = true →
        ∃ place value, FoundAt record name place value) ∧
      (record.contains (.string name) = false → Missing record name)) ∧
    ((record.size : Int) ≤ positionBound →
      ∀ key position, StandsFor key position → Positional record key position) := by
  refine ⟨fun name => ?_, fun fits key position => positional fits⟩
  have contains_eq : record.contains (.string name) = decide (name ∈ names) := by
    rw [contains, columns_eq, any_equal_string]
  rw [contains_eq]
  by_cases known : name ∈ names
  · obtain ⟨place, value, found⟩ := exists_foundAt columns_eq known
    simp only [known, decide_true, true_iff, true_implies, Bool.true_eq_false, false_implies,
      and_true]
    exact ⟨⟨place, found.index⟩, ⟨value, found.lookup⟩,
      fun visible => ⟨.value value, found.member visible⟩, place, value, found⟩
  · have missing := missing_of_notMem columns_eq known
    simp only [known, decide_false, Bool.false_eq_true, false_iff, false_implies, true_implies,
      true_and]
    refine ⟨?_, ?_, ?_, missing⟩
    · rintro ⟨place, found⟩
      obtain ⟨fault, failed, -, -⟩ := missing.index
      rw [found] at failed
      cases failed
    · rintro ⟨value, found⟩
      obtain ⟨fault, failed, -, -⟩ := missing.lookup
      rw [found] at failed
      cases failed
    · rintro visible ⟨member, found⟩
      exact missing.not_member visible member found

/-- A record with the same column twice. -/
def repeated : Record := ⟨[(.string "a", .int 1), (.string "a", .int 2)]⟩

/-- Of a column that is there twice the first is found, another name is missing, and the true value
stands for the second position. -/
theorem lookups_of_repeated :
    repeated.columns = ["a", "a"].map .string ∧ (repeated.size : Int) ≤ positionBound ∧
      (∃ place value, FoundAt repeated "a" place value) ∧ Missing repeated "b" ∧
        Positional repeated (.bool true) 1 := by
  have columns_eq : repeated.columns = ["a", "a"].map .string := rfl
  have fits : (repeated.size : Int) ≤ positionBound := by decide
  obtain ⟨byName, byPosition⟩ := lookups_agree columns_eq
  obtain ⟨-, -, -, found, -⟩ := byName "a"
  obtain ⟨-, -, -, -, missing⟩ := byName "b"
  have contains_eq : ∀ name, repeated.contains (.string name) = decide (name ∈ ["a", "a"]) :=
    any_equal_string ["a", "a"]
  exact ⟨columns_eq, fits, found (contains_eq "a"), missing (contains_eq "b"),
    byPosition fits _ _ (.bool true)⟩

/-- A record in which there is a record with a list for a column. -/
def unwritable : Record := ⟨[(.string "a", .record [(.list [.string "x"], .int 1)])]⟩

/-- The record is accepted, its operations say that it has no field of that name, and still the
member is not refused as such. -/
theorem unwritable_member :
    make [.string "a"] [.record [(.list [.string "x"], .int 1)]] = .ok unwritable ∧
      Visible "b" ∧ unwritable.contains (.string "b") = false ∧
      (∃ fault, unwritable.lookup (.string "b") = .error fault ∧ fault.kind = "KeyError") ∧
      ¬∃ fault, unwritable.member "b" = .error fault ∧ fault.kind = "AttributeError" := by
  have visible : Visible "b" := ⟨by decide +kernel, by decide +kernel⟩
  have columns_eq : unwritable.columns = ["a"].map .string := rfl
  have missing : Missing unwritable "b" := missing_of_notMem columns_eq (by decide)
  have unwritten : unwritable.literal = .error (.unhashable .list) := rfl
  obtain ⟨fault, failed, isKey, -⟩ := missing.lookup
  refine ⟨rfl, visible, any_equal_string ["a"] "b", ⟨fault, failed, isKey⟩, ?_⟩
  rintro ⟨other, refused, isAttribute⟩
  rw [(missing.unwritten visible _ unwritten).1] at refused
  cases refused
  exact absurd isAttribute (by decide)

end Record

end QueryCursor

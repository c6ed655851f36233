import QueryCursor.Value

/-!
# Hashing of values

The hash of a value agrees with equality: a number is hashed by its quantity.
Lists and mappings have no hash, and neither has a tuple or a record that
contains one; the first such part decides the failure.
-/

namespace QueryCursor

/-- A value that cannot be hashed. -/
inductive Unhashable where
  | list
  | mapping
  deriving DecidableEq

/-- The hash of a quantity. -/
def Quantity.hash : Quantity → UInt64
  | .finite value => mixHash 3 (mixHash (Hashable.hash value.num) (Hashable.hash value.den))
  | .infinite negative => mixHash 5 (Hashable.hash negative)
  | .nan payload => mixHash 7 (Hashable.hash payload)

mutual

/-- The hash of a value, if every part of it has one. -/
def Value.hash (value : Value) : Except Unhashable UInt64 :=
  match value with
  | .null => .ok 11
  | .bool value => .ok (Quantity.finite (if value then 1 else 0)).hash
  | .int value => .ok (Quantity.finite value).hash
  | .double value => .ok value.quantity.hash
  | .string value => .ok (mixHash 13 (Hashable.hash value))
  | .bytes value => .ok (mixHash 17 (Hashable.hash value))
  | .list _ => .error .list
  | .tuple items => hashItems 19 items
  | .mapping _ => .error .mapping
  | .record fields => do
    let columns ← hashColumns 23 fields
    let values ← hashColumnValues 29 fields
    return mixHash columns values

/-- The hash of a sequence, from left to right. -/
def hashItems (seed : UInt64) : List Value → Except Unhashable UInt64
  | [] => .ok seed
  | item :: items => do
    let first ← item.hash
    hashItems (mixHash seed first) items

/-- The hash of the columns of a record. -/
def hashColumns (seed : UInt64) : List (Value × Value) → Except Unhashable UInt64
  | [] => .ok seed
  | (column, _) :: fields => do
    let first ← column.hash
    hashColumns (mixHash seed first) fields

/-- The hash of the values of a record. -/
def hashColumnValues (seed : UInt64) : List (Value × Value) → Except Unhashable UInt64
  | [] => .ok seed
  | (_, value) :: fields => do
    let first ← value.hash
    hashColumnValues (mixHash seed first) fields

end

end QueryCursor

import QueryCursor.Double

/-!
# Values

The values that a record can hold and that a query or a caller can supply.
Mappings and records keep their entries in order; the keys of a mapping are
pairwise different, those of a record need not be.
-/

namespace QueryCursor

/-- A value of a query result. -/
inductive Value where
  | null
  | bool (value : Bool)
  | int (value : Int)
  | double (value : Double)
  | string (value : String)
  | bytes (value : List UInt8)
  | list (items : List Value)
  | tuple (items : List Value)
  | mapping (entries : List (Value × Value))
  | record (fields : List (Value × Value))
  deriving Inhabited

/-- Entries of a mapping, or fields of a record, in order. -/
abbrev Entries := List (Value × Value)

namespace Value

/-- The quantity of a numeric value; the booleans are the numbers zero and one. -/
def quantity? : Value → Option Quantity
  | .bool value => some (.finite (if value then 1 else 0))
  | .int value => some (.finite value)
  | .double value => some value.quantity
  | _ => none

/-- The truth of a value: null, zero and everything empty are false.  A record
is true when it has a field. -/
def truth : Value → Bool
  | .null => false
  | .bool value => value
  | .int value => value != 0
  | .double value => !value.isZero
  | .string value => !value.isEmpty
  | .bytes value => !value.isEmpty
  | .list items => !items.isEmpty
  | .tuple items => !items.isEmpty
  | .mapping entries => !entries.isEmpty
  | .record fields => !fields.isEmpty

/-- Null for nothing, a string otherwise. -/
def ofString? : Option String → Value
  | none => .null
  | some text => .string text

/-- Null for nothing. -/
def ofOption : Option Value → Value
  | none => .null
  | some value => value

end Value

end QueryCursor

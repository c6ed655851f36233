import QueryCursor.Fault
import QueryCursor.Value.Literal

/-!
# Records

A record is one row of a result: a sequence of fields, each a column and the
value in it.  Fields are found by column, the first one when a column is
repeated, or by position, counted from the end when negative.  A record never
changes.
-/

namespace QueryCursor

/-- A row of a result, field by field in query order. -/
structure Record where
  fields : List (Value × Value)
  deriving Inhabited

/-- What a name after a record stands for. -/
inductive Member where
  /-- An operation of every record. -/
  | operation (name : String)
  | value (value : Value)

namespace Record

/-- The record with the given columns and values, which have to be equally
many. -/
def make (columns values : List Value) : Except Fault Record :=
  if columns.length = values.length then .ok ⟨columns.zip values⟩
  else .error (.record (.arity columns.length values.length))

/-- The record with the entries of a mapping. -/
def ofEntries (entries : Entries) : Record := ⟨entries⟩

/-- The columns in order. -/
def columns (record : Record) : List Value := record.fields.map Prod.fst

/-- The values in order. -/
def values (record : Record) : List Value := record.fields.map Prod.snd

/-- The number of fields. -/
def size (record : Record) : Nat := record.fields.length

/-- The record as a value. -/
def toValue (record : Record) : Value := .record record.fields

/-- The mapping from column to value; of a repeated column the last value
counts. -/
def data (record : Record) : Except Fault Entries :=
  Unhashable.lift (Entries.ofPairs record.fields)

/-- Equality of records: columns and values in order. -/
def equal (left right : Record) : Bool :=
  equalFields left.fields right.fields

instance : BEq Record := ⟨equal⟩

/-- The hash of a record: that of its columns, then that of its values. -/
def hash (record : Record) : Except Fault UInt64 :=
  Unhashable.lift record.toValue.hash

/-- The literal of a record. -/
def literal (record : Record) : Except Fault String :=
  Unhashable.lift record.toValue.literal

/-- The fields of a record as text. -/
def text (record : Record) : Except Fault String :=
  Unhashable.lift record.toValue.text

/-- Whether a column is in the record. -/
def contains (record : Record) (column : Value) : Bool :=
  record.columns.any (·.equal column)

/-- The position of a column. -/
def index (record : Record) (column : Value) : Except Fault Nat :=
  match record.columns.findIdx? (·.equal column) with
  | some place => .ok place
  | none => do
    let name ← Unhashable.lift column.text
    throw (.record (.noColumn name))

/-- Positions are counted with a sign in sixty-four bits. -/
def positionBound : Int := 0x8000000000000000

/-- The value at a position.  A negative position counts from the end, and a
position beyond sixty-four bits is refused as such. -/
def atPosition (record : Record) (position : Int) : Except Fault Value :=
  if position < -positionBound ∨ positionBound ≤ position then .error (.record .indexTooLarge)
  else
    let place := if position < 0 then position + record.size else position
    if place < 0 then .error (.record .indexOutOfRange)
    else
      match record.values[place.toNat]? with
      | some value => .ok value
      | none => .error (.record .indexOutOfRange)

/-- The value in a column. -/
def atColumn (record : Record) (column : Value) : Except Fault Value := do
  let place ← record.index column
  match record.values[place]? with
  | some value => return value
  | none => throw (.record .indexOutOfRange)

/-- The value for a key: an integer, or a truth value as zero or one, is a
position, anything else a column. -/
def lookup (record : Record) (key : Value) : Except Fault Value :=
  match key with
  | .int position => record.atPosition position
  | .bool value => record.atPosition (if value then 1 else 0)
  | column => record.atColumn column

/-- The value for a key, or a default when there is none. -/
def get (record : Record) (key absent : Value) : Except Fault Value :=
  match record.lookup key with
  | .ok value => .ok value
  | .error fault => if fault.isLookup then .ok absent else .error fault

/-- The operations of every record, which hide columns of the same name from
access by member. -/
def operations : List String :=
  ["keys", "values", "items", "get", "index", "data", "columns", "from_dict"]

/-- A member of a record: its operations, its two stored sequences, and its
columns unless their name begins with an underscore. -/
def member (record : Record) (name : String) : Except Fault Member :=
  if operations.contains name then .ok (.operation name)
  else if name = "_columns" then .ok (.value (.tuple record.columns))
  else if name = "_values" then .ok (.value (.tuple record.values))
  else if name.startsWith "_" then .error (.record (.hiddenAttribute name))
  else
    match record.columns.findIdx? (·.equal (.string name)) with
    | some _ => do return .value (← record.atColumn (.string name))
    | none => do
      let literal ← record.literal
      throw (.record (.noAttribute name literal))

/-- The refusal of every attempt to change a record. -/
def change : Except Fault Unit := .error (.record .immutable)

/-- Adds a record to a set of records kept beside their hashes, unless an equal
record with the same hash is in it. -/
def addDistinct (known : List (UInt64 × Record)) (record : Record) :
    Except Fault (List (UInt64 × Record)) := do
  let code ← record.hash
  if known.any fun other => other.1 == code && other.2.equal record then return known
  else return known ++ [(code, record)]

/-- The set of the given records, added in order. -/
def distinct (records : List Record) : Except Fault (List Record) := do
  let known ← records.foldlM addDistinct []
  return known.map Prod.snd

/-- A record as a value; null where there is none. -/
def valueOf : Option Record → Value
  | none => .null
  | some record => record.toValue

end Record

end QueryCursor

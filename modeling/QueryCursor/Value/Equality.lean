import QueryCursor.Value

/-!
# Equality of values

Numbers are equal when they denote the same quantity, whatever their form.
Lists and tuples are compared place by place, and a list never equals a tuple.
Mappings are compared without regard to order, records field by field in order.
-/

namespace QueryCursor

mutual

/-- Equality of values. -/
def Value.equal (left right : Value) : Bool :=
  match left with
  | .null =>
    match right with
    | .null => true
    | _ => false
  | .bool value => right.quantity? = some (.finite (if value then 1 else 0))
  | .int value => right.quantity? = some (.finite value)
  | .double value => right.quantity? = some value.quantity
  | .string value =>
    match right with
    | .string other => value == other
    | _ => false
  | .bytes value =>
    match right with
    | .bytes other => value == other
    | _ => false
  | .list items =>
    match right with
    | .list others => equalItems items others
    | _ => false
  | .tuple items =>
    match right with
    | .tuple others => equalItems items others
    | _ => false
  | .mapping entries =>
    match right with
    | .mapping others => equalEntries entries others
    | _ => false
  | .record fields =>
    match right with
    | .record others => equalFields fields others
    | _ => false

/-- Equality place by place. -/
def equalItems : List Value → List Value → Bool
  | [], [] => true
  | left :: lefts, right :: rights => left.equal right && equalItems lefts rights
  | _, _ => false

/-- Equality without regard to order: every entry finds a partner of its own. -/
def equalEntries : List (Value × Value) → List (Value × Value) → Bool
  | [], others => others.isEmpty
  | (key, value) :: entries, others =>
    match others.findIdx? fun other => key.equal other.1 && value.equal other.2 with
    | none => false
    | some place => equalEntries entries (others.eraseIdx place)

/-- Equality field by field. -/
def equalFields : List (Value × Value) → List (Value × Value) → Bool
  | [], [] => true
  | (key, value) :: fields, other :: others =>
    key.equal other.1 && value.equal other.2 && equalFields fields others
  | _, _ => false

end

instance : BEq Value := ⟨Value.equal⟩

/-- Equality of tables with string names is that of the mappings they are. -/
instance : BEq Entries := ⟨equalEntries⟩

end QueryCursor

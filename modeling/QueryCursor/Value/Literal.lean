import QueryCursor.Double.Decimal
import QueryCursor.Text.Quoted
import QueryCursor.Value.Entries

/-!
# Text of values

Every value has a literal, in which strings are quoted, and a plain text, in
which a string stands for itself and a record lists its fields.  A record is
written as the mapping of its fields, so that a record with an unhashable column
has no literal.
-/

namespace QueryCursor

/-- A column of a record beside its literal, which can fail. -/
structure SpelledColumn where
  column : Value
  literal : Except Unhashable String

/-- A column and the literal of the value in it. -/
abbrev SpelledField := SpelledColumn × Except Unhashable String

/-- One entry of a mapping. -/
def SpelledField.entry (field : SpelledField) : Except Unhashable String := do
  let column ← field.1.literal
  let value ← field.2
  return column ++ ": " ++ value

/-- The literal of the mapping that a list of fields forms. -/
def SpelledField.mapping (fields : List SpelledField) : Except Unhashable String := do
  let table ← putEntries SpelledColumn.column [] fields
  let entries ← table.mapM SpelledField.entry
  return "\x7b" ++ ", ".intercalate entries ++ "\x7d"

namespace Value

/-- The literal of a tuple; a single item is followed by a comma. -/
def tupleText : List String → String
  | [item] => "(" ++ item ++ ",)"
  | items => "(" ++ ", ".intercalate items ++ ")"

/-- The literal of a truth value. -/
def boolText (value : Bool) : String :=
  if value then "True" else "False"

mutual

/-- The literal of a value. -/
def literal (value : Value) : Except Unhashable String :=
  match value with
  | .null => .ok "None"
  | .bool value => .ok (boolText value)
  | .int value => .ok (toString value)
  | .double value => .ok value.text
  | .string value => .ok (Text.quote value)
  | .bytes value => .ok (Text.quoteBytes value)
  | .list items => do
    let texts ← literals items
    return "[" ++ ", ".intercalate texts ++ "]"
  | .tuple items => do
    let texts ← literals items
    return tupleText texts
  | .mapping entries => do
    let texts ← entryLiterals entries
    return "\x7b" ++ ", ".intercalate texts ++ "\x7d"
  | .record fields => do
    let mapping ← SpelledField.mapping (spelledFields fields)
    return "<Record " ++ mapping ++ ">"

/-- The literals of a sequence. -/
def literals : List Value → Except Unhashable (List String)
  | [] => .ok []
  | item :: items => do
    let first ← item.literal
    let rest ← literals items
    return first :: rest

/-- The entries of a mapping, each as a key and a value. -/
def entryLiterals : List (Value × Value) → Except Unhashable (List String)
  | [] => .ok []
  | (key, value) :: entries => do
    let keyText ← key.literal
    let valueText ← value.literal
    let rest ← entryLiterals entries
    return (keyText ++ ": " ++ valueText) :: rest

/-- The literals of the fields of a record, not yet joined. -/
def spelledFields : List (Value × Value) → List SpelledField
  | [] => []
  | (column, value) :: fields =>
    (⟨column, column.literal⟩, value.literal) :: spelledFields fields

end

mutual

/-- The plain text of a value. -/
def text (value : Value) : Except Unhashable String :=
  match value with
  | .string value => .ok value
  | .record fields => do
    let texts ← fieldTexts fields
    return " ".intercalate texts
  | other => other.literal

/-- The fields of a record, each as its column and the literal of its value. -/
def fieldTexts : List (Value × Value) → Except Unhashable (List String)
  | [] => .ok []
  | (column, value) :: fields => do
    let columnText ← column.text
    let valueText ← value.literal
    let rest ← fieldTexts fields
    return (columnText ++ "=" ++ valueText) :: rest

end

end Value

end QueryCursor

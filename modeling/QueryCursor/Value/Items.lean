import QueryCursor.Value

/-!
# What a value holds

Which type a value is of, as messages name it, and which items come out when it
is walked.
-/

namespace QueryCursor

namespace Value

/-- The name of the type of a value. -/
def typeName : Value → String
  | .null => "NoneType"
  | .bool _ => "bool"
  | .int _ => "int"
  | .double _ => "float"
  | .string _ => "str"
  | .bytes _ => "bytes"
  | .list _ => "list"
  | .tuple _ => "tuple"
  | .mapping _ => "dict"
  | .record _ => "Record"

/-- The items of a value that can be walked: of a string its characters, of
bytes their numbers, of a mapping its keys, of a record its columns. -/
def items? : Value → Option (List Value)
  | .string characters =>
    some (characters.toList.map fun character => .string (String.singleton character))
  | .bytes octets => some (octets.map fun octet => .int octet.toNat)
  | .list items => some items
  | .tuple items => some items
  | .mapping entries => some (entries.map Prod.fst)
  | .record fields => some (fields.map Prod.fst)
  | _ => none

end Value

end QueryCursor

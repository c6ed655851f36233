import QueryCursor.Value.Equality
import QueryCursor.Value.Hash

/-!
# Tables of entries

A mapping is built by adding entries one after the other.  An entry whose key is
already there replaces the value and keeps the place and the spelling of the
first key.  Every key is hashed before it is looked up, so an unhashable key is
refused even by an empty table.
-/

namespace QueryCursor

variable {κ β : Type}

/-- Adds an entry to a table whose keys stand for the values `keyOf` them. -/
def putEntry (keyOf : κ → Value) (key : κ) (value : β) : List (κ × β) → List (κ × β)
  | [] => [(key, value)]
  | entry :: entries =>
    if (keyOf entry.1).equal (keyOf key) then (entry.1, value) :: entries
    else entry :: putEntry keyOf key value entries

/-- Adds entries in order, as long as their keys are hashable. -/
def putEntries (keyOf : κ → Value) (table : List (κ × β)) :
    List (κ × β) → Except Unhashable (List (κ × β))
  | [] => .ok table
  | entry :: entries => do
    let _ ← (keyOf entry.1).hash
    putEntries keyOf (putEntry keyOf entry.1 entry.2 table) entries

namespace Entries

/-- The mapping with the given entries, added in order. -/
def ofPairs (pairs : List (Value × Value)) : Except Unhashable Entries :=
  putEntries id [] pairs

/-- The value under a key. -/
def find? (entries : Entries) (key : Value) : Option Value :=
  (List.find? (fun entry => entry.1.equal key) entries).map Prod.snd

/-- The value under a key, which has to be hashable. -/
def lookup (entries : Entries) (key : Value) : Except Unhashable (Option Value) := do
  let _ ← key.hash
  return entries.find? key

end Entries

end QueryCursor

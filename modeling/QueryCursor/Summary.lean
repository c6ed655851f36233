import QueryCursor.Fault
import QueryCursor.Value.Literal

/-!
# Result summaries

Metadata of a completed query.  The two durations are filled in by the producer
of the records, and are null until then.
-/

namespace QueryCursor

/-- What is known about a query besides its records. -/
structure Summary where
  statement : Value := .string ""
  parameters : Entries := []
  counters : Entries := []
  server : Value := .null
  availableAfter : Value := .null
  consumedAfter : Value := .null
  deriving Inhabited

/-- The fields of a summary. -/
inductive SummaryField where
  | statement
  | parameters
  | counters
  | server
  | availableAfter
  | consumedAfter
  deriving DecidableEq

namespace Summary

/-- Whether the query changed anything: some counter is not zero. -/
def containsUpdates (summary : Summary) : Bool :=
  summary.counters.any fun counter => counter.2.truth

/-- A counter, or the default for one that was not reported. -/
def counter (summary : Summary) (name absent : Value) : Except Fault Value := do
  let found ← Unhashable.lift (summary.counters.lookup name)
  return found.getD absent

/-- Equality field by field. -/
def equal (left right : Summary) : Bool :=
  left.statement.equal right.statement
    && equalEntries left.parameters right.parameters
    && equalEntries left.counters right.counters
    && left.server.equal right.server
    && left.availableAfter.equal right.availableAfter
    && left.consumedAfter.equal right.consumedAfter

instance : BEq Summary := ⟨equal⟩

/-- The literal of a summary, field by field. -/
def literal (summary : Summary) : Except Fault String := do
  let field (name : String) (value : Value) : Except Fault String := do
    return name ++ "=" ++ (← Unhashable.lift value.literal)
  let fields ← [
    field "statement" summary.statement,
    field "parameters" (.mapping summary.parameters),
    field "counters" (.mapping summary.counters),
    field "server" summary.server,
    field "result_available_after" summary.availableAfter,
    field "result_consumed_after" summary.consumedAfter].mapM id
  return "ResultSummary(" ++ ", ".intercalate fields ++ ")"

/-- Replaces one field.  The two tables keep their entries when they are given
something that is no mapping. -/
def set (summary : Summary) (field : SummaryField) (value : Value) : Summary :=
  match field, value with
  | .statement, value => { summary with statement := value }
  | .parameters, .mapping entries => { summary with parameters := entries }
  | .parameters, _ => summary
  | .counters, .mapping entries => { summary with counters := entries }
  | .counters, _ => summary
  | .server, value => { summary with server := value }
  | .availableAfter, value => { summary with availableAfter := value }
  | .consumedAfter, value => { summary with consumedAfter := value }

end Summary

namespace SummaryField

/-- The field of a given name. -/
def ofName? : String → Option SummaryField
  | "statement" => some .statement
  | "parameters" => some .parameters
  | "counters" => some .counters
  | "server" => some .server
  | "result_available_after" => some .availableAfter
  | "result_consumed_after" => some .consumedAfter
  | _ => none

end SummaryField

end QueryCursor

import QueryCursor.Record

/-!
# Looking fields up

A lookup in a record fails in one of two ways: with a fault of the record, or because
what it writes into that fault's message cannot be hashed.  No such fault can be mistaken
for one of the cursor.
-/

namespace QueryCursor

/-- The faults of looking up a field. -/
def Fault.OfLookup : Fault → Prop
  | .record _ => True
  | .unhashable _ => True
  | _ => False

namespace Record

variable {record : Record} {fault : Fault}

theorem ofLookup_of_index {column : Value} (failed : record.index column = .error fault) :
    fault.OfLookup := by
  unfold index at failed
  split at failed
  · cases failed
  · cases written : column.text with
    | error part =>
        rw [written] at failed
        cases failed
        trivial
    | ok name =>
        rw [written] at failed
        cases failed
        trivial

theorem ofLookup_of_atPosition {position : Int}
    (failed : record.atPosition position = .error fault) : fault.OfLookup := by
  unfold atPosition at failed
  split at failed
  · cases failed
    trivial
  · simp only at failed
    generalize (if position < 0 then position + record.size else position) = place at failed
    split at failed
    · cases failed
      trivial
    · split at failed
      · cases failed
      · cases failed
        trivial

theorem ofLookup_of_atColumn {column : Value} (failed : record.atColumn column = .error fault) :
    fault.OfLookup := by
  unfold atColumn at failed
  cases found : record.index column with
  | error other =>
      rw [found] at failed
      cases failed
      exact ofLookup_of_index found
  | ok place =>
      simp only [found] at failed
      cases value : record.values[place]? with
      | some =>
          simp only [bind, Except.bind, value] at failed
          cases failed
      | none =>
          simp only [bind, Except.bind, value] at failed
          cases failed
          trivial

/-- Every failed lookup tells of the record or of what cannot be hashed. -/
theorem ofLookup_of_lookup {key : Value} (failed : record.lookup key = .error fault) :
    fault.OfLookup := by
  cases key with
  | int position => exact ofLookup_of_atPosition failed
  | bool value => exact ofLookup_of_atPosition failed
  | _ => exact ofLookup_of_atColumn failed

end Record

end QueryCursor

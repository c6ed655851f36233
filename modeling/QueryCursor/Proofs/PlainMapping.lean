import QueryCursor.Proofs.Access
import QueryCursor.Proofs.Equality

/-!
# The plain mapping of a record

The plain mapping of a record has every name once, where it comes first, and under it the last of
its values, while the record itself gives the first one.  The two are the same mapping exactly
where no name is repeated, and a mapping is never changed by going through a record.
-/

namespace QueryCursor

theorem length_of_equalFields {left right : Entries} (equal : equalFields left right = true) :
    left.length = right.length := by
  rw [equalFields_eq, Bool.and_eq_true, equalItems_iff] at equal
  simpa using equal.1.length_eq

namespace Record

open Entries

variable {record : Record} {names : List String} {values : List Value} {name : String}
  {pairs : List (String × Value)} {entries : Entries}

/-! ## From a record to its mapping -/

/-- What the plain mapping of a record with such names is. -/
structure PlainMapping (record : Record) (names : List String) (entries : Entries) : Prop where
  keys : entries.map Prod.fst = names.eraseDups.map .string
  last : ∀ name, entries.find? (.string name) = Entries.find? record.fields.reverse (.string name)
  first : ∀ name value, record.lookup (.string name) = .ok value ↔
    Entries.find? record.fields (.string name) = some value
  length_iff : entries.length = record.size ↔ names.Nodup
  equal_iff : (ofEntries entries).equal record = true ↔ names.Nodup
  same : names.Nodup → entries = record.fields

theorem fields_of_make (made : make (names.map .string) values = .ok record) :
    names.length = values.length ∧ record.fields = named (names.zip values) := by
  rw [make, List.length_map] at made
  by_cases paired : names.length = values.length
  · rw [if_pos paired] at made
    cases made
    refine ⟨paired, ?_⟩
    rw [named, List.zip_map_left]
    rfl
  · rw [if_neg paired] at made
    cases made

theorem columns_named (fields_eq : record.fields = named pairs) :
    record.columns = (pairs.map Prod.fst).map .string := by
  rw [columns, fields_eq, named, List.map_map, List.map_map]
  rfl

theorem data_named (fields_eq : record.fields = named pairs) :
    record.data = .ok (named (tabled pairs)) := by
  rw [data, fields_eq, ofPairs_named]
  rfl

/-- The field that is found under a name is the first entry of that name. -/
theorem FoundAt.find?_eq {place : Nat} {value : Value} (found : FoundAt record name place value)
    (columns_eq : record.columns = names.map .string) :
    Entries.find? record.fields (.string name) = some value := by
  obtain ⟨inFields, field_eq⟩ := List.getElem?_eq_some_iff.mp found.field_eq
  rw [find?, Option.map_eq_some_iff]
  refine ⟨(.string name, value), List.find?_eq_some_iff_getElem.mpr ⟨?_, place, inFields, field_eq, ?_⟩,
    rfl⟩
  · exact Value.equal_refl _
  · intro earlier before
    have column_eq : record.columns[earlier]? = some record.fields[earlier].1 := by
      rw [columns, List.getElem?_map, List.getElem?_eq_getElem (Nat.lt_trans before inFields)]
      rfl
    have notFirst := found.first earlier before
    obtain ⟨other, same⟩ : ∃ other, record.fields[earlier].1 = .string other := by
      rw [columns_eq, List.getElem?_map] at column_eq
      obtain ⟨other, _, same⟩ := Option.map_eq_some_iff.mp column_eq
      exact ⟨other, same.symm⟩
    rw [column_eq, same] at notFirst
    rw [same, Value.equal_string]
    simpa using notFirst

theorem lookup_named (fields_eq : record.fields = named pairs) (value : Value) :
    record.lookup (.string name) = .ok value ↔
      Entries.find? record.fields (.string name) = some value := by
  have columns_eq := columns_named fields_eq
  by_cases known : name ∈ pairs.map Prod.fst
  · obtain ⟨place, first, found⟩ := exists_foundAt columns_eq known
    rw [found.lookup, found.find?_eq columns_eq, Except.ok.injEq, Option.some.injEq]
  · obtain ⟨fault, failed, -, -⟩ := (missing_of_notMem columns_eq known).lookup
    have absent : pairs.lookup name = none := by
      rw [List.lookup_eq_none_iff]
      intro pair member
      exact bne_iff_ne.mpr fun same => known (List.mem_map.mpr ⟨pair, member, same.symm⟩)
    rw [failed, fields_eq, find?_named, absent]
    simp

theorem plainMapping_named (fields_eq : record.fields = named pairs) :
    PlainMapping record (pairs.map Prod.fst) (named (tabled pairs)) := by
  have size_eq : record.size = pairs.length := by
    rw [size, fields_eq, named, List.length_map]
  have length_eq : (named (tabled pairs)).length = (tabled pairs).length := List.length_map _
  have same : (pairs.map Prod.fst).Nodup → named (tabled pairs) = record.fields := by
    intro nodup
    rw [tabled_of_nodup nodup, fields_eq]
  have nodup_of_length : (named (tabled pairs)).length = record.size → (pairs.map Prod.fst).Nodup := by
    intro all
    rw [length_eq, size_eq] at all
    exact nodup_of_length_tabled all
  refine ⟨?_, ?_, fun name => lookup_named fields_eq, ?_, ?_, same⟩
  · rw [← keys_tabled, named, List.map_map, List.map_map]
    rfl
  · intro name
    have reversed : record.fields.reverse = named pairs.reverse := by
      rw [fields_eq, named, named, List.map_reverse]
    rw [reversed, find?_named, find?_named, lookup_tabled]
  · exact ⟨nodup_of_length, fun nodup => congrArg List.length (same nodup)⟩
  · refine ⟨fun equal => nodup_of_length (length_of_equalFields equal), fun nodup => ?_⟩
    rw [same nodup]
    exact record.equal_refl

/-! ## From a mapping to its record -/

/-- A mapping comes back from its record as it was. -/
theorem data_ofEntries_named (nodup : (pairs.map Prod.fst).Nodup) :
    (ofEntries (named pairs)).data = .ok (named pairs) := by
  have data_eq : (ofEntries (named pairs)).data = .ok (named (tabled pairs)) := data_named rfl
  rw [data_eq, tabled_of_nodup nodup]

/-- The plain mapping of a record gives the last of the values of a name, the record the first;
the record comes back from its mapping exactly where no name is repeated.  A mapping always comes
back from its record. -/
theorem plain_mapping (made : make (names.map .string) values = .ok record) :
    (∃ entries, record.data = .ok entries ∧ PlainMapping record names entries) ∧
      ∀ pairs : List (String × Value), (pairs.map Prod.fst).Nodup →
        (ofEntries (named pairs)).data = .ok (named pairs) := by
  obtain ⟨paired, fields_eq⟩ := fields_of_make made
  have names_eq : (names.zip values).map Prod.fst = names :=
    List.map_fst_zip (Nat.le_of_eq paired)
  have mapping := plainMapping_named fields_eq
  rw [names_eq] at mapping
  exact ⟨⟨_, data_named fields_eq, mapping⟩, fun pairs nodup => data_ofEntries_named nodup⟩

/-- A record with a column between two columns of one name. -/
def interleaved : Record :=
  ⟨[(.string "a", .int 1), (.string "b", .int 2), (.string "a", .int 3)]⟩

/-- Its mapping has two entries, in the order of the names, and two entries in another order come
back as they were. -/
theorem plain_mapping_of_interleaved :
    make (["a", "b", "a"].map .string) [.int 1, .int 2, .int 3] = .ok interleaved ∧
      (∃ entries, interleaved.data = .ok entries ∧
        entries.map Prod.fst = [.string "a", .string "b"] ∧ entries.length ≠ interleaved.size) ∧
      (ofEntries (named [("b", .int 1), ("a", .int 2)])).data =
        .ok (named [("b", .int 1), ("a", .int 2)]) := by
  have made : make (["a", "b", "a"].map .string) [.int 1, .int 2, .int 3] = .ok interleaved := rfl
  obtain ⟨⟨entries, data_eq, mapping⟩, back⟩ := plain_mapping made
  refine ⟨made, ⟨entries, data_eq, mapping.keys, fun all => ?_⟩, back _ (by decide)⟩
  exact absurd (mapping.length_iff.mp all) (by decide)

/-- Where a name is repeated, the record gives its first value and the mapping its last.  The
mapping is shorter than the record, and makes another one. -/
theorem repeated_data :
    make (["a", "a"].map .string) [.int 1, .int 2] = .ok repeated ∧
      repeated.lookup (.string "a") = .ok (.int 1) ∧
      ∃ entries, repeated.data = .ok entries ∧ entries.find? (.string "a") = some (.int 2) ∧
        (Value.int 2).equal (.int 1) = false ∧ entries.length ≠ repeated.size ∧
          (ofEntries entries).equal repeated = false := by
  have fields_eq : repeated.fields = named [("a", .int 1), ("a", .int 2)] := rfl
  have mapping := plainMapping_named fields_eq
  have notNodup : ¬(["a", "a"] : List String).Nodup := by decide
  refine ⟨rfl, (mapping.first _ _).mpr ?_, _, data_named fields_eq, ?_, ?_, ?_, ?_⟩
  · rw [fields_eq, find?_named]
    rfl
  · rw [find?_named, lookup_tabled]
    rfl
  · rw [Value.equal]
    decide
  · exact fun all => notNodup (mapping.length_iff.mp all)
  · exact Bool.eq_false_iff.mpr fun equal => notNodup (mapping.equal_iff.mp equal)

end Record

end QueryCursor

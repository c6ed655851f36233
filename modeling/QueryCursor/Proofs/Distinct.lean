import Mathlib.Data.Finset.Card
import QueryCursor.Proofs.Equality

/-!
# Hashes and sets of records

A hash looks at no more of a value than equality does, at whatever depth: equal values have the
same hash or fail to have one because of the same part.  Therefore a set, which compares only
records of one hash, keeps one record of every equality class, and how many it keeps does not
depend on the order in which they are added.
-/

namespace QueryCursor

/-! ## Hashes of equal values -/

theorem Value.hash_of_quantity {value : Value} {quantity : Quantity}
    (known : value.quantity? = some quantity) : value.hash = .ok quantity.hash := by
  cases value with
  | bool | int | double =>
      cases known
      rw [Value.hash]
  | null | string | bytes | list | tuple | mapping | record => cases known

/-- The hash of a sequence is made of the hashes of its items alone. -/
theorem hashItems_eq_of_alike {seed : UInt64} {lefts rights : List Value}
    (known : ∀ left ∈ lefts, ∀ right, left.Alike right → left.hash = right.hash)
    (pairs : List.Forall₂ Value.Alike lefts rights) :
    hashItems seed lefts = hashItems seed rights := by
  induction pairs generalizing seed with
  | nil => rfl
  | cons alike _ ih =>
      obtain ⟨ofFirst, ofOthers⟩ := List.forall_mem_cons.mp known
      simp only [hashItems, ofFirst _ alike, ih ofOthers]

theorem hashColumns_eq (seed : UInt64) (fields : Entries) :
    hashColumns seed fields = hashItems seed (fields.map Prod.fst) := by
  induction fields generalizing seed with
  | nil => rw [hashColumns, List.map_nil, hashItems]
  | cons field fields ih => simp only [hashColumns, List.map_cons, hashItems, ih]

theorem hashColumnValues_eq (seed : UInt64) (fields : Entries) :
    hashColumnValues seed fields = hashItems seed (fields.map Prod.snd) := by
  induction fields generalizing seed with
  | nil => rw [hashColumnValues, List.map_nil, hashItems]
  | cons field fields ih => simp only [hashColumnValues, List.map_cons, hashItems, ih]

/-- Equal values have the same hash, or none because of the same part. -/
theorem Value.hash_eq_of_alike {left right : Value} (alike : left.Alike right) :
    left.hash = right.hash := by
  induction left using Value.induction_on_parts generalizing right with
  | step left ih =>
      have known : ∀ part ∈ left.parts, ∀ right, part.Alike right → part.hash = right.hash :=
        fun part member _ alike => ih part member alike
      rcases alike.cases with ⟨quantity, ofLeft, ofRight⟩ | corresponds
      · rw [hash_of_quantity ofLeft, hash_of_quantity ofRight]
      · cases corresponds with
        | null | string | bytes => rfl
        | list | mapping => simp only [Value.hash]
        | tuple pairs =>
            rw [Value.hash, Value.hash]
            exact hashItems_eq_of_alike known pairs
        | record columns values =>
            have ofColumns := fun column member => known column (List.mem_append_left _ member)
            have ofValues := fun value member => known value (List.mem_append_right _ member)
            rw [Value.hash, Value.hash, hashColumns_eq, hashColumns_eq, hashColumnValues_eq,
              hashColumnValues_eq, hashItems_eq_of_alike ofColumns columns,
              hashItems_eq_of_alike ofValues values]

namespace Record

variable {left right record : Record} {records : List Record} {code : UInt64}
  {known : List (UInt64 × Record)}

theorem hash_eq_of_equal (alike : (left == right) = true) : left.hash = right.hash := by
  rw [hash, hash, Value.hash_eq_of_alike ((equal_eq left right).symm.trans alike)]

/-- A record without a hash is reported as a wrong type. -/
theorem hash_cases (record : Record) :
    (∃ code, record.hash = .ok code) ∨
      ∃ fault, record.hash = .error fault ∧ fault.kind = "TypeError" := by
  rw [hash]
  cases record.toValue.hash with
  | ok code => exact .inl ⟨code, rfl⟩
  | error part => exact .inr ⟨.unhashable part, rfl, rfl⟩

/-! ## Sets of records -/

/-- Equality of records, as the relation by which they fall into classes. -/
def equality : Setoid Record where
  r left right := (left == right) = true
  iseqv := ⟨fun _ => BEq.rfl, BEq.symm, BEq.trans⟩

instance : DecidableEq (Quotient equality) :=
  @Quotient.decidableEq Record equality fun left right => decEq (left == right) true

/-- The equality classes that the given records belong to. -/
def classes (records : List Record) : Finset (Quotient equality) :=
  (records.map (Quotient.mk equality)).toFinset

/-- A set that records have been added to holds one of them for every equality class, beside its
hash. -/
structure Represents (known : List (UInt64 × Record)) (records : List Record) : Prop where
  coded : ∀ entry ∈ known, entry.2.hash = .ok entry.1
  added : ∀ entry ∈ known, entry.2 ∈ records
  apart : known.Pairwise fun first second => (first.2 == second.2) = false
  covers : ∀ record ∈ records, ∃ entry ∈ known, (entry.2 == record) = true

/-- No equal record is overlooked for having another hash. -/
theorem Represents.any_iff (represents : Represents known records)
    (hashed : record.hash = .ok code) :
    known.any (fun other => other.1 == code && other.2.equal record) = true ↔
      ∃ entry ∈ known, (entry.2 == record) = true := by
  rw [List.any_eq_true]
  constructor
  · rintro ⟨entry, member, same⟩
    exact ⟨entry, member, (Bool.and_eq_true_iff.mp same).2⟩
  · rintro ⟨entry, member, alike⟩
    have sameHash := hash_eq_of_equal alike
    rw [represents.coded entry member, hashed] at sameHash
    have sameCode := beq_iff_eq.mpr (Except.ok.inj sameHash)
    exact ⟨entry, member, Bool.and_eq_true_iff.mpr ⟨sameCode, alike⟩⟩

theorem Represents.add (represents : Represents known records) (hashed : record.hash = .ok code) :
    ∃ more, addDistinct known record = .ok more ∧ Represents more (records ++ [record]) := by
  have added : ∀ entry ∈ known, entry.2 ∈ records ++ [record] :=
    fun entry member => List.mem_append_left _ (represents.added entry member)
  have any_iff := represents.any_iff hashed
  rw [addDistinct, hashed]
  by_cases present : ∃ entry ∈ known, (entry.2 == record) = true
  · refine ⟨known, if_pos (any_iff.mpr present), represents.coded, added, represents.apart, ?_⟩
    exact List.forall_mem_append.mpr ⟨represents.covers, List.forall_mem_singleton.mpr present⟩
  · have absent := mt any_iff.mp present
    refine ⟨known ++ [(code, record)], if_neg absent, ?_, ?_, ?_, ?_⟩
    · exact List.forall_mem_append.mpr ⟨represents.coded, List.forall_mem_singleton.mpr hashed⟩
    · exact List.forall_mem_append.mpr ⟨added, List.forall_mem_singleton.mpr (by simp)⟩
    · refine List.pairwise_append.mpr ⟨represents.apart, List.pairwise_singleton _ _, ?_⟩
      intro entry member other last
      rw [List.mem_singleton.mp last]
      exact Bool.eq_false_iff.mpr fun alike => present ⟨entry, member, alike⟩
    · intro other member
      rcases List.mem_append.mp member with earlier | last
      · obtain ⟨entry, isKnown, alike⟩ := represents.covers other earlier
        exact ⟨entry, List.mem_append_left _ isKnown, alike⟩
      · rw [List.mem_singleton.mp last]
        exact ⟨(code, record), by simp, BEq.rfl⟩

theorem Represents.addAll {more : List Record} (represents : Represents known records)
    (hashable : ∀ record ∈ more, ∃ code, record.hash = .ok code) :
    ∃ final, more.foldlM addDistinct known = .ok final ∧ Represents final (records ++ more) := by
  induction more generalizing known records with
  | nil => exact ⟨known, rfl, by rwa [List.append_nil]⟩
  | cons record more ih =>
      obtain ⟨⟨code, hashed⟩, others⟩ := List.forall_mem_cons.mp hashable
      obtain ⟨next, step, represents⟩ := represents.add hashed
      obtain ⟨final, run, represents⟩ := ih represents others
      rw [List.append_assoc] at represents
      exact ⟨final, by rw [List.foldlM_cons, step]; exact run, represents⟩

/-- The records in the set are a choice of one record from every class. -/
theorem Represents.length_eq (represents : Represents known records) :
    known.length = (classes records).card := by
  have nodup : (known.map fun entry => Quotient.mk equality entry.2).Nodup := by
    refine List.pairwise_map.mpr (represents.apart.imp fun differ same => ?_)
    have alike := Quotient.exact same
    exact Bool.false_ne_true (differ.symm.trans alike)
  have same : classes records = (known.map fun entry => Quotient.mk equality entry.2).toFinset := by
    ext one
    simp only [classes, List.mem_toFinset, List.mem_map]
    constructor
    · rintro ⟨record, member, rfl⟩
      obtain ⟨entry, isKnown, alike⟩ := represents.covers record member
      exact ⟨entry, isKnown, Quotient.sound alike⟩
    · rintro ⟨entry, isKnown, rfl⟩
      exact ⟨entry.2, represents.added entry isKnown, rfl⟩
  rw [same, List.toFinset_card_of_nodup nodup, List.length_map]

theorem classes_perm {order : List Record} (arranged : order.Perm records) :
    classes order = classes records :=
  List.toFinset_eq_of_perm _ _ (arranged.map _)

/-- Equality of records is an equivalence relation.  Equal records agree in columns and values,
position by position, and in their hash or in having none; and a set of hashable records holds as
many of them as there are equality classes, in whatever order they are added. -/
theorem equality_agrees_with_hash :
    Equivalence (fun left right : Record => (left == right) = true) ∧
      (∀ left right : Record, (left != right) = !(left == right)) ∧
      (∀ left right : Record, (left == right) = true ↔
        List.Forall₂ Value.Alike left.columns right.columns ∧
          List.Forall₂ Value.Alike left.values right.values) ∧
      (∀ left right : Record, (left == right) = true →
        (∃ code, left.hash = .ok code ∧ right.hash = .ok code) ∨
          ∃ fault, left.hash = .error fault ∧ right.hash = .error fault ∧
            fault.kind = "TypeError") ∧
      ∀ records : List Record, (∀ record ∈ records, ∃ code, record.hash = .ok code) →
        ∀ order : List Record, order.Perm records →
          ∃ kept, distinct order = .ok kept ∧ kept.length = (classes records).card := by
  refine ⟨equality.iseqv, fun _ _ => rfl, fun _ _ => equal_iff, ?_, ?_⟩
  · intro left right alike
    have same := hash_eq_of_equal alike
    rcases left.hash_cases with ⟨code, hashed⟩ | ⟨fault, failed, kind⟩
    · exact .inl ⟨code, hashed, same.symm.trans hashed⟩
    · exact .inr ⟨fault, failed, same.symm.trans failed, kind⟩
  · intro records hashable order arranged
    have empty : Represents [] [] := ⟨by simp, by simp, .nil, by simp⟩
    have hashableOrder : ∀ record ∈ order, ∃ code, record.hash = .ok code :=
      fun record member => hashable record (arranged.mem_iff.mp member)
    obtain ⟨known, run, represents⟩ := empty.addAll hashableOrder
    rw [List.nil_append] at represents
    refine ⟨known.map Prod.snd, ?_, ?_⟩
    · rw [distinct, run]
      rfl
    · rw [List.length_map, represents.length_eq, classes_perm arranged]

/-- One number in three spellings, at the same depth, among other records. -/
def spelled : List Record :=
  [⟨[(.string "a", .tuple [.int 1])]⟩,
    ⟨[(.string "a", .tuple [.string "1"])]⟩,
    ⟨[(.string "a", .tuple [.bool true])]⟩,
    ⟨[(.string "a", .tuple [.double ⟨0x3ff0000000000000⟩])]⟩,
    ⟨[(.string "b", .tuple [.int 1])]⟩]

/-- A record with an unhashable part, and the same one with the entries of the part in another
order and another spelling. -/
def nested : Record × Record :=
  (⟨[(.string "a", .tuple [.mapping [(.int 1, .null), (.string "b", .list [])]])]⟩,
    ⟨[(.string "a", .tuple [.mapping [(.string "b", .list []), (.bool true, .null)]])]⟩)

/-- Three records remain of the five whichever is added first, and the two nested ones are equal
without having a hash. -/
theorem spelled_are_three :
    (∀ record ∈ spelled, ∃ code, record.hash = .ok code) ∧
      (∃ kept, distinct spelled.reverse = .ok kept ∧ kept.length = 3) ∧
      (nested.1 == nested.2) = true ∧
      ∃ fault, nested.1.hash = .error fault ∧ nested.2.hash = .error fault ∧
        fault.kind = "TypeError" := by
  have hashable : ∀ record ∈ spelled, ∃ code, record.hash = .ok code := by
    simp only [spelled, List.forall_mem_cons]
    exact ⟨⟨_, rfl⟩, ⟨_, rfl⟩, ⟨_, rfl⟩, ⟨_, rfl⟩, ⟨_, rfl⟩, List.forall_mem_nil _⟩
  obtain ⟨-, -, -, hashes, sets⟩ := equality_agrees_with_hash
  obtain ⟨kept, run, count⟩ := sets spelled hashable _ spelled.reverse_perm
  have three : (classes spelled).card = 3 := by decide +kernel
  have alike : (nested.1 == nested.2) = true := by decide +kernel
  refine ⟨hashable, ⟨kept, run, count.trans three⟩, alike, ?_⟩
  rcases hashes nested.1 nested.2 alike with ⟨code, hashed, -⟩ | unhashable
  · have failed : nested.1.hash = .error (.unhashable .mapping) := rfl
    rw [failed] at hashed
    cases hashed
  · exact unhashable

end Record

end QueryCursor

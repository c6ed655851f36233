import Mathlib.Data.List.Perm.Basic
import QueryCursor.Record

/-!
# Equality of values

Two mappings are compared by taking the entries of the one in order and giving each of them the
first entry of the other that is equal to it and still free.  That no choice made on the way
stands in the way of a later one rests on equality being an equivalence relation, and that in turn
has to be known of the parts before it can be shown of a mapping.  Both come out of one property
of three equalities in a row, which is carried from the parts of a value to the value.

No value is excepted: a NaN is equal to the NaNs of its payload and to nothing else.
-/

namespace QueryCursor

/-! ## The parts of a value -/

namespace Value

/-- The values that a value is immediately made of. -/
def parts : Value → List Value
  | .list items => items
  | .tuple items => items
  | .mapping entries => entries.map Prod.fst ++ entries.map Prod.snd
  | .record fields => fields.map Prod.fst ++ fields.map Prod.snd
  | _ => []

theorem sizeOf_lt_of_mem_entries {entries : Entries} {part : Value}
    (member : part ∈ entries.map Prod.fst ++ entries.map Prod.snd) :
    sizeOf part < sizeOf entries := by
  simp only [List.mem_append, List.mem_map, ← exists_or, ← and_or_left] at member
  obtain ⟨entry, isEntry, isPart⟩ := member
  have smaller := List.sizeOf_lt_of_mem isEntry
  have ofEntry : sizeOf entry = 1 + sizeOf entry.1 + sizeOf entry.2 := rfl
  rcases isPart with rfl | rfl <;> omega

theorem forall_entries_of_parts {holds : Value → Prop} {entries : Entries}
    (ofParts : ∀ part ∈ entries.map Prod.fst ++ entries.map Prod.snd, holds part) :
    ∀ entry ∈ entries, holds entry.1 ∧ holds entry.2 := by
  intro entry member
  constructor
  · exact ofParts _ (List.mem_append_left _ (List.mem_map_of_mem member))
  · exact ofParts _ (List.mem_append_right _ (List.mem_map_of_mem member))

theorem sizeOf_lt_of_mem_parts {value part : Value} (member : part ∈ value.parts) :
    sizeOf part < sizeOf value := by
  cases value with
  | list items | tuple items =>
      have smaller := List.sizeOf_lt_of_mem (show part ∈ items from member)
      simp only [list.sizeOf_spec, tuple.sizeOf_spec]
      omega
  | mapping entries | record entries =>
      have smaller := @sizeOf_lt_of_mem_entries entries part member
      simp only [mapping.sizeOf_spec, record.sizeOf_spec]
      omega
  | null | bool | int | double | string | bytes => cases member

/-- What holds of a value wherever it holds of its parts holds of every value. -/
theorem induction_on_parts {holds : Value → Prop}
    (step : ∀ value, (∀ part ∈ value.parts, holds part) → holds value) (value : Value) :
    holds value :=
  step value fun part _ => induction_on_parts step part
termination_by sizeOf value
decreasing_by exact sizeOf_lt_of_mem_parts ‹_›

end Value

/-! ## Three equalities in a row -/

section Difunctional

variable {α : Type} {related : α → α → Prop}

/-- From one value three steps along a relation, the second of them backwards, lead nowhere that
one step does not lead. -/
def Difunctional (related : α → α → Prop) (first : α) : Prop :=
  ∀ ⦃second third fourth⦄,
    related first second → related third second → related third fourth → related first fourth

/-- The items of two sequences can be put in pairs of related ones, in any order. -/
def Paired (related : α → α → Prop) (lefts rights : List α) : Prop :=
  Relation.Comp (List.Forall₂ related) List.Perm lefts rights

/-- It makes no difference which of the two sequences is rearranged. -/
theorem paired_iff_moved {lefts rights : List α} :
    Paired related lefts rights ↔
      ∃ moved, lefts.Perm moved ∧ List.Forall₂ related moved rights := by
  rw [Paired, List.forall₂_comp_perm_eq_perm_comp_forall₂]
  rfl

theorem Difunctional.forall₂ {firsts : List α} (difunctional : ∀ first ∈ firsts,
  Difunctional related first) :
    Difunctional (List.Forall₂ related) firsts := by
  intro seconds thirds fourths there back again
  induction there generalizing thirds fourths with
  | nil =>
      cases back
      exact again
  | cons step _ ih =>
      obtain ⟨ofFirst, ofOthers⟩ := List.forall_mem_cons.mp difunctional
      cases back with
      | cons stepBack back =>
          cases again with
          | cons stepAgain again =>
              exact .cons (ofFirst step stepBack stepAgain) (ih ofOthers back again)

/-- The middle two sequences are arranged differently, so that the first one is rearranged to
stand beside the third one. -/
theorem Difunctional.paired {firsts : List α} (difunctional : ∀ first ∈ firsts,
  Difunctional related first) :
    Difunctional (Paired related) firsts := by
  rintro seconds thirds fourths ⟨arranged, there, toSeconds⟩ ⟨others, back, ofSeconds⟩
    ⟨rearranged, again, toFourths⟩
  obtain ⟨moved, toMoved, beside⟩ :=
    paired_iff_moved.mp ⟨arranged, there, toSeconds.trans ofSeconds.symm⟩
  have ofMoved : ∀ first ∈ moved, Difunctional related first :=
    fun first member => difunctional first (toMoved.mem_iff.mpr member)
  have across : List.Forall₂ related moved rearranged :=
    Difunctional.forall₂ ofMoved beside back again
  obtain ⟨last, pairs, toLast⟩ := paired_iff_moved.mpr ⟨moved, toMoved, across⟩
  exact ⟨last, pairs, toLast.trans toFourths⟩

/-- The first item can be given any partner without harm to the others: whoever the partner was
meant for takes the one that the first item was meant for. -/
theorem Paired.of_cons {first partner : α} {lefts rights : List α}
    (difunctional : ∀ left ∈ lefts, Difunctional related left) (chosen : related first partner)
    (paired : Paired related (first :: lefts) (partner :: rights)) :
    Paired related lefts rights := by
  obtain ⟨_, pairs, arranged⟩ := paired
  obtain ⟨meant, others, meantFor, otherPairs, rfl⟩ := List.forall₂_cons_left_iff.mp pairs
  rcases List.mem_cons.mp (arranged.mem_iff.mpr (.head _)) with rfl | taken
  · exact ⟨others, otherPairs, arranged.cons_inv⟩
  · obtain ⟨before, after, rfl⟩ := List.append_of_mem taken
    obtain ⟨_, toMoved, moved⟩ := paired_iff_moved.mp ⟨_, otherPairs, List.perm_middle⟩
    obtain ⟨owner, rest, owned, restPairs, rfl⟩ := List.forall₂_cons_right_iff.mp moved
    have exchanged : related owner meant :=
      difunctional owner (toMoved.mem_iff.mpr (.head _)) owned chosen meantFor
    obtain ⟨last, lastPairs, toLast⟩ :=
      paired_iff_moved.mpr ⟨_, toMoved, .cons exchanged restPairs⟩
    have withPartner : (partner :: meant :: (before ++ after)).Perm (partner :: rights) :=
      (List.Perm.swap meant partner _).trans ((List.perm_middle.symm.cons meant).trans arranged)
    exact ⟨last, lastPairs, toLast.trans withPartner.cons_inv⟩

end Difunctional

/-! ## Equality in terms of the parts -/

/-- Two values are equal. -/
abbrev Value.Alike (left right : Value) : Prop := left.equal right = true

/-- Two entries have equal keys and equal values. -/
def AlikeEntry (left right : Value × Value) : Prop :=
  left.1.Alike right.1 ∧ left.2.Alike right.2

theorem equalItems_iff {lefts rights : List Value} :
    equalItems lefts rights = true ↔ List.Forall₂ Value.Alike lefts rights := by
  induction lefts generalizing rights with
  | nil => cases rights <;> simp [equalItems]
  | cons left lefts ih => cases rights <;> simp [equalItems, ih]

theorem equalFields_eq (lefts rights : Entries) :
    equalFields lefts rights =
      (equalItems (lefts.map Prod.fst) (rights.map Prod.fst) &&
        equalItems (lefts.map Prod.snd) (rights.map Prod.snd)) := by
  induction lefts generalizing rights with
  | nil => cases rights <;> simp [equalFields, equalItems]
  | cons left lefts ih =>
      cases rights with
      | nil => simp [equalFields, equalItems]
      | cons right rights =>
          obtain ⟨column, value⟩ := left
          simp only [equalFields, equalItems, List.map_cons, ih]
          ac_rfl

theorem paired_of_equalEntries {lefts rights : Entries} (equal : equalEntries lefts rights = true) :
    Paired AlikeEntry lefts rights := by
  induction lefts generalizing rights with
  | nil =>
      rw [equalEntries, List.isEmpty_iff] at equal
      exact ⟨[], .nil, by rw [equal]⟩
  | cons left lefts ih =>
      rw [equalEntries] at equal
      split at equal
      next => cases equal
      next place found =>
        obtain ⟨inside, alike, -⟩ := List.findIdx?_eq_some_iff_getElem.mp found
        obtain ⟨arranged, pairs, toRest⟩ := ih equal
        refine ⟨rights[place] :: arranged, .cons ?_ pairs, ?_⟩
        · exact Bool.and_eq_true_iff.mp alike
        · exact (toRest.cons _).trans (List.getElem_cons_eraseIdx_perm inside)

theorem equalEntries_of_paired {lefts rights : Entries}
    (difunctional : ∀ left ∈ lefts, Difunctional AlikeEntry left)
    (paired : Paired AlikeEntry lefts rights) :
    equalEntries lefts rights = true := by
  induction lefts generalizing rights with
  | nil =>
      obtain ⟨_, pairs, arranged⟩ := paired
      cases pairs
      rw [equalEntries, ← arranged.nil_eq]
      rfl
  | cons left lefts ih =>
      obtain ⟨ofFirst, ofOthers⟩ := List.forall_mem_cons.mp difunctional
      rw [equalEntries]
      split
      next missing =>
        obtain ⟨_, pairs, arranged⟩ := paired
        obtain ⟨meant, others, meantFor, -, rfl⟩ := List.forall₂_cons_left_iff.mp pairs
        have free := List.findIdx?_eq_none_iff.mp missing meant (arranged.mem_iff.mp (.head _))
        rw [meantFor.1, meantFor.2] at free
        cases free
      next place found =>
        obtain ⟨inside, alike, -⟩ := List.findIdx?_eq_some_iff_getElem.mp found
        obtain ⟨arranged, pairs, toRights⟩ := paired
        have partnerFirst :
            Paired AlikeEntry (left :: lefts) (rights[place] :: rights.eraseIdx place) :=
          ⟨arranged, pairs, toRights.trans (List.getElem_cons_eraseIdx_perm inside).symm⟩
        exact ih ofOthers (partnerFirst.of_cons ofOthers (Bool.and_eq_true_iff.mp alike))

namespace Value

variable {left right : Value} {quantity : Quantity}

/-- Two values other than numbers are of one kind and their parts are equal. -/
inductive Corresponds : Value → Value → Prop where
  | null : Corresponds .null .null
  | string (text : String) : Corresponds (.string text) (.string text)
  | bytes (octets : List UInt8) : Corresponds (.bytes octets) (.bytes octets)
  | list {items others : List Value} :
      List.Forall₂ Alike items others → Corresponds (.list items) (.list others)
  | tuple {items others : List Value} :
      List.Forall₂ Alike items others → Corresponds (.tuple items) (.tuple others)
  | mapping {entries others : Entries} :
      Paired AlikeEntry entries others → Corresponds (.mapping entries) (.mapping others)
  | record {fields others : Entries} :
      List.Forall₂ Alike (fields.map Prod.fst) (others.map Prod.fst) →
        List.Forall₂ Alike (fields.map Prod.snd) (others.map Prod.snd) →
          Corresponds (.record fields) (.record others)

theorem equal_of_quantity (known : left.quantity? = some quantity) :
    left.equal right = decide (right.quantity? = some quantity) := by
  cases left with
  | bool | int | double =>
      cases known
      rw [Value.equal]
  | null | string | bytes | list | tuple | mapping | record => cases known

theorem alike_of_quantity (known : left.quantity? = some quantity)
    (ofRight : right.quantity? = some quantity) : left.Alike right := by
  rw [Alike, equal_of_quantity known]
  exact decide_eq_true ofRight

theorem Corresponds.quantity?_eq_none (corresponds : Corresponds left right) :
    left.quantity? = none ∧ right.quantity? = none := by
  cases corresponds <;> exact ⟨rfl, rfl⟩

/-- Values are equal as numbers or part by part. -/
theorem Alike.cases (alike : left.Alike right) :
    (∃ quantity, left.quantity? = some quantity ∧ right.quantity? = some quantity) ∨
      Corresponds left right := by
  -- Other than for a number, the form of the left value leaves one form of the right one.
  cases left with
  | bool | int | double =>
      rw [Alike, equal_of_quantity rfl, decide_eq_true_iff] at alike
      exact .inl ⟨_, rfl, alike⟩
  | null =>
      unfold Alike Value.equal at alike
      split at alike
      next => exact .inr .null
      next => cases alike
  | string text =>
      unfold Alike Value.equal at alike
      split at alike
      next =>
        rw [eq_of_beq alike]
        exact .inr (.string _)
      next => cases alike
  | bytes octets =>
      unfold Alike Value.equal at alike
      split at alike
      next =>
        rw [eq_of_beq alike]
        exact .inr (.bytes _)
      next => cases alike
  | list items =>
      unfold Alike Value.equal at alike
      split at alike
      next => exact .inr (.list (equalItems_iff.mp alike))
      next => cases alike
  | tuple items =>
      unfold Alike Value.equal at alike
      split at alike
      next => exact .inr (.tuple (equalItems_iff.mp alike))
      next => cases alike
  | mapping entries =>
      unfold Alike Value.equal at alike
      split at alike
      next => exact .inr (.mapping (paired_of_equalEntries alike))
      next => cases alike
  | record fields =>
      unfold Alike Value.equal at alike
      split at alike
      next =>
        rw [equalFields_eq, Bool.and_eq_true, equalItems_iff, equalItems_iff] at alike
        exact .inr (.record alike.1 alike.2)
      next => cases alike

theorem Alike.quantity?_eq (alike : left.Alike right) : left.quantity? = right.quantity? := by
  rcases alike.cases with ⟨quantity, ofLeft, ofRight⟩ | corresponds
  · rw [ofLeft, ofRight]
  · rw [corresponds.quantity?_eq_none.1, corresponds.quantity?_eq_none.2]

theorem Alike.corresponds (alike : left.Alike right) (noNumber : left.quantity? = none) :
    Corresponds left right := by
  rcases alike.cases with ⟨quantity, ofLeft, -⟩ | corresponds
  · rw [noNumber] at ofLeft
    cases ofLeft
  · exact corresponds

theorem forall_entries_difunctional {entries : Entries}
    (ofParts : ∀ part ∈ entries.map Prod.fst ++ entries.map Prod.snd, Difunctional Alike part) :
    ∀ entry ∈ entries, Difunctional AlikeEntry entry := by
  intro entry member second third fourth there back again
  obtain ⟨ofKey, ofValue⟩ := forall_entries_of_parts ofParts entry member
  exact ⟨ofKey there.1 back.1 again.1, ofValue there.2 back.2 again.2⟩

theorem Corresponds.alike (difunctional : ∀ part ∈ left.parts, Difunctional Alike part)
    (corresponds : Corresponds left right) : left.Alike right := by
  cases corresponds with
  | null => rw [Alike, Value.equal]
  | string | bytes => rw [Alike, Value.equal, beq_self_eq_true]
  | list pairs | tuple pairs =>
      rw [Alike, Value.equal]
      exact equalItems_iff.mpr pairs
  | mapping paired =>
      rw [Alike, Value.equal]
      exact equalEntries_of_paired (forall_entries_difunctional difunctional) paired
  | record columns values =>
      rw [Alike, Value.equal, equalFields_eq, equalItems_iff.mpr columns, equalItems_iff.mpr values]
      rfl

theorem Corresponds.difunctional {value : Value} (ofParts : ∀ part ∈ value.parts,
  Difunctional Alike part) :
    Difunctional Corresponds value := by
  intro second third fourth there back again
  cases there with
  | null | string | bytes =>
      cases back
      exact again
  | list pairs =>
      cases back with
      | list pairsBack =>
          cases again with
          | list pairsAgain => exact .list (Difunctional.forall₂ ofParts pairs pairsBack pairsAgain)
  | tuple pairs =>
      cases back with
      | tuple pairsBack =>
          cases again with
          | tuple pairsAgain =>
              exact .tuple (Difunctional.forall₂ ofParts pairs pairsBack pairsAgain)
  | mapping paired =>
      cases back with
      | mapping pairedBack =>
          cases again with
          | mapping pairedAgain =>
              have ofEntries := forall_entries_difunctional ofParts
              exact .mapping (Difunctional.paired ofEntries paired pairedBack pairedAgain)
  | record columns values =>
      cases back with
      | record columnsBack valuesBack =>
          cases again with
          | record columnsAgain valuesAgain =>
              have ofColumns := fun column member => ofParts column (List.mem_append_left _ member)
              have ofValues := fun value member => ofParts value (List.mem_append_right _ member)
              exact .record (Difunctional.forall₂ ofColumns columns columnsBack columnsAgain)
                (Difunctional.forall₂ ofValues values valuesBack valuesAgain)

/-- Numbers hand on their quantity, all other values the property of their parts. -/
theorem difunctional_alike (value : Value) : Difunctional Alike value := by
  induction value using induction_on_parts with
  | step value ih =>
      intro second third fourth there back again
      rcases there.cases with ⟨quantity, known, ofSecond⟩ | corresponds
      · have ofThird : third.quantity? = some quantity := back.quantity?_eq.trans ofSecond
        exact alike_of_quantity known (again.quantity?_eq.symm.trans ofThird)
      · have noNumber : third.quantity? = none :=
          back.quantity?_eq.trans corresponds.quantity?_eq_none.2
        have across : Corresponds value fourth :=
          Corresponds.difunctional ih corresponds (back.corresponds noNumber)
            (again.corresponds noNumber)
        exact across.alike ih

@[simp] theorem equal_refl (value : Value) : value.equal value = true := by
  induction value using induction_on_parts with
  | step value ih =>
      cases known : value.quantity? with
      | some quantity => exact alike_of_quantity known known
      | none =>
          refine Corresponds.alike (fun part _ => part.difunctional_alike) ?_
          cases value with
          | null => exact .null
          | bool | int | double => cases known
          | string text => exact .string text
          | bytes octets => exact .bytes octets
          | list items => exact .list (List.forall₂_same.mpr ih)
          | tuple items => exact .tuple (List.forall₂_same.mpr ih)
          | mapping entries =>
              have pairs : List.Forall₂ AlikeEntry entries entries :=
                List.forall₂_same.mpr (forall_entries_of_parts ih)
              exact .mapping ⟨entries, pairs, .refl _⟩
          | record fields =>
              have ofColumns := fun column member => ih column (List.mem_append_left _ member)
              have ofValues := fun value member => ih value (List.mem_append_right _ member)
              exact .record (List.forall₂_same.mpr ofColumns) (List.forall₂_same.mpr ofValues)

/-- Equality of values is an equivalence relation. -/
instance : EquivBEq Value where
  rfl := equal_refl _
  symm {left right} alike := difunctional_alike right right.equal_refl alike left.equal_refl
  trans {left middle _} first second := difunctional_alike left first middle.equal_refl second

end Value

/-! ## Records -/

namespace Record

variable {left right : Record}

theorem equal_eq (left right : Record) : left.equal right = left.toValue.equal right.toValue := by
  rw [toValue, toValue, Value.equal]
  rfl

theorem equal_iff :
    left.equal right = true ↔
      List.Forall₂ Value.Alike left.columns right.columns ∧
        List.Forall₂ Value.Alike left.values right.values := by
  rw [equal, equalFields_eq, Bool.and_eq_true, equalItems_iff, equalItems_iff]
  rfl

theorem equal_refl (record : Record) : record.equal record = true := by
  rw [equal_eq, Value.equal_refl]

/-- Equality of records is an equivalence relation, since they are equal as values. -/
instance : EquivBEq Record where
  rfl {record} := record.equal_refl
  symm {left right} alike := by
    have asValues : (left.toValue == right.toValue) = true := (equal_eq left right).symm.trans alike
    exact (equal_eq right left).trans (BEq.symm asValues)
  trans {left middle right} first second := by
    have firstValues : (left.toValue == middle.toValue) = true :=
      (equal_eq left middle).symm.trans first
    have secondValues : (middle.toValue == right.toValue) = true :=
      (equal_eq middle right).symm.trans second
    exact (equal_eq left right).trans (BEq.trans firstValues secondValues)

end Record

end QueryCursor

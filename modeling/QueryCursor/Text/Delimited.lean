/-!
# Delimited text

Texts are taken apart at single characters.
-/

namespace QueryCursor.Text

/-- The text before the first mark, and the text after it if there is one. -/
def cut (mark : Char) : List Char → List Char × Option (List Char)
  | [] => ([], none)
  | character :: rest =>
    if character = mark then ([], some rest)
    else
      let (before, after) := cut mark rest
      (character :: before, after)

theorem cut_of_not_mem {mark : Char} {text : List Char} (absent : mark ∉ text) :
    cut mark text = (text, none) := by
  induction text with
  | nil => rfl
  | cons character rest ih =>
      have other : character ≠ mark := (List.ne_of_not_mem_cons absent).symm
      rw [cut, if_neg other, ih (List.not_mem_of_not_mem_cons absent)]

theorem cut_append_cons {mark : Char} {before : List Char} (absent : mark ∉ before)
    (after : List Char) : cut mark (before ++ mark :: after) = (before, some after) := by
  induction before with
  | nil => exact if_pos rfl
  | cons character rest ih =>
      have other : character ≠ mark := (List.ne_of_not_mem_cons absent).symm
      rw [List.cons_append, cut, if_neg other, ih (List.not_mem_of_not_mem_cons absent)]

/-- A text is cut at its first mark, if it has one. -/
theorem cut_cases (mark : Char) (text : List Char) :
    (mark ∉ text ∧ cut mark text = (text, none)) ∨
      ∃ before after, mark ∉ before ∧ text = before ++ mark :: after ∧
        cut mark text = (before, some after) := by
  by_cases present : mark ∈ text
  · obtain ⟨before, after, rfl, absent⟩ := List.eq_append_cons_of_mem present
    exact .inr ⟨before, after, absent, rfl, cut_append_cons absent after⟩
  · exact .inl ⟨present, cut_of_not_mem present⟩

theorem mem_of_mem_cut {mark character : Char} {text : List Char}
    (member : character ∈ (cut mark text).1) : character ∈ text ∧ character ≠ mark := by
  rcases cut_cases mark text with ⟨absent, whole⟩ | ⟨before, after, absent, rfl, parts⟩
  · rw [whole] at member
    exact ⟨member, ne_of_mem_of_not_mem member absent⟩
  · rw [parts] at member
    exact ⟨List.mem_append_left _ member, ne_of_mem_of_not_mem member absent⟩

/-- The text after the last mark, or all of it if there is none. -/
def afterLast (mark : Char) (text : List Char) : List Char :=
  match cut mark text with
  | (_, none) => text
  | (_, some rest) => (rest.reverse.takeWhile (· ≠ mark)).reverse

theorem afterLast_of_not_mem {mark : Char} {text : List Char} (absent : mark ∉ text) :
    afterLast mark text = text := by
  rw [afterLast, cut_of_not_mem absent]

theorem mem_of_mem_afterLast {mark character : Char} {text : List Char}
    (member : character ∈ afterLast mark text) : character ∈ text ∧ character ≠ mark := by
  rw [afterLast] at member
  rcases cut_cases mark text with ⟨absent, whole⟩ | ⟨before, after, _, rfl, parts⟩
  · rw [whole] at member
    exact ⟨member, ne_of_mem_of_not_mem member absent⟩
  · rw [parts, List.mem_reverse] at member
    have kept := List.mem_reverse.mp ((List.takeWhile_sublist _).mem member)
    have different := List.all_eq_true.mp List.all_takeWhile character member
    exact ⟨List.mem_append_right _ (List.mem_cons_of_mem _ kept), of_decide_eq_true different⟩

/-- The pieces between marks; there is always one more of them than marks. -/
def pieces (mark : Char) : List Char → List (List Char)
  | [] => [[]]
  | character :: rest =>
    if character = mark then [] :: pieces mark rest
    else
      match pieces mark rest with
      | first :: others => (character :: first) :: others
      | [] => [[character]]

theorem pieces_of_not_mem {mark : Char} {text : List Char} (absent : mark ∉ text) :
    pieces mark text = [text] := by
  induction text with
  | nil => rfl
  | cons character rest ih =>
      have other : character ≠ mark := (List.ne_of_not_mem_cons absent).symm
      rw [pieces, if_neg other, ih (List.not_mem_of_not_mem_cons absent)]

/-- Whether a text consists of one or more decimal digits. -/
def isDigits (text : List Char) : Bool := !text.isEmpty && text.all Char.isDigit

/-- The number that a text of decimal digits denotes. -/
def digitsValue (text : List Char) : Nat :=
  text.foldl (fun value digit => 10 * value + (digit.toNat - '0'.toNat)) 0

/-- Whether a character is a hexadecimal digit. -/
def isHexDigit (character : Char) : Bool :=
  character.isDigit || ('a' ≤ character && character ≤ 'f')
    || ('A' ≤ character && character ≤ 'F')

end QueryCursor.Text

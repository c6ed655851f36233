import QueryCursor.Uri.Host

/-!
# Lower case is final

A text in lower case stays as it is when it is put in lower case again, and the only
characters that it has besides those of the text are lower-case letters.  Both are read off
the table of capitals: the letters of every run lie beside all capitals, and so do they
beside whatever a host must not contain.
-/

namespace QueryCursor

namespace Text

/-! ## Runs of capitals -/

namespace CaseRun

variable {run other : CaseRun} {code : Nat}

/-- The lower-case letter of a capital of a run. -/
def image (run : CaseRun) (code : Nat) : Nat := (code + run.distance).toNat

/-- The run of a single code point that stays as it is. -/
def point (code : Nat) : CaseRun := ⟨code, code, 1, 0⟩

/-- Whether the lower-case letters of a run are seen to be characters. -/
def isPlaced (run : CaseRun) : Bool :=
  0 ≤ run.first + run.distance &&
    (run.image run.last < 0xd800 ||
      0xdfff < run.image run.first && run.image run.last < 0x110000)

/-- Whether the lower-case letters of a run are seen to be none of the capitals of another:
they lie below or above them, or fall between them. -/
def misses (run other : CaseRun) : Bool :=
  run.image run.last < other.first || other.last < run.image run.first ||
    (run.first = run.last || run.step % other.step = 0) &&
      run.image run.first % other.step ≠ other.first % other.step

theorem contains_iff :
    run.contains code = true ↔
      run.first ≤ code ∧ code ≤ run.last ∧ run.step ∣ code - run.first := by
  simp only [contains, Bool.and_eq_true, decide_eq_true_eq, and_assoc, Nat.dvd_iff_mod_eq_zero]

/-- The letters of a run lie as far from one another as its capitals. -/
theorem image_of_contains (placed : run.isPlaced) (capital : run.contains code) :
    run.image code = run.image run.first + (code - run.first) ∧
      run.image code ≤ run.image run.last := by
  obtain ⟨fromFirst, toLast, _⟩ := contains_iff.mp capital
  have enough := of_decide_eq_true (Bool.and_eq_true_iff.mp placed).1
  simp only [image]
  omega

theorem toNat_ofNat_image (placed : run.isPlaced) (capital : run.contains code) :
    (Char.ofNat (run.image code)).toNat = run.image code := by
  have valid : (run.image code).isValidChar := by
    obtain ⟨shifted, upToLast⟩ := image_of_contains placed capital
    simp only [isPlaced, Bool.and_eq_true, Bool.or_eq_true, decide_eq_true_eq] at placed
    rcases placed.2 with low | ⟨high, inRange⟩
    · exact .inl (by omega)
    · exact .inr (by omega)
  rw [Char.ofNat, dif_pos valid]
  rfl

theorem point_contains (code : Nat) : (point code).contains code = true :=
  contains_iff.mpr ⟨Nat.le_refl _, Nat.le_refl _, Nat.one_dvd _⟩

theorem not_contains_image (placed : run.isPlaced) (misses : run.misses other)
    (capital : run.contains code) : other.contains (run.image code) = false := by
  obtain ⟨shifted, upToLast⟩ := image_of_contains placed capital
  obtain ⟨fromFirst, toLast, onStep⟩ := contains_iff.mp capital
  rw [Bool.eq_false_iff]
  intro contained
  obtain ⟨fromOther, toOther, onOther⟩ := contains_iff.mp contained
  simp only [CaseRun.misses, Bool.or_eq_true, Bool.and_eq_true, decide_eq_true_eq,
    or_assoc] at misses
  rcases misses with below | above | ⟨aligned, between⟩
  · omega
  · omega
  · -- A single letter has no step of its own, so it need not keep to that of the capitals.
    have within : other.step ∣ code - run.first := by
      rcases aligned with single | multiple
      · have first : code - run.first = 0 := by omega
        rw [first]
        exact Nat.dvd_zero _
      · exact Nat.dvd_trans (Nat.dvd_of_mod_eq_zero multiple) onStep
    obtain ⟨steps, ofSteps⟩ := within
    obtain ⟨otherSteps, ofOtherSteps⟩ := onOther
    have fromOtherFirst : run.image code = other.first + other.step * otherSteps := by omega
    refine between ?_
    calc run.image run.first % other.step
      _ = (run.image run.first + other.step * steps) % other.step :=
          (Nat.add_mul_mod_self_left _ _ _).symm
      _ = (other.first + other.step * otherSteps) % other.step := by
          rw [← ofSteps, ← shifted, fromOtherFirst]
      _ = other.first % other.step := Nat.add_mul_mod_self_left _ _ _

end CaseRun

theorem caseRuns_placed : ∀ run ∈ caseRuns, run.isPlaced := by
  decide +kernel

/-! ## The characters that lower case makes -/

/-- A code point that stands for another one in lower case: the letter of a capital, what the
capital I with a dot leaves of the dot, or the final sigma. -/
def IsImage (code : Nat) : Prop :=
  code = 0x307 ∨ code = 0x3c2 ∨
    ∃ run ∈ caseRuns, ∃ capital, run.contains capital ∧ code = run.image capital

/-- Whether a run is seen to have no image in it. -/
def isClear (other : CaseRun) : Bool :=
  caseRuns.all (·.misses other) && !other.contains 0x307 && !other.contains 0x3c2

theorem IsImage.not_contains {code : Nat} {other : CaseRun} (image : IsImage code)
    (clear : isClear other) : other.contains code = false := by
  simp only [isClear, Bool.and_eq_true, List.all_eq_true, Bool.not_eq_true'] at clear
  obtain ⟨⟨missed, noDot⟩, noSigma⟩ := clear
  rcases image with rfl | rfl | ⟨run, member, capital, contained, rfl⟩
  · exact noDot
  · exact noSigma
  · exact CaseRun.not_contains_image (caseRuns_placed run member) (missed run member) contained

/-- A character that is clear of all images is none of them. -/
theorem IsImage.ne_of_clear {code mark : Nat} (image : IsImage code)
    (clear : isClear (.point mark)) : code ≠ mark := by
  rintro rfl
  exact absurd (CaseRun.point_contains code) (Bool.eq_false_iff.mp (image.not_contains clear))

/-- The capital I with a dot above. -/
def dottedRun : CaseRun := .point 0x130

/-- Everything that lower case changes. -/
def capitals : List CaseRun := dottedRun :: caseRuns

theorem capitals_clear : ∀ run ∈ capitals, isClear run := by
  decide +kernel

/-- The character stays as it is in lower case, wherever it stands. -/
def Settled (character : Char) : Prop :=
  ∀ before after, lowerCharacter before character after = [character]

/-- The capitals among the first code points. -/
def asciiRun : CaseRun := ⟨0x41, 0x5a, 1, 32⟩

theorem asciiRun_mem : asciiRun ∈ caseRuns := List.mem_cons_self

/-- The capitals that begin with the sigma. -/
def sigmaRun : CaseRun := ⟨0x3a3, 0x3ab, 1, 32⟩

theorem sigmaRun_mem : sigmaRun ∈ caseRuns :=
  List.mem_of_getElem? (show caseRuns[70]? = some sigmaRun from rfl)

theorem toLower_ofNat : ∀ code < 0x80, (Char.ofNat code).toLower =
    if asciiRun.contains code then Char.ofNat (asciiRun.image code) else Char.ofNat code := by
  decide

theorem toLower_eq {character : Char} (ascii : character.toNat < 0x80) : character.toLower =
    if asciiRun.contains character.toNat then Char.ofNat (asciiRun.image character.toNat)
    else character := by
  have spelled := toLower_ofNat character.toNat ascii
  rwa [Char.ofNat_toNat] at spelled

theorem settled_of_not_capital {character : Char}
    (small : ∀ run ∈ capitals, run.contains character.toNat = false) : Settled character := by
  intro before after
  have inNoRun : ∀ run ∈ caseRuns, run.contains character.toNat = false :=
    fun run member => small run (List.mem_cons_of_mem _ member)
  rw [lowerCharacter]
  split
  case isTrue ascii =>
    rw [toLower_eq ascii, inNoRun asciiRun asciiRun_mem]
    rfl
  case isFalse =>
    have notDotted : character ≠ 'İ' := by
      rintro rfl
      exact absurd (small dottedRun List.mem_cons_self) (by decide)
    have notSigma : character ≠ 'Σ' := by
      rintro rfl
      exact absurd (inNoRun sigmaRun sigmaRun_mem) (by decide)
    have none : caseRuns.find? (·.contains character.toNat) = none := by
      rw [List.find?_eq_none]
      exact fun run member => Bool.eq_false_iff.mp (inNoRun run member)
    rw [if_neg notDotted, if_neg notSigma, none]

/-- No image is a capital, so one that lower case has made stays as it is. -/
theorem IsImage.settled {character : Char} (image : IsImage character.toNat) : Settled character :=
  settled_of_not_capital fun run member => image.not_contains (capitals_clear run member)

theorem isImage_of_contains {run : CaseRun} {code : Nat} (member : run ∈ caseRuns)
    (capital : run.contains code) : IsImage (Char.ofNat (run.image code)).toNat := by
  rw [CaseRun.toNat_ofNat_image (caseRuns_placed run member) capital]
  exact .inr (.inr ⟨run, member, code, capital, rfl⟩)

theorem of_toLower {character : Char} (ascii : character.toNat < 0x80) :
    character.toLower = character ∧ Settled character ∨ IsImage character.toLower.toNat := by
  rw [toLower_eq ascii]
  split
  case isTrue capital => exact .inr (isImage_of_contains asciiRun_mem capital)
  case isFalse small =>
    refine .inl ⟨rfl, fun _ _ => ?_⟩
    rw [lowerCharacter, if_pos ascii, toLower_eq ascii, if_neg small]

/-- What a character becomes in lower case is the character itself, which is settled then, or
an image. -/
theorem of_mem_lowerCharacter {before after : List Char} {character letter : Char}
    (member : letter ∈ lowerCharacter before character after) :
    letter = character ∧ Settled character ∨ IsImage letter.toNat := by
  rw [lowerCharacter] at member
  split at member
  case isTrue ascii =>
    rw [List.mem_singleton.mp member]
    exact of_toLower ascii
  case isFalse beyond =>
    split at member
    case isTrue dotted =>
      rcases List.mem_cons.mp member with rfl | mark
      · exact .inr (isImage_of_contains asciiRun_mem (show asciiRun.contains 0x49 by decide))
      · rw [List.mem_singleton.mp mark]
        exact .inr (.inl rfl)
    case isFalse notDotted =>
      split at member
      case isTrue sigma =>
        have forms : letter = 'ς' ∨ letter = 'σ' := by
          split at member
          · exact .inl (List.mem_singleton.mp member)
          · exact .inr (List.mem_singleton.mp member)
        rcases forms with rfl | rfl
        · exact .inr (.inr (.inl rfl))
        · exact .inr (.inr (.inr ⟨sigmaRun, sigmaRun_mem, 0x3a3, rfl, rfl⟩))
      case isFalse notSigma =>
        split at member
        case h_1 run found =>
          rw [List.mem_singleton.mp member]
          have capital := List.find?_some found
          exact .inr (isImage_of_contains (List.mem_of_find?_eq_some found) capital)
        case h_2 none =>
          refine .inl ⟨List.mem_singleton.mp member, fun _ _ => ?_⟩
          rw [lowerCharacter, if_neg beyond, if_neg notDotted, if_neg notSigma, none]

theorem lowerCharacter_ne_nil (before : List Char) (character : Char) (after : List Char) :
    lowerCharacter before character after ≠ [] := by
  rw [lowerCharacter]
  repeat' split
  all_goals exact List.cons_ne_nil _ _

/-! ## Texts in lower case -/

theorem of_mem_lowerAfter {text before : List Char} {letter : Char}
    (member : letter ∈ lowerAfter before text) :
    letter ∈ text ∧ Settled letter ∨ IsImage letter.toNat := by
  induction text generalizing before with
  | nil => cases member
  | cons character rest ih =>
      rw [lowerAfter, List.mem_append] at member
      rcases member with here | later
      · rcases of_mem_lowerCharacter here with ⟨rfl, settled⟩ | image
        · exact .inl ⟨List.mem_cons_self, settled⟩
        · exact .inr image
      · rcases ih later with ⟨kept, settled⟩ | image
        · exact .inl ⟨List.mem_cons_of_mem _ kept, settled⟩
        · exact .inr image

theorem lowerAfter_of_settled {text : List Char} (settled : ∀ character ∈ text, Settled character)
    (before : List Char) : lowerAfter before text = text := by
  induction text generalizing before with
  | nil => rfl
  | cons character rest ih =>
      obtain ⟨here, later⟩ := List.forall_mem_cons.mp settled
      rw [lowerAfter, here, ih later]
      rfl

/-- A text in lower case has no other characters than the text and images. -/
theorem mem_lower {text : List Char} {letter : Char} (member : letter ∈ lower text) :
    letter ∈ text ∨ IsImage letter.toNat :=
  (of_mem_lowerAfter member).imp And.left id

/-- Lower case is final. -/
theorem lower_lower (text : List Char) : lower (lower text) = lower text := by
  refine lowerAfter_of_settled (fun letter member => ?_) []
  rcases of_mem_lowerAfter member with ⟨_, settled⟩ | image
  · exact settled
  · exact image.settled

theorem mem_lowerAfter_of_settled {text : List Char} {character : Char}
    (settled : Settled character) (member : character ∈ text) (before : List Char) :
    character ∈ lowerAfter before text := by
  induction text generalizing before with
  | nil => cases member
  | cons first rest ih =>
      rw [lowerAfter, List.mem_append]
      rcases List.mem_cons.mp member with rfl | later
      · rw [settled]
        exact .inl List.mem_cons_self
      · exact .inr (ih later _)

theorem lower_ne_nil {text : List Char} (nonempty : text ≠ []) : lower text ≠ [] := by
  cases text with
  | nil => exact absurd rfl nonempty
  | cons character rest =>
      exact List.append_ne_nil_of_left_ne_nil (lowerCharacter_ne_nil [] character rest) _

end Text

/-! ## Hosts in lower case -/

namespace Host

open Text

theorem not_mem_lower_of_zoneless {name : List Char} (zoneless : '%' ∉ name) :
    '%' ∉ lower name := by
  intro member
  rcases mem_lower member with kept | image
  · exact zoneless kept
  · exact image.ne_of_clear (by decide +kernel) rfl

theorem normalize_of_zoneless {name : List Char} (zoneless : '%' ∉ name) :
    normalize name = lower name := by
  rw [normalize, cut_of_not_mem zoneless]

theorem normalize_append_zone {name : List Char} (zoneless : '%' ∉ name) (zone : List Char) :
    normalize (name ++ '%' :: zone) = lower name ++ '%' :: zone := by
  rw [normalize, cut_append_cons zoneless]

theorem mem_normalize {host : List Char} {character : Char} (member : character ∈ normalize host) :
    character ∈ host ∨ IsImage character.toNat := by
  rcases cut_cases '%' host with ⟨zoneless, _⟩ | ⟨name, zone, zoneless, rfl, _⟩
  · rw [normalize_of_zoneless zoneless] at member
    exact mem_lower member
  · rw [normalize_append_zone zoneless, List.mem_append] at member
    rcases member with inName | inZone
    · exact (mem_lower inName).imp (List.mem_append_left _) id
    · exact .inl (List.mem_append_right _ inZone)

/-- What lower case does not change stays in a host. -/
theorem mem_normalize_of_settled {host : List Char} {character : Char}
    (settled : Settled character) (member : character ∈ host) : character ∈ normalize host := by
  rcases cut_cases '%' host with ⟨zoneless, _⟩ | ⟨name, zone, zoneless, rfl, _⟩
  · rw [normalize_of_zoneless zoneless]
    exact mem_lowerAfter_of_settled settled member []
  · rw [normalize_append_zone zoneless, List.mem_append]
    exact (List.mem_append.mp member).imp (mem_lowerAfter_of_settled settled · []) id

/-- A host in lower case is spelled in the way that names are compared in. -/
theorem normalize_normalize (host : List Char) : normalize (normalize host) = normalize host := by
  rcases cut_cases '%' host with ⟨zoneless, _⟩ | ⟨name, zone, zoneless, rfl, _⟩
  · rw [normalize_of_zoneless zoneless, normalize_of_zoneless (not_mem_lower_of_zoneless zoneless),
      lower_lower]
  · rw [normalize_append_zone zoneless,
      normalize_append_zone (not_mem_lower_of_zoneless zoneless), lower_lower]

theorem normalize_ne_nil {host : List Char} (nonempty : host ≠ []) : normalize host ≠ [] := by
  rcases cut_cases '%' host with ⟨zoneless, _⟩ | ⟨name, zone, zoneless, rfl, _⟩
  · rw [normalize_of_zoneless zoneless]
    exact lower_ne_nil nonempty
  · rw [normalize_append_zone zoneless]
    exact List.append_ne_nil_of_right_ne_nil _ (List.cons_ne_nil _ _)

end Host

end QueryCursor

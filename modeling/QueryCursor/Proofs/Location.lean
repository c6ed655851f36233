import QueryCursor.Proofs.Casing
import QueryCursor.Proofs.Setup

/-!
# The host in a location

Whatever text a URI is, the host that is read from it has none of the characters that are
dropped from a URI or end a part of it, and lower case brings none of them in.  It has a
colon or a bracket only where it was written in brackets, and then it has one if it is an
IPv6 address.
-/

namespace QueryCursor

/-- A host that can be told from a port that is written after it. -/
def Host.IsPlain (host : List Char) : Prop := ':' ∉ host ∧ '[' ∉ host ∧ ']' ∉ host

instance : DecidablePred Host.IsPlain :=
  fun host => inferInstanceAs (Decidable (':' ∉ host ∧ '[' ∉ host ∧ ']' ∉ host))

/-! ## The location of a URI -/

namespace Uri

/-- The characters that cannot stand in the host of a URI, as they are dropped from it or end
a part of it. -/
def marks : List Char := ['\t', '\r', '\n', '/', '?', '#', '@']

/-- The character may stand in a host. -/
def IsInner (character : Char) : Prop :=
  character ∉ marks ∧ Host.confusable.contains character.toNat = false

theorem mem_clean {text : List Char} {character : Char} (member : character ∈ clean text) :
    character ≠ '\t' ∧ character ≠ '\r' ∧ character ≠ '\n' := by
  have counts := (List.mem_filter.mp member).2
  simpa only [Bool.and_eq_true, decide_eq_true_eq, and_assoc] using counts

theorem mem_of_mem_splitScheme {text : List Char} {character : Char}
    (member : character ∈ (splitScheme text).2) : character ∈ text := by
  rw [splitScheme] at member
  rcases Text.cut_cases ':' text with ⟨_, whole⟩ | ⟨scheme, rest, _, spelled, parts⟩
  · rw [whole] at member
    exact member
  · have inRest (kept : character ∈ rest) : character ∈ text := by
      rw [spelled]
      exact List.mem_append_right _ (List.mem_cons_of_mem _ kept)
    rw [parts] at member
    cases scheme with
    | nil => exact member
    | cons first others =>
        dsimp only at member
        split at member
        · exact inRest member
        · exact member

theorem mem_locationOf {text : List Char} {character : Char}
    (member : character ∈ locationOf text) :
    character ∈ text ∧ character ≠ '/' ∧ character ≠ '?' ∧ character ≠ '#' := by
  unfold locationOf at member
  split at member
  case h_1 rest =>
    have within := (List.takeWhile_sublist _).mem member
    have inside := List.all_eq_true.mp List.all_takeWhile character member
    refine ⟨List.mem_cons_of_mem _ (List.mem_cons_of_mem _ within), ?_⟩
    simpa only [Bool.and_eq_true, decide_eq_true_eq, and_assoc] using inside
  case h_2 => cases member

/-- A host ends at the first colon, or it is what follows a bracket up to the next one. -/
theorem host_cases (location : List Char) :
    let text := Text.afterLast '@' location
    '[' ∉ text ∧ (splitHost location).1 = (Text.cut ':' text).1 ∨
      ∃ before bracketed, text = before ++ '[' :: bracketed ∧
        (splitHost location).1 = (Text.cut ']' bracketed).1 := by
  intro text
  rcases Text.cut_cases '[' text with ⟨absent, whole⟩ | ⟨before, bracketed, _, spelled, parts⟩
  · refine .inl ⟨absent, ?_⟩
    simp only [splitHost, text, whole]
  · refine .inr ⟨before, bracketed, spelled, ?_⟩
    simp only [splitHost, text, parts]

theorem mem_host {location : List Char} {character : Char}
    (member : character ∈ (splitHost location).1) : character ∈ location ∧ character ≠ '@' := by
  refine Text.mem_of_mem_afterLast ?_
  rcases host_cases location with ⟨_, named⟩ | ⟨before, bracketed, spelled, named⟩
  · rw [named] at member
    exact (Text.mem_of_mem_cut member).1
  · rw [named] at member
    rw [spelled]
    exact List.mem_append_right _ (List.mem_cons_of_mem _ (Text.mem_of_mem_cut member).1)

/-- A host never has both brackets. -/
theorem host_lacks_bracket (location : List Char) :
    '[' ∉ (splitHost location).1 ∨ ']' ∉ (splitHost location).1 := by
  rcases host_cases location with ⟨absent, named⟩ | ⟨before, bracketed, _, named⟩
  · rw [named]
    exact .inl fun member => absent (Text.mem_of_mem_cut member).1
  · rw [named]
    exact .inr fun member => (Text.mem_of_mem_cut member).2 rfl

/-- A host that a location names without brackets has neither a colon nor a bracket. -/
theorem isPlain_host {location : List Char} (noOpening : '[' ∉ location)
    (noClosing : ']' ∉ location) : Host.IsPlain (splitHost location).1 := by
  refine ⟨?_, fun member => noOpening (mem_host member).1,
    fun member => noClosing (mem_host member).1⟩
  rcases host_cases location with ⟨_, named⟩ | ⟨before, bracketed, spelled, _⟩
  · rw [named]
    exact fun member => (Text.mem_of_mem_cut member).2 rfl
  · have bracket : '[' ∈ Text.afterLast '@' location := by
      rw [spelled]
      exact List.mem_append_right _ List.mem_cons_self
    exact absurd (Text.mem_of_mem_afterLast bracket).1 noOpening

theorem not_mem_of_checkBrackets {location : List Char} (checked : checkBrackets location = .ok ())
    (noOpening : '[' ∉ location) : ']' ∉ location := by
  intro closing
  rw [checkBrackets, List.contains_eq_mem, List.contains_eq_mem, decide_eq_false noOpening,
    decide_eq_true closing] at checked
  cases checked

/-- No character of a host is dropped from the URI or ends a part of it. -/
theorem inner_of_mem_host {text : String} {parts : Uri} (split : Uri.split text = .ok parts) :
    ∀ character ∈ (splitHost parts.location).1, IsInner character := by
  intro character member
  obtain ⟨whole, _, checked⟩ := of_split split
  obtain ⟨inLocation, notAt⟩ := mem_host member
  have unconfused : Host.confusable.contains character.toNat = false := by
    rw [checkConfusable] at checked
    split at checked
    case isTrue => cases checked
    case isFalse clear =>
      rw [Bool.eq_false_iff]
      exact fun hit => clear (List.any_eq_true.mpr ⟨character, inLocation, hit⟩)
  rw [whole] at inLocation
  obtain ⟨inRest, notSlash, notQuery, notFragment⟩ := mem_locationOf inLocation
  obtain ⟨notTab, notReturn, notLine⟩ := mem_clean (mem_of_mem_splitScheme inRest)
  refine ⟨?_, unconfused⟩
  simp only [marks, List.mem_cons, List.not_mem_nil, or_false, not_or]
  exact ⟨notTab, notReturn, notLine, notSlash, notQuery, notFragment, notAt⟩

end Uri

/-! ## Hosts in lower case -/

namespace Uri

theorem marks_clear : ∀ mark ∈ marks, Text.isClear (.point mark.toNat) :=
  -- The list is gone through here, and not all the characters there are.
  List.all_eq_true.mp (by decide +kernel)

theorem confusable_clear : ∀ code ∈ Host.confusable, Text.isClear (.point code) := by
  decide +kernel

/-- Lower case makes no character that cannot stand in a host. -/
theorem inner_of_image {character : Char} (image : Text.IsImage character.toNat) :
    IsInner character := by
  constructor
  · intro mark
    exact image.ne_of_clear (marks_clear character mark) rfl
  · rw [Bool.eq_false_iff, ne_eq, List.contains_iff_mem]
    intro confusable
    exact image.ne_of_clear (confusable_clear _ confusable) rfl

end Uri

namespace Host

theorem inner_of_mem_normalize {host : List Char}
    (inner : ∀ character ∈ host, Uri.IsInner character) :
    ∀ character ∈ normalize host, Uri.IsInner character := by
  intro character member
  rcases mem_normalize member with kept | image
  · exact inner character kept
  · exact Uri.inner_of_image image

theorem delimiters_clear : ∀ delimiter ∈ [':', '[', ']'],
    Text.isClear (.point delimiter.toNat) :=
  List.all_eq_true.mp (by decide +kernel)

theorem delimiter_of_mem_normalize {host : List Char} {delimiter : Char}
    (known : delimiter ∈ [':', '[', ']']) (member : delimiter ∈ normalize host) :
    delimiter ∈ host :=
  (mem_normalize member).resolve_right fun image =>
    image.ne_of_clear (delimiters_clear delimiter known) rfl

theorem isPlain_normalize {host : List Char} (plain : IsPlain host) : IsPlain (normalize host) :=
  ⟨fun member => plain.1 (delimiter_of_mem_normalize (by decide) member),
    fun member => plain.2.1 (delimiter_of_mem_normalize (by decide) member),
    fun member => plain.2.2 (delimiter_of_mem_normalize (by decide) member)⟩

/-- Neither one group nor two are an address. -/
theorem areGroups_of_short {groups : List (List Char)} (short : groups.length ≤ 2) :
    areGroups groups = false := by
  have noSkips : skips groups = [] := by
    rw [skips, List.filter_eq_nil_iff]
    intro place member
    have bounded := List.mem_range.mp member
    have outside : ¬ (0 < place ∧ place + 1 < groups.length) := by omega
    simp only [Bool.and_eq_true, decide_eq_true_eq]
    exact fun within => outside within.1
  have notEight : ¬ groups.length = 8 := by omega
  simp only [areGroups, noSkips, decide_eq_false notEight, Bool.false_and]

/-- An IPv6 address has a colon. -/
theorem colon_of_isIPv6 {text : List Char} (address : isIPv6 text = true) : ':' ∈ text := by
  refine Classical.byContradiction fun absent => ?_
  have single : Text.pieces ':' (Text.cut '%' text).1 = [(Text.cut '%' text).1] :=
    Text.pieces_of_not_mem fun member => absent (Text.mem_of_mem_cut member).1
  have short : ∀ groups, expandSuffix [(Text.cut '%' text).1] = some groups →
      groups.length ≤ 2 := by
    intro groups expanded
    rw [expandSuffix] at expanded
    split at expanded
    · split at expanded <;> cases expanded
      exact Nat.le_refl 2
    · cases expanded
      exact Nat.le_succ 1
  simp only [isIPv6, Bool.and_eq_true, single] at address
  obtain ⟨_, groupsValid⟩ := address
  cases expanded : expandSuffix [(Text.cut '%' text).1] with
  | none =>
      rw [expanded] at groupsValid
      cases groupsValid
  | some groups =>
      rw [expanded] at groupsValid
      dsimp only at groupsValid
      rw [areGroups_of_short (short groups expanded)] at groupsValid
      cases groupsValid

/-- No IPv6 address is plain, in lower case either. -/
theorem not_isPlain_normalize {host : List Char} (address : isIPv6 host = true) :
    ¬ IsPlain (normalize host) := by
  have settled : Text.Settled ':' := fun _ _ => rfl
  exact fun plain => plain.1 (mem_normalize_of_settled settled (colon_of_isIPv6 address))

end Host

end QueryCursor

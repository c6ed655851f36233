import QueryCursor.Driver

/-!
# Setting up a driver

What is wrong with the URI of a driver or with its options is told as a setup fault:
a scheme that no driver has, a port that is none, a table that cannot be made of the
data.  Only a location that cannot be split at all escapes as it is, because the URI
is split for its scheme before anything is guarded.
-/

namespace QueryCursor

/-- A URI is split once its scheme has been read. -/
theorem Uri.split_of_scheme {text : String} {scheme rest : List Char}
    (spelled : splitScheme (clean text.toList) = (scheme, rest)) :
    split text = (checkBrackets (locationOf rest) >>= fun _ =>
      checkConfusable (locationOf rest) >>= fun _ =>
        .ok ⟨String.ofList scheme, locationOf rest⟩) := by
  rw [split, spelled]
  rfl

/-- A URI that can be split has a location without fault. -/
theorem Uri.of_split {text : String} {parts : Uri} (split : Uri.split text = .ok parts) :
    parts = ⟨String.ofList (splitScheme (clean text.toList)).1,
        locationOf (splitScheme (clean text.toList)).2⟩ ∧
      checkBrackets parts.location = .ok () ∧ checkConfusable parts.location = .ok () := by
  rcases spelled : splitScheme (clean text.toList) with ⟨scheme, rest⟩
  rw [split_of_scheme spelled] at split
  cases brackets : checkBrackets (locationOf rest) with
  | error reason =>
      rw [brackets] at split
      cases split
  | ok _ =>
      cases confusable : checkConfusable (locationOf rest) with
      | error reason =>
          rw [brackets, confusable] at split
          cases split
      | ok _ =>
          rw [brackets, confusable] at split
          cases split
          exact ⟨rfl, brackets, confusable⟩

/-- A URI that can be split has an address unless its port is none. -/
theorem Backend.parseAddress_of_split {uri : String} {parts : Uri} (split : Uri.split uri = .ok parts)
    (backend : Backend) :
    backend.parseAddress uri =
      match parts.port? with
      | .ok port => .ok (parts.host?, (port.filter (· ≠ 0)).or backend.defaultPort)
      | .error reason => .error (.setup (.invalidAddress uri reason)) := by
  rw [parseAddress, split]
  change Except.mapError _ (parts.port? >>= _) = _
  cases parts.port? <;> rfl

/-- An address comes from the parts of its URI, and from a port that is given or the default
one. -/
theorem Backend.of_parseAddress {backend : Backend} {uri : String}
    {site : Option String × Option Nat} (parsed : backend.parseAddress uri = .ok site) :
    ∃ parts given, Uri.split uri = .ok parts ∧ parts.port? = .ok given ∧
      site = (parts.host?, (given.filter (· ≠ 0)).or backend.defaultPort) := by
  cases split : Uri.split uri with
  | error reason =>
      rw [parseAddress, split] at parsed
      cases parsed
  | ok parts =>
      rw [backend.parseAddress_of_split split] at parsed
      cases ported : parts.port? with
      | error reason =>
          rw [ported] at parsed
          cases parsed
      | ok given =>
          rw [ported] at parsed
          cases parsed
          exact ⟨parts, given, rfl, ported, rfl⟩

namespace Driver

variable {σ : Type} {backend : Backend} {uri : String} {options : DriverOptions}
  {scene after : Scene σ} {driver : Driver}

/-- A driver that is made is of the wanted kind, and at the URI and what that names. -/
theorem fields_of_run_make (made : (make backend uri options).run scene = (.ok driver, after)) :
    driver.backend = backend ∧ driver.uri = uri ∧
      backend.parseAddress uri = .ok (driver.host, driver.port) := by
  rw [make] at made
  obtain ⟨⟨host, port⟩, between, parsed, made⟩ := Action.of_run_bind_ok made
  have located : backend.parseAddress uri = .ok (host, port) := congrArg Prod.fst parsed
  rw [located]
  cases backend with
  | direct =>
      cases made
      exact ⟨rfl, rfl, rfl⟩
  | routed =>
      cases made
      exact ⟨rfl, rfl, rfl⟩
  | memory =>
      obtain ⟨table, _, _, made⟩ := Action.of_run_bind_ok made
      obtain ⟨_, _, _, made⟩ := Action.of_run_bind_ok made
      cases made
      exact ⟨rfl, rfl, rfl⟩

theorem of_run_make (made : (make backend uri options).run scene = (.ok driver, after)) :
    driver.backend = backend ∧ driver.uri = uri :=
  (fields_of_run_make made).imp id And.left

/-- A driver with a network is made of any URI that names a host and a port. -/
theorem run_make_of_parseAddress (networked : backend ≠ .memory)
    {site : Option String × Option Nat} (parsed : backend.parseAddress uri = .ok site)
    (options : DriverOptions) (scene : Scene σ) :
    ∃ driver, (make backend uri options).run scene = (.ok driver, scene) ∧
      driver.backend = backend ∧ driver.host = site.1 ∧ driver.port = site.2 := by
  rw [make, Action.run_bind, parsed]
  cases backend with
  | memory => exact absurd rfl networked
  | direct => exact ⟨_, rfl, rfl, rfl, rfl⟩
  | routed => exact ⟨_, rfl, rfl, rfl, rfl⟩

/-- Where the port is none, no driver is made, whatever the options. -/
theorem run_make_of_port {parts : Uri} {reason : UriFault} (split : Uri.split uri = .ok parts)
    (noPort : parts.port? = .error reason) (backend : Backend) (options : DriverOptions)
    (scene : Scene σ) :
    (make backend uri options).run scene = (.error (.setup (.invalidAddress uri reason)), scene) := by
  have parsed := backend.parseAddress_of_split split
  rw [noPort] at parsed
  rw [make, Action.run_bind, parsed]
  rfl

theorem run_ofUri_of_malformed {reason : UriFault} (malformed : Uri.split uri = .error reason)
    (options : DriverOptions) (scene : Scene σ) :
    (ofUri uri options).run scene = (.error (.uri reason), scene) := by
  rw [ofUri, Action.run_bind, malformed]
  rfl

theorem run_split_of_ok {parts : Uri} (split : Uri.split uri = .ok parts) (scene : Scene σ) :
    (Action.ofExcept ((Uri.split uri).mapError Fault.uri)).run scene = (.ok parts, scene) := by
  rw [split]
  rfl

theorem run_ofUri_of_unsupported {parts : Uri} (split : Uri.split uri = .ok parts)
    (unsupported : Backend.ofScheme? parts.scheme = none) (options : DriverOptions)
    (scene : Scene σ) :
    (ofUri uri options).run scene =
      (.error (.setup (.unsupportedScheme parts.scheme uri)), scene) := by
  rw [ofUri, Action.run_bind, run_split_of_ok split]
  simp only [unsupported]
  rfl

/-- Whatever fails while a driver of a known kind is made comes out as a setup fault. -/
theorem run_ofUri_of_supported {parts : Uri} (split : Uri.split uri = .ok parts)
    (supported : Backend.ofScheme? parts.scheme = some backend) (options : DriverOptions)
    (scene : Scene σ) :
    (ofUri uri options).run scene =
      match (make backend uri options).run scene with
      | (.ok driver, after) => (.ok driver, after)
      | (.error (.setup cause), after) => (.error (.setup cause), after)
      | (.error fault, after) =>
          (.error (.setup (.notLoaded backend.name)),
            { after with journal := after.journal ++ [⟨"root", .error, fault.text⟩] }) := by
  rw [ofUri, Action.run_bind, run_split_of_ok split]
  simp only [supported, Action.recover]
  rcases (make backend uri options).run scene with ⟨fault | driver, after⟩
  · cases fault <;> rfl
  · rfl

/-- A URI that can be split gives a driver of the kind that its scheme chooses, or a
driver error, which names what is wrong with the port.  One that cannot be split is not
told as a driver error. -/
theorem setup_is_guarded_from_split_on (uri : String) (options : DriverOptions) (scene : Scene σ) :
    match Uri.split uri with
    | .error reason => (ofUri uri options).run scene = (.error (.uri reason), scene)
    | .ok parts =>
        ((∃ driver after, (ofUri uri options).run scene = (.ok driver, after) ∧
            Backend.ofScheme? parts.scheme = some driver.backend ∧ driver.uri = uri) ∨
          ∃ fault after, (ofUri uri options).run scene = (.error fault, after) ∧
            fault.kind = "DriverError") ∧
        ∀ reason, parts.port? = .error reason → (Backend.ofScheme? parts.scheme).isSome →
          (ofUri uri options).run scene =
            (.error (.setup (.invalidAddress uri reason)), scene) := by
  cases split : Uri.split uri with
  | error reason => exact run_ofUri_of_malformed split options scene
  | ok parts =>
      dsimp only
      cases chosen : Backend.ofScheme? parts.scheme with
      | none =>
          have ran := run_ofUri_of_unsupported split chosen options scene
          exact ⟨.inr ⟨_, _, ran, rfl⟩, fun _ _ supported => nomatch supported⟩
      | some backend =>
          have ran := run_ofUri_of_supported split chosen options scene
          constructor
          · rcases made : (make backend uri options).run scene with ⟨fault | driver, after⟩
            · right
              rw [made] at ran
              cases fault <;> exact ⟨_, _, ran, rfl⟩
            · left
              rw [made] at ran
              obtain ⟨ofKind, atUri⟩ := of_run_make made
              exact ⟨driver, after, ran, congrArg some ofKind.symm, atUri⟩
          · intro reason noPort _
            rw [ran, run_make_of_port split noPort]

theorem setup_at_port_of_letters :
    let scene : Scene Unit := ⟨(), {}, []⟩
    (ofUri "bolt://a:b" {}).run scene =
      (.error (.setup (.invalidAddress "bolt://a:b" (.portNotDecimal "b"))), scene) := by
  intro scene
  have split : Uri.split "bolt://a:b" = .ok _ := rfl
  have guarded := setup_is_guarded_from_split_on "bolt://a:b" {} scene
  rw [split] at guarded
  exact guarded.2 _ rfl rfl

/-- A bracket that is left open escapes as an error that is none of the library's own,
though a driver that is made at the same URI tells it as a driver error. -/
theorem unsplittable_uri_escapes :
    let scene : Scene Unit := ⟨(), {}, []⟩
    let escaped := (ofUri "bolt://[::1" {}).run scene
    let guarded := (make .direct "bolt://[::1" {}).run scene
    escaped.1 = .error (.uri .unbalancedBrackets) ∧
      (Fault.uri .unbalancedBrackets).kind = "ValueError" ∧
      guarded.1 = .error (.setup (.invalidAddress "bolt://[::1" .unbalancedBrackets)) := by
  refine ⟨?_, rfl, ?_⟩
  · rfl
  · rfl

end Driver

end QueryCursor

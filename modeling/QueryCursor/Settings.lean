import QueryCursor.Timeout
import QueryCursor.Value.Literal

/-!
# Settings

Authentication tokens, which never change, and the configuration shared by the
connections of a driver.
-/

namespace QueryCursor

/-- What a driver presents to a server. -/
structure AuthToken where
  scheme : String
  principal : Option String := none
  credentials : Option String := none
  realm : Option String := none
  deriving DecidableEq

namespace AuthToken

/-- No authentication. -/
def anonymous : AuthToken := { scheme := "none" }

/-- A user and a password. -/
def basic (user password : Option String) (realm : Option String) : AuthToken :=
  { scheme := "basic", principal := user, credentials := password, realm }

/-- The literal of a token, which never shows the credentials. -/
def literal (token : AuthToken) : String :=
  let principal :=
    match token.principal with
    | none => "None"
    | some principal => Text.quote principal
  "AuthToken(scheme=" ++ Text.quote token.scheme ++ ", principal=" ++ principal ++ ")"

end AuthToken

/-- The configuration of a driver.  The timeout is in seconds; connections are
encrypted when the flag is true. -/
structure Config where
  connectionTimeout : Value := .double (Double.ofRat 30)
  encrypted : Value := .bool false

namespace Config

/-- The configuration of a driver that is given none. -/
def standard : Config := {}

/-- Equality setting by setting. -/
def equal (left right : Config) : Bool :=
  left.connectionTimeout.equal right.connectionTimeout && left.encrypted.equal right.encrypted

instance : BEq Config := ⟨equal⟩

/-- The literal of a configuration. -/
def literal (config : Config) : Except Fault String := do
  let timeout ← Unhashable.lift config.connectionTimeout.literal
  let encrypted ← Unhashable.lift config.encrypted.literal
  return "Config(connection_timeout=" ++ timeout ++ ", encrypted=" ++ encrypted ++ ")"

/-- Replaces a setting; a setting of another name changes nothing that is shown. -/
def set (config : Config) (field : String) (value : Value) : Config :=
  match field with
  | "connection_timeout" => { config with connectionTimeout := value }
  | "encrypted" => { config with encrypted := value }
  | _ => config

/-- How long a driver waits for a stream. -/
def patience (config : Config) : Patience := .ofTimeout config.connectionTimeout

end Config

/-- A token or a configuration. -/
inductive Settings where
  | auth (token : AuthToken)
  | config (config : Config)

namespace Settings

/-- Equality; a token never equals a configuration. -/
def equal : Settings → Settings → Bool
  | .auth left, .auth right => left = right
  | .config left, .config right => left.equal right
  | _, _ => false

/-- The literal of either. -/
def literal : Settings → Except Fault String
  | .auth token => .ok token.literal
  | .config chosen => chosen.literal

/-- Replaces a setting; a token refuses every change. -/
def set (settings : Settings) (field : String) (value : Value) : Except Fault Settings :=
  match settings with
  | .auth _ => .error (.frozen field)
  | .config chosen => .ok (.config (chosen.set field value))

/-- Whether these are the settings of a driver that is given none. -/
def isStandard (settings : Settings) : Bool :=
  settings.equal (.config Config.standard)

end Settings

end QueryCursor

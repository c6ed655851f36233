import QueryCursor.Uri.Host

/-!
# URIs

A URI is split into its scheme and its network location, which names a host and
a port.  Controls and spaces before the URI, and tabs and line ends anywhere in
it, do not count.  What precedes the last at-sign of the location is user
information.
-/

namespace QueryCursor

/-- The parts of a URI that tell which server it names and how to reach it. -/
structure Uri where
  scheme : String
  location : List Char
  deriving DecidableEq

namespace Uri

/-- Whether a character can stand in a scheme after its first letter. -/
def isSchemeCharacter (character : Char) : Bool :=
  character.isAlphanum || character = '+' || character = '-' || character = '.'

/-- Removes what does not count. -/
def clean (text : List Char) : List Char :=
  (text.dropWhile fun character => character.toNat ≤ 0x20).filter fun character =>
    character ≠ '\t' && character ≠ '\r' && character ≠ '\n'

/-- The scheme, in lower case, and the text after it; a text without a scheme has
the empty one. -/
def splitScheme (text : List Char) : List Char × List Char :=
  match Text.cut ':' text with
  | (scheme, some rest) =>
    match scheme with
    | first :: _ =>
      if first.isAlpha && scheme.all isSchemeCharacter then (scheme.map Char.toLower, rest)
      else ([], text)
    | [] => ([], text)
  | (_, none) => ([], text)

/-- The network location of the text after the scheme. -/
def locationOf : List Char → List Char
  | '/' :: '/' :: rest =>
    rest.takeWhile fun character => character ≠ '/' && character ≠ '?' && character ≠ '#'
  | _ => []

/-- The host and the text after the brackets or the host, as far as it follows a
colon. -/
def splitHost (location : List Char) : List Char × List Char :=
  let hostAndPort := Text.afterLast '@' location
  match Text.cut '[' hostAndPort with
  | (_, some bracketed) =>
    let (host, rest) := Text.cut ']' bracketed
    (host, ((Text.cut ':' (rest.getD [])).2).getD [])
  | (_, none) =>
    let (host, port) := Text.cut ':' hostAndPort
    (host, port.getD [])

/-- Checks the brackets of a location: they come in pairs, nothing stands beside
them but a port, and an address is in them. -/
def checkBrackets (location : List Char) : Except UriFault Unit :=
  let opened := location.contains '['
  let closed := location.contains ']'
  if opened != closed then .error .unbalancedBrackets
  else if !opened then .ok ()
  else
    let hostAndPort := Text.afterLast '@' location
    match Text.cut '[' hostAndPort with
    | (before, some bracketed) =>
      let (host, rest) := Text.cut ']' bracketed
      let after := rest.getD []
      if !before.isEmpty then .error .unbalancedBrackets
      else if !after.isEmpty && after.head? ≠ some ':' then .error .unbalancedBrackets
      else Host.checkBracketed host
    | (_, none) => Host.checkBracketed (Text.cut ':' hostAndPort).1

/-- Checks that no character of a location is taken for a delimiter after
compatibility normalization. -/
def checkConfusable (location : List Char) : Except UriFault Unit :=
  if location.any fun character => Host.confusable.contains character.toNat then
    .error (.hiddenDelimiter (String.ofList location))
  else .ok ()

/-- Splits a URI and checks its location. -/
def split (text : String) : Except UriFault Uri := do
  let (scheme, rest) := splitScheme (clean text.toList)
  let location := locationOf rest
  checkBrackets location
  checkConfusable location
  return ⟨String.ofList scheme, location⟩

/-- The host, in lower case, if the location names one. -/
def host? (uri : Uri) : Option String :=
  match (splitHost uri.location).1 with
  | [] => none
  | host => some (String.ofList (Host.normalize host))

/-- The port, if the location gives one. -/
def port? (uri : Uri) : Except UriFault (Option Nat) :=
  match (splitHost uri.location).2 with
  | [] => .ok none
  | digits =>
    if !Text.isDigits digits then .error (.portNotDecimal (String.ofList digits))
    else if UriFault.digitLimit < digits.length then .error (.portTooLong digits.length)
    else if 65535 < Text.digitsValue digits then .error .portOutOfRange
    else .ok (some (Text.digitsValue digits))

end Uri

end QueryCursor

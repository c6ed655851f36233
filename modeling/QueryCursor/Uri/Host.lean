import QueryCursor.Text.Delimited
import QueryCursor.Text.LowerCase
import QueryCursor.Uri.Fault

/-!
# Hosts

Which texts are addresses that may stand in brackets, and the spelling of a host
that names are compared in.
-/

namespace QueryCursor

namespace Host

/-- One of the four numbers of an IPv4 address: at most 255, without leading
zeros. -/
def isOctet (text : List Char) : Bool :=
  Text.isDigits text && text.length ≤ 3 && (text = ['0'] || text.head? ≠ some '0')
    && Text.digitsValue text ≤ 255

/-- Whether a text is an IPv4 address. -/
def isIPv4 (text : List Char) : Bool :=
  let octets := Text.pieces '.' text
  octets.length = 4 && octets.all isOctet

/-- One of the groups of an IPv6 address: up to four hexadecimal digits. -/
def isGroup (text : List Char) : Bool :=
  !text.isEmpty && text.length ≤ 4 && text.all Text.isHexDigit

/-- The groups of an address whose last part may be an IPv4 address, which
stands for two groups. -/
def expandSuffix : List (List Char) → Option (List (List Char))
  | [] => some []
  | [last] =>
    if last.contains '.' then (if isIPv4 last then some [['0'], ['0']] else none)
    else some [last]
  | group :: groups => (expandSuffix groups).map (group :: ·)

/-- The places of empty groups between other groups. -/
def skips (groups : List (List Char)) : List Nat :=
  (List.range groups.length).filter fun place =>
    0 < place && place + 1 < groups.length && groups[place]? = some []

/-- Whether groups form an address: eight of them, or fewer when one skip stands
for the others.  The skip may touch either end. -/
def areGroups (groups : List (List Char)) : Bool :=
  match skips groups with
  | [] => groups.length = 8 && groups.all isGroup
  | [place] =>
    let unlessEmpty (side : List (List Char)) := if side = [[]] then [] else side
    let high := unlessEmpty (groups.take place)
    let low := unlessEmpty (groups.drop (place + 1))
    high.length + low.length ≤ 7 && high.all isGroup && low.all isGroup
  | _ => false

/-- Whether a text is an IPv6 address, possibly with a zone. -/
def isIPv6 (text : List Char) : Bool :=
  let (address, zone) := Text.cut '%' text
  let zoneValid :=
    match zone with
    | none => true
    | some zone => !zone.isEmpty && !zone.contains '%'
  let groupsValid :=
    match expandSuffix (Text.pieces ':' address) with
    | none => false
    | some groups => areGroups groups
  zoneValid && groupsValid

/-- Whether a text has the form of an address of a future version: a letter, its
version in hexadecimal, a point, and anything. -/
def isFuture (text : List Char) : Bool :=
  match text with
  | 'v' :: rest =>
    let version := rest.takeWhile Text.isHexDigit
    match rest.dropWhile Text.isHexDigit with
    | '.' :: _ :: _ => !version.isEmpty
    | _ => false
  | _ => false

/-- Checks a host that is meant to be in brackets. -/
def checkBracketed (host : List Char) : Except UriFault Unit :=
  if host.head? = some 'v' then
    if isFuture host then .ok () else .error .futureAddress
  else if isIPv4 host then .error .bracketedIPv4
  else if isIPv6 host then .ok ()
  else .error (.notAnAddress (String.ofList host))

/-- A host in lower case; a zone keeps its spelling. -/
def normalize (host : List Char) : List Char :=
  match Text.cut '%' host with
  | (name, none) => Text.lower name
  | (name, some zone) => Text.lower name ++ '%' :: zone

/-- Characters that compatibility normalization turns into, or expands to, a
delimiter of a URI. -/
def confusable : List Nat :=
  [0x2047, 0x2048, 0x2049, 0x2100, 0x2101, 0x2105, 0x2106, 0x2a74, 0xfe13, 0xfe16, 0xfe55,
    0xfe56, 0xfe5f, 0xfe6b, 0xff03, 0xff0f, 0xff1a, 0xff1f, 0xff20]

end Host

end QueryCursor

import QueryCursor.Text.Quoted

/-!
# Malformed addresses

The ways in which the network location of a URI can be malformed, each with its
message.
-/

namespace QueryCursor

/-- Why a URI has no valid network location. -/
inductive UriFault where
  /-- A bracket without its partner, or text beside a bracketed host. -/
  | unbalancedBrackets
  /-- A bracketed host that begins like an address of a future version and is
  not of that form. -/
  | futureAddress
  /-- A bracketed IPv4 address. -/
  | bracketedIPv4
  /-- A bracketed host that is no address at all. -/
  | notAnAddress (host : String)
  /-- A location that compatibility normalization would give a delimiter. -/
  | hiddenDelimiter (location : String)
  /-- A port that is not a decimal number. -/
  | portNotDecimal (port : String)
  /-- A port written with more digits than a number may have. -/
  | portTooLong (digits : Nat)
  /-- A port above 65535. -/
  | portOutOfRange
  deriving DecidableEq

/-- The most digits that a number may be written with, leading zeros
included. -/
def UriFault.digitLimit : Nat := 4300

/-- The message of a malformed address. -/
def UriFault.message : UriFault → String
  | .unbalancedBrackets => "Invalid IPv6 URL"
  | .futureAddress => "IPvFuture address is invalid"
  | .bracketedIPv4 => "An IPv4 address cannot be in brackets"
  | .notAnAddress host => Text.quote host ++ " does not appear to be an IPv4 or IPv6 address"
  | .hiddenDelimiter location =>
    "netloc '" ++ location ++ "' contains invalid characters under NFKC normalization"
  | .portNotDecimal port => "Port could not be cast to integer value as " ++ Text.quote port
  | .portTooLong digits =>
    "Exceeds the limit (" ++ toString digitLimit ++ " digits) for integer string conversion: "
      ++ "value has " ++ toString digits ++ " digits; "
      ++ "use sys.set_int_max_str_digits() to increase the limit"
  | .portOutOfRange => "Port out of range 0-65535"

end QueryCursor

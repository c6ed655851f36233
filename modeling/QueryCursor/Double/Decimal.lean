import QueryCursor.Double
import QueryCursor.Text.Delimited

/-!
# Decimal text of doubles

A double is written with the fewest decimal digits that read back as the same
double and, among those, the nearest to its value.  Exponents from -4 to 15 are
written positionally and always show a fractional part; all others use an
exponent with a sign and at least two digits.  Reading accepts every decimal
numeral and rounds once.
-/

namespace QueryCursor

/-- A decimal numeral: a coefficient times a power of ten. -/
structure Decimal where
  coefficient : Nat
  exponent : Int
  deriving DecidableEq

namespace Decimal

/-- The number a numeral denotes. -/
def value (numeral : Decimal) : Rat :=
  numeral.coefficient * Double.power 10 numeral.exponent

/-- The decimal digits of the coefficient, most significant first. -/
def digits (numeral : Decimal) : List Char :=
  Nat.toDigits 10 numeral.coefficient

/-- How the value of a numeral is written: positionally when the exponent of its
leading digit lies between `least` and `greatest`. -/
structure Style where
  least : Int
  greatest : Int
  exponentWidth : Nat

/-- The one style of this library. -/
def style : Style := ⟨-4, 15, 2⟩

/-- Digits with a decimal point after the first `whole` of them, padded with
zeros on either side so that at least one digit stands on both sides. -/
def positional (digits : List Char) (leading : Int) : List Char :=
  if leading < 0 then
    '0' :: '.' :: (List.replicate (-leading - 1).toNat '0' ++ digits)
  else
    let whole := leading.toNat + 1
    if digits.length ≤ whole then
      digits ++ List.replicate (whole - digits.length) '0' ++ ['.', '0']
    else
      digits.take whole ++ '.' :: digits.drop whole

/-- One digit, the others after a point, and the exponent of the first. -/
def scientific (style : Style) (digits : List Char) (leading : Int) : List Char :=
  let mantissa :=
    match digits with
    | first :: second :: rest => first :: '.' :: second :: rest
    | short => short
  let exponentDigits := Nat.toDigits 10 leading.natAbs
  let padding := List.replicate (style.exponentWidth - exponentDigits.length) '0'
  mantissa ++ 'e' :: (if leading < 0 then '-' else '+') :: (padding ++ exponentDigits)

/-- The text of a nonzero numeral; trailing zeros of the coefficient are not
significant. -/
def text (numeral : Decimal) : List Char :=
  let all := numeral.digits
  let leading : Int := numeral.exponent + all.length - 1
  let significant := (all.reverse.dropWhile (· = '0')).reverse
  if style.least ≤ leading ∧ leading ≤ style.greatest then positional significant leading
  else scientific style significant leading

/-- The exponent of the leading decimal digit of a positive rational number. -/
def leadingExponent (value : Rat) : Int :=
  if 1 ≤ value then
    ((Nat.toDigits 10 value.floor.toNat).length : Int) - 1
  else
    -((Nat.toDigits 10 ((1 / value).ceil.toNat - 1)).length : Int)

end Decimal

namespace Double

/-- Whether a positive number rounds to the given positive finite double.  The
gap below the least double of a power of two is half the gap above it, and both
ends of the interval belong to it when the significand is even. -/
def readsBack (number : Double) (candidate : Rat) : Bool :=
  let half := power 2 (number.lastPlace - 1)
  let below :=
    if number.fraction = 0 ∧ 1 < number.biasedExponent then half / 2 else half
  let low := number.magnitude - below
  let high := number.magnitude + half
  if number.significand % 2 = 0 then low ≤ candidate && candidate ≤ high
  else low < candidate && candidate < high

/-- The numeral on one decimal grid that reads back: of the two neighbours of
the value the nearer one, and of two equally near ones the even one. -/
def nearestOnGrid? (number : Double) (exponent : Int) : Option Decimal :=
  let place := (number.magnitude / power 10 exponent).floor.toNat
  let lower : Decimal := ⟨place, exponent⟩
  let upper : Decimal := ⟨place + 1, exponent⟩
  let below := number.magnitude - lower.value
  let above := upper.value - number.magnitude
  let lowerReads := number.readsBack lower.value
  let upperReads := number.readsBack upper.value
  let preferUpper := above < below || (above = below && place % 2 = 1)
  if upperReads && (preferUpper || !lowerReads) then some upper
  else if lowerReads then some lower
  else none

/-- The shortest numeral that reads back as a positive finite double: the first
grid with a numeral on it, from one digit to seventeen.  Seventeen digits always
suffice. -/
def shortest (number : Double) : Decimal :=
  let leading := Decimal.leadingExponent number.magnitude
  let grids := (List.range 17).map fun (count : Nat) => leading - count
  (grids.findSome? number.nearestOnGrid?).getD ⟨number.magnitude.floor.toNat, 0⟩

/-- The text of a double. -/
def text (number : Double) : String :=
  let sign := if number.negative then ['-'] else []
  match number.quantity with
  | .nan _ => "nan"
  | .infinite _ => String.ofList (sign ++ ['i', 'n', 'f'])
  | .finite value =>
    if value = 0 then String.ofList (sign ++ ['0', '.', '0'])
    else String.ofList (sign ++ number.shortest.text)

/-- The nearest double to a decimal numeral with a sign. -/
def ofDecimal (negative : Bool) (numeral : Decimal) : Double :=
  if 0 ≤ numeral.exponent then
    ofQuotient negative (numeral.coefficient * Nat.pow 10 numeral.exponent.toNat) 1
  else
    ofQuotient negative numeral.coefficient (Nat.pow 10 (-numeral.exponent).toNat)

/-- An exponent part: nothing, or `e` with an optional sign and digits. -/
def exponentOfText? : List Char → Option Int
  | [] => some 0
  | mark :: rest =>
    if mark = 'e' ∨ mark = 'E' then
      let (negative, digits) :=
        match rest with
        | '-' :: digits => (true, digits)
        | '+' :: digits => (false, digits)
        | digits => (false, digits)
      if Text.isDigits digits then
        let size : Int := Text.digitsValue digits
        some (if negative then -size else size)
      else none
    else none

/-- Reads an unsigned numeral. -/
def decimalOfText? (text : List Char) : Option Decimal :=
  let whole := text.takeWhile Char.isDigit
  let afterWhole := text.dropWhile Char.isDigit
  let (part, rest) :=
    match afterWhole with
    | '.' :: tail => (tail.takeWhile Char.isDigit, tail.dropWhile Char.isDigit)
    | tail => ([], tail)
  if whole.isEmpty && part.isEmpty then none
  else do
    let exponent ← exponentOfText? rest
    return ⟨Text.digitsValue (whole ++ part), exponent - part.length⟩

/-- Reads a double from its text. -/
def ofText? (text : String) : Option Double :=
  match text.toList with
  | ['n', 'a', 'n'] => some (nan 0)
  | ['i', 'n', 'f'] => some (infinity false)
  | ['-', 'i', 'n', 'f'] => some (infinity true)
  | '-' :: digits => (decimalOfText? digits).map (ofDecimal true)
  | digits => (decimalOfText? digits).map (ofDecimal false)

end Double

end QueryCursor

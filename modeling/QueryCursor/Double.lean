/-!
# Double-precision numbers

A double is its sixty-four bits: a sign, eleven bits of biased exponent and
fifty-two bits of fraction.  Everything else is read off exactly: a finite
double denotes a rational number, arithmetic is exact arithmetic followed by
one rounding to the nearest double, ties to the even neighbour, and two doubles
are compared through the quantity they denote.

A NaN keeps its payload.  Two NaNs denote the same quantity only when their
payloads agree, so that NaNs which arose apart stay apart while every double is
equal to itself.
-/

namespace QueryCursor

/-- A double-precision number, by its bits. -/
structure Double where
  bits : UInt64
  deriving DecidableEq, Inhabited

/-- What a number denotes.  Booleans, integers and doubles are compared and
hashed through their quantity. -/
inductive Quantity where
  | finite (value : Rat)
  | infinite (negative : Bool)
  | nan (payload : Nat)
  deriving DecidableEq

namespace Double

/-- The number of fractions: two to the power of fifty-two. -/
def fractionCount : Nat := 0x10000000000000

/-- The number of biased exponents: two to the power of eleven. -/
def exponentCount : Nat := 0x800

/-- The biased exponent of infinities and NaNs: the last one. -/
def lastExponent : Nat := 0x7ff

/-- The place of the sign bit: two to the power of sixty-three. -/
def signPlace : Nat := 0x8000000000000000

/-- The sign bit. -/
def negative (number : Double) : Bool :=
  signPlace ≤ number.bits.toNat

/-- The eleven exponent bits. -/
def biasedExponent (number : Double) : Nat :=
  number.bits.toNat / fractionCount % exponentCount

/-- The fifty-two fraction bits. -/
def fraction (number : Double) : Nat :=
  number.bits.toNat % fractionCount

/-- The integer that the last place of a finite double counts; the leading bit
is implicit except below the smallest normal double. -/
def significand (number : Double) : Nat :=
  if number.biasedExponent = 0 then number.fraction else fractionCount + number.fraction

/-- The power of two that the last place of a finite double stands for. -/
def lastPlace (number : Double) : Int :=
  max (number.biasedExponent : Int) 1 - 1075

/-- A power of a natural base with an integer exponent. -/
def power (base : Nat) (exponent : Int) : Rat :=
  if 0 ≤ exponent then (Nat.pow base exponent.toNat : Rat)
  else 1 / (Nat.pow base (-exponent).toNat : Rat)

/-- The absolute value of a finite double. -/
def magnitude (number : Double) : Rat :=
  number.significand * power 2 number.lastPlace

/-- The quantity a double denotes.  Both zeros denote zero. -/
def quantity (number : Double) : Quantity :=
  if number.biasedExponent = lastExponent then
    if number.fraction = 0 then .infinite number.negative else .nan number.fraction
  else
    .finite (if number.negative then -number.magnitude else number.magnitude)

/-- A double is zero when it denotes zero, whatever its sign. -/
def isZero (number : Double) : Bool :=
  number.quantity = .finite 0

/-- The double with the given sign and remaining sixty-three bits. -/
def assemble (negative : Bool) (rest : Nat) : Double :=
  ⟨UInt64.ofNat (if negative then signPlace + rest else rest)⟩

/-- Infinity of either sign. -/
def infinity (negative : Bool) : Double :=
  assemble negative (lastExponent * fractionCount)

/-- A NaN with a payload that tells it apart from other NaNs. -/
def nan (payload : Nat) : Double :=
  assemble false (lastExponent * fractionCount + payload % (fractionCount - 1) + 1)

/-- The quotient rounded to the nearest integer, a half to the even one. -/
def divideToEven (dividend divisor : Nat) : Nat :=
  let quotient := dividend / divisor
  let doubled := 2 * (dividend % divisor)
  if doubled < divisor then quotient
  else if divisor < doubled then quotient + 1
  else quotient + quotient % 2

/-- The exponent of the last place that a positive quotient needs so that
its significand has fifty-three bits; never below that of the smallest double. -/
def lastPlaceFor (dividend divisor : Nat) : Int :=
  let estimate : Int := (dividend.log2 : Int) - divisor.log2 - 52
  let reachesLeadingBit :=
    if 0 ≤ estimate then divisor <<< (52 + estimate.toNat) ≤ dividend
    else divisor <<< 52 ≤ dividend <<< (-estimate).toNat
  max (if reachesLeadingBit then estimate else estimate - 1) (-1074)

/-- The nearest double to a signed quotient.  A significand that rounds up to
the next power of two carries into the exponent by itself, because the exponent
bits stand right above the fraction. -/
def ofQuotient (negative : Bool) (dividend divisor : Nat) : Double :=
  if dividend = 0 then assemble negative 0
  else
    let place := lastPlaceFor dividend divisor
    let significand :=
      if 0 ≤ place then divideToEven dividend (divisor <<< place.toNat)
      else divideToEven (dividend <<< (-place).toNat) divisor
    let rest := (place + 1074).toNat * fractionCount + significand
    if lastExponent * fractionCount ≤ rest then infinity negative else assemble negative rest

/-- The nearest double to a rational number. -/
def ofRat (value : Rat) : Double :=
  ofQuotient (value < 0) value.num.natAbs value.den

/-- The difference of two doubles; of two infinities or with a NaN there is
none, which a NaN stands for. -/
def sub (left right : Double) : Double :=
  match left.quantity, right.quantity with
  | .finite a, .finite b => ofRat (a - b)
  | .infinite sign, .finite _ => infinity sign
  | .finite _, .infinite sign => infinity !sign
  | .infinite a, .infinite b => if a = b then nan 0 else infinity a
  | _, _ => nan 0

/-- A double scaled by a positive factor. -/
def scale (number : Double) (factor : Nat) : Double :=
  match number.quantity with
  | .finite value => ofRat (value * factor)
  | _ => number

end Double

end QueryCursor

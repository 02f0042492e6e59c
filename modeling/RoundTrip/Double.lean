/-!
# Binary floating point numbers of 64 bits

A double is its bit pattern. It is read from a decimal by exact rounding to the
nearest, ties to even (`Double.ofDecimal`), or digits and power each rounded on
their own (`Double.ofScaled`). All of it is arithmetic on natural numbers.
-/

namespace RoundTrip

structure Double where
  bits : UInt64
deriving DecidableEq, Repr

namespace Double

/-- The weight of the sign bit. -/
def signBit : Nat := 1 <<< 63

/-- The weight of the lowest bit of the exponent. -/
def unit : Nat := 1 <<< 52

/-- The exponent field of infinities and of what is not a number. -/
def special : Nat := 2047

/-- The exponent of the smallest positive double. -/
def lowest : Int := -1074

def ofFields (negative : Bool) (exponent fraction : Nat) : Double :=
  ⟨UInt64.ofNat ((if negative then signBit else 0) + exponent * unit + fraction)⟩

def infinity (negative : Bool) : Double := ofFields negative special 0

def nan : Double := ofFields false special (unit / 2)

def isNegative (x : Double) : Bool := signBit ≤ x.bits.toNat

def exponentField (x : Double) : Nat := x.bits.toNat % signBit / unit

def fractionField (x : Double) : Nat := x.bits.toNat % unit

def isFinite (x : Double) : Bool := x.exponentField ≠ special

def isNaN (x : Double) : Bool := x.exponentField == special && x.fractionField ≠ 0

/-- The magnitude of a finite double as a significand and a power of two. -/
def parts (x : Double) : Nat × Int :=
  if x.exponentField = 0 then (x.fractionField, lowest)
  else (unit + x.fractionField, lowest + x.exponentField - 1)

/-! ## From decimals -/

/-- The quotient rounded to the nearest, a tie to the even neighbour. -/
def roundQuotient (num den : Nat) : Nat :=
  let quotient := num / den
  let twice := 2 * (num % den)
  if den < twice ∨ (twice = den ∧ quotient % 2 = 1) then quotient + 1 else quotient

/-- The double with significand `m` and exponent `q`, where `m` is at most twice
the unit, and below it only for the lowest exponent. -/
def ofParts (negative : Bool) (m : Nat) (q : Int) : Double :=
  if m < unit then ofFields negative 0 m
  else
    let (m, q) := if m = 2 * unit then (unit, q + 1) else (m, q)
    let exponent := (q - lowest + 1).toNat
    if special ≤ exponent then infinity negative
    else ofFields negative exponent (m - unit)

/-- The double nearest to the quotient of two positive numbers. -/
def ofQuotient (negative : Bool) (num den : Nat) : Double :=
  let scaled (q : Int) : Nat × Nat :=
    if 0 ≤ q then (num, den <<< q.toNat) else (num <<< (-q).toNat, den)
  let guess := max lowest ((num.log2 : Int) - (den.log2 : Int) - 53)
  let (n, d) := scaled guess
  let q := if 2 * unit ≤ n / d then guess + 1 else guess
  let (n, d) := scaled q
  ofParts negative (roundQuotient n d) q

/-- The double nearest to `digits * 10 ^ exponent`. Beyond these magnitudes the
result is known without computing the power. -/
def ofDecimal (negative : Bool) (digits : Nat) (exponent : Int) : Double :=
  let magnitude := ((Nat.toDigits 10 digits).length : Int) + exponent
  if digits = 0 ∨ magnitude < -330 then ofFields negative 0 0
  else if 320 < magnitude then infinity negative
  else if 0 ≤ exponent then ofQuotient negative (digits * Nat.pow 10 exponent.toNat) 1
  else ofQuotient negative digits (Nat.pow 10 (-exponent).toNat)

/-! ## Arithmetic -/

/-- The quotient of the magnitudes of two finite doubles other than zero. -/
def quotient (x y : Double) : Double :=
  let (m, p) := x.parts
  let (n, q) := y.parts
  ofQuotient false (m <<< (p - q).toNat) (n <<< (q - p).toNat)

/-- The product of the magnitudes of two finite doubles other than zero. -/
def product (x y : Double) : Double :=
  let (m, p) := x.parts
  let (n, q) := y.parts
  ofQuotient false ((m * n) <<< (p + q).toNat) (1 <<< (-(p + q)).toNat)

/-- The largest power of ten that is a finite double. -/
def mostPower : Nat := 308

/-- The magnitude of `x` times a power of ten. The power is a double of its own, so
that what comes out is rounded twice. -/
def scale (x : Double) (exponent : Int) : Double :=
  if 0 ≤ exponent then
    if mostPower < exponent then infinity false
    else x.product (ofDecimal false 1 exponent)
  else if -mostPower ≤ exponent then x.quotient (ofDecimal false 1 (-exponent))
  else if exponent < -2 * mostPower then ofFields false 0 0
  else
    let shrunk := x.quotient (ofDecimal false 1 mostPower)
    shrunk.quotient (ofDecimal false 1 (-exponent - mostPower))

/-- The double for `digits * 10 ^ exponent` that comes of rounding the digits
first. For digits and powers that are doubles it is the nearest one. -/
def ofScaled (negative : Bool) (digits : Nat) (exponent : Int) : Double :=
  let magnitude :=
    if digits = 0 then ofFields false 0 0 else (ofQuotient false digits 1).scale exponent
  if negative then ⟨magnitude.bits ||| (UInt64.ofNat signBit)⟩ else magnitude

end Double

end RoundTrip

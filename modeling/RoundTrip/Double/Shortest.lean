import RoundTrip.Double

/-!
# The shortest decimal of a double

A double is written with the fewest digits that read back (`Double.shortest`). Of
two such decimals the nearer one is taken. How a decimal becomes text, and what is
done about a tie, is for a `Double.Style` to say.
-/

namespace RoundTrip.Double


/-- A positive decimal: its digits as a number, and the position of the point
counted from in front of the first digit. -/
structure Decimal where
  digits : Nat
  point : Int
deriving DecidableEq, Repr

/-- The numbers that round to a finite double, as a range of numerators over one
denominator; the ends belong to it if the significand is even. -/
structure Interval where
  low : Nat
  value : Nat
  high : Nat
  den : Nat
  closed : Bool

def interval (x : Double) : Interval :=
  let (m, q) := x.parts
  let below := if m = unit ∧ lowest < q then 1 else 2
  let factor := if 2 ≤ q then 1 <<< (q - 2).toNat else 1
  let den := if 2 ≤ q then 1 else 1 <<< (2 - q).toNat
  ⟨(4 * m - below) * factor, 4 * m * factor, (4 * m + 2) * factor, den, m % 2 == 0⟩

/-- The first number from `k` on, within `fuel` steps, whose successor as an
exponent of ten lifts the quotient to one. -/
def leadingZeros (num den : Nat) : (fuel k : Nat) → Nat
  | 0, k => k
  | fuel + 1, k => if den ≤ num * Nat.pow 10 (k + 1) then k else leadingZeros num den fuel (k + 1)

/-- The position of the point of a positive quotient. The binary lengths leave at
most eight candidates. -/
def pointOf (num den : Nat) : Int :=
  if den ≤ num then (Nat.toDigits 10 (num / den)).length
  else -(leadingZeros num den 8 ((den.log2 - num.log2) * 3 / 10 - 2) : Int)

/-- Where a number goes that lies in the middle between two neighbours. -/
inductive Tie
  | toEven
  | away
deriving DecidableEq, Repr

/-- Is the upper one of two neighbours taken? `lower` is the lower one. -/
def Tie.goesUp (tie : Tie) (lower : Nat) : Bool :=
  match tie with
  | toEven => lower % 2 == 1
  | away => true

/-- The decimal with `count` digits nearest to the value, if it lies in the
interval. -/
def candidate? (tie : Tie) (range : Interval) (point : Int) (count : Nat) : Option Decimal :=
  let step := point - count
  let up := if 0 ≤ step then Nat.pow 10 step.toNat else 1
  let down := if 0 ≤ step then 1 else Nat.pow 10 (-step).toNat
  let grid := range.den * up
  let lower := range.value * down / grid
  let inside (c : Nat) : Bool :=
    let n := c * grid
    (range.low * down < n && n < range.high * down)
      || (range.closed && (n == range.low * down || n == range.high * down))
  let left := 2 * (range.value * down - lower * grid)
  let upperIsNearer := grid < left || (left == grid && tie.goesUp lower)
  let best := if inside lower && inside (lower + 1) then
      (if upperIsNearer then some (lower + 1) else some lower)
    else if inside lower then some lower
    else if inside (lower + 1) then some (lower + 1)
    else none
  best.map fun digits =>
    if digits = Nat.pow 10 count then ⟨1, point + 1⟩ else ⟨digits, point⟩

/-- The shortest decimal that reads back as this finite double other than zero. -/
def shortest (tie : Tie) (x : Double) : Decimal :=
  let range := x.interval
  let point := pointOf range.value range.den
  ((List.range' 1 17).findSome? (candidate? tie range point)).getD ⟨0, 1⟩

/-! ## Text -/

/-- Points within these bounds are written without an exponent. Both bounds may
be absent. -/
structure Style where
  leastPoint : Option Int
  mostPoint : Option Int
  tie : Tie
deriving DecidableEq, Repr

namespace Style

/-- Every number is written out in full. -/
def plain : Style := ⟨none, none, .away⟩

/-- Numbers from `1e-5` up to below `1e16` are written out in full, and an exponent
always has a sign. -/
def scientific : Style := ⟨some (-4), some 16, .toEven⟩

def isPlainAt (style : Style) (point : Int) : Bool :=
  style.leastPoint.all (· ≤ point) && style.mostPoint.all (point ≤ ·)

end Style

def decimalText (style : Style) (d : Decimal) : String :=
  let digits := Nat.toDigits 10 d.digits
  let count : Int := digits.length
  let text := if style.isPlainAt d.point then
      if d.point ≤ 0 then ['0', '.'] ++ List.replicate (-d.point).toNat '0' ++ digits
      else if d.point < count then
        digits.take d.point.toNat ++ '.' :: digits.drop d.point.toNat
      else digits ++ List.replicate (d.point - count).toNat '0' ++ ['.', '0']
    else
      let mark := if 0 < d.point then ['e', '+'] else ['e', '-']
      let exponent := mark ++ Nat.toDigits 10 (d.point - 1).natAbs
      match digits with
      | [single] => single :: exponent
      | first :: rest => first :: '.' :: rest ++ exponent
      | [] => []
  String.ofList text

def text (style : Style) (x : Double) : String :=
  if x.isNaN then "NaN"
  else
    let magnitude :=
      if ¬ x.isFinite then "inf"
      else if x.bits.toNat % signBit = 0 then "0.0"
      else decimalText style (x.shortest style.tie)
    if x.isNegative then "-" ++ magnitude else magnitude

end RoundTrip.Double

/-!
The shortest decimal that reads back as a given binary number.

A finite double is `m * 2 ^ q`, and all reals of an interval around it round to it; the ends belong
to the interval if `m` is even. For one digit, two digits and so on the two neighbours of the
number with that many digits are tried, until one of them lies in the interval. All arithmetic is
exact.
-/

namespace Phrasebook.Decimal

/-- A decimal with the given significant digits; its first digit counts `10 ^ exponent`. -/
structure Digits where
  digits : List Char
  exponent : Int
deriving DecidableEq, Repr

/-- A fraction of natural numbers. -/
structure Ratio where
  num : Nat
  den : Nat

def Ratio.le (a b : Ratio) : Bool := a.num * b.den ≤ b.num * a.den

def Ratio.lt (a b : Ratio) : Bool := a.num * b.den < b.num * a.den

/-- A power of a base with any integer exponent. -/
def Ratio.pow (base : Nat) : Int → Ratio
  | .ofNat n => ⟨Nat.pow base n, 1⟩
  | .negSucc n => ⟨1, Nat.pow base (n + 1)⟩

def Ratio.scale (k : Nat) (r : Ratio) : Ratio := ⟨k * r.num, r.den⟩

/-- The number of whole times a fraction goes into another. -/
def Ratio.floorDiv (a b : Ratio) : Nat := a.num * b.den / (a.den * b.num)

/-- A number with the interval of reals that round to it. -/
structure Rounding where
  low : Ratio
  value : Ratio
  high : Ratio
  closed : Bool

def Rounding.contains (r : Rounding) (x : Ratio) : Bool :=
  if r.closed then r.low.le x && x.le r.high else r.low.lt x && x.lt r.high

/-- The bit of a mantissa that is not stored. -/
def hiddenBit : Nat := 0x10000000000000

/-- The interval of a positive finite double, given by its bits. Below a power of two the numbers
lie twice as close. -/
def Rounding.ofBits (bits : Nat) : Rounding :=
  let exponent : Nat := bits / hiddenBit % 0x800
  let fraction : Nat := bits % hiddenBit
  let m : Nat := if exponent = 0 then fraction else hiddenBit + fraction
  let place : Nat := if exponent = 0 then 1 else exponent
  let q : Int := place - 1075
  let unit := Ratio.pow 2 (q - 2)
  let gap := if fraction = 0 && 1 < exponent then 1 else 2
  ⟨unit.scale (4 * m - gap), unit.scale (4 * m), unit.scale (4 * m + 2), m % 2 = 0⟩

/-- The exponent of the first digit: the largest power of ten that is not greater. The search goes
down from `top`. -/
def leadingExponent (value : Ratio) : Nat → Int → Int
  | 0, top => top
  | n + 1, top =>
      if (Ratio.pow 10 top).le value then top else leadingExponent value n (top - 1)

/-- The better of the two neighbours with a given step, if one of them rounds to the number. -/
def Rounding.neighbour? (r : Rounding) (step : Ratio) : Option Nat :=
  let below := r.value.floorDiv step
  let lower := step.scale below
  let upper := step.scale (below + 1)
  match r.contains lower, r.contains upper with
  | false, false => none
  | true, false => some below
  | false, true => some (below + 1)
  | true, true =>
      let middle := step.scale (2 * below + 1)
      let twice := r.value.scale 2
      if twice.lt middle then some below
      else if middle.lt twice then some (below + 1)
      else some (if below % 2 = 0 then below else below + 1)

/-- The shortest decimal, found with at least `count` digits; `exponent` is that of the first. -/
def Rounding.search (r : Rounding) (exponent : Int) : Nat → Nat → Nat × Int
  | 0, count => (r.value.floorDiv (Ratio.pow 10 (exponent - count + 1)), exponent - count + 1)
  | fuel + 1, count =>
      let unit := exponent - count + 1
      match r.neighbour? (Ratio.pow 10 unit) with
      | some n => (n, unit)
      | none => r.search exponent fuel (count + 1)

/-- The digits of `n` units of `10 ^ unit`, without zeros at the end. -/
def Digits.ofUnits (n : Nat) (unit : Int) : Digits :=
  let all := Nat.toDigits 10 n
  let kept := (all.reverse.dropWhile fun c => c = '0').reverse
  ⟨kept, unit + all.length - 1⟩

/-- The shortest digits of a positive finite double. -/
def shortest (bits : Nat) : Digits :=
  let r := Rounding.ofBits bits
  let exponent := leadingExponent r.value 640 309
  let (n, unit) := r.search exponent 17 1
  .ofUnits n unit

end Phrasebook.Decimal

/-!
Decimals read as binary numbers.

A number is read as a significand of at most 64 bits and a power of ten. Digits that do not fit
into the significand only count for the exponent. The significand is then scaled by powers of ten
in floating point, which can differ from the nearest double in the last bit.
-/

namespace Phrasebook.Decimal

/-- A significand and the exponent of its last digit. -/
structure Scaled where
  significand : Nat
  exponent : Int

/-- Takes up a digit, if the significand still fits into 64 bits. -/
def push? (significand : Nat) (digit : Char) : Option Nat :=
  let next := significand * 10 + (digit.toNat - '0'.toNat)
  if next < 0x10000000000000000 then some next else none

/-- Takes up the digits before the point. -/
def Scaled.whole (s : Scaled) : List Char → Scaled
  | [] => s
  | d :: ds =>
      match push? s.significand d with
      | some n => Scaled.whole { s with significand := n } ds
      | none => { s with exponent := s.exponent + (ds.length + 1) }

/-- Takes up the digits behind the point. -/
def Scaled.fraction (s : Scaled) : List Char → Scaled
  | [] => s
  | d :: ds =>
      match push? s.significand d with
      | some n => Scaled.fraction ⟨n, s.exponent - 1⟩ ds
      | none => s

/-- The largest power of ten that is scaled with in one step. -/
def maxPower : Nat := 308

def powerOfTen (n : Nat) : Float := Float.ofScientific 1 false n

/-- Scales down step by step. -/
def scaleDown : Nat → Float → Nat → Float
  | 0, x, _ => x
  | fuel + 1, x, n =>
      if n ≤ maxPower then x / powerOfTen n
      else if x == 0 then x
      else scaleDown fuel (x / powerOfTen maxPower) (n - maxPower)

/-- The double that is read, unless it would be infinite. -/
def Scaled.toFloat? (s : Scaled) : Option Float :=
  let x := s.significand.toUInt64.toFloat
  match s.exponent with
  | .ofNat n =>
      if n ≤ maxPower then
        let y := x * powerOfTen n
        if y.isInf then none else some y
      else if x == 0 then some x
      else none
  | .negSucc n => some (scaleDown 8 x (n + 1))

end Phrasebook.Decimal

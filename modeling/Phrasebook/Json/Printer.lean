import Phrasebook.Decimal.Shortest
import Phrasebook.Json.Value

/-!
JSON text of a value, on one line or indented.
-/

namespace Phrasebook.Json

open Decimal (Digits)

/-- Two hexadecimal digits. -/
def hexPair (n : Nat) : List Char := [Nat.digitChar (n / 16), Nat.digitChar (n % 16)]

/-- A character inside a string. -/
def escapeChar (c : Char) : List Char :=
  if c = '"' then ['\\', '"']
  else if c = '\\' then ['\\', '\\']
  else if 0x20 ≤ c.toNat then [c]
  else if c.toNat = 0x08 then ['\\', 'b']
  else if c.toNat = 0x0C then ['\\', 'f']
  else if c = '\n' then ['\\', 'n']
  else if c = '\r' then ['\\', 'r']
  else if c = '\t' then ['\\', 't']
  else '\\' :: 'u' :: '0' :: '0' :: hexPair c.toNat

def printString (s : String) : List Char := '"' :: s.toList.flatMap escapeChar ++ ['"']

/-- How a double is written. -/
structure FloatFormat where
  /-- The exponents of the first digit that are written without an exponent. -/
  plainFrom : Int
  plainTo : Int

/-- Exponents from -5 to 15 are written out. -/
def floatFormat : FloatFormat := ⟨-5, 15⟩

/-- Digits with a point among or behind them, or with zeros in front. -/
def printPlain (d : Digits) : List Char :=
  match d.exponent with
  | .negSucc n => '0' :: '.' :: List.replicate n '0' ++ d.digits
  | .ofNat n =>
      if d.digits.length ≤ n + 1 then
        d.digits ++ List.replicate (n + 1 - d.digits.length) '0' ++ ['.', '0']
      else d.digits.take (n + 1) ++ '.' :: d.digits.drop (n + 1)

/-- One digit before the point, and an exponent with its sign. -/
def printScientific (d : Digits) : List Char :=
  let mantissa := match d.digits with
    | first :: second :: rest => first :: '.' :: second :: rest
    | ds => ds
  let sign := if d.exponent < 0 then '-' else '+'
  mantissa ++ 'e' :: sign :: Nat.toDigits 10 d.exponent.natAbs

/-- A finite double by its bits. -/
def printFloat (bits : UInt64) : List Char :=
  let magnitude := bits.toNat % signBit
  let body :=
    if magnitude = 0 then ['0', '.', '0']
    else
      let d := Decimal.shortest magnitude
      if floatFormat.plainFrom ≤ d.exponent && d.exponent ≤ floatFormat.plainTo then printPlain d
      else printScientific d
  if signBit ≤ bits.toNat then '-' :: body else body

def printInteger : Int → List Char
  | .ofNat n => Nat.toDigits 10 n
  | .negSucc n => '-' :: Nat.toDigits 10 (n + 1)

def printNumber : Number → List Char
  | .integer n => printInteger n
  | .float bits => printFloat bits

/-- Where line ends and blanks go. -/
structure Layout where
  /-- What stands before an item at a given depth. -/
  lineBreak : Nat → List Char
  /-- What stands between a key and its value. -/
  colon : List Char

/-- All on one line, without blanks. -/
def Layout.compact : Layout := ⟨fun _ => [], [':']⟩

/-- Each item on a line of its own, `width` blanks deeper than what holds it. -/
def Layout.indented (width : Nat) : Layout :=
  ⟨fun depth => '\n' :: List.replicate (width * depth) ' ', [':', ' ']⟩

mutual

/-- The text of a value at a given depth. Empty arrays and objects are never broken. -/
def print (l : Layout) (depth : Nat) : Value → List Char
  | .null => "null".toList
  | .bool true => "true".toList
  | .bool false => "false".toList
  | .number n => printNumber n
  | .string s => printString s
  | .array [] => "[]".toList
  | .array (v :: vs) =>
      '[' :: l.lineBreak (depth + 1) ++ print l (depth + 1) v ++ printItems l (depth + 1) vs
        ++ l.lineBreak depth ++ [']']
  | .object [] => ['\x7b', '\x7d']
  | .object ((k, v) :: fs) =>
      '\x7b' :: l.lineBreak (depth + 1) ++ printString k ++ l.colon ++ print l (depth + 1) v
        ++ printFields l (depth + 1) fs ++ l.lineBreak depth ++ ['\x7d']

/-- Items behind the first. -/
def printItems (l : Layout) (depth : Nat) : List Value → List Char
  | [] => []
  | v :: vs => ',' :: l.lineBreak depth ++ print l depth v ++ printItems l depth vs

/-- Fields behind the first. -/
def printFields (l : Layout) (depth : Nat) : List (String × Value) → List Char
  | [] => []
  | (k, v) :: fs =>
      ',' :: l.lineBreak depth ++ printString k ++ l.colon ++ print l depth v
        ++ printFields l depth fs

end

/-- The text of a value on one line. -/
def Value.compact (v : Value) : String := String.ofList (print .compact 0 v)

/-- The text of a value over several lines. -/
def Value.indented (width : Nat) (v : Value) : String :=
  String.ofList (print (.indented width) 0 v)

end Phrasebook.Json

import Phrasebook.Decimal.Binary
import Phrasebook.Json.Value
import Phrasebook.Text.Class

/-!
Reading JSON text.

A reader takes the text from a place on and gives a value with the text behind it. The first fault
from the left decides what kind of error it is: the text ended too early, it is malformed, or it is
well formed but not what was asked for.
-/

namespace Phrasebook.Json

inductive ReadError where
  /-- The text ends where something was to follow. -/
  | ended
  | malformed
  /-- The value is of another type than asked for, or a field is given twice. -/
  | mismatch
deriving DecidableEq, Repr

abbrev Read (α : Type) := Except ReadError (α × List Char)

/-- The blanks of JSON, which are fewer than those of Unicode. -/
def isBlank (c : Char) : Bool := c = ' ' || c = '\n' || c = '\t' || c = '\r'

def skipBlanks (cs : List Char) : List Char := cs.dropWhile isBlank

/-- Reads the rest of a word. -/
def readWord : List Char → List Char → Read Unit
  | [], cs => .ok ((), cs)
  | _ :: _, [] => .error .ended
  | w :: ws, c :: cs => if c = w then readWord ws cs else .error .malformed

def hexValue? (c : Char) : Option Nat :=
  if c.isDigit then some (c.toNat - '0'.toNat)
  else if 'a' ≤ c && c ≤ 'f' then some (c.toNat - 'a'.toNat + 10)
  else if 'A' ≤ c && c ≤ 'F' then some (c.toNat - 'A'.toNat + 10)
  else none

/-- Four hexadecimal digits, for which four bytes must be left. -/
def hexQuad (cs : List Char) : Except ReadError Nat :=
  match (cs.take 4).filterMap hexValue? with
  | [a, b, c, d] => .ok (((a * 16 + b) * 16 + c) * 16 + d)
  | _ => if Text.byteLength (cs.take 4) < 4 then .error .ended else .error .malformed

def isHighSurrogate (n : Nat) : Bool := 0xD800 ≤ n && n ≤ 0xDBFF

def isLowSurrogate (n : Nat) : Bool := 0xDC00 ≤ n && n ≤ 0xDFFF

/-- The second half of a surrogate pair, with its backslash. -/
def readLowHalf : List Char → Except ReadError Nat
  | [] => .error .ended
  | '\\' :: [] => .error .ended
  | '\\' :: 'u' :: cs =>
      match hexQuad cs with
      | .error e => .error e
      | .ok n => if isLowSurrogate n then .ok n else .error .malformed
  | _ => .error .malformed

/-- A character given by its number, behind the letter `u`: the character, and how much of the
text it takes. Halves of surrogate pairs must come in pairs, if `paired` asks for it. -/
def readCodePoint (paired : Bool) (cs : List Char) : Except ReadError (Char × Nat) :=
  match hexQuad cs with
  | .error e => .error e
  | .ok n =>
      if !paired then .ok (Char.ofNat n, 4)
      else if isLowSurrogate n then .error .malformed
      else if isHighSurrogate n then
        match readLowHalf (cs.drop 4) with
        | .error e => .error e
        | .ok low => .ok (Char.ofNat (0x10000 + (n - 0xD800) * 0x400 + (low - 0xDC00)), 10)
      else .ok (Char.ofNat n, 4)

/-- The character that a letter behind a backslash stands for. -/
def escapedChar? (c : Char) : Option Char :=
  match c with
  | '"' => some '"'
  | '\\' => some '\\'
  | '/' => some '/'
  | 'b' => some '\x08'
  | 'f' => some '\x0c'
  | 'n' => some '\n'
  | 'r' => some '\r'
  | 't' => some '\t'
  | _ => none

/-- What stands behind a backslash: the character, and how much of the text it takes. -/
def readEscape (paired : Bool) : List Char → Except ReadError (Char × Nat)
  | [] => .error .ended
  | c :: cs =>
      match escapedChar? c with
      | some d => .ok (d, 1)
      | none =>
          if c = 'u' then (readCodePoint paired cs).map fun (d, n) => (d, n + 1)
          else .error .malformed

/-- Reads a string from behind its opening quote. -/
def readText (paired : Bool) : List Char → Read (List Char)
  | [] => .error .ended
  | c :: cs =>
      if c = '"' then .ok ([], cs)
      else if c = '\\' then
        match readEscape paired cs with
        | .error e => .error e
        | .ok (d, n) =>
            match readText paired (cs.drop n) with
            | .error e => .error e
            | .ok (ds, rest) => .ok (d :: ds, rest)
      else if c.toNat < 0x20 then .error .malformed
      else
        match readText paired cs with
        | .error e => .error e
        | .ok (ds, rest) => .ok (c :: ds, rest)
termination_by cs => cs.length
decreasing_by
  all_goals simp only [List.length_cons, List.length_drop]
  all_goals omega

/-- The digits at the front, and the text behind them. -/
def spanDigits (cs : List Char) : List Char × List Char :=
  (cs.takeWhile Char.isDigit, cs.dropWhile Char.isDigit)

/-- The whole part of a number; a zero stands alone. -/
def readWhole : List Char → Read (List Char)
  | [] => .error .ended
  | c :: cs =>
      let (more, rest) := spanDigits cs
      if c = '0' then if more.isEmpty then .ok ([c], cs) else .error .malformed
      else if c.isDigit then .ok (c :: more, rest)
      else .error .malformed

/-- Digits of which at least one must be there. -/
def readDigits (cs : List Char) : Read (List Char) :=
  match spanDigits cs with
  | ([], []) => .error .ended
  | ([], _) => .error .malformed
  | (ds, rest) => .ok (ds, rest)

/-- The value of decimal digits. -/
def digitsValue (ds : List Char) : Nat :=
  ds.foldl (fun n d => n * 10 + (d.toNat - '0'.toNat)) 0

/-- Whether an exponent is negative, and the text behind its sign. -/
def exponentSign : List Char → Bool × List Char
  | '-' :: rest => (true, rest)
  | '+' :: rest => (false, rest)
  | cs => (false, cs)

/-- The exponent of a number, or nothing. -/
def readExponent (cs : List Char) : Read (Option Int) :=
  match cs with
  | c :: rest =>
      if c = 'e' || c = 'E' then
        let (negative, digits) := exponentSign rest
        match readDigits digits with
        | .error e => .error e
        | .ok (ds, behind) =>
            let n : Int := digitsValue ds
            .ok (some (if negative then -n else n), behind)
      else .ok (none, cs)
  | [] => .ok (none, cs)

/-- The digits behind a point, or none. -/
def readFraction (cs : List Char) : Read (List Char) :=
  match cs with
  | '.' :: rest => readDigits rest
  | _ => .ok ([], cs)

/-- The number of a decimal that is no 64-bit integer. -/
def floatNumber (negative : Bool) (s : Decimal.Scaled) : Except ReadError Number :=
  match s.toFloat? with
  | none => .error .malformed
  | some x => .ok (.float (if negative then (-x).toBits else x.toBits))

/-- The number of a run of digits: an integer if it fits into 64 bits. -/
def wholeNumber (negative : Bool) (ds : List Char) : Except ReadError Number :=
  let n := digitsValue ds
  if !negative && n < 2 * signBit then .ok (.integer n)
  else if negative && 0 < n && n ≤ signBit then .ok (.integer (-n))
  else floatNumber negative ((⟨0, 0⟩ : Decimal.Scaled).whole ds)

/-- Reads a number from behind its sign. -/
def readNumber (negative : Bool) (cs : List Char) : Read Number :=
  match readWhole cs with
  | .error e => .error e
  | .ok (whole, rest) =>
      match readFraction rest with
      | .error e => .error e
      | .ok (fraction, rest) =>
          match readExponent rest with
          | .error e => .error e
          | .ok (exponent?, rest) =>
              let number := match fraction, exponent? with
                | [], none => wholeNumber negative whole
                | _, _ =>
                    let s := ((⟨0, 0⟩ : Decimal.Scaled).whole whole).fraction fraction
                    floatNumber negative ⟨s.significand, s.exponent + exponent?.getD 0⟩
              number.map fun n => (n, rest)

/-- Reads items up to a closing mark, with commas between them; `first` says that none was read
yet. A state that is `full` takes no further item. -/
def readSeq {σ : Type} (close : Char) (full : σ → Bool) (item : σ → List Char → Read σ) :
    Nat → Bool → σ → List Char → Read σ
  | 0, _, _, _ => .error .malformed
  | fuel + 1, first, s, cs =>
      let next (cs : List Char) : Read σ :=
        match item s cs with
        | .error e => .error e
        | .ok (s, rest) => readSeq close full item fuel false s rest
      match skipBlanks cs with
      | [] => .error .ended
      | c :: rest =>
          if c = close then .ok (s, rest)
          else if full s then .error .malformed
          else if first then next (c :: rest)
          else if c = ',' then
            match skipBlanks rest with
            | [] => .error .ended
            | d :: more => if d = close then .error .malformed else next (d :: more)
          else .error .malformed

/-- A key with its colon. -/
def readKey (paired : Bool) (cs : List Char) : Read String :=
  match skipBlanks cs with
  | [] => .error .ended
  | '"' :: rest =>
      match readText paired rest with
      | .error e => .error e
      | .ok (key, rest) =>
          match skipBlanks rest with
          | [] => .error .ended
          | ':' :: behind => .ok (String.ofList key, behind)
          | _ => .error .malformed
  | _ => .error .malformed

/-- How strictly the parts of a value are read. -/
structure Rule where
  /-- Whether halves of surrogate pairs must come in pairs. -/
  paired : Bool
  number : Bool → List Char → Read Number

/-- Reads a value that is neither an array nor an object. -/
def readScalar (rule : Rule) (c : Char) (rest : List Char) : Read Value :=
  let word (w : String) (v : Value) : Read Value := (readWord w.toList rest).map fun (_, r) => (v, r)
  if c = 'n' then word "ull" .null
  else if c = 't' then word "rue" (.bool true)
  else if c = 'f' then word "alse" (.bool false)
  else if c = '"' then
    (readText rule.paired rest).map fun (s, r) => (.string (String.ofList s), r)
  else if c = '-' then (rule.number true rest).map fun (n, r) => (.number n, r)
  else if c.isDigit then (rule.number false (c :: rest)).map fun (n, r) => (.number n, r)
  else .error .malformed

/-- Reads a value; `depth` says how deep arrays and objects may nest. -/
def readValue (rule : Rule) : Nat → List Char → Read Value
  | 0, cs =>
      match skipBlanks cs with
      | [] => .error .ended
      | c :: rest => readScalar rule c rest
  | depth + 1, cs =>
      match skipBlanks cs with
      | [] => .error .ended
      | '[' :: rest =>
          let item (vs : List Value) (cs : List Char) : Read (List Value) :=
            (readValue rule depth cs).map fun (v, r) => (v :: vs, r)
          (readSeq ']' (fun _ => false) item (rest.length + 1) true [] rest).map
            fun (vs, r) => (.array vs.reverse, r)
      | '\x7b' :: rest =>
          let member (fs : Fields) (cs : List Char) : Read Fields :=
            match readKey rule.paired cs with
            | .error e => .error e
            | .ok (key, behind) =>
                (readValue rule depth behind).map fun (v, r) => (fs.set key v, r)
          (readSeq '\x7d' (fun _ => false) member (rest.length + 1) true [] rest).map
            fun (fs, r) => (.object fs, r)
      | c :: rest => readScalar rule c rest

/-- How deep arrays and objects may nest. -/
def maxDepth : Nat := 127

/-- Values are read as they are. -/
def strictRule : Rule := ⟨true, readNumber⟩

/-- Checks a number that is skipped; where it breaks off does not matter. -/
def skipNumber (_ : Bool) (cs : List Char) : Read Number :=
  match readWhole cs with
  | .error _ => .error .malformed
  | .ok (_, rest) =>
      match readFraction rest with
      | .error _ => .error .malformed
      | .ok (_, rest) =>
          match readExponent rest with
          | .error _ => .error .malformed
          | .ok (_, rest) => .ok (.integer 0, rest)

/-- Values that are skipped are only checked for their form. -/
def skipRule : Rule := ⟨false, skipNumber⟩

/-- Skips a value, however deep it nests. -/
def skipValue (cs : List Char) : Read Unit :=
  (readValue skipRule cs.length cs).map fun (_, rest) => ((), rest)

/-- Asks that nothing but blanks follows. -/
def complete {α : Type} : Read α → Except ReadError α
  | .error e => .error e
  | .ok (a, rest) => if (skipBlanks rest).isEmpty then .ok a else .error .malformed

/-- Reads a whole text. -/
def parse (text : String) : Except ReadError Value :=
  complete (readValue strictRule maxDepth text.toList)

/-- The error for a value of the wrong type, which is read as far as it tells its type. -/
def mismatchAt (c : Char) (rest : List Char) : ReadError :=
  if c = '[' || c = '\x7b' then .mismatch
  else
    match readScalar strictRule c rest with
    | .error e => e
    | .ok _ => .mismatch

/-- Reads a string. -/
def readString (cs : List Char) : Read String :=
  match skipBlanks cs with
  | [] => .error .ended
  | c :: rest =>
      if c = '"' then (readText true rest).map fun (s, r) => (String.ofList s, r)
      else .error (mismatchAt c rest)

/-- Reads an array of strings. -/
def readStrings (cs : List Char) : Read (List String) :=
  match skipBlanks cs with
  | [] => .error .ended
  | c :: rest =>
      if c = '[' then
        let item (ss : List String) (cs : List Char) : Read (List String) :=
          (readString cs).map fun (s, r) => (ss ++ [s], r)
        readSeq ']' (fun _ => false) item (rest.length + 1) true [] rest
      else .error (mismatchAt c rest)

end Phrasebook.Json

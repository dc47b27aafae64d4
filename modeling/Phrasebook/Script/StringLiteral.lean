/-!
String literals of the script language.

A literal is read one character at a time by a small machine whose states are the places inside an
escape sequence. What it yields are code points, among which halves of a surrogate pair can stand;
a value with a half that has no partner is no text.
-/

namespace Phrasebook.Script

/-- The value of a hexadecimal digit. -/
def hexDigit? (c : Char) : Option Nat :=
  let n := c.toNat
  if 48 ≤ n && n ≤ 57 then some (n - 48)
  else if 97 ≤ n && n ≤ 102 then some (n - 87)
  else if 65 ≤ n && n ≤ 70 then some (n - 55)
  else none

def isOctalDigit (c : Char) : Bool := 48 ≤ c.toNat && c.toNat ≤ 55

/-- The two line ends that count only in scripts. -/
def isLineSeparator (c : Char) : Bool := c.toNat == 0x2028 || c.toNat == 0x2029

/-- Where the reader of a literal stands. -/
inductive LiteralState where
  | plain
  | backslash
  /-- Behind an escaped carriage return, where a line feed belongs to it. -/
  | carriage
  /-- Behind the escape of the null character, where no digit may follow. -/
  | null
  | hex (left value : Nat)
  | unicode
  | braced (started : Bool) (value : Nat)
deriving DecidableEq, Repr

/-- What one character of a literal does. -/
inductive LiteralStep where
  | emit (points : List Nat) (next : LiteralState)
  | close
deriving DecidableEq, Repr

/-- What closes a literal, and whether it may span lines. -/
structure LiteralRule where
  quote : Option Char
  multiline : Bool

def LiteralRule.plainStep (rule : LiteralRule) (c : Char) : Option LiteralStep :=
  if rule.quote = some c then some .close
  else if c = '\\' then some (.emit [] .backslash)
  else if (c = '\n' || c = '\r') && !rule.multiline then none
  else some (.emit [c.toNat] .plain)

/-- The character behind a backslash. Octal escapes are refused, as in all strict code. -/
def LiteralRule.escapeStep (c : Char) : Option LiteralStep :=
  match c with
  | 'n' => some (.emit [10] .plain)
  | 't' => some (.emit [9] .plain)
  | 'r' => some (.emit [13] .plain)
  | 'b' => some (.emit [8] .plain)
  | 'v' => some (.emit [11] .plain)
  | 'f' => some (.emit [12] .plain)
  | '\n' => some (.emit [] .plain)
  | '\r' => some (.emit [] .carriage)
  | 'x' => some (.emit [] (.hex 2 0))
  | 'u' => some (.emit [] .unicode)
  | '0' => some (.emit [0] .null)
  | c =>
      if isOctalDigit c then none
      else if isLineSeparator c then some (.emit [] .plain)
      else some (.emit [c.toNat] .plain)

/-- One step of the reader; no result means that the literal is malformed. -/
def LiteralRule.step (rule : LiteralRule) (state : LiteralState) (c : Char) :
    Option LiteralStep :=
  match state with
  | .plain => rule.plainStep c
  | .backslash => escapeStep c
  | .carriage => if c = '\n' then some (.emit [] .plain) else rule.plainStep c
  | .null => if isOctalDigit c then none else rule.plainStep c
  | .hex left value =>
      match hexDigit? c with
      | none => none
      | some d =>
          let value := value * 16 + d
          if left ≤ 1 then some (.emit [value] .plain) else some (.emit [] (.hex (left - 1) value))
  | .unicode =>
      if c = '\x7b' then some (.emit [] (.braced false 0))
      else (hexDigit? c).map fun d => .emit [] (.hex 3 d)
  | .braced started value =>
      if c = '\x7d' then
        if started then some (.emit [value] .plain) else none
      else
        match hexDigit? c with
        | none => none
        | some d =>
            let value := value * 16 + d
            if value ≤ 0x10FFFF then some (.emit [] (.braced true value)) else none

/-- What a scan found: a value, the number of bytes it took, and the text behind it. -/
structure Found (α : Type) where
  value : α
  bytes : Nat
  rest : List Char
deriving Repr

/-- Reads a literal from behind its opening quote up to and including the closing one. -/
def LiteralRule.scan (rule : LiteralRule) (state : LiteralState) :
    List Char → Option (Found (List Nat))
  | [] => none
  | c :: cs =>
      match rule.step state c with
      | none => none
      | some .close => some ⟨[], c.utf8Size, cs⟩
      | some (.emit points next) =>
          (rule.scan next cs).map fun found =>
            ⟨points ++ found.value, c.utf8Size + found.bytes, found.rest⟩

/-- Whether a text without closing quote is well formed up to its end. -/
def LiteralRule.accepts (rule : LiteralRule) (state : LiteralState) : List Char → Bool
  | [] =>
      match state with
      | .plain | .carriage | .null => true
      | _ => false
  | c :: cs =>
      match rule.step state c with
      | some (.emit _ next) => rule.accepts next cs
      | _ => false

def isHighSurrogate (n : Nat) : Bool := 0xD800 ≤ n && n < 0xDC00

def isLowSurrogate (n : Nat) : Bool := 0xDC00 ≤ n && n < 0xE000

/-- The text of a list of code points. Two halves of a surrogate pair make one character; a half
that stands alone makes no text. -/
def textOfCodePoints : List Nat → Option (List Char)
  | [] => some []
  | n :: rest =>
      if isHighSurrogate n then
        match rest with
        | [] => none
        | m :: more =>
            if isLowSurrogate m then
              (textOfCodePoints more).map
                (Char.ofNat (0x10000 + (n - 0xD800) * 0x400 + (m - 0xDC00)) :: ·)
            else none
      else if isLowSurrogate n then none
      else (textOfCodePoints rest).map (Char.ofNat n :: ·)

/-- Reads a string literal at its opening quote: its value, if that is a text, and what follows. -/
def readString : List Char → Option (Found (Option String))
  | [] => none
  | q :: cs =>
      if q = '\'' || q = '"' then
        (LiteralRule.scan ⟨some q, false⟩ .plain cs).map fun found =>
          ⟨(textOfCodePoints found.value).map String.ofList, 1 + found.bytes, found.rest⟩
      else none

end Phrasebook.Script

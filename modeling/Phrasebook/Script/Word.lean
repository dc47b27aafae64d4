import Phrasebook.Script.StringLiteral
import Phrasebook.Text.IdentifierPartTable
import Phrasebook.Text.IdentifierStartTable

/-!
Words of the script language: identifiers and keywords, which are written alike.
-/

namespace Phrasebook.Script

/-- Whether a word can start with the character. -/
def isWordStart (c : Char) : Bool :=
  if c.toNat < 128 then c.isAlpha || c = '_' || c = '$'
  else Text.inTable c.toNat Text.identifierStartTable

/-- Whether a word can go on with the character; the two joiners count. -/
def isWordPart (c : Char) : Bool :=
  if c.toNat < 128 then c.isAlphanum || c = '_' || c = '$'
  else c.toNat == 0x200C || c.toNat == 0x200D || Text.inTable c.toNat Text.identifierPartTable

/-- Where the reader of a word stands; `first` is set before its first character. -/
inductive WordState where
  | plain (first : Bool)
  | backslash (first : Bool)
  | unicode (first : Bool)
  | hex (first : Bool) (left value : Nat)
  | braced (first : Bool) (value : Nat)

/-- Whether a character may stand at this place of a word. -/
def fits (first : Bool) (c : Char) : Bool := if first then isWordStart c else isWordPart c

/-- Reads a word; the flag of the result says whether an escape stands in it. -/
def scanWord (state : WordState) : List Char → Option (Found (List Char × Bool))
  | [] =>
      match state with
      | .plain false => some ⟨([], false), 0, []⟩
      | _ => none
  | c :: cs =>
      let add (ch : Char) (escaped : Bool) (found : Found (List Char × Bool)) :
          Found (List Char × Bool) :=
        ⟨(ch :: found.value.1, escaped || found.value.2), c.utf8Size + found.bytes, found.rest⟩
      let pass (found : Found (List Char × Bool)) : Found (List Char × Bool) :=
        ⟨(found.value.1, true), c.utf8Size + found.bytes, found.rest⟩
      match state with
      | .plain first =>
          if fits first c then (scanWord (.plain false) cs).map (add c false)
          else if c = '\\' then (scanWord (.backslash first) cs).map pass
          else if first then none
          else some ⟨([], false), 0, c :: cs⟩
      | .backslash first => if c = 'u' then (scanWord (.unicode first) cs).map pass else none
      | .unicode first =>
          if c = '\x7b' then (scanWord (.braced first 0) cs).map pass
          else
            match hexDigit? c with
            | some d => (scanWord (.hex first 3 d) cs).map pass
            | none => none
      | .hex first left value =>
          match hexDigit? c with
          | none => none
          | some d =>
              let value := value * 16 + d
              if left ≤ 1 then
                if fits first (Char.ofNat value) then
                  (scanWord (.plain false) cs).map (add (Char.ofNat value) true)
                else none
              else (scanWord (.hex first (left - 1) value) cs).map pass
      | .braced first value =>
          if c = '\x7d' then
            if fits first (Char.ofNat value) then
              (scanWord (.plain false) cs).map (add (Char.ofNat value) true)
            else none
          else
            match hexDigit? c with
            | none => none
            | some d =>
                if value * 16 + d ≤ 0x10FFFF then
                  (scanWord (.braced first (value * 16 + d)) cs).map pass
                else none

/-- Words that no expression or binding may use as a name, escaped or not. -/
def reservedWords : List String :=
  ["break", "case", "catch", "class", "const", "continue", "debugger", "default", "delete", "do",
   "else", "enum", "export", "extends", "false", "finally", "for", "function", "if", "import",
   "in", "instanceof", "new", "null", "return", "super", "switch", "this", "throw", "true", "try",
   "typeof", "var", "void", "while", "with"]

/-- Words that are reserved in strict code, which a module always is. -/
def strictWords : List String :=
  ["implements", "interface", "let", "package", "private", "protected", "public", "static",
   "yield"]

end Phrasebook.Script

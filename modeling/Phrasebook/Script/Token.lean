import Phrasebook.Script.Word
import Phrasebook.Source.Span

/-!
Tokens of the script language.

A token is read at a byte position, after white space and comments. A slash is always read as an
operator here, and a greater-than sign with whatever operator it starts: the parser, which knows
better, reads such a place again as a regular expression, a template or markup.
-/

namespace Phrasebook.Script

open Source (Span)

inductive Lexeme where
  /-- An identifier or keyword, and whether it was written with an escape. -/
  | word (name : String) (escaped : Bool)
  /-- Punctuation or an operator. -/
  | mark (text : String)
  /-- A string with its value, if that is a text, and the quote it is written with. -/
  | string (value : Option String) (quote : Char)
  | number
  | bigint
  /-- The end of the source. -/
  | finish
  /-- A place where no token can be read. -/
  | bad
deriving DecidableEq, Repr

structure Token where
  lexeme : Lexeme
  span : Span
  /-- Whether a line ends between the token and the one before it. -/
  newline : Bool
deriving Repr

/-- Blank characters within a line. -/
def isSpace (c : Char) : Bool :=
  let n := c.toNat
  n == 9 || n == 11 || n == 12 || n == 32 || n == 0xA0 || n == 0xFEFF || n == 0x1680
    || (0x2000 ≤ n && n ≤ 0x200A) || n == 0x202F || n == 0x205F || n == 0x3000

def isLineEnd (c : Char) : Bool := c = '\n' || c = '\r' || isLineSeparator c

/-- What is being skipped between tokens. -/
inductive Gap where
  | blank
  | lineComment
  /-- Before the star that opens a block comment. -/
  | blockStart
  /-- Inside a block comment, and whether the last character was a star. -/
  | blockComment (star : Bool)

/-- Skips white space and comments: whether a line ended, the new position and the text there. An
open block comment has no end. -/
def skipGap (gap : Gap) (newline : Bool) (pos : Nat) :
    List Char → Option (Bool × Nat × List Char)
  | [] =>
      match gap with
      | .blank | .lineComment => some (newline, pos, [])
      | _ => none
  | c :: cs =>
      let next := pos + c.utf8Size
      match gap with
      | .lineComment =>
          if isLineEnd c then skipGap .blank true next cs
          else skipGap .lineComment newline next cs
      | .blockStart => skipGap (.blockComment false) newline next cs
      | .blockComment star =>
          if star && c = '/' then skipGap .blank newline next cs
          else skipGap (.blockComment (c = '*')) (newline || isLineEnd c) next cs
      | .blank =>
          if c = '/' && cs.head? = some '/' then skipGap .lineComment newline next cs
          else if c = '/' && cs.head? = some '*' then skipGap .blockStart newline next cs
          else if isSpace c then skipGap .blank newline next cs
          else if isLineEnd c then skipGap .blank true next cs
          else some (newline, pos, c :: cs)

/-- Operators and punctuation, longer ones first. -/
def marks : List (List Char) :=
  [">>>=", "...", "===", "!==", "**=", "<<=", ">>=", ">>>", "&&=", "||=", "??=", "=>", "==", "!=",
   "<=", ">=", "&&", "||", "??", "?.", "++", "--", "+=", "-=", "*=", "/=", "%=", "&=", "|=", "^=",
   "<<", ">>", "**", "\x7b", "\x7d", "(", ")", "[", "]", ";", ",", "<", ">", "+", "-", "*", "/",
   "%", "&", "|", "^", "!", "~", "?", ":", "=", ".", "@", "#", "`"].map String.toList

/-- Whether a character is a digit of the given radix. -/
def isDigitOf (radix : Nat) (c : Char) : Bool :=
  match hexDigit? c with
  | some d => d < radix
  | none => false

/-- Reads digits with separators between them: how many characters, and what follows. -/
def scanDigits (radix : Nat) : List Char → Option (Nat × List Char)
  | [] => some (0, [])
  | c :: cs =>
      if c = '_' then
        match cs with
        | d :: _ =>
            if isDigitOf radix d then (scanDigits radix cs).map fun (n, r) => (n + 1, r) else none
        | [] => none
      else if isDigitOf radix c then (scanDigits radix cs).map fun (n, r) => (n + 1, r)
      else some (0, c :: cs)

/-- Digits of which at least one must be there. -/
def scanDigits1 (radix : Nat) (cs : List Char) : Option (Nat × List Char) :=
  match scanDigits radix cs with
  | some (0, _) => none
  | other => other

/-- The end of a number: an optional mark of a big integer, and no word directly behind it. -/
def closeNumber (big : Bool) (n : Nat) (rest : List Char) : Option (Found Lexeme) :=
  match big, rest with
  | true, 'n' :: more =>
      match more with
      | c :: _ => if isWordStart c then none else some ⟨.bigint, n + 1, more⟩
      | [] => some ⟨.bigint, n + 1, more⟩
  | _, c :: _ => if isWordStart c then none else some ⟨.number, n, rest⟩
  | _, [] => some ⟨.number, n, rest⟩

/-- The part of a decimal number from its exponent on. -/
def scanExponent (n : Nat) (rest : List Char) : Option (Found Lexeme) :=
  match rest with
  | c :: cs =>
      if c = 'e' || c = 'E' then
        let (sign, digits) := match cs with
          | '+' :: more => (1, more)
          | '-' :: more => (1, more)
          | _ => (0, cs)
        match scanDigits1 10 digits with
        | none => none
        | some (k, behind) => closeNumber false (n + 1 + sign + k) behind
      else closeNumber false n rest
  | [] => closeNumber false n rest

/-- Reads a number. Numbers with a leading zero are refused, as in all strict code. -/
def scanNumber (cs : List Char) : Option (Found Lexeme) :=
  let radixed (radix : Nat) (digits : List Char) : Option (Found Lexeme) :=
    match scanDigits1 radix digits with
    | none => none
    | some (n, rest) => closeNumber true (n + 2) rest
  match cs with
  | '0' :: c :: more =>
      if c = 'x' || c = 'X' then radixed 16 more
      else if c = 'o' || c = 'O' then radixed 8 more
      else if c = 'b' || c = 'B' then radixed 2 more
      else if c.isDigit || c = '_' then none
      else if c = '.' then
        match scanDigits 10 more with
        | none => none
        | some (n, rest) => scanExponent (n + 2) rest
      else if c = 'n' then closeNumber true 1 (c :: more)
      else scanExponent 1 (c :: more)
  | '.' :: more =>
      match scanDigits1 10 more with
      | none => none
      | some (n, rest) => scanExponent (n + 1) rest
  | _ =>
      match scanDigits1 10 cs with
      | none => none
      | some (n, '.' :: more) =>
          match scanDigits 10 more with
          | none => none
          | some (k, rest) => scanExponent (n + 1 + k) rest
      | some (n, 'n' :: more) => closeNumber true n ('n' :: more)
      | some (n, rest) => scanExponent n rest

/-- The longest mark at a place. A question mark and a point before a digit belong to two tokens:
the question mark of a conditional and a number. -/
def scanMark (cs : List Char) : Option (Found Lexeme) :=
  match cs with
  | '?' :: '.' :: d :: more =>
      if d.isDigit then some ⟨.mark "?", 1, '.' :: d :: more⟩
      else some ⟨.mark "?.", 2, d :: more⟩
  | _ =>
      (marks.find? fun m => m.isPrefixOf cs).map fun m =>
        ⟨.mark (String.ofList m), m.length, cs.drop m.length⟩

/-- Reads the lexeme at a place where no white space stands. Comments in the style of markup are
refused, as in all modules. -/
def scanLexeme (newline : Bool) (cs : List Char) : Option (Found Lexeme) :=
  match cs with
  | [] => some ⟨.finish, 0, []⟩
  | '<' :: '!' :: '-' :: '-' :: _ => none
  | c :: more =>
      if c = '-' && newline && "->".toList.isPrefixOf more then none
      else if c = '\'' || c = '"' then
        (readString cs).map fun found => ⟨.string found.value c, found.bytes, found.rest⟩
      else if c.isDigit then scanNumber cs
      else if c = '.' && (more.head?.map Char.isDigit).getD false then scanNumber cs
      else if isWordStart c || c = '\\' then
        (scanWord (.plain true) cs).bind fun found =>
          let name := String.ofList found.value.1
          if found.value.2 && reservedWords.contains name then none
          else some ⟨.word name found.value.2, found.bytes, found.rest⟩
      else scanMark cs

/-- A token together with the text from its first character on and the text behind it. -/
structure Scan where
  token : Token
  here : List Char
  rest : List Char

/-- Wraps what was found at a place into a token; nothing found makes a bad token. -/
def Scan.ofFound (newline : Bool) (pos : Nat) (here : List Char) :
    Option (Found Lexeme) → Scan
  | none => ⟨⟨.bad, ⟨pos, pos⟩, newline⟩, here, here⟩
  | some found => ⟨⟨found.value, ⟨pos, pos + found.bytes⟩, newline⟩, here, found.rest⟩

/-- Reads the next token; `newline` says whether the line is known to have ended already. -/
def Scan.next (newline : Bool) (pos : Nat) (cs : List Char) : Scan :=
  match skipGap .blank newline pos cs with
  | none => ⟨⟨.bad, ⟨pos, pos⟩, newline⟩, [], []⟩
  | some (newline, pos, here) => .ofFound newline pos here (scanLexeme newline here)

/-- A word inside a tag, where hyphens belong to it. -/
def scanTagLexeme (cs : List Char) : Option (Found Lexeme) :=
  match cs with
  | [] => some ⟨.finish, 0, []⟩
  | c :: more =>
      if isWordStart c then
        let tail := more.takeWhile fun d => isWordPart d || d = '-'
        some ⟨.word (String.ofList (c :: tail)) false, Text.byteLength (c :: tail),
          more.drop tail.length⟩
      else if "<>/=.:\x7b\x7d".toList.contains c then some ⟨.mark (String.singleton c), 1, more⟩
      else none

/-- Reads the next token inside a tag. -/
def Scan.nextInTag (pos : Nat) (cs : List Char) : Scan :=
  match skipGap .blank false pos cs with
  | none => ⟨⟨.bad, ⟨pos, pos⟩, false⟩, [], []⟩
  | some (newline, pos, here) => .ofFound newline pos here (scanTagLexeme here)

/-- Reads the body and the flags of a regular expression from behind its opening slash: the
number of bytes, the flags and the text behind. -/
def scanRegex (escaped inClass : Bool) : List Char → Option (Found (List Char))
  | [] => none
  | c :: cs =>
      if isLineEnd c then none
      else if !escaped && !inClass && c = '/' then
        if cs.head? = some '\\' then some ⟨[], 1, cs⟩
        else
          match scanWord (.plain false) cs with
          | none => none
          | some flags => some ⟨flags.value.1, 1 + flags.bytes, flags.rest⟩
      else
        let inClass := if escaped then inClass
          else if c = '[' then true else if c = ']' then false else inClass
        (scanRegex (!escaped && c = '\\') inClass cs).map fun found =>
          ⟨found.value, c.utf8Size + found.bytes, found.rest⟩

/-- Each flag of a regular expression is known and stands once. -/
def validFlags (flags : List Char) : Bool :=
  flags.all (fun c => "dgimsuvy".toList.contains c) && flags.eraseDups.length == flags.length

/-- Reads a piece of a template up to the closing quote or the start of a substitution: the raw
text, and whether a substitution follows. -/
def scanTemplate (escaped : Bool) : List Char → Option (Found (List Char × Bool))
  | [] => none
  | c :: cs =>
      let more (escaped : Bool) :=
        (scanTemplate escaped cs).map fun found =>
          (⟨(c :: found.value.1, found.value.2), c.utf8Size + found.bytes, found.rest⟩ :
            Found (List Char × Bool))
      if escaped then more false
      else if c = '\\' then more true
      else if c.toNat = 96 then some ⟨([], false), 1, cs⟩
      else
        match c, cs with
        | '$', '\x7b' :: behind => some ⟨([], true), 2, behind⟩
        | _, _ => more false

end Phrasebook.Script

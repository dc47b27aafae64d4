/-!
Glob patterns.

A star and a question mark match any characters, slashes included. Two stars stand for any number
of directories and must be a whole component of the pattern.
-/

namespace Phrasebook.Glob

/-- A member of a character class: the characters from `first` to `last`. -/
structure ClassRange where
  first : Char
  last : Char
deriving DecidableEq, Repr

def ClassRange.contains (r : ClassRange) (c : Char) : Bool := r.first ≤ c && c ≤ r.last

inductive Token where
  | char (c : Char)
  | anyChar
  | anySequence
  /-- Any number of directories, each with the slash behind it. -/
  | anyDirectories
  | within (ranges : List ClassRange)
  | except (ranges : List ClassRange)
deriving DecidableEq, Repr

/-- What is wrong with a pattern, and at which character. -/
inductive PatternError where
  | invalidRange (position : Nat)
  | tooManyStars (position : Nat)
  | partialComponent (position : Nat)
deriving DecidableEq, Repr

def PatternError.message (e : PatternError) : String :=
  let at_ (position : Nat) (text : String) : String :=
    "Pattern syntax error near position " ++ toString position ++ ": " ++ text
  match e with
  | .invalidRange p => at_ p "invalid range pattern"
  | .tooManyStars p => at_ p "wildcards are either regular `*` or recursive `**`"
  | .partialComponent p => at_ p "recursive wildcards must form a single path component"

/-- The members of a character class. -/
def classRanges : List Char → List ClassRange
  | a :: '-' :: b :: rest => ⟨a, b⟩ :: classRanges rest
  | a :: rest => ⟨a, a⟩ :: classRanges rest
  | [] => []

/-- The characters of a class up to its closing bracket, and how many characters follow the
opening one. The first character of a class is never the closing bracket. -/
def classBody? : List Char → Option (List Char)
  | [] => none
  | first :: rest =>
      let more := rest.takeWhile (· ≠ ']')
      if more.length < rest.length then some (first :: more) else none

/-- Reads the class behind an opening bracket: the token and the number of characters taken. -/
def readClass? (cs : List Char) : Option (Token × Nat) :=
  match cs with
  | '!' :: rest => (classBody? rest).map fun body => (.except (classRanges body), body.length + 2)
  | _ => (classBody? cs).map fun body => (.within (classRanges body), body.length + 1)

/-- Puts a token for directories behind others, unless it repeats the last. -/
def addDirectories (tokens : List Token) : List Token :=
  if 1 < tokens.length && tokens.getLast? = some .anyDirectories then tokens
  else tokens ++ [.anyDirectories]

/-- Reads a pattern from a position on; `before` is the character before it. -/
def readTokens : Nat → Nat → Option Char → List Token → List Char →
    Except PatternError (List Token)
  | 0, _, _, tokens, _ => .ok tokens
  | _ + 1, _, _, tokens, [] => .ok tokens
  | fuel + 1, position, before, tokens, c :: cs =>
      if c = '?' then readTokens fuel (position + 1) (some c) (tokens ++ [.anyChar]) cs
      else if c = '*' then
        let more := cs.takeWhile (· = '*')
        let rest := cs.drop more.length
        match more.length with
        | 0 => readTokens fuel (position + 1) (some c) (tokens ++ [.anySequence]) cs
        | 1 =>
            if before = none || before = some '/' then
              match rest with
              | [] => .ok (addDirectories tokens)
              | d :: behind =>
                  if d = '/' then
                    readTokens fuel (position + 3) (some d) (addDirectories tokens) behind
                  else .error (.partialComponent (position + 2))
            else .error (.partialComponent (position - 1))
        | _ => .error (.tooManyStars (position + 2))
      else if c = '[' then
        match readClass? cs with
        | some (token, taken) =>
            readTokens fuel (position + 1 + taken) (some ']') (tokens ++ [token]) (cs.drop taken)
        | none => .error (.invalidRange position)
      else readTokens fuel (position + 1) (some c) (tokens ++ [.char c]) cs

/-- The tokens of a pattern. -/
def parse (pattern : String) : Except PatternError (List Token) :=
  readTokens (pattern.length + 1) 0 none [] pattern.toList

/-- Whether a token that stands for one character matches it. -/
def Token.matchesChar (c : Char) : Token → Bool
  | .char d => c = d
  | .anyChar => true
  | .within ranges => ranges.any (·.contains c)
  | .except ranges => !ranges.any (·.contains c)
  | _ => false

/-- Whether a test holds of some end of a text. -/
def anyEnd (test : List Char → Bool) : List Char → Bool
  | [] => test []
  | c :: cs => test (c :: cs) || anyEnd test cs

/-- Whether a test holds of some end of a text that starts behind a slash, or of the empty text. -/
def anyEndBehindSlash (test : List Char → Bool) : List Char → Bool
  | [] => test []
  | c :: cs => (c = '/' && test cs) || anyEndBehindSlash test cs

/-- Whether a text matches a list of tokens. -/
def accepts : List Token → List Char → Bool
  | [], cs => cs.isEmpty
  | .anySequence :: tokens, cs => anyEnd (accepts tokens) cs
  | .anyDirectories :: tokens, cs => accepts tokens cs || anyEndBehindSlash (accepts tokens) cs
  | token :: tokens, cs =>
      match cs with
      | [] => false
      | c :: rest => token.matchesChar c && accepts tokens rest

end Phrasebook.Glob

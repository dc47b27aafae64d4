import Phrasebook.Text.Class

/-!
The words of a text.

A word is a run of letters or of digits. Inside a run of letters a word ends before a capital that
follows a small letter, and before the last capital of a row of capitals when a small letter
follows it, so that an acronym and the capitalised word behind it come apart.
-/

namespace Phrasebook.Slug

/-- What a character is to the splitting into words. Letters without case count as small. -/
inductive CharClass where
  | upper
  | lower
  | digit
  | other
deriving DecidableEq, Repr

def CharClass.of (c : Char) : CharClass :=
  if Text.isNumeric c then .digit
  else if Text.isUppercase c then .upper
  else if Text.isAlphabetic c then .lower
  else .other

/-- Whether a word ends between two neighbours, given the class of the character behind them. -/
def CharClass.parts (left right : CharClass) (behind : Option CharClass) : Bool :=
  match left, right with
  | .lower, .upper => true
  | .digit, .upper => true
  | .digit, .lower => true
  | .upper, .digit => true
  | .lower, .digit => true
  | .upper, .upper => behind = some .lower
  | _, _ => false

/-- Puts a character in front of the first word. -/
def lengthen (c : Char) : List (List Char) → List (List Char)
  | [] => [[c]]
  | w :: ws => (c :: w) :: ws

/-- The words of a text in order; characters that are neither letters nor digits are left out. -/
def words : List Char → List (List Char)
  | [] => []
  | c :: rest =>
      if CharClass.of c = .other then words rest
      else
        match rest with
        | [] => [[c]]
        | d :: more =>
            if CharClass.of d = .other
                || (CharClass.of c).parts (CharClass.of d) (more.head?.map CharClass.of) then
              [c] :: words (d :: more)
            else lengthen c (words (d :: more))

end Phrasebook.Slug

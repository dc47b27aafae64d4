import Phrasebook.Text.Class

/-!
What makes a text worth translating: it holds a letter, or it reads like a phrase.
-/

namespace Phrasebook.Text

/-- Whether the text holds a letter at all. -/
def containsAlphabetic (s : String) : Bool := s.toList.any isAlphabetic

/-- The Latin letters a to z in either case, with the two characters that fold to one of them:
the long s and the Kelvin sign. -/
def isLatin (c : Char) : Bool := c.isAlpha || c.toNat == 0x17F || c.toNat == 0x212A

/-- Whether a letter, one white space character and a letter follow each other somewhere. -/
def hasWordGap : List Char → Bool
  | a :: b :: c :: rest => (isLatin a && isBlank b && isLatin c) || hasWordGap (b :: c :: rest)
  | _ => false

/-- Whether the text reads like a phrase rather than a token: it holds a space, and two runs of
letters with a single white space character between them. -/
def isPhrase (s : String) : Bool :=
  !(trim s.toList).isEmpty && s.toList.contains ' ' && hasWordGap s.toList

/-- Whether the first character is an uppercase letter. -/
def startsUppercase (s : String) : Bool :=
  match s.toList with
  | [] => false
  | c :: _ => isUppercase c

end Phrasebook.Text

import Phrasebook.Text.Class
import Phrasebook.Text.LowercaseTable

/-!
Lowercasing a whole text by the full mapping of Unicode.

Two rules go beyond the table. A capital I with a dot above becomes an i and a combining dot. A
capital sigma becomes the final form at the end of a word: a cased letter stands before it, none
behind it, and characters that have no case of their own do not count.
-/

namespace Phrasebook.Text

/-- The lowercase form of one character away from any word end. -/
def lowerChar (c : Char) : List Char :=
  if c.toNat = 0x130 then ['i', Char.ofNat 0x307]
  else match imageInTable? c.toNat lowercaseTable with
    | some n => [Char.ofNat n]
    | none => [c]

/-- Whether the first character that is not case-ignorable is cased. -/
def casedAhead : List Char → Bool
  | [] => false
  | c :: cs => if isCaseIgnorable c then casedAhead cs else isCased c

/-- Lowercases a text; `before` holds what stands before it, last character first. -/
def lowerFrom (before : List Char) : List Char → List Char
  | [] => []
  | c :: cs =>
      let image :=
        if c.toNat = 0x3A3 then
          [Char.ofNat (if casedAhead before && !casedAhead cs then 0x3C2 else 0x3C3)]
        else lowerChar c
      image ++ lowerFrom (c :: before) cs

def lower (cs : List Char) : List Char := lowerFrom [] cs

end Phrasebook.Text

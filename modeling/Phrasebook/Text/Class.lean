import Phrasebook.Text.AlphabeticTable
import Phrasebook.Text.CaseIgnorableTable
import Phrasebook.Text.CasedTable
import Phrasebook.Text.NumericTable
import Phrasebook.Text.UppercaseTable

/-!
Character classes of Unicode, and trimming by them.

The tables answer for every code point; the tests for ASCII in front only shorten the search.
-/

namespace Phrasebook.Text

/-- Letters, and marks that behave like letters. -/
def isAlphabetic (c : Char) : Bool :=
  if c.toNat < 128 then c.isAlpha else inTable c.toNat alphabeticTable

def isUppercase (c : Char) : Bool :=
  if c.toNat < 128 then c.isUpper else inTable c.toNat uppercaseTable

/-- Decimal digits, letter numbers and other numbers. -/
def isNumeric (c : Char) : Bool :=
  if c.toNat < 128 then c.isDigit else inTable c.toNat numericTable

def isCased (c : Char) : Bool := inTable c.toNat casedTable

def isCaseIgnorable (c : Char) : Bool := inTable c.toNat caseIgnorableTable

/-- White space, the set that trimming removes. -/
def isBlank (c : Char) : Bool :=
  let n := c.toNat
  (9 ≤ n && n ≤ 13) || n == 0x20 || n == 0x85 || n == 0xA0 || n == 0x1680
    || (0x2000 ≤ n && n ≤ 0x200A) || n == 0x2028 || n == 0x2029 || n == 0x202F || n == 0x205F
    || n == 0x3000

/-- The text without leading white space. -/
def trimStart (cs : List Char) : List Char := cs.dropWhile isBlank

/-- The text without trailing white space. -/
def trimEnd : List Char → List Char
  | [] => []
  | c :: cs =>
      match trimEnd cs with
      | [] => if isBlank c then [] else [c]
      | d :: ds => c :: d :: ds

def trim (cs : List Char) : List Char := trimEnd (trimStart cs)

/-- The number of bytes a text takes in UTF-8. -/
def byteLength : List Char → Nat
  | [] => 0
  | c :: cs => c.utf8Size + byteLength cs

@[simp] theorem byteLength_append (as bs : List Char) :
    byteLength (as ++ bs) = byteLength as + byteLength bs := by
  induction as with
  | nil => simp [byteLength]
  | cons a as ih => simp [byteLength, ih]; omega

/-- Every character that core counts as white space is blank. -/
theorem isBlank_of_isWhitespace {c : Char} (h : c.isWhitespace = true) : isBlank c = true := by
  simp only [Char.isWhitespace, Bool.or_eq_true, decide_eq_true_eq] at h
  rcases h with ((rfl | rfl) | rfl) | rfl <;> decide

end Phrasebook.Text

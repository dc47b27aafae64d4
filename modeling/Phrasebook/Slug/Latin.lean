/-!
Latin letters reduced to the ASCII letters they are written with: the letters of Latin-1
Supplement and Latin Extended-A, code points U+00C0 to U+017F.
-/

namespace Phrasebook.Slug

/-- What each code point from U+00C0 to U+017F is reduced to. The two signs among the letters, the
multiplication and the division sign, stand for themselves. -/
def latinTable : List String :=
  ["A", "A", "A", "A", "A", "A", "AE", "C", "E", "E", "E", "E", "I", "I", "I", "I", "D", "N", "O",
   "O", "O", "O", "O", "×", "O", "U", "U", "U", "U", "Y", "Th", "ss", "a", "a", "a", "a", "a",
   "a", "ae", "c", "e", "e", "e", "e", "i", "i", "i", "i", "d", "n", "o", "o", "o", "o", "o", "÷",
   "o", "u", "u", "u", "u", "y", "th", "y", "A", "a", "A", "a", "A", "a", "C", "c", "C", "c", "C",
   "c", "C", "c", "D", "d", "D", "d", "E", "e", "E", "e", "E", "e", "E", "e", "E", "e", "G", "g",
   "G", "g", "G", "g", "G", "g", "H", "h", "H", "h", "I", "i", "I", "i", "I", "i", "I", "i", "I",
   "i", "IJ", "ij", "J", "j", "K", "k", "k", "L", "l", "L", "l", "L", "l", "L", "l", "L", "l",
   "N", "n", "N", "n", "N", "n", "'n", "ng", "NG", "O", "o", "O", "o", "O", "o", "OE", "oe", "R",
   "r", "R", "r", "R", "r", "S", "s", "S", "s", "S", "s", "S", "s", "T", "t", "T", "t", "T", "t",
   "U", "u", "U", "u", "U", "u", "U", "u", "U", "u", "U", "u", "W", "w", "Y", "y", "Y", "Z", "z",
   "Z", "z", "Z", "z", "s"]

/-- The reduced form of a Latin letter, and any other character unchanged. -/
def reduceLatin (c : Char) : List Char :=
  if 0xC0 ≤ c.toNat then
    match latinTable[c.toNat - 0xC0]? with
    | some s => s.toList
    | none => [c]
  else [c]

end Phrasebook.Slug

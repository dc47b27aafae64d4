import Phrasebook.Slug.Latin
import Phrasebook.Slug.Word
import Phrasebook.Text.Lowercase

/-!
Slugs: the last segment of a catalog key, derived from the text it stands for.
-/

namespace Phrasebook

/-- Reduces Latin letters to ASCII and drops apostrophes and combining marks. Letters of other
scripts are kept. -/
def deburr : List Char → List Char
  | [] => []
  | c :: cs =>
      if c = '\'' || c.toNat = 0x2019 || (0x300 ≤ c.toNat && c.toNat ≤ 0x36F) then deburr cs
      else Slug.reduceLatin c ++ deburr cs

/-- Joins words with a single underscore between neighbours. -/
def Slug.join : List (List Char) → List Char
  | [] => []
  | [w] => w
  | w :: ws => w ++ '_' :: join ws

/-- The lowercase words of a text joined by underscores; empty when the text has no word. -/
def slugify (text : String) : String :=
  String.ofList (Slug.join ((Slug.words (deburr text.toList)).map Text.lower))

end Phrasebook

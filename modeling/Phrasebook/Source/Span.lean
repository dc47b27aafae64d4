import Phrasebook.Text.Class

/-!
Byte positions in a source text.

Offsets count the bytes of the UTF-8 form. A text is cut only between characters: an offset inside
a character, or behind the end, cuts nothing.
-/

namespace Phrasebook.Source

/-- The bytes from `start` up to, but not including, `stop`. -/
structure Span where
  start : Nat
  stop : Nat
deriving DecidableEq, Repr, Inhabited

/-- A span that covers no byte; one whose ends are swapped counts as empty too. -/
def Span.isEmpty (s : Span) : Bool := s.stop ≤ s.start

/-- Cuts a text after exactly `n` bytes, if a character ends there. -/
def cut : Nat → List Char → Option (List Char × List Char)
  | 0, cs => some ([], cs)
  | _ + 1, [] => none
  | n + 1, c :: cs =>
      if c.utf8Size ≤ n + 1 then
        (cut (n + 1 - c.utf8Size) cs).map fun (before, behind) => (c :: before, behind)
      else none

/-- The two parts of a cut make up the text, and the first has the length asked for. -/
theorem eq_append_of_cut {n : Nat} {cs before behind : List Char}
    (h : cut n cs = some (before, behind)) :
    cs = before ++ behind ∧ Text.byteLength before = n := by
  fun_induction cut n cs generalizing before behind with
  | case1 cs =>
    obtain ⟨rfl, rfl⟩ := by simpa using h
    simp [Text.byteLength]
  | case2 => simp at h
  | case3 n c cs hc ih =>
    obtain ⟨⟨p, q⟩, hpq, he⟩ := Option.map_eq_some_iff.1 h
    obtain ⟨rfl, rfl⟩ := by simpa using he
    obtain ⟨rfl, hl⟩ := ih hpq
    simp [Text.byteLength, hl]
    omega
  | case4 => simp at h

/-- The text of a span, if both of its ends lie between characters of the source. -/
def slice? (source : List Char) (span : Span) : Option (List Char) :=
  if span.start ≤ span.stop then
    match cut span.start source with
    | none => none
    | some (_, rest) => (cut (span.stop - span.start) rest).map Prod.fst
  else none

/-- The blanks and tabs at the front. -/
def leadingIndent (cs : List Char) : List Char := cs.takeWhile fun c => c = ' ' || c = '\t'

/-- The indentation of the line that holds byte `offset`; `line` is the text from the start of the
current line, and `source` is the text still to walk. -/
def indentFrom (line : List Char) : Nat → List Char → List Char
  | 0, _ => leadingIndent line
  | _ + 1, [] => leadingIndent line
  | n + 1, c :: cs =>
      if n + 1 < c.utf8Size then leadingIndent line
      else indentFrom (if c = '\n' then cs else line) (n + 1 - c.utf8Size) cs

/-- The leading blanks and tabs of the line that holds byte `offset`. -/
def lineIndent (source : List Char) (offset : Nat) : List Char := indentFrom source offset source

end Phrasebook.Source

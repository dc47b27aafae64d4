import Phrasebook.Proofs.Script.StringLiteral
import Phrasebook.Script.Token

/-!
How generated code is read.

The import, the hook and the wrapper each hold one string literal, and its value comes from outside:
a namespace is named like a directory, and the integration module is configured. Whatever the value
is, the reader finds the words and marks around it as they were written, and between them a literal
of just that value. Only a value with a line end is lost, and then the reader stops at the literal.
-/

namespace Phrasebook

namespace Script

open Component (escapeQuote quoted)

/-- Whether a value has a place in a string literal without an escape for a line end. -/
def OnOneLine (value : String) : Prop := '\n' ∉ value.toList ∧ '\r' ∉ value.toList

instance : DecidablePred OnOneLine := fun _ => inferInstanceAs (Decidable (_ ∧ _))

theorem onOneLine_iff {value : String} :
    OnOneLine value ↔ ¬ ('\n' ∈ value.toList ∨ '\r' ∈ value.toList) := not_or.symm

section Literal

variable {q : Char} (hq : IsQuote q) (newline : Bool) (pos : Nat)

include hq

theorem scanLexeme_of_isQuote (cs : List Char) :
    scanLexeme newline (q :: cs) =
      (readString (q :: cs)).map fun found => ⟨.string found.value q, found.bytes, found.rest⟩ := by
  rcases hq with rfl | rfl <;> rfl

theorem skipGap_of_isQuote (cs : List Char) :
    skipGap .blank newline pos (q :: cs) = some (newline, pos, q :: cs) := by
  rcases hq with rfl | rfl <;> rfl

theorem next_blank_of_isQuote (cs : List Char) :
    Scan.next newline pos (' ' :: q :: cs) = Scan.next newline (pos + 1) (q :: cs) := by
  rcases hq with rfl | rfl <;> rfl

/-- The next token at a quoted value is the literal of this value, up to its own closing quote. -/
theorem next_quoted (value : String) (rest : List Char) :
    Scan.next newline pos ((quoted q value).toList ++ rest) =
      if OnOneLine value then
        ⟨⟨.string (some value) q, ⟨pos, pos + Text.byteLength (quoted q value).toList⟩, newline⟩,
          (quoted q value).toList ++ rest, rest⟩
      else
        ⟨⟨.bad, ⟨pos, pos⟩, newline⟩, (quoted q value).toList ++ rest,
          (quoted q value).toList ++ rest⟩ := by
  have hread := readString_quoted hq value rest
  obtain ⟨cs, hcs⟩ : ∃ cs, (quoted q value).toList ++ rest = q :: cs := by simp [quoted]
  rw [hcs] at hread ⊢
  rw [Scan.next, skipGap_of_isQuote hq]
  simp only [scanLexeme_of_isQuote hq, hread]
  by_cases hline : OnOneLine value
  · rw [if_pos hline, if_neg (onOneLine_iff.mp hline)]
    rfl
  · rw [if_neg hline, if_pos (Classical.not_not.mp (mt onOneLine_iff.mpr hline))]
    rfl

/-- A blank in front of the literal is passed over. -/
theorem next_gap_quoted {gap : String} (hgap : gap = "" ∨ gap = " ") (value : String)
    (rest : List Char) :
    ∃ pos', Scan.next newline pos (gap.toList ++ ((quoted q value).toList ++ rest)) =
      Scan.next newline pos' ((quoted q value).toList ++ rest) := by
  rcases hgap with rfl | rfl
  · exact ⟨pos, rfl⟩
  · refine ⟨pos + 1, ?_⟩
    simp only [quoted, String.toList_ofList, List.cons_append]
    exact next_blank_of_isQuote hq newline pos _

end Literal

/-- The lexemes that a text starts with, wherever it stands, and the text behind them. -/
inductive Reads : List Char → List Lexeme → List Char → Prop
  | done {cs : List Char} : Reads cs [] cs
  | next {cs rest behind : List Char} {lexeme : Lexeme} {lexemes : List Lexeme}
      (hfirst : ∀ newline pos, (Scan.next newline pos cs).token.lexeme = lexeme ∧
        (Scan.next newline pos cs).rest = rest)
      (hmore : Reads rest lexemes behind) : Reads cs (lexeme :: lexemes) behind

theorem Reads.append {cs mid rest : List Char} {front back : List Lexeme} (h : Reads cs front mid)
    (h' : Reads mid back rest) : Reads cs (front ++ back) rest := by
  induction h with
  | done => exact h'
  | next hfirst _ ih => exact .next hfirst (ih h')

/-- A text is read as a literal between other lexemes, whatever follows it. If the literal cannot
hold the value, the reader comes no further than to the literal. -/
structure Carries (text : String) (before : List Lexeme) (quote : Char) (value : String)
    (after : List Lexeme) : Prop where
  read : OnOneLine value → ∀ rest,
    Reads (text.toList ++ rest) (before ++ .string (some value) quote :: after) rest
  refused : ¬ OnOneLine value → ∀ rest, ∃ behind,
    Reads (text.toList ++ rest) (before ++ [.bad]) ((quoted quote value).toList ++ behind)

/-- A literal is carried by the text around it if both sides are read apart from it. -/
theorem carries_quoted {q : Char} (hq : IsQuote q) {front gap back : String}
    {before after : List Lexeme} (hgap : gap = "" ∨ gap = " ")
    (hfront : ∀ cs, Reads (front.toList ++ (gap.toList ++ q :: cs)) before (gap.toList ++ q :: cs))
    (hback : ∀ rest, Reads (back.toList ++ rest) after rest) (value : String) :
    Carries (front ++ gap ++ quoted q value ++ back) before q value after := by
  have hstart : ∀ rest, Reads ((front ++ gap ++ quoted q value ++ back).toList ++ rest) before
      (gap.toList ++ ((quoted q value).toList ++ (back.toList ++ rest))) := by
    intro rest
    have hquote := hfront (escapeQuote q value.toList ++ q :: (back.toList ++ rest))
    simpa [quoted] using hquote
  constructor
  · intro hline rest
    refine (hstart rest).append (.next (fun newline pos => ?_) (hback rest))
    obtain ⟨pos', hpos⟩ := next_gap_quoted hq newline pos hgap value (back.toList ++ rest)
    rw [hpos, next_quoted hq, if_pos hline]
    exact ⟨rfl, rfl⟩
  · intro hline rest
    refine ⟨back.toList ++ rest, (hstart rest).append (.next (fun newline pos => ?_) .done)⟩
    obtain ⟨pos', hpos⟩ := next_gap_quoted hq newline pos hgap value (back.toList ++ rest)
    rw [hpos, next_quoted hq, if_neg hline]
    exact ⟨rfl, rfl⟩

end Script

namespace Component

open Script
open Source (Span)

/-- What stands before the literal in the import. -/
def importLexemes (c : Identity) : List Lexeme :=
  [.word "import" false, .mark "\x7b", .word (if c.isClass then wrapperName else hookName) false,
    .mark "\x7d", .word "from" false]

/-- What stands before the literal in the hook. -/
def hookLexemes : List Lexeme :=
  [.word "const" false, .mark "\x7b", .word lookupName false, .mark "\x7d", .mark "=",
    .word hookName false, .mark "("]

section

variable {t : Target} (ht : IsQuote t.quote)

include ht

theorem carries_importStatement (options : Options) (c : Identity) :
    Carries (importStatement options c t) (importLexemes c) t.quote options.i18nModule
      [.mark ";"] := by
  have hfront : ∀ cs, Reads (("import \x7b " ++ (if c.isClass then wrapperName else hookName)
      ++ " \x7d from").toList ++ (" ".toList ++ t.quote :: cs)) (importLexemes c)
      (" ".toList ++ t.quote :: cs) := by
    intro cs
    unfold importLexemes
    cases c.isClass <;>
    · repeat refine .next (fun _ _ => ⟨rfl, rfl⟩) ?_
      exact .done
  have hback : ∀ rest, Reads (";".toList ++ rest) [.mark ";"] rest := fun rest =>
    .next (fun _ _ => ⟨rfl, rfl⟩) .done
  have hcarries := carries_quoted ht (Or.inr rfl) hfront hback options.i18nModule
  have htext : importStatement options c t = "import \x7b " ++ (if c.isClass then wrapperName
      else hookName) ++ " \x7d from" ++ " " ++ quoted t.quote options.i18nModule ++ ";" := by
    apply String.toList_inj.mp
    simp [importStatement]
  rw [htext]
  exact hcarries

theorem carries_hookStatement :
    Carries (hookStatement t) hookLexemes t.quote t.namespaceName [.mark ")", .mark ";"] := by
  have hfront : ∀ cs, Reads (("const \x7b " ++ lookupName ++ " \x7d = " ++ hookName
      ++ "(").toList ++ ("".toList ++ t.quote :: cs)) hookLexemes ("".toList ++ t.quote :: cs) := by
    intro cs
    repeat refine .next (fun _ _ => ⟨rfl, rfl⟩) ?_
    exact .done
  have hback : ∀ rest, Reads (");".toList ++ rest) [.mark ")", .mark ";"] rest := fun rest =>
    .next (fun _ _ => ⟨rfl, rfl⟩) (.next (fun _ _ => ⟨rfl, rfl⟩) .done)
  have hcarries := carries_quoted ht (Or.inl rfl) hfront hback t.namespaceName
  rwa [String.append_empty] at hcarries

theorem carries_wrapper :
    Carries (wrapperName ++ "(" ++ quoted t.quote t.namespaceName ++ ")(")
      [.word wrapperName false, .mark "("] t.quote t.namespaceName [.mark ")", .mark "("] := by
  have hfront : ∀ cs, Reads ((wrapperName ++ "(").toList ++ ("".toList ++ t.quote :: cs))
      [.word wrapperName false, .mark "("] ("".toList ++ t.quote :: cs) := fun cs =>
    .next (fun _ _ => ⟨rfl, rfl⟩) (.next (fun _ _ => ⟨rfl, rfl⟩) .done)
  have hback : ∀ rest, Reads (")(".toList ++ rest) [.mark ")", .mark "("] rest := fun rest =>
    .next (fun _ _ => ⟨rfl, rfl⟩) (.next (fun _ _ => ⟨rfl, rfl⟩) .done)
  have hcarries := carries_quoted ht (Or.inl rfl) hfront hback t.namespaceName
  rwa [String.append_empty] at hcarries

/-- A quoted value is read back, or the reader stops at it, wherever it stands. In the import, the
hook and the wrapper it is the one literal between words and marks that are read as written. -/
theorem literals_read_back (options : Options) (c : Identity) (span : Span) :
    (∀ value rest newline pos, Scan.next newline pos ((quoted t.quote value).toList ++ rest) =
      if OnOneLine value then
        ⟨⟨.string (some value) t.quote,
          ⟨pos, pos + Text.byteLength (quoted t.quote value).toList⟩, newline⟩,
          (quoted t.quote value).toList ++ rest, rest⟩
      else
        ⟨⟨.bad, ⟨pos, pos⟩, newline⟩, (quoted t.quote value).toList ++ rest,
          (quoted t.quote value).toList ++ rest⟩) ∧
    Carries (importStatement options c t) (importLexemes c) t.quote options.i18nModule
      [.mark ";"] ∧
    Carries (hookStatement t) hookLexemes t.quote t.namespaceName [.mark ")", .mark ";"] ∧
    ∃ opening closing, wrapEdits t span = [opening, closing] ∧
      Carries opening.text [.word wrapperName false, .mark "("] t.quote t.namespaceName
        [.mark ")", .mark "("] := by
  refine ⟨fun value rest newline pos => next_quoted ht newline pos value rest,
    carries_importStatement ht options c, carries_hookStatement ht, _, _, rfl, ?_⟩
  exact carries_wrapper ht

end

/-- A namespace that holds the quote and ends with a backslash, and a module name over two lines. -/
theorem bobs_literals_read_back :
    IsQuote '\'' ∧ OnOneLine "Bob's\\" ∧ ¬ OnOneLine "react\ni18n" ∧
    Reads ((hookStatement ⟨"Bob's\\", '\''⟩).toList ++ "return".toList)
      (hookLexemes ++ [.string (some "Bob's\\") '\'', .mark ")", .mark ";"]) "return".toList ∧
    ∃ behind, Reads ((importStatement { i18nModule := "react\ni18n" } {} ⟨"", '\''⟩).toList ++ [])
      (importLexemes {} ++ [.bad]) ((quoted '\'' "react\ni18n").toList ++ behind) := by
  have hquote : IsQuote '\'' := Or.inl rfl
  obtain ⟨-, -, hhook, -⟩ :=
    literals_read_back (t := ⟨"Bob's\\", '\''⟩) hquote {} {} ⟨0, 0⟩
  obtain ⟨-, himport, -⟩ :=
    literals_read_back (t := ⟨"", '\''⟩) hquote { i18nModule := "react\ni18n" } {} ⟨0, 0⟩
  exact ⟨hquote, by decide, by decide, hhook.read (by decide) _, himport.refused (by decide) []⟩

end Component

end Phrasebook

import Phrasebook.Component.Accessor
import Phrasebook.Script.StringLiteral

/-!
Quoting and reading string literals.

A text without line ends is read back from its quoted form, whatever stands behind it. A text with a
line end has no quoted form that can be read.
-/

namespace Phrasebook.Script

open Component (escapeQuote quoted)

def IsQuote (q : Char) : Prop := q = '\'' ∨ q = '"'

theorem IsQuote.utf8Size {q : Char} (hq : IsQuote q) : q.utf8Size = 1 := by
  rcases hq with rfl | rfl <;> decide

/-- A quote or a backslash behind a backslash stands for itself. -/
theorem escapeStep_self {q c : Char} (hq : IsQuote q) (hc : c = q ∨ c = '\\') :
    LiteralRule.escapeStep c = some (.emit [c.toNat] .plain) := by
  rcases hc with rfl | rfl
  · rcases hq with rfl | rfl <;> decide
  · decide

theorem plainStep_other {q c : Char} (hquote : c ≠ q) (hslash : c ≠ '\\') :
    (⟨some q, false⟩ : LiteralRule).plainStep c =
      if c = '\n' ∨ c = '\r' then none else some (.emit [c.toNat] .plain) := by
  simp [LiteralRule.plainStep, Ne.symm hquote, hslash]

/-- Reading goes through the escaped form of a text character by character, and stops at the first
line end. -/
theorem scan_escapeQuote {q : Char} (hq : IsQuote q) (cs rest : List Char) :
    (⟨some q, false⟩ : LiteralRule).scan .plain (escapeQuote q cs ++ q :: rest) =
      if '\n' ∈ cs ∨ '\r' ∈ cs then none
      else some ⟨cs.map Char.toNat, Text.byteLength (escapeQuote q cs) + 1, rest⟩ := by
  have hslash : q ≠ '\\' := by rcases hq with rfl | rfl <;> decide
  have hline : q ≠ '\n' ∧ q ≠ '\r' := by rcases hq with rfl | rfl <;> decide
  induction cs with
  | nil =>
      simp [escapeQuote, LiteralRule.scan, LiteralRule.step, LiteralRule.plainStep, hq.utf8Size,
        Text.byteLength]
  | cons c cs ih =>
      by_cases hc : c = q ∨ c = '\\'
      · have hcLine : '\n' ≠ c ∧ '\r' ≠ c := by
          rcases hc with rfl | rfl
          · exact ⟨hline.1.symm, hline.2.symm⟩
          · decide
        have hopen : (⟨some q, false⟩ : LiteralRule).step .plain '\\' =
            some (.emit [] .backslash) := by
          simp [LiteralRule.step, LiteralRule.plainStep, hslash]
        have hescaped : (⟨some q, false⟩ : LiteralRule).step .backslash c =
            some (.emit [c.toNat] .plain) := escapeStep_self hq hc
        have hcond : (c = q || c = '\\') = true := by simpa using hc
        simp only [escapeQuote, hcond, if_true, List.cons_append, LiteralRule.scan, hopen, hescaped,
          ih, List.mem_cons, hcLine.1, hcLine.2, false_or]
        split <;> simp [Text.byteLength, show '\\'.utf8Size = 1 from rfl, Nat.add_assoc]
      · obtain ⟨hquote, hback⟩ := not_or.mp hc
        have hcond : (c = q || c = '\\') = false := by simpa using ⟨hquote, hback⟩
        have hstep : (⟨some q, false⟩ : LiteralRule).step .plain c =
            if c = '\n' ∨ c = '\r' then none else some (.emit [c.toNat] .plain) :=
          plainStep_other hquote hback
        simp only [escapeQuote, hcond, Bool.false_eq_true, if_false, List.cons_append,
          LiteralRule.scan, hstep, List.mem_cons]
        by_cases hn : c = '\n'
        · simp [hn]
        by_cases hr : c = '\r'
        · simp [hr]
        rw [if_neg (by simp [hn, hr])]
        simp only [ih, Ne.symm hn, Ne.symm hr, false_or]
        split <;> simp [Text.byteLength, Nat.add_assoc]

/-- No character is half of a surrogate pair. -/
theorem textOfCodePoints_map_toNat (cs : List Char) :
    textOfCodePoints (cs.map Char.toNat) = some cs := by
  induction cs with
  | nil => rfl
  | cons c cs ih =>
      have hvalid : c.toNat < 0xD800 ∨ (0xDFFF < c.toNat ∧ c.toNat < 0x110000) := c.valid
      have hhigh : isHighSurrogate c.toNat = false := by
        simp only [isHighSurrogate, Bool.and_eq_false_iff, decide_eq_false_iff_not]
        omega
      have hlow : isLowSurrogate c.toNat = false := by
        simp only [isLowSurrogate, Bool.and_eq_false_iff, decide_eq_false_iff_not]
        omega
      rw [List.map_cons, textOfCodePoints.eq_def]
      simp [hhigh, hlow, ih, Char.ofNat_toNat]

/-- A quoted text is read back together with nothing of what follows, if it fits on one line, and
cannot be read otherwise. -/
theorem readString_quoted {q : Char} (hq : IsQuote q) (value : String) (rest : List Char) :
    readString ((quoted q value).toList ++ rest) =
      if '\n' ∈ value.toList ∨ '\r' ∈ value.toList then none
      else some ⟨some value, Text.byteLength (quoted q value).toList, rest⟩ := by
  have hcond : (q = '\'' || q = '"') = true := by
    rcases hq with rfl | rfl <;> rfl
  have hlist : (quoted q value).toList ++ rest =
      q :: (escapeQuote q value.toList ++ q :: rest) := by
    simp [quoted]
  rw [hlist, readString, if_pos hcond, scan_escapeQuote hq]
  split
  · rfl
  · simp only [Option.map_some, textOfCodePoints_map_toNat, String.ofList_toList]
    have hbytes : Text.byteLength (quoted q value).toList =
        1 + (Text.byteLength (escapeQuote q value.toList) + 1) := by
      simp [quoted, Text.byteLength, hq.utf8Size, Nat.add_comm]
    rw [hbytes]

end Phrasebook.Script

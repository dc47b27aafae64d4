import Phrasebook.Json.Printer
import Phrasebook.Json.Reader

/-!
Strings that are written and read again.

A character is written as itself, behind a backslash, or by its number. In each case reading takes
up the character and goes on behind it.
-/

namespace Phrasebook.Json

theorem readText_plain {c : Char} (hquote : c ≠ '"') (hslash : c ≠ '\\') (hc : 0x20 ≤ c.toNat)
    (rest : List Char) :
    readText true (c :: rest) = (readText true rest).map fun p => (c :: p.1, p.2) := by
  rw [readText, if_neg hquote, if_neg hslash, if_neg (by omega)]
  cases readText true rest <;> rfl

theorem readText_escaped {c : Char} {n : Nat} {cs rest : List Char}
    (h : readEscape true (cs ++ rest) = .ok (c, n)) (hn : n = cs.length) :
    readText true ('\\' :: cs ++ rest) = (readText true rest).map fun p => (c :: p.1, p.2) := by
  have hdrop : (cs ++ rest).drop n = rest := by rw [hn, List.drop_left]
  rw [List.cons_append, readText, if_neg (by decide), if_pos rfl, h]
  simp only [hdrop]
  cases readText true rest <;> rfl

theorem filterMap_hexPair : ∀ n < 0x20, (hexPair n).filterMap hexValue? = [n / 16, n % 16] := by
  decide

theorem readEscape_hexPair {n : Nat} (hn : n < 0x20) (rest : List Char) :
    readEscape true ('u' :: '0' :: '0' :: hexPair n ++ rest) = .ok (Char.ofNat n, 5) := by
  have hquad : hexQuad ('0' :: '0' :: hexPair n ++ rest) = .ok n := by
    have htake : ('0' :: '0' :: hexPair n ++ rest).take 4 = '0' :: '0' :: hexPair n := by
      simp [hexPair]
    have hzero : hexValue? '0' = some 0 := by decide
    rw [hexQuad, htake]
    simp only [List.filterMap_cons, hzero, filterMap_hexPair n hn]
    congr 1
    omega
  have hlow : isLowSurrogate n = false := by simp [isLowSurrogate]; omega
  have hhigh : isHighSurrogate n = false := by simp [isHighSurrogate]; omega
  have hpoint : readCodePoint true ('0' :: '0' :: hexPair n ++ rest) = .ok (Char.ofNat n, 4) := by
    rw [readCodePoint, hquad]
    simp [hlow, hhigh]
  have hnone : escapedChar? 'u' = none := by decide
  rw [List.cons_append, readEscape, hnone]
  simp only [if_true, hpoint]
  rfl

theorem readText_escapeChar (c : Char) (rest : List Char) :
    readText true (escapeChar c ++ rest) = (readText true rest).map fun p => (c :: p.1, p.2) := by
  unfold escapeChar
  split
  · rename_i hc
    subst hc
    exact readText_escaped rfl rfl
  split
  · rename_i hc
    subst hc
    exact readText_escaped rfl rfl
  split
  · rename_i hquote hslash hc
    exact readText_plain hquote hslash hc rest
  rename_i hlow
  have hofNat : Char.ofNat c.toNat = c := Char.ofNat_toNat c
  split
  · rename_i hc
    rw [hc] at hofNat
    subst hofNat
    exact readText_escaped rfl rfl
  split
  · rename_i hc
    rw [hc] at hofNat
    subst hofNat
    exact readText_escaped rfl rfl
  split
  · rename_i hc
    subst hc
    exact readText_escaped rfl rfl
  split
  · rename_i hc
    subst hc
    exact readText_escaped rfl rfl
  split
  · rename_i hc
    subst hc
    exact readText_escaped rfl rfl
  · have hescape := readEscape_hexPair (Nat.not_le.mp hlow) rest
    rw [hofNat] at hescape
    exact readText_escaped hescape (by simp [hexPair])

/-- A string is read as it was written, whatever follows. -/
theorem readText_flatMap_escapeChar (cs rest : List Char) :
    readText true (cs.flatMap escapeChar ++ '"' :: rest) = .ok (cs, rest) := by
  induction cs with
  | nil => rw [List.flatMap_nil, List.nil_append, readText, if_pos rfl]
  | cons c cs ih =>
      rw [List.flatMap_cons, List.append_assoc, readText_escapeChar, ih]
      rfl

end Phrasebook.Json

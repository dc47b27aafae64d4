import Phrasebook.Json.Printer
import Phrasebook.Json.Reader
import Phrasebook.Proofs.Result

/-!
Numbers that are written and read again.

What is read of a number does not depend on what follows it, unless that goes on with the number.
Integers of 64 bits are read as they were written.
-/

namespace Phrasebook.Json

/-- Whether what follows a number does not belong to it. -/
def EndsNumber (rest : List Char) : Prop :=
  ∀ c, rest.head? = some c → c.isDigit = false ∧ c ≠ '.' ∧ c ≠ 'e' ∧ c ≠ 'E'

def readSigned : List Char → Read Number
  | '-' :: rest => readNumber true rest
  | cs => readNumber false cs

/-- Whether the text of a number is read as a number, up to its end. -/
def Number.ReadsAs (n m : Number) : Prop := readSigned (printNumber n) = .ok (m, [])

theorem spanDigits_append {rest : List Char} (h : EndsNumber rest) (cs : List Char) :
    spanDigits (cs ++ rest) = ((spanDigits cs).1, (spanDigits cs).2 ++ rest) := by
  have hrest : rest.takeWhile Char.isDigit = [] ∧ rest.dropWhile Char.isDigit = rest := by
    cases rest with
    | nil => exact ⟨rfl, rfl⟩
    | cons c rest =>
        have hc := (h c rfl).1
        simp [hc]
  induction cs with
  | nil => simp [spanDigits, hrest]
  | cons c cs ih =>
      unfold spanDigits at ih ⊢
      obtain ⟨ih₁, ih₂⟩ := Prod.mk.inj ih
      cases hc : c.isDigit <;> simp [hc, ih₁, ih₂]

theorem readWhole_append {rest : List Char} (h : EndsNumber rest) {cs ds behind : List Char}
    (hread : readWhole cs = .ok (ds, behind)) :
    readWhole (cs ++ rest) = .ok (ds, behind ++ rest) := by
  cases cs with
  | nil => cases hread
  | cons c cs =>
      unfold readWhole at hread ⊢
      simp only [List.cons_append, spanDigits_append h] at hread ⊢
      split at hread
      · rename_i hzero
        rw [if_pos hzero]
        split at hread
        · rename_i hempty
          rw [if_pos hempty]
          cases hread
          rfl
        · cases hread
      · rename_i hzero
        rw [if_neg hzero]
        split at hread
        · rename_i hdigit
          rw [if_pos hdigit]
          cases hread
          rfl
        · cases hread

theorem readDigits_append {rest : List Char} (h : EndsNumber rest) {cs ds behind : List Char}
    (hread : readDigits cs = .ok (ds, behind)) :
    readDigits (cs ++ rest) = .ok (ds, behind ++ rest) := by
  unfold readDigits at hread ⊢
  rw [spanDigits_append h]
  rcases hspan : spanDigits cs with ⟨_ | ⟨d, ds'⟩, behind'⟩
  · rw [hspan] at hread
    cases behind' <;> cases hread
  · rw [hspan] at hread
    cases hread
    rfl

theorem readFraction_append {rest : List Char} (h : EndsNumber rest) {cs ds behind : List Char}
    (hread : readFraction cs = .ok (ds, behind)) :
    readFraction (cs ++ rest) = .ok (ds, behind ++ rest) := by
  unfold readFraction at hread
  split at hread
  · exact readDigits_append h hread
  · rename_i hpoint
    cases hread
    unfold readFraction
    split
    · rename_i more hmore
      cases cs with
      | nil => exact absurd rfl (h '.' (by rw [List.nil_append] at hmore; rw [hmore]; rfl)).2.1
      | cons c cs =>
          obtain ⟨rfl, -⟩ := List.cons.inj hmore
          exact (hpoint cs rfl).elim
    · rfl

theorem exponentSign_append {cs : List Char} (h : cs ≠ []) (rest : List Char) :
    exponentSign (cs ++ rest) = ((exponentSign cs).1, (exponentSign cs).2 ++ rest) := by
  obtain ⟨c, cs, rfl⟩ := List.exists_cons_of_ne_nil h
  unfold exponentSign
  split
  · rename_i heq
    obtain ⟨rfl, rfl⟩ := List.cons.inj heq
    rfl
  · rename_i heq
    obtain ⟨rfl, rfl⟩ := List.cons.inj heq
    rfl
  · rename_i hminus hplus
    split
    · rename_i heq
      obtain ⟨rfl, rfl⟩ := List.cons.inj heq
      exact (hminus _ rfl).elim
    · rename_i heq
      obtain ⟨rfl, rfl⟩ := List.cons.inj heq
      exact (hplus _ rfl).elim
    · rfl

theorem readExponent_of_mark {c : Char} (hc : c = 'e' ∨ c = 'E') (cs : List Char) :
    readExponent (c :: cs) = (readDigits (exponentSign cs).2).map fun p =>
      (some (if (exponentSign cs).1 then -(digitsValue p.1 : Int) else digitsValue p.1), p.2) := by
  have hmark : (decide (c = 'e') || decide (c = 'E')) = true := by simpa using hc
  simp only [readExponent, hmark, if_true]
  cases readDigits (exponentSign cs).2 <;> rfl

theorem readExponent_of_ne {cs : List Char}
    (h : ∀ c, cs.head? = some c → c ≠ 'e' ∧ c ≠ 'E') : readExponent cs = .ok (none, cs) := by
  cases cs with
  | nil => rfl
  | cons c cs =>
      have hmark : (decide (c = 'e') || decide (c = 'E')) = false := by simpa using h c rfl
      simp [readExponent, hmark]

theorem readExponent_append {rest : List Char} (h : EndsNumber rest) {cs behind : List Char}
    {exponent? : Option Int} (hread : readExponent cs = .ok (exponent?, behind)) :
    readExponent (cs ++ rest) = .ok (exponent?, behind ++ rest) := by
  by_cases hmark : ∀ c, cs.head? = some c → c ≠ 'e' ∧ c ≠ 'E'
  · rw [readExponent_of_ne hmark] at hread
    cases hread
    refine readExponent_of_ne fun c hc => ?_
    cases cs with
    | nil => exact (h c hc).2.2
    | cons d cs => exact hmark c hc
  · obtain ⟨c, cs, rfl, hc⟩ : ∃ c cs', cs = c :: cs' ∧ (c = 'e' ∨ c = 'E') := by
      cases cs with
      | nil => simp at hmark
      | cons c cs => exact ⟨c, cs, rfl, by simpa [Classical.or_iff_not_imp_left] using hmark⟩
    have hne : cs ≠ [] := by
      rintro rfl
      rcases hc with rfl | rfl <;> cases hread
    rw [readExponent_of_mark hc] at hread
    obtain ⟨⟨ds, behind'⟩, hdigits, hresult⟩ := exists_of_map_eq_ok hread
    cases hresult
    rw [List.cons_append, readExponent_of_mark hc, exponentSign_append hne,
      readDigits_append h hdigits]
    rfl

/-- A number is read in the same way when something follows that does not go on with it. -/
theorem readNumber_append {negative : Bool} {rest : List Char} (h : EndsNumber rest)
    {cs behind : List Char} {n : Number} (hread : readNumber negative cs = .ok (n, behind)) :
    readNumber negative (cs ++ rest) = .ok (n, behind ++ rest) := by
  unfold readNumber at hread
  split at hread
  · cases hread
  rename_i whole behindWhole hwhole
  split at hread
  · cases hread
  rename_i fraction behindFraction hfraction
  split at hread
  · cases hread
  rename_i exponent? behindExponent hexponent
  obtain ⟨number, hnumber, hresult⟩ := exists_of_map_eq_ok hread
  cases hresult
  unfold readNumber
  simp only [readWhole_append h hwhole, readFraction_append h hfraction,
    readExponent_append h hexponent]
  rw [hnumber]
  rfl

theorem digitsValue_toDigits (n : Nat) : digitsValue (Nat.toDigits 10 n) = n := by
  have hvalue := Nat.ofDigitChars_toDigits (b := 10) (n := n) (by omega) (by omega)
  rw [Nat.ofDigitChars_eq_foldl] at hvalue
  simpa only [digitsValue, Nat.mul_comm] using hvalue

/-- Only the digits of zero start with a zero. -/
theorem exists_toDigits (n : Nat) :
    ∃ c ds, Nat.toDigits 10 n = c :: ds ∧ (c = '0' → n = 0 ∧ ds = []) := by
  induction n using Nat.strongRecOn with
  | ind n ih =>
      by_cases hn : n < 10
      · refine ⟨n.digitChar, [], Nat.toDigits_of_lt_base hn, fun hzero => ⟨?_, rfl⟩⟩
        exact Nat.digitChar_eq_zero.mp hzero
      · obtain ⟨c, ds, hdigits, hzero⟩ := ih (n / 10) (by omega)
        refine ⟨c, ds ++ [(n % 10).digitChar], ?_, fun hc => ?_⟩
        · rw [Nat.toDigits_of_base_le (by omega) (by omega), hdigits, List.cons_append]
        · have := (hzero hc).1
          omega

theorem readNumber_toDigits (negative : Bool) (n : Nat) :
    readNumber negative (Nat.toDigits 10 n) =
      (wholeNumber negative (Nat.toDigits 10 n)).map fun m => (m, []) := by
  obtain ⟨c, ds, hdigits, hzero⟩ := exists_toDigits n
  have hall : ∀ d ∈ c :: ds, d.isDigit = true := fun d hd =>
    Nat.isDigit_of_mem_toDigits (by omega) (by omega) (hdigits ▸ hd)
  have hspan : spanDigits ds = (ds, []) := by
    have htail : ∀ d ∈ ds, d.isDigit = true := fun d hd => hall d (List.mem_cons_of_mem _ hd)
    have htake := @List.takeWhile_append_of_pos _ Char.isDigit ds [] htail
    have hdrop := @List.dropWhile_append_of_pos _ Char.isDigit ds [] htail
    rw [List.append_nil] at htake hdrop
    simp [spanDigits, htake, hdrop]
  have hwhole : readWhole (c :: ds) = .ok (c :: ds, []) := by
    by_cases hc : c = '0'
    · obtain ⟨-, rfl⟩ := hzero hc
      simp [readWhole, hc, spanDigits]
    · simp [readWhole, hc, hspan, hall c List.mem_cons_self]
  rw [hdigits]
  simp [readNumber, hwhole, readFraction, readExponent]

/-- Integers of 64 bits, with or without a sign, are read as they were written. -/
theorem readsAs_integer {n : Int} (hlow : -(signBit : Int) ≤ n) (hhigh : n < 2 * signBit) :
    (Number.integer n).ReadsAs (.integer n) := by
  cases n with
  | ofNat n =>
      obtain ⟨c, ds, hdigits, -⟩ := exists_toDigits n
      have hsign : c ≠ '-' := by
        rintro rfl
        exact absurd (Nat.isDigit_of_mem_toDigits (b := 10) (n := n) (by omega) (by omega)
          (hdigits ▸ List.mem_cons_self)) (by decide)
      have hread : readSigned (Nat.toDigits 10 n) = readNumber false (Nat.toDigits 10 n) := by
        rw [hdigits]
        unfold readSigned
        split
        · rename_i heq
          exact absurd (List.cons.inj heq).1 hsign
        · rfl
      have hfits : n < 2 * signBit := by
        have hhigh' : (n : Int) < 2 * signBit := hhigh
        omega
      rw [Number.ReadsAs, printNumber, printInteger, hread, readNumber_toDigits, wholeNumber]
      simp [digitsValue_toDigits, hfits, Except.map]
  | negSucc n =>
      have hfits : n + 1 ≤ signBit := by omega
      rw [Number.ReadsAs, printNumber, printInteger]
      change readNumber true (Nat.toDigits 10 (n + 1)) = _
      rw [readNumber_toDigits, wholeNumber]
      simp [digitsValue_toDigits, hfits, Except.map, Int.negSucc_eq]

end Phrasebook.Json

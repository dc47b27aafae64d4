import Phrasebook.Path.Basic

/-!
The order of paths is transitive, and any two paths can be compared. It goes by the first part in
which two paths differ.
-/

namespace Phrasebook.Path

theorem Part.le_total (a b : Part) : (a.le b || b.le a) = true := by
  cases a <;> cases b <;> simp [Part.le, String.le_total]

theorem Part.le_trans {a b c : Part} (hab : a.le b = true) (hbc : b.le c = true) :
    a.le c = true := by
  cases a <;> cases b <;> cases c <;> simp_all [Part.le]
  exact String.le_trans hab hbc

theorem Part.le_antisymm {a b : Part} (hab : a.le b = true) (hba : b.le a = true) : a = b := by
  cases a <;> cases b <;> simp_all [Part.le]
  exact String.le_antisymm hab hba

theorem partsLe_total (as bs : List Part) : (partsLe as bs || partsLe bs as) = true := by
  induction as generalizing bs with
  | nil => rfl
  | cons a as ih =>
      cases bs with
      | nil => rfl
      | cons b bs =>
          by_cases hab : a = b
          · simpa [partsLe, hab] using ih bs
          · simpa [partsLe, hab, Ne.symm hab] using a.le_total b

theorem partsLe_trans {as bs cs : List Part} (hab : partsLe as bs = true)
    (hbc : partsLe bs cs = true) : partsLe as cs = true := by
  induction as generalizing bs cs with
  | nil => rfl
  | cons a as ih =>
      rcases bs with _ | ⟨b, bs⟩
      · cases hab
      rcases cs with _ | ⟨c, cs⟩
      · cases hbc
      rw [partsLe] at hab hbc ⊢
      split at hab
      · rename_i heq
        subst heq
        split at hbc
        · rename_i heq
          rw [if_pos heq]
          exact ih hab hbc
        · rename_i hne
          rw [if_neg hne]
          exact hbc
      · rename_i hne
        split at hbc
        · rename_i heq
          subst heq
          rw [if_neg hne]
          exact hab
        · have hac : a ≠ c := by
            rintro rfl
            exact hne (Part.le_antisymm hab hbc)
          rw [if_neg hac]
          exact Part.le_trans hab hbc

theorem partsLe_antisymm {as bs : List Part} (hab : partsLe as bs = true)
    (hba : partsLe bs as = true) : as = bs := by
  induction as generalizing bs with
  | nil =>
      cases bs with
      | nil => rfl
      | cons b bs => cases hba
  | cons a as ih =>
      cases bs with
      | nil => cases hab
      | cons b bs =>
          by_cases heq : a = b
          · subst heq
            rw [partsLe, if_pos rfl] at hab hba
            rw [ih hab hba]
          · rw [partsLe, if_neg heq] at hab
            rw [partsLe, if_neg (Ne.symm heq)] at hba
            exact absurd (Part.le_antisymm hab hba) heq

def Part.Before (a b : Part) : Prop := a.le b = true ∧ a ≠ b

/-- A path comes before another if its parts do, compared one by one. -/
def Before (a b : String) : Prop := List.Lex Part.Before (parts a) (parts b)

theorem lex_of_partsLe {as bs : List Part} (h : partsLe as bs = true) (hne : as ≠ bs) :
    List.Lex Part.Before as bs := by
  induction as generalizing bs with
  | nil =>
      cases bs with
      | nil => exact absurd rfl hne
      | cons b bs => exact .nil
  | cons a as ih =>
      cases bs with
      | nil => cases h
      | cons b bs =>
          rw [partsLe] at h
          split at h
          · rename_i heq
            subst heq
            exact .cons (ih h fun e => hne (congrArg _ e))
          · rename_i hdiffer
            exact .rel ⟨h, hdiffer⟩

theorem le_total (a b : String) : (le a b || le b a) = true := partsLe_total _ _

theorem le_trans (a b c : String) (hab : le a b = true) (hbc : le b c = true) : le a c = true :=
  partsLe_trans hab hbc

theorem pairwise_mergeSort (paths : List String) :
    (paths.mergeSort le).Pairwise fun a b => le a b = true :=
  List.pairwise_mergeSort le_trans le_total paths

end Phrasebook.Path

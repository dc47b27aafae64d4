import Phrasebook.Component.Migration

/-!
What a migrated file tells about the migration that made it.
-/

namespace Phrasebook.Component

open Script
open Source (Edit)

/-- The edits of a migration other than the import: lookups in place of texts, and what makes the
lookup function known. -/
def rewriteEdits (options : Options) (source : List Char) (t : Target) (m : Module) : List Edit :=
  (literals options m).map (·.edit (classify options m)) ++
    (accessorEdits? source (classify options m) t m).getD []

theorem access_snd (options : Options) (source : List Char) (c : Identity) (t : Target)
    (m : Module) :
    (access options source c t m true).2 =
      (accessorEdits? source c t m).getD [] ++ [importEdit options c t m] := by
  unfold access
  cases accessorEdits? source c t m <;> rfl

/-- A migrated file comes from a module that is eligible and has text. Its code is the source with
all edits made, and can be read. -/
theorem exists_of_migrateEligible {read : String → Option Module} {options : Options}
    {namespaceName source : String} {quote : Char} {m : Module} {file : Migrated}
    (h : migrateEligible read options namespaceName quote source m = .ok (.migrated file)) :
    literals options m ≠ [] ∧
      Source.applyEdits source
          (rewriteEdits options source.toList ⟨namespaceName, quote⟩ m ++
            [importEdit options (classify options m) ⟨namespaceName, quote⟩ m]) =
        .ok file.code ∧
      (∃ result, read file.code = some result) ∧
      file.component = classify options m ∧
      file.entries = (literals options m).map (·.entry (classify options m)) := by
  unfold migrateEligible at h
  simp only [List.isEmpty_iff] at h
  split at h
  · cases h
  rename_i hfound
  rw [rewriteEdits, List.append_assoc, ← access_snd]
  split at h
  · cases h
  rename_i code hcode
  split at h
  · cases h
  rename_i hread
  cases h
  exact ⟨hfound, hcode, Option.ne_none_iff_exists'.mp (by simpa using hread), rfl, rfl⟩

theorem exists_of_migrateWith {read : String → Option Module} {options : Options}
    {namespaceName source : String} {file : Migrated}
    (h : migrateWith read options namespaceName source = .ok (.migrated file)) :
    ∃ m quote, read source = some m ∧ eligibility options m = .eligible quote ∧
      migrateEligible read options namespaceName quote source m = .ok (.migrated file) := by
  unfold migrateWith at h
  split at h
  · cases h
  rename_i m hm
  split at h
  · cases h
  · cases h
  · rename_i quote hquote
    exact ⟨m, quote, hm, hquote, h⟩

/-- An eligible module with text is migrated, if its edits can be made and give a text that can be
read. -/
theorem migrateWith_of_applyEdits {read : String → Option Module} {options : Options}
    {namespaceName source code : String} {quote : Char} {m result : Module}
    (hm : read source = some m) (heligible : eligibility options m = .eligible quote)
    (hfound : literals options m ≠ [])
    (hcode : Source.applyEdits source
        (rewriteEdits options source.toList ⟨namespaceName, quote⟩ m ++
          [importEdit options (classify options m) ⟨namespaceName, quote⟩ m]) = .ok code)
    (hresult : read code = some result) :
    ∃ file, migrateWith read options namespaceName source = .ok (.migrated file) ∧
      file.code = code ∧
      file.entries = (literals options m).map (·.entry (classify options m)) := by
  rw [rewriteEdits, List.append_assoc, ← access_snd] at hcode
  simp only [migrateWith, hm, heligible, migrateEligible, List.isEmpty_iff, if_neg hfound, hcode,
    hresult, Option.isNone_some, Bool.false_eq_true, if_false]
  exact ⟨_, rfl, rfl, rfl⟩

end Phrasebook.Component

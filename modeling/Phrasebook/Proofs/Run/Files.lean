import Phrasebook.Proofs.Catalog.Basic
import Phrasebook.Proofs.Disk.Write
import Phrasebook.Run.Migrate

/-!
What a run does to the files of one namespace.

After every file, each file so far is settled: it holds the code that its own text was migrated to,
or what it held before. The texts that were taken up are those of the files that were written. The
report tells which files could not be written, since no other failure has the words of that one.
-/

namespace Phrasebook

open Disk (Location)

/-- A file whose code could not be written. -/
def FileReport.Unwritten (f : FileReport) : Prop :=
  ∃ cause : WriteError, f.status = .failed cause.message

theorem getElem?_toList_append {front : String} {k : Nat} {c : Char}
    (h : front.toList[k]? = some c) (back : String) : (front ++ back).toList[k]? = some c := by
  obtain ⟨hk, -⟩ := List.getElem?_eq_some_iff.mp h
  rw [String.toList_append, List.getElem?_append_left hk, h]

theorem WriteError.getElem?_message (cause : WriteError) :
    ∃ c ∈ ['c', 'w'], cause.message.toList[10]? = some c := by
  cases cause with
  | directory path access =>
      exact ⟨'c', by decide, getElem?_toList_append (getElem?_toList_append
        (getElem?_toList_append (by decide +kernel) _) _) _⟩
  | target path access =>
      exact ⟨'w', by decide, getElem?_toList_append (getElem?_toList_append
        (getElem?_toList_append (by decide +kernel) _) _) _⟩

theorem FileError.getElem?_message (failure : FileError) (path : String)
    (h : ∀ cause, failure ≠ .write cause) :
    ∃ c ∈ ['r', 'p', 's', 'a'], (failure.message path).toList[10]? = some c := by
  cases failure with
  | unreadable access =>
      exact ⟨'r', by decide, getElem?_toList_append (getElem?_toList_append
        (getElem?_toList_append (by decide +kernel) _) _) _⟩
  | migration error =>
      cases error with
      | unreadable =>
          exact ⟨'p', by decide, getElem?_toList_append
            (getElem?_toList_append (by decide +kernel) _) _⟩
      | edits error =>
          exact ⟨'r', by decide, getElem?_toList_append (getElem?_toList_append
            (getElem?_toList_append (by decide +kernel) _) _) _⟩
      | unreadableResult =>
          exact ⟨'s', by decide, getElem?_toList_append (getElem?_toList_append
            (getElem?_toList_append (by decide +kernel) _) _) _⟩
  | blocked namespaceName load =>
      exact ⟨'a', by decide, getElem?_toList_append (getElem?_toList_append
        (getElem?_toList_append (by decide +kernel) _) _) _⟩
  | write cause => exact absurd rfl (h cause)

/-- Nothing but a failed write is reported in the words of one: the verbs differ. -/
theorem FileError.eq_write_of_message_eq {path : String} {failure : FileError} {cause : WriteError}
    (h : failure.message path = cause.message) : ∃ cause', failure = .write cause' := by
  apply Classical.byContradiction
  intro hother
  obtain ⟨c, hc, hverb⟩ := failure.getElem?_message path (not_exists.mp hother)
  obtain ⟨c', hc', hverb'⟩ := cause.getElem?_message
  rw [h, hverb'] at hverb
  obtain rfl := Option.some.inj hverb
  rcases List.mem_cons.mp hc' with rfl | hc'
  · exact absurd hc (by decide)
  · obtain rfl := List.mem_singleton.mp hc'
    exact absurd hc (by decide)

namespace Run

/-- What the text of a file is migrated to, if the file holds text that can be migrated. -/
def migration? (e : Engine) (s : Settings) (namespaceName : String) (w : Workspace)
    (path : String) : Option Component.Migrated :=
  match w.contentAt path with
  | some (.text source) =>
      match e.transform s.toOptions path namespaceName source with
      | .ok (.migrated m) => some m
      | _ => none
  | _ => none

/-- A translated file holds its migrated code, and any other file what it held before. -/
def FileSettled (e : Engine) (s : Settings) (namespaceName : String) (before after : Workspace)
    (f : FileReport) : Prop :=
  if f.status.isTranslated then
    ∃ m, migration? e s namespaceName before f.path = some m ∧
      after.contentAt f.path = some (.text m.code)
  else after.contentAt f.path = before.contentAt f.path

/-- The texts that a file gives to the catalogs: those of its migration, if it is translated. -/
def entriesOf (e : Engine) (s : Settings) (namespaceName : String) (w : Workspace)
    (f : FileReport) : List Catalog.Entry :=
  if f.status.isTranslated then
    match migration? e s namespaceName w f.path with
    | some m => m.entries
    | none => []
  else []

def extracted (e : Engine) (s : Settings) (namespaceName : String) (w : Workspace)
    (files : List FileReport) : List Catalog.Entry :=
  files.flatMap (entriesOf e s namespaceName w)

section

variable {e : Engine} {s : Settings} {namespaceName : String} {w w' w'' : Workspace}

theorem migration?_of_outcome {path : String} {m : Component.Migrated}
    (h : outcome e s namespaceName w path = .ok (.migrated m)) :
    migration? e s namespaceName w path = some m := by
  unfold outcome at h
  split at h
  · cases h
  rename_i source hsource
  split at h
  · cases h
  rename_i o ho
  obtain rfl := Except.ok.inj h
  simp only [migration?, Workspace.contentAt_of_readText hsource, ho]

theorem outcome_eq_ok {path source : String} {o : Component.Outcome}
    (hsource : w.readText path = .ok source)
    (ho : e.transform s.toOptions path namespaceName source = .ok o) :
    outcome e s namespaceName w path = .ok o := by
  simp only [outcome, hsource, ho]

theorem outcome_congr {path : String} (h : w'.readText path = w.readText path) :
    outcome e s namespaceName w' path = outcome e s namespaceName w path := by
  rw [outcome, outcome, h]

theorem exists_of_migration? {path : String} {m : Component.Migrated}
    (h : migration? e s namespaceName w path = some m) :
    ∃ source, w.contentAt path = some (.text source) ∧
      e.transform s.toOptions path namespaceName source = .ok (.migrated m) := by
  unfold migration? at h
  split at h
  · rename_i source hsource
    split at h
    · rename_i m' hm
      obtain rfl := Option.some.inj h
      exact ⟨source, hsource, hm⟩
    · cases h
  · cases h

theorem migration?_congr {path : String} (h : w'.contentAt path = w.contentAt path) :
    migration? e s namespaceName w' path = migration? e s namespaceName w path := by
  rw [migration?, migration?, h]

theorem FileSettled.congr_before {f : FileReport} (h : FileSettled e s namespaceName w' w'' f)
    (hsame : w'.contentAt f.path = w.contentAt f.path) :
    FileSettled e s namespaceName w w'' f := by
  unfold FileSettled at h ⊢
  rwa [migration?_congr hsame, hsame] at h

theorem FileSettled.congr_after {f : FileReport} (h : FileSettled e s namespaceName w w' f)
    (hsame : w''.contentAt f.path = w'.contentAt f.path) :
    FileSettled e s namespaceName w w'' f := by
  unfold FileSettled at h ⊢
  rwa [hsame]

theorem extracted_append (files more : List FileReport) :
    extracted e s namespaceName w (files ++ more) =
      extracted e s namespaceName w files ++ extracted e s namespaceName w more := by
  simp [extracted]

theorem extracted_congr {files : List FileReport}
    (h : ∀ f ∈ files, w'.contentAt f.path = w.contentAt f.path) :
    extracted e s namespaceName w' files = extracted e s namespaceName w files := by
  unfold extracted
  rw [List.flatMap_def, List.flatMap_def]
  congr 1
  refine List.map_congr_left fun f hf => ?_
  rw [entriesOf, entriesOf, migration?_congr (h f hf)]

theorem extracted_untranslated {f : FileReport} (h : f.status.isTranslated = false) :
    extracted e s namespaceName w [f] = [] := by
  simp [extracted, entriesOf, h]

theorem extracted_translated {f : FileReport} {m : Component.Migrated}
    (h : f.status.isTranslated = true) (hm : migration? e s namespaceName w f.path = some m) :
    extracted e s namespaceName w [f] = m.entries := by
  simp [extracted, entriesOf, h, hm]

end

theorem eq_write_of_place {e : Engine} {s : Settings} {namespaceName : String}
    {w w' : Workspace} {path code : String} {cause : FileError}
    (h : place e s namespaceName none w path code = (w', some cause)) :
    ∃ cause', cause = .write cause' := by
  by_cases happly : s.apply = true
  · simp only [place, happly, if_true] at h
    obtain ⟨cause', -, rfl⟩ := Option.map_eq_some_iff.mp (congrArg Prod.snd h)
    exact ⟨cause', rfl⟩
  · simp [place, happly] at h

/-- Each file gets its report. If the namespace is not blocked, a file that can be migrated is
translated, unless it cannot be written. -/
theorem advance_files (e : Engine) (s : Settings) (namespaceName : String)
    (blocked : Option Catalog.LoadError) (p : Progress) (path : String)
    (result : Except FileError Component.Outcome) :
    ∃ report : FileReport, report.path = path ∧
      (advance e s namespaceName blocked p (path, result)).files = p.files ++ [report] ∧
      (blocked = none → report.status.isTranslated = needsCatalog result ∨ report.Unwritten) := by
  rcases result with cause | ⟨reason, diagnostics⟩ | m
  · exact ⟨_, rfl, rfl, fun _ => Or.inl rfl⟩
  · exact ⟨_, rfl, rfl, fun _ => Or.inl rfl⟩
  · rcases hplace : place e s namespaceName blocked p.workspace path m.code with ⟨w', _ | cause⟩
    · refine ⟨⟨path, display s.componentsRoot path, .translated m.entries.length, m.diagnostics,
        m.observed⟩, rfl, ?_, fun _ => Or.inl rfl⟩
      simp only [advance, hplace]
    · refine ⟨⟨path, display s.componentsRoot path, .failed (cause.message path), m.diagnostics,
        false⟩, rfl, ?_, ?_⟩
      · simp only [advance, hplace]
      · rintro rfl
        obtain ⟨cause', rfl⟩ := eq_write_of_place hplace
        exact Or.inr ⟨cause', rfl⟩

theorem mem_files_foldl {e : Engine} {s : Settings} {namespaceName : String}
    (blocked : Option Catalog.LoadError) {f : FileReport}
    (outcomes : List (String × Except FileError Component.Outcome)) {p : Progress}
    (hf : f ∈ p.files) :
    f ∈ (outcomes.foldl (advance e s namespaceName blocked) p).files := by
  induction outcomes generalizing p with
  | nil => exact hf
  | cons file rest ih =>
      obtain ⟨path, result⟩ := file
      obtain ⟨report, -, hfiles, -⟩ := advance_files e s namespaceName blocked p path result
      exact ih (hfiles ▸ List.mem_append_left _ hf)

/-- How a run goes on with one file: the file is not translated and no file was changed, or it was
migrated and its code was written. -/
theorem advance_cases {e : Engine} {s : Settings} (hwrite : e.write.MayFail)
    (happly : s.apply = true) (namespaceName : String) (blocked : Option Catalog.LoadError)
    {p : Progress} (hp : p.workspace.WellFormed) (path : String)
    (result : Except FileError Component.Outcome) :
    ∃ report w', report.path = path ∧
      ((report.status.isTranslated = false ∧ p.workspace.Changes [] w' ∧
          advance e s namespaceName blocked p (path, result) =
            { p with workspace := w', files := p.files ++ [report] }) ∨
        ∃ m, result = .ok (.migrated m) ∧ report.status.isTranslated = true ∧
          p.workspace.Changes [p.workspace.place path] w' ∧
          w'.contentAt path = some (.text m.code) ∧
          advance e s namespaceName blocked p (path, result) =
            { workspace := w'
              fresh := Catalog.extend p.fresh m.entries
              keys := p.keys + m.entries.length
              files := p.files ++ [report] }) := by
  rcases result with cause | ⟨reason, diagnostics⟩ | m
  · exact ⟨_, p.workspace, rfl, Or.inl ⟨rfl, .refl hp, rfl⟩⟩
  · exact ⟨_, p.workspace, rfl, Or.inl ⟨rfl, .refl hp, rfl⟩⟩
  rcases blocked with _ | cause
  · rcases hresult : e.write p.workspace path (.text m.code) with ⟨w', _ | cause⟩
    · obtain ⟨hchanges, hcontent⟩ := hwrite.changes_of_success hp hresult
      refine ⟨⟨path, display s.componentsRoot path, .translated m.entries.length, m.diagnostics,
        m.observed⟩, w', rfl, Or.inr ⟨m, rfl, rfl, hchanges, hcontent, ?_⟩⟩
      simp only [advance, place, happly, if_true, hresult, Option.map_none]
    · refine ⟨⟨path, display s.componentsRoot path, .failed ((FileError.write cause).message path),
        m.diagnostics, false⟩, w', rfl,
        Or.inl ⟨rfl, hwrite.changes_of_failure hp hresult, ?_⟩⟩
      simp only [advance, place, happly, if_true, hresult, Option.map_some]
  · exact ⟨_, p.workspace, rfl, Or.inl ⟨rfl, .refl hp, rfl⟩⟩

/-- How far a run is after some files of a namespace. -/
structure Progressed (e : Engine) (s : Settings) (namespaceName : String) (w : Workspace)
    (done : List String) (p : Progress) : Prop where
  paths : p.files.map (·.path) = done
  changes : w.Changes (done.map w.place) p.workspace
  settled : ∀ f ∈ p.files, FileSettled e s namespaceName w p.workspace f
  fresh : p.fresh = Catalog.extend [] (extracted e s namespaceName w p.files)

namespace Progressed

variable {e : Engine} {s : Settings} {namespaceName : String} {w : Workspace}

theorem start (hw : w.WellFormed) :
    Progressed e s namespaceName w [] { workspace := w } where
  paths := rfl
  changes := .refl hw
  settled := by simp
  fresh := rfl

theorem advance (hwrite : e.write.MayFail) (happly : s.apply = true) (hw : w.WellFormed)
    (blocked : Option Catalog.LoadError) {done : List String} {p : Progress}
    (h : Progressed e s namespaceName w done p) {path : String}
    (hpath : w.place path ∉ done.map w.place) :
    Progressed e s namespaceName w (done ++ [path])
      (Run.advance e s namespaceName blocked p (path, outcome e s namespaceName w path)) := by
  have hp : p.workspace.WellFormed := h.changes.wellFormed hw
  have hplace := h.changes.place_eq path
  -- What was settled before stays so, because its place is not the one that is written now.
  have hkeep : ∀ w', p.workspace.Changes [w.place path] w' →
      ∀ f ∈ p.files, FileSettled e s namespaceName w w' f := by
    intro w' hchanges f hf
    refine (h.settled f hf).congr_after (hchanges.contentAt_eq hp ?_)
    rw [h.changes.place_eq, List.mem_singleton]
    intro heq
    refine hpath (heq ▸ List.mem_map_of_mem ?_)
    exact h.paths ▸ List.mem_map_of_mem hf
  have hsub : done.map w.place ⊆ (done ++ [path]).map w.place := by simp
  have hsub' : [w.place path] ⊆ (done ++ [path]).map w.place := by simp
  obtain ⟨report, w', rfl, hcase⟩ := advance_cases hwrite happly namespaceName blocked hp path
    (outcome e s namespaceName w path)
  rcases hcase with ⟨huntranslated, hchanges, hadvance⟩ |
    ⟨m, hm, htranslated, hchanges, hcontent, hadvance⟩
  · rw [hadvance]
    refine ⟨by simp [h.paths], (h.changes.mono hsub).trans (hchanges.mono (by simp)), ?_, ?_⟩
    · intro f hf
      rcases List.mem_append.mp hf with hf | hf
      · exact hkeep w' (hchanges.mono (by simp)) f hf
      · obtain rfl := List.mem_singleton.mp hf
        have hold : w'.contentAt f.path = p.workspace.contentAt f.path :=
          hchanges.contentAt_eq hp (by simp)
        rw [FileSettled, huntranslated, hold]
        exact h.changes.contentAt_eq hw hpath
    · simp [extracted_append, extracted_untranslated huntranslated, h.fresh]
  · rw [hadvance]
    rw [hplace] at hchanges
    have hmigration := migration?_of_outcome hm
    refine ⟨by simp [h.paths], (h.changes.mono hsub).trans (hchanges.mono hsub'), ?_, ?_⟩
    · intro f hf
      rcases List.mem_append.mp hf with hf | hf
      · exact hkeep w' hchanges f hf
      · obtain rfl := List.mem_singleton.mp hf
        rw [FileSettled, htranslated, if_pos rfl]
        exact ⟨m, hmigration, hcontent⟩
    · rw [extracted_append, extracted_translated htranslated hmigration, h.fresh,
        Catalog.extend_append]

theorem foldl_advance (hwrite : e.write.MayFail) (happly : s.apply = true) (hw : w.WellFormed)
    (blocked : Option Catalog.LoadError) {done files : List String} {p : Progress}
    (h : Progressed e s namespaceName w done p)
    (hnodup : ((done ++ files).map w.place).Nodup) :
    Progressed e s namespaceName w (done ++ files)
      ((files.map fun path => (path, outcome e s namespaceName w path)).foldl
        (Run.advance e s namespaceName blocked) p) := by
  induction files generalizing done p with
  | nil => simpa using h
  | cons path files ih =>
      have hpath : w.place path ∉ done.map w.place := by
        rw [List.map_append] at hnodup
        intro hmem
        exact (List.nodup_append.mp hnodup).2.2 _ hmem _ (by simp) rfl
      have hnext := advance hwrite happly hw blocked h hpath
      rw [List.append_cons] at hnodup ⊢
      exact ih hnext hnodup

end Progressed

end Run

end Phrasebook

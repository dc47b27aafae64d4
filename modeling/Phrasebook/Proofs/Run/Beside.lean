import Phrasebook.Proofs.Run.Blocked
import Phrasebook.Proofs.Run.Pair

/-!
Two runs side by side, of which one has a namespace that is blocked.

In the other run the catalogs of that namespace may be usable, so its turn may write. Whatever it
does there, it stays apart from what the other namespaces read, and their turns are the same.
-/

namespace Phrasebook.Run

open Disk (Location)
open Workspace (Paired Tracks Trails)

/-- How far a run has come: what it has written belongs to no namespace that is still to come. -/
def Underway (s : Settings) (w : Workspace) (rest : List Scan.Namespace)
    (current : Workspace) : Prop :=
  ∃ written, w.Changes written current ∧ ∀ n ∈ rest, ∀ loc ∈ written, ¬ Owns s w n.name loc

theorem Underway.start (s : Settings) {w : Workspace} (hw : w.WellFormed)
    (rest : List Scan.Namespace) : Underway s w rest w :=
  ⟨[], .refl hw, by simp⟩

section

variable {e : Engine} {s : Settings} {w current : Workspace} {n : Scan.Namespace}
  {rest : List Scan.Namespace}

theorem Underway.sourceFiles_eq (h : Underway s w (n :: rest) current) (hn : Proper s w n)
    (hroot : w.hasDirectory s.componentsRoot = true) :
    Scan.sourceFiles current s.extensions (.ofEntries s.componentsRoot s.ignores) n.directory =
      Scan.sourceFiles w s.extensions (.ofEntries s.componentsRoot s.ignores) n.directory := by
  obtain ⟨written, hchanges, hfree⟩ := h
  obtain ⟨hlocate, mode, hdir⟩ := Workspace.hasDirectory_eq_true_iff.mp hroot
  exact hn.sourceFiles_eq hlocate hdir hchanges (hfree n List.mem_cons_self)

theorem Underway.next (h : Underway s w (n :: rest) current) (hwrite : e.write.MayFail)
    (happly : s.apply = true) (hw : w.WellFormed)
    (hroot : w.hasDirectory s.componentsRoot = true)
    (hproper : ∀ n' ∈ n :: rest, Proper s w n') (hnew : n.name ∉ rest.map (·.name))
    {found : Scan.Found} (hfound : Scan.sourceFiles current s.extensions
      (.ofEntries s.componentsRoot s.ignores) n.directory = found)
    {next : Workspace} {r : NamespaceReport}
    (hturn : migrateFiles e s n.name found current = (next, r)) :
    r.name = n.name ∧ Underway s w rest next := by
  have hn := hproper n List.mem_cons_self
  have hfiles : found.files = scanned s w n.name := by
    rw [← hfound, h.sourceFiles_eq hn hroot, hn.files_sourceFiles]
  obtain ⟨written, hchanges, hfree⟩ := h
  have hnodup := (Scan.places_of_sourceFiles (hchanges.wellFormed hw) s.extensions
    (.ofEntries s.componentsRoot s.ignores) n.directory).1
  rw [hfound] at hnodup
  obtain ⟨hname, hchanged, hsettled⟩ := hn.turn hwrite happly hw hchanges
    (hfree n List.mem_cons_self) hfiles hnodup hturn
  refine ⟨hname, written ++ touched s w r,
    (hchanges.mono (by simp)).trans (hchanged.mono (by simp)), ?_⟩
  exact hn.not_owns_append (fun n' hn' => hproper n' (List.mem_cons_of_mem _ hn')) hnew
    (fun n' hn' => hfree n' (List.mem_cons_of_mem _ hn'))
    (fun loc hloc => hn.owns_of_mem hw (touched_eq hname hsettled.paths ▸ hloc))

end

/-- Two workspaces in which the same namespaces are found. In the first, one of them has catalogs
that cannot be used. What belongs to the others counts exactly, and is apart from it. -/
structure Beside (s : Settings) (namespaces : List Scan.Namespace) (stuck : String)
    (shared exact : Location → Prop) (first second : Workspace) : Prop
    extends Trails shared exact first second where
  root : first.hasDirectory s.componentsRoot = true ∧ second.hasDirectory s.componentsRoot = true
  proper : ∀ n ∈ namespaces, Proper s first n ∧ Proper s second n
  scan : ∀ n ∈ namespaces,
    Scan.sourceFiles second s.extensions (.ofEntries s.componentsRoot s.ignores) n.directory =
      Scan.sourceFiles first s.extensions (.ofEntries s.componentsRoot s.ignores) n.directory
  tracks : ∀ n ∈ namespaces, n.name ≠ stuck →
    ∀ path ∈ scanned s first n.name ++ s.store.paths n.name, Tracks shared first second path
  counts : ∀ n ∈ namespaces, n.name ≠ stuck → ∀ loc, Owns s first n.name loc → exact loc
  apart : ∀ loc, Owns s first stuck loc → ¬ shared loc ∧ ¬ exact loc
  above : ∀ loc, exact loc → ∀ place, Owns s first stuck place → loc <+: place →
    ∃ mode, second.disk.get? loc = some (.directory mode)
  steady : ∀ path ∈ scanned s first stuck ++ s.store.paths stuck, second.Steady path
  blocked : ∃ cause, s.store.loadExisting first stuck = .error cause

section

variable {e : Engine} {s : Settings} (hwrite : e.write = Workspace.replace)
  (happly : s.apply = true) {namespaces rest : List Scan.Namespace} {stuck : String}
  {shared exact : Location → Prop} {w w' current current' : Workspace}
  (h : Beside s namespaces stuck shared exact w w') {n : Scan.Namespace} (hn : n ∈ namespaces)
  (htrails : Trails shared exact current current')
  (hunderway : Underway s w (n :: rest) current)
  (hunderway' : Underway s w' (n :: rest) current')
include hwrite happly h hn htrails hunderway hunderway'

/-- The turn of a namespace that is not blocked. -/
theorem Beside.turn_of_ne (hne : n.name ≠ stuck) {found : Scan.Found}
    (hfound : found.files = scanned s w n.name) :
    ∃ next next' r, migrateFiles e s n.name found current = (next, r) ∧
      migrateFiles e s n.name found current' = (next', r) ∧ Trails shared exact next next' := by
  obtain ⟨written, hchanges, hfree⟩ := hunderway
  obtain ⟨written', hchanges', -⟩ := hunderway'
  have hproper := (h.proper n hn).1
  have hpaired : Paired shared exact (scanned s w n.name ++ s.store.paths n.name) current
      current' := by
    refine ⟨htrails, fun path hpath => (h.tracks n hn hne path hpath).changes hchanges hchanges',
      fun path hpath => h.counts n hn hne _ ?_⟩
    rw [hchanges.place_eq]
    refine hproper.owns_of_mem h.formed.1 ?_
    rw [Catalog.Store.places, ← List.map_append]
    exact List.mem_map_of_mem hpath
  have hthere : ∀ path ∈ found.files, current.disk.get? (current.place path) ≠ none := by
    intro path hpath
    obtain ⟨hsame, -⟩ := hproper.sameAt_of_changes h.formed.1 h.formed.1 rfl hchanges
      (hfree n List.mem_cons_self)
    obtain ⟨-, content, hcontent⟩ := hproper.exists_of_mem_scanned h.formed.1 (hfound ▸ hpath)
    obtain ⟨mode, hnode⟩ := Workspace.exists_file_of_contentAt
      ((hsame path (hfound ▸ hpath)).trans hcontent)
    rw [hnode]
    simp
  obtain ⟨next, next', r, hturn, hturn', hnext⟩ := migrateFiles_paired hwrite happly hpaired
    (fun path hpath => List.mem_append_left _ (hfound ▸ hpath)) hthere
    (fun path hpath => List.mem_append_right _ hpath)
  exact ⟨next, next', r, hturn, hturn', hnext.toTrails⟩

/-- The turn of the namespace that is blocked in the first run. -/
theorem Beside.turn_of_eq (heq : n.name = stuck) {found : Scan.Found}
    (hfound : found.files = scanned s w n.name) :
    ∃ next next' r r', migrateFiles e s n.name found current = (next, r) ∧
      migrateFiles e s n.name found current' = (next', r') ∧ Trails shared exact next next' := by
  subst heq
  obtain ⟨written, hchanges, hfree⟩ := hunderway
  obtain ⟨written', hchanges', -⟩ := hunderway'
  obtain ⟨cause, hcause⟩ := Catalog.Store.loadExisting_eq_error_of_changes hchanges h.formed.1
    (fun loc hloc hmem => hfree n List.mem_cons_self loc hmem (Or.inr hloc)) h.blocked
  have hdirectory : current'.directory = w.directory := hchanges'.directory.trans h.directory
  have hgrows : current'.Grows (found.files.map current'.place ++ s.store.places current' n.name)
      (migrateFiles e s n.name found current').1 :=
    grows_migrateFiles hwrite happly htrails.formed.2
      (fun path hpath => hchanges'.steady
        (h.steady path (List.mem_append_left _ (hfound ▸ hpath))))
      (fun path hpath => hchanges'.steady (h.steady path (List.mem_append_right _ hpath)))
  rw [hfound, funext (Workspace.place_eq_of_directory hdirectory),
    Catalog.Store.places_eq_of_directory hdirectory] at hgrows
  have howned : ∀ loc ∈ (scanned s w n.name).map w.place ++ s.store.places w n.name,
      Owns s w n.name loc := fun loc hloc => (h.proper n hn).1.owns_of_mem h.formed.1 hloc
  refine ⟨current, _, _, _, migrateFiles_of_blocked hcause found, rfl, htrails.grow hgrows
    (fun loc hloc => (h.apart loc (howned loc hloc)).1) fun loc hloc => ⟨?_, ?_⟩⟩
  · intro hmem
    exact (h.apart loc (howned loc hmem)).2 hloc
  · intro place hplace hprefix
    obtain ⟨mode, hdir⟩ := h.above loc hloc place (howned place hplace) hprefix
    rw [hchanges'.disk.directory hdir]
    simp

theorem Beside.turn {found : Scan.Found} (hfound : found.files = scanned s w n.name) :
    ∃ next next' r r', migrateFiles e s n.name found current = (next, r) ∧
      migrateFiles e s n.name found current' = (next', r') ∧
      Trails shared exact next next' ∧ (n.name ≠ stuck → r' = r) := by
  by_cases heq : n.name = stuck
  · obtain ⟨next, next', r, r', hturn, hturn', hnext⟩ :=
      h.turn_of_eq hwrite happly hn htrails hunderway hunderway' heq hfound
    exact ⟨next, next', r, r', hturn, hturn', hnext, fun hne => absurd heq hne⟩
  · obtain ⟨next, next', r, hturn, hturn', hnext⟩ :=
      h.turn_of_ne hwrite happly hn htrails hunderway hunderway' heq hfound
    exact ⟨next, next', r, r, hturn, hturn', hnext, fun _ => rfl⟩

end

/-- All turns of the two runs. -/
theorem Beside.migrateNamespaces {e : Engine} {s : Settings}
    (hwrite : e.write = Workspace.replace) (happly : s.apply = true)
    {namespaces all : List Scan.Namespace} {stuck : String} {shared exact : Location → Prop}
    {w w' current current' : Workspace} (h : Beside s all stuck shared exact w w')
    (hall : ∀ n ∈ namespaces, n ∈ all) (hnodup : (namespaces.map (·.name)).Nodup)
    (htrails : Trails shared exact current current')
    (hunderway : Underway s w namespaces current) (hunderway' : Underway s w' namespaces current')
    {last last' : Workspace} {reports reports' : List NamespaceReport}
    {warnings warnings' : List Scan.Warning}
    (hrun : Run.migrateNamespaces e s (.ofEntries s.componentsRoot s.ignores) namespaces current =
      (last, reports, warnings))
    (hrun' : Run.migrateNamespaces e s (.ofEntries s.componentsRoot s.ignores) namespaces
      current' = (last', reports', warnings')) :
    Trails shared exact last last' ∧
      reports'.filter (·.name ≠ stuck) = reports.filter (·.name ≠ stuck) := by
  induction namespaces generalizing current current' reports reports' warnings warnings' with
  | nil =>
      cases hrun
      cases hrun'
      exact ⟨htrails, rfl⟩
  | cons n rest ih =>
      have hn := hall n List.mem_cons_self
      obtain ⟨hnew, hnodup'⟩ := List.nodup_cons.mp hnodup
      have hfound := hunderway.sourceFiles_eq (h.proper n hn).1 h.root.1
      have hfound' := (hunderway'.sourceFiles_eq (h.proper n hn).2 h.root.2).trans (h.scan n hn)
      have hfiles := (h.proper n hn).1.files_sourceFiles
      generalize Scan.sourceFiles w s.extensions (.ofEntries s.componentsRoot s.ignores)
        n.directory = found at hfound hfound' hfiles
      have hmayFail : e.write.MayFail := hwrite ▸ Writer.mayFail_replace
      obtain ⟨next, next', r, r', hturn, hturn', hnext, hsame⟩ :=
        h.turn hwrite happly hn htrails hunderway hunderway' hfiles
      obtain ⟨hname, hthen⟩ := hunderway.next hmayFail happly h.formed.1 h.root.1
        (fun n' hn' => (h.proper n' (hall n' hn')).1) hnew hfound hturn
      obtain ⟨hname', hthen'⟩ := hunderway'.next hmayFail happly h.formed.2 h.root.2
        (fun n' hn' => (h.proper n' (hall n' hn')).2) hnew hfound' hturn'
      rcases hrest : Run.migrateNamespaces e s (.ofEntries s.componentsRoot s.ignores) rest next
        with ⟨last₁, reports₁, warnings₁⟩
      rcases hrest' : Run.migrateNamespaces e s (.ofEntries s.componentsRoot s.ignores) rest next'
        with ⟨last₂, reports₂, warnings₂⟩
      simp only [Run.migrateNamespaces, hfound, hturn, hrest] at hrun
      simp only [Run.migrateNamespaces, hfound', hturn', hrest'] at hrun'
      cases hrun
      cases hrun'
      obtain ⟨hlast, hreports⟩ := ih (fun n' hn' => hall n' (List.mem_cons_of_mem _ hn')) hnodup'
        hnext hthen hthen' hrest hrest'
      refine ⟨hlast, ?_⟩
      rw [List.filter_cons, List.filter_cons, hreports, hname, hname']
      by_cases hne : n.name = stuck
      · simp [hne]
      · rw [hsame hne]

end Phrasebook.Run

import Phrasebook.Proofs.Component.Literal
import Phrasebook.Proofs.Component.Migration
import Phrasebook.Proofs.Script.Layout

/-!
The edits of a migration fit its source.

A lookup takes the place of a token, or of a part of one. All other edits are insertions in gaps
between tokens. So no two edits of a migration are in each other's way, wherever the texts, the
component and its default export stand.
-/

namespace Phrasebook

namespace Text

theorem exists_trimEnd_append (cs : List Char) : ∃ back, cs = trimEnd cs ++ back := by
  fun_induction trimEnd cs with
  | case1 => exact ⟨[], rfl⟩
  | case2 c cs hcs hblank ih => exact ⟨c :: cs, rfl⟩
  | case3 c cs hcs hblank ih => exact ⟨cs, rfl⟩
  | case4 c cs d ds hcs ih =>
      obtain ⟨back, hback⟩ := ih
      exact ⟨back, by rw [List.cons_append, ← hcs, ← hback]⟩

theorem trimEnd_append {front cs : List Char} (h : trimEnd cs ≠ []) :
    trimEnd (front ++ cs) = front ++ trimEnd cs := by
  induction front with
  | nil => rfl
  | cons c front ih =>
      rw [List.cons_append, trimEnd, ih]
      split
      · rename_i hnil
        exact absurd (List.append_eq_nil_iff.mp hnil).2 h
      · rename_i hcons
        rw [← hcons, List.cons_append]

/-- White space is taken from both ends, and what is left is the same from either side. -/
theorem exists_trim {cs : List Char} (h : trim cs ≠ []) :
    ∃ front back, cs = front ++ trim cs ++ back ∧
      trimStart cs = trim cs ++ back ∧ trimEnd cs = front ++ trim cs := by
  have hsplit : cs = cs.takeWhile isBlank ++ trimStart cs := List.takeWhile_append_dropWhile.symm
  obtain ⟨back, hback⟩ := exists_trimEnd_append (trimStart cs)
  refine ⟨cs.takeWhile isBlank, back, ?_, hback, ?_⟩
  · rw [List.append_assoc, trim, ← hback, ← hsplit]
  · rw [trim, ← trimEnd_append h, ← hsplit]

end Text

namespace Component

open Script
open Source (Edit Span)

section

variable {source : List Char} {m : Module}

/-- A text without its white space lies inside the text. -/
theorem trimmedSpan_within {span : Span} {raw : List Char}
    (hraw : Source.slice? source span = some raw) (htrim : Text.trim raw ≠ []) :
    span.Covers (trimmedSpan span.start raw) ∧ (trimmedSpan span.start raw).Within source := by
  obtain ⟨front, back, hsource, hstart, hstop⟩ := Source.slice?_eq_some_iff.mp hraw
  obtain ⟨lead, trail, hsplit, htrimStart, htrimEnd⟩ := Text.exists_trim htrim
  have hlength := congrArg Text.byteLength hsplit
  have hlead := congrArg Text.byteLength htrimStart
  have htrail := congrArg Text.byteLength htrimEnd
  simp only [Text.byteLength_append] at hlength hlead htrail hstop
  refine ⟨⟨by simp only [trimmedSpan]; omega, by simp only [trimmedSpan]; omega⟩, ?_⟩
  refine Span.within_iff.mpr ⟨front ++ lead, Text.trim raw, trail ++ back, ?_, ?_, ?_⟩
  · have hinner : source = front ++ (lead ++ Text.trim raw ++ trail) ++ back := by
      rw [← hsplit, hsource]
    simpa using hinner
  · simp only [trimmedSpan, Text.byteLength_append]
    omega
  · simp only [trimmedSpan, Text.byteLength_append]
    omega

/-- A text that is found lies in the token that stands at its address. -/
theorem IsSpot.exists_token {options : Options} {spot : Spot} (hm : m.Placed source)
    (h : IsSpot options m spot) :
    ∃ t, m.at? spot.address = some t ∧ t.form.isToken = true ∧
      t.span.Covers spot.literal.span ∧ spot.literal.span.Within source := by
  have hwithin : ∀ {a t}, m.at? a = some t → t.Placed source := fun hat =>
    hm _ (Node.mem_preorder_iff.mpr ⟨_, Module.root_at? hat⟩)
  cases h with
  | @text a span raw value children hat hletter =>
      obtain ⟨text, htext, hwritten⟩ := (hwithin hat).slice?
      have hraw : text = raw.toList := of_decide_eq_true hwritten
      have htrim : Text.trim raw.toList ≠ [] := by
        obtain ⟨c, hc, -⟩ := hletter
        exact List.ne_nil_of_mem hc
      rw [hraw] at htext
      exact ⟨_, hat, rfl, trimmedSpan_within htext htrim⟩
  | branch hat hconditional hbranch hstring hphrase =>
      have hat' := (at?_branch hat hconditional hbranch _).trans hstring.at?
      exact ⟨_, hat', rfl, Span.Covers.refl _, (hwithin hat').within⟩
  | attr hat htext =>
      have hat' := Module.at?_append hat [0]
      exact ⟨_, hat', rfl, Span.Covers.refl _, (hwithin hat').within⟩

theorem within_of_mem_literals {options : Options} {l : Literal} (hm : m.Placed source)
    (hl : l ∈ literals options m) : l.span.Within source := by
  rw [← map_literal_spots] at hl
  obtain ⟨spot, hspot, rfl⟩ := List.mem_map.mp hl
  obtain ⟨t, -, -, -, hwithin⟩ := (mem_spots.mp hspot).1.exists_token hm
  exact hwithin

theorem apart_literals {options : Options} (hm : m.Placed source) :
    (literals options m).Pairwise fun k l => k.span.Apart l.span := by
  have hnodup := nodup_address_spots options m
  rw [List.Nodup, List.pairwise_map] at hnodup
  rw [← map_literal_spots, List.pairwise_map]
  refine hnodup.imp_of_mem ?_
  intro p q hp hq hne
  obtain ⟨t, ht, htoken, hcovers, -⟩ := (mem_spots.mp hp).1.exists_token hm
  obtain ⟨u, hu, huToken, hcovers', -⟩ := (mem_spots.mp hq).1.exists_token hm
  rcases apart_or_holds hm (Module.root_at? ht) (Module.root_at? hu) huToken hne with h | h
  · exact h.mono hcovers hcovers'
  · have hnot := h.isToken
    rw [htoken] at hnot
    cases hnot

/-- An edit that inserts a text in a gap between tokens. -/
def InGap (source : List Char) (m : Module) (e : Edit) : Prop :=
  ∃ offset, m.IsGap source offset ∧ e.span = ⟨offset, offset⟩

theorem inGap_wrap {span : Span} {before behind : String} (hstart : m.IsGap source span.start)
    (hstop : m.IsGap source span.stop) : ∀ e ∈ Edit.wrap span before behind, InGap source m e := by
  intro e he
  rcases List.mem_cons.mp he with rfl | he
  · exact ⟨_, hstart, rfl⟩
  · obtain rfl := List.mem_singleton.mp he
    exact ⟨_, hstop, rfl⟩

/-- The body of a host stands below a node. -/
def Host.LiesIn (n : Node) : Host → Prop
  | .block body => body ∈ n.preorder ∧ body.form = .block
  | .expression _ body => body ∈ n.preorder

theorem Host.LiesIn.mono {n x : Node} {host : Host} (h : host.LiesIn x) (hx : x ∈ n.preorder) :
    host.LiesIn n := by
  cases host with
  | block body => exact ⟨Node.mem_preorder_trans hx h.1, h.2⟩
  | expression arrow body => exact Node.mem_preorder_trans hx h

theorem liesIn_of_arrowHost? {value : Node} {host : Host} (h : arrowHost? value = some host) :
    host.LiesIn value := by
  unfold arrowHost? at h
  split at h
  · rename_i span children hvalue
    obtain ⟨body, hlast, rfl⟩ := Option.map_eq_some_iff.mp h
    have hchild : body ∈ (Node.mk span .arrow children).children := List.mem_of_getLast? hlast
    have hbody : body ∈ value.preorder := by
      refine Node.mem_preorder_trans value.unparen_mem_preorder ?_
      rw [hvalue]
      exact Node.mem_preorder_of_mem_children hchild body.mem_preorder_self
    split
    · rename_i hblock
      exact ⟨hbody, hblock⟩
    · exact hbody
  · cases h

theorem liesIn_of_host? {name : String} {n : Node} {host : Host} (h : host? name n = some host) :
    host.LiesIn n := by
  unfold host? at h
  split at h
  · rename_i span own children
    split at h
    · obtain ⟨body, hbody, rfl⟩ := Option.map_eq_some_iff.mp h
      obtain ⟨hlast, hblock⟩ := Option.filter_eq_some_iff.mp hbody
      have hchild : body ∈ children := List.mem_of_getLast? hlast
      exact ⟨Node.mem_preorder_of_mem_children hchild body.mem_preorder_self,
        of_decide_eq_true hblock⟩
    · cases h
  · rename_i outer span own children value
    split at h
    · refine (liesIn_of_arrowHost? h).mono ?_
      have hchild : value ∈ (Node.mk outer .declarator
          [.mk span (.binding own) children, value]).children :=
        List.mem_cons_of_mem _ List.mem_cons_self
      exact Node.mem_preorder_of_mem_children hchild value.mem_preorder_self
    · cases h
  · cases h

theorem mem_of_firstStatement? {nodes : List Node} {first : Node}
    (h : firstStatement? nodes = some first) : first ∈ nodes :=
  List.mem_of_find?_eq_some h

theorem inGap_hookEdits {t : Target} {host : Host} (hm : m.Placed source)
    (hhost : host.LiesIn m.root) : ∀ e ∈ hookEdits source t host, InGap source m e := by
  intro e he
  cases host with
  | block body =>
      obtain ⟨hbody, hblock⟩ := hhost
      rw [hookEdits] at he
      split at he
      · rename_i first hfirst
        obtain rfl := List.mem_singleton.mp he
        have hmem : first ∈ body.preorder := Node.mem_preorder_of_mem_children
          (mem_of_firstStatement? hfirst) first.mem_preorder_self
        exact ⟨_, hm.isGap_start (Node.mem_preorder_trans hbody hmem), rfl⟩
      · obtain rfl := List.mem_singleton.mp he
        exact ⟨_, hm.isGap_brace hbody hblock, rfl⟩
  | expression arrow body =>
      exact inGap_wrap (hm.isGap_start hhost) (hm.isGap_stop hhost) e he

theorem mem_root_of_mem_items {item x : Node} (hitem : item ∈ m.items) (hx : x ∈ item.preorder) :
    x ∈ m.root.preorder :=
  Module.mem_preorder_root (mem_preorderAll hitem hx)

theorem inGap_wrapEdits {t : Target} {item : Node} {span : Span} (hm : m.Placed source)
    (hitem : item ∈ m.items) (hspan : defaultExportSpan? item = some span) :
    ∀ e ∈ wrapEdits t span, InGap source m e := by
  unfold defaultExportSpan? at hspan
  split at hspan
  · rename_i outer value
    obtain rfl := Option.some.inj hspan
    have hvalue : value ∈ m.root.preorder := mem_root_of_mem_items hitem
      (Node.mem_preorder_of_mem_children List.mem_cons_self value.mem_preorder_self)
    exact inGap_wrap (hm.isGap_start hvalue) (hm.isGap_stop hvalue)
  · cases hspan

theorem inGap_accessorEdits? {c : Identity} {t : Target} (hm : m.Placed source) :
    ∀ e ∈ (accessorEdits? source c t m).getD [], InGap source m e := by
  unfold accessorEdits?
  split
  · cases hfound : m.items.findSome? defaultExportSpan? with
    | none => simp
    | some span =>
        obtain ⟨item, hitem, hspan⟩ := List.exists_of_findSome?_eq_some hfound
        exact inGap_wrapEdits hm hitem hspan
  · split
    · cases hfound : m.nodes.findSome? (host? c.name) with
      | none => simp
      | some host =>
          obtain ⟨n, hn, hhost⟩ := List.exists_of_findSome?_eq_some hfound
          exact inGap_hookEdits hm ((liesIn_of_host? hhost).mono (Module.mem_preorder_root hn))
    · simp

theorem inGap_importEdit {options : Options} {c : Identity} {t : Target} (hm : m.Placed source) :
    InGap source m (importEdit options c t m) := by
  unfold importEdit
  split
  · rename_i first hfirst
    have hmem := mem_root_of_mem_items (mem_of_firstStatement? hfirst) first.mem_preorder_self
    exact ⟨_, hm.isGap_start hmem, rfl⟩
  · exact ⟨_, hm.isGap_stop m.root.mem_preorder_self, rfl⟩

/-- What makes the lookup function known is inserted between tokens. -/
theorem inGap_access {options : Options} {c : Identity} {t : Target} {needed : Bool}
    (hm : m.Placed source) : ∀ e ∈ (access options source c t m needed).2, InGap source m e := by
  intro e he
  cases needed with
  | false => cases he
  | true =>
      rw [access_snd] at he
      rcases List.mem_append.mp he with he | he
      · exact inGap_accessorEdits? hm e he
      · obtain rfl := List.mem_singleton.mp he
        exact inGap_importEdit hm

theorem InGap.within {e : Edit} (h : InGap source m e) : e.span.Within source := by
  obtain ⟨offset, hgap, hspan⟩ := h
  rw [hspan]
  exact hgap.isPlace.within

/-- Two insertions are never in each other's way. -/
theorem InGap.apart {d e : Edit} (hd : InGap source m d) (he : InGap source m e) :
    d.span.Apart e.span := by
  obtain ⟨offset, -, hspan⟩ := hd
  obtain ⟨offset', -, hspan'⟩ := he
  rw [hspan, hspan']
  exact Nat.le_total offset offset'

theorem InGap.apart_literal {options : Options} {e : Edit} {l : Literal} (hm : m.Placed source)
    (he : InGap source m e) (hl : l ∈ literals options m) : l.span.Apart e.span := by
  rw [← map_literal_spots] at hl
  obtain ⟨spot, hspot, rfl⟩ := List.mem_map.mp hl
  obtain ⟨t, ht, htoken, hcovers, -⟩ := (mem_spots.mp hspot).1.exists_token hm
  obtain ⟨offset, hgap, hspan⟩ := he
  have hapart : t.span.Apart e.span := by
    rw [hspan]
    exact (hgap.beside _ t ht htoken).symm
  exact hapart.mono hcovers (Span.Covers.refl _)

end

/-- The edits that a migration records: lookups in place of the texts, then what makes the lookup
function known. -/
def recordedEdits (options : Options) (source : List Char) (t : Target) (m : Module) : List Edit :=
  (literals options m).map (·.edit (classify options m)) ++
    (access options source (classify options m) t m !(literals options m).isEmpty).2

theorem recordedEdits_within {options : Options} {source : List Char} {t : Target} {m : Module}
    (hm : m.Placed source) : ∀ e ∈ recordedEdits options source t m, e.span.Within source := by
  intro e he
  rcases List.mem_append.mp he with he | he
  · obtain ⟨l, hl, rfl⟩ := List.mem_map.mp he
    exact within_of_mem_literals hm hl
  · exact (inGap_access hm e he).within

theorem recordedEdits_apart {options : Options} {source : List Char} {t : Target} {m : Module}
    (hm : m.Placed source) :
    (recordedEdits options source t m).Pairwise fun d e => d.span.Apart e.span := by
  refine List.pairwise_append.mpr ⟨?_, ?_, ?_⟩
  · rw [List.pairwise_map]
    exact apart_literals hm
  · refine List.pairwise_of_forall_mem_list ?_
    intro d hd e he
    exact (inGap_access hm d hd).apart (inGap_access hm e he)
  · intro d hd e he
    obtain ⟨l, hl, rfl⟩ := List.mem_map.mp hd
    exact (inGap_access hm e he).apart_literal hm hl

/-- A failure to apply edits is one of the recorded edits. -/
theorem applyEdits_of_migrateWith {read : String → Option Module} {options : Options}
    {namespaceName source : String} {m : Module} {cause : Source.EditError}
    (hm : read source = some m)
    (h : migrateWith read options namespaceName source = .error (.edits cause)) :
    ∃ quote, Source.applyEdits source
      (recordedEdits options source.toList ⟨namespaceName, quote⟩ m) = .error cause := by
  simp only [migrateWith, hm] at h
  split at h
  · cases h
  · cases h
  rename_i quote hquote
  simp only [migrateEligible] at h
  split at h
  · cases h
  rename_i hfound
  split at h
  · rename_i cause' hcause
    obtain rfl := MigrationError.edits.inj (Except.error.inj h)
    exact ⟨quote, by rw [recordedEdits, Bool.eq_false_iff.mpr hfound]; exact hcause⟩
  · split at h <;> cases h

/-- The edits of a migration take spans of the source and share no byte, so they can always be
applied. -/
theorem recordedEdits_fit {source : String} {m : Module} (hm : m.Placed source.toList)
    (options : Options) (t : Target) :
    (∀ e ∈ recordedEdits options source.toList t m, e.span.Within source.toList) ∧
      ((recordedEdits options source.toList t m).Pairwise fun d e => d.span.Apart e.span) ∧
      (∃ code, Source.applyEdits source (recordedEdits options source.toList t m) = .ok code) ∧
      ∀ read namespaceName cause, read source = some m →
        migrateWith read options namespaceName source ≠ .error (.edits cause) := by
  refine ⟨recordedEdits_within hm, recordedEdits_apart hm,
    Source.exists_applyEdits_eq_ok (recordedEdits_within hm) (recordedEdits_apart hm), ?_⟩
  intro read namespaceName cause hread hmigrate
  obtain ⟨quote, hcause⟩ := applyEdits_of_migrateWith hread hmigrate
  obtain ⟨code, hcode⟩ := Source.exists_applyEdits_eq_ok
    (recordedEdits_within (t := ⟨namespaceName, quote⟩) hm) (recordedEdits_apart hm)
  rw [hcode] at hcause
  cases hcause

/-- A class with text between tags, in an attribute and in both branches of a conditional. -/
def panel : String :=
  "import React from 'react';\nexport default class Panel extends React.Component \x7b\n" ++
  "  render() \x7b return <p caption=\"Grüße an dich\">" ++
  "\x7bthis.ok ? 'All is well' : (\"Not yet\")\x7d Hello → you </p>; \x7d\n\x7d\n"

theorem parse_panel :
    (Script.parse .jsx panel).any (fun m => decide (m.Placed panel.toList) &&
      (recordedEdits {} panel.toList ⟨"Common", '\''⟩ m).length == 7) = true := by
  decide +kernel

theorem panel_edits_fit :
    ∃ m, Script.parse .jsx panel = some m ∧ m.Placed panel.toList ∧
      (recordedEdits {} panel.toList ⟨"Common", '\''⟩ m).length = 7 ∧
      ∃ code, Source.applyEdits panel (recordedEdits {} panel.toList ⟨"Common", '\''⟩ m) =
        .ok code := by
  obtain ⟨m, hm, hplaced⟩ := (Option.any_eq_true ..).mp parse_panel
  rw [Bool.and_eq_true, decide_eq_true_eq, beq_iff_eq] at hplaced
  obtain ⟨-, -, happlied, -⟩ := recordedEdits_fit hplaced.1 {} ⟨"Common", '\''⟩
  exact ⟨m, hm, hplaced.1, hplaced.2, happlied⟩

end Component

end Phrasebook

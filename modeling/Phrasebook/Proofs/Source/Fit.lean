import Phrasebook.Proofs.Source.Splice

/-!
Edits that fit their source.

Edits can be applied if each of them takes a span of the source and no two of them share a byte.
The order in which they were recorded does not matter.
-/

namespace Phrasebook.Source

namespace Span

/-- The ends of a span lie in the source, between characters and in this order. -/
def Within (s : Span) (source : List Char) : Prop := (slice? source s).isSome

instance (s : Span) (source : List Char) : Decidable (s.Within source) :=
  inferInstanceAs (Decidable (_ = true))

/-- Two spans without a common byte. A place at an edge of a span is apart from it. -/
def Apart (a b : Span) : Prop := a.stop ≤ b.start ∨ b.stop ≤ a.start

instance (a b : Span) : Decidable (a.Apart b) := inferInstanceAs (Decidable (_ ∨ _))

def Covers (outer inner : Span) : Prop :=
  outer.start ≤ inner.start ∧ inner.stop ≤ outer.stop

instance (outer inner : Span) : Decidable (outer.Covers inner) :=
  inferInstanceAs (Decidable (_ ∧ _))

theorem Apart.symm {a b : Span} (h : a.Apart b) : b.Apart a := Or.symm h

theorem Apart.mono {a a' b b' : Span} (h : a.Apart b) (ha : a.Covers a') (hb : b.Covers b') :
    a'.Apart b' := by
  obtain ⟨hastart, hastop⟩ := ha
  obtain ⟨hbstart, hbstop⟩ := hb
  rcases h with h | h
  · exact Or.inl (by omega)
  · exact Or.inr (by omega)

theorem Covers.refl (s : Span) : s.Covers s := ⟨Nat.le_refl _, Nat.le_refl _⟩

theorem Covers.trans {a b c : Span} (hab : a.Covers b) (hbc : b.Covers c) : a.Covers c :=
  ⟨Nat.le_trans hab.1 hbc.1, Nat.le_trans hbc.2 hab.2⟩

end Span

theorem slice?_eq_some_iff {source text : List Char} {s : Span} :
    slice? source s = some text ↔
      ∃ front back, source = front ++ text ++ back ∧
        Text.byteLength front = s.start ∧ Text.byteLength (front ++ text) = s.stop := by
  constructor
  · intro h
    unfold slice? at h
    split at h
    · rename_i hle
      split at h
      · cases h
      · rename_i front rest hfront
        obtain ⟨⟨taken, back⟩, hback, rfl⟩ := Option.map_eq_some_iff.mp h
        obtain ⟨rfl, hstart⟩ := eq_append_of_cut hfront
        obtain ⟨rfl, hstop⟩ := eq_append_of_cut hback
        refine ⟨front, back, by simp, hstart, ?_⟩
        simp only [Text.byteLength_append]
        omega
    · cases h
  · rintro ⟨front, back, rfl, hstart, hstop⟩
    rw [Text.byteLength_append] at hstop
    have hfront : cut s.start (front ++ text ++ back) = some (front, text ++ back) :=
      cut_eq_some_iff.mpr ⟨by simp, hstart⟩
    have hback : cut (s.stop - s.start) (text ++ back) = some (text, back) :=
      cut_eq_some_iff.mpr ⟨rfl, by omega⟩
    simp only [slice?, if_pos (show s.start ≤ s.stop by omega), hfront, hback, Option.map_some]

theorem Span.within_iff {s : Span} {source : List Char} :
    s.Within source ↔ ∃ front text back, source = front ++ text ++ back ∧
      Text.byteLength front = s.start ∧ Text.byteLength (front ++ text) = s.stop := by
  rw [Span.Within, Option.isSome_iff_exists]
  constructor
  · rintro ⟨text, h⟩
    obtain ⟨front, back, h⟩ := slice?_eq_some_iff.mp h
    exact ⟨front, text, back, h⟩
  · rintro ⟨front, text, back, h⟩
    exact ⟨text, slice?_eq_some_iff.mpr ⟨front, back, h⟩⟩

theorem Span.Within.start_le_stop {s : Span} {source : List Char} (h : s.Within source) :
    s.start ≤ s.stop := by
  obtain ⟨front, text, back, -, hstart, hstop⟩ := Span.within_iff.mp h
  rw [Text.byteLength_append] at hstop
  omega

/-- A place between two characters of the source. -/
def IsPlace (source : List Char) (offset : Nat) : Prop :=
  ∃ front back, source = front ++ back ∧ Text.byteLength front = offset

theorem Span.Within.isPlace_start {s : Span} {source : List Char} (h : s.Within source) :
    IsPlace source s.start := by
  obtain ⟨front, text, back, hsource, hstart, -⟩ := Span.within_iff.mp h
  exact ⟨front, text ++ back, by simpa using hsource, hstart⟩

theorem Span.Within.isPlace_stop {s : Span} {source : List Char} (h : s.Within source) :
    IsPlace source s.stop := by
  obtain ⟨front, text, back, hsource, -, hstop⟩ := Span.within_iff.mp h
  exact ⟨front ++ text, back, hsource, hstop⟩

theorem IsPlace.within {source : List Char} {offset : Nat} (h : IsPlace source offset) :
    (Span.mk offset offset).Within source := by
  obtain ⟨front, back, hsource, hoffset⟩ := h
  exact Span.within_iff.mpr ⟨front, [], back, by simpa using hsource, hoffset,
    by simpa using hoffset⟩

/-- Of two edits that share no byte, the one that is applied first ends where the other starts, or
before. -/
theorem stop_le_start_of_le {a b : Edit} (hb : b.span.start ≤ b.span.stop)
    (hle : Edit.le a b = true) (hapart : a.span.Apart b.span) : a.span.stop ≤ b.span.start := by
  rcases hapart with h | h
  · exact h
  -- The second edit lies in front of the first: both are insertions at one place.
  · simp only [Edit.le, Edit.isInsertion, Span.isEmpty, Bool.or_eq_true, Bool.and_eq_true,
      decide_eq_true_eq, beq_iff_eq, Bool.not_eq_true', decide_eq_false_iff_not] at hle
    omega

theorem Edit.le_total (a b : Edit) : (Edit.le a b || Edit.le b a) = true := by
  simp only [Edit.le, Edit.isInsertion, Span.isEmpty, Bool.or_eq_true, Bool.and_eq_true,
    decide_eq_true_eq, beq_iff_eq, Bool.not_eq_true', decide_eq_false_iff_not]
  omega

theorem Edit.le_trans (a b c : Edit) (hab : Edit.le a b = true) (hbc : Edit.le b c = true) :
    Edit.le a c = true := by
  simp only [Edit.le, Edit.isInsertion, Span.isEmpty, Bool.or_eq_true, Bool.and_eq_true,
    decide_eq_true_eq, beq_iff_eq, Bool.not_eq_true', decide_eq_false_iff_not] at *
  omega

/-- Of two beginnings of a text, the shorter one is a beginning of the other. -/
theorem prefix_of_byteLength_le {short long rest rest' : List Char}
    (h : short ++ rest = long ++ rest') (hle : Text.byteLength short ≤ Text.byteLength long) :
    ∃ more, long = short ++ more := by
  rcases List.append_eq_append_iff.mp h with ⟨more, hlong, -⟩ | ⟨more, hshort, -⟩
  · exact ⟨more, hlong⟩
  · cases more with
    | nil => exact ⟨[], by simpa using hshort.symm⟩
    | cons c cs =>
        have hpos : 0 < c.utf8Size := c.utf8Size_pos
        rw [hshort, Text.byteLength_append, Text.byteLength] at hle
        omega

/-- Edits one behind the other can be applied to what is left of the source. -/
theorem exists_splice_eq_ok {source front rest : List Char} {edits : List Edit}
    (hsource : source = front ++ rest)
    (hwithin : ∀ e ∈ edits, e.span.Within source)
    (hbehind : ∀ e ∈ edits, Text.byteLength front ≤ e.span.start)
    (hordered : edits.Pairwise fun a b => a.span.stop ≤ b.span.start) :
    ∃ out, splice (Text.byteLength front) rest edits = .ok out := by
  induction edits generalizing front rest with
  | nil => exact ⟨rest, rfl⟩
  | cons e edits ih =>
      obtain ⟨before, taken, behind, hsplit, hstart, hstop⟩ :=
        Span.within_iff.mp (hwithin e List.mem_cons_self)
      have hfront := hbehind e List.mem_cons_self
      obtain ⟨hhead, htail⟩ := List.pairwise_cons.mp hordered
      have hboth : front ++ rest = before ++ (taken ++ behind) := by
        rw [← hsource, hsplit, List.append_assoc]
      obtain ⟨kept, rfl⟩ := prefix_of_byteLength_le hboth (by omega)
      have hrest : rest = kept ++ taken ++ behind := by
        rw [List.append_assoc] at hboth
        rw [List.append_cancel_left hboth, List.append_assoc]
      obtain ⟨out, hout⟩ := ih hsplit (fun d hd => hwithin d (List.mem_cons_of_mem _ hd))
        (fun d hd => by rw [hstop]; exact hhead d hd) htail
      rw [hstop] at hout
      simp only [Text.byteLength_append] at hstart hstop
      exact ⟨kept ++ e.text.toList ++ out, splice_cons_eq_ok_iff.mpr ⟨hfront,
        (hwithin e List.mem_cons_self).start_le_stop, kept, taken, behind, out, hrest,
        by omega, by omega, hout, rfl⟩⟩

/-- Edits are applied in the order of their places, however they were recorded. -/
theorem applyEdits_of_perm {source : String} {edits ordered : List Edit}
    (hperm : edits.Perm ordered) (h : ordered.Pairwise fun a b => Edit.le b a = false) :
    applyEdits source edits = (splice 0 source.toList ordered).map String.ofList := by
  have hall : (edits.mergeSort Edit.le).Perm ordered :=
    (List.mergeSort_perm edits Edit.le).trans hperm
  have hapart : (edits.mergeSort Edit.le).Pairwise fun a b =>
      Edit.le a b = false ∨ Edit.le b a = false :=
    hall.symm.pairwise (h.imp Or.inr) Or.symm
  have hsorted : (edits.mergeSort Edit.le).Pairwise fun a b => Edit.le b a = false := by
    refine ((List.pairwise_mergeSort Edit.le_trans Edit.le_total edits).and hapart).imp ?_
    rintro a b ⟨hle, hfalse | hfalse⟩
    · rw [hle] at hfalse
      cases hfalse
    · exact hfalse
  have hordered : edits.mergeSort Edit.le = ordered := by
    refine List.Perm.eq_of_pairwise ?_ hsorted h hall
    intro a b _ _ hba hab
    have htotal := Edit.le_total a b
    rw [hab, hba] at htotal
    cases htotal
  rw [applyEdits, hordered]

/-- Edits that are recorded from back to front are applied in reverse. -/
theorem applyEdits_of_descending {source : String} {edits : List Edit}
    (h : edits.Pairwise fun a b => Edit.le a b = false) :
    applyEdits source edits = (splice 0 source.toList edits.reverse).map String.ofList :=
  applyEdits_of_perm (List.reverse_perm edits).symm (List.pairwise_reverse.mpr h)

/-- Edits that take spans of the source and share no byte can be applied. -/
theorem exists_applyEdits_eq_ok {source : String} {edits : List Edit}
    (hwithin : ∀ e ∈ edits, e.span.Within source.toList)
    (hapart : edits.Pairwise fun a b => a.span.Apart b.span) :
    ∃ code, applyEdits source edits = .ok code := by
  have hwithin' : ∀ e ∈ edits.mergeSort Edit.le, e.span.Within source.toList := by
    intro e he
    exact hwithin e (by simpa using he)
  have hsorted : (edits.mergeSort Edit.le).Pairwise fun a b => Edit.le a b = true :=
    List.pairwise_mergeSort Edit.le_trans Edit.le_total edits
  have hapart' : (edits.mergeSort Edit.le).Pairwise fun a b => a.span.Apart b.span :=
    (List.mergeSort_perm edits Edit.le).symm.pairwise hapart Span.Apart.symm
  have hordered : (edits.mergeSort Edit.le).Pairwise fun a b => a.span.stop ≤ b.span.start := by
    refine (hsorted.and hapart').imp_of_mem ?_
    rintro a b - hb ⟨hle, hab⟩
    exact stop_le_start_of_le (hwithin' b hb).start_le_stop hle hab
  have hsource : source.toList = [] ++ source.toList := rfl
  obtain ⟨out, hout⟩ := exists_splice_eq_ok hsource hwithin'
    (fun e _ => Nat.zero_le e.span.start) hordered
  exact ⟨String.ofList out, congrArg (Except.map String.ofList) hout⟩

end Phrasebook.Source

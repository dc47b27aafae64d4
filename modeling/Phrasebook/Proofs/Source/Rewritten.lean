import Phrasebook.Proofs.Source.Fit

/-!
What a list of edits means, read off place by place.

At each place of the source come the texts inserted there, then the text of the span that starts
there, then the character that stands there, unless it is replaced. Nothing is sorted, and no edit
needs to know how far another one went. Applying edits gives this text, or nothing at all.
-/

namespace Phrasebook.Source

/-- The texts that are inserted at a place, in the order in which they were recorded. -/
def insertedAt (edits : List Edit) (offset : Nat) : List Char :=
  (edits.filter fun e => e.isInsertion && e.span.start == offset).flatMap (·.text.toList)

/-- What comes in place of the span that starts at a place. -/
def replacedAt (edits : List Edit) (offset : Nat) : List Char :=
  (edits.filter fun e => !e.isInsertion && e.span.start == offset).flatMap (·.text.toList)

/-- Whether the character at a place belongs to a span that is replaced. -/
def isReplaced (edits : List Edit) (offset : Nat) : Bool :=
  edits.any fun e => e.span.start ≤ offset && offset < e.span.stop

/-- The text from a place on, with all edits made. -/
def rewritten (edits : List Edit) (offset : Nat) : List Char → List Char
  | [] => insertedAt edits offset
  | c :: cs =>
      insertedAt edits offset ++ replacedAt edits offset ++
        (if isReplaced edits offset then [] else [c]) ++ rewritten edits (offset + c.utf8Size) cs

/-- An edit starts between the ends of another one, at neither of them. -/
def Edit.StartsInside (e other : Edit) : Prop :=
  other.span.start < e.span.start ∧ e.span.start < other.span.stop

/-- Neither of two edits starts inside the other, and they do not both replace what starts at one
place. -/
structure Edit.Compatible (a b : Edit) : Prop where
  outside : ¬ a.StartsInside b
  outside' : ¬ b.StartsInside a
  distinct : a.isInsertion = false → b.isInsertion = false → a.span.start ≠ b.span.start

theorem Edit.isInsertion_iff {e : Edit} : e.isInsertion = true ↔ e.span.stop ≤ e.span.start := by
  simp only [Edit.isInsertion, Span.isEmpty, decide_eq_true_eq]

theorem Edit.isInsertion_eq_false_iff {e : Edit} :
    e.isInsertion = false ↔ e.span.start < e.span.stop := by
  simp only [Edit.isInsertion, Span.isEmpty, decide_eq_false_iff_not, Nat.not_le]

theorem Edit.compatible_iff {a b : Edit} (ha : a.span.start ≤ a.span.stop)
    (hb : b.span.start ≤ b.span.stop) : a.Compatible b ↔ a.span.Apart b.span := by
  constructor
  · rintro ⟨houtside, houtside', hdistinct⟩
    simp only [Edit.StartsInside, Edit.isInsertion_eq_false_iff] at houtside houtside' hdistinct
    show a.span.stop ≤ b.span.start ∨ b.span.stop ≤ a.span.start
    omega
  · intro hapart
    rw [Span.Apart] at hapart
    refine ⟨?_, ?_, ?_⟩ <;>
      simp only [Edit.StartsInside, Edit.isInsertion_eq_false_iff] <;> omega

theorem Span.within_iff_isPlace {source : List Char} {s : Span} :
    s.Within source ↔
      s.start ≤ s.stop ∧ s.stop ≤ Text.byteLength source ∧
        IsPlace source s.start ∧ IsPlace source s.stop := by
  constructor
  · intro h
    refine ⟨h.start_le_stop, ?_, h.isPlace_start, h.isPlace_stop⟩
    obtain ⟨front, back, rfl, hstop⟩ := h.isPlace_stop
    rw [Text.byteLength_append]
    omega
  · rintro ⟨hle, -, ⟨front, rest, hfront, hstart⟩, ⟨front', back, hback, hstop⟩⟩
    obtain ⟨text, rfl⟩ := prefix_of_byteLength_le (hfront.symm.trans hback) (by omega)
    exact Span.within_iff.mpr ⟨front, text, back, hback, hstart, hstop⟩

theorem within_and_ordered_of_splice {source rest out : List Char} (front : List Char)
    {edits : List Edit} (hsource : source = front ++ rest)
    (h : splice (Text.byteLength front) rest edits = .ok out) :
    (∀ e ∈ edits, e.span.Within source ∧ Text.byteLength front ≤ e.span.start) ∧
      edits.Pairwise fun a b => a.span.stop ≤ b.span.start := by
  induction edits generalizing front rest out with
  | nil => exact ⟨by simp, .nil⟩
  | cons e edits ih =>
      obtain ⟨hstart, hstop, kept, taken, behind, result, rfl, hkept, htaken, hresult, -⟩ :=
        splice_cons_eq_ok_iff.mp h
      have hsource' : source = (front ++ kept ++ taken) ++ behind := by simp [hsource]
      have hend : Text.byteLength (front ++ kept ++ taken) = e.span.stop := by
        simp only [Text.byteLength_append]
        omega
      rw [← hend] at hresult
      obtain ⟨hwithin, hordered⟩ := ih _ hsource' hresult
      rw [hend] at hwithin
      constructor
      · intro d hd
        rcases List.mem_cons.mp hd with rfl | hd
        · refine ⟨Span.within_iff.mpr ⟨front ++ kept, taken, behind, by simp [hsource], ?_, hend⟩,
            hstart⟩
          rw [Text.byteLength_append]
          omega
        · have hbehind := (hwithin d hd).2
          exact ⟨(hwithin d hd).1, by omega⟩
      · exact List.pairwise_cons.mpr ⟨fun d hd => (hwithin d hd).2, hordered⟩

section

variable {e : Edit} {edits : List Edit} {offset : Nat}

theorem insertedAt_cons (e : Edit) (edits : List Edit) (offset : Nat) :
    insertedAt (e :: edits) offset =
      (if e.isInsertion && e.span.start == offset then e.text.toList else []) ++
        insertedAt edits offset := by
  rw [insertedAt, List.filter_cons]
  split <;> rfl

theorem replacedAt_cons (e : Edit) (edits : List Edit) (offset : Nat) :
    replacedAt (e :: edits) offset =
      (if !e.isInsertion && e.span.start == offset then e.text.toList else []) ++
        replacedAt edits offset := by
  rw [replacedAt, List.filter_cons]
  split <;> rfl

theorem isReplaced_cons (e : Edit) (edits : List Edit) (offset : Nat) :
    isReplaced (e :: edits) offset =
      ((decide (e.span.start ≤ offset) && decide (offset < e.span.stop)) ||
        isReplaced edits offset) := by
  rw [isReplaced, List.any_cons]
  rfl

theorem rewritten_nil (offset : Nat) (cs : List Char) : rewritten [] offset cs = cs := by
  induction cs generalizing offset with
  | nil => rfl
  | cons c cs ih =>
      rw [rewritten, ih]
      rfl

/-- Nothing happens at a place in front of all edits. -/
theorem idle_of_lt (h : ∀ e ∈ edits, offset < e.span.start) :
    insertedAt edits offset = [] ∧ replacedAt edits offset = [] ∧
      isReplaced edits offset = false := by
  induction edits with
  | nil => exact ⟨rfl, rfl, rfl⟩
  | cons e edits ih =>
      obtain ⟨hinserted, hreplaced, hcovered⟩ := ih fun d hd => h d (List.mem_cons_of_mem e hd)
      have hlt := h e List.mem_cons_self
      have hstart : (e.span.start == offset) = false := by
        rw [beq_eq_false_iff_ne]
        omega
      have hle : decide (e.span.start ≤ offset) = false := decide_eq_false (by omega)
      rw [insertedAt_cons, replacedAt_cons, isReplaced_cons, hinserted, hreplaced, hcovered, hstart,
        hle]
      simp

/-- What stands in front of all edits is kept. -/
theorem rewritten_append {kept rest : List Char}
    (h : ∀ e ∈ edits, offset + Text.byteLength kept ≤ e.span.start) :
    rewritten edits offset (kept ++ rest) =
      kept ++ rewritten edits (offset + Text.byteLength kept) rest := by
  induction kept generalizing offset with
  | nil => rfl
  | cons c kept ih =>
      have hpos := c.utf8Size_pos
      simp only [Text.byteLength] at h ⊢
      rw [← Nat.add_assoc] at h ⊢
      have hlt : ∀ e ∈ edits, offset < e.span.start := by
        intro e he
        have hle := h e he
        omega
      obtain ⟨hinserted, hreplaced, hcovered⟩ := idle_of_lt hlt
      rw [List.cons_append, rewritten, hinserted, hreplaced, hcovered, ih h]
      rfl

/-- An edit has no part in what comes behind it. -/
theorem rewritten_cons_of_lt {rest : List Char} (hstart : e.span.start < offset)
    (hstop : e.span.stop ≤ offset) :
    rewritten (e :: edits) offset rest = rewritten edits offset rest := by
  have hplace : ∀ offset, e.span.start < offset → e.span.stop ≤ offset →
      insertedAt (e :: edits) offset = insertedAt edits offset ∧
        replacedAt (e :: edits) offset = replacedAt edits offset ∧
        isReplaced (e :: edits) offset = isReplaced edits offset := by
    intro offset hstart hstop
    have hne : (e.span.start == offset) = false := by
      rw [beq_eq_false_iff_ne]
      omega
    have hlt : decide (offset < e.span.stop) = false := decide_eq_false (by omega)
    rw [insertedAt_cons, replacedAt_cons, isReplaced_cons, hne, hlt]
    simp
  induction rest generalizing offset with
  | nil => exact (hplace offset hstart hstop).1
  | cons c rest ih =>
      obtain ⟨hinserted, hreplaced, hcovered⟩ := hplace offset hstart hstop
      rw [rewritten, rewritten, hinserted, hreplaced, hcovered, ih (by omega) (by omega)]

theorem rewritten_insertion {rest : List Char} (hempty : e.span.stop ≤ e.span.start) :
    rewritten (e :: edits) e.span.start rest =
      e.text.toList ++ rewritten edits e.span.start rest := by
  have hinsertion : e.isInsertion = true := Edit.isInsertion_iff.mpr hempty
  have hinserted : insertedAt (e :: edits) e.span.start =
      e.text.toList ++ insertedAt edits e.span.start := by
    simp [insertedAt_cons, hinsertion]
  cases rest with
  | nil => exact hinserted
  | cons c rest =>
      have hpos := c.utf8Size_pos
      have hreplaced : replacedAt (e :: edits) e.span.start = replacedAt edits e.span.start := by
        simp [replacedAt_cons, hinsertion]
      have hcovered : isReplaced (e :: edits) e.span.start = isReplaced edits e.span.start := by
        have hlt : decide (e.span.start < e.span.stop) = false := decide_eq_false (by omega)
        simp only [isReplaced_cons, hlt, Bool.and_false, Bool.false_or]
      rw [rewritten, rewritten, hinserted, hreplaced, hcovered,
        rewritten_cons_of_lt (by omega) (by omega)]
      simp only [List.append_assoc]

/-- The rest of a span that is replaced leaves nothing behind. -/
theorem rewritten_replaced {taken behind : List Char} (hstart : e.span.start < offset)
    (hstop : offset + Text.byteLength taken = e.span.stop)
    (hbehind : ∀ d ∈ edits, e.span.stop ≤ d.span.start) :
    rewritten (e :: edits) offset (taken ++ behind) = rewritten edits e.span.stop behind := by
  induction taken generalizing offset with
  | nil =>
      obtain rfl : offset = e.span.stop := hstop
      exact rewritten_cons_of_lt hstart (Nat.le_refl _)
  | cons c taken ih =>
      have hpos := c.utf8Size_pos
      simp only [Text.byteLength] at hstop
      have hlt : ∀ d ∈ edits, offset < d.span.start := by
        intro d hd
        have hle := hbehind d hd
        omega
      obtain ⟨hinserted, hreplaced, -⟩ := idle_of_lt hlt
      have hne : (e.span.start == offset) = false := by
        rw [beq_eq_false_iff_ne]
        omega
      have hcovered : isReplaced (e :: edits) offset = true := by
        rw [isReplaced_cons, decide_eq_true (by omega), decide_eq_true (by omega)]
        rfl
      rw [List.cons_append, rewritten, hcovered, insertedAt_cons, replacedAt_cons, hinserted,
        hreplaced, hne, ih (by omega) (by omega)]
      simp

theorem rewritten_replacement {taken behind : List Char} (hlt : e.span.start < e.span.stop)
    (htaken : Text.byteLength taken = e.span.stop - e.span.start)
    (hbehind : ∀ d ∈ edits, e.span.stop ≤ d.span.start) :
    rewritten (e :: edits) e.span.start (taken ++ behind) =
      e.text.toList ++ rewritten edits e.span.stop behind := by
  have hinsertion : e.isInsertion = false := Edit.isInsertion_eq_false_iff.mpr hlt
  cases taken with
  | nil =>
      simp only [Text.byteLength] at htaken
      omega
  | cons c taken =>
      have hpos := c.utf8Size_pos
      simp only [Text.byteLength] at htaken
      have hfront : ∀ d ∈ edits, e.span.start < d.span.start :=
        fun d hd => Nat.lt_of_lt_of_le hlt (hbehind d hd)
      obtain ⟨hinserted, hreplaced, -⟩ := idle_of_lt hfront
      have hcovered : isReplaced (e :: edits) e.span.start = true := by
        rw [isReplaced_cons, decide_eq_true (Nat.le_refl _), decide_eq_true hlt]
        rfl
      rw [List.cons_append, rewritten, hcovered, insertedAt_cons, replacedAt_cons, hinserted,
        hreplaced, hinsertion, rewritten_replaced (by omega) (by omega) hbehind]
      simp

end

/-- Splicing edits that stand one behind the other gives what they mean. -/
theorem eq_rewritten_of_splice {applied : Nat} {rest out : List Char} {edits : List Edit}
    (h : splice applied rest edits = .ok out)
    (hordered : edits.Pairwise fun a b => a.span.stop ≤ b.span.start) :
    out = rewritten edits applied rest := by
  induction edits generalizing applied rest out with
  | nil =>
      obtain rfl := Except.ok.inj h
      exact (rewritten_nil applied rest).symm
  | cons e edits ih =>
      obtain ⟨hstart, hstop, kept, taken, behind, result, rfl, hkept, htaken, hresult, rfl⟩ :=
        splice_cons_eq_ok_iff.mp h
      obtain ⟨hhead, htail⟩ := List.pairwise_cons.mp hordered
      have hfront : applied + Text.byteLength kept = e.span.start := by omega
      have hall : ∀ d ∈ e :: edits, applied + Text.byteLength kept ≤ d.span.start := by
        intro d hd
        rcases List.mem_cons.mp hd with rfl | hd
        · omega
        · have := hhead d hd
          omega
      rw [List.append_assoc, List.append_assoc, rewritten_append hall, hfront, ih hresult htail]
      congr 1
      rcases Nat.lt_or_ge e.span.start e.span.stop with hlt | hge
      · exact (rewritten_replacement hlt htaken hhead).symm
      · have hnone : taken = [] := Text.eq_nil_of_byteLength (by omega)
        have hsame : e.span.stop = e.span.start := by omega
        rw [hnone, List.nil_append, rewritten_insertion hge, hsame]

/-- Sorting keeps the order of elements that are equal to each other. -/
theorem filter_mergeSort {edits : List Edit} {p : Edit → Bool}
    (h : ∀ a b, p a = true → p b = true → Edit.le a b = true) :
    (edits.mergeSort Edit.le).filter p = edits.filter p := by
  have hsublist : (edits.filter p).Sublist (edits.mergeSort Edit.le) := by
    apply List.sublist_mergeSort Edit.le_trans Edit.le_total _ List.filter_sublist
    apply List.pairwise_of_forall_mem_list
    intro a ha b hb
    exact h a b (List.mem_filter.mp ha).2 (List.mem_filter.mp hb).2
  have hfilter : (edits.filter p).Sublist ((edits.mergeSort Edit.le).filter p) := by
    simpa using hsublist.filter p
  have hperm := (List.mergeSort_perm edits Edit.le).filter p
  exact (hfilter.eq_of_length hperm.length_eq.symm).symm

/-- What edits mean does not depend on whether they are sorted. -/
theorem rewritten_mergeSort (edits : List Edit) (offset : Nat) (cs : List Char) :
    rewritten (edits.mergeSort Edit.le) offset cs = rewritten edits offset cs := by
  have hinserted : ∀ offset, insertedAt (edits.mergeSort Edit.le) offset =
      insertedAt edits offset := by
    intro offset
    rw [insertedAt, filter_mergeSort, insertedAt]
    simp only [Bool.and_eq_true, beq_iff_eq, Edit.le, Bool.or_eq_true]
    rintro a b ⟨ha, rfl⟩ ⟨-, hb⟩
    exact Or.inr ⟨hb.symm, Or.inl ha⟩
  have hreplaced : ∀ offset, replacedAt (edits.mergeSort Edit.le) offset =
      replacedAt edits offset := by
    intro offset
    rw [replacedAt, filter_mergeSort, replacedAt]
    simp only [Bool.and_eq_true, beq_iff_eq, Edit.le, Bool.or_eq_true]
    rintro a b ⟨-, rfl⟩ ⟨hb, hstart⟩
    exact Or.inr ⟨hstart.symm, Or.inr hb⟩
  have hcovered : ∀ offset, isReplaced (edits.mergeSort Edit.le) offset =
      isReplaced edits offset :=
    fun offset => (List.mergeSort_perm edits Edit.le).any_eq
  induction cs generalizing offset with
  | nil => exact hinserted offset
  | cons c cs ih => rw [rewritten, rewritten, hinserted, hreplaced, hcovered, ih]

/-- Edits can be applied exactly if each of them takes a span of the source, none starts inside
another one and no two of them replace spans with the same start. The result is what they mean. -/
theorem applyEdits_eq_ok_iff {source code : String} {edits : List Edit} :
    applyEdits source edits = .ok code ↔
      (∀ e ∈ edits, e.span.start ≤ e.span.stop ∧
        e.span.stop ≤ Text.byteLength source.toList ∧
        IsPlace source.toList e.span.start ∧ IsPlace source.toList e.span.stop) ∧
      edits.Pairwise Edit.Compatible ∧
      code.toList = rewritten edits 0 source.toList := by
  have hsorted := List.mergeSort_perm edits Edit.le
  constructor
  · intro h
    obtain ⟨out, hout, rfl⟩ := exists_of_map_eq_ok h
    obtain ⟨hwithin, hordered⟩ := within_and_ordered_of_splice [] rfl hout
    have hwithin' : ∀ e ∈ edits, e.span.Within source.toList :=
      fun e he => (hwithin e (hsorted.mem_iff.mpr he)).1
    refine ⟨fun e he => Span.within_iff_isPlace.mp (hwithin' e he), ?_, ?_⟩
    · have hapart : edits.Pairwise fun a b => a.span.Apart b.span :=
        hsorted.pairwise (hordered.imp Or.inl) Span.Apart.symm
      apply hapart.imp_of_mem
      intro a b ha hb hab
      exact (Edit.compatible_iff (hwithin' a ha).start_le_stop (hwithin' b hb).start_le_stop).mpr
        hab
    · rw [String.toList_ofList, eq_rewritten_of_splice hout hordered, rewritten_mergeSort]
  · rintro ⟨hwithin, hcompatible, hcode⟩
    have hwithin' : ∀ e ∈ edits, e.span.Within source.toList :=
      fun e he => Span.within_iff_isPlace.mpr (hwithin e he)
    have hapart : edits.Pairwise fun a b => a.span.Apart b.span := by
      apply hcompatible.imp_of_mem
      intro a b ha hb hab
      exact (Edit.compatible_iff (hwithin a ha).1 (hwithin b hb).1).mp hab
    obtain ⟨result, hresult⟩ := exists_applyEdits_eq_ok hwithin' hapart
    obtain ⟨out, hout, rfl⟩ := exists_of_map_eq_ok hresult
    obtain ⟨-, hordered⟩ := within_and_ordered_of_splice [] rfl hout
    have hmeaning : out = code.toList := by
      rw [eq_rewritten_of_splice hout hordered, rewritten_mergeSort, hcode]
    rw [hresult, hmeaning, String.ofList_toList]

/-- Insertions come in recording order before a replacement at the same place. -/
example : rewritten [.insert 0 "a", ⟨⟨0, 1⟩, "Z"⟩, .insert 0 "b", .insert 1 "c"] 0 "xy".toList =
    "abZcy".toList := by
  decide

end Phrasebook.Source

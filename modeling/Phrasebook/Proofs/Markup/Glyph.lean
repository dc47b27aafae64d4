import Phrasebook.Markup.Entity
import Phrasebook.Text.Class

/-!
Text between tags, character by character.

A glyph is a character that readers see, with the text that it is written as: the character itself
or a reference to it. White space can be cut off on either side of this. What is cut from the text
as written is white space that stands for itself, and what is cut from the value may be written as
references, so the two cuts differ by references to white space and by nothing else.
-/

namespace Phrasebook

section

variable {α β : Type} {p : α → Bool}

/-- A list of which neither the first nor the last member has a property. -/
structure Solid (p : α → Bool) (l : List α) : Prop where
  first : ∃ x rest, l = x :: rest ∧ p x = false
  last : ∃ front x, l = front ++ [x] ∧ p x = false

theorem Solid.flatMap {q : β → Bool} {l : List α} {f : α → List β} (h : Solid p l)
    (hf : ∀ x ∈ l, p x = false → Solid q (f x)) : Solid q (l.flatMap f) := by
  constructor
  · obtain ⟨x, rest, rfl, hx⟩ := h.first
    obtain ⟨y, more, hy, hfalse⟩ := (hf x List.mem_cons_self hx).first
    exact ⟨y, more ++ rest.flatMap f, by rw [List.flatMap_cons, hy, List.cons_append], hfalse⟩
  · obtain ⟨front, x, rfl, hx⟩ := h.last
    obtain ⟨init, y, hy, hfalse⟩ := (hf x (by simp) hx).last
    exact ⟨front.flatMap f ++ init, y, by simp [hy], hfalse⟩

theorem Solid.map {q : β → Bool} {l : List α} {f : α → β} (h : Solid p l)
    (hf : ∀ x, p x = false → q (f x) = false) : Solid q (l.map f) := by
  constructor
  · obtain ⟨x, rest, rfl, hx⟩ := h.first
    exact ⟨f x, rest.map f, List.map_cons .., hf x hx⟩
  · obtain ⟨front, x, rfl, hx⟩ := h.last
    exact ⟨front.map f, f x, by simp, hf x hx⟩

theorem Solid.first_iff {front mid back : List α} (hmid : Solid p mid)
    (hfront : ∀ x ∈ front, p x = true) :
    (∃ x rest, front ++ mid ++ back = x :: rest ∧ p x = true) ↔ front ≠ [] := by
  cases front with
  | nil =>
      obtain ⟨y, more, rfl, hy⟩ := hmid.first
      simp [hy]
  | cons y front => simp [hfront y List.mem_cons_self]

theorem Solid.last_iff {front mid back : List α} (hmid : Solid p mid)
    (hback : ∀ x ∈ back, p x = true) :
    (∃ init x, front ++ mid ++ back = init ++ [x] ∧ p x = true) ↔ back ≠ [] := by
  rcases List.eq_nil_or_concat back with rfl | ⟨back, y, rfl⟩
  · obtain ⟨more, y, rfl, hy⟩ := hmid.last
    simp only [List.append_nil, ← List.append_assoc, ne_eq, not_true]
    refine iff_of_false ?_ id
    rintro ⟨init, x, hconcat, hx⟩
    obtain ⟨-, hsingle⟩ := List.append_inj' hconcat rfl
    obtain ⟨rfl, -⟩ := List.cons.inj hsingle
    exact Bool.false_ne_true (hy.symm.trans hx)
  · exact iff_of_true ⟨front ++ mid ++ back, y, by simp, hback y (by simp)⟩ (by simp)

theorem exists_solid {l : List α} (h : ∃ x ∈ l, p x = false) :
    ∃ front mid back, l = front ++ mid ++ back ∧ (∀ x ∈ front, p x = true) ∧ Solid p mid ∧
      ∀ x ∈ back, p x = true := by
  induction l with
  | nil =>
      obtain ⟨x, hx, -⟩ := h
      cases hx
  | cons y l ih =>
      by_cases hrest : ∃ x ∈ l, p x = false
      · obtain ⟨front, mid, back, rfl, hfront, hmid, hback⟩ := ih hrest
        cases hy : p y with
        | true =>
            refine ⟨y :: front, mid, back, rfl, fun x hx => ?_, hmid, hback⟩
            rcases List.mem_cons.mp hx with rfl | hx
            · exact hy
            · exact hfront x hx
        | false =>
            obtain ⟨init, z, rfl, hz⟩ := hmid.last
            exact ⟨[], y :: (front ++ (init ++ [z])), back, by simp, by simp,
              ⟨⟨y, _, rfl, hy⟩, ⟨y :: (front ++ init), z, by simp, hz⟩⟩, hback⟩
      · have hall : ∀ x ∈ l, p x = true := by
          intro x hx
          cases hpx : p x with
          | true => rfl
          | false => exact absurd ⟨x, hx, hpx⟩ hrest
        obtain ⟨x, hx, hfalse⟩ := h
        rcases List.mem_cons.mp hx with rfl | hx
        · exact ⟨[], [x], l, rfl, by simp, ⟨⟨x, [], rfl, hfalse⟩, ⟨[], x, rfl, hfalse⟩⟩, hall⟩
        · exact absurd ⟨x, hx, hfalse⟩ hrest

end

namespace Text

theorem trimEnd_blank {cs : List Char} (h : ∀ c ∈ cs, isBlank c = true) : trimEnd cs = [] := by
  induction cs with
  | nil => rfl
  | cons c cs ih =>
      rw [trimEnd, ih fun d hd => h d (List.mem_cons_of_mem c hd), h c List.mem_cons_self]
      rfl

theorem trimEnd_append_blank {front back : List Char} (h : ∀ c ∈ back, isBlank c = true) :
    trimEnd (front ++ back) = trimEnd front := by
  induction front with
  | nil => exact trimEnd_blank h
  | cons c front ih => rw [List.cons_append, trimEnd, ih, trimEnd]

theorem trimEnd_concat {front : List Char} {c : Char} (h : isBlank c = false) :
    trimEnd (front ++ [c]) = front ++ [c] := by
  induction front with
  | nil => simp [trimEnd, h]
  | cons d front ih =>
      obtain ⟨e, rest, hcons⟩ : ∃ e rest, front ++ [c] = e :: rest :=
        List.exists_cons_of_ne_nil (by simp)
      rw [List.cons_append, trimEnd, ih, hcons]

theorem trimStart_append {front rest : List Char} (h : ∀ c ∈ front, isBlank c = true) :
    trimStart (front ++ rest) = trimStart rest :=
  List.dropWhile_append_of_pos h

/-- What is left between white space is what neither starts nor ends with it. -/
theorem trim_of_solid {front mid back : List Char} (hfront : ∀ c ∈ front, isBlank c = true)
    (hmid : Solid isBlank mid) (hback : ∀ c ∈ back, isBlank c = true) :
    trimStart (front ++ mid ++ back) = mid ++ back ∧
      trimEnd (front ++ mid ++ back) = front ++ mid ∧ trim (front ++ mid ++ back) = mid := by
  obtain ⟨c, rest, hcons, hc⟩ := hmid.first
  obtain ⟨init, d, hconcat, hd⟩ := hmid.last
  have hstart : trimStart (front ++ mid ++ back) = mid ++ back := by
    rw [List.append_assoc, trimStart_append hfront, hcons]
    simp [trimStart, hc]
  refine ⟨hstart, ?_, ?_⟩
  · rw [trimEnd_append_blank hback, hconcat, ← List.append_assoc, trimEnd_concat hd]
  · rw [trim, hstart, trimEnd_append_blank hback, hconcat, trimEnd_concat hd]

theorem exists_mem_of_trim_ne_nil {cs : List Char} (h : trim cs ≠ []) :
    ∃ c ∈ cs, isBlank c = false := by
  cases hstart : trimStart cs with
  | nil => exact absurd (by rw [trim, hstart]; rfl) h
  | cons c rest =>
      have hblank := List.head?_dropWhile_not isBlank cs
      rw [← trimStart, hstart] at hblank
      exact ⟨c, (List.dropWhile_sublist isBlank).mem (by rw [← trimStart, hstart]; simp), by
        simpa using hblank⟩

end Text

namespace Markup

open Text (isBlank trim trimStart trimEnd)

/-- A name that stands for a character when it is put between an ampersand and a semicolon. -/
structure Names (name : List Char) (c : Char) : Prop where
  short : name.length ≤ 9
  closed : ';' ∉ name
  resolved : resolveEntity name = some c

theorem entityAhead?_eq_some_iff {cs : List Char} {c : Char} {n : Nat} :
    entityAhead? cs = some (c, n) ↔
      ∃ name rest, cs = name ++ ';' :: rest ∧ n = name.length + 1 ∧ Names name c := by
  constructor
  · intro h
    simp only [entityAhead?] at h
    split at h
    · cases h
    rename_i hlength
    obtain ⟨d, hd, hpair⟩ := Option.map_eq_some_iff.mp h
    obtain ⟨rfl, rfl⟩ := Prod.mk.inj hpair
    have hsplit : (cs.take 10).takeWhile (· ≠ ';') ++ (cs.take 10).dropWhile (· ≠ ';') =
        cs.take 10 := List.takeWhile_append_dropWhile
    have hcount := congrArg List.length hsplit
    rw [List.length_append] at hcount
    have hten : (cs.take 10).length ≤ 10 := List.length_take_le 10 cs
    obtain ⟨e, more, hmore⟩ : ∃ e more, (cs.take 10).dropWhile (· ≠ ';') = e :: more := by
      refine List.exists_cons_of_ne_nil fun hnil => ?_
      rw [hnil, List.length_nil] at hcount
      omega
    have hsemicolon : e = ';' := by
      have hfirst := List.head?_dropWhile_not (fun c : Char => decide (c ≠ ';')) (cs.take 10)
      rw [hmore] at hfirst
      simpa using hfirst
    refine ⟨_, more ++ cs.drop 10, ?_, rfl, by omega, ?_, hd⟩
    · rw [hmore, hsemicolon] at hsplit
      rw [← List.cons_append, ← List.append_assoc, hsplit, List.take_append_drop]
    · intro hmem
      have hall := List.all_eq_true.mp (List.all_takeWhile (l := cs.take 10)) _ hmem
      simp at hall
  · rintro ⟨name, rest, rfl, rfl, hshort, hclosed, hresolved⟩
    have htake : (name ++ ';' :: rest).take 10 = name ++ ';' :: rest.take (9 - name.length) := by
      rw [List.take_append, List.take_of_length_le (by omega)]
      have hten : 10 - name.length = (9 - name.length) + 1 := by omega
      rw [hten, List.take_succ_cons]
    have hname : (name ++ ';' :: rest.take (9 - name.length)).takeWhile (· ≠ ';') = name := by
      rw [List.takeWhile_append_of_pos, List.takeWhile_cons_of_neg (by simp), List.append_nil]
      intro c hc
      simpa using fun h : c = ';' => hclosed (h ▸ hc)
    simp only [entityAhead?, htake, hname, hresolved]
    rw [if_neg (by simp)]
    rfl

theorem valueOfDigits?_of_mem {radix : Nat} {digits : List Char} (h : '&' ∈ digits) :
    valueOfDigits? radix digits = none := by
  obtain ⟨front, back, rfl⟩ := List.append_of_mem h
  unfold valueOfDigits?
  rw [List.foldl_append, List.foldl_cons]
  generalize List.foldl _ _ front = acc
  have hdigit : (if '&'.isDigit then '&'.toNat - 48
      else if 'a' ≤ '&' && '&' ≤ 'f' then '&'.toNat - 87
      else if 'A' ≤ '&' && '&' ≤ 'F' then '&'.toNat - 55 else radix) = radix := rfl
  have hnone : (acc.bind fun n => if radix < radix then some (n * radix + radix) else none) =
      none := by
    cases acc <;> simp
  simp only [hdigit, hnone]
  induction back with
  | nil => rfl
  | cons c back ih => exact ih (by simp)

theorem ampersand_not_mem_names :
    (namedEntities.all fun p => !p.1.toList.contains '&') = true := by
  decide +kernel

/-- No reference begins inside another one. -/
theorem Names.ampersand_not_mem {name : List Char} {c : Char} (h : Names name c) : '&' ∉ name := by
  intro hmem
  have hresolved := h.resolved
  unfold resolveEntity at hresolved
  split at hresolved
  · rename_i digits
    rw [valueOfDigits?_of_mem (by simpa using hmem)] at hresolved
    cases hresolved
  · rename_i digits _
    rw [valueOfDigits?_of_mem (by simpa using hmem)] at hresolved
    cases hresolved
  · obtain ⟨n, hn, -⟩ := Option.bind_eq_some_iff.mp hresolved
    obtain ⟨front, back, hsplit, -⟩ := List.lookup_eq_some_iff.mp hn
    have hplain := List.all_eq_true.mp ampersand_not_mem_names (String.ofList name, n)
      (by rw [hsplit]; simp)
    simp [hmem] at hplain

/-- A character that readers see, and the text that it is written as. -/
structure Glyph where
  written : List Char
  shown : Char
deriving DecidableEq

namespace Glyph

/-- A character that stands for itself. -/
def plain (c : Char) : Glyph := ⟨[c], c⟩

def reference (name : List Char) (c : Char) : Glyph := ⟨'&' :: (name ++ [';']), c⟩

/-- White space that stands for itself. -/
def isGap (g : Glyph) : Bool := g.written = [g.shown] && isBlank g.shown

inductive IsProper : Glyph → Prop
  | plain (c : Char) : IsProper (plain c)
  | reference {name : List Char} {c : Char} (h : Names name c) : IsProper (reference name c)

end Glyph

/-- The glyphs of a text between tags. -/
def glyphs : List Char → List Glyph
  | [] => []
  | c :: cs =>
      match if c = '&' then entityAhead? cs else none with
      | some (shown, n) => ⟨c :: cs.take n, shown⟩ :: glyphs (cs.drop n)
      | none => .plain c :: glyphs cs
termination_by cs => cs.length

theorem take_name (name rest : List Char) :
    (name ++ ';' :: rest).take (name.length + 1) = name ++ [';'] ∧
      (name ++ ';' :: rest).drop (name.length + 1) = rest := by
  rw [List.append_cons]
  exact ⟨List.take_left' (by simp), List.drop_left' (by simp)⟩

theorem glyphs_plain {c : Char} {cs : List Char} (h : c = '&' → entityAhead? cs = none) :
    glyphs (c :: cs) = .plain c :: glyphs cs := by
  have hnone : (if c = '&' then entityAhead? cs else none) = none := by
    split
    · rename_i hc
      exact h hc
    · rfl
  rw [glyphs, hnone]

theorem glyphs_reference {name : List Char} {c : Char} (h : Names name c) (rest : List Char) :
    glyphs ('&' :: (name ++ ';' :: rest)) = .reference name c :: glyphs rest := by
  have hahead : entityAhead? (name ++ ';' :: rest) = some (c, name.length + 1) :=
    entityAhead?_eq_some_iff.mpr ⟨name, rest, rfl, rfl, h⟩
  rw [glyphs, if_pos rfl, hahead]
  simp only [(take_name name rest).1, (take_name name rest).2]
  rfl

/-- A text is empty, or starts with a character that stands for itself or with a reference. -/
@[elab_as_elim]
theorem glyphs_induction {motive : List Char → Prop} (nil : motive [])
    (plain : ∀ c cs, (c = '&' → entityAhead? cs = none) → motive cs → motive (c :: cs))
    (reference : ∀ name c rest, Names name c → motive rest →
      motive ('&' :: (name ++ ';' :: rest))) (cs : List Char) : motive cs := by
  fun_induction glyphs cs with
  | case1 => exact nil
  | case2 c cs shown n hahead ih =>
      split at hahead
      · rename_i hc
        obtain ⟨name, rest, rfl, rfl, hname⟩ := entityAhead?_eq_some_iff.mp hahead
        rw [hc]
        rw [(take_name name rest).2] at ih
        exact reference name shown rest hname ih
      · cases hahead
  | case3 c cs hahead ih =>
      refine plain c cs (fun hc => ?_) ih
      rwa [dif_pos hc] at hahead

theorem decodeFrom_skip (n : Nat) (cs : List Char) :
    decodeFrom false n cs = decodeText (cs.drop n) := by
  induction cs generalizing n with
  | nil => simp [decodeFrom, decodeText]
  | cons c cs ih =>
      cases n with
      | zero => rfl
      | succ n => exact ih n

theorem map_shown_glyphs (cs : List Char) : (glyphs cs).map (·.shown) = decodeText cs := by
  induction cs using glyphs_induction with
  | nil => simp [glyphs, decodeText, decodeFrom]
  | plain c cs h ih =>
      rw [glyphs_plain h, List.map_cons, ih]
      simp only [decodeText, decodeFrom]
      by_cases hc : c = '&'
      · rw [if_pos hc, h hc]
        rfl
      · rw [if_neg hc]
        rfl
  | reference name c rest h ih =>
      have hahead : entityAhead? (name ++ ';' :: rest) = some (c, name.length + 1) :=
        entityAhead?_eq_some_iff.mpr ⟨name, rest, rfl, rfl, h⟩
      have hskip : decodeFrom false (name.length + 1) (name ++ ';' :: rest) = decodeText rest := by
        rw [decodeFrom_skip, (take_name name rest).2]
      rw [glyphs_reference h, List.map_cons, ih, ← hskip]
      simp only [decodeText, decodeFrom]
      rw [if_pos trivial, hahead]
      rfl

theorem flatMap_written_glyphs (cs : List Char) : (glyphs cs).flatMap (·.written) = cs := by
  induction cs using glyphs_induction with
  | nil => simp [glyphs]
  | plain c cs h ih => rw [glyphs_plain h, List.flatMap_cons, ih]; rfl
  | reference name c rest h ih =>
      rw [glyphs_reference h, List.flatMap_cons, ih]
      simp [Glyph.reference]

theorem isProper_of_mem_glyphs {cs : List Char} {g : Glyph} (hg : g ∈ glyphs cs) :
    g.IsProper := by
  induction cs using glyphs_induction with
  | nil => simp [glyphs] at hg
  | plain c cs h ih =>
      rw [glyphs_plain h] at hg
      rcases List.mem_cons.mp hg with rfl | hg
      · exact .plain c
      · exact ih hg
  | reference name c rest h ih =>
      rw [glyphs_reference h] at hg
      rcases List.mem_cons.mp hg with rfl | hg
      · exact .reference h
      · exact ih hg

theorem glyphs_append_of_not_mem {front : List Char} (h : '&' ∉ front) (cs : List Char) :
    glyphs (front ++ cs) = front.map .plain ++ glyphs cs := by
  induction front with
  | nil => rfl
  | cons c front ih =>
      have hc : c ≠ '&' := fun hc => h (hc ▸ List.mem_cons_self)
      rw [List.cons_append, glyphs_plain fun hamp => absurd hamp hc,
        ih fun hmem => h (List.mem_cons_of_mem c hmem)]
      rfl

/-- An ampersand ends whatever could have been a reference. -/
theorem entityAhead?_append {front : List Char} (h : entityAhead? front = none) (cs : List Char) :
    entityAhead? (front ++ '&' :: cs) = none := by
  cases hahead : entityAhead? (front ++ '&' :: cs) with
  | none => rfl
  | some found =>
      obtain ⟨c, n⟩ := found
      obtain ⟨name, rest, hsplit, rfl, hname⟩ := entityAhead?_eq_some_iff.mp hahead
      rcases List.append_eq_append_iff.mp hsplit with ⟨more, rfl, hmore⟩ | ⟨more, rfl, hmore⟩
      · rcases more with _ | ⟨d, more⟩
        · cases hmore
        · obtain ⟨rfl, -⟩ := List.cons.inj hmore
          exact absurd (by simp) hname.ampersand_not_mem
      · rcases more with _ | ⟨d, more⟩
        · cases hmore
        · obtain ⟨rfl, -⟩ := List.cons.inj hmore
          have hsome := entityAhead?_eq_some_iff.mpr ⟨name, more, rfl, rfl, hname⟩
          rw [h] at hsome
          cases hsome

theorem glyphs_append (front cs : List Char) :
    glyphs (front ++ '&' :: cs) = glyphs front ++ glyphs ('&' :: cs) := by
  induction front using glyphs_induction with
  | nil => simp [glyphs]
  | plain c front h ih =>
      rw [List.cons_append, glyphs_plain fun hc => entityAhead?_append (h hc) cs, glyphs_plain h,
        ih]
      rfl
  | reference name c rest h ih =>
      have hassoc : '&' :: (name ++ ';' :: rest) ++ '&' :: cs =
          '&' :: (name ++ ';' :: (rest ++ '&' :: cs)) := by simp
      rw [hassoc, glyphs_reference h, glyphs_reference h, ih]
      rfl

namespace Glyph

theorem eq_plain_of_isGap {g : Glyph} (h : g.isGap = true) :
    g = plain g.shown ∧ isBlank g.shown = true := by
  simp only [isGap, Bool.and_eq_true, decide_eq_true_eq] at h
  obtain ⟨written, shown⟩ := g
  exact ⟨congrArg (Glyph.mk · shown) h.1, h.2⟩

theorem isGap_plain (c : Char) : (plain c).isGap = isBlank c := by
  simp [isGap, plain]

theorem isGap_of_isBlank_eq_false {g : Glyph} (h : isBlank g.shown = false) : g.isGap = false := by
  simp [isGap, h]

/-- White space that is no gap is written as a reference. -/
theorem IsProper.exists_reference {g : Glyph} (h : g.IsProper) (hgap : g.isGap = false)
    (hblank : isBlank g.shown = true) : ∃ name c, g = .reference name c ∧ Names name c := by
  cases h with
  | plain c =>
      rw [isGap_plain] at hgap
      exact absurd (hgap.symm.trans hblank) Bool.false_ne_true
  | @reference name c hname => exact ⟨name, c, rfl, hname⟩

/-- A glyph that is no gap is written without white space at its ends. -/
theorem IsProper.solid {g : Glyph} (h : g.IsProper) (hgap : g.isGap = false) :
    Solid isBlank g.written := by
  cases h with
  | plain c =>
      rw [isGap_plain] at hgap
      exact ⟨⟨c, [], rfl, hgap⟩, ⟨[], c, rfl, hgap⟩⟩
  | @reference name c hname =>
      exact ⟨⟨'&', name ++ [';'], rfl, by decide⟩, ⟨'&' :: name, ';', rfl, by decide⟩⟩

end Glyph

theorem eq_map_plain {gs : List Glyph} (h : ∀ g ∈ gs, g.isGap = true) :
    gs = (gs.map (·.shown)).map .plain ∧ gs.flatMap (·.written) = gs.map (·.shown) ∧
      ∀ c ∈ gs.map (·.shown), isBlank c = true := by
  induction gs with
  | nil => exact ⟨rfl, rfl, by simp⟩
  | cons g gs ih =>
      obtain ⟨hplain, hblank⟩ := Glyph.eq_plain_of_isGap (h g List.mem_cons_self)
      obtain ⟨hrest, hwritten, hblanks⟩ := ih fun g' hg' => h g' (List.mem_cons_of_mem g hg')
      refine ⟨?_, ?_, ?_⟩
      · rw [List.map_cons, List.map_cons, ← hplain, ← hrest]
      · rw [List.flatMap_cons, hwritten, hplain]
        rfl
      · rw [List.map_cons]
        intro c hc
        rcases List.mem_cons.mp hc with rfl | hc
        · exact hblank
        · exact hblanks c hc

/-- A text that begins with a reference to white space. -/
def StartsBlank (cs : List Char) : Prop :=
  ∃ name c rest, cs = '&' :: (name ++ ';' :: rest) ∧ Names name c ∧ isBlank c = true

def EndsBlank (cs : List Char) : Prop :=
  ∃ front name c, cs = front ++ '&' :: (name ++ [';']) ∧ Names name c ∧ isBlank c = true

theorem ampersand_not_mem_of_blank {cs : List Char} (h : ∀ c ∈ cs, isBlank c = true) :
    '&' ∉ cs :=
  fun hmem => absurd (h '&' hmem) (by decide)

section

variable {raw before after : List Char} {mid : List Glyph}

theorem startsBlank_iff (hglyphs : glyphs raw = before.map .plain ++ mid ++ after.map .plain)
    (hbefore : ∀ c ∈ before, isBlank c = true) (hmid : Solid Glyph.isGap mid) :
    StartsBlank (mid.flatMap (·.written)) ↔
      ∃ g rest, mid = g :: rest ∧ isBlank g.shown = true := by
  have hraw : raw = before ++ (mid.flatMap (·.written) ++ after) := by
    rw [← flatMap_written_glyphs raw, hglyphs]
    simp [Glyph.plain, List.flatMap_map]
  obtain ⟨g, rest, rfl, hgap⟩ := hmid.first
  constructor
  · rintro ⟨name, c, more, hstart, hname, hblank⟩
    refine ⟨g, rest, rfl, ?_⟩
    have hsplit : raw = before ++ '&' :: (name ++ ';' :: (more ++ after)) := by
      rw [hraw, hstart]
      simp
    rw [hsplit, glyphs_append_of_not_mem (ampersand_not_mem_of_blank hbefore),
      glyphs_reference hname, List.append_assoc] at hglyphs
    obtain ⟨rfl, -⟩ := List.cons.inj (List.append_cancel_left hglyphs)
    exact hblank
  · rintro ⟨g', rest', hcons, hblank⟩
    obtain ⟨rfl, -⟩ := List.cons.inj hcons
    have hproper : g.IsProper := isProper_of_mem_glyphs (show g ∈ glyphs raw by simp [hglyphs])
    obtain ⟨name, c, rfl, hname⟩ := hproper.exists_reference hgap hblank
    exact ⟨name, c, rest.flatMap (·.written), by simp [Glyph.reference], hname, hblank⟩

theorem endsBlank_iff (hglyphs : glyphs raw = before.map .plain ++ mid ++ after.map .plain)
    (hafter : ∀ c ∈ after, isBlank c = true) (hmid : Solid Glyph.isGap mid) :
    EndsBlank (mid.flatMap (·.written)) ↔
      ∃ front g, mid = front ++ [g] ∧ isBlank g.shown = true := by
  have hraw : raw = before ++ mid.flatMap (·.written) ++ after := by
    rw [← flatMap_written_glyphs raw, hglyphs]
    simp [Glyph.plain, List.flatMap_map]
  obtain ⟨front, g, rfl, hgap⟩ := hmid.last
  constructor
  · rintro ⟨init, name, c, hend, hname, hblank⟩
    refine ⟨front, g, rfl, ?_⟩
    have hsplit : raw = before ++ init ++ '&' :: (name ++ ';' :: after) := by
      rw [hraw, hend]
      simp
    have hplain : glyphs after = after.map .plain := by
      simpa [glyphs] using glyphs_append_of_not_mem (ampersand_not_mem_of_blank hafter) []
    rw [hsplit, glyphs_append, glyphs_reference hname, hplain, List.append_cons,
      ← List.append_assoc] at hglyphs
    obtain ⟨-, hsingle⟩ := List.append_inj' (List.append_cancel_right hglyphs) rfl
    obtain ⟨rfl, -⟩ := List.cons.inj hsingle
    exact hblank
  · rintro ⟨front', g', hconcat, hblank⟩
    obtain ⟨-, hsingle⟩ := List.append_inj' hconcat rfl
    obtain ⟨rfl, -⟩ := List.cons.inj hsingle
    have hproper : g.IsProper := isProper_of_mem_glyphs (show g ∈ glyphs raw by simp [hglyphs])
    obtain ⟨name, c, rfl, hname⟩ := hproper.exists_reference hgap hblank
    exact ⟨front.flatMap (·.written), name, c, by simp [Glyph.reference], hname, hblank⟩

/-- White space at the ends of a text. What is written plainly stands in `before` and `after`, what
only references show next to it in `lost` and `lost'`. -/
structure Margins (raw before after lost lost' : List Char) : Prop where
  written : raw = before ++ trim raw ++ after
  start : trimStart raw = trim raw ++ after
  stop : trimEnd raw = before ++ trim raw
  gaps : ∀ c ∈ before ++ after, isBlank c = true
  blank : ∀ c ∈ lost ++ lost', isBlank c = true
  shown : decodeText raw = before ++ lost ++ trim (decodeText raw) ++ lost' ++ after
  starts : StartsBlank (trim raw) ↔ lost ≠ []
  ends : EndsBlank (trim raw) ↔ lost' ≠ []

/-- The glyphs of a text, without the gaps at its ends and then without all white space there. -/
structure Layers (raw : List Char) (front lead core trail back : List Glyph) : Prop where
  split : glyphs raw = front ++ (lead ++ core ++ trail) ++ back
  front : ∀ g ∈ front, g.isGap = true
  back : ∀ g ∈ back, g.isGap = true
  inner : Solid Glyph.isGap (lead ++ core ++ trail)
  lead : ∀ g ∈ lead, isBlank g.shown = true
  trail : ∀ g ∈ trail, isBlank g.shown = true
  core : Solid (fun g : Glyph => isBlank g.shown) core

theorem exists_layers (h : trim (decodeText raw) ≠ []) :
    ∃ front lead core trail back, Layers raw front lead core trail back := by
  have hvisible : ∃ g ∈ glyphs raw, isBlank g.shown = false := by
    obtain ⟨c, hc, hblank⟩ := Text.exists_mem_of_trim_ne_nil h
    rw [← map_shown_glyphs] at hc
    obtain ⟨g, hg, rfl⟩ := List.mem_map.mp hc
    exact ⟨g, hg, hblank⟩
  obtain ⟨front, mid, back, hsplit, hfront, hmid, hback⟩ := exists_solid (p := Glyph.isGap)
    (hvisible.imp fun g ⟨hg, hblank⟩ => ⟨hg, Glyph.isGap_of_isBlank_eq_false hblank⟩)
  -- What can be seen is no gap, so it is found between the gaps.
  have hvisible' : ∃ g ∈ mid, isBlank g.shown = false := by
    obtain ⟨g, hg, hblank⟩ := hvisible
    rw [hsplit, List.append_assoc, List.mem_append, List.mem_append] at hg
    have hgap := Glyph.isGap_of_isBlank_eq_false hblank
    rcases hg with hg | hg | hg
    · exact absurd (hgap.symm.trans (hfront g hg)) Bool.false_ne_true
    · exact ⟨g, hg, hblank⟩
    · exact absurd (hgap.symm.trans (hback g hg)) Bool.false_ne_true
  obtain ⟨lead, core, trail, hinner, hlead, hcore, htrail⟩ :=
    exists_solid (p := fun g : Glyph => isBlank g.shown) hvisible'
  rw [hinner] at hsplit hmid
  exact ⟨front, lead, core, trail, back, hsplit, hfront, hback, hmid, hlead, htrail, hcore⟩

section

variable {front lead core trail back : List Glyph}

/-- The gaps are what is taken off the text as it is written. -/
theorem Layers.trim_eq (h : Layers raw front lead core trail back) :
    trimStart raw = (lead ++ core ++ trail).flatMap (·.written) ++ back.map (·.shown) ∧
    trimEnd raw = front.map (·.shown) ++ (lead ++ core ++ trail).flatMap (·.written) ∧
    trim raw = (lead ++ core ++ trail).flatMap (·.written) ∧
    raw = front.map (·.shown) ++ (lead ++ core ++ trail).flatMap (·.written) ++
      back.map (·.shown) := by
  obtain ⟨-, hfront, hfrontBlank⟩ := eq_map_plain h.front
  obtain ⟨-, hback, hbackBlank⟩ := eq_map_plain h.back
  have hwritten : raw = front.map (·.shown) ++ (lead ++ core ++ trail).flatMap (·.written) ++
      back.map (·.shown) := by
    rw [← hfront, ← hback, ← List.flatMap_append, ← List.flatMap_append, ← h.split,
      flatMap_written_glyphs]
  have hsolid : Solid isBlank ((lead ++ core ++ trail).flatMap (·.written)) := by
    refine h.inner.flatMap fun g hg hgap => ?_
    refine (isProper_of_mem_glyphs (show g ∈ glyphs raw from ?_)).solid hgap
    rw [h.split]
    exact List.mem_append_left _ (List.mem_append_right _ hg)
  have htrim := Text.trim_of_solid hfrontBlank hsolid hbackBlank
  rw [← hwritten] at htrim
  exact ⟨htrim.1, htrim.2.1, htrim.2.2, hwritten⟩

/-- All white space is taken off the text as it is shown. -/
theorem Layers.decodeText_eq (h : Layers raw front lead core trail back) :
    decodeText raw = front.map (·.shown) ++ lead.map (·.shown) ++ core.map (·.shown) ++
      (trail.map (·.shown) ++ back.map (·.shown)) ∧
    trim (decodeText raw) = core.map (·.shown) := by
  obtain ⟨-, -, hfrontBlank⟩ := eq_map_plain h.front
  obtain ⟨-, -, hbackBlank⟩ := eq_map_plain h.back
  have hshown : decodeText raw = front.map (·.shown) ++ lead.map (·.shown) ++ core.map (·.shown) ++
      (trail.map (·.shown) ++ back.map (·.shown)) := by
    rw [← map_shown_glyphs, h.split]
    simp
  refine ⟨hshown, ?_⟩
  rw [hshown]
  refine (Text.trim_of_solid ?_ (h.core.map fun g hg => hg) ?_).2.2
  · simpa [or_imp, forall_and] using ⟨by simpa using hfrontBlank, h.lead⟩
  · simpa [or_imp, forall_and] using ⟨h.trail, by simpa using hbackBlank⟩

theorem Layers.margins (h : Layers raw front lead core trail back) :
    Margins raw (front.map (·.shown)) (back.map (·.shown)) (lead.map (·.shown))
      (trail.map (·.shown)) := by
  obtain ⟨hfront, -, hfrontBlank⟩ := eq_map_plain h.front
  obtain ⟨hback, -, hbackBlank⟩ := eq_map_plain h.back
  obtain ⟨hstart, hstop, htrim, hwritten⟩ := h.trim_eq
  obtain ⟨hshown, hvalue⟩ := h.decodeText_eq
  have hglyphs : glyphs raw = (front.map (·.shown)).map .plain ++ (lead ++ core ++ trail) ++
      (back.map (·.shown)).map .plain := by rw [← hfront, ← hback, h.split]
  rw [← htrim] at hstart hstop hwritten
  refine ⟨hwritten, hstart, hstop, ?_, ?_, ?_, ?_, ?_⟩
  · simpa [or_imp, forall_and] using
      ⟨by simpa using hfrontBlank, by simpa using hbackBlank⟩
  · simpa [or_imp, forall_and] using ⟨h.lead, h.trail⟩
  · rw [hvalue, hshown, List.append_assoc]
    simp
  · rw [htrim, startsBlank_iff hglyphs hfrontBlank h.inner, h.core.first_iff h.lead]
    simp
  · rw [htrim, endsBlank_iff hglyphs hbackBlank h.inner, h.core.last_iff h.trail]
    simp

end

theorem exists_margins (h : trim (decodeText raw) ≠ []) :
    ∃ before after lost lost', Margins raw before after lost lost' := by
  obtain ⟨front, lead, core, trail, back, hlayers⟩ := exists_layers h
  exact ⟨_, _, _, _, hlayers.margins⟩

end

end Markup

end Phrasebook

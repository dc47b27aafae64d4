import Phrasebook.Proofs.Slug.Splitting

/-!
Slugs of Latin text are their own slugs.

Reduced Latin text has letters and digits below U+00C0 only. Lowercasing makes small letters and
digits of them, and no word has both. Such a word is not split again, and an underscore ends a word
like any other sign, so the words of the slug are the words that it was made of.
-/

namespace Phrasebook.Slug

open Text (lowerChar lowerFrom lower isUppercase)

/-- A text of which every character is below U+0180, the right single quotation mark or a combining
mark. -/
def IsLatinText (cs : List Char) : Prop :=
  ∀ c ∈ cs, c.toNat < 0x180 ∨ c.toNat = 0x2019 ∨ 0x300 ≤ c.toNat ∧ c.toNat ≤ 0x36F

section

variable {cs : List Char}

/-- A character below the Latin letters with marks, or one of the two signs among them. -/
def isReduced (c : Char) : Bool := c.toNat < 0xC0 || c.toNat == 0xD7 || c.toNat == 0xF7

theorem isReduced_latinTable :
    (latinTable.all fun s => s.toList.all isReduced) = true ∧
      latinTable.length = 0x180 - 0xC0 := by
  decide +kernel

theorem isReduced_of_mem_reduceLatin {c d : Char} (hc : c.toNat < 0x180)
    (hd : d ∈ reduceLatin c) : isReduced d = true := by
  unfold reduceLatin at hd
  split at hd
  · rename_i hletter
    have hindex : c.toNat - 0xC0 < latinTable.length := by
      rw [isReduced_latinTable.2]
      omega
    rw [List.getElem?_eq_getElem hindex] at hd
    have hrow := List.all_eq_true.mp isReduced_latinTable.1 _ (List.getElem_mem hindex)
    exact List.all_eq_true.mp hrow d hd
  · obtain rfl := List.mem_singleton.mp hd
    simp only [isReduced, Bool.or_eq_true, decide_eq_true_eq]
    omega

theorem isReduced_of_mem_deburr (h : IsLatinText cs) {d : Char} (hd : d ∈ deburr cs) :
    isReduced d = true := by
  induction cs with
  | nil => cases hd
  | cons c cs ih =>
      have hrest : IsLatinText cs := fun c' hc' => h c' (List.mem_cons_of_mem c hc')
      rw [deburr] at hd
      split at hd
      · exact ih hrest hd
      · rename_i hkept
        simp only [Bool.or_eq_true, Bool.and_eq_true, decide_eq_true_eq, not_or] at hkept
        rcases List.mem_append.mp hd with hd | hd
        · refine isReduced_of_mem_reduceLatin ?_ hd
          have hc := h c List.mem_cons_self
          omega
        · exact ih hrest hd

theorem class_signs : CharClass.of (Char.ofNat 0xD7) = .other ∧
    CharClass.of (Char.ofNat 0xF7) = .other := by
  decide +kernel

theorem lt_of_isReduced {c : Char} (h : isReduced c = true) (hclass : CharClass.of c ≠ .other) :
    c.toNat < 0xC0 := by
  simp only [isReduced, Bool.or_eq_true, decide_eq_true_eq, beq_iff_eq] at h
  rcases h with (h | h) | h
  · exact h
  · rw [← Char.ofNat_toNat c, h] at hclass
    exact absurd class_signs.1 hclass
  · rw [← Char.ofNat_toNat c, h] at hclass
    exact absurd class_signs.2 hclass

/-- The class of a letter or a digit once it is lowercased. -/
def CharClass.lowered : CharClass → CharClass
  | .upper => .lower
  | k => k

/-- A character that nothing in the making of a slug changes. -/
def isSettled (c : Char) : Bool :=
  c.toNat < 0xC0 && c != '\'' && lowerChar c == [c] && !isUppercase c

theorem settled_iff {c : Char} :
    isSettled c = true ↔
      c.toNat < 0xC0 ∧ c ≠ '\'' ∧ lowerChar c = [c] ∧ isUppercase c = false := by
  simp [isSettled, and_assoc]

theorem isSettled_lowered :
    ((List.range 0xC0).all fun n => CharClass.of (Char.ofNat n) == .other ||
      (lowerChar (Char.ofNat n)).all fun d =>
        isSettled d && CharClass.of d == (CharClass.of (Char.ofNat n)).lowered) = true := by
  decide +kernel

theorem isSettled_of_mem_lowerChar {c d : Char} (hc : c.toNat < 0xC0)
    (hclass : CharClass.of c ≠ .other) (hd : d ∈ lowerChar c) :
    isSettled d = true ∧ CharClass.of d = (CharClass.of c).lowered := by
  have hrow := List.all_eq_true.mp isSettled_lowered c.toNat (List.mem_range.mpr hc)
  rw [Char.ofNat_toNat, Bool.or_eq_true, beq_iff_eq] at hrow
  have hsettled := List.all_eq_true.mp (hrow.resolve_left hclass) d hd
  rwa [Bool.and_eq_true, beq_iff_eq] at hsettled

/-- Without a capital sigma lowercasing goes character by character. -/
theorem lowerFrom_eq_flatMap (h : ∀ c ∈ cs, c.toNat ≠ 0x3A3) (before : List Char) :
    lowerFrom before cs = cs.flatMap lowerChar := by
  induction cs generalizing before with
  | nil => rfl
  | cons c cs ih =>
      rw [lowerFrom, List.flatMap_cons, ih fun c' hc' => h c' (List.mem_cons_of_mem c hc')]
      simp only [h c List.mem_cons_self, if_false]

theorem lower_eq_flatMap (h : ∀ c ∈ cs, c.toNat < 0xC0) : lower cs = cs.flatMap lowerChar := by
  apply lowerFrom_eq_flatMap
  intro c hc
  have hbasic := h c hc
  omega

theorem lower_of_isSettled (h : ∀ c ∈ cs, isSettled c = true) : lower cs = cs := by
  rw [lower_eq_flatMap fun c hc => (settled_iff.mp (h c hc)).1]
  induction cs with
  | nil => rfl
  | cons c cs ih =>
      rw [List.flatMap_cons, (settled_iff.mp (h c List.mem_cons_self)).2.2.1,
        ih fun c' hc' => h c' (List.mem_cons_of_mem c hc'), List.singleton_append]

theorem deburr_of_isSettled (h : ∀ c ∈ cs, isSettled c = true) : deburr cs = cs := by
  induction cs with
  | nil => rfl
  | cons c cs ih =>
      obtain ⟨hbasic, hquote, -⟩ := settled_iff.mp (h c List.mem_cons_self)
      have hkept : ¬ (c = '\'' || c.toNat = 0x2019 ||
          (0x300 ≤ c.toNat && c.toNat ≤ 0x36F)) = true := by
        simp only [Bool.or_eq_true, Bool.and_eq_true, decide_eq_true_eq, not_or]
        exact ⟨⟨hquote, by omega⟩, by omega⟩
      rw [deburr, if_neg hkept, reduceLatin, if_neg (by omega),
        ih fun c' hc' => h c' (List.mem_cons_of_mem c hc'), List.singleton_append]

end

/-- What becomes of a word of reduced text when it is lowercased. -/
theorem settled_lower {cs w : List Char} (hcs : ∀ c ∈ cs, isReduced c = true)
    (hw : w ∈ words cs) : (∀ d ∈ lower w, isSettled d = true) ∧ words (lower w) = [lower w] := by
  have hclass : ∀ c ∈ w, CharClass.of c ≠ .other := fun c hc => class_ne_other_of_mem_words hw hc
  have hbasic : ∀ c ∈ w, c.toNat < 0xC0 := fun c hc =>
    lt_of_isReduced (hcs c (mem_of_mem_words hw hc).1) (hclass c hc)
  have himage : ∀ d ∈ lower w, ∃ c ∈ w,
      isSettled d = true ∧ CharClass.of d = (CharClass.of c).lowered := by
    intro d hd
    rw [lower_eq_flatMap hbasic] at hd
    obtain ⟨c, hc, hd⟩ := List.mem_flatMap.mp hd
    exact ⟨c, hc, isSettled_of_mem_lowerChar (hbasic c hc) (hclass c hc) hd⟩
  have hne : lower w ≠ [] := fun hnil => ne_nil_of_mem_words hw (lowerFrom_eq_nil_iff.mp hnil)
  refine ⟨fun d hd => ?_, ?_⟩
  · obtain ⟨c, -, hsettled, -⟩ := himage d hd
    exact hsettled
  rcases digits_or_letters_of_mem_words hw with hdigits | hletters
  · refine words_of_class (k := .digit) (by decide) (by decide) hne fun d hd => ?_
    obtain ⟨c, hc, -, hd⟩ := himage d hd
    rw [hd, hdigits c hc]
    rfl
  · refine words_of_class (k := .lower) (by decide) (by decide) hne fun d hd => ?_
    obtain ⟨c, hc, -, hd⟩ := himage d hd
    have hother := hclass c hc
    have hdigit := hletters c hc
    rw [hd]
    cases hk : CharClass.of c <;> simp_all [CharClass.lowered]

/-- What slugs of Latin text are made of, and their words. -/
theorem settled_slugify {text : String} (h : IsLatinText text.toList) :
    (∀ c ∈ (slugify text).toList, isSettled c = true) ∧
      words (slugify text).toList = (words (deburr text.toList)).map lower := by
  have hword : ∀ w ∈ (words (deburr text.toList)).map lower,
      (∀ d ∈ w, isSettled d = true) ∧ words w = [w] := by
    intro w hw
    obtain ⟨v, hv, rfl⟩ := List.mem_map.mp hw
    exact settled_lower (fun c hc => isReduced_of_mem_deburr h hc) hv
  rw [toList_slugify]
  refine ⟨fun c hc => ?_, words_join fun w hw => (hword w hw).2⟩
  rcases mem_join hc with rfl | ⟨w, hw, hcw⟩
  · decide
  · exact (hword w hw).1 c hcw

/-- The slug of a Latin text is its own slug. It has no Latin letter with a mark left, and no
capital. -/
theorem slugify_slugify {text : String} (h : IsLatinText text.toList) :
    slugify (slugify text) = slugify text ∧
      ∀ c ∈ (slugify text).toList,
        ¬ (0xC0 ≤ c.toNat ∧ c.toNat ≤ 0x17F) ∧ isUppercase c = false := by
  obtain ⟨hsettled, hwords⟩ := settled_slugify h
  refine ⟨?_, fun c hc => ?_⟩
  · have hlower : ∀ w ∈ (words (deburr text.toList)).map lower, lower w = w := by
      intro w hw
      refine lower_of_isSettled fun c hc => hsettled c (mem_of_mem_words ?_ hc).1
      rwa [hwords]
    rw [← String.toList_inj, toList_slugify (slugify text), deburr_of_isSettled hsettled, hwords,
      List.map_congr_left hlower, List.map_id', ← toList_slugify]
  · obtain ⟨hbasic, -, -, hsmall⟩ := settled_iff.mp (hsettled c hc)
    exact ⟨fun hmarked => by omega, hsmall⟩

/-- Letters that are written with two, digits beside letters, an acronym and a letter with an
apostrophe of its own. -/
def saga : String := "Þór’s ŒUVRE, ½XMLĲs2ŉ × µ"

theorem isLatinText_saga : IsLatinText saga.toList := by
  have hall : (saga.toList.all fun c => decide (c.toNat < 0x180 ∨ c.toNat = 0x2019 ∨
      0x300 ≤ c.toNat ∧ c.toNat ≤ 0x36F)) = true := by
    decide +kernel
  exact fun c hc => of_decide_eq_true (List.all_eq_true.mp hall c hc)

theorem saga_slug_settled :
    IsLatinText saga.toList ∧ slugify saga = "thors_oeuvre_½_xmli_js_2_n_µ" ∧
      slugify (slugify saga) = slugify saga ∧
      ∀ c ∈ (slugify saga).toList,
        ¬ (0xC0 ≤ c.toNat ∧ c.toNat ≤ 0x17F) ∧ isUppercase c = false :=
  ⟨isLatinText_saga, by decide +kernel, slugify_slugify isLatinText_saga⟩

end Phrasebook.Slug

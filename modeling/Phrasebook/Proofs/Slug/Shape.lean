import Phrasebook.Proofs.Slug.Format

/-!
The shape of a slug.

A slug is made of words with one underscore between neighbours. No word is empty, and none holds an
underscore or white space, so the underscores say where the words are. A text has no slug exactly
if nothing in its reduced form is a letter or a digit.
-/

namespace Phrasebook.Slug

open Text (Stretch lowercaseTable lowerChar lowerFrom lower imageInTable? isBlank)

theorem class_eq_other_iff {c : Char} :
    CharClass.of c = .other ↔
      Text.isAlphabetic c = false ∧ Text.isUppercase c = false ∧ Text.isNumeric c = false := by
  unfold CharClass.of
  cases Text.isNumeric c <;> cases Text.isUppercase c <;> cases Text.isAlphabetic c <;> simp

theorem lengthen_ne_nil (c : Char) (ws : List (List Char)) : lengthen c ws ≠ [] := by
  cases ws <;> simp [lengthen]

theorem ne_nil_of_mem_lengthen {c : Char} {ws : List (List Char)} (h : ∀ w ∈ ws, w ≠ []) :
    ∀ w ∈ lengthen c ws, w ≠ [] := by
  cases ws with
  | nil => simp [lengthen]
  | cons v vs =>
      intro w hw
      rcases List.mem_cons.mp hw with rfl | hw
      · exact List.cons_ne_nil c v
      · exact h w (List.mem_cons_of_mem v hw)

theorem ne_nil_of_mem_words {cs w : List Char} (h : w ∈ words cs) : w ≠ [] := by
  fun_induction words cs generalizing w with
  | case1 => cases h
  | case2 c rest hother ih => exact ih h
  | case3 c hother =>
      obtain rfl := List.mem_singleton.mp h
      exact List.cons_ne_nil c []
  | case4 c hother d more hparts ih =>
      rcases List.mem_cons.mp h with rfl | h
      · exact List.cons_ne_nil c []
      · exact ih h
  | case5 c hother d more hparts ih =>
      exact ne_nil_of_mem_lengthen (fun w hw => ih hw) w h

/-- A text has no words if it has no letters and no digits. -/
theorem words_eq_nil_iff {cs : List Char} :
    words cs = [] ↔ ∀ c ∈ cs, CharClass.of c = .other := by
  fun_induction words cs with
  | case1 => simp
  | case2 c rest hother ih => simp [ih, hother]
  | case3 c hother => simp [hother]
  | case4 c hother d more hparts ih => simp [hother]
  | case5 c hother d more hparts ih => simp [hother, lengthen_ne_nil]

theorem lowerChar_ne_nil (c : Char) : lowerChar c ≠ [] := by
  unfold lowerChar
  split
  · simp
  · split <;> simp

theorem lowerFrom_eq_nil_iff {before cs : List Char} : lowerFrom before cs = [] ↔ cs = [] := by
  cases cs with
  | nil => simp [lowerFrom]
  | cons c cs =>
      simp only [lowerFrom, List.append_eq_nil_iff, List.cons_ne_nil, iff_false]
      rintro ⟨himage, -⟩
      split at himage
      · exact List.cons_ne_nil _ _ himage
      · exact lowerChar_ne_nil c himage

/-- The code points of white space. -/
def blanks : List Nat :=
  [9, 10, 11, 12, 13, 0x20, 0x85, 0xA0, 0x1680, 0x2000, 0x2001, 0x2002, 0x2003, 0x2004, 0x2005,
   0x2006, 0x2007, 0x2008, 0x2009, 0x200A, 0x2028, 0x2029, 0x202F, 0x205F, 0x3000]

theorem mem_blanks_of_isBlank {c : Char} (h : isBlank c = true) : c.toNat ∈ blanks := by
  simp only [isBlank, Bool.or_eq_true, Bool.and_eq_true, decide_eq_true_eq, beq_iff_eq] at h
  simp only [blanks, List.mem_cons, List.not_mem_nil, or_false]
  omega

theorem class_blanks :
    (blanks.all fun n => CharClass.of (Char.ofNat n) == .other) = true := by
  decide +kernel

theorem isBlank_eq_false_of_class {c : Char} (h : CharClass.of c ≠ .other) :
    isBlank c = false := by
  cases hblank : isBlank c with
  | false => rfl
  | true =>
      have hclass := List.all_eq_true.mp class_blanks c.toNat (mem_blanks_of_isBlank hblank)
      rw [Char.ofNat_toNat, beq_iff_eq] at hclass
      exact absurd hclass h

/-- Whether none of the images of a stretch is white space. -/
def unspacedImages (row : Stretch × Nat) : Bool :=
  blanks.all fun n => n < row.2 || row.2 + (row.1.last - row.1.first) < n

theorem unspacedImages_lowercaseTable : lowercaseTable.all unspacedImages = true := by
  decide +kernel

theorem isBlank_of_imageInTable? {n image : Nat}
    (h : imageInTable? n lowercaseTable = some image) : isBlank (Char.ofNat image) = false := by
  have hchar := toNat_of_imageInTable? h
  obtain ⟨row, hrow, hholds, rfl⟩ := exists_of_imageInTable? h
  cases hblank : isBlank (Char.ofNat (row.2 + (n - row.1.first))) with
  | false => rfl
  | true =>
      have hmem := mem_blanks_of_isBlank hblank
      rw [hchar] at hmem
      have hunspaced := List.all_eq_true.mp unspacedImages_lowercaseTable row hrow
      have hapart := List.all_eq_true.mp hunspaced _ hmem
      simp only [Stretch.holds, Bool.and_eq_true, Bool.or_eq_true, decide_eq_true_eq]
        at hapart hholds
      omega

theorem isBlank_of_lowerFrom {before cs : List Char}
    (hcs : ∀ c ∈ cs, CharClass.of c ≠ .other) {d : Char} (hd : d ∈ lowerFrom before cs) :
    isBlank d = false := by
  rcases mem_lowerFrom hd with rfl | rfl | ⟨c, hc, hd⟩
  · decide
  · decide
  · rcases mem_lowerChar hd with rfl | rfl | ⟨image, himage, rfl⟩ | ⟨rfl, -⟩
    · decide
    · decide
    · exact isBlank_of_imageInTable? himage
    · exact isBlank_eq_false_of_class (hcs d hc)

theorem join_eq_intercalate (ws : List (List Char)) : join ws = ['_'].intercalate ws := by
  fun_induction join ws with
  | case1 => rfl
  | case2 w => simp
  | case3 w ws hws ih =>
      obtain ⟨v, vs, rfl⟩ := List.exists_cons_of_ne_nil hws
      rw [ih, List.intercalate_cons_cons, List.append_assoc, List.singleton_append]

/-- Characters with single underscores between some of them, at neither end. -/
inductive Spaced : List Char → Prop
  | single {c : Char} (hc : c ≠ '_') : Spaced [c]
  | next {c : Char} {cs : List Char} (hc : c ≠ '_') (hcs : Spaced cs) : Spaced (c :: cs)
  | gap {c : Char} {cs : List Char} (hc : c ≠ '_') (hcs : Spaced cs) : Spaced (c :: '_' :: cs)

theorem Spaced.head?_ne {cs : List Char} (h : Spaced cs) : cs.head? ≠ some '_' := by
  cases h <;> simpa

theorem Spaced.getLast?_ne {cs : List Char} (h : Spaced cs) : cs.getLast? ≠ some '_' := by
  induction h with
  | single hc => simpa using hc
  | next hc hcs ih => rwa [List.getLast?_cons_of_ne_nil (by rintro rfl; cases hcs)]
  | gap hc hcs ih =>
      rwa [List.getLast?_cons_of_ne_nil (by simp),
        List.getLast?_cons_of_ne_nil (by rintro rfl; cases hcs)]

theorem Spaced.not_doubled {cs : List Char} (h : Spaced cs) : ¬ ['_', '_'] <:+: cs := by
  induction h with
  | single hc =>
      intro h
      simpa using h.length_le
  | next hc hcs ih =>
      intro h
      rcases List.infix_cons_iff.mp h with h | h
      · exact hc (List.cons_prefix_cons.mp h).1.symm
      · exact ih h
  | gap hc hcs ih =>
      intro h
      rcases List.infix_cons_iff.mp h with h | h
      · exact hc (List.cons_prefix_cons.mp h).1.symm
      rcases List.infix_cons_iff.mp h with h | h
      · obtain ⟨rest, hrest⟩ := (List.cons_prefix_cons.mp h).2
        exact hcs.head?_ne (by rw [← hrest]; rfl)
      · exact ih h

theorem Spaced.join {cs ds : List Char} (hcs : Spaced cs) (hds : Spaced ds) :
    Spaced (cs ++ '_' :: ds) := by
  induction hcs with
  | single hc => exact .gap hc hds
  | next hc _ ih => exact .next hc ih
  | gap hc _ ih => exact .gap hc ih

theorem spaced_of_not_mem {w : List Char} (hw : w ≠ []) (hplain : '_' ∉ w) : Spaced w := by
  induction w with
  | nil => exact absurd rfl hw
  | cons c w ih =>
      have hc : c ≠ '_' := fun hc => hplain (hc ▸ List.mem_cons_self)
      rcases w with _ | ⟨d, w⟩
      · exact .single hc
      · exact .next hc (ih (by simp) fun hmem => hplain (List.mem_cons_of_mem c hmem))

/-- Words without underscores stay apart when they are joined. -/
theorem spaced_join {ws : List (List Char)} (hne : ws ≠ [])
    (hws : ∀ w ∈ ws, w ≠ [] ∧ '_' ∉ w) : Spaced (join ws) := by
  fun_induction join ws with
  | case1 => exact absurd rfl hne
  | case2 w =>
      obtain ⟨hw, hplain⟩ := hws w List.mem_cons_self
      exact spaced_of_not_mem hw hplain
  | case3 w ws hws' ih =>
      obtain ⟨hw, hplain⟩ := hws w List.mem_cons_self
      exact (spaced_of_not_mem hw hplain).join
        (ih hws' fun v hv => hws v (List.mem_cons_of_mem w hv))

theorem toList_slugify (text : String) :
    (slugify text).toList = join ((words (deburr text.toList)).map lower) := by
  rw [slugify, String.toList_ofList]

/-- What the words of a slug are made of: no underscore, no white space, and of ASCII only small
letters and digits. -/
theorem plain_of_mem_words {cs w : List Char} (hw : w ∈ (words cs).map lower) :
    w ≠ [] ∧ ∀ c ∈ w, c ≠ '_' ∧ IsPlain c ∧ isBlank c = false := by
  obtain ⟨v, hv, rfl⟩ := List.mem_map.mp hw
  have hclass : ∀ c ∈ v, CharClass.of c ≠ .other := fun c hc => class_ne_other_of_mem_words hv hc
  refine ⟨fun hnil => ne_nil_of_mem_words hv (lowerFrom_eq_nil_iff.mp hnil), fun c hc => ?_⟩
  have hplain : IsPlain c := isPlain_of_lowerFrom hclass hc
  refine ⟨?_, hplain, isBlank_of_lowerFrom hclass hc⟩
  rintro rfl
  exact absurd (hplain (by decide)) (by decide)

theorem spaced_slugify {text : String} (h : words (deburr text.toList) ≠ []) :
    Spaced (slugify text).toList := by
  rw [toList_slugify]
  refine spaced_join (by simpa using h) fun w hw => ?_
  obtain ⟨hne, hchars⟩ := plain_of_mem_words hw
  exact ⟨hne, fun hmem => (hchars '_' hmem).1 rfl⟩

theorem slugify_eq_empty_iff {text : String} :
    slugify text = "" ↔ words (deburr text.toList) = [] := by
  constructor
  · intro hempty
    cases hwords : words (deburr text.toList) with
    | nil => rfl
    | cons w ws =>
        have hspaced := spaced_slugify (hwords ▸ List.cons_ne_nil w ws)
        rw [hempty] at hspaced
        cases hspaced
  · intro hnone
    rw [← String.toList_eq_nil_iff, toList_slugify, hnone]
    rfl

/-- A slug is empty exactly if the reduced text has no letter and no digit. It is made of the
lowercased words with single underscores between them and at no end, and its words hold no white
space and of ASCII only small letters and digits. -/
theorem slugify_format (text : String) :
    (slugify text = "" ↔ ∀ c ∈ deburr text.toList,
      Text.isAlphabetic c = false ∧ Text.isUppercase c = false ∧ Text.isNumeric c = false) ∧
    (slugify text).toList = ['_'].intercalate ((words (deburr text.toList)).map lower) ∧
    (∀ w ∈ (words (deburr text.toList)).map lower, w ≠ [] ∧ ∀ c ∈ w,
      c ≠ '_' ∧ (c.toNat < 128 → c.isLower = true ∨ c.isDigit = true) ∧ isBlank c = false) ∧
    (slugify text).toList.head? ≠ some '_' ∧ (slugify text).toList.getLast? ≠ some '_' ∧
    ¬ ['_', '_'] <:+: (slugify text).toList := by
  refine ⟨?_, ?_, fun w hw => plain_of_mem_words hw, ?_⟩
  · simp only [slugify_eq_empty_iff, words_eq_nil_iff, class_eq_other_iff]
  · rw [toList_slugify, join_eq_intercalate]
  · by_cases hwords : words (deburr text.toList) = []
    · rw [slugify_eq_empty_iff.mpr hwords]
      simp
    · have hspaced := spaced_slugify hwords
      exact ⟨hspaced.head?_ne, hspaced.getLast?_ne, hspaced.not_doubled⟩

/-- The apostrophe in the reduced form of a letter parts words like any other sign. -/
example : slugify "Don’t, aŉ XMLHttp_2" = "dont_a_n_xml_http_2" := by decide +kernel

end Phrasebook.Slug

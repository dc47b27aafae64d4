import Phrasebook.Proofs.Slug.Word

/-!
What characters a slug is made of.

The words of a text hold letters and digits only, and lowercasing gives no capital among the
characters of ASCII. So the only ASCII characters of a slug are small letters, digits and the
underscores between words.
-/

namespace Phrasebook.Slug

open Text (Stretch lowercaseTable lowerChar lowerFrom lower imageInTable?)

/-- A character that is a small letter or a digit, if it is in ASCII at all. -/
def IsPlain (c : Char) : Prop := c.toNat < 128 → c.isLower = true ∨ c.isDigit = true

/-- Whether the images of a stretch are small letters of ASCII, or characters beyond it. -/
def smallImages (row : Stretch × Nat) : Bool :=
  let last := row.2 + (row.1.last - row.1.first)
  (97 ≤ row.2 && last ≤ 122) || (128 ≤ row.2 && last < 0xD800) ||
    (0xE000 ≤ row.2 && last < 0x110000)

theorem smallImages_lowercaseTable : ∀ row ∈ lowercaseTable, smallImages row = true := by
  decide +kernel

theorem exists_of_imageInTable? {n image : Nat} {table : List (Stretch × Nat)}
    (h : imageInTable? n table = some image) :
    ∃ row ∈ table, row.1.holds n = true ∧ image = row.2 + (n - row.1.first) := by
  induction table with
  | nil => cases h
  | cons row table ih =>
      rw [imageInTable?] at h
      split at h
      · cases h
      split at h
      · rename_i hholds
        exact ⟨row, List.mem_cons_self, hholds, (Option.some.inj h).symm⟩
      · obtain ⟨row', hrow', hholds⟩ := ih h
        exact ⟨row', List.mem_cons_of_mem row hrow', hholds⟩

theorem toNat_ofNat {n : Nat} (h : n.isValidChar) : (Char.ofNat n).toNat = n := by
  rw [Char.ofNat, dif_pos h]
  rfl

/-- The images of the table are characters. -/
theorem toNat_of_imageInTable? {n image : Nat}
    (h : imageInTable? n lowercaseTable = some image) : (Char.ofNat image).toNat = image := by
  obtain ⟨row, hrow, hholds, rfl⟩ := exists_of_imageInTable? h
  have hsmall := smallImages_lowercaseTable row hrow
  simp only [smallImages, Stretch.holds, Bool.or_eq_true, Bool.and_eq_true, decide_eq_true_eq]
    at hsmall hholds
  apply toNat_ofNat
  unfold Nat.isValidChar
  omega

theorem isPlain_of_imageInTable? {n image : Nat}
    (h : imageInTable? n lowercaseTable = some image) : IsPlain (Char.ofNat image) := by
  have hchar := toNat_of_imageInTable? h
  obtain ⟨row, hrow, hholds, rfl⟩ := exists_of_imageInTable? h
  have hsmall := smallImages_lowercaseTable row hrow
  simp only [smallImages, Stretch.holds, Bool.or_eq_true, Bool.and_eq_true, decide_eq_true_eq]
    at hsmall hholds
  intro hascii
  left
  rw [hchar] at hascii
  change (decide (97 ≤ (Char.ofNat _).toNat) && decide ((Char.ofNat _).toNat ≤ 122)) = true
  rw [Bool.and_eq_true, decide_eq_true_eq, decide_eq_true_eq, hchar]
  omega

/-- The capitals of ASCII have a lowercase partner. -/
theorem imageInTable?_of_isUpper {c : Char} (h : c.isUpper = true) :
    imageInTable? c.toNat lowercaseTable ≠ none := by
  have hrange : 65 ≤ c.toNat ∧ c.toNat ≤ 90 := of_decide_eq_true h
  have hholds : (⟨65, 90, 1⟩ : Stretch).holds c.toNat = true := by
    simp [Stretch.holds, hrange, Nat.mod_one]
  rw [lowercaseTable, imageInTable?, if_neg (Nat.not_lt.mpr hrange.1), if_pos hholds]
  exact Option.some_ne_none _

/-- A character of a lowercased text is the image of a character, or one that has none. Two stand
for the capital I with a dot above. -/
theorem mem_lowerChar {c d : Char} (h : d ∈ lowerChar c) :
    d = 'i' ∨ d = Char.ofNat 0x307 ∨
      (∃ image, imageInTable? c.toNat lowercaseTable = some image ∧ d = Char.ofNat image) ∨
      d = c ∧ imageInTable? c.toNat lowercaseTable = none := by
  unfold lowerChar at h
  split at h
  · rcases List.mem_cons.mp h with rfl | h
    · exact Or.inl rfl
    · exact Or.inr (Or.inl (List.mem_singleton.mp h))
  split at h
  · rename_i image himage
    exact Or.inr (Or.inr (Or.inl ⟨image, himage, List.mem_singleton.mp h⟩))
  · rename_i hnone
    exact Or.inr (Or.inr (Or.inr ⟨List.mem_singleton.mp h, hnone⟩))

/-- Lowercasing goes character by character, apart from the two small sigmas. -/
theorem mem_lowerFrom {before cs : List Char} {d : Char} (h : d ∈ lowerFrom before cs) :
    d = Char.ofNat 0x3C2 ∨ d = Char.ofNat 0x3C3 ∨ ∃ c ∈ cs, d ∈ lowerChar c := by
  induction cs generalizing before with
  | nil => cases h
  | cons c cs ih =>
      simp only [lowerFrom, List.mem_append] at h
      rcases h with h | h
      · split at h
        · have hsigma := List.mem_singleton.mp h
          split at hsigma
          · exact Or.inl hsigma
          · exact Or.inr (Or.inl hsigma)
        · exact Or.inr (Or.inr ⟨c, List.mem_cons_self, h⟩)
      · exact (ih h).imp id (.imp id fun ⟨c', hc', hd⟩ => ⟨c', List.mem_cons_of_mem c hc', hd⟩)

theorem isPlain_of_lowerChar {c d : Char} (hc : CharClass.of c ≠ .other) (hd : d ∈ lowerChar c) :
    IsPlain d := by
  rcases mem_lowerChar hd with rfl | rfl | ⟨image, himage, rfl⟩ | ⟨rfl, hnone⟩
  · exact fun _ => Or.inl (by decide)
  · exact fun hascii => absurd hascii (by decide)
  · exact isPlain_of_imageInTable? himage
  · intro hascii
    have hupper : d.isUpper = false := by
      cases hupper : d.isUpper with
      | false => rfl
      | true => exact absurd hnone (imageInTable?_of_isUpper hupper)
    have halpha : d.isAlpha = (d.isUpper || d.isLower) := rfl
    simp only [CharClass.of, Text.isNumeric, Text.isUppercase, Text.isAlphabetic, hascii, if_true,
      halpha, hupper, Bool.false_or, Bool.false_eq_true, if_false] at hc
    cases hdigit : d.isDigit with
    | true => exact Or.inr rfl
    | false =>
        cases hlower : d.isLower with
        | true => exact Or.inl rfl
        | false => simp [hdigit, hlower] at hc

theorem isPlain_of_lowerFrom {before cs : List Char}
    (hcs : ∀ c ∈ cs, CharClass.of c ≠ .other) {d : Char} (hd : d ∈ lowerFrom before cs) :
    IsPlain d := by
  rcases mem_lowerFrom hd with rfl | rfl | ⟨c, hc, hd⟩
  · exact fun hascii => absurd hascii (by decide)
  · exact fun hascii => absurd hascii (by decide)
  · exact isPlain_of_lowerChar (hcs c hc) hd

theorem mem_join {ws : List (List Char)} {d : Char} (h : d ∈ join ws) :
    d = '_' ∨ ∃ w ∈ ws, d ∈ w := by
  fun_induction join ws with
  | case1 => cases h
  | case2 w => exact Or.inr ⟨w, List.mem_cons_self, h⟩
  | case3 w ws _ ih =>
      rcases List.mem_append.mp h with h | h
      · exact Or.inr ⟨w, List.mem_cons_self, h⟩
      · rcases List.mem_cons.mp h with rfl | h
        · exact Or.inl rfl
        · rcases ih h with hd | ⟨v, hv, hd⟩
          · exact Or.inl hd
          · exact Or.inr ⟨v, List.mem_cons_of_mem w hv, hd⟩

/-- In ASCII, a slug has small letters, digits and underscores only. -/
theorem isPlain_of_mem_slugify {text : String} {d : Char} (h : d ∈ (slugify text).toList) :
    d = '_' ∨ IsPlain d := by
  rw [slugify, String.toList_ofList] at h
  rcases mem_join h with h | ⟨w, hw, hd⟩
  · exact Or.inl h
  · obtain ⟨v, hv, rfl⟩ := List.mem_map.mp hw
    exact Or.inr (isPlain_of_lowerFrom (fun c hc => class_ne_other_of_mem_words hv hc) hd)

theorem dot_not_mem_slugify (text : String) : '.' ∉ (slugify text).toList := by
  intro h
  rcases isPlain_of_mem_slugify h with h | h
  · exact absurd h (by decide)
  · exact absurd (h (by decide)) (by decide)

end Phrasebook.Slug

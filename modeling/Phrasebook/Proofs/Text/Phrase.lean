import Phrasebook.Proofs.Markup.Glyph
import Phrasebook.Text.Phrase

/-!
Which texts are taken for phrases.

A text reads as a phrase if it holds a space and two runs of letters with nothing but white space
between them. The test looks for runs with a single white space character between them, so it
passes over a text whose words are all further apart, such as one that goes on in the next line
behind an indentation.
-/

namespace Phrasebook.Text

structure IsRun (cs : List Char) : Prop where
  nonempty : cs ≠ []
  letters : ∀ c ∈ cs, isLatin c = true

/-- Somewhere in the text two runs of letters stand with just `gap` between them. -/
structure PartedBy (gap cs : List Char) : Prop where
  nonempty : gap ≠ []
  blank : ∀ b ∈ gap, isBlank b = true
  runs : ∃ before left right after,
    cs = before ++ (left ++ gap ++ right) ++ after ∧ IsRun left ∧ IsRun right

/-- A space, and two runs of letters with one or more white space characters between them. -/
def ReadsAsPhrase (cs : List Char) : Prop := ' ' ∈ cs ∧ ∃ gap, PartedBy gap cs

/-- A run of letters and behind it, once or more, a white space character and a run of letters. -/
inductive WordChain : List Char → Prop
  | pair {left right : List Char} {b : Char} (hleft : IsRun left) (hb : isBlank b = true)
      (hright : IsRun right) : WordChain (left ++ b :: right)
  | more {front right : List Char} {b : Char} (hfront : WordChain front) (hb : isBlank b = true)
      (hright : IsRun right) : WordChain (front ++ b :: right)

section

variable {cs : List Char}

theorem isRun_singleton {c : Char} (h : isLatin c = true) : IsRun [c] where
  nonempty := List.cons_ne_nil c []
  letters d hd := by
    obtain rfl := List.mem_singleton.mp hd
    exact h

theorem isBlank_of_isLatin {c : Char} (h : isLatin c = true) : isBlank c = false := by
  have hrange : (65 ≤ c.toNat ∧ c.toNat ≤ 90) ∨ (97 ≤ c.toNat ∧ c.toNat ≤ 122) ∨
      c.toNat = 0x17F ∨ c.toNat = 0x212A := by
    have halpha : c.isAlpha = (c.isUpper || c.isLower) := rfl
    simp only [isLatin, halpha, Bool.or_eq_true, beq_iff_eq] at h
    rcases h with ((hupper | hlower) | hlong) | hkelvin
    · exact Or.inl (of_decide_eq_true hupper)
    · rw [show c.isLower = (decide (97 ≤ c.toNat) && decide (c.toNat ≤ 122)) from rfl,
        Bool.and_eq_true, decide_eq_true_eq, decide_eq_true_eq] at hlower
      exact Or.inr (Or.inl hlower)
    · exact Or.inr (Or.inr (Or.inl hlong))
    · exact Or.inr (Or.inr (Or.inr hkelvin))
  rw [← Bool.not_eq_true]
  simp only [isBlank, Bool.or_eq_true, Bool.and_eq_true, decide_eq_true_eq, beq_iff_eq]
  omega

/-- Trimming leaves something of a text with a letter in it. -/
theorem trim_ne_nil_of_isLatin {c : Char} (hmem : c ∈ cs) (hc : isLatin c = true) :
    trim cs ≠ [] := by
  obtain ⟨front, mid, back, rfl, hfront, hmid, hback⟩ :=
    exists_solid ⟨c, hmem, isBlank_of_isLatin hc⟩
  obtain ⟨x, rest, rfl, -⟩ := hmid.first
  rw [(trim_of_solid hfront hmid hback).2.2]
  exact List.cons_ne_nil x rest

theorem hasWordGap_iff :
    hasWordGap cs = true ↔
      ∃ a b c, [a, b, c] <:+: cs ∧ isLatin a = true ∧ isBlank b = true ∧ isLatin c = true := by
  fun_induction hasWordGap cs with
  | case1 a b c rest ih =>
      simp only [Bool.or_eq_true, Bool.and_eq_true, ih]
      constructor
      · rintro (⟨⟨ha, hb⟩, hc⟩ | ⟨a', b', c', hthree, h⟩)
        · exact ⟨a, b, c, ⟨[], rest, rfl⟩, ha, hb, hc⟩
        · exact ⟨a', b', c', List.infix_cons hthree, h⟩
      · rintro ⟨a', b', c', hthree, ha, hb, hc⟩
        rcases List.infix_cons_iff.mp hthree with hfirst | hthree
        · simp only [List.cons_prefix_cons] at hfirst
          obtain ⟨rfl, rfl, rfl, -⟩ := hfirst
          exact Or.inl ⟨⟨ha, hb⟩, hc⟩
        · exact Or.inr ⟨a', b', c', hthree, ha, hb, hc⟩
  | case2 cs hshort =>
      simp only [Bool.false_eq_true, false_iff]
      rintro ⟨a, b, c, ⟨before, after, rfl⟩, -⟩
      rcases before with _ | ⟨x, _ | ⟨y, _ | ⟨z, before⟩⟩⟩
      · exact hshort a b c after rfl
      · exact hshort x a b (c :: after) rfl
      · exact hshort x y a (b :: c :: after) rfl
      · exact hshort x y z (before ++ [a, b, c] ++ after) rfl

/-- Only the letters next to a gap count, however long the runs are. -/
theorem hasWordGap_iff_partedBy : hasWordGap cs = true ↔ ∃ b, PartedBy [b] cs := by
  rw [hasWordGap_iff]
  constructor
  · rintro ⟨a, b, c, ⟨before, after, rfl⟩, ha, hb, hc⟩
    refine ⟨b, List.cons_ne_nil b [], ?_, before, [a], [c], after, rfl, isRun_singleton ha,
      isRun_singleton hc⟩
    intro b' hb'
    obtain rfl := List.mem_singleton.mp hb'
    exact hb
  · rintro ⟨b, -, hblank, before, left, right, after, rfl, hleft, hright⟩
    obtain ⟨c, right, rfl⟩ := List.exists_cons_of_ne_nil hright.nonempty
    obtain ⟨left, a, rfl⟩ := (List.eq_nil_or_concat left).resolve_left hleft.nonempty
    refine ⟨a, b, c, ⟨before ++ left, right ++ after, by simp⟩, hleft.letters a (by simp),
      hblank b (by simp), hright.letters c (by simp)⟩

theorem WordChain.partedBy {m : List Char} (h : WordChain m) (before after : List Char) :
    ∃ b, PartedBy [b] (before ++ m ++ after) := by
  have hblank {b : Char} (hb : isBlank b = true) : ∀ b' ∈ [b], isBlank b' = true := by simpa
  induction h generalizing after with
  | @pair left right b hleft hb hright =>
      exact ⟨b, by simp, hblank hb, before, left, right, after, by simp, hleft, hright⟩
  | @more front right b hfront hb hright ih =>
      obtain ⟨b', hparted⟩ := ih (b :: right ++ after)
      exact ⟨b', by simpa using hparted⟩

/-- A chain of runs can be found wherever two runs have a single character between them. -/
theorem exists_wordChain_iff_partedBy :
    (∃ m, m <:+: cs ∧ WordChain m) ↔ ∃ b, PartedBy [b] cs := by
  constructor
  · rintro ⟨m, ⟨before, after, rfl⟩, hm⟩
    exact hm.partedBy before after
  · rintro ⟨b, -, hblank, before, left, right, after, rfl, hleft, hright⟩
    refine ⟨left ++ [b] ++ right, ⟨before, after, rfl⟩, ?_⟩
    rw [List.append_assoc]
    exact .pair hleft (hblank b (by simp)) hright

end

/-- A letter beside the gap is left when the text is trimmed, so it is enough to look for a space
and for the gap. -/
theorem isPhrase_iff_partedBy (s : String) :
    isPhrase s = true ↔ ' ' ∈ s.toList ∧ ∃ b, PartedBy [b] s.toList := by
  simp only [isPhrase, Bool.and_eq_true, Bool.not_eq_true', List.contains_iff_mem,
    ← hasWordGap_iff_partedBy]
  constructor
  · rintro ⟨⟨-, hspace⟩, hgap⟩
    exact ⟨hspace, hgap⟩
  · rintro ⟨hspace, hgap⟩
    obtain ⟨a, b, c, hthree, ha, -⟩ := hasWordGap_iff.mp hgap
    have htrim := trim_ne_nil_of_isLatin (hthree.mem List.mem_cons_self) ha
    exact ⟨⟨List.isEmpty_eq_false_iff.mpr htrim, hspace⟩, hgap⟩

/-- The test passes exactly the texts with a space and a chain of runs, which are those with two
runs one white space character apart. Of the texts that read as phrases it fails those in which
every gap between two runs is longer. -/
theorem isPhrase_iff_wordChain (s : String) :
    (isPhrase s = true ↔ ' ' ∈ s.toList ∧ ∃ m, m <:+: s.toList ∧ WordChain m) ∧
    (isPhrase s = true ↔
      ReadsAsPhrase s.toList ∧ ∃ gap, PartedBy gap s.toList ∧ gap.length = 1) ∧
    (ReadsAsPhrase s.toList ∧ isPhrase s = false ↔
      ReadsAsPhrase s.toList ∧ ∀ gap, PartedBy gap s.toList → 2 ≤ gap.length) := by
  have hsingle : isPhrase s = true ↔
      ReadsAsPhrase s.toList ∧ ∃ gap, PartedBy gap s.toList ∧ gap.length = 1 := by
    rw [isPhrase_iff_partedBy]
    constructor
    · rintro ⟨hspace, b, hgap⟩
      exact ⟨⟨hspace, [b], hgap⟩, [b], hgap, rfl⟩
    · rintro ⟨⟨hspace, -⟩, gap, hgap, hlength⟩
      obtain ⟨b, rfl⟩ := List.length_eq_one_iff.mp hlength
      exact ⟨hspace, b, hgap⟩
  refine ⟨?_, hsingle, ?_⟩
  · rw [exists_wordChain_iff_partedBy, isPhrase_iff_partedBy]
  · rw [← Bool.not_eq_true, hsingle]
    refine and_congr_right fun hreads => ?_
    simp only [hreads, true_and, not_exists, not_and]
    refine forall_congr' fun gap => forall_congr' fun hgap => ?_
    have hpos := List.length_pos_iff.mpr hgap.nonempty
    omega

/-- Two spaces between the words, and the phrase is passed over. -/
theorem wide_phrase_passed_over :
    ReadsAsPhrase "Hello  world".toList ∧ isPhrase "Hello  world" = false := by
  have hblank : isBlank ' ' = true := by decide
  refine ⟨⟨by decide, [' ', ' '], by simp, by simpa using hblank, ?_⟩, by decide⟩
  exact ⟨"Hell".toList, ['o'], ['w'], "orld".toList, by decide, isRun_singleton (by decide),
    isRun_singleton (by decide)⟩

end Phrasebook.Text

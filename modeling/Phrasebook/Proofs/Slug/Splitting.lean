import Phrasebook.Proofs.Slug.Shape

/-!
What the words of a text are.

The words lie in the text in order, with nothing but signs in front of, between and behind them.
Between two letters or digits side by side a word ends exactly at a turn: before a capital behind a
small letter, between a letter and a digit, and before the last capital of an acronym if a small
letter follows it. These rules leave no choice: only `words` keeps to them.
-/

namespace Phrasebook.Slug

open Text (isAlphabetic isUppercase isNumeric)

/-- Numbers of all kinds are digits, also the few that are letters besides. -/
def IsDigit (c : Char) : Prop := isNumeric c = true

def IsCapital (c : Char) : Prop := isUppercase c = true ∧ isNumeric c = false

/-- A lowercase letter, or a letter of a script without case. -/
def IsSmall (c : Char) : Prop :=
  isAlphabetic c = true ∧ isUppercase c = false ∧ isNumeric c = false

def IsLetter (c : Char) : Prop := IsCapital c ∨ IsSmall c

/-- A character that is neither a letter nor a digit. -/
def IsSign (c : Char) : Prop :=
  isAlphabetic c = false ∧ isUppercase c = false ∧ isNumeric c = false

/-- Digits, capitals, or small letters with at most one capital in front of them. -/
inductive WellFormed : List Char → Prop
  | digits {w : List Char} (hne : w ≠ []) (hw : ∀ c ∈ w, IsDigit c) : WellFormed w
  | capitals {w : List Char} (hne : w ≠ []) (hw : ∀ c ∈ w, IsCapital c) : WellFormed w
  | small {w : List Char} (hne : w ≠ []) (hw : ∀ c ∈ w, IsSmall c) : WellFormed w
  | capitalised {c : Char} {w : List Char} (hc : IsCapital c) (hne : w ≠ [])
      (hw : ∀ d ∈ w, IsSmall d) : WellFormed (c :: w)

/-- The text holds the words in order and besides them signs only. No sign is inside a word. -/
inductive LaidOut : List Char → List (List Char) → Prop
  | nil : LaidOut [] []
  | sign {c : Char} {cs : List Char} {ws : List (List Char)} (hc : IsSign c)
      (hcs : LaidOut cs ws) : LaidOut (c :: cs) ws
  | word {w cs : List Char} {ws : List (List Char)} (hne : w ≠ []) (hw : ∀ c ∈ w, ¬ IsSign c)
      (hcs : LaidOut cs ws) : LaidOut (w ++ cs) (w :: ws)

/-- No word lies across the place between the two parts of a text. -/
def Parted (ws : List (List Char)) (front back : List Char) : Prop :=
  ∃ us vs, ws = us ++ vs ∧ LaidOut front us ∧ LaidOut back vs

/-- What two neighbours and the text behind them look like where a word ends between the two. -/
inductive Turn (a b : Char) (behind : List Char) : Prop
  | capital (ha : IsSmall a) (hb : IsCapital b)
  | digit (ha : IsLetter a) (hb : IsDigit b)
  | letter (ha : IsDigit a) (hb : IsLetter b)
  | acronym {c : Char} (ha : IsCapital a) (hb : IsCapital b) (hc : behind.head? = some c)
      (hsmall : IsSmall c)

/-- Between two letters or digits side by side a word ends exactly at a turn. -/
def EndsAtTurns (cs : List Char) (ws : List (List Char)) : Prop :=
  ∀ front a b back, cs = front ++ a :: b :: back → ¬ IsSign a → ¬ IsSign b →
    (Parted ws (front ++ [a]) (b :: back) ↔ Turn a b back)

/-- What is asked of the words of a text. -/
structure IsSplitting (cs : List Char) (ws : List (List Char)) : Prop where
  complete : ws.flatten = cs.filter fun c => isAlphabetic c || isUppercase c || isNumeric c
  wellFormed : ∀ w ∈ ws, WellFormed w
  laidOut : LaidOut cs ws
  ends : EndsAtTurns cs ws

section

variable {c d : Char} {cs more v front back : List Char} {ws : List (List Char)}

theorem isDigit_iff : IsDigit c ↔ CharClass.of c = .digit := by
  unfold IsDigit CharClass.of
  cases isNumeric c <;> cases isUppercase c <;> cases isAlphabetic c <;> simp

theorem isCapital_iff : IsCapital c ↔ CharClass.of c = .upper := by
  unfold IsCapital CharClass.of
  cases isNumeric c <;> cases isUppercase c <;> cases isAlphabetic c <;> simp

theorem isSmall_iff : IsSmall c ↔ CharClass.of c = .lower := by
  unfold IsSmall CharClass.of
  cases isNumeric c <;> cases isUppercase c <;> cases isAlphabetic c <;> simp

theorem isSign_iff : IsSign c ↔ CharClass.of c = .other := class_eq_other_iff.symm

theorem not_isSign (h : ¬ IsSign c) : IsDigit c ∨ IsCapital c ∨ IsSmall c := by
  rw [isSign_iff] at h
  rw [isDigit_iff, isCapital_iff, isSmall_iff]
  cases hk : CharClass.of c <;> simp_all

theorem turn_iff_parts :
    Turn c d more ↔
      (CharClass.of c).parts (CharClass.of d) (more.head?.map CharClass.of) = true := by
  constructor
  · rintro (⟨hc, hd⟩ | ⟨hc | hc, hd⟩ | ⟨hc, hd | hd⟩ | ⟨hc, hd, hhead, hsmall⟩)
    all_goals simp_all [isDigit_iff, isCapital_iff, isSmall_iff, CharClass.parts]
  · intro h
    cases hc : CharClass.of c <;> cases hd : CharClass.of d
    all_goals
      rw [hc, hd] at h
      simp only [CharClass.parts, decide_eq_true_eq, Bool.false_eq_true] at h
    · obtain ⟨e, he, hsmall⟩ := Option.map_eq_some_iff.mp h
      exact .acronym (isCapital_iff.mpr hc) (isCapital_iff.mpr hd) he (isSmall_iff.mpr hsmall)
    · exact .digit (.inl (isCapital_iff.mpr hc)) (isDigit_iff.mpr hd)
    · exact .capital (isSmall_iff.mpr hc) (isCapital_iff.mpr hd)
    · exact .digit (.inr (isSmall_iff.mpr hc)) (isDigit_iff.mpr hd)
    · exact .letter (isDigit_iff.mpr hc) (.inl (isCapital_iff.mpr hd))
    · exact .letter (isDigit_iff.mpr hc) (.inr (isSmall_iff.mpr hd))

/-- The words of a text by its first two characters. -/
theorem words_induction {motive : List Char → Prop} (nil : motive [])
    (sign : ∀ c rest, IsSign c → words (c :: rest) = words rest → motive rest →
      motive (c :: rest))
    (single : ∀ c, ¬ IsSign c → words [c] = [[c]] → motive [c])
    (apart : ∀ c d more, ¬ IsSign c → IsSign d ∨ Turn c d more →
      words (c :: d :: more) = [c] :: words (d :: more) → motive (d :: more) →
      motive (c :: d :: more))
    (joined : ∀ c d more v ws, ¬ IsSign c → ¬ IsSign d → ¬ Turn c d more →
      words (d :: more) = (d :: v) :: ws → words (c :: d :: more) = (c :: d :: v) :: ws →
      motive (d :: more) → motive (c :: d :: more))
    (cs : List Char) : motive cs := by
  fun_induction words cs with
  | case1 => exact nil
  | case2 c rest hc ih => exact sign c rest (isSign_iff.mpr hc) (words_cons_other hc rest) ih
  | case3 c hc => exact single c (mt isSign_iff.mp hc) (by rw [words, if_neg hc])
  | case4 c hc d more hparts ih =>
      have hwords := words_cons_cons hc d more
      rw [if_pos hparts] at hwords
      refine apart c d more (mt isSign_iff.mp hc) ?_ hwords ih
      rw [isSign_iff, turn_iff_parts]
      simpa using hparts
  | case5 c hc d more hparts ih =>
      have hwords := words_cons_cons hc d more
      rw [if_neg hparts] at hwords
      simp only [Bool.or_eq_true, decide_eq_true_eq, not_or] at hparts
      obtain ⟨v, ws, hnext⟩ := exists_words_cons hparts.1 more
      rw [hnext, lengthen] at hwords
      exact joined c d more v ws (mt isSign_iff.mp hc) (mt isSign_iff.mp hparts.1)
        (mt turn_iff_parts.mp hparts.2) hnext hwords ih

theorem laidOut_nil_iff : LaidOut [] ws ↔ ws = [] := by
  constructor
  · intro h
    generalize hcs : ([] : List Char) = cs at h
    cases h with
    | nil => rfl
    | sign hc h => cases hcs
    | word hne hw h => exact absurd (List.append_eq_nil_iff.mp hcs.symm).1 hne
  · rintro rfl
    exact .nil

theorem laidOut_sign_iff (hc : IsSign c) : LaidOut (c :: cs) ws ↔ LaidOut cs ws := by
  constructor
  · intro h
    generalize htext : c :: cs = text at h
    cases h with
    | nil => cases htext
    | sign hc' h =>
        cases htext
        exact h
    | @word w rest vs hne hw h =>
        obtain ⟨x, w, rfl⟩ := List.exists_cons_of_ne_nil hne
        cases htext
        exact absurd hc (hw c List.mem_cons_self)
  · exact .sign hc

/-- A letter or digit is a word of its own, or it goes on with the next character. -/
theorem laidOut_cons_iff (hc : ¬ IsSign c) :
    LaidOut (c :: cs) ws ↔
      (∃ vs, ws = [c] :: vs ∧ LaidOut cs vs) ∨
      ∃ d more v vs, cs = d :: more ∧ ¬ IsSign d ∧ ws = (c :: d :: v) :: vs ∧
        LaidOut cs ((d :: v) :: vs) := by
  constructor
  · intro h
    generalize htext : c :: cs = text at h
    cases h with
    | nil => cases htext
    | sign hc' h =>
        cases htext
        exact absurd hc' hc
    | @word w rest vs hne hw h =>
        rcases w with _ | ⟨x, _ | ⟨d, v⟩⟩
        · exact absurd rfl hne
        · cases htext
          exact .inl ⟨vs, rfl, h⟩
        · cases htext
          have hv : ∀ e ∈ d :: v, ¬ IsSign e := fun e he => hw e (List.mem_cons_of_mem c he)
          exact .inr ⟨d, v ++ rest, v, vs, rfl, hv d List.mem_cons_self, rfl,
            .word (List.cons_ne_nil d v) hv h⟩
  · rintro (⟨vs, rfl, h⟩ | ⟨d, more, v, vs, rfl, hd, rfl, h⟩)
    · exact .word (w := [c]) (List.cons_ne_nil c []) (by simpa using hc) h
    · generalize htext : d :: more = text at h
      generalize hwords : (d :: v) :: vs = ws at h
      cases h with
      | nil => cases hwords
      | sign hd' h =>
          cases htext
          exact absurd hd' hd
      | @word w rest us hne hw h =>
          cases hwords
          rw [← List.cons_append]
          exact .word (List.cons_ne_nil c _) (List.forall_mem_cons.mpr ⟨hc, hw⟩) h

theorem laidOut_words (cs : List Char) : LaidOut cs (words cs) := by
  induction cs using words_induction with
  | nil => exact .nil
  | sign c rest hc hwords ih => rwa [hwords, laidOut_sign_iff hc]
  | single c hc hwords =>
      rw [hwords, laidOut_cons_iff hc]
      exact .inl ⟨[], rfl, .nil⟩
  | apart c d more hc hturn hwords ih =>
      rw [hwords, laidOut_cons_iff hc]
      exact .inl ⟨_, rfl, ih⟩
  | joined c d more v ws hc hd hturn hnext hwords ih =>
      rw [hwords, laidOut_cons_iff hc]
      exact .inr ⟨d, more, v, ws, rfl, hd, rfl, hnext ▸ ih⟩

/-- A word stays well formed if it is continued to the left where there is no turn. -/
theorem WellFormed.cons (h : WellFormed (d :: v)) (hv : v <+: more) (hc : ¬ IsSign c)
    (hturn : ¬ Turn c d more) : WellFormed (c :: d :: v) := by
  have hne : c :: d :: v ≠ [] := List.cons_ne_nil c _
  generalize hw : d :: v = w at h
  cases h with
  | digits _ hdigits =>
      subst hw
      have hd : IsDigit d := hdigits d List.mem_cons_self
      rcases not_isSign hc with hc | hc | hc
      · exact .digits hne (List.forall_mem_cons.mpr ⟨hc, hdigits⟩)
      · exact absurd (.digit (.inl hc) hd) hturn
      · exact absurd (.digit (.inr hc) hd) hturn
  | capitals _ hcapitals =>
      subst hw
      have hd : IsCapital d := hcapitals d List.mem_cons_self
      rcases not_isSign hc with hc | hc | hc
      · exact absurd (.letter hc (.inl hd)) hturn
      · exact .capitals hne (List.forall_mem_cons.mpr ⟨hc, hcapitals⟩)
      · exact absurd (.capital hc hd) hturn
  | small hne' hsmall =>
      subst hw
      have hd : IsSmall d := hsmall d List.mem_cons_self
      rcases not_isSign hc with hc | hc | hc
      · exact absurd (.letter hc (.inr hd)) hturn
      · exact .capitalised hc hne' hsmall
      · exact .small hne (List.forall_mem_cons.mpr ⟨hc, hsmall⟩)
  | capitalised hd hne' hsmall =>
      obtain ⟨rfl, rfl⟩ := List.cons.inj hw
      rcases not_isSign hc with hc | hc | hc
      · exact absurd (.letter hc (.inl hd)) hturn
      · -- A small letter behind two capitals parts them.
        obtain ⟨e, v, rfl⟩ := List.exists_cons_of_ne_nil hne'
        obtain ⟨rest, rfl⟩ := hv
        exact absurd (.acronym hc hd rfl (hsmall e List.mem_cons_self)) hturn
      · exact absurd (.capital hc hd) hturn

theorem wellFormed_singleton (hc : ¬ IsSign c) : WellFormed [c] := by
  have hne : [c] ≠ [] := List.cons_ne_nil c []
  rcases not_isSign hc with hc | hc | hc
  · exact .digits hne (by simpa using hc)
  · exact .capitals hne (by simpa using hc)
  · exact .small hne (by simpa using hc)

/-- The first word is what the text starts with. -/
theorem LaidOut.starts (h : LaidOut (c :: cs) ((c :: v) :: ws)) (hc : ¬ IsSign c) :
    v <+: cs := by
  generalize htext : c :: cs = text at h
  generalize hwords : (c :: v) :: ws = ws' at h
  cases h with
  | nil => cases hwords
  | sign hc' h =>
      cases htext
      exact absurd hc' hc
  | word hne hw h =>
      cases hwords
      cases htext
      exact List.prefix_append v _

theorem wellFormed_of_mem_words {w : List Char} (hw : w ∈ words cs) : WellFormed w := by
  induction cs using words_induction generalizing w with
  | nil => cases hw
  | sign c rest hc hwords ih => exact ih (hwords ▸ hw)
  | single c hc hwords =>
      rw [hwords, List.mem_singleton] at hw
      exact hw ▸ wellFormed_singleton hc
  | apart c d more hc hturn hwords ih =>
      rw [hwords, List.mem_cons] at hw
      rcases hw with rfl | hw
      · exact wellFormed_singleton hc
      · exact ih hw
  | joined c d more v ws hc hd hturn hnext hwords ih =>
      rw [hwords, List.mem_cons] at hw
      have hlaid := laidOut_words (d :: more)
      rw [hnext] at hlaid ih
      rcases hw with rfl | hw
      · exact (ih List.mem_cons_self).cons (hlaid.starts hd) hc hturn
      · exact ih (List.mem_cons_of_mem _ hw)

/-- A word has digits only or no digit at all. -/
theorem digits_or_letters_of_mem_words {w : List Char} (hw : w ∈ words cs) :
    (∀ c ∈ w, CharClass.of c = .digit) ∨ ∀ c ∈ w, CharClass.of c ≠ .digit := by
  have hcapital {c : Char} (hc : IsCapital c) : CharClass.of c ≠ .digit := by
    rw [isCapital_iff.mp hc]
    decide
  have hsmall {c : Char} (hc : IsSmall c) : CharClass.of c ≠ .digit := by
    rw [isSmall_iff.mp hc]
    decide
  cases wellFormed_of_mem_words hw with
  | digits _ hdigits => exact .inl fun c hc => isDigit_iff.mp (hdigits c hc)
  | capitals _ hcapitals => exact .inr fun c hc => hcapital (hcapitals c hc)
  | small _ hsmalls => exact .inr fun c hc => hsmall (hsmalls c hc)
  | capitalised hfirst _ hsmalls =>
      exact .inr (List.forall_mem_cons.mpr
        ⟨hcapital hfirst, fun c hc => hsmall (hsmalls c hc)⟩)

theorem parted_sign_iff (hc : IsSign c) :
    Parted ws (c :: front) back ↔ Parted ws front back := by
  simp only [Parted, laidOut_sign_iff hc]

theorem parted_singleton_iff (hc : ¬ IsSign c) :
    Parted ws [c] back ↔ ∃ vs, ws = [c] :: vs ∧ LaidOut back vs := by
  simp only [Parted, laidOut_cons_iff hc, laidOut_nil_iff]
  constructor
  · rintro ⟨us, vs, rfl, ⟨us, rfl, rfl⟩ | ⟨d, more, v, us, hcs, -⟩, hback⟩
    · exact ⟨vs, rfl, hback⟩
    · cases hcs
  · rintro ⟨vs, rfl, hback⟩
    exact ⟨[[c]], vs, rfl, .inl ⟨[], rfl, rfl⟩, hback⟩

theorem parted_apart_iff (hc : ¬ IsSign c) :
    Parted ([c] :: ws) (c :: front) back ↔ Parted ws front back := by
  simp only [Parted, laidOut_cons_iff hc]
  constructor
  · rintro ⟨us, vs, hsplit, ⟨us, rfl, hfront⟩ | ⟨d, more, v, us, rfl, -, rfl, -⟩, hback⟩
    · exact ⟨us, vs, (List.cons.inj hsplit).2, hfront, hback⟩
    · cases hsplit
  · rintro ⟨us, vs, rfl, hfront, hback⟩
    exact ⟨[c] :: us, vs, rfl, .inl ⟨us, rfl, hfront⟩, hback⟩

theorem parted_joined_iff (hc : ¬ IsSign c) (hd : ¬ IsSign d) :
    Parted ((c :: d :: v) :: ws) (c :: d :: front) back ↔
      Parted ((d :: v) :: ws) (d :: front) back := by
  constructor
  · rintro ⟨us, vs, hsplit, hfront, hback⟩
    rcases (laidOut_cons_iff hc).mp hfront with ⟨us, rfl, -⟩ | ⟨e, more, v', us, -, -, rfl, hrest⟩
    · cases hsplit
    · obtain ⟨hword, rfl⟩ := List.cons.inj hsplit
      cases hword
      exact ⟨(d :: v) :: us, vs, rfl, hrest, hback⟩
  · rintro ⟨us, vs, hsplit, hfront, hback⟩
    rcases us with _ | ⟨u, us⟩
    · rcases (laidOut_cons_iff hd).mp hfront with ⟨_, h, _⟩ | ⟨_, _, _, _, _, _, h, _⟩ <;> cases h
    · obtain ⟨rfl, rfl⟩ := List.cons.inj hsplit
      exact ⟨(c :: d :: v) :: us, vs, rfl,
        (laidOut_cons_iff hc).mpr (.inr ⟨d, front, v, us, rfl, hd, rfl, hfront⟩), hback⟩

/-- The places of a text are the one behind its first character and those of the rest. -/
theorem endsAtTurns_cons_cons :
    EndsAtTurns (c :: d :: more) ws ↔
      (¬ IsSign c → ¬ IsSign d → (Parted ws [c] (d :: more) ↔ Turn c d more)) ∧
      ∀ front a b back, d :: more = front ++ a :: b :: back → ¬ IsSign a → ¬ IsSign b →
        (Parted ws (c :: (front ++ [a])) (b :: back) ↔ Turn a b back) := by
  constructor
  · intro h
    refine ⟨h [] c d more rfl, fun front a b back hplace => ?_⟩
    exact h (c :: front) a b back (congrArg (List.cons c) hplace)
  · rintro ⟨hfirst, hrest⟩ front a b back hplace
    rcases front with _ | ⟨x, front⟩
    · cases hplace
      exact hfirst
    · obtain ⟨rfl, htail⟩ := List.cons.inj hplace
      exact hrest front a b back htail

theorem endsAtTurns_sign_iff (hc : IsSign c) : EndsAtTurns (c :: cs) ws ↔ EndsAtTurns cs ws := by
  rcases cs with _ | ⟨d, more⟩
  · constructor
    · intro _ front a b back hplace
      simp at hplace
    · intro _ front a b back hplace
      rcases front with _ | ⟨x, front⟩ <;> simp at hplace
  · simp only [endsAtTurns_cons_cons, hc, not_true_eq_false, false_implies, true_and,
      parted_sign_iff hc]
    rfl

theorem endsAtTurns_apart_iff (hc : ¬ IsSign c) :
    EndsAtTurns (c :: d :: more) ([c] :: ws) ↔
      (¬ IsSign d → (LaidOut (d :: more) ws ↔ Turn c d more)) ∧ EndsAtTurns (d :: more) ws := by
  simp only [endsAtTurns_cons_cons, parted_singleton_iff hc, parted_apart_iff hc, hc,
    not_false_eq_true, true_implies, List.cons.injEq, true_and, exists_eq_left']
  rfl

theorem endsAtTurns_joined_iff (hc : ¬ IsSign c) (hd : ¬ IsSign d) :
    EndsAtTurns (c :: d :: more) ((c :: d :: v) :: ws) ↔
      ¬ Turn c d more ∧ EndsAtTurns (d :: more) ((d :: v) :: ws) := by
  have hfirst : ¬ Parted ((c :: d :: v) :: ws) [c] (d :: more) := by
    rw [parted_singleton_iff hc]
    rintro ⟨vs, hsplit, -⟩
    cases hsplit
  simp only [endsAtTurns_cons_cons, hc, hd, hfirst, not_false_eq_true, true_implies, false_iff]
  refine and_congr_right fun _ => ?_
  refine forall_congr' fun front => forall_congr' fun a => forall_congr' fun b =>
    forall_congr' fun back => forall_congr' fun hplace => ?_
  -- Every later place has both characters in front of it, so taking the first off changes no cut.
  have hstart : ∃ front', front ++ [a] = d :: front' := by
    rcases front with _ | ⟨x, front⟩
    · cases hplace
      exact ⟨[], rfl⟩
    · cases hplace
      exact ⟨front ++ [a], rfl⟩
  obtain ⟨front', hstart⟩ := hstart
  rw [hstart, parted_joined_iff hc hd]

theorem endsAtTurns_words (cs : List Char) : EndsAtTurns cs (words cs) := by
  induction cs using words_induction with
  | nil =>
      intro front a b back hplace
      simp at hplace
  | sign c rest hc hwords ih => rwa [hwords, endsAtTurns_sign_iff hc]
  | single c hc hwords =>
      intro front a b back hplace
      rcases front with _ | ⟨x, front⟩ <;> simp at hplace
  | apart c d more hc hturn hwords ih =>
      rw [hwords, endsAtTurns_apart_iff hc]
      exact ⟨fun hd => iff_of_true (laidOut_words _) (hturn.resolve_left hd), ih⟩
  | joined c d more v ws hc hd hturn hnext hwords ih =>
      rw [hwords, endsAtTurns_joined_iff hc hd]
      exact ⟨hturn, hnext ▸ ih⟩

/-- Where the words lie and where they end leaves no choice. -/
theorem eq_words_of_endsAtTurns (hlaid : LaidOut cs ws) (hends : EndsAtTurns cs ws) :
    words cs = ws := by
  induction cs using words_induction generalizing ws with
  | nil => exact (laidOut_nil_iff.mp hlaid).symm
  | sign c rest hc hwords ih =>
      rw [hwords]
      exact ih ((laidOut_sign_iff hc).mp hlaid) ((endsAtTurns_sign_iff hc).mp hends)
  | single c hc hwords =>
      rw [hwords]
      rcases (laidOut_cons_iff hc).mp hlaid with ⟨vs, rfl, hrest⟩ | ⟨d, more, v, vs, hcs, -⟩
      · rw [laidOut_nil_iff.mp hrest]
      · cases hcs
  | apart c d more hc hturn hwords ih =>
      rcases (laidOut_cons_iff hc).mp hlaid with
        ⟨vs, rfl, hrest⟩ | ⟨d, more, v, vs, hcs, hd, rfl, hrest⟩
      · rw [hwords, ih hrest ((endsAtTurns_apart_iff hc).mp hends).2]
      · -- These words go on across a turn.
        cases hcs
        have hon := ((endsAtTurns_joined_iff hc hd).mp hends).1
        exact absurd (hturn.resolve_left hd) hon
  | joined c d more v ws' hc hd hturn hnext hwords ih =>
      rcases (laidOut_cons_iff hc).mp hlaid with
        ⟨vs, rfl, hrest⟩ | ⟨d, more, v, vs, hcs, -, rfl, hrest⟩
      · -- One of these words ends where there is no turn.
        have hends' := ((endsAtTurns_apart_iff hc).mp hends).1 hd
        exact absurd (hends'.mp hrest) hturn
      · cases hcs
        have hsame := ih hrest ((endsAtTurns_joined_iff hc hd).mp hends).2
        rw [hnext] at hsame
        cases hsame
        exact hwords

theorem flatten_words_eq_filter (cs : List Char) :
    (words cs).flatten = cs.filter fun c => isAlphabetic c || isUppercase c || isNumeric c := by
  rw [flatten_words]
  refine List.filter_congr fun c _ => ?_
  rw [Bool.eq_iff_iff, decide_eq_true_eq, ne_eq, class_eq_other_iff]
  cases isAlphabetic c <;> cases isUppercase c <;> cases isNumeric c <;> simp

end

/-- The words of a text are its only splitting. They hold its letters and digits and lose signs
only. Each consists of digits, of capitals, or of small letters behind at most one capital. No sign
lies inside a word, and between two letters or digits side by side a word ends exactly at a turn. -/
theorem words_eq_iff (cs : List Char) (ws : List (List Char)) :
    words cs = ws ↔ IsSplitting cs ws := by
  constructor
  · rintro rfl
    exact ⟨flatten_words_eq_filter cs, fun w hw => wellFormed_of_mem_words hw, laidOut_words cs,
      endsAtTurns_words cs⟩
  · intro h
    exact eq_words_of_endsAtTurns h.laidOut h.ends

/-- An acronym in front of a word, of a digit, of a sign and at the end. -/
example : (words "parseXMLDoc, HTML5 aB-ABc 2ndUI".toList).map String.ofList =
    ["parse", "XML", "Doc", "HTML", "5", "a", "B", "A", "Bc", "2", "nd", "UI"] := by
  decide +kernel

end Phrasebook.Slug

import Phrasebook.Proofs.Json.RoundTrip

/-!
What is read is sound.

An invariant of the items read so far holds for a whole sequence. So objects get no key twice, and
the numbers of a value are those that the rule for numbers gives.
-/

namespace Phrasebook.Json

/-- Where the next item of a sequence starts, the first one or one behind a comma. -/
inductive ItemAt (close : Char) : Bool → List Char → List Char → Prop
  | first {cs rest : List Char} {c : Char} (here : skipBlanks cs = c :: rest) (opens : c ≠ close) :
      ItemAt close true cs (c :: rest)
  | next {cs rest more : List Char} {c : Char} (comma : skipBlanks cs = ',' :: rest)
      (goesOn : ',' ≠ close) (here : skipBlanks rest = c :: more) (opens : c ≠ close) :
      ItemAt close false cs (c :: more)

/-- A sequence is at its end, or an item is read and then the rest. -/
theorem readSeq_eq_ok_iff {σ : Type} {close : Char} {full : σ → Bool}
    {item : σ → List Char → Read σ} {fuel : Nat} {first : Bool} {s s' : σ} {cs rest : List Char} :
    readSeq close full item (fuel + 1) first s cs = .ok (s', rest) ↔
      (skipBlanks cs = close :: rest ∧ s = s') ∨
      full s = false ∧ ∃ start next behind, ItemAt close first cs start ∧
        item s start = .ok (next, behind) ∧
        readSeq close full item fuel false next behind = .ok (s', rest) := by
  constructor
  · intro h
    unfold readSeq at h
    simp only at h
    split at h
    · cases h
    rename_i c more hskip
    split at h
    · rename_i hclose
      obtain ⟨rfl, rfl⟩ := Prod.mk.inj (Except.ok.inj h)
      exact Or.inl ⟨hclose ▸ hskip, rfl⟩
    rename_i hopens
    split at h
    · cases h
    rename_i hfull
    refine Or.inr ⟨by simpa using hfull, ?_⟩
    split at h
    · rename_i hfirst
      subst hfirst
      split at h
      · cases h
      · rename_i hread
        exact ⟨_, _, _, .first hskip hopens, hread, h⟩
    rename_i hfirst
    obtain rfl : first = false := by simpa using hfirst
    split at h
    · rename_i hcomma
      subst hcomma
      split at h
      · cases h
      rename_i hnext
      split at h
      · cases h
      rename_i hmore
      split at h
      · cases h
      · rename_i hread
        exact ⟨_, _, _, .next hskip hopens hnext hmore, hread, h⟩
    · cases h
  · rintro (⟨hskip, rfl⟩ | ⟨hfull, start, next, behind, hstart, hread, hrest⟩)
    · simp [readSeq, hskip]
    · cases hstart with
      | first here opens => simp [readSeq, here, opens, hfull, hread, hrest]
      | next comma goesOn here opens =>
          simp [readSeq, comma, goesOn, here, opens, hfull, hread, hrest]

/-- What every item keeps, a sequence of items keeps. -/
theorem readSeq_invariant {σ : Type} {P : σ → Prop} {close : Char} {full : σ → Bool}
    {item : σ → List Char → Read σ}
    (hitem : ∀ s cs s' rest, P s → item s cs = .ok (s', rest) → P s') {fuel : Nat} {first : Bool}
    {s s' : σ} {cs rest : List Char} (hs : P s)
    (h : readSeq close full item fuel first s cs = .ok (s', rest)) : P s' := by
  induction fuel generalizing first s cs with
  | zero => cases h
  | succ fuel ih =>
      rcases readSeq_eq_ok_iff.mp h with ⟨-, rfl⟩ | ⟨-, start, next, behind, -, hread, hrest⟩
      · exact hs
      · exact ih (hitem s start next behind hs hread) hrest

/-- What a sequence gives from one start it gives from others, if its items do: a state stands for
one of each start, and `P` says which states can come up. -/
theorem readSeq_family {β σ : Type} {P : (β → σ) → Prop} {close : Char} {full : σ → Bool}
    {item : σ → List Char → Read σ} (hfull : ∀ t, P t → ∀ b b', full (t b) = full (t b'))
    (hitem : ∀ t b cs s rest, P t → item (t b) cs = .ok (s, rest) →
      ∃ t', P t' ∧ ∀ b, item (t b) cs = .ok (t' b, rest))
    {fuel : Nat} {first : Bool} {t : β → σ} {b : β} {s : σ} {cs rest : List Char} (ht : P t)
    (h : readSeq close full item fuel first (t b) cs = .ok (s, rest)) :
    ∃ t', P t' ∧ ∀ b, readSeq close full item fuel first (t b) cs = .ok (t' b, rest) := by
  induction fuel generalizing first t cs with
  | zero => cases h
  | succ fuel ih =>
      rcases readSeq_eq_ok_iff.mp h with
        ⟨hskip, -⟩ | ⟨hopen, start, next, behind, hstart, hread, hrest⟩
      · exact ⟨t, ht, fun b => readSeq_eq_ok_iff.mpr (Or.inl ⟨hskip, rfl⟩)⟩
      · obtain ⟨t₁, ht₁, hread₁⟩ := hitem t b start next behind ht hread
        -- The state that was read is the one of the start `b`, so the rest is read from there.
        obtain ⟨rfl, -⟩ := Prod.mk.inj (Except.ok.inj (hread.symm.trans (hread₁ b)))
        obtain ⟨t', ht', hrest'⟩ := ih ht₁ hrest
        refine ⟨t', ht', fun b' => readSeq_eq_ok_iff.mpr (Or.inr ⟨?_, ?_⟩)⟩
        · rw [← hopen]
          exact hfull t ht b' b
        · exact ⟨start, t₁ b', behind, hstart, hread₁ b', hrest' b'⟩

section

variable {rule : Rule} {ok : Number → Prop} {depth : Nat}

theorem sound_of_readScalar
    (hnumber : ∀ negative cs n rest, rule.number negative cs = .ok (n, rest) → ok n) {c : Char}
    {cs rest : List Char} {v : Value} (h : readScalar rule c cs = .ok (v, rest)) :
    Sound ok depth v := by
  unfold readScalar at h
  simp only at h
  split at h
  · obtain ⟨p, -, hv⟩ := exists_of_map_eq_ok h
    obtain ⟨rfl, -⟩ := Prod.mk.inj hv
    exact .null
  split at h
  · obtain ⟨p, -, hv⟩ := exists_of_map_eq_ok h
    obtain ⟨rfl, -⟩ := Prod.mk.inj hv
    exact .bool true
  split at h
  · obtain ⟨p, -, hv⟩ := exists_of_map_eq_ok h
    obtain ⟨rfl, -⟩ := Prod.mk.inj hv
    exact .bool false
  split at h
  · obtain ⟨p, -, hv⟩ := exists_of_map_eq_ok h
    obtain ⟨rfl, -⟩ := Prod.mk.inj hv
    exact .string _
  split at h
  · obtain ⟨⟨n, behind⟩, hn, hv⟩ := exists_of_map_eq_ok h
    obtain ⟨rfl, -⟩ := Prod.mk.inj hv
    exact .number (hnumber _ _ _ _ hn)
  split at h
  · obtain ⟨⟨n, behind⟩, hn, hv⟩ := exists_of_map_eq_ok h
    obtain ⟨rfl, -⟩ := Prod.mk.inj hv
    exact .number (hnumber _ _ _ _ hn)
  · cases h

/-- A value that was read is sound, with numbers as the rule reads them. -/
theorem sound_of_readValue
    (hnumber : ∀ negative cs n rest, rule.number negative cs = .ok (n, rest) → ok n)
    {cs rest : List Char} {v : Value} (h : readValue rule depth cs = .ok (v, rest)) :
    Sound ok depth v := by
  induction depth generalizing cs v rest with
  | zero =>
      unfold readValue at h
      split at h
      · cases h
      · exact sound_of_readScalar hnumber h
  | succ depth ih =>
      unfold readValue at h
      split at h
      · cases h
      · obtain ⟨⟨items, behind⟩, hseq, hv⟩ := exists_of_map_eq_ok h
        obtain ⟨rfl, -⟩ := Prod.mk.inj hv
        have hitems : ∀ v ∈ items, Sound ok depth v := by
          refine readSeq_invariant (P := fun vs => ∀ v ∈ vs, Sound ok depth v) ?_ (by simp) hseq
          intro vs cs vs' rest hvs hitem
          obtain ⟨⟨u, behind⟩, hread, hu⟩ := exists_of_map_eq_ok hitem
          obtain ⟨rfl, -⟩ := Prod.mk.inj hu
          intro v hv
          rcases List.mem_cons.mp hv with rfl | hv
          · exact ih hread
          · exact hvs v hv
        exact .array fun v hv => hitems v (List.mem_reverse.mp hv)
      · obtain ⟨⟨fields, behind⟩, hseq, hv⟩ := exists_of_map_eq_ok h
        obtain ⟨rfl, -⟩ := Prod.mk.inj hv
        have hfields : fields.keys.Nodup ∧ ∀ f ∈ fields, Sound ok depth f.2 := by
          have hnone : (Fields.keys []).Nodup ∧ ∀ f ∈ ([] : Fields), Sound ok depth f.2 :=
            ⟨.nil, by simp⟩
          refine readSeq_invariant (P := fun fs : Fields => fs.keys.Nodup ∧
            ∀ f ∈ fs, Sound ok depth f.2) ?_ hnone hseq
          intro fs cs fs' rest hfs hmember
          simp only at hmember
          split at hmember
          · cases hmember
          obtain ⟨⟨u, behind⟩, hread, hu⟩ := exists_of_map_eq_ok hmember
          obtain ⟨rfl, -⟩ := Prod.mk.inj hu
          refine ⟨Fields.nodup_keys_set hfs.1 _ _, fun f hf => ?_⟩
          rcases Fields.eq_or_mem_of_mem_set hf with rfl | hf
          · exact ih hread
          · exact hfs.2 f hf
        exact .object hfields.1 hfields.2
      · exact sound_of_readScalar hnumber h

end

/-- Numbers that are read: integers fit into 64 bits, with or without a sign. -/
def Number.Fits : Number → Prop
  | .integer n => -(signBit : Int) ≤ n ∧ n < 2 * signBit
  | .float _ => True

theorem fits_of_floatNumber {negative : Bool} {s : Decimal.Scaled} {n : Number}
    (h : floatNumber negative s = .ok n) : n.Fits := by
  unfold floatNumber at h
  split at h
  · cases h
  · obtain rfl := Except.ok.inj h
    trivial

theorem fits_of_wholeNumber {negative : Bool} {ds : List Char} {n : Number}
    (h : wholeNumber negative ds = .ok n) : n.Fits := by
  unfold wholeNumber at h
  simp only [Bool.and_eq_true, decide_eq_true_eq] at h
  split at h
  · rename_i hfits
    obtain rfl := Except.ok.inj h
    constructor <;> omega
  split at h
  · rename_i hfits
    obtain rfl := Except.ok.inj h
    constructor <;> omega
  · exact fits_of_floatNumber h

theorem fits_of_readNumber {negative : Bool} {cs rest : List Char} {n : Number}
    (h : readNumber negative cs = .ok (n, rest)) : n.Fits := by
  unfold readNumber at h
  split at h
  · cases h
  split at h
  · cases h
  split at h
  · cases h
  obtain ⟨m, hm, hn⟩ := exists_of_map_eq_ok h
  obtain ⟨rfl, -⟩ := Prod.mk.inj hn
  split at hm
  · exact fits_of_wholeNumber hm
  · exact fits_of_floatNumber hm

/-- A sound value can be read again, if that holds for its doubles. -/
theorem Sound.rereadable {depth : Nat} {v : Value} (h : Sound Number.Fits depth v)
    (hfloat : ∀ bits, .float bits ∈ v.numbers → (Number.float bits).Rereadable) :
    Sound Number.Rereadable depth v := by
  refine h.numbers.imp fun n hn => ?_
  cases n with
  | integer n => exact (readsAs_integer hn.1.1 hn.1.2).rereadable
  | float bits => exact hfloat bits hn.2

/-- Integers of 64 bits, with or without a sign. -/
def Number.IsWhole : Number → Prop
  | .integer n => -(signBit : Int) ≤ n ∧ n < 2 * signBit
  | .float _ => False

theorem Number.IsWhole.readsAs {n : Number} (h : n.IsWhole) : n.ReadsAs n := by
  cases n with
  | integer n => exact readsAs_integer h.1 h.2
  | float bits => cases h

theorem Sound.whole {depth : Nat} {v : Value} (h : Sound Number.Fits depth v)
    (hfloat : ∀ bits, .float bits ∉ v.numbers) : Sound Number.IsWhole depth v := by
  refine h.numbers.imp fun n hn => ?_
  cases n with
  | integer n => exact hn.1
  | float bits => exact absurd hn.2 (hfloat bits)

/-- A value whose numbers are integers is read as it was written. -/
theorem Sound.reread_eq {depth : Nat} {v : Value} (h : Sound Number.IsWhole depth v) :
    v.reread = v := by
  induction h with
  | null => rfl
  | bool b => rfl
  | number h => rw [Value.reread, h.readsAs.reread_eq]
  | string s => rfl
  | array _ ih =>
      rw [Value.reread, rereadItems_eq_map, List.map_congr_left ih, List.map_id']
  | object _ _ ih =>
      rw [Value.reread, rereadFields_eq_map,
        List.map_congr_left fun f hf => congrArg (Prod.mk f.1) (ih f hf), List.map_id']

theorem sound_of_parse {text : String} {v : Value} (h : parse text = .ok v) :
    Sound Number.Fits maxDepth v := by
  unfold parse complete at h
  split at h
  · cases h
  rename_i hread
  split at h
  · obtain rfl := Except.ok.inj h
    exact sound_of_readValue (fun _ _ _ _ => fits_of_readNumber) hread
  · cases h

end Phrasebook.Json

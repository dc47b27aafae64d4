import Phrasebook.Proofs.Json.Text
import Phrasebook.Proofs.Json.Value

/-!
What is written is read again.

A sequence of items is read item by item, whatever the items are. A value is read from its text
whatever follows it, as long as that does not go on with a number.
-/

namespace Phrasebook.Json

def Blanks (cs : List Char) : Prop := ∀ c ∈ cs, isBlank c = true

theorem skipBlanks_append {bs : List Char} (h : Blanks bs) (cs : List Char) :
    skipBlanks (bs ++ cs) = skipBlanks cs :=
  List.dropWhile_append_of_pos h

theorem skipBlanks_cons {c : Char} (h : isBlank c = false) (cs : List Char) :
    skipBlanks (c :: cs) = c :: cs := by
  rw [skipBlanks, List.dropWhile_cons_of_neg (by simp [h])]

theorem endsNumber_cons {c : Char} (h : c.isDigit = false ∧ c ≠ '.' ∧ c ≠ 'e' ∧ c ≠ 'E')
    (cs : List Char) : EndsNumber (c :: cs) := by
  intro d hd
  obtain rfl := Option.some.inj hd
  exact h

theorem endsNumber_append {bs rest : List Char} (hbs : Blanks bs) (h : EndsNumber rest) :
    EndsNumber (bs ++ rest) := by
  cases bs with
  | nil => exact h
  | cons b bs =>
      refine endsNumber_cons ?_ (bs ++ rest)
      have hb := hbs b List.mem_cons_self
      simp only [isBlank, Bool.or_eq_true, decide_eq_true_eq] at hb
      rcases hb with ((rfl | rfl) | rfl) | rfl <;> decide

/-- Whether an item can start with a text: with neither a blank nor the closing mark. -/
def Opens (close : Char) (cs : List Char) : Prop :=
  ∃ c rest, cs = c :: rest ∧ isBlank c = false ∧ c ≠ close

theorem length_le_flatMap {α : Type} (lead : List Char) (text : α → List Char) (items : List α) :
    items.length ≤ (items.flatMap fun a => ',' :: lead ++ text a).length := by
  induction items with
  | nil => exact Nat.le_refl 0
  | cons a items ih =>
      simp only [List.flatMap_cons, List.length_append, List.length_cons]
      omega

section

variable {σ α : Type} {close : Char} {item : σ → List Char → Read σ} {step : σ → α → σ}
  {text : α → List Char} {lead trail rest : List Char}

theorem readSeq_close (hclose : isBlank close = false) (htrail : Blanks trail) (fuel : Nat)
    (first : Bool) (s : σ) :
    readSeq close (fun _ => false) item (fuel + 1) first s (trail ++ close :: rest) =
      .ok (s, rest) := by
  rw [readSeq, skipBlanks_append htrail, skipBlanks_cons hclose]
  simp

theorem readSeq_first {cs : List Char} (hlead : Blanks lead) (hopens : Opens close cs)
    {s s' : σ} (hitem : item s cs = .ok (s', rest)) (fuel : Nat) :
    readSeq close (fun _ => false) item (fuel + 1) true s (lead ++ cs) =
      readSeq close (fun _ => false) item fuel false s' rest := by
  obtain ⟨c, more, rfl, hc, hne⟩ := hopens
  rw [readSeq, skipBlanks_append hlead, skipBlanks_cons hc]
  simp [hne, hitem]

theorem readSeq_next {cs : List Char} (hcomma : close ≠ ',') (hlead : Blanks lead)
    (hopens : Opens close cs) {s s' : σ} (hitem : item s cs = .ok (s', rest)) (fuel : Nat) :
    readSeq close (fun _ => false) item (fuel + 1) false s (',' :: lead ++ cs) =
      readSeq close (fun _ => false) item fuel false s' rest := by
  obtain ⟨c, more, rfl, hc, hne⟩ := hopens
  have hskip : skipBlanks (',' :: (lead ++ c :: more)) = ',' :: (lead ++ c :: more) :=
    skipBlanks_cons (by decide) _
  have hskip' : skipBlanks (lead ++ c :: more) = c :: more := by
    rw [skipBlanks_append hlead, skipBlanks_cons hc]
  rw [readSeq, List.cons_append, hskip]
  simp [Ne.symm hcomma, hskip', hne, hitem]

/-- Items behind the first, each behind a comma, and the closing mark. -/
theorem readSeq_items (hclose : isBlank close = false) (hcomma : close ≠ ',')
    (hends : EndsNumber (close :: rest)) (hlead : Blanks lead) (htrail : Blanks trail)
    {items : List α} (hopens : ∀ a ∈ items, ∀ rest, Opens close (text a ++ rest))
    (hitem : ∀ a ∈ items, ∀ s rest, EndsNumber rest →
      item s (text a ++ rest) = .ok (step s a, rest))
    {fuel : Nat} (hfuel : items.length < fuel) (s : σ) :
    readSeq close (fun _ => false) item fuel false s
        (items.flatMap (fun a => ',' :: lead ++ text a) ++ (trail ++ close :: rest)) =
      .ok (items.foldl step s, rest) := by
  induction items generalizing fuel s with
  | nil =>
      obtain ⟨fuel, rfl⟩ := Nat.exists_eq_succ_of_ne_zero (Nat.ne_of_gt hfuel)
      exact readSeq_close hclose htrail fuel false s
  | cons a items ih =>
      obtain ⟨fuel, rfl⟩ := Nat.exists_eq_succ_of_ne_zero (Nat.ne_of_gt (Nat.zero_lt_of_lt hfuel))
      let behind := items.flatMap (fun a => ',' :: lead ++ text a) ++ (trail ++ close :: rest)
      have hbehind : EndsNumber behind := by
        cases items with
        | nil => simpa [behind] using endsNumber_append htrail hends
        | cons b items => exact endsNumber_cons (by decide) _
      have hread := hitem a List.mem_cons_self s behind hbehind
      have htext : (a :: items).flatMap (fun a => ',' :: lead ++ text a) ++
          (trail ++ close :: rest) = ',' :: lead ++ (text a ++ behind) := by
        simp [behind]
      rw [htext, readSeq_next hcomma hlead (hopens a List.mem_cons_self behind) hread]
      exact ih (fun b hb => hopens b (List.mem_cons_of_mem _ hb))
        (fun b hb => hitem b (List.mem_cons_of_mem _ hb)) (Nat.lt_of_succ_lt_succ hfuel) _

/-- All items from behind the opening mark, with as many turns as there are characters. -/
theorem readSeq_text (hclose : isBlank close = false) (hcomma : close ≠ ',')
    (hends : ∀ rest, EndsNumber (close :: rest)) (hlead : Blanks lead) (htrail : Blanks trail)
    {a : α} {items : List α} (hopens : ∀ b ∈ a :: items, ∀ rest, Opens close (text b ++ rest))
    (hitem : ∀ b ∈ a :: items, ∀ s rest, EndsNumber rest →
      item s (text b ++ rest) = .ok (step s b, rest))
    (rest : List Char) {whole : List Char} (hwhole : whole = lead ++ (text a ++
      (items.flatMap (fun b => ',' :: lead ++ text b) ++ (trail ++ close :: rest)))) (s : σ) :
    readSeq close (fun _ => false) item (whole.length + 1) true s whole =
      .ok ((a :: items).foldl step s, rest) := by
  let behind := items.flatMap (fun b => ',' :: lead ++ text b) ++ (trail ++ close :: rest)
  have hbehind : EndsNumber behind := by
    cases items with
    | nil => simpa [behind] using endsNumber_append htrail (hends rest)
    | cons b items => exact endsNumber_cons (by decide) _
  have hread := hitem a List.mem_cons_self s behind hbehind
  have hfuel : items.length < whole.length := by
    have hitems := length_le_flatMap lead text items
    rw [hwhole]
    simp only [List.length_append, List.length_cons] at hitems ⊢
    omega
  rw [hwhole] at hfuel ⊢
  rw [readSeq_first hlead (hopens a List.mem_cons_self behind) hread]
  exact readSeq_items hclose hcomma (hends rest) hlead htrail
    (fun b hb => hopens b (List.mem_cons_of_mem _ hb))
    (fun b hb => hitem b (List.mem_cons_of_mem _ hb)) hfuel (step s a)

end

/-- Whether a layout puts nothing but blanks between the parts of a value, a colon apart. -/
structure Layout.Blank (l : Layout) : Prop where
  lineBreak : ∀ depth, Blanks (l.lineBreak depth)
  colon : ∃ bs, l.colon = ':' :: bs ∧ Blanks bs

theorem Layout.blank_indented (width : Nat) : (Layout.indented width).Blank where
  lineBreak := by
    intro depth c hc
    rcases List.mem_cons.mp hc with rfl | hc
    · decide
    · obtain rfl := List.eq_of_mem_replicate hc
      decide
  colon := ⟨[' '], rfl, by simp [Blanks, isBlank]⟩

theorem readValue_scalar {rule : Rule} {c : Char} (hblank : isBlank c = false) (harray : c ≠ '[')
    (hobject : c ≠ '\x7b') {bs : List Char} (hbs : Blanks bs) (depth : Nat) (rest : List Char) :
    readValue rule depth (bs ++ c :: rest) = readScalar rule c rest := by
  have hskip : skipBlanks (bs ++ c :: rest) = c :: rest := by
    rw [skipBlanks_append hbs, skipBlanks_cons hblank]
  cases depth with
  | zero => rw [readValue, hskip]
  | succ depth =>
      rw [readValue, hskip]
      split
      · rename_i heq
        cases heq
      · rename_i heq
        exact absurd (List.cons.inj heq).1 harray
      · rename_i heq
        exact absurd (List.cons.inj heq).1 hobject
      · rename_i heq
        obtain ⟨rfl, rfl⟩ := List.cons.inj heq
        rfl

theorem isDigit_of_readNumber {negative : Bool} {c : Char} {cs rest : List Char} {n : Number}
    (h : readNumber negative (c :: cs) = .ok (n, rest)) : c.isDigit = true := by
  unfold readNumber at h
  split at h
  · cases h
  rename_i hwhole
  unfold readWhole at hwhole
  simp only at hwhole
  split at hwhole
  · rename_i hzero
    rw [hzero]
    rfl
  split at hwhole
  · assumption
  · cases hwhole

theorem ne_of_isDigit {c d : Char} (hc : c.isDigit = true) (hd : d.isDigit = false) : c ≠ d := by
  rintro rfl
  rw [hc] at hd
  cases hd

theorem isBlank_of_isDigit {c : Char} (hc : c.isDigit = true) : isBlank c = false := by
  have hne : ∀ d : Char, d.isDigit = false → c ≠ d := fun d => ne_of_isDigit hc
  simp [isBlank, hne ' ' (by decide), hne '\n' (by decide), hne '\t' (by decide),
    hne '\r' (by decide)]

/-- The text of a number starts with a sign or a digit, and is read whatever ends it. -/
theorem exists_of_rereadable {n : Number} (h : n.Rereadable) :
    ∃ c cs, printNumber n = c :: cs ∧ (c = '-' ∨ c.isDigit = true) ∧
      ∀ rest, EndsNumber rest →
        readScalar strictRule c (cs ++ rest) = .ok (.number n.reread, rest) := by
  unfold Number.Rereadable Number.ReadsAs readSigned at h
  split at h
  · rename_i cs heq
    refine ⟨'-', cs, heq, Or.inl rfl, fun rest hrest => ?_⟩
    have hread := readNumber_append hrest h
    simp [readScalar, strictRule, hread, Except.map]
  · rename_i hminus
    cases hprint : printNumber n with
    | nil =>
        rw [hprint] at h
        cases h
    | cons c cs =>
        rw [hprint] at h
        have hdigit := isDigit_of_readNumber h
        refine ⟨c, cs, rfl, Or.inr hdigit, fun rest hrest => ?_⟩
        have hread := readNumber_append hrest h
        have hne : ∀ d : Char, d.isDigit = false → c ≠ d := fun d => ne_of_isDigit hdigit
        rw [List.cons_append] at hread
        simp [readScalar, strictRule, hread, Except.map, hdigit, hne 'n' (by decide),
          hne 't' (by decide), hne 'f' (by decide), hne '"' (by decide), hne '-' (by decide)]

theorem opens_cons {close c : Char} (hblank : isBlank c = false) (hne : c ≠ close)
    (cs : List Char) : Opens close (c :: cs) :=
  ⟨c, cs, rfl, hblank, hne⟩

theorem opens_print {close : Char} (hclose : close = ']' ∨ close = '\x7d') {depth : Nat}
    {v : Value} (h : Sound Number.Rereadable depth v) (l : Layout) (level : Nat)
    (rest : List Char) : Opens close (print l level v ++ rest) := by
  have hopens : ∀ c cs, isBlank c = false → c ≠ ']' → c ≠ '\x7d' → Opens close (c :: cs) := by
    intro c cs hblank hbracket hbrace
    rcases hclose with rfl | rfl
    · exact opens_cons hblank hbracket cs
    · exact opens_cons hblank hbrace cs
  cases h with
  | null => exact hopens 'n' _ (by decide) (by decide) (by decide)
  | bool b =>
      cases b
      · exact hopens 'f' _ (by decide) (by decide) (by decide)
      · exact hopens 't' _ (by decide) (by decide) (by decide)
  | number hn =>
      obtain ⟨c, cs, hprint, hc, -⟩ := exists_of_rereadable hn
      rw [print, hprint]
      rcases hc with rfl | hdigit
      · exact hopens '-' _ (by decide) (by decide) (by decide)
      · exact hopens c _ (isBlank_of_isDigit hdigit) (ne_of_isDigit hdigit (by decide))
          (ne_of_isDigit hdigit (by decide))
  | string s => exact hopens '"' _ (by decide) (by decide) (by decide)
  | @array _ items _ =>
      cases items
      · exact hopens '[' _ (by decide) (by decide) (by decide)
      · exact hopens '[' _ (by decide) (by decide) (by decide)
  | @object _ fields _ _ =>
      cases fields
      · exact hopens '\x7b' _ (by decide) (by decide) (by decide)
      · exact hopens '\x7b' _ (by decide) (by decide) (by decide)

theorem printItems_eq_flatMap (l : Layout) (level : Nat) (items : List Value) :
    printItems l level items =
      items.flatMap fun v => ',' :: l.lineBreak level ++ print l level v := by
  induction items with
  | nil => rfl
  | cons v items ih => rw [printItems, ih, List.flatMap_cons]

def printField (l : Layout) (level : Nat) (f : String × Value) : List Char :=
  printString f.1 ++ l.colon ++ print l level f.2

theorem printFields_eq_flatMap (l : Layout) (level : Nat) (fields : Fields) :
    printFields l level fields =
      fields.flatMap fun f => ',' :: l.lineBreak level ++ printField l level f := by
  induction fields with
  | nil => rfl
  | cons f fields ih =>
      rw [printFields, ih, List.flatMap_cons]
      simp [printField]

theorem readKey_printString (key : String) (bs rest : List Char) :
    readKey true (printString key ++ (':' :: bs ++ rest)) = .ok (key, bs ++ rest) := by
  have htext : printString key ++ (':' :: bs ++ rest) =
      '"' :: (key.toList.flatMap escapeChar ++ '"' :: ':' :: (bs ++ rest)) := by
    simp [printString]
  rw [htext, readKey, skipBlanks_cons (by decide)]
  simp only [readText_flatMap_escapeChar, skipBlanks_cons (show isBlank ':' = false by decide),
    String.ofList_toList]

def readItem (rule : Rule) (depth : Nat) (items : List Value) (cs : List Char) :
    Read (List Value) :=
  (readValue rule depth cs).map fun (v, r) => (v :: items, r)

theorem readValue_array {rule : Rule} {bs : List Char} (hbs : Blanks bs) (depth : Nat)
    (rest : List Char) :
    readValue rule (depth + 1) (bs ++ '[' :: rest) =
      (readSeq ']' (fun _ => false) (readItem rule depth) (rest.length + 1) true [] rest).map
        fun p => (.array p.1.reverse, p.2) := by
  rw [readValue, skipBlanks_append hbs, skipBlanks_cons (by decide)]
  rfl

def readMember (rule : Rule) (depth : Nat) (fields : Fields) (cs : List Char) : Read Fields :=
  match readKey rule.paired cs with
  | .error e => .error e
  | .ok (key, behind) => (readValue rule depth behind).map fun (v, r) => (fields.set key v, r)

theorem readValue_object {rule : Rule} {bs : List Char} (hbs : Blanks bs) (depth : Nat)
    (rest : List Char) :
    readValue rule (depth + 1) (bs ++ '\x7b' :: rest) =
      (readSeq '\x7d' (fun _ => false) (readMember rule depth) (rest.length + 1) true [] rest).map
        fun p => (.object p.1, p.2) := by
  rw [readValue, skipBlanks_append hbs, skipBlanks_cons (by decide)]
  rfl

theorem blanks_nil : Blanks [] := by
  intro c hc
  cases hc

section

variable {l : Layout} {depth level : Nat} {bs rest : List Char}

theorem readValue_printArray (hl : l.Blank) {items : List Value}
    (hsound : ∀ v ∈ items, Sound Number.Rereadable depth v)
    (hread : ∀ v ∈ items, ∀ rest, EndsNumber rest →
      readValue strictRule depth (print l (level + 1) v ++ rest) = .ok (v.reread, rest))
    (hbs : Blanks bs) :
    readValue strictRule (depth + 1) (bs ++ (print l level (.array items) ++ rest)) =
      .ok (.array (rereadItems items), rest) := by
  cases items with
  | nil =>
      have htext : print l level (.array []) ++ rest = '[' :: ([] ++ ']' :: rest) := rfl
      rw [htext, readValue_array hbs, readSeq_close (by decide) blanks_nil]
      rfl
  | cons v items =>
      have htext : print l level (.array (v :: items)) ++ rest = '[' ::
          (l.lineBreak (level + 1) ++ (print l (level + 1) v ++
            (items.flatMap (fun v => ',' :: l.lineBreak (level + 1) ++ print l (level + 1) v) ++
              (l.lineBreak level ++ ']' :: rest)))) := by
        simp [print, printItems_eq_flatMap]
      have hitem : ∀ u ∈ v :: items, ∀ vs rest, EndsNumber rest →
          readItem strictRule depth vs (print l (level + 1) u ++ rest) =
            .ok (u.reread :: vs, rest) := by
        intro u hu vs rest hrest
        rw [readItem, hread u hu rest hrest]
        rfl
      have hseq := readSeq_text (by decide) (by decide) (fun _ => endsNumber_cons (by decide) _)
        (hl.lineBreak (level + 1)) (hl.lineBreak level)
        (fun v hv => opens_print (Or.inl rfl) (hsound v hv) l (level + 1)) hitem rest rfl []
      rw [htext, readValue_array hbs, hseq, List.foldl_flip_cons_eq_append]
      simp [Except.map, rereadItems_eq_map]

theorem readValue_printObject (hl : l.Blank) {fields : Fields} (hkeys : fields.keys.Nodup)
    (hread : ∀ f ∈ fields, ∀ bs rest, Blanks bs → EndsNumber rest →
      readValue strictRule depth (bs ++ (print l (level + 1) f.2 ++ rest)) =
        .ok (f.2.reread, rest))
    (hbs : Blanks bs) :
    readValue strictRule (depth + 1) (bs ++ (print l level (.object fields) ++ rest)) =
      .ok (.object (rereadFields fields), rest) := by
  cases fields with
  | nil =>
      have htext : print l level (.object []) ++ rest = '\x7b' :: ([] ++ '\x7d' :: rest) := rfl
      rw [htext, readValue_object hbs, readSeq_close (by decide) blanks_nil]
      rfl
  | cons f fields =>
      have htext : print l level (.object (f :: fields)) ++ rest = '\x7b' ::
          (l.lineBreak (level + 1) ++ (printField l (level + 1) f ++
            (fields.flatMap (fun f => ',' :: l.lineBreak (level + 1) ++
                printField l (level + 1) f) ++
              (l.lineBreak level ++ '\x7d' :: rest)))) := by
        simp [print, printFields_eq_flatMap, printField]
      have hmember : ∀ g ∈ f :: fields, ∀ fs rest, EndsNumber rest →
          readMember strictRule depth fs (printField l (level + 1) g ++ rest) =
            .ok (fs.set g.1 g.2.reread, rest) := by
        intro g hg fs rest hrest
        obtain ⟨bs, hcolon, hblank⟩ := hl.colon
        have hfield : printField l (level + 1) g ++ rest =
            printString g.1 ++ (':' :: bs ++ (print l (level + 1) g.2 ++ rest)) := by
          simp [printField, hcolon]
        rw [hfield, readMember, show strictRule.paired = true from rfl, readKey_printString]
        simp only [hread g hg bs rest hblank hrest]
        rfl
      have hopens : ∀ g ∈ f :: fields, ∀ rest,
          Opens '\x7d' (printField l (level + 1) g ++ rest) :=
        fun g _ rest => opens_cons (by decide) (by decide) _
      have hseq := readSeq_text (by decide) (by decide) (fun _ => endsNumber_cons (by decide) _)
        (hl.lineBreak (level + 1)) (hl.lineBreak level) hopens hmember rest rfl []
      have hfold := @foldl_set Value.reread [] _ hkeys
      rw [List.map_nil, List.nil_append, ← rereadFields_eq_map] at hfold
      rw [htext, readValue_object hbs, hseq, hfold]
      rfl

end

theorem readValue_print {l : Layout} (hl : l.Blank) {depth : Nat} {v : Value}
    (h : Sound Number.Rereadable depth v) (level : Nat) {bs rest : List Char} (hbs : Blanks bs)
    (hrest : EndsNumber rest) :
    readValue strictRule depth (bs ++ (print l level v ++ rest)) = .ok (v.reread, rest) := by
  induction h generalizing level bs rest with
  | null => exact readValue_scalar (by decide) (by decide) (by decide) hbs _ _
  | bool b =>
      cases b
      · exact readValue_scalar (by decide) (by decide) (by decide) hbs _ _
      · exact readValue_scalar (by decide) (by decide) (by decide) hbs _ _
  | number hn =>
      obtain ⟨c, cs, hprint, hc, hread⟩ := exists_of_rereadable hn
      have hscalar : isBlank c = false ∧ c ≠ '[' ∧ c ≠ '\x7b' := by
        rcases hc with rfl | hdigit
        · decide
        · exact ⟨isBlank_of_isDigit hdigit, ne_of_isDigit hdigit (by decide),
            ne_of_isDigit hdigit (by decide)⟩
      rw [print, hprint, List.cons_append, readValue_scalar hscalar.1 hscalar.2.1 hscalar.2.2 hbs]
      exact hread rest hrest
  | string s =>
      have htext : print l level (.string s) ++ rest =
          '"' :: (s.toList.flatMap escapeChar ++ '"' :: rest) := by
        simp [print, printString]
      rw [htext, readValue_scalar (by decide) (by decide) (by decide) hbs]
      simp [readScalar, strictRule, readText_flatMap_escapeChar, Except.map, Value.reread]
  | array hitems ih =>
      exact readValue_printArray hl hitems
        (fun v hv rest hrest => ih v hv (level + 1) blanks_nil hrest) hbs
  | object hkeys _ ih =>
      exact readValue_printObject hl hkeys
        (fun f hf _ _ hblank hrest => ih f hf (level + 1) hblank hrest) hbs

/-- A sound value is read from its text over several lines, with blanks behind it. -/
theorem parse_indented (width : Nat) {v : Value} (h : Sound Number.Rereadable maxDepth v)
    {trail : String} (htrail : Blanks trail.toList) :
    parse (v.indented width ++ trail) = .ok v.reread := by
  have hends : EndsNumber trail.toList := by
    simpa using endsNumber_append htrail (show EndsNumber [] by intro c hc; cases hc)
  have hread := readValue_print (Layout.blank_indented width) h 0 blanks_nil hends
  have hskip : skipBlanks trail.toList = [] := by
    simpa [skipBlanks] using skipBlanks_append htrail []
  rw [List.nil_append] at hread
  rw [parse, String.toList_append, Value.indented, String.toList_ofList, hread, complete, hskip]
  rfl

end Phrasebook.Json

import Phrasebook.Proofs.Component.Literal
import Phrasebook.Proofs.Component.Naming
import Phrasebook.Proofs.Script.StringLiteral

/-!
What the lookups in migrated code ask for.

A key is pasted between quotes as it is. This works because a key has no quote, no backslash and no
line end in it: it is an identifier, a point and a slug. So the string that a lookup passes on is
the key of the entry that was recorded with it, and the point in the key is the only one.
-/

namespace Phrasebook.Component

open Script
open Source (Edit)
open Catalog (Entry)

theorem escapeQuote_eq_self {quote : Char} {cs : List Char}
    (h : ∀ c ∈ cs, c ≠ quote ∧ c ≠ '\\') : escapeQuote quote cs = cs := by
  induction cs with
  | nil => rfl
  | cons c cs ih =>
      obtain ⟨hquote, hslash⟩ := h c List.mem_cons_self
      rw [escapeQuote, if_neg (by simp [hquote, hslash]),
        ih fun d hd => h d (List.mem_cons_of_mem c hd)]

/-- In ASCII, a key has letters, digits, two signs and the point. -/
theorem mem_key {m : Module} (h : m.NamesAreIdentifiers) (options : Options) (l : Literal)
    {c : Char} (hc : c ∈ (l.entry (classify options m)).key.toList) (hascii : c.toNat < 128) :
    c.isAlphanum = true ∨ c = '_' ∨ c = '$' ∨ c = '.' := by
  have hparts : c ∈ (classify options m).name.toList ∨ c = '.' ∨
      c ∈ (slugify l.text).toList := by
    simpa [Entry.key, Literal.entry, String.toList_append] using hc
  rcases hparts with hname | hdot | hslug
  · rcases isIdentifier_name h options c hname hascii with hc | hc | hc
    · exact Or.inl hc
    · exact Or.inr (Or.inl hc)
    · exact Or.inr (Or.inr (Or.inl hc))
  · exact Or.inr (Or.inr (Or.inr hdot))
  · rcases Slug.isPlain_of_mem_slugify hslug with hc | hplain
    · exact Or.inr (Or.inl hc)
    · left
      rcases hplain hascii with hlower | hdigit
      · have halpha : c.isAlpha = true := Bool.or_eq_true_iff.mpr (Or.inr hlower)
        simp [Char.isAlphanum, halpha]
      · simp [Char.isAlphanum, hdigit]

/-- A key reads as itself between single quotes, whatever follows. -/
theorem readString_key {m : Module} (h : m.NamesAreIdentifiers) (options : Options) (l : Literal)
    (rest : List Char) :
    let key := (l.entry (classify options m)).key
    readString (("'" ++ key ++ "'").toList ++ rest) =
      some ⟨some key, Text.byteLength ("'" ++ key ++ "'").toList, rest⟩ := by
  intro key
  have hplain : ∀ c ∈ key.toList, c ≠ '\'' ∧ c ≠ '\\' ∧ c ≠ '\n' ∧ c ≠ '\r' := by
    intro c hc
    refine ⟨?_, ?_, ?_, ?_⟩ <;>
    · rintro rfl
      exact absurd (mem_key h options l hc (by decide)) (by decide)
  have hquoted : "'" ++ key ++ "'" = quoted '\'' key := by
    rw [quoted, escapeQuote_eq_self fun c hc => ⟨(hplain c hc).1, (hplain c hc).2.1⟩]
    apply String.toList_inj.mp
    simp [String.toList_append]
  have hlines : ¬ ('\n' ∈ key.toList ∨ '\r' ∈ key.toList) := by
    rintro (hn | hr)
    · exact (hplain _ hn).2.2.1 rfl
    · exact (hplain _ hr).2.2.2 rfl
  rw [hquoted, readString_quoted (Or.inl rfl), if_neg hlines]

/-- A code text looks an entry up: it calls the lookup function with a string, which ends at its
own quote and has the value of the key, and the key splits into component and slug. -/
structure LooksUp (c : Identity) (entry : Entry) (braced : Bool) (text : String) : Prop where
  call : text = (if braced then "\x7b" else "") ++ (if c.isClass then "this.props.t(" else "t(")
    ++ ("'" ++ entry.key ++ "'") ++ ")" ++ (if braced then "\x7d" else "")
  value : ∀ rest, readString (("'" ++ entry.key ++ "'").toList ++ rest) =
    some ⟨some entry.key, Text.byteLength ("'" ++ entry.key ++ "'").toList, rest⟩
  path : Catalog.keyPath entry.key = [entry.component, entry.slug]

theorem looksUp_edit {m : Module} (h : m.NamesAreIdentifiers) (options : Options) (l : Literal) :
    LooksUp (classify options m) (l.entry (classify options m)) l.braced
      (l.edit (classify options m)).text := by
  refine ⟨?_, readString_key h options l, ?_⟩
  · apply String.toList_inj.mp
    cases hbraced : l.braced <;> cases hclass : (classify options m).isClass <;>
      simp [Literal.edit, lookupCall, lookupName, hbraced, hclass, String.toList_append]
  · exact Catalog.keyPath_key (dot_not_mem_name h options) (Slug.dot_not_mem_slugify l.text)

/-- A text that is found at braces stands in a conditional there. -/
def Spot.InBraces (m : Module) (spot : Spot) : Prop :=
  ∃ outer inner, m.at? spot.visit = some (.mk outer .container [inner])

/-- A lookup gets braces of its own just where there are none. -/
theorem IsSpot.braced_iff {options : Options} {m : Module} {spot : Spot}
    (h : IsSpot options m spot) : spot.literal.braced = true ↔ ¬ spot.InBraces m := by
  cases h with
  | text hat _ =>
      refine iff_of_true rfl ?_
      rintro ⟨outer, inner, hat'⟩
      cases hat.symm.trans hat'
  | branch hat _ _ _ _ =>
      refine iff_of_false Bool.false_ne_true ?_
      exact fun hnot => hnot ⟨_, _, hat⟩
  | attr hat _ =>
      refine iff_of_true rfl ?_
      rintro ⟨outer, inner, hat'⟩
      cases hat.symm.trans hat'

/-- Edits and entries come in pairs: each lookup asks for the entry recorded with it. -/
theorem edits_look_up_entries {m : Module} (h : m.NamesAreIdentifiers) (options : Options) :
    let c := classify options m
    let edits := (literals options m).map (·.edit c)
    let entries := (literals options m).map (·.entry c)
    edits.length = entries.length ∧
      ∀ (i : Nat) (e : Edit) (entry : Entry), edits[i]? = some e → entries[i]? = some entry →
        ∃ (spot : Spot) (braced : Bool), (spots options m)[i]? = some spot ∧
          (braced = true ↔ ¬ spot.InBraces m) ∧ LooksUp c entry braced e.text := by
  intro c edits entries
  refine ⟨by simp [edits, entries], ?_⟩
  intro i e entry he hentry
  rw [show edits[i]? = ((literals options m)[i]?).map (·.edit c) from List.getElem?_map] at he
  rw [show entries[i]? = ((literals options m)[i]?).map (·.entry c) from List.getElem?_map]
    at hentry
  obtain ⟨l, hl, rfl⟩ := Option.map_eq_some_iff.mp he
  obtain ⟨l', hl', rfl⟩ := Option.map_eq_some_iff.mp hentry
  obtain rfl : l = l' := Option.some.inj (hl.symm.trans hl')
  rw [← map_literal_spots, List.getElem?_map, Option.map_eq_some_iff] at hl
  obtain ⟨spot, hspot, rfl⟩ := hl
  have hIsSpot := (mem_spots.mp (List.mem_of_getElem? hspot)).1
  exact ⟨spot, spot.literal.braced, hspot, hIsSpot.braced_iff,
    looksUp_edit h options spot.literal⟩

/-- A class with a name beyond ASCII, and a text with a quote, a backslash and points. -/
def notice : String :=
  "class Größe$ extends Component \x7b\x7d\n<p>Don't \\ stop. Ever.</p>;\n"

theorem parse_notice :
    (Script.parse .jsx notice).any (fun m => decide m.NamesAreIdentifiers &&
      decide ((literals {} m).map (fun l => (l.edit (classify {} m), l.entry (classify {} m))) =
        [(⟨⟨39, 58⟩, "\x7bthis.props.t('Größe$.dont_stop_ever')\x7d"⟩,
          ⟨"Größe$", "dont_stop_ever", "Don't \\ stop. Ever."⟩)])) = true := by
  decide +kernel

theorem notice_looks_up :
    ∃ m, Script.parse .jsx notice = some m ∧ m.NamesAreIdentifiers ∧
      ∃ l, literals {} m = [l] ∧
        (l.edit (classify {} m)).text = "\x7bthis.props.t('Größe$.dont_stop_ever')\x7d" ∧
        ∃ braced, LooksUp (classify {} m)
          ⟨"Größe$", "dont_stop_ever", "Don't \\ stop. Ever."⟩ braced
          (l.edit (classify {} m)).text := by
  obtain ⟨m, hm, hfound⟩ := (Option.any_eq_true ..).mp parse_notice
  rw [Bool.and_eq_true, decide_eq_true_eq, decide_eq_true_eq] at hfound
  obtain ⟨hnames, hpairs⟩ := hfound
  obtain ⟨l, hl, hpair⟩ := List.map_eq_singleton_iff.mp hpairs
  obtain ⟨hedit, hentry⟩ := Prod.mk.inj hpair
  obtain ⟨-, hall⟩ := edits_look_up_entries hnames {}
  obtain ⟨spot, braced, -, -, hlooks⟩ := hall 0 _ _ (by rw [hl]; rfl) (by rw [hl]; rfl)
  exact ⟨m, hm, hnames, l, hl, by rw [hedit], braced, hentry ▸ hlooks⟩

end Phrasebook.Component

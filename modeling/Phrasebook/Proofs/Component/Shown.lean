import Phrasebook.Proofs.Component.Edits
import Phrasebook.Proofs.Markup.Glyph

/-!
What readers see of a text between tags after it was moved to a catalog.

The white space around a text stays where it is, and the text in the catalog has none around it. The
first is cut from the text as it is written, the second from its value. White space that is written
as a reference is replaced with the text and is not part of the entry, so it is no longer seen.
-/

namespace Phrasebook

namespace Script

/-- Whether the value of a text between tags is what its references stand for. -/
def Form.isDecoded : Form → Bool
  | .markupText raw value => value.toList = Markup.decodeText raw.toList
  | _ => true

def Module.Decoded (m : Module) : Prop := ∀ n ∈ m.nodes, n.form.isDecoded = true

instance (m : Module) : Decidable m.Decoded :=
  inferInstanceAs (Decidable (∀ n ∈ m.nodes, n.form.isDecoded = true))

end Script

namespace Source

theorem slice?_append {source before mid after : List Char} {span : Span}
    (h : slice? source span = some (before ++ mid ++ after)) :
    slice? source ⟨span.start, span.start + Text.byteLength before⟩ = some before ∧
      slice? source ⟨span.start + Text.byteLength before,
        span.start + Text.byteLength (before ++ mid)⟩ = some mid ∧
      slice? source ⟨span.start + Text.byteLength (before ++ mid), span.stop⟩ = some after := by
  obtain ⟨front, back, hsource, hstart, hstop⟩ := slice?_eq_some_iff.mp h
  simp only [Text.byteLength_append] at hstop ⊢
  refine ⟨slice?_eq_some_iff.mpr ⟨front, mid ++ after ++ back, by simp [hsource], hstart, ?_⟩,
    slice?_eq_some_iff.mpr ⟨front ++ before, after ++ back, by simp [hsource], ?_, ?_⟩,
    slice?_eq_some_iff.mpr ⟨front ++ before ++ mid, back, by simp [hsource], ?_, ?_⟩⟩ <;>
    simp only [Text.byteLength_append] <;> omega

end Source

namespace Component

open Script
open Source (Span slice?)
open Text (isBlank)

theorem trimmedSpan_of_margins {raw before after lost lost' : List Char}
    (h : Markup.Margins raw before after lost lost') (start : Nat) :
    trimmedSpan start raw = ⟨start + Text.byteLength before,
      start + Text.byteLength (before ++ Text.trim raw)⟩ := by
  have hlength := congrArg Text.byteLength h.written
  have hstart := congrArg Text.byteLength h.start
  simp only [Text.byteLength_append] at hlength hstart
  rw [trimmedSpan, h.stop]
  congr 2
  omega

theorem literal_of_markupText {options : Options} {m : Module} {spot : Spot}
    (h : IsSpot options m spot) {span : Span} {raw value : String} {children : List Node}
    (hat : m.at? spot.address = some (.mk span (.markupText raw value) children)) :
    spot.literal = ⟨trimmedSpan span.start raw.toList, trimmed value, true⟩ := by
  cases h with
  | text hat' hletter => cases hat'.symm.trans hat; rfl
  | branch hat' hconditional hbranch hstring _ =>
      cases ((at?_branch hat' hconditional hbranch _).trans hstring.at?).symm.trans hat
  | attr hat' _ => cases (Module.at?_append hat' [0]).symm.trans hat

/-- A text between tags is seen as before, apart from white space at its ends that is written as
references. This white space is lost, and there is none exactly if the text that is replaced neither
starts nor ends with a reference to white space. -/
theorem text_shown {source : String} {m : Module} (hm : m.Placed source.toList)
    (hdecoded : m.Decoded) {options : Options} {spot : Spot} (hspot : spot ∈ spots options m)
    {span : Span} {raw value : String} {children : List Node}
    (hat : m.at? spot.address = some (.mk span (.markupText raw value) children)) :
    ∃ before replaced after lost lost' : List Char,
      slice? source.toList ⟨span.start, spot.literal.span.start⟩ = some before ∧
      slice? source.toList spot.literal.span = some replaced ∧
      slice? source.toList ⟨spot.literal.span.stop, span.stop⟩ = some after ∧
      (∀ c ∈ before ++ after, isBlank c = true) ∧ (∀ c ∈ lost ++ lost', isBlank c = true) ∧
      value.toList = before ++ lost ++ spot.literal.text.toList ++ lost' ++ after ∧
      (value.toList = before ++ spot.literal.text.toList ++ after ↔
        ¬ Markup.StartsBlank replaced ∧ ¬ Markup.EndsBlank replaced) := by
  obtain ⟨hIsSpot, hslug⟩ := mem_spots.mp hspot
  have hliteral := literal_of_markupText hIsSpot hat
  have hvalue : value.toList = Markup.decodeText raw.toList :=
    of_decide_eq_true (hdecoded _ (Module.mem_nodes_of_at? hat))
  have htext : spot.literal.text.toList = Text.trim value.toList := by
    rw [hliteral, trimmed, String.toList_ofList]
  have hvisible : Text.trim (Markup.decodeText raw.toList) ≠ [] := by
    intro hnil
    rw [← hvalue, ← htext, String.toList_eq_nil_iff] at hnil
    exact hslug (by rw [hnil]; rfl)
  obtain ⟨before, after, lost, lost', hmargins⟩ := Markup.exists_margins hvisible
  obtain ⟨text, hslice, hwritten⟩ :=
    (hm _ (Module.mem_preorder_root (Module.mem_nodes_of_at? hat))).slice?
  have hraw : text = before ++ Text.trim raw.toList ++ after :=
    (of_decide_eq_true hwritten).trans hmargins.written
  rw [hraw] at hslice
  obtain ⟨hbefore, hreplaced, hafter⟩ := Source.slice?_append hslice
  have hspan := trimmedSpan_of_margins hmargins span.start
  have hshown := hmargins.shown
  rw [← hvalue, ← htext] at hshown
  refine ⟨before, Text.trim raw.toList, after, lost, lost', ?_, ?_, ?_, hmargins.gaps,
    hmargins.blank, hshown, ?_⟩
  · rw [hliteral, hspan]
    exact hbefore
  · rw [hliteral, hspan]
    exact hreplaced
  · rw [hliteral, hspan]
    exact hafter
  · rw [hmargins.starts, hmargins.ends, hshown]
    constructor
    · intro h
      have hlength := congrArg List.length h
      simp only [List.length_append] at hlength
      exact ⟨fun hne => hne (List.eq_nil_of_length_eq_zero (by omega)),
        fun hne => hne (List.eq_nil_of_length_eq_zero (by omega))⟩
    · rintro ⟨hlost, hlost'⟩
      simp [Decidable.not_not.mp hlost, Decidable.not_not.mp hlost']

/-- A text that starts with white space of both kinds, and one with references inside. -/
def padded : String :=
  "const Note = () => <p> &nbsp;Hello there <b>\n Tea &amp; cake&#33;\n</b></p>;\n"

def paddedModule : Module :=
  ⟨⟨0, 75⟩,
    [.mk ⟨0, 75⟩ .variableList
      [.mk ⟨6, 74⟩ .declarator
        [.mk ⟨6, 10⟩ (.binding "Note") [],
         .mk ⟨13, 74⟩ .arrow
          [.mk ⟨19, 74⟩ .other
            [.mk ⟨22, 41⟩ (.markupText " &nbsp;Hello there " " \u00a0Hello there ") [],
             .mk ⟨41, 70⟩ .other
              [.mk ⟨44, 66⟩ (.markupText "\n Tea &amp; cake&#33;\n" "\n Tea & cake!\n") []]]]]]]⟩

def helloSpot : Spot :=
  ⟨[0, 0, 1, 0, 0], 0, [0, 0, 1, 0, 0], ⟨⟨23, 40⟩, "Hello there", true⟩⟩

def teaSpot : Spot :=
  ⟨[0, 0, 1, 0, 1, 0], 0, [0, 0, 1, 0, 1, 0], ⟨⟨46, 65⟩, "Tea & cake!", true⟩⟩

/-- What is evaluated of the module: how it is read, which texts are found in it, and the white space
around them. -/
structure PaddedFacts : Prop where
  parse : Script.parse .jsx padded = some paddedModule
  placed : paddedModule.Placed padded.toList
  decoded : paddedModule.Decoded
  spots : spots {} paddedModule = [helloSpot, teaSpot]
  aroundHello : slice? padded.toList ⟨22, 23⟩ = some [' '] ∧
    slice? padded.toList ⟨40, 41⟩ = some [' ']
  aroundTea : slice? padded.toList ⟨44, 46⟩ = some ['\n', ' '] ∧
    slice? padded.toList ⟨65, 66⟩ = some ['\n']

theorem paddedFacts : PaddedFacts := by
  have h : Script.parse .jsx padded = some paddedModule ∧ paddedModule.Placed padded.toList ∧
      paddedModule.Decoded ∧ spots {} paddedModule = [helloSpot, teaSpot] ∧
      (slice? padded.toList ⟨22, 23⟩ = some [' '] ∧ slice? padded.toList ⟨40, 41⟩ = some [' ']) ∧
      slice? padded.toList ⟨44, 46⟩ = some ['\n', ' '] ∧
      slice? padded.toList ⟨65, 66⟩ = some ['\n'] := by
    decide +kernel
  obtain ⟨hparse, hplaced, hdecoded, hspots, hhello, htea⟩ := h
  exact ⟨hparse, hplaced, hdecoded, hspots, hhello, htea⟩

/-- The fixed space in front of a text is seen before it is moved, and not in front of its entry. -/
theorem hello_loses_space :
    ∃ m span raw value children before after, ∃ spot ∈ spots {} m,
      Script.parse .jsx padded = some m ∧ m.Placed padded.toList ∧ m.Decoded ∧
      m.at? spot.address = some (.mk span (.markupText raw value) children) ∧
      slice? padded.toList ⟨span.start, spot.literal.span.start⟩ = some before ∧
      slice? padded.toList ⟨spot.literal.span.stop, span.stop⟩ = some after ∧
      value.toList = before ++ '\u00a0' :: spot.literal.text.toList ++ after ∧
      value.toList ≠ before ++ spot.literal.text.toList ++ after :=
  ⟨paddedModule, ⟨22, 41⟩, " &nbsp;Hello there ", " \u00a0Hello there ", [], [' '], [' '], helloSpot,
    by simp [paddedFacts.spots], paddedFacts.parse, paddedFacts.placed, paddedFacts.decoded, rfl,
    paddedFacts.aroundHello.1, paddedFacts.aroundHello.2, by decide, by decide⟩

/-- References inside a text, and one to another sign at its end, take nothing away. -/
theorem tea_shown :
    paddedModule.Placed padded.toList ∧ paddedModule.Decoded ∧
      teaSpot ∈ spots {} paddedModule ∧
      ∃ replaced, slice? padded.toList teaSpot.literal.span = some replaced ∧
        ¬ Markup.StartsBlank replaced ∧ ¬ Markup.EndsBlank replaced := by
  have hspot : teaSpot ∈ spots {} paddedModule := by simp [paddedFacts.spots]
  have hat : paddedModule.at? teaSpot.address =
      some (.mk ⟨44, 66⟩ (.markupText "\n Tea &amp; cake&#33;\n" "\n Tea & cake!\n") []) := rfl
  obtain ⟨before, replaced, after, -, -, hbefore, hreplaced, hafter, -, -, -, hseen⟩ :=
    text_shown paddedFacts.placed paddedFacts.decoded hspot hat
  obtain rfl := Option.some.inj (hbefore.symm.trans paddedFacts.aroundTea.1)
  obtain rfl := Option.some.inj (hafter.symm.trans paddedFacts.aroundTea.2)
  exact ⟨paddedFacts.placed, paddedFacts.decoded, hspot, replaced, hreplaced,
    hseen.mp (by decide)⟩

end Component

end Phrasebook

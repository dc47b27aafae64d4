import Phrasebook.Proofs.Component.Idempotence
import Phrasebook.Proofs.Component.Lookup
import Phrasebook.Proofs.Component.Reach
import Phrasebook.Proofs.Script.Names

/-!
The names that a module binds before and after its migration.

A migration exchanges parts of a text for parts of the same kind: a text for a lookup, the body of a
function for one that calls the hook, the value of a default export for a call. All that is assumed
of the reader is that the rest is read as it was before.
-/

namespace Phrasebook.Component

open Script
open Source (Edit)

/-- Edits that exchange parts of a module for others which can stand in their place, or that add
to its imports. Only if `wraps` holds, the first default export may get a call around it. -/
inductive Revision (source : List Char) (m : Module) (wraps : Bool) : List Edit → Prop
  | lookup {options : Options} {spot : Spot} {c : Identity} {entry : Catalog.Entry}
      {text : String} (hspot : spot ∈ spots options m)
      (htext : LooksUp c entry spot.literal.braced text) :
      Revision source m wraps [⟨spot.literal.span, text⟩]
  | hook {n : Node} {name : String} {host : Host} {t : Target} {edits : List Edit}
      (hn : n ∈ m.nodes) (hhost : IsHost name n host) (hquote : IsQuote t.quote)
      (hedits : Declares source t host edits) : Revision source m wraps edits
  | wrapper {value : Node} {t : Target} (hwraps : wraps = true)
      (hvalue : FirstDefaultExport m value) (hquote : IsQuote t.quote) :
      Revision source m wraps (wrapEdits t value.span)
  | imports {first : Node} {options : Options} {c : Identity} {t : Target} {statement : String}
      (hfirst : Leads m.items first) (hquote : IsQuote t.quote)
      (hstatement : ImportText options c t statement) :
      Revision source m wraps [.insert first.span.start (statement ++ "\n")]

/-- A revision takes text away only where a text is found. -/
theorem Revision.insertion {source : List Char} {m : Module} {wraps : Bool} {edits : List Edit}
    (h : Revision source m wraps edits) (hnone : ∀ options, spots options m = []) :
    ∀ e ∈ edits, e.span.start = e.span.stop := by
  cases h with
  | lookup hspot htext =>
      rw [hnone] at hspot
      cases hspot
  | hook hn hhost hquote hedits => cases hedits <;> simp [Edit.insert]
  | wrapper hwraps hvalue hquote => simp [wrapEdits, Edit.wrap, Edit.insert]
  | imports hfirst hquote hstatement => simp [Edit.insert]

/-- A class component that is the default export of its module, with some text behind it. -/
def sign (behind : String) : String :=
  "import R from 'react';\nexport default class Sign extends R.Component \x7b x = <p>Hi</p> \x7d" ++
  behind

end Phrasebook.Component

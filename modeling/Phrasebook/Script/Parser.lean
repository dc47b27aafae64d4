import Phrasebook.Script.Item

/-!
The grammar as a whole, and modules.
-/

namespace Phrasebook.Script

open Parse

/-- The grammar with a bound on how deep its parts may nest. -/
def grammar : Nat → Grammar
  | 0 => .empty
  | depth + 1 =>
      { assign := fun c => (grammar depth).assignment c
        unary := fun c => (grammar depth).operand c
        chainHead := fun c => (grammar depth).head c
        callChain := fun c => (grammar depth).chain c
        selection := fun c => (grammar depth).nameChain c
        statement := fun allowed c => (grammar depth).bodyStatement allowed c
        item := fun c => (grammar depth).moduleItem c
        target := fun noLet c => (grammar depth).bindingTarget noLet c
        type := fun c => (grammar depth).conditionalType c
        plainType := fun c => (grammar depth).unconditionalType c
        prefixType := fun c => (grammar depth).operatorType c
        element := fun c => (grammar depth).markupElement c }

/-- The text behind a mark for the order of bytes, and where it starts. -/
def skipMark : List Char → Nat × List Char
  | '\uFEFF' :: cs => (3, cs)
  | cs => (0, cs)

/-- Skips the line that names an interpreter: where the text goes on, and the text. -/
def skipInterpreter (offset : Nat) : List Char → Nat × List Char
  | '#' :: '!' :: cs =>
      let line := cs.takeWhile fun c => !isLineEnd c
      (offset + 2 + Text.byteLength line, cs.drop line.length)
  | cs => (offset, cs)

/-- The cursor at the first token of a text. -/
def Cursor.start (dialect : Dialect) (source : List Char) : Cursor :=
  let (offset, text) := skipMark source
  let (offset, text) := skipInterpreter offset text
  let scan := Scan.next true offset text
  { dialect, limit := 2 * source.length + 64, token := scan.token, here := scan.here,
    rest := scan.rest, lastStop := offset, scope := {}, labels := [], arrowStart := none,
    sound := true }

/-- Items up to the end of the text. -/
def moduleItems (g : Grammar) : Parse (List Node) := collect atEnd g.item

/-- Reads a module, or refuses it. -/
def parse (dialect : Dialect) (source : String) : Option Module :=
  let text := source.toList
  let cursor := Cursor.start dialect text
  match moduleItems (grammar (4 * text.length + 64)) cursor with
  | none => none
  | some (items, last) =>
      if last.sound then
        let base := (skipMark text).1
        let start := if items.isEmpty || base < cursor.lastStop then base
          else cursor.token.span.start
        some ⟨⟨start, last.lastStop⟩, items⟩
      else none

end Phrasebook.Script

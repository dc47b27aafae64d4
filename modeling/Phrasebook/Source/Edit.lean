import Phrasebook.Source.Span

/-!
Edits recorded against a source text and applied in one pass.

An edit replaces a span by a text; an insertion is an edit of an empty span. Edits are recorded in
any order. Applying them keeps every byte outside the replaced spans. Insertions at one offset stay
in recording order and come before a replacement that starts there.
-/

namespace Phrasebook.Source

structure Edit where
  span : Span
  text : String
deriving DecidableEq, Repr

/-- An edit that takes nothing away. -/
def Edit.isInsertion (e : Edit) : Bool := e.span.isEmpty

def Edit.insert (offset : Nat) (text : String) : Edit := ⟨⟨offset, offset⟩, text⟩

/-- Two insertions around a span, whose content stays open to other edits. -/
def Edit.wrap (span : Span) (before behind : String) : List Edit :=
  [.insert span.start before, .insert span.stop behind]

/-- Why a list of edits cannot be applied. -/
inductive EditError where
  /-- An edit starts before the end of the one applied last. -/
  | overlap (start applied : Nat)
  /-- An edit starts behind the end of the source or inside a character. -/
  | startOutside (start : Nat)
  /-- The end of an edit is no place in the source, or lies before its start. -/
  | spanOutside (span : Span)
deriving DecidableEq, Repr

def EditError.message : EditError → String
  | .overlap start applied =>
      s!"Overlapping source edits at byte {start} (already rewritten up to {applied})"
  | .startOutside start => s!"Source edit at byte {start} is outside the file"
  | .spanOutside span => "Source edit " ++ toString span.start ++ ".." ++ toString span.stop
      ++ " is outside the file"

/-- The order of application: by start, insertions first. -/
def Edit.le (a b : Edit) : Bool :=
  a.span.start < b.span.start
    || (a.span.start == b.span.start && (a.isInsertion || !b.isInsertion))

/-- Applies edits in order of application; `rest` is the source from byte `applied` on. -/
def splice (applied : Nat) (rest : List Char) : List Edit → Except EditError (List Char)
  | [] => .ok rest
  | e :: edits =>
      if e.span.start < applied then .error (.overlap e.span.start applied)
      else
        match cut (e.span.start - applied) rest with
        | none => .error (.startOutside e.span.start)
        | some (kept, tail) =>
            if e.span.stop < e.span.start then .error (.spanOutside e.span)
            else
              match cut (e.span.stop - e.span.start) tail with
              | none => .error (.spanOutside e.span)
              | some (_, behind) =>
                  match splice e.span.stop behind edits with
                  | .error err => .error err
                  | .ok out => .ok (kept ++ e.text.toList ++ out)

/-- The source with every recorded edit applied. -/
def applyEdits (source : String) (edits : List Edit) : Except EditError String :=
  (splice 0 source.toList (edits.mergeSort Edit.le)).map String.ofList

end Phrasebook.Source

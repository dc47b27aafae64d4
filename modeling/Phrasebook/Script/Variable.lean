import Phrasebook.Script.Expression

/-!
Declarations of variables.
-/

namespace Phrasebook.Script

open Parse

inductive VariableKind where
  | var
  | lexical
  | constant
deriving DecidableEq

/-- One declared target with what the head of a loop has to know about it. -/
structure Declarator where
  node : Node
  isName : Bool
  annotated : Bool
  hasValue : Bool

/-- The kind of declaration whose word stands here. `let` counts if something that can be bound
follows it. -/
def variableKind? : Parse (Option VariableKind) := do
  match ← lexeme with
  | .word "var" false => return some .var
  | .word "const" false => return some .constant
  | .word "let" false =>
      let next ← peek
      let binds := match next.lexeme with
        | .word name _ => isNameToken next || strictWords.contains name || name = "await"
        | .mark m => m = "[" || m = "\x7b"
        | _ => false
      return if binds then some .lexical else none
  | _ => return none

namespace Grammar

variable (g : Grammar)

/-- A target with its type and value. In the head of a loop a value may be missing where the
values come from elsewhere. -/
def declarator (kind : VariableKind) (forHead : Bool) : Parse Declarator := do
  let start ← here
  let t ← g.target (kind != .var)
  let isName := t.kind = .name
  if (← typed) && isName then let _ ← eatMark "!"
  let annotated ← g.typeAnnotation?
  let iterates := forHead && ((← isWord "in") || (← isWord "of"))
  let value? ← if iterates then pure none
    else if ← eatMark "=" then do
      let e ← g.assign
      verify e
      pure (some e.node)
    else do
      if !(← scope).ambient then
        if kind = .constant then fault else failIf (!isName)
      pure none
  let n ← node start .declarator (t.node :: value?.toList)
  return ⟨n, isName, annotated, value?.isSome⟩

/-- Declarations with commas between them. -/
def declarators (kind : VariableKind) (forHead : Bool) : Parse (List Declarator) := do
  let step (acc : List Declarator) : Parse (Sum (List Declarator) (List Declarator)) := do
    if (← isMark ";") || (← atEnd) then
      fault
      return .inr acc.reverse
    let keepIn := kind != .var || !forHead
    let d ← within (fun s => { s with noIn := s.noIn && !keepIn }) (g.declarator kind forHead)
    if ← eatMark "," then return .inl (d :: acc)
    return .inr (d :: acc).reverse
  iterate step (← get).limit []

/-- Declared variables from their leading word on, without the end of a statement. -/
def variableList (kind : VariableKind) (forHead : Bool) : Parse (Node × List Declarator) := do
  let start ← here
  advance
  let ds ← g.declarators kind forHead
  return (← node start .variableList (ds.map Declarator.node), ds)

/-- A statement that declares variables. -/
def variableStatement (start : Nat) (kind : VariableKind) : Parse Node := do
  let (n, _) ← g.variableList kind false
  expectStatementEnd
  node start .variableList n.children

/-- A resource that is closed at the end of the block, if it is declared here. -/
def usingDeclaration? (start : Nat) : Parse (Option Node) := do
  let next ← peek
  if !(← isWord "using") || next.newline || !isNameToken next then return none
  advance
  let ds ← g.declarators .var false
  faultIf (!(← typed) || !(← scope).usingAllowed)
  faultIf (ds.any fun d => !d.isName || !d.hasValue)
  return some (← node start .other (ds.map Declarator.node))

end Grammar

end Phrasebook.Script

import Phrasebook.Script.Variable

/-!
Declarations that only typed code has: interfaces, aliases, enumerations, namespaces and
declarations without code.
-/

namespace Phrasebook.Script

open Parse

namespace Grammar

variable (g : Grammar)

/-- An interface from its name on. -/
def interfaceDeclaration (start : Nat) : Parse Node := do
  let name ← anyWord
  faultIf (builtinTypeNames.contains name)
  g.typeParameters? true false
  if ← eatWord "extends" then g.heritageTypes
  g.typeMembers
  node start (.typeDeclaration name) []

/-- A type alias from its name on. -/
def aliasDeclaration (start : Nat) : Parse Node := do
  let name ← anyWord
  g.typeParameters? true false
  expectMark "="
  let _ ← g.type
  expectStatementEnd
  node start (.typeDeclaration name) []

/-- A member of an enumeration, named by a word or a string. -/
def enumMember : Parse Node := do
  let start ← here
  match ← lexeme with
  | .word _ _ | .string _ _ => advance
  | .number =>
      advance
      fault
  | .mark "[" =>
      advance
      let _ ← g.sequence
      expectMark "]"
      fault
  | _ => failure
  if ← eatMark "=" then
    let e ← g.assign
    node start .other [e.node]
  else node start .other []

/-- An enumeration from its name on. -/
def enumDeclaration (start : Nat) : Parse Node := do
  let name ← anyWord
  expectMark "\x7b"
  let (members, _) ← commaList "\x7d" g.enumMember
  node start (.typeDeclaration name) members

/-- The items of a namespace, in braces. -/
def namespaceBlock : Parse (List Node) := do
  expectMark "\x7b"
  within (fun s => { s with topLevel := true }) (collect (eatMark "\x7d") g.item)

/-- A namespace from its name on. -/
def namespaceDeclaration (start : Nat) : Parse Node := do
  let name ← anyWord
  let _ ← collect (return !(← isMark ".")) (do advance; anyWord)
  let items ← g.namespaceBlock
  node start (.typeDeclaration name) items

/-- The declaration of a module elsewhere, or of what is global, from its name on. -/
def externalModule (start : Nat) : Parse Node := do
  advance
  if ← isMark "\x7b" then
    let items ← g.namespaceBlock
    node start .other items
  else
    expectStatementEnd
    node start .other []

def atString : Parse Bool := do
  match ← lexeme with
  | .string _ _ => return true
  | _ => return false

/-- A declaration that starts with the given word. If the word was consumed already, something
must show that it was meant so; otherwise it is consumed first. -/
def typeDeclaration? (start : Nat) (decorators : List Node) (word : String) (consumed : Bool) :
    Parse (Option Node) := do
  let enter : Parse Unit := if consumed then pure () else advance
  let named := !consumed || (← atName)
  match word with
  | "abstract" =>
      if !consumed || ((← isWord "class") && !(← onNewLine)) then
        enter
        return some (← g.classDeclaration start decorators true)
      return none
  | "enum" =>
      if named then
        enter
        return some (← g.enumDeclaration start)
      return none
  | "interface" =>
      if named then
        enter
        return some (← g.interfaceDeclaration start)
      return none
  | "module" =>
      if ← onNewLine then return none
      enter
      if ← atString then return some (← g.externalModule start)
      if named then return some (← g.namespaceDeclaration start)
      return none
  | "namespace" =>
      if named then
        enter
        return some (← g.namespaceDeclaration start)
      return none
  | "type" =>
      if !consumed || ((← atName) && !(← onNewLine)) then
        enter
        return some (← g.aliasDeclaration start)
      return none
  | _ => return none

/-- What follows the word `declare`, if it is a declaration without code. -/
def ambientDeclaration? (start : Nat) (decorators : List Node) : Parse (Option Node) := do
  faultIf (← scope).ambient
  within (fun s => { s with ambient := true }) do
    if ← isWord "function" then
      return some (← g.functionDeclaration start decorators false true)
    if ← isWord "class" then return some (← g.classDeclaration start decorators true)
    let next ← peek
    if (← isWord "const") && next.lexeme = .word "enum" false then
      advance
      advance
      return some (← g.enumDeclaration start)
    if ← isWord "let" then return some (← g.variableStatement start .lexical)
    match ← variableKind? with
    | some kind => return some (← g.variableStatement start kind)
    | none => pure ()
    if ← isWord "global" then return some (← g.externalModule start)
    match ← lexeme with
    | .word word _ => g.typeDeclaration? start decorators word false
    | _ => return none

/-- A declaration of typed code that starts with a word that is no keyword, which was consumed. -/
def namedDeclaration? (start : Nat) (decorators : List Node) (word : String) :
    Parse (Option Node) := do
  match word with
  | "declare" => g.ambientDeclaration? start decorators
  | "global" =>
      if !(← isMark "\x7b") then return none
      let items ← g.namespaceBlock
      return some (← node start .other items)
  | _ => g.typeDeclaration? start decorators word true

end Grammar

end Phrasebook.Script

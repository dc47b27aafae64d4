import Phrasebook.Script.Shape

/-!
Property names, and the names and patterns that declarations bind.
-/

namespace Phrasebook.Script

open Parse

/-- The name of a property. -/
structure PropertyKey where
  node : Node
  /-- The name, if it is written as a word. -/
  word? : Option String
  /-- Whether it is the word or the string `constructor`. -/
  isConstructor : Bool := false
  isPrivate : Bool := false
  loose : Bool := false

namespace Grammar

variable (g : Grammar)

/-- A property name: a word, a string, a number, or an expression in brackets. -/
def propertyKey : Parse PropertyKey := do
  let start ← here
  match ← lexeme with
  | .word name _ =>
      advance
      return { node := ← node start .other [], word? := some name,
               isConstructor := name = "constructor" }
  | .string value _ =>
      advance
      return { node := ← node start .other [], word? := none,
               isConstructor := value = some "constructor" }
  | .number | .bigint =>
      advance
      return { node := ← node start .other [], word? := none }
  | .mark "[" =>
      advance
      let e ← g.assignWithIn
      expectMark "]"
      return { node := ← node start .other [e.node], word? := none, loose := e.loose }
  | _ => failure

/-- An expression, and whether dots stand before it. -/
def spreadable : Parse (Expr × Bool) := do
  let spread ← eatMark "..."
  return (← g.assignWithIn, spread)

/-- The arguments of a call, in parentheses. -/
def callArguments (trailingCommaAllowed : Bool) : Parse (List (Expr × Bool)) := do
  expectMark "("
  let (args, trailingComma) ←
    within (fun s => { s with colonAhead := false }) (commaList ")" g.spreadable)
  failIf (trailingComma && !trailingCommaAllowed)
  return args

/-- The initial value behind an equals sign, if there is one. -/
def initializer? : Parse (Option Expr) := do
  if ← eatMark "=" then
    let e ← g.assignWithIn
    faultIf (← scope).ambient
    return some e
  else return none

/-- A target with an optional default. -/
def bindingElement : Parse Node := do
  let start ← here
  let t ← g.target false
  match ← g.initializer? with
  | none => return t.node
  | some e => node start .other [t.node, e.node]

/-- What one entry of an object pattern is. -/
inductive PatternEntry where
  | property (node : Node)
  | rest (target : Target)

def PatternEntry.node : PatternEntry → Node
  | .property node => node
  | .rest target => target.node

def PatternEntry.isRest : PatternEntry → Bool
  | .property _ => false
  | .rest _ => true

def objectPatternEntry : Parse PatternEntry := do
  let start ← here
  if ← eatMark "..." then return .rest (← g.target false)
  let key ← g.propertyKey
  if ← eatMark ":" then
    let value ← g.bindingElement
    return .property (← Parse.node start .other [key.node, value])
  match key.word? with
  | none => failure
  | some name =>
      let bound : Node := .mk key.node.span (.binding name) []
      if ← eatMark "=" then
        let e ← g.assignWithIn
        return .property (← Parse.node start .other [bound, e.node])
      faultIf (reservedWords.contains name || strictWords.contains name || name = "await")
      return .property bound

/-- Only the last entry may be a rest, without a comma behind it. -/
def checkRest (rests : List Bool) (trailingComma : Bool) : Parse Unit :=
  match rests.reverse with
  | [] => pure ()
  | last :: before => faultIf (before.any id || (last && trailingComma))

def objectPattern : Parse Target := do
  let start ← here
  expectMark "\x7b"
  let (entries, trailingComma) ← commaList "\x7d" g.objectPatternEntry
  checkRest (entries.map PatternEntry.isRest) trailingComma
  match entries.getLast? with
  | some (.rest t) => failIf (t.kind != .name)
  | _ => pure ()
  return ⟨← node start .other (entries.map PatternEntry.node), .object⟩

/-- One entry of an array pattern; a comma that stands for a missing entry is consumed. -/
def arrayPatternEntry : Parse (Option (Node × Bool) × Bool) := do
  if ← eatMark "," then return (none, false)
  let entry ← if ← eatMark "..." then
      let t ← g.target false
      pure (t.node, true)
    else
      let n ← g.bindingElement
      pure (n, false)
  if ← isMark "]" then return (some entry, false)
  expectMark ","
  return (some entry, ← isMark "]")

def arrayPattern : Parse Target := do
  let start ← here
  expectMark "["
  let entries ← collect (eatMark "]") g.arrayPatternEntry
  let written := entries.filterMap Prod.fst
  checkRest (written.map Prod.snd) ((entries.getLast?.map Prod.snd).getD false)
  return ⟨← node start .other (written.map Prod.fst), .array⟩

/-- A name, an array pattern or an object pattern. -/
def bindingTarget (noLet : Bool) : Parse Target := do
  let start ← here
  match ← lexeme with
  | .word _ _ =>
      let name ← nameBinding noLet
      return ⟨← node start (.binding name) [], .name⟩
  | .mark "[" => g.arrayPattern
  | .mark "\x7b" => g.objectPattern
  | _ => failure

end Grammar

end Phrasebook.Script

import Phrasebook.Script.TypeAnnotation

/-!
Blocks, function bodies and functions.
-/

namespace Phrasebook.Script

open Parse

namespace Grammar

variable (g : Grammar)

/-- The rest of a block whose opening brace, at `start`, was consumed. -/
def blockFrom (start : Nat) : Parse Node := do
  let stmts ← within (fun s => { s with topLevel := false })
    (collect (eatMark "\x7d") (g.statement true))
  node start .block stmts

def block : Parse Node := do
  let start ← here
  expectMark "\x7b"
  g.blockFrom start

/-- The directives a block opens with. -/
def directives (b : Node) : List Node := b.children.takeWhile fun s => s.form = .directive

/-- Whether a directive asks for strict mode, which it does by ten characters in quotes. -/
def asksForStrict (d : Node) : Bool :=
  match d.children with
  | [.mk span (.string (some "use strict")) _] => span.stop - span.start = 12
  | _ => false

/-- The surroundings of code inside a function. -/
def functionScope (async generator arrow : Bool) (s : Scope) : Scope :=
  { s with
    inFunction := true, inAsync := async, inGenerator := generator, inParameters := false,
    ownFunction := s.ownFunction || !arrow, breakAllowed := false, continueAllowed := false,
    inConditional := false, inStaticBlock := false, forHead := false, forAwaitHead := false,
    usingAllowed := true, topLevel := false }

/-- A body in braces. A body cannot ask for strict mode when its parameters are not all names. -/
def functionBlock (async generator arrow simple : Bool) : Parse Node := do
  if (← typed) && (← scope).ambient then fault
  let b ← within
    (fun s => { functionScope async generator arrow s with noIn := false, colonAhead := false })
    (withoutLabels g.block)
  faultIf (!simple && (directives b).any asksForStrict)
  return b

/-- A body in braces, which typed code may leave out. -/
def functionBody? (async generator simple : Bool) : Parse (Option Node) := do
  if (← typed) && !(← isMark "\x7b") then
    if ← eatStatementEnd then return none
  return some (← g.functionBlock async generator false simple)

/-- The body of an arrow function: a block or an expression. -/
def arrowBody (async simple : Bool) : Parse Node := do
  if ← isMark "\x7b" then g.functionBlock async false true simple
  else
    let e ← within (functionScope async false true) (withoutLabels g.assign)
    return e.node

/-- The parts of a function from its parameters on. -/
structure FunctionRest where
  parameters : List Parameter
  body? : Option Node

/-- The parts in visiting order, with decorators between parameters and body. -/
def FunctionRest.children (f : FunctionRest) (decorators : List Node) : List Node :=
  f.parameters.map Parameter.node ++ decorators ++ f.body?.toList

/-- Parameters, result type and body. -/
def functionRest (async generator : Bool) (check : List Parameter → Parse Unit) :
    Parse FunctionRest := do
  g.typeParameters? false true
  expectMark "("
  let ps ← within
    (fun s => { s with inParameters := true, inFunction := false, inAsync := async,
                       inGenerator := generator })
    g.parameters
  check ps
  if (← typed) && (← isMark ":") then g.returnType ":"
  let body? ← g.functionBody? async generator (ps.all Parameter.simple)
  if body?.isNone then faultIf (ps.any Parameter.hasDefault)
  return ⟨ps, body?⟩

/-- What a function inside no class may do. -/
def outerScope (s : Scope) : Scope :=
  { s with superAllowed := false, inClassField := false, colonAhead := false }

/-- A function from the word `function` on; `start` is the position of a word before it. -/
def functionDeclaration (start : Nat) (decorators : List Node) (async named : Bool)  :
    Parse Node := do
  expectWord "function"
  let generator ← eatMark "*"
  let name? ← if named || (← atName) then pure (some (← nameBinding false)) else pure none
  let rest ← within outerScope (g.functionRest async generator fun _ => pure ())
  node start (.function name?) (rest.children decorators)

/-- A function used as an expression, which always has a body. -/
def functionExpression (start : Nat) (async : Bool) : Parse Expr := do
  expectWord "function"
  let generator ← eatMark "*"
  if ← atName then
    let _ ← within (fun s => { s with inAsync := async, inGenerator := generator })
      (nameBinding false)
  let rest ← within outerScope (g.functionRest async generator fun _ => pure ())
  failIf rest.body?.isNone
  expr start .functionLiteral (rest.children []) .function

def noCheck (_ : List Parameter) : Parse Unit := pure ()

/-- A getter takes no parameter. -/
def checkGetter (ps : List Parameter) : Parse Unit :=
  faultIf (ps.any fun p => !p.isThis)

/-- A setter takes one parameter, which is no rest. -/
def checkSetter (ps : List Parameter) : Parse Unit :=
  faultIf ((ps.filter fun p => !p.isThis).length != 1
    || (ps.head?.map Parameter.isRest).getD false)

/-- Whether the words `async function` stand here on one line. -/
def atAsyncFunction : Parse Bool := do
  let next ← peek
  return (← isWord "async") && next.lexeme = .word "function" false && !next.newline

end Grammar

end Phrasebook.Script

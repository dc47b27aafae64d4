import Phrasebook.Script.TypeDeclaration

/-!
Statements.
-/

namespace Phrasebook.Script

open Parse

/-- The surroundings of the body of a loop. -/
def loopScope (s : Scope) : Scope := { s with breakAllowed := true, continueAllowed := true }

namespace Grammar

variable (g : Grammar)

/-- An expression in parentheses that belong to the statement. -/
def condition : Parse Node := do
  expectMark "("
  let e ← g.sequenceWithIn
  expectMark ")"
  return e.node

/-- A jump out of a statement or to its next round. -/
def jump (start : Nat) (isBreak : Bool) : Parse Node := do
  advance
  let label? ← if ← eatStatementEnd then pure none
    else do
      let name ← nameUse
      expectStatementEnd
      pure (some name)
  let labels := (← get).labels
  let unknown := (label?.map fun l => !labels.contains l).getD false
  let s ← scope
  faultIf (unknown || !(if isBreak then s.breakAllowed else s.continueAllowed))
  node start .other []

def ifStatement : Parse Node := do
  let start ← here
  advance
  let test ← g.condition
  let yes ← g.statement false
  let no? ← if ← eatWord "else" then do pure (some (← g.statement false)) else pure none
  node start .other (test :: yes :: no?.toList)

def whileStatement : Parse Node := do
  let start ← here
  advance
  let test ← g.condition
  let body ← within loopScope (g.statement false)
  node start .other [test, body]

/-- A loop that tests after its body; the test is visited first. -/
def doStatement : Parse Node := do
  let start ← here
  advance
  let body ← within loopScope (g.statement false)
  expectWord "while"
  let test ← g.condition
  let _ ← eatStatementEnd
  node start .other [test, body]

/-- The rest of a loop head behind `in` or `of`, which is the current token. -/
def iterationHead (await : Bool) : Parse Node := do
  let isOf ← isWord "of"
  failIf (await && !isOf)
  advance
  if isOf then return (← g.assignWithIn).node
  return (← g.sequenceWithIn).node

/-- The test and the step of a loop head. -/
def countingHead (await : Bool) : Parse (List Node) := do
  failIf await
  let test? ← if ← eatMark ";" then pure none
    else do
      let e ← g.sequenceWithIn
      let _ ← eatMark ";"
      pure (some e.node)
  let step? ← if ← isMark ")" then pure none else do pure (some (← g.sequenceWithIn).node)
  return test?.toList ++ step?.toList

def atIteration : Parse Bool := do
  if ← isWord "of" then return true
  isWord "in"

/-- A loop head that declares variables. -/
def declaringHead (await : Bool) (kind : VariableKind) : Parse (List Node) := do
  let (n, ds) ← g.variableList kind true
  if ← atIteration then
    match ds with
    | [d] => faultIf (d.hasValue || d.annotated)
    | _ => fault
    return [n, ← g.iterationHead await]
  expectMark ";"
  return n :: (← g.countingHead await)

/-- Whether an expression in a loop head turns out to be the word that declares a resource. -/
def isUsing (e : Expr) : Bool :=
  match e.node with
  | .mk _ (.identifier "using") _ => true
  | .mk _ .other [.mk _ (.identifier "using") _] => e.shape = .prefixed
  | _ => false

/-- A loop head that starts with an expression. -/
def expressionHead (await : Bool) : Parse (List Node) := do
  let e ← within (fun s => { s with noIn := true }) g.sequence
  let next ← peek
  if (← typed) && isUsing e && !(← isWord "of")
      && (next.lexeme = .word "of" false || next.lexeme = .word "in" false) then
    let _ ← nameBinding false
    faultIf (← isWord "in")
    return [← g.iterationHead await]
  if ← atIteration then
    checkAssignable e.shape
    if (← typed) && (← isWord "in") then
      match e.shape with
      | .object _ _ | .array _ _ => fault
      | _ => pure ()
    return [e.node, ← g.iterationHead await]
  expectMark ";"
  verify e
  return e.node :: (← g.countingHead await)

def forStatement : Parse Node := do
  let start ← here
  advance
  let await ← eatWord "await"
  expectMark "("
  let head ← within (fun s => { s with forHead := true, forAwaitHead := await }) do
    match ← variableKind? with
    | some kind => within (fun s => { s with noIn := true }) (g.declaringHead await kind)
    | none => if ← eatMark ";" then g.countingHead await else g.expressionHead await
  expectMark ")"
  let body ← within loopScope (g.statement false)
  node start .other (head ++ [body])

def returnStatement : Parse Node := do
  let start ← here
  advance
  let value? ← if ← isStatementEnd then pure none else do pure (some (← g.sequenceWithIn).node)
  expectStatementEnd
  faultIf (!(← scope).inFunction)
  node start .other value?.toList

def throwStatement : Parse Node := do
  let start ← here
  advance
  failIf (← onNewLine)
  let e ← g.sequenceWithIn
  expectStatementEnd
  node start .other [e.node]

/-- One case of a switch, and whether it is the default. -/
def switchCase : Parse (List Node × Bool) := do
  let isDefault ← isWord "default"
  let test? ← if ← eatWord "default" then pure none
    else do
      expectWord "case"
      pure (some (← g.sequenceWithIn).node)
  expectMark ":"
  let stop : Parse Bool := return (← isWord "case") || (← isWord "default") || (← isMark "\x7d")
  let body ← collect stop (g.statement true)
  return (test?.toList ++ body, isDefault)

def switchStatement : Parse Node := do
  let start ← here
  advance
  let value ← g.condition
  expectMark "\x7b"
  let cases ← within (fun s => { s with breakAllowed := true })
    (collect (eatMark "\x7d") g.switchCase)
  failIf (1 < (cases.filter Prod.snd).length)
  node start .other (value :: cases.flatMap Prod.fst)

/-- What handles an exception, behind the word `catch`. -/
def catchClause : Parse (List Node) := do
  let param? ← if ← eatMark "(" then do
      let t ← g.target false
      let _ ← g.typeAnnotation?
      expectMark ")"
      pure (some t.node)
    else pure none
  return param?.toList ++ [← g.block]

def tryStatement : Parse Node := do
  let start ← here
  advance
  let body ← g.block
  let caught ← if ← eatWord "catch" then g.catchClause else pure []
  let finished ← if ← eatWord "finally" then do pure [← g.block] else pure []
  faultIf (caught.isEmpty && finished.isEmpty)
  node start .other (body :: caught ++ finished)

/-- A statement behind its label. -/
def labelled (start : Nat) (label : String) : Parse Node := do
  faultIf ((← get).labels.contains label)
  modify fun c => { c with labels := label :: c.labels }
  let body ← within (fun s => { s with breakAllowed := true, usingAllowed := false }) do
    if ← isWord "function" then
      fault
      g.functionDeclaration (← here) [] false true
    else g.statement false
  modify fun c => { c with labels := c.labels.erase label }
  node start .other [body]

/-- A statement that starts with an expression: a label, a declaration of typed code behind a word
that is no keyword, or the expression alone. -/
def expressionStatement (start : Nat) (decorators : List Node) : Parse Node := do
  let exprStart ← here
  let e ← g.sequenceWithIn
  match e.node.form with
  | .identifier name =>
      faultIf (name = "interface")
      if ← eatMark ":" then return ← g.labelled exprStart name
      if ← typed then
        if let some n ← g.namedDeclaration? exprStart decorators name then return n
  | _ => verify e
  expectStatementEnd
  match e.node.form with
  | .string _ => node start .directive [e.node]
  | _ => node start .other [e.node]

/-- A declaration of typed code that starts with a keyword or with a word and a name on one line,
if there is one. -/
def keywordDeclaration? : Parse (Option Node) := do
  if !(← typed) then return none
  let start ← here
  let next ← peek
  if (← isWord "const") && next.lexeme = .word "enum" false then
    advance
    advance
    return some (← g.enumDeclaration start)
  if !isWordToken next || next.newline then return none
  if ← eatWord "interface" then return some (← g.interfaceDeclaration start)
  if ← eatWord "type" then return some (← g.aliasDeclaration start)
  if ← eatWord "enum" then return some (← g.enumDeclaration start)
  return none

/-- A declaration of variables, a resource, a function or a class, if one stands here. Functions
and classes are read also where no declaration is allowed, with a fault. -/
def declaration? (start : Nat) (allowed : Bool) (decorators : List Node) :
    Parse (Option Node) := do
  match ← variableKind? with
  | some kind =>
      if allowed || kind = .var then return some (← g.variableStatement (← here) kind)
  | none => pure ()
  if allowed then
    if let some n ← g.usingDeclaration? start then return some n
    let next ← peek
    if (← isWord "await") && next.lexeme = .word "using" false then
      let found ← attempt do
        advance
        g.usingDeclaration? start
      if let some n := found then
        faultIf (!(← typed))
        return some n
  if ← isWord "function" then
    faultIf (!allowed)
    return some (← g.functionDeclaration (← here) decorators false true)
  if ← isWord "class" then
    faultIf (!allowed)
    return some (← g.classDeclaration start decorators true)
  if ← atAsyncFunction then
    let asyncAt ← here
    advance
    return some (← g.functionDeclaration asyncAt decorators true true)
  return none

/-- A statement other than an import or an export, behind its decorators; `start` is the position
of the first of them. -/
def plainStatement (start : Nat) (allowed : Bool) (decorators : List Node) : Parse Node :=
  within (fun s => { s with colonAhead := false, usingAllowed := true }) do
    if let some n ← g.keywordDeclaration? then return n
    match ← lexeme with
    | .mark "\x7b" => g.block
    | .mark ";" =>
        advance
        node start .other []
    | .word "break" false => jump start true
    | .word "continue" false => jump start false
    | .word "debugger" false =>
        advance
        expectStatementEnd
        node start .other []
    | .word "do" false => g.doStatement
    | .word "for" false => g.forStatement
    | .word "if" false => g.ifStatement
    | .word "return" false => g.returnStatement
    | .word "switch" false => g.switchStatement
    | .word "throw" false => g.throwStatement
    | .word "try" false => g.tryStatement
    | .word "while" false => g.whileStatement
    | _ =>
        match ← g.declaration? start allowed decorators with
        | some n => return n
        | none => g.expressionStatement start decorators

/-- An expression that starts with `import`, as a statement. -/
def importExpression : Parse Node := do
  let start ← here
  let next ← peek
  failIf (next.lexeme != .mark "(" && next.lexeme != .mark ".")
  let e ← g.sequence
  let _ ← eatStatementEnd
  node start .other [e.node]

/-- A statement in a body, where imports and exports have no place. -/
def bodyStatement (allowed : Bool) : Parse Node := do
  let start ← here
  let ds ← g.decorators
  failIf (← isWord "export")
  if ← isWord "import" then g.importExpression
  else g.plainStatement start allowed ds

end Grammar

end Phrasebook.Script

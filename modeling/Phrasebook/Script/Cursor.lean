import Phrasebook.Script.Dialect
import Phrasebook.Script.Token
import Phrasebook.Script.Tree

/-!
The state of a parse and the steps on it.

A parser reads the current token and moves on. It can fail, or go on after recording a fault; a
source is refused in both cases. The difference shows only where a reading is tried out: a trial
that fails is taken back, and faults inside a trial that succeeds are not recorded.
-/

namespace Phrasebook.Script

open Source (Span)

/-- What the surroundings of a place allow or forbid. -/
structure Scope where
  inFunction : Bool := false
  inAsync : Bool := false
  inGenerator : Bool := false
  inParameters : Bool := false
  inClass : Bool := false
  inClassField : Bool := false
  inStaticBlock : Bool := false
  /-- Inside a function other than an arrow function. -/
  ownFunction : Bool := false
  hasSuperclass : Bool := false
  superAllowed : Bool := false
  breakAllowed : Bool := false
  continueAllowed : Bool := false
  topLevel : Bool := true
  /-- In the head of a loop, where the operator `in` does not belong to the expression. -/
  noIn : Bool := false
  forHead : Bool := false
  forAwaitHead : Bool := false
  inConditional : Bool := false
  /-- In the first branch of a conditional, whose colon is still to come. -/
  colonAhead : Bool := false
  /-- In a declaration without code. -/
  ambient : Bool := false
  usingAllowed : Bool := true
  /-- Where a conditional type would need parentheses. -/
  noConditionalTypes : Bool := false
  /-- In a trial, where faults are not recorded. -/
  lenient : Bool := false

structure Cursor where
  dialect : Dialect
  /-- A bound on the number of rounds of any loop over tokens. -/
  limit : Nat
  token : Token
  here : List Char
  rest : List Char
  /-- The end of the token before the current one. -/
  lastStop : Nat
  scope : Scope
  labels : List String
  /-- Where the current assignment expression starts, if an arrow function can start there. -/
  arrowStart : Option Nat
  /-- Whether no fault was recorded. -/
  sound : Bool

abbrev Parse := StateT Cursor Option

namespace Parse

variable {α : Type}

def scope : Parse Scope := return (← get).scope

def typed : Parse Bool := return (← get).dialect.typed

def markup : Parse Bool := return (← get).dialect.markup

def token : Parse Token := return (← get).token

def lexeme : Parse Lexeme := return (← get).token.lexeme

/-- The position of the current token. -/
def here : Parse Nat := return (← get).token.span.start

/-- Whether a line ends before the current token. -/
def onNewLine : Parse Bool := return (← get).token.newline

/-- Goes on with a given scan; what it consumed ends at `stop`. -/
def moveTo (stop : Nat) (scan : Scan) : Parse Unit :=
  modify fun c =>
    { c with token := scan.token, here := scan.here, rest := scan.rest, lastStop := stop }

/-- Moves to the next token. -/
def advance : Parse Unit := do
  let c ← get
  moveTo c.token.span.stop (.next false c.token.span.stop c.rest)

/-- Moves to the next token of a tag. -/
def advanceInTag : Parse Unit := do
  let c ← get
  moveTo c.token.span.stop (.nextInTag c.token.span.stop c.rest)

/-- The token behind the current one. -/
def peek : Parse Token := do
  let c ← get
  return (Scan.next false c.token.span.stop c.rest).token

/-- Records a fault. -/
def fault : Parse Unit := modify fun c => { c with sound := c.sound && c.scope.lenient }

def faultIf (b : Bool) : Parse Unit := if b then fault else pure ()

def failIf (b : Bool) : Parse Unit := if b then failure else pure ()

/-- Runs a parser in other surroundings. -/
def within (change : Scope → Scope) (p : Parse α) : Parse α := do
  let scope ← scope
  modify fun c => { c with scope := change c.scope }
  let a ← p
  modify fun c => { c with scope }
  return a

/-- Runs a parser with no label in reach. -/
def withoutLabels (p : Parse α) : Parse α := do
  let labels := (← get).labels
  modify fun c => { c with labels := [] }
  let a ← p
  modify fun c => { c with labels }
  return a

/-- Tries a reading out: if it fails or gives nothing, nothing has happened. -/
def attempt (p : Parse (Option α)) : Parse (Option α) := fun c =>
  match p { c with scope := { c.scope with lenient := true } } with
  | some (some a, d) => some (some a, { d with scope := c.scope })
  | _ => some (none, c)

/-- Looks ahead without moving. -/
def lookAhead (p : Parse Bool) : Parse Bool := fun c =>
  match p { c with scope := { c.scope with lenient := true } } with
  | some (b, _) => some (b, c)
  | none => some (false, c)

def isMark (text : String) : Parse Bool := return (← get).token.lexeme = .mark text

def isWord (name : String) : Parse Bool := return (← get).token.lexeme = .word name false

def atEnd : Parse Bool := return (← get).token.lexeme = .finish

def eatMark (text : String) : Parse Bool := do
  if ← isMark text then advance; return true else return false

def eatWord (name : String) : Parse Bool := do
  if ← isWord name then advance; return true else return false

def expectMark (text : String) : Parse Unit := do
  if ← isMark text then advance else failure

def expectWord (name : String) : Parse Unit := do
  if ← isWord name then advance else failure

/-- Whether a statement may end here. -/
def isStatementEnd : Parse Bool := do
  if ← isMark ";" then return true
  if ← isMark "\x7d" then return true
  if ← atEnd then return true
  onNewLine

/-- Ends a statement if it may end here, and consumes a semicolon. -/
def eatStatementEnd : Parse Bool := do
  if ← eatMark ";" then return true
  isStatementEnd

def expectStatementEnd : Parse Unit := do
  if ← eatStatementEnd then pure () else failure

/-- A node from `start` to the end of what was consumed. -/
def node (start : Nat) (form : Form) (children : List Node) : Parse Node := do
  return .mk ⟨start, (← get).lastStop⟩ form children

/-- Repeats a step that carries a value until it gives a result. -/
def iterate {β : Type} (step : α → Parse (Sum α β)) : Nat → α → Parse β
  | 0, _ => failure
  | n + 1, a => do
      match ← step a with
      | .inl a => iterate step n a
      | .inr b => return b

/-- Collects items until a stop is reached. -/
def collect (stop : Parse Bool) (item : Parse α) : Parse (List α) := do
  let step (acc : List α) : Parse (Sum (List α) (List α)) := do
    if ← stop then return .inr acc.reverse
    return .inl ((← item) :: acc)
  iterate step ((← get).limit) []

/-- Items in a pair of marks, of which the first was consumed: a comma between neighbours, and one
more at the end if it likes. The flag says whether a comma stands at the end. -/
def commaList (close : String) (item : Parse α) : Parse (List α × Bool) := do
  let step (acc : List α × Bool) : Parse (Sum (List α × Bool) (List α × Bool)) := do
    if ← eatMark close then return .inr (acc.1.reverse, acc.2)
    let a ← item
    if ← isMark close then return .inl (a :: acc.1, false)
    expectMark ","
    return .inl (a :: acc.1, true)
  iterate step ((← get).limit) ([], false)

/-- Whether a token is a word that can be used as a name. -/
def isNameToken (t : Token) : Bool :=
  match t.lexeme with
  | .word name _ =>
      !reservedWords.contains name && !strictWords.contains name && name != "await"
  | _ => false

def isWordToken (t : Token) : Bool :=
  match t.lexeme with
  | .word _ _ => true
  | _ => false

def atName : Parse Bool := return isNameToken (← token)

def atWord : Parse Bool := return isWordToken (← token)

/-- Any word, reserved or not. -/
def anyWord : Parse String := do
  match ← lexeme with
  | .word name _ => advance; return name
  | _ => failure

/-- Checks that a word may be used as a name here. -/
def useName (name : String) : Parse Unit := do
  let scope ← scope
  if name = "enum" then fault
  else if name = "this" then failIf (!(← typed))
  else if reservedWords.contains name then failure
  else if strictWords.contains name then fault
  else if name = "await" then
    if scope.ambient then pure ()
    else if scope.inStaticBlock then failure
    else fault
  else faultIf (name = "arguments" && scope.inClassField)

/-- Names that strict code does not let a program bind. -/
def isRestrictedName (name : String) : Bool := name = "eval" || name = "arguments"

/-- A name used as an expression. -/
def nameUse : Parse String := do
  let name ← anyWord
  useName name
  return name

/-- A name that is bound. -/
def nameBinding (noLet : Bool) : Parse String := do
  if noLet then failIf (← isWord "let")
  let name ← anyWord
  useName name
  faultIf (isRestrictedName name)
  return name

/-- A private name: a hash directly followed by a word. -/
def privateName : Parse String := do
  let hash ← token
  expectMark "#"
  failIf ((← here) != hash.span.stop)
  anyWord

end Parse

end Phrasebook.Script

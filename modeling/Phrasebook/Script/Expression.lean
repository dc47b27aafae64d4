import Phrasebook.Script.Class
import Phrasebook.Script.Element

/-!
Expressions.
-/

namespace Phrasebook.Script

open Parse

/-- What a chain of selections and calls starts with. -/
inductive Callee where
  | parent
  | importer
  | value (e : Expr)

/-- Operators that combine two operands, with their precedence. -/
def precedence? (l : Lexeme) : Option Nat :=
  match l with
  | .mark "??" => some 1
  | .mark "||" => some 2
  | .mark "&&" => some 3
  | .mark "|" => some 4
  | .mark "^" => some 5
  | .mark "&" => some 6
  | .mark "==" | .mark "!=" | .mark "===" | .mark "!==" => some 7
  | .mark "<" | .mark ">" | .mark "<=" | .mark ">=" => some 8
  | .word "in" _ | .word "instanceof" _ => some 8
  | .mark "<<" | .mark ">>" | .mark ">>>" => some 9
  | .mark "+" | .mark "-" => some 10
  | .mark "*" | .mark "/" | .mark "%" => some 11
  | .mark "**" => some 12
  | _ => none

/-- The precedence of relations, at which type assertions bind too. -/
def relationPrecedence : Nat := 8

def assignmentMarks : List String :=
  ["=", "+=", "-=", "*=", "/=", "%=", "**=", "<<=", ">>=", ">>>=", "&=", "|=", "^=", "&&=", "||=",
   "??="]

/-- The assignment operator at hand. -/
def assignmentMark? : Parse (Option String) := do
  match ← lexeme with
  | .mark m => return if assignmentMarks.contains m then some m else none
  | _ => return none

/-- Words that start an expression though they cannot be names. -/
def expressionWords : List String :=
  ["this", "null", "true", "false", "function", "class", "new", "super", "import", "typeof", "void",
   "delete", "await", "yield", "let", "static"]

/-- Whether a token can start an expression. -/
def startsExpression (t : Token) : Bool :=
  match t.lexeme with
  | .word name _ => isNameToken t || expressionWords.contains name
  | .string _ _ | .number | .bigint => true
  | .mark m => ["(", "[", "\x7b", "+", "-", "++", "--", "!", "~", "`", "@", "#"].contains m
  | _ => false

/-- An item in parentheses that may turn out to be a parameter. -/
structure ParenItem where
  expr : Expr
  spread : Bool
  /-- Whether it can only be a parameter. -/
  isPattern : Bool
  /-- Whether it is a plain name. -/
  simple : Bool

namespace Grammar

variable (g : Grammar)

/-- A template from its opening quote on. Only a tagged template may hold broken escapes. -/
def template (tagged : Bool) : Parse (List Expr) := do
  let step (acc : List Expr) : Parse (Sum (List Expr) (List Expr)) := do
    let c ← get
    match scanTemplate false c.rest with
    | none => failure
    | some found =>
        failIf (!tagged && !(LiteralRule.accepts ⟨none, true⟩ .plain found.value.1))
        let stop := c.token.span.stop + found.bytes
        moveTo stop (.next false stop found.rest)
        if found.value.2 then
          let e ← within (fun s => { s with colonAhead := false }) g.sequenceWithIn
          if ← isMark "\x7d" then return .inl (e :: acc) else failure
        else return .inr acc.reverse
  iterate step (← get).limit []

/-- A regular expression at a slash. -/
def regex : Parse Expr := do
  let start ← here
  let c ← get
  match scanRegex false false (c.here.drop 1) with
  | none => failure
  | some found =>
      faultIf (!validFlags found.value)
      let stop := start + 1 + found.bytes
      moveTo stop (.next false stop found.rest)
      expr start .other [] .literal

/-- Whether each entry can stand inside a pattern, if only the last is spread. -/
def spreadsLast (entries : List (Expr × Bool)) (trailingComma : Bool)
    (fits : Shape → Bool) : Bool :=
  match entries.reverse with
  | [] => true
  | (last, spread) :: before =>
      before.all (fun (e, s) => !s && fits e.shape)
        && fits last.shape && !(spread && (trailingComma || last.shape.isAssignment))

/-- One entry of an array literal and whether a comma behind it ends the literal. -/
def arrayEntry : Parse (Option (Expr × Bool) × Bool) := do
  if ← eatMark "," then return (none, false)
  let entry ← g.spreadable
  if ← isMark "]" then return (some entry, false)
  expectMark ","
  return (some entry, ← isMark "]")

def arrayLiteral : Parse Expr := do
  let start ← here
  expectMark "["
  let entries ← within (fun s => { s with colonAhead := false })
    (collect (eatMark "]") g.arrayEntry)
  let written := entries.filterMap Prod.fst
  let endsEmpty := (entries.getLast?.map fun e => e.1.isNone).getD false
  let trailingComma := ((entries.getLast?.map Prod.snd).getD false) || endsEmpty
  let shape : Shape := .array (spreadsLast written trailingComma Shape.isElement)
    (spreadsLast written trailingComma Shape.isParameter)
  return { node := ← node start .other (written.map fun (e, _) => e.node), shape,
           loose := written.any fun (e, _) => e.loose,
           looseAsTarget := written.any fun (e, _) => e.looseAsTarget }

/-- A property of an object literal. -/
structure ObjectEntry where
  node : Node
  assignable : Bool := false
  bindable : Bool := false
  spread : Bool := false
  loose : Bool := false
  looseAsTarget : Bool := false

/-- The function of a property from its parameters on. -/
def objectMethod (start : Nat) (key : PropertyKey) (async generator : Bool)
    (check : List Parameter → Parse Unit) : Parse ObjectEntry := do
  let rest ← within
    (fun s => { s with superAllowed := true, inClassField := false, colonAhead := false })
    (g.functionRest async generator check)
  let function ← node key.node.span.start .functionLiteral (rest.children [])
  return { node := ← node start .other [key.node, function] }

/-- A property given by its name alone, with a default if it is meant as a pattern. -/
def shorthand (start : Nat) (key : PropertyKey) (name : String) : Parse ObjectEntry := do
  faultIf (reservedWords.contains name || strictWords.contains name || name = "await")
  let bindable := !isRestrictedName name
  let used : Node := .mk key.node.span (.identifier name) []
  if ← eatMark "=" then
    let e ← g.assignWithIn
    return { node := ← node start .other [used, e.node], assignable := true, bindable,
             loose := true, looseAsTarget := e.loose }
  return { node := ← node start .other [used], assignable := true, bindable }

def objectEntry : Parse ObjectEntry := do
  let start ← here
  if ← eatMark "..." then
    let e ← g.assignWithIn
    let isName := match e.shape with
      | .name text => !isRestrictedName text
      | _ => false
    return { node := ← node start .other [e.node], spread := true,
             assignable := e.shape.isElement && !e.shape.isAssignment,
             bindable := isName, loose := e.loose, looseAsTarget := e.looseAsTarget }
  if ← eatMark "*" then
    let key ← g.propertyKey
    return ← g.objectMethod start key false true noCheck
  let stray ← strayModifier
  let key ← g.propertyKey
  if ← eatMark ":" then
    let e ← g.assignWithIn
    return { node := ← node start .other [key.node, e.node], assignable := e.shape.isElement,
             bindable := e.shape.isParameter, loose := e.loose || key.loose,
             looseAsTarget := e.looseAsTarget || key.loose }
  if (← isMark "(") || ((← typed) && (← isMark "<")) then
    return ← g.objectMethod start key false false noCheck
  match key.word? with
  | none => failure
  | some name =>
      if ← eatMark "?" then fault
      if (← isMark "=") || (← isMark ",") || (← isMark "\x7d") then
        return ← g.shorthand start key name
      faultIf stray
      match name with
      | "get" =>
          let key ← g.propertyKey
          g.objectMethod start key false false checkGetter
      | "set" =>
          let key ← g.propertyKey
          g.objectMethod start key false false checkSetter
      | "async" =>
          let generator ← eatMark "*"
          let key ← g.propertyKey
          g.objectMethod start key true generator noCheck
      | _ => failure

def objectLiteral : Parse Expr := do
  let start ← here
  expectMark "\x7b"
  let (entries, trailingComma) ← within (fun s => { s with colonAhead := false })
    (commaList "\x7d" g.objectEntry)
  let restLast := match entries.reverse with
    | [] => true
    | last :: before => before.all (fun e => !e.spread) && !(last.spread && trailingComma)
  let shape : Shape := .object (restLast && entries.all ObjectEntry.assignable)
    (restLast && entries.all ObjectEntry.bindable)
  return { node := ← node start .other (entries.map ObjectEntry.node), shape,
           loose := entries.any ObjectEntry.loose,
           looseAsTarget := entries.any ObjectEntry.looseAsTarget }

/-- An assignment whose left side was read; anything else is left alone. -/
def finishAssignment (start : Nat) (left : Expr) : Parse Expr := do
  match ← assignmentMark? with
  | none => return left
  | some mark =>
      let bindable := left.shape.isParameter && !left.shape.isAssignment
      if mark = "=" then checkAssignable left.shape
      else
        faultIf (!left.shape.isTarget)
        checkAssignable left.shape
      advance
      let right ← g.assign
      let loose := left.looseAsTarget || right.loose
      return { node := ← node start .other [left.node, right.node],
               shape := if mark = "=" then .assignment bindable else .other,
               loose, looseAsTarget := loose }

/-- The branches of a conditional behind its question mark. -/
def finishConditional (start : Nat) (test : Expr) : Parse Expr := do
  expectMark "?"
  let yes ← within
    (fun s => { s with inConditional := true, colonAhead := true, noIn := false }) g.assign
  expectMark ":"
  let no ← within (fun s => { s with inConditional := true, colonAhead := false }) g.assign
  compound start .conditional [test, yes, no] .binary

/-- Operators and their right operands, as long as they bind tighter than `least`. -/
def binaryFrom (start : Nat) : Nat → Nat → Expr → Parse Expr
  | 0, _, _ => failure
  | fuel + 1, least, left => do
      if (← typed) && !(← onNewLine) && least < relationPrecedence then
        if (← isWord "as") || (← isWord "satisfies") then
          let isAs ← isWord "as"
          advance
          let constant ← if isAs then eatWord "const" else pure false
          if !constant then let _ ← g.type
          let e ← expr start .other [left.node] (if constant then .other else .asserted left.shape)
          return ← binaryFrom start fuel least
            { e with loose := left.loose, looseAsTarget := left.looseAsTarget }
      let lexeme ← lexeme
      if (lexeme = .word "in" false) && (← scope).noIn then return left
      match precedence? lexeme with
      | none => return left
      | some level =>
          if level ≤ least then return left
          advance
          if lexeme = .mark "**" then failIf (left.shape = .prefixed)
          let rightStart ← here
          let operand ← g.unary
          failIf operand.shape.isArrow
          let right ← binaryFrom rightStart fuel (if lexeme = .mark "**" then level - 1 else level)
            operand
          if lexeme = .mark "??" then
            faultIf (left.shape = .logical || right.shape = .logical)
          let shape : Shape :=
            if lexeme = .mark "&&" || lexeme = .mark "||" then .logical else .binary
          let e ← compound start .other [left, right] shape
          binaryFrom start fuel least e

/-- An operand with all operators behind it. -/
def binary : Parse Expr := do
  let start ← here
  let left ← g.unary
  if left.shape.isArrow then return left
  g.binaryFrom start (← get).limit 0 left

def conditional : Parse Expr := do
  let start ← here
  let test ← g.binary
  if test.shape.isArrow then return test
  if ← isMark "?" then g.finishConditional start test else return test

/-- The parameters of an arrow function among items in parentheses. -/
def checkParameters (items : List ParenItem) (trailingComma : Bool) : Parse Unit := do
  checkRest (items.map ParenItem.spread) trailingComma
  faultIf (items.any fun i => !i.isPattern && !i.expr.shape.isParameter)
  faultIf (items.any fun i => i.spread && i.expr.shape.isAssignment)

/-- An arrow function whose head was read, from its arrow on. -/
def finishArrow (start : Nat) (async : Bool) (items : List ParenItem) (trailingComma : Bool) :
    Parse Expr := do
  expectMark "=>"
  checkParameters items trailingComma
  let body ← g.arrowBody async (items.all ParenItem.simple)
  expr start .arrow (items.map (fun i => i.expr.node) ++ [body]) .arrow

/-- A typed parameter among items in parentheses, from its annotation on. -/
def finishTypedItem (start : Nat) (e : Expr) (spread : Bool) : Parse ParenItem := do
  faultIf (!e.shape.isParameter)
  let _ ← g.typeAnnotation?
  let isName := match e.shape with
    | .name _ => true
    | _ => false
  if ← eatMark "=" then
    let d ← g.assign
    let whole ← expr start .other [e.node, d.node] (.assignment true)
    return ⟨whole, spread, true, false⟩
  return ⟨e, spread, true, isName && !spread⟩

/-- An item in parentheses. Typed code can follow a name with a question mark and a type. -/
def parenItem : Parse ParenItem := do
  let start ← here
  modify fun c => { c with arrowStart := some start }
  let stray ← strayModifier
  let spread ← eatMark "..."
  let e ← if (← typed) && (← atName) then
      let inner ← here
      let e ← g.binary
      if spread then pure e else g.finishAssignment inner e
    else g.assign
  let isName := match e.shape with
    | .name _ => true
    | _ => false
  let next ← peek
  let optional := (← typed) && (← isMark "?")
    && [Lexeme.mark ",", .mark ":", .mark ")", .mark "="].contains next.lexeme
  if optional then
    advance
    faultIf spread
    failIf (!isName)
  let item ← if (← typed) && (optional || (← isMark ":")) then
      g.finishTypedItem start e spread
    else if (← typed) && !spread && (← isMark "?") then
      let whole ← g.finishConditional start e
      pure ⟨whole, false, false, false⟩
    else pure ⟨e, spread, false, isName && !spread⟩
  faultIf stray
  return item

/-- A parenthesised expression, the head of an arrow function, or the arguments of a call of
something named `async`, whose position is then given. -/
def paren (canBeArrow : Bool) (asyncAt : Option Node) : Parse Expr := do
  let start ← here
  let whole := (asyncAt.map fun n => n.span.start).getD start
  let async := asyncAt.isSome
  expectMark "("
  let (items, trailingComma) ← within
    (fun s => { s with noIn := false, colonAhead := false, forHead := false,
                       inAsync := s.inAsync || async })
    (commaList ")" g.parenItem)
  let colonAhead := (← scope).colonAhead
  if (← typed) && (← scope).inConditional && (← isMark ":") then
    let found ← attempt do
      g.returnType ":"
      let e ← g.finishArrow whole async items false
      if colonAhead then failIf (!(← isMark ":"))
      return some e
    if let some e := found then return e
  if (← typed) && !colonAhead && (← isMark ":") then
    let _ ← attempt do
      g.returnType ":"
      if ← isMark "=>" then return some () else return none
  if (← isMark "=>") || items.any ParenItem.isPattern then
    failIf ((← onNewLine) || !canBeArrow)
    return ← g.finishArrow whole async items trailingComma
  let exprs := items.map ParenItem.expr
  match asyncAt with
  | some n =>
      let loose := exprs.any Expr.loose
      return { node := ← node whole .other (n :: exprs.map Expr.node), shape := .call, loose,
               looseAsTarget := loose }
  | none =>
      failIf (items.any ParenItem.spread)
      match exprs with
      | [] => failure
      | [e] =>
          return { node := ← node start .paren [e.node], shape := .paren e.shape,
                   loose := e.loose, looseAsTarget := e.loose }
      | first :: _ =>
          let inner : Node := .mk
            ⟨first.node.span.start, (exprs.getLast?.map fun e => e.node.span.stop).getD 0⟩ .other
            (exprs.map Expr.node)
          let loose := exprs.any Expr.loose
          return { node := ← node start .paren [inner], shape := .paren .other, loose,
                   looseAsTarget := loose }

/-- An async arrow function with type parameters, from these on. -/
def genericAsyncArrow (start : Nat) : Parse (Option Expr) := do
  g.typeParameters false true
  expectMark "("
  let ps ← within
    (fun s => { s with inParameters := true, inFunction := false, inAsync := true }) g.parameters
  if ← isMark ":" then g.returnType ":"
  failIf (← onNewLine)
  expectMark "=>"
  let body ← g.arrowBody true (ps.all Parameter.simple)
  return some (← expr start .arrow (ps.map Parameter.node ++ [body]) .arrow)

/-- A name, or an arrow function with a single parameter that is a name. -/
def nameOrArrow (canBeArrow : Bool) : Parse Expr := do
  let start ← here
  let isAsync ← isWord "async"
  let name ← nameUse
  let used : Node := .mk ⟨start, (← get).lastStop⟩ (.identifier name) []
  let next ← token
  if isAsync && canBeArrow && isNameToken next && !next.newline then
    let scope ← scope
    let behind ← peek
    if scope.forHead && next.lexeme = .word "of" false && behind.lexeme != .mark "=>" then
      faultIf (!scope.forAwaitHead)
      return { node := used, shape := .name name }
    let paramAt ← here
    let param ← nameBinding false
    let bound ← node paramAt (.binding param) []
    failIf (← onNewLine)
    expectMark "=>"
    let body ← g.arrowBody true true
    return ← expr start .arrow [bound, body] .arrow
  if canBeArrow && (← isMark "=>") && !(← onNewLine) then
    faultIf (isRestrictedName name)
    advance
    let body ← g.arrowBody false true
    let bound : Node := .mk used.span (.binding name) []
    return ← expr start .arrow [bound, body] .arrow
  return { node := used, shape := .name name }

/-- An expression without operators and selections. -/
def primary : Parse Expr := do
  let start ← here
  let canBeArrow := (← get).arrowStart = some start
  match ← lexeme with
  | .string value _ =>
      advance
      expr start (.string value) [] .literal
  | .number | .bigint =>
      advance
      expr start .other [] .literal
  | .mark "(" => g.paren canBeArrow none
  | .mark "[" => g.arrayLiteral
  | .mark "\x7b" => g.objectLiteral
  | .mark "`" =>
      let parts ← g.template false
      compound start .other parts .template
  | .mark "/" | .mark "/=" => regex
  | .mark "@" =>
      let ds ← g.decorators
      g.classExpression (← here) ds
  | .mark "#" =>
      let _ ← privateName
      failIf (!(← isWord "in"))
      expr start .other [] .other
  | .word "this" _ => advance; expr start .other [] .other
  | .word "null" _ | .word "true" _ | .word "false" _ => advance; expr start .other [] .literal
  | .word "function" _ => g.functionExpression start false
  | .word "class" _ => g.classExpression start []
  | .word "async" false =>
      if ← atAsyncFunction then
        advance
        return ← g.functionExpression start true
      let next ← peek
      if canBeArrow && (← typed) && next.lexeme = .mark "<" then
        let found ← attempt do
          advance
          g.genericAsyncArrow start
        if let some e := found then return e
      if canBeArrow && next.lexeme = .mark "(" && !next.newline then
        advance
        let used ← node start (.identifier "async") []
        return ← g.paren canBeArrow (some used)
      g.nameOrArrow canBeArrow
  | .word _ _ => g.nameOrArrow canBeArrow
  | _ => failure

/-- The parts of a callee that are visited. -/
def calleeParts : Callee → List Expr
  | .value e => [e]
  | _ => []

/-- A selection or call made of a callee and further parts. -/
def select (start : Nat) (form : Form) (callee : Callee) (parts : List Expr) (shape : Shape) :
    Parse Expr :=
  compound start form (calleeParts callee ++ parts) shape

/-- The form of a selection: only a plain one from a value is a member. -/
def memberForm (callee : Callee) (shape : Shape) (property : Option String) : Form :=
  match callee, shape with
  | .value _, .member => .member property
  | _, _ => .other

def calleeOptional : Callee → Bool
  | .value e => e.shape.isOptional
  | _ => false

/-- A call, which for an import takes one or two arguments and no spread. -/
def finishCall (start : Nat) (callee : Callee) (optional : Bool) : Parse Expr := do
  let args ← match callee with
    | .importer => do
        let args ← g.callArguments (← typed)
        failIf (args.isEmpty || 2 < args.length)
        pure args
    | _ => g.callArguments true
  match callee with
  | .value _ => pure ()
  | _ => failIf optional
  let shape : Shape := if optional || calleeOptional callee then .optionalCall else .call
  select start .other callee (args.map Prod.fst) shape

/-- A selection by name or private name behind a point. -/
def finishMember (start : Nat) (callee : Callee) (optional : Bool) : Parse Expr := do
  let isPrivate ← isMark "#"
  let name ← if isPrivate then privateName else anyWord
  match callee with
  | .parent => failIf (optional || isPrivate || !(← scope).superAllowed)
  | .importer => failure
  | .value _ => pure ()
  let shape : Shape := if optional || calleeOptional callee then .optionalMember else .member
  select start (memberForm callee shape (if isPrivate then none else some name)) callee [] shape

/-- A selection by an expression in brackets. -/
def finishIndex (start : Nat) (callee : Callee) (optional : Bool) : Parse Expr := do
  expectMark "["
  let e ← within (fun s => { s with colonAhead := false }) g.sequenceWithIn
  expectMark "]"
  match callee with
  | .parent => failIf (optional || !(← scope).superAllowed)
  | .importer => failure
  | .value _ => pure ()
  let shape : Shape := if optional || calleeOptional callee then .optionalMember else .member
  select start (memberForm callee shape none) callee [e] shape

/-- Type arguments with the call or template they belong to. -/
def typedCall? (start : Nat) (callee : Callee) (noCall : Bool) : Parse (Option Expr) := do
  match callee with
  | .value e =>
      if !(← typed) || !(← atOpenAngle) then return none
      attempt do
        if !noCall && e.node.form = .identifier "async" && e.node.span.start = start then
          if let some a ← attempt (g.genericAsyncArrow start) then return some a
        g.typeArguments
        if !noCall && (← isMark "(") then return some (← g.finishCall start callee false)
        if ← isMark "`" then
          let parts ← g.template true
          return some (← compound start .other (e :: parts) .template)
        return none
  | _ => return none

/-- One more selection, call or template behind a callee, if there is one. -/
def subscript (start : Nat) (noCall noIndex : Bool) (callee : Callee) :
    Parse (Sum Callee Expr) := do
  if (← typed) && !(← onNewLine) && (← isMark "!") then
    match callee with
    | .value e =>
        advance
        let n ← expr start .other [e.node] (.nonNull e.shape)
        return .inl (.value { n with loose := e.loose, looseAsTarget := e.looseAsTarget })
    | _ => failure
  if let some e ← g.typedCall? start callee noCall then
    return if e.shape.isArrow then .inr e else .inl (.value e)
  let optional ← eatMark "?."
  if (← isMark "[") && !noIndex then
    return .inl (.value (← g.finishIndex start callee optional))
  if optional && (← typed) && (← atOpenAngle) then g.typeArguments
  if (← isMark "(") && (!noCall || optional) then
    return .inl (.value (← g.finishCall start callee optional))
  if optional then return .inl (.value (← finishMember start callee optional))
  if ← eatMark "." then return .inl (.value (← finishMember start callee optional))
  match callee with
  | .value e =>
      if ← isMark "`" then
        faultIf e.shape.isOptional
        let parts ← g.template true
        return .inl (.value (← compound start .other (e :: parts) .template))
      return .inr e
  | _ => failure

def subscripts (start : Nat) (noCall : Bool) (callee : Callee) : Parse Expr := do
  iterate (g.subscript start noCall false) (← get).limit callee

/-- A name with calls and selections behind it, but no index. -/
def nameChain : Parse Expr := do
  let start ← here
  let name ← nameUse
  let used : Node := .mk ⟨start, (← get).lastStop⟩ (.identifier name) []
  iterate (g.subscript start false true) (← get).limit (.value { node := used, shape := .name name })

/-- What follows the word `import` in an expression. -/
def importChain (start : Nat) (noCall : Bool) : Parse Expr := do
  if ← eatMark "." then
    match ← anyWord with
    | "meta" =>
        let e ← expr start .other [] .other
        g.subscripts start noCall (.value e)
    | "defer" | "source" => g.subscripts start noCall .importer
    | _ => failure
  else g.subscripts start noCall .importer

/-- Type arguments that are not followed by a call, on an expression of its own. -/
def instantiation? (start : Nat) (e : Expr) : Parse Expr := do
  if !(← typed) || !(← isMark "<") then return e
  let found ← attempt do
    g.typeArguments
    let t ← token
    let blocked := match t.lexeme with
      | .mark m => ["<", ">", "+", "-", "(", "`", "<<", ">>", ">>>"].contains m
      | _ => false
    if blocked then return none
    if t.newline || (precedence? t.lexeme).isSome || !startsExpression t then return some ()
    return none
  match found with
  | none => return e
  | some _ =>
      let n ← expr start .other [e.node] (.asserted e.shape)
      return { n with loose := e.loose, looseAsTarget := e.looseAsTarget }

/-- What a chain of calls starts with: a primary expression with selections but without calls, or
a construction. -/
def head : Parse Expr := do
  let start ← here
  if ← eatWord "new" then
    if ← eatMark "." then
      expectWord "target"
      let s ← scope
      faultIf (!s.ownFunction && !s.inParameters && !s.inClass)
      let e ← expr start .other [] .other
      return ← g.subscripts start true (.value e)
    let callee ← g.chainHead
    failIf (callee.shape.isArrow || callee.shape.isOptional)
    if (← typed) && (← atOpenAngle) then
      let _ ← attempt do
        g.typeArguments
        if ← isMark "(" then return some () else return none
    if ← isMark "(" then
      let args ← g.callArguments true
      let e ← compound start .other (callee :: args.map Prod.fst) .construction
      return ← g.subscripts start true (.value e)
    return ← compound start .other [callee] .construction
  if ← eatWord "super" then return ← g.subscripts start true .parent
  if ← eatWord "import" then return ← g.importChain start true
  let first ← g.primary
  if first.shape.isArrow then return first
  let e ← g.instantiation? start first
  g.subscripts start true (.value e)

/-- A chain of calls and selections, or markup. -/
def chain : Parse Expr := do
  let start ← here
  if (← markup) && (← isMark "<") then
    let n ← g.element
    advance
    return { node := n, shape := .other }
  if ← eatWord "super" then return ← g.subscripts start false .parent
  if ← eatWord "import" then return ← g.importChain start false
  let callee ← g.head
  if callee.shape.isArrow then return callee
  g.subscripts start false (.value callee)

/-- Tokens that show that the word `await` before them is a name. -/
def endsAwait : Parse Bool := do
  return (← isMark ")") || (← isMark "]") || (← isMark ";") || (← isMark ",")

def awaitExpression : Parse Expr := do
  let start ← here
  expectWord "await"
  let s ← scope
  failIf ((← isMark "*") || s.inStaticBlock)
  if !s.inAsync && (← endsAwait) then
    fault
    return ← expr start (.identifier "await") [] (.name "await")
  faultIf (s.inFunction && !s.inAsync)
  faultIf (s.inParameters && !s.inFunction)
  let e ← g.unary
  compound start .other [e] .prefixed

/-- A type in angles before its operand. -/
def typeAssertion : Parse Expr := do
  let start ← here
  openAngle
  if ← eatWord "const" then
    closeAngle
    let e ← g.unary
    compound start .other [e] .other
  else
    let _ ← g.type
    closeAngle
    let e ← g.unary
    compound start .other [e] (.asserted e.shape)

/-- Whether typed code accepts an expression behind `delete`. -/
def isDeletable : Shape → Bool
  | .member => true
  | .optionalMember => true
  | .paren inner => isDeletable inner
  | _ => false

def prefixMarks : List String := ["+", "-", "~", "!"]

def prefixWords : List String := ["delete", "void", "typeof"]

/-- An operand with its prefix or postfix operators. -/
def operand : Parse Expr := do
  let start ← here
  if (← typed) && !(← markup) && (← isMark "<") then return ← g.typeAssertion
  match ← lexeme with
  | .mark m =>
      if m = "++" || m = "--" then
        advance
        let e ← g.unary
        checkTarget e.shape false
        return ← compound start .other [e] .binary
      if prefixMarks.contains m then
        advance
        let e ← g.unary
        failIf e.shape.isArrow
        return ← compound start .other [e] .prefixed
  | .word "await" false => return ← g.awaitExpression
  | .word w false =>
      if prefixWords.contains w then
        advance
        let e ← g.unary
        failIf e.shape.isArrow
        if w = "delete" then
          match e.shape with
          | .name _ => fault
          | shape => if ← typed then faultIf (!isDeletable shape)
        return ← compound start .other [e] .prefixed
  | _ => pure ()
  let e ← g.callChain
  if e.shape.isArrow || (← onNewLine) then return e
  if (← isMark "++") || (← isMark "--") then
    checkTarget e.shape false
    advance
    return ← compound start .other [e] .binary
  return e

def yieldExpression : Parse Expr := do
  let start ← here
  expectWord "yield"
  let s ← scope
  failIf (s.inParameters && !s.inFunction)
  let t ← token
  let opens := startsExpression t
    || [Lexeme.mark "<", .mark "*", .mark "/", .mark "/="].contains t.lexeme
  if (← isStatementEnd) || !opens then return ← expr start .other [] .other
  let _ ← eatMark "*"
  let e ← g.assign
  compound start .other [e] .other

/-- Whether type parameters of an arrow function start here. Where markup is allowed a comma, a
constraint or a default must tell them from a tag. -/
def atTypeParameters : Parse Bool := do
  if !(← typed) || !(← isMark "<") then return false
  if !(← markup) then return isWordToken (← peek)
  lookAhead do
    advance
    if ← isWord "const" then return true
    let _ ← anyWord
    return (← isMark ",") || (← isMark "=") || (← isWord "extends")

/-- An arrow function with type parameters, if it is one. -/
def genericArrow? : Parse (Option Expr) := do
  if !(← atTypeParameters) then return none
  let start ← here
  attempt <| within (fun s => { s with colonAhead := false }) do
    g.typeParameters false true
    let paramsAt ← here
    failIf (!(← isMark "("))
    modify fun c => { c with arrowStart := some paramsAt }
    let e ← g.paren true none
    failIf (!e.shape.isArrow)
    let .mk span form children := e.node
    return some { e with node := .mk ⟨start, span.stop⟩ form children }

/-- An expression without commas. -/
def assignment : Parse Expr := do
  if let some e ← g.genericArrow? then return e
  if (← scope).inGenerator && (← isWord "yield") then return ← g.yieldExpression
  let start ← here
  modify fun c => { c with arrowStart := some start }
  let e ← g.conditional
  if e.shape.isArrow then return e
  g.finishAssignment start e

end Grammar

end Phrasebook.Script

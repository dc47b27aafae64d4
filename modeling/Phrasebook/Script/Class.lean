import Phrasebook.Script.Function

/-!
Classes and their members.
-/

namespace Phrasebook.Script

open Parse

/-- A member of a class, and whether it is a constructor with a body. -/
structure ClassMember where
  node : Node
  constructs : Bool := false

/-- What stands before the name of a member. -/
structure MemberHead where
  start : Nat
  decorators : List Node
  access : Bool := false
  declared : Bool := false
  isStatic : Bool := false
  isAbstract : Bool := false
  isOverride : Bool := false
  isReadonly : Bool := false
  accessor : Bool := false

/-- Whether the parameters of a method start here. -/
def atMethod : Parse Bool := do
  if ← isMark "(" then return true
  isMark "<"

/-- Whether a property ends or goes on with its value here; `lineEnds` lets a line end end it. -/
def atProperty (lineEnds : Bool) : Parse Bool := do
  if (← typed) && ((← isMark "!") || (← isMark ":")) then return true
  if (← isMark "=") || (← isMark "\x7d") then return true
  if lineEnds then isStatementEnd else isMark ";"

/-- A question mark behind a name in typed code. -/
def eatOptional : Parse Bool := do
  if ← typed then eatMark "?" else return false

def atOptional : Parse Bool := return (← typed) && (← isMark "?")

/-- The name of a member whose word was consumed already. -/
def wordKey (start : Nat) (name : String) : Parse PropertyKey := do
  return { node := ← node start .other [], word? := some name }

namespace Grammar

variable (g : Grammar)

/-- The name of a member, private or not. -/
def memberKey : Parse PropertyKey := do
  if ← isMark "#" then
    let start ← here
    let name ← privateName
    faultIf (name = "constructor")
    return { node := ← node start .other [], word? := none, isPrivate := true }
  else g.propertyKey

/-- A method from its parameters on. -/
def method (head : MemberHead) (key : PropertyKey) (async generator : Bool)
    (check : List Parameter → Parse Unit) : Parse ClassMember := do
  let rest ← within
    (fun s => { s with superAllowed := true, inClassField := false, colonAhead := false })
    (g.functionRest async generator check)
  faultIf (key.isPrivate && head.access)
  faultIf (head.isAbstract && rest.body?.isSome)
  let start := key.node.span.start
  let function ← node start .functionLiteral (rest.children head.decorators)
  return { node := ← node head.start .other [key.node, function] }

/-- A property from behind its name on. -/
def property (head : MemberHead) (key : PropertyKey) (optional : Bool) : Parse ClassMember := do
  failIf key.isConstructor
  faultIf (key.isPrivate && (head.declared || head.access))
  if (← typed) && !optional then let _ ← eatMark "!"
  let _ ← g.typeAnnotation?
  let value? ← within (fun s => { s with noIn := false, inClassField := true }) do
    if ← eatMark "=" then return some (← g.assign).node else return none
  faultIf (!(← eatStatementEnd))
  faultIf (head.isAbstract && value?.isSome)
  let n ← node head.start .other (key.node :: value?.toList ++ head.decorators)
  return { node := n }

/-- A parameter of a constructor, which may declare a property. -/
def constructorParameter : Parse Parameter := do
  let start ← here
  let ds ← g.decorators
  let p ← if ← isMark "..." then g.restParameter
    else
      let access := (← modifier? ["public", "protected", "private", "in", "out"]).isSome
      let overrides := (← modifier? ["override"]).isSome
      let readonly := (← modifier? ["readonly"]).isSome
      let p ← g.plainParameter
      if access || overrides || readonly then
        failIf (!p.simple && !p.hasDefault)
        pure { p with isProperty := true, simple := false }
      else pure p
  if ds.isEmpty then return p
  return { p with node := ← node start .other (ds ++ [p.node]) }

/-- A constructor from its parameters on. -/
def constructor (head : MemberHead) (key : PropertyKey) : Parse ClassMember := do
  if (← typed) && (← isMark "<") then
    g.typeParameters false false
    fault
  expectMark "("
  let (ps, trailingComma) ← within
    (fun s => { s with inParameters := true, inFunction := false, inAsync := false,
                       inGenerator := false, superAllowed := true, inClassField := false,
                       colonAhead := false })
    (commaList ")" g.constructorParameter)
  checkRestParameter ps trailingComma
  if (← typed) && (← isMark ":") then
    advance
    let _ ← g.type
    fault
  let body? ← within
    (fun s => { s with superAllowed := true, inClassField := false, colonAhead := false })
    (g.functionBody? false false (ps.all Parameter.simple))
  if body?.isNone then faultIf (ps.any fun p => p.isProperty || p.hasDefault)
  faultIf (head.isStatic || head.isOverride || head.isAbstract)
  let n ← node head.start .other (key.node :: ps.map Parameter.node ++ body?.toList)
  return { node := n, constructs := body?.isSome }

/-- A block that runs when the class is made. -/
def staticBlock (start : Nat) : Parse ClassMember := do
  let b ← within
    (fun s => { s with inStaticBlock := true, inClassField := true, inFunction := false,
                       inAsync := false, inGenerator := false, breakAllowed := false,
                       continueAllowed := false, superAllowed := true, noIn := false,
                       ownFunction := true })
    (withoutLabels g.block)
  return { node := ← node start .other [b] }

/-- Modifiers of typed code in front of a member. -/
def memberModifiers (head : MemberHead) : Parse MemberHead := do
  let step (h : MemberHead) : Parse (Sum MemberHead MemberHead) := do
    let next ← peek
    if (← isWord "static") && next.lexeme = .mark "\x7b" then return .inr h
    match ← modifier? ["abstract", "readonly", "override", "static"] with
    | some "abstract" =>
        faultIf (h.isAbstract || h.isOverride || h.isReadonly)
        return .inl { h with isAbstract := true }
    | some "override" =>
        faultIf (h.isOverride || h.isReadonly || h.declared || !(← scope).hasSuperclass)
        return .inl { h with isOverride := true }
    | some "readonly" =>
        faultIf h.isReadonly
        return .inl { h with isReadonly := true }
    | some "static" =>
        faultIf h.isOverride
        return .inl { h with isStatic := true }
    | _ => return .inr h
  iterate step (← get).limit head

/-- A member from behind its modifiers on. -/
def memberRest (head : MemberHead) : Parse ClassMember := do
  if (← typed) && !head.isAbstract && !head.isOverride && !head.access then
    if ← g.indexSignature? then return { node := ← node head.start .other [] }
  if ← eatMark "*" then
    let key ← g.memberKey
    faultIf (head.isReadonly || key.isConstructor)
    return ← g.method head key false true noCheck
  let key ← g.memberKey
  let optional ← eatOptional
  if ← atMethod then
    faultIf head.declared
    failIf head.isReadonly
    if key.isConstructor && (!head.isStatic || (← typed)) then
      return ← g.constructor head key
    return ← g.method head key false false noCheck
  let generatorBelow := (← onNewLine) && (← isMark "*")
  let accessorWord := (key.word? = some "get" || key.word? = some "set")
    && !(← atProperty false) && !generatorBelow
  if !accessorWord && (← atProperty true) then return ← g.property head key optional
  if key.word? = some "async" && !(← onNewLine) then
    let generator ← eatMark "*"
    let key ← g.memberKey
    failIf key.isConstructor
    faultIf head.isReadonly
    let _ ← eatOptional
    return ← g.method head key true generator noCheck
  if accessorWord then
    let inner ← g.memberKey
    faultIf (head.isReadonly || inner.isConstructor)
    return ← g.method head inner false false
      (if key.word? = some "get" then checkGetter else checkSetter)
  failure

/-- A member whose modifier words turned out to be its name, if they did. -/
def memberNamed? (head : MemberHead) (start : Nat) (name : String) (lineEnds : Bool) :
    Parse (Option ClassMember) := do
  if ← atMethod then return some (← g.method head (← wordKey start name) false false noCheck)
  if (← atProperty lineEnds) || (← atOptional) then
    let key ← wordKey start name
    let optional ← eatOptional
    if optional && (← atMethod) then return some (← g.method head key false false noCheck)
    return some (← g.property head key optional)
  return none

def classMember : Parse ClassMember := do
  let start ← here
  let ds ← g.decorators
  let head : MemberHead := { start, decorators := ds }
  let declareAt ← here
  let declared ← if ← typed then eatWord "declare" else pure false
  let access := (← modifier? ["public", "protected", "private", "in", "out"]).isSome
  let declaredBehind ← if (← typed) && !declared then eatWord "declare" else pure false
  let head := { head with access, declared := declared || declaredBehind }
  if head.declared then
    if let some m ← g.memberNamed? { head with declared := false } declareAt "declare" false then
      return m
  let staticAt ← here
  let isStatic ← eatWord "static"
  let head := { head with isStatic }
  let accessorAt ← here
  let accessor ← if ← typed then eatWord "accessor" else pure false
  if accessor then
    if let some m ← g.memberNamed? head accessorAt "accessor" true then return m
  if isStatic && !accessor then
    if let some m ← g.memberNamed? { head with isStatic := false } staticAt "static" false then
      return m
  let head ← memberModifiers { head with accessor }
  let next ← peek
  if (← typed) && !accessor && !head.isReadonly && (← isWord "accessor")
      && next.lexeme != .mark "(" then advance
  if head.isStatic && (← isMark "\x7b") then
    faultIf (head.declared || head.access)
    return ← g.staticBlock start
  let next ← peek
  if (← isWord "static") && next.lexeme = .mark "\x7b" then
    faultIf (head.isReadonly || head.isAbstract || head.isOverride)
    advance
    return ← g.staticBlock start
  g.memberRest head

/-- The members of a class, from behind its opening brace on. -/
def classBody : Parse (List Node) := do
  let member : Parse (Option ClassMember) := do
    if ← eatMark ";" then return none
    return some (← g.classMember)
  let members ← collect (eatMark "\x7d") member
  let written := members.filterMap id
  faultIf (!(← scope).ambient && 1 < (written.filter ClassMember.constructs).length)
  return written.map ClassMember.node

/-- The expression behind `extends`, without its type arguments. -/
def heritage? : Parse (Option Node) := do
  if !(← eatWord "extends") then return none
  let e ← g.callChain
  if (← typed) && (← atOpenAngle) then g.typeArguments
  return match e.shape, e.node.children with
    | .asserted _, [inner] => some inner
    | _, _ => some e.node

/-- A class from the word `class` on: its name and its parts in visiting order. -/
def classRest (decorators : List Node) (named : Bool) : Parse (Option String × List Node) :=
  within (fun s => { s with inClass := true }) do
    expectWord "class"
    let name? ← if named || (← atName) then pure (some (← nameBinding true)) else pure none
    if ← typed then faultIf ((name?.map builtinTypeNames.contains).getD false)
    g.typeParameters? true true
    let parent? ← g.heritage?
    if ← typed then
      if ← eatWord "implements" then g.heritageTypes
    expectMark "\x7b"
    let members ← within
      (fun s => { s with hasSuperclass := parent?.isSome, superAllowed := true }) g.classBody
    let heritage := parent?.toList.map fun n => Node.mk n.span .heritage [n]
    return (name?, decorators ++ members ++ heritage)

/-- A class declaration; its span starts at `start`. -/
def classDeclaration (start : Nat) (decorators : List Node) (named : Bool) : Parse Node := do
  let (name?, children) ← g.classRest decorators named
  node start (.classDeclaration name?) children

def classExpression (start : Nat) (decorators : List Node) : Parse Expr := do
  let (_, children) ← g.classRest decorators false
  expr start .classLiteral children .classLiteral

end Grammar

end Phrasebook.Script

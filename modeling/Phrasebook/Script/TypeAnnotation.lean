import Phrasebook.Script.Pattern

/-!
Types, which are read and dropped: no text for a reader stands in them.

Each reader of a type answers whether the type is an array or a tuple, because only those may be
marked as read-only.
-/

namespace Phrasebook.Script

open Parse

/-- Consumes a single opening angle, also off a longer mark. -/
def openAngle : Parse Unit := do
  let c ← get
  match c.token.lexeme, c.here with
  | .mark _, '<' :: more =>
      let stop := c.token.span.start + 1
      moveTo stop (.next false stop more)
  | _, _ => failure

/-- Consumes a single closing angle, also off a longer mark. -/
def closeAngle : Parse Unit := do
  let c ← get
  match c.token.lexeme, c.here with
  | .mark _, '>' :: more =>
      let stop := c.token.span.start + 1
      moveTo stop (.next false stop more)
  | _, _ => failure

def atOpenAngle : Parse Bool := do
  if ← isMark "<" then return true
  isMark "<<"

def atCloseAngle : Parse Bool := do
  let c ← get
  match c.token.lexeme, c.here with
  | .mark _, '>' :: _ => return true
  | _, _ => return false

/-- Whether the current word is a modifier: one of the given, and followed on the same line by
something that can be modified. -/
def modifier? (allowed : List String) : Parse (Option String) := do
  if !(← typed) then return none
  match ← lexeme with
  | .word name false =>
      if !allowed.contains name then return none
      let next ← peek
      let follows := match next.lexeme with
        | .word _ _ | .string _ _ | .number | .bigint => true
        | .mark m => ["[", "\x7b", "*", "...", "#"].contains m
        | _ => false
      if follows && !next.newline then
        advance
        return some name
      else return none
  | _ => return none

/-- Consumes a modifier that has no meaning here, and says whether there was one. -/
def strayModifier : Parse Bool := do
  if !(← typed) then return false
  match ← lexeme with
  | .word name false =>
      if !(["public", "protected", "private", "readonly"].contains name) then return false
      let next ← peek
      let follows := match next.lexeme with
        | .word _ _ => true
        | .mark m => m = "\x7b" || m = "["
        | _ => false
      if follows then return (← modifier? ["public", "protected", "private", "readonly"]).isSome
      return false
  | _ => return false

/-- Names that a class or interface cannot have. -/
def builtinTypeNames : List String :=
  ["string", "null", "number", "object", "any", "unknown", "boolean", "bigint", "symbol", "void",
   "never", "intrinsic"]

/-- A parameter of a function or of a signature. -/
structure Parameter where
  node : Node
  /-- Whether it is a plain name. -/
  simple : Bool := false
  isRest : Bool := false
  hasDefault : Bool := false
  isThis : Bool := false
  isProperty : Bool := false

namespace Grammar

variable (g : Grammar)

/-- A type behind a colon, if there is one. -/
def typeAnnotation? : Parse Bool := do
  if (← typed) && (← isMark ":") then
    advance
    let _ ← g.type
    return true
  else return false

/-- Types in angles. -/
def typeArguments : Parse Unit := do
  openAngle
  let step (first : Bool) : Parse (Sum Bool Unit) := do
    if ← atCloseAngle then
      faultIf first
      closeAngle
      return .inr ()
    let _ ← g.type
    if ← eatMark "," then return .inl false
    if !(← atCloseAngle) then failure
    return .inl false
  iterate step (← get).limit true

def typeParameter (variance constant : Bool) : Parse Unit := do
  let modifiers := ["public", "private", "protected", "readonly", "abstract", "const", "override",
    "in", "out"]
  let step (seen : List String) : Parse (Sum (List String) Unit) := do
    match ← modifier? modifiers with
    | none => return .inr ()
    | some m =>
        if m = "const" then faultIf (!constant)
        else if m = "in" then faultIf (!variance || seen.contains "in" || seen.contains "out")
        else if m = "out" then faultIf (!variance || seen.contains "out")
        else fault
        return .inl (m :: seen)
  iterate step (← get).limit []
  let _ ← anyWord
  if ← eatWord "extends" then let _ ← g.type
  if ← eatMark "=" then let _ ← g.type

/-- Declared type parameters in angles. -/
def typeParameters (variance constant : Bool) : Parse Unit := do
  openAngle
  let step (first : Bool) : Parse (Sum Bool Unit) := do
    if ← atCloseAngle then
      faultIf first
      closeAngle
      return .inr ()
    g.typeParameter variance constant
    if ← eatMark "," then return .inl false
    if !(← atCloseAngle) then failure
    return .inl false
  iterate step (← get).limit true

def typeParameters? (variance constant : Bool) : Parse Unit := do
  if (← typed) && (← isMark "<") then g.typeParameters variance constant

/-- What a signature or function returns, behind a colon or an arrow: a type, or a statement about
one of the parameters. -/
def returnType (mark : String) : Parse Unit := do
  expectMark mark
  let asserts := (← isWord "asserts") && (let t := ← peek; isNameToken t && !t.newline)
  if asserts then advance
  let next ← peek
  let states := (← atName) && next.lexeme = .word "is" false && !next.newline
  if asserts || states then
    let _ ← anyWord
    if states then
      advance
      let _ ← g.type
  else
    let _ ← g.type

/-- An expression behind an at sign: anything in parentheses, or a name with calls and
selections. An index would belong to what follows. -/
def decorator : Parse Node := do
  let start ← here
  expectMark "@"
  let e ← if ← eatMark "(" then do
      let e ← g.sequence
      expectMark ")"
      pure e
    else g.selection
  if (← typed) && (← isMark "<") then g.typeArguments
  let args ← if ← isMark "(" then g.callArguments true else pure []
  node start .other (e.node :: args.map fun (a, _) => a.node)

def decorators : Parse (List Node) := do
  collect (return !(← isMark "@")) g.decorator

/-- A parameter without decorators that is not a rest. -/
def plainParameter : Parse Parameter := do
  let start ← here
  let stray ← strayModifier
  let isThis ← isWord "this"
  let t ← g.target false
  let optional ← if ← typed then eatMark "?" else pure false
  let _ ← g.typeAnnotation?
  let p : Parameter ← if ← eatMark "=" then do
      faultIf optional
      let e ← g.assign
      faultIf (← scope).ambient
      pure { node := ← node start .other [t.node, e.node], hasDefault := true, isThis }
    else pure { node := t.node, simple := t.kind = .name, isThis }
  faultIf stray
  return p

/-- A rest parameter, from its dots on. -/
def restParameter : Parse Parameter := do
  let start ← here
  expectMark "..."
  let t ← g.target false
  let children ← if ← eatMark "=" then do
      let e ← g.assign
      fault
      pure [t.node, e.node]
    else pure [t.node]
  let _ ← g.typeAnnotation?
  if ← typed then
    if ← eatMark "?" then fault
  return { node := ← node start .other children, isRest := true }

/-- A comma after a rest, or a parameter after it, is a fault. -/
def checkRestParameter (ps : List Parameter) (trailingComma : Bool) : Parse Unit :=
  checkRest (ps.map Parameter.isRest) trailingComma

/-- One parameter with its decorators. -/
def parameter : Parse Parameter := do
  let start ← here
  let ds ← g.decorators
  let p ← if ← isMark "..." then g.restParameter else g.plainParameter
  if ds.isEmpty then return p
  return { p with node := ← node start .other (ds ++ [p.node]) }

/-- The parameters behind an opening parenthesis, with the closing one. -/
def parameters : Parse (List Parameter) := do
  let (ps, trailingComma) ← commaList ")" g.parameter
  checkRestParameter ps trailingComma
  return ps

/-- The parameters of a signature, where defaults have no place. -/
def signatureParameters : Parse Unit := do
  let ps ← g.parameters
  failIf (ps.any Parameter.hasDefault)

/-- Ends a member of an interface or of an object type. -/
def typeMemberEnd : Parse Unit := do
  if ← eatMark "," then pure () else expectStatementEnd

/-- Type parameters, parameters and an optional result. -/
def signature : Parse Unit := do
  g.typeParameters? false true
  expectMark "("
  g.signatureParameters
  if ← isMark ":" then g.returnType ":"

/-- An index signature, if one stands here. -/
def indexSignature? : Parse Bool := do
  let ahead ← lookAhead do
    expectMark "["
    if ← atName then
      advance
      isMark ":"
    else return false
  if !ahead then return false
  advance
  let _ ← anyWord
  expectMark ":"
  let _ ← g.type
  expectMark "]"
  let _ ← g.typeAnnotation?
  typeMemberEnd
  return true

/-- The name of a member of an object type. -/
def typeMemberName : Parse Unit := do
  if ← isMark "#" then
    let _ ← privateName
  else
    let _ ← g.propertyKey

/-- An accessor signature, if one stands here. -/
def accessorSignature? (readonly : Bool) : Parse Bool := do
  let found ← attempt do
    failIf readonly
    if ← eatWord "get" then
      g.typeMemberName
      expectMark "("
      expectMark ")"
      let _ ← g.typeAnnotation?
    else
      expectWord "set"
      g.typeMemberName
      expectMark "("
      let ps ← g.parameters
      failIf ps.isEmpty
    typeMemberEnd
    return some ()
  return found.isSome

/-- A member of an interface or of an object type. -/
def typeMember : Parse Unit := do
  if (← isMark "(") || (← isMark "<") then
    g.signature
    typeMemberEnd
    return
  let next ← peek
  if (← isWord "new") && (next.lexeme = .mark "(" || next.lexeme = .mark "<") then
    advance
    g.signature
    typeMemberEnd
    return
  let readonly := (← modifier? ["readonly"]).isSome
  if ← g.indexSignature? then return
  if ← g.accessorSignature? readonly then return
  g.typeMemberName
  let _ ← eatMark "?"
  if (← isMark "(") || (← isMark "<") then
    failIf readonly
    g.signature
  else
    let _ ← g.typeAnnotation?
  typeMemberEnd

/-- Members in braces. -/
def typeMembers : Parse Unit := do
  expectMark "\x7b"
  let _ ← collect (eatMark "\x7d") g.typeMember

/-- Names with points between them. -/
def entityName : Parse Unit := do
  let first ← anyWord
  faultIf (first = "void")
  let _ ← collect (return !(← isMark ".")) (do advance; anyWord)

/-- Type arguments on the same line, if there are any. -/
def typeArguments? : Parse Unit := do
  if !(← onNewLine) && (← atOpenAngle) then g.typeArguments

def importType : Parse Unit := do
  expectWord "import"
  expectMark "("
  match ← lexeme with
  | .string _ _ => advance
  | _ => failure
  if ← eatMark "," then
    if !(← isMark ")") then
      let _ ← g.assign
      let _ ← eatMark ","
  expectMark ")"
  if ← eatMark "." then entityName
  g.typeArguments?

/-- A type computed from a value. -/
def typeQuery : Parse Unit := do
  expectWord "typeof"
  if ← isWord "import" then g.importType
  else
    entityName
    g.typeArguments?

/-- Whether a mapped type starts at an opening brace. -/
def startsMappedType : Parse Bool := lookAhead do
  expectMark "\x7b"
  if (← isMark "+") || (← isMark "-") then
    advance
    isWord "readonly"
  else
    let _ ← eatWord "readonly"
    expectMark "["
    if ← atName then
      advance
      isWord "in"
    else return false

def mappedType : Parse Unit := do
  expectMark "\x7b"
  if (← isMark "+") || (← isMark "-") then
    advance
    expectWord "readonly"
  else
    let _ ← eatWord "readonly"
  expectMark "["
  let _ ← anyWord
  expectWord "in"
  let _ ← g.type
  if ← eatWord "as" then let _ ← g.type
  expectMark "]"
  if (← isMark "+") || (← isMark "-") then
    advance
    expectMark "?"
  else
    let _ ← eatMark "?"
  let _ ← g.typeAnnotation?
  expectStatementEnd
  expectMark "\x7d"

/-- One entry of a tuple: whether it must be given, and whether it may be left out. -/
def tupleElement : Parse (Bool × Bool) := do
  let isRest ← eatMark "..."
  let named ← if ← atWord then lookAhead do
      advance
      let _ ← eatMark "?"
      isMark ":"
    else pure false
  if named then
    advance
    let optional ← eatMark "?"
    expectMark ":"
    let _ ← g.type
    return (!optional && !isRest, optional)
  else
    let _ ← g.type
    let optional ← eatMark "?"
    return (!optional && !isRest, optional)

/-- A required entry behind an optional one is a fault. -/
def checkTuple (optionalSeen : Bool) : List (Bool × Bool) → Bool
  | [] => true
  | (required, optional) :: rest =>
      !(required && optionalSeen) && checkTuple (optionalSeen || optional) rest

def tupleType : Parse Unit := do
  expectMark "["
  let (required, _) ← commaList "]" g.tupleElement
  faultIf (!checkTuple false required)

/-- A template whose substitutions are types, from its opening quote on. -/
def templateType : Parse Unit := do
  let step (_ : Unit) : Parse (Sum Unit Unit) := do
    let c ← get
    match scanTemplate false c.rest with
    | none => failure
    | some found =>
        let stop := c.token.span.stop + found.bytes
        moveTo stop (.next false stop found.rest)
        if found.value.2 then
          let _ ← g.type
          if ← isMark "\x7d" then return .inl () else failure
        else return .inr ()
  iterate step (← get).limit ()

/-- Whether a function type starts at an opening parenthesis. -/
def startsFunctionType : Parse Bool := do
  if ← isMark "<" then return true
  lookAhead do
    expectMark "("
    if (← isMark ")") || (← isMark "...") then return true
    let _ ← strayModifier
    let skipped ← if ← atWord then do advance; pure true
      else if (← isMark "\x7b") || (← isMark "[") then do
        let _ ← g.target false
        pure true
      else pure false
    if !skipped then return false
    if (← isMark ":") || (← isMark ",") || (← isMark "?") || (← isMark "=") then return true
    if ← eatMark ")" then isMark "=>" else return false

/-- A function type, from its type parameters on. -/
def functionType : Parse Unit := do
  g.typeParameters? false true
  expectMark "("
  g.signatureParameters
  g.returnType "=>"

/-- Types that are written with a word of their own. -/
def keywordTypes : List String :=
  ["any", "boolean", "bigint", "never", "number", "object", "string", "symbol", "unknown",
   "undefined", "intrinsic", "void", "null"]

/-- A type without operators and suffixes. -/
def primaryType : Parse Bool := do
  match ← lexeme with
  | .string _ _ | .number | .bigint => advance; return false
  | .word "true" _ | .word "false" _ => advance; return false
  | .word "import" _ => g.importType; return false
  | .word "typeof" _ => g.typeQuery; return false
  | .word "this" _ =>
      advance
      if (← isWord "is") && !(← onNewLine) then
        advance
        let _ ← g.type
      return false
  | .word name _ =>
      let next ← peek
      if name = "asserts" && next.lexeme = .word "this" false && !next.newline then
        advance
        advance
        if ← eatWord "is" then let _ ← g.type
        return false
      if keywordTypes.contains name && next.lexeme != .mark "." then
        advance
        return false
      failIf (reservedWords.contains name)
      entityName
      g.typeArguments?
      return false
  | .mark "-" =>
      advance
      match ← lexeme with
      | .number | .bigint => advance; return false
      | _ => failure
  | .mark "\x7b" =>
      if ← startsMappedType then g.mappedType else g.typeMembers
      return false
  | .mark "[" => g.tupleType; return true
  | .mark "(" =>
      advance
      let _ ← g.type
      expectMark ")"
      return false
  | .mark "`" => g.templateType; return false
  | _ => failure

/-- A type followed by any number of brackets. -/
def arrayType : Parse Bool := do
  let first ← g.primaryType
  let step (array : Bool) : Parse (Sum Bool Bool) := do
    if (← onNewLine) || !(← isMark "[") then return .inr array
    advance
    if ← eatMark "]" then return .inl true
    let _ ← g.type
    expectMark "]"
    return .inl false
  iterate step (← get).limit first

/-- A type with prefix operators. -/
def operatorType : Parse Bool := do
  if (← isWord "keyof") || (← isWord "unique") then
    advance
    let _ ← g.prefixType
    return false
  if ← isWord "readonly" then
    advance
    let array ← g.prefixType
    faultIf (!array)
    return false
  if ← isWord "infer" then
    advance
    let _ ← anyWord
    let _ ← attempt do
      expectWord "extends"
      let _ ← g.plainType
      if !(← scope).noConditionalTypes && (← isMark "?") then return none
      return some ()
    return false
  g.arrayType

/-- Types with an operator between them, which may also stand in front. -/
def operatorChain (mark : String) (operand : Parse Bool) : Parse Bool := do
  let leading ← eatMark mark
  let first ← operand
  if !(← isMark mark) then return first && !leading
  let _ ← collect (return !(← isMark mark)) (do advance; operand)
  return false

/-- A union of intersections. -/
def unionType : Parse Bool := operatorChain "|" (operatorChain "&" g.prefixType)

/-- A function type, a constructor type, or a union. -/
def unconditionalType : Parse Bool := do
  if (← isMark "<") || ((← isMark "(") && (← g.startsFunctionType)) then
    g.functionType
    return false
  let next ← peek
  if ← isWord "new" then
    advance
    g.functionType
    return false
  if (← isWord "abstract") && next.lexeme = .word "new" false then
    advance
    advance
    g.functionType
    return false
  g.unionType

/-- Any type, with the branches of a conditional type behind it. -/
def conditionalType : Parse Bool := within (fun s => { s with noConditionalTypes := false }) do
  let first ← g.plainType
  if (← onNewLine) || !(← isWord "extends") then return first
  advance
  let _ ← within (fun s => { s with noConditionalTypes := true }) g.plainType
  expectMark "?"
  let _ ← g.type
  expectMark ":"
  let _ ← g.type
  return false

/-- Types that a class implements or an interface extends. -/
def heritageTypes : Parse Unit := do
  let one : Parse Unit := do
    entityName
    if ← atOpenAngle then g.typeArguments
  one
  let _ ← collect (return !(← isMark ",")) (do advance; one)

end Grammar

end Phrasebook.Script

import Phrasebook.Script.Statement

/-!
Imports, exports and the items of a module.
-/

namespace Phrasebook.Script

open Parse

/-- The string behind `from`. -/
def moduleName : Parse ModuleName := do
  match ← lexeme with
  | .string value quote =>
      advance
      return ⟨value, quote⟩
  | _ => failure

/-- The name of something exported: a word or a string. -/
def exportName : Parse (Option String) := do
  match ← lexeme with
  | .word name _ =>
      advance
      return some name
  | .string _ _ =>
      advance
      return none
  | _ => failure

/-- A name in the braces of an import: a word is bound unless it is followed by another name. -/
def importedName (outer : Option String) : Parse String := do
  if ← eatWord "as" then nameBinding false
  else
    match outer with
    | none => failure
    | some name =>
        failIf (reservedWords.contains name || name = "await")
        faultIf (strictWords.contains name)
        return name

/-- An entry in the braces of an import, with the name it binds. -/
def importEntry (typeOnly : Bool) : Parse String := do
  let outer ← exportName
  if !(← typed) || outer != some "type" || !(← atWord) then return ← importedName outer
  let second ← anyWord
  if second != "as" then
    faultIf typeOnly
    return ← importedName (some second)
  if !(← atWord) then
    faultIf typeOnly
    return "as"
  let third ← nameBinding false
  if third = "as" && (← atWord) then
    faultIf typeOnly
    nameBinding false
  else return third

/-- An entry in the braces of an export, and whether it needs a module to take the name from. -/
def exportEntry (typeOnly : Bool) : Parse Bool := do
  let outer ← exportName
  let plain (name : Option String) : Parse Bool := do
    if ← eatWord "as" then let _ ← exportName
    return match name with
      | none => true
      | some name => reservedWords.contains name
  if !(← typed) || outer != some "type" || !(← atWord) then return ← plain outer
  let second ← anyWord
  if second != "as" then
    faultIf typeOnly
    return ← plain (some second)
  if !(← atWord) then
    faultIf typeOnly
    return false
  let third ← anyWord
  if third = "as" && (← atWord) then
    faultIf typeOnly
    let _ ← anyWord
  return false

namespace Grammar

variable (g : Grammar)

/-- Attributes of an import, which only typed code may have. -/
def importAttributes? : Parse Unit := do
  if !(← typed) || (← onNewLine) then return
  if (← isWord "with") || (← isWord "assert") then
    advance
    let _ ← g.objectLiteral

/-- What stands between `from` and the end of a statement. -/
def fromClause : Parse ModuleName := do
  expectWord "from"
  let source ← moduleName
  g.importAttributes?
  expectStatementEnd
  return source

/-- The other side of a name that is bound by an import with an equals sign. -/
def importEquals (start : Nat) (name : String) : Parse Node := do
  expectMark "="
  let next ← peek
  if (← isWord "require") && next.lexeme = .mark "(" then
    advance
    advance
    let _ ← moduleName
    expectMark ")"
  else entityName
  expectStatementEnd
  node start (.typeDeclaration name) []

/-- What the first name of an import turned out to be. -/
inductive ImportHead where
  /-- No name: the keyword before the braces or the star was no name either. -/
  | none (typeOnly : Bool)
  /-- A name for the default export. -/
  | default (name : String) (typeOnly : Bool)

/-- Whether another binding follows a word, so that the word was no name. -/
def anotherBinding : Parse Bool := do
  if !(← atName) then return false
  if !(← isWord "from") then return true
  let next ← peek
  return next.lexeme = .word "from" false

/-- The first name of an import, with the words `type`, `source` and `defer` told apart. -/
def importHead : Parse ImportHead := do
  if !(← atName) then return .none false
  let first ← nameBinding false
  let next ← peek
  if (← typed) && first = "type" then
    if (← isMark "*") || (← isMark "\x7b") then return .none true
    if (← anotherBinding) || ((← isWord "from") && next.lexeme = .mark "=") then
      return .default (← nameBinding false) true
  if first = "source" || first = "defer" then
    if ← isMark "*" then return .none false
    if ← anotherBinding then return .default (← nameBinding false) false
  return .default first false

/-- The names bound by a star or by braces, if they stand here. -/
def importNames (typeOnly : Bool) : Parse (List String) := do
  if ← eatMark "*" then
    expectWord "as"
    return [← nameBinding false]
  if ← eatMark "\x7b" then
    let (names, _) ← commaList "\x7d" (importEntry typeOnly)
    return names
  return []

/-- An import, unless the word starts an expression. -/
def importItem : Parse Node := do
  let start ← here
  let next ← peek
  if next.lexeme = .mark "(" || next.lexeme = .mark "." then return ← g.importExpression
  expectWord "import"
  if ← atString then
    let source ← moduleName
    g.importAttributes?
    expectStatementEnd
    return ← node start (.importFrom source []) []
  match ← importHead with
  | .none typeOnly =>
      let names ← importNames typeOnly
      let source ← g.fromClause
      node start (.importFrom source names) []
  | .default name typeOnly =>
      if (← typed) && (← isMark "=") then return ← importEquals start name
      if !(← isWord "from") then expectMark ","
      let names ← importNames typeOnly
      let source ← g.fromClause
      node start (.importFrom source (name :: names)) []

/-- A default export, behind its two words. -/
def defaultExport (start : Nat) (before : List Node) : Parse Node := do
  let ds := before ++ (← g.decorators)
  let valueAt ← here
  let next ← peek
  let wrap (n : Node) : Parse Node := node start .exportDefault [n]
  if ← typed then
    if (← isWord "abstract") && next.lexeme = .word "class" false && !next.newline then
      advance
      return ← wrap (← g.classDeclaration valueAt ds false)
    if (← isWord "abstract") && next.lexeme = .word "interface" false then
      fault
      advance
    if ← eatWord "interface" then
      let _ ← g.interfaceDeclaration valueAt
      return ← node start .other []
  if ← isWord "class" then return ← wrap (← g.classDeclaration valueAt ds false)
  if ← atAsyncFunction then
    advance
    return ← wrap (← g.functionDeclaration valueAt ds true false)
  if ← isWord "function" then return ← wrap (← g.functionDeclaration valueAt ds false false)
  let e ← g.assignWithIn
  expectStatementEnd
  wrap e.node

/-- An export of names, behind the words before its star or braces. -/
def namedExport (start : Nat) (typeOnly : Bool) : Parse Node := do
  if ← eatMark "*" then
    if ← eatWord "as" then let _ ← exportName
    let source ← g.fromClause
    return ← node start (.exportFrom source) []
  expectMark "\x7b"
  let (needs, _) ← commaList "\x7d" (exportEntry typeOnly)
  if ← isWord "from" then
    let source ← g.fromClause
    node start (.exportFrom source) []
  else
    faultIf (needs.any id)
    let _ ← eatStatementEnd
    node start .other []

/-- An exported declaration that typed code starts with a word that is no keyword. -/
def typedExport? (start : Nat) (before : List Node) : Parse (Option Node) := do
  if !(← typed) then return none
  let declAt ← here
  let wrap (n : Node) : Parse (Option Node) := do
    return some (← node start .exportDeclaration [n])
  if ← eatWord "declare" then
    if let some n ← g.ambientDeclaration? declAt before then return ← wrap n
  match ← lexeme with
  | .word word _ =>
      let wordAt ← here
      if let some n ← attempt (g.typeDeclaration? wordAt before word false) then
        return ← wrap n
  | _ => pure ()
  if ← eatWord "import" then
    let next ← peek
    if (← isWord "type") && isNameToken next then advance
    let name ← anyWord
    return some (← importEquals start name)
  if ← eatMark "=" then
    let e ← g.sequence
    expectStatementEnd
    return some (← node start .other [e.node])
  if ← eatWord "as" then
    expectWord "namespace"
    let _ ← nameUse
    expectStatementEnd
    return some (← node start .other [])
  return none

/-- An exported declaration, if one stands here. -/
def exportedDeclaration? (decorators : List Node) : Parse (Option Node) := do
  let start ← here
  let next ← peek
  if ← isWord "class" then return some (← g.classDeclaration start decorators true)
  if ← atAsyncFunction then
    advance
    return some (← g.functionDeclaration start decorators true true)
  if ← isWord "function" then
    return some (← g.functionDeclaration start decorators false true)
  if (← typed) && (← isWord "const") && next.lexeme = .word "enum" false then
    advance
    advance
    return some (← g.enumDeclaration start)
  match ← variableKind? with
  | some kind => return some (← g.variableStatement start kind)
  | none => return none

def exportItem (before : List Node) : Parse Node := do
  let start ← here
  expectWord "export"
  if let some n ← g.typedExport? start before then return n
  let typeOnly ← if ← typed then eatWord "type" else pure false
  if typeOnly then
    let _ ← g.decorators
    return ← g.namedExport start true
  if ← eatWord "default" then return ← g.defaultExport start before
  let ds := before ++ (← g.decorators)
  match ← g.exportedDeclaration? ds with
  | some n => node start .exportDeclaration [n]
  | none => g.namedExport start false

/-- An item of a module. Only typed code lets decorators stand before an export. -/
def moduleItem : Parse Node := do
  let start ← here
  let ds ← g.decorators
  if ← isWord "export" then
    failIf (!(← scope).topLevel || (!ds.isEmpty && !(← typed)))
    g.exportItem ds
  else if ← isWord "import" then
    failIf (!(← scope).topLevel)
    g.importItem
  else g.plainStatement start true ds

end Grammar

end Phrasebook.Script

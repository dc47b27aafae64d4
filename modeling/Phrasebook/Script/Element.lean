import Phrasebook.Markup.Entity
import Phrasebook.Script.TypeAnnotation

/-!
Markup inside a script: elements, fragments, attributes and the text between tags.

Inside a tag words may hold hyphens, and behind its closing sign text begins. A reader of markup
therefore stops at the sign that closes the last tag, and the caller decides how to go on.
-/

namespace Phrasebook.Script

open Parse

/-- The characters of text up to the next tag or brace, with its length in bytes. -/
def scanText : List Char → Found (List Char)
  | [] => ⟨[], 0, []⟩
  | c :: cs =>
      if c = '<' || c = '\x7b' then ⟨[], 0, c :: cs⟩
      else
        let found := scanText cs
        ⟨c :: found.value, c.utf8Size + found.bytes, found.rest⟩

/-- The characters up to a quote, which is not consumed. -/
def scanUntil (quote : Char) : List Char → Option (Found (List Char))
  | [] => none
  | c :: cs =>
      if c = quote then some ⟨[], 0, c :: cs⟩
      else (scanUntil quote cs).map fun found =>
        ⟨c :: found.value, c.utf8Size + found.bytes, found.rest⟩

/-- Moves past the opening angle of a tag. -/
def enterTag : Parse Unit := do
  let c ← get
  match c.here with
  | '<' :: more =>
      let stop := c.token.span.start + 1
      moveTo stop (.nextInTag stop more)
  | _ => failure

/-- Moves past a mark of a tag. -/
def expectInTag (text : String) : Parse Unit := do
  if ← isMark text then advanceInTag else failure

def wordInTag : Parse String := do
  match ← lexeme with
  | .word name _ => advanceInTag; return name
  | _ => failure

/-- The name of an element: words with points between them, or two words with a colon. -/
def elementName : Parse String := do
  let first ← wordInTag
  if ← isMark ":" then
    advanceInTag
    return first ++ ":" ++ (← wordInTag)
  let rest ← collect (return !(← isMark ".")) (do advanceInTag; wordInTag)
  return ".".intercalate (first :: rest)

def attributeName : Parse String := do
  let first ← wordInTag
  if ← isMark ":" then
    advanceInTag
    return first ++ ":" ++ (← wordInTag)
  return first

/-- Part of an element: an attribute or a child. -/
inductive TagEnd where
  | closed
  | opened

namespace Grammar

variable (g : Grammar)

/-- Braces with an expression, up to the closing brace; `empty` says whether there may be none. -/
def container (empty : Bool) : Parse Node := do
  let start ← here
  expectMark "\x7b"
  if ← isMark "\x7d" then
    faultIf (!empty)
    let stop := (← token).span.stop
    return .mk ⟨start, stop⟩ .container []
  let spread ← eatMark "..."
  let e ← within (fun s => { s with noIn := false, colonAhead := false, inConditional := false })
    g.sequence
  if !(← isMark "\x7d") then failure
  let stop := (← token).span.stop
  return .mk ⟨start, stop⟩ (if spread then .other else .container) [e.node]

/-- The value of an attribute, up to its last character. -/
def attributeValue : Parse Node := do
  let c ← get
  match skipGap .blank false c.token.span.stop c.rest with
  | none => failure
  | some (_, pos, q :: cs) =>
      if q = '"' || q = '\'' then
        match scanUntil q cs with
        | none => failure
        | some found =>
            let stop := pos + found.bytes + 2
            let value := String.ofList (Markup.decodeAttribute found.value)
            moveTo stop (.nextInTag stop (found.rest.drop 1))
            return .mk ⟨pos, stop⟩ (.string (some value)) []
      else
        advanceInTag
        if ← isMark "\x7b" then
          let n ← g.container false
          advanceInTag
          return n
        if ← isMark "<" then
          let n ← g.element
          advanceInTag
          return n
        failure
  | some (_, _, []) => failure

/-- An attribute, or attributes spread from an object. -/
def markupAttribute : Parse Node := do
  let start ← here
  if ← isMark "\x7b" then
    advance
    expectMark "..."
    let e ← g.assignWithIn
    if !(← isMark "\x7d") then failure
    advanceInTag
    node start .other [e.node]
  else
    let name ← attributeName
    if ← isMark "=" then
      let value ← g.attributeValue
      node start (.attr name) [value]
    else node start (.attr name) []

/-- Attributes up to the end of a tag, whose closing sign becomes the current token. -/
def attributes : Parse (List Node × TagEnd) := do
  let ns ← collect (return (← isMark "/") || (← isMark ">")) g.markupAttribute
  if ← isMark "/" then
    advanceInTag
    if ← isMark ">" then return (ns, .closed) else failure
  else return (ns, .opened)

/-- The name in a closing tag, up to its closing sign. A closed fragment has an empty name. -/
def closingName : Parse String := do
  if ← isMark ">" then return ""
  let name ← elementName
  if ← isMark ">" then return name else failure

/-- Children from behind the current token up to the closing tag: the children, and the name in
the closing tag. -/
def children : Parse (List Node × String) := do
  let step (acc : List Node) : Parse (Sum (List Node) (List Node × String)) := do
    let c ← get
    let start := c.token.span.stop
    let found := scanText c.rest
    faultIf (found.value.any fun ch => ch = '>' || ch = '\x7d')
    let stop := start + found.bytes
    let acc := if found.value.isEmpty then acc
      else
        let text : Form := .markupText (String.ofList found.value)
          (String.ofList (Markup.decodeText found.value))
        .mk ⟨start, stop⟩ text [] :: acc
    match found.rest with
    | [] => failure
    | ch :: behind =>
        let mark := if ch = '<' then "<" else "\x7b"
        moveTo stop ⟨⟨.mark mark, ⟨stop, stop + 1⟩, false⟩, ch :: behind, behind⟩
        if ch = '<' then
          let closing ← lookAhead do
            enterTag
            isMark "/"
          if closing then
            enterTag
            advanceInTag
            let name ← closingName
            return .inr (acc.reverse, name)
          let n ← g.element
          return .inl (n :: acc)
        else
          let n ← g.container true
          return .inl (n :: acc)
  iterate step (← get).limit []

/-- An element or a fragment, up to its last closing sign. -/
def markupElement : Parse Node := do
  let start ← here
  enterTag
  let finish (children : List Node) : Parse Node := do
    let stop := (← token).span.stop
    return .mk ⟨start, stop⟩ .other children
  if ← isMark ">" then
    let (cs, name) ← g.children
    faultIf (name != "")
    finish cs
  else
    let name ← elementName
    if (← typed) && (← isMark "<") then
      openAngle
      let step (_ : Unit) : Parse (Sum Unit Unit) := do
        let _ ← g.type
        if ← eatMark "," then return .inl ()
        return .inr ()
      iterate step (← get).limit ()
      let c ← get
      match c.here with
      | '>' :: more =>
          let stop := c.token.span.start + 1
          moveTo stop (.nextInTag stop more)
      | _ => failure
    let (attrs, tagEnd) ← g.attributes
    match tagEnd with
    | .closed => finish attrs
    | .opened =>
        let (cs, closing) ← g.children
        faultIf (name != closing)
        finish (attrs ++ cs)

end Grammar

end Phrasebook.Script

import Phrasebook.Script.Cursor

/-!
What an expression can be reread as.

The target of an assignment and the head of an arrow function are first read as expressions. An
expression therefore carries its shape, from which it follows whether it can stand on the left of
an assignment, inside a pattern, or as a parameter.
-/

namespace Phrasebook.Script

inductive Shape where
  | name (text : String)
  /-- An object literal: whether it can be assigned to, and whether it can bind parameters. -/
  | object (assignable bindable : Bool)
  | array (assignable bindable : Bool)
  /-- A plain assignment: whether it can be a parameter with a default. -/
  | assignment (bindable : Bool)
  | member
  | optionalMember
  | optionalCall
  | call
  | construction
  | literal
  | function
  | classLiteral
  | template
  | arrow
  | logical
  | binary
  /-- A prefix operator or an awaited value, which cannot be the base of a power. -/
  | prefixed
  | paren (inner : Shape)
  | asserted (inner : Shape)
  | nonNull (inner : Shape)
  | other
deriving DecidableEq, Repr

namespace Shape

/-- Whether a value can be assigned to the expression itself. -/
def isTarget : Shape → Bool
  | name text => !Parse.isRestrictedName text
  | member => true
  | paren inner => inner.isTarget
  | asserted inner => inner.isTarget
  | nonNull inner => inner.isTarget
  | _ => false

/-- Whether the expression can stand inside a pattern that is assigned to. -/
def isElement : Shape → Bool
  | object assignable _ => assignable
  | array assignable _ => assignable
  | assignment _ => true
  | shape => shape.isTarget

/-- Whether the expression can be reread as a parameter. -/
def isParameter : Shape → Bool
  | name text => !Parse.isRestrictedName text
  | object _ bindable => bindable
  | array _ bindable => bindable
  | assignment bindable => bindable
  | _ => false

def isAssignment : Shape → Bool
  | assignment _ => true
  | _ => false

def isArrow : Shape → Bool
  | arrow => true
  | _ => false

def isOptional : Shape → Bool
  | optionalMember => true
  | optionalCall => true
  | nonNull inner => inner.isOptional
  | _ => false

/-- Whether typed code complains about an assignment to something that is no target. -/
def isDenied (denyCall : Bool) : Shape → Bool
  | literal => false
  | call => denyCall
  | binary => false
  | logical => false
  | paren inner => inner.isDenied denyCall
  | _ => true

end Shape

/-- An expression with what is known about it. -/
structure Expr where
  node : Node
  shape : Shape
  /-- Holds an object with a default for a shorthand property, which only a pattern may have. -/
  loose : Bool := false
  /-- The same once the expression itself has been reread as a pattern. -/
  looseAsTarget : Bool := false

namespace Parse

/-- An expression from `start` on with nothing loose in it. -/
def expr (start : Nat) (form : Form) (children : List Node) (shape : Shape) : Parse Expr := do
  return { node := ← node start form children, shape }

/-- An expression made of others. -/
def compound (start : Nat) (form : Form) (parts : List Expr) (shape : Shape) : Parse Expr := do
  let loose := parts.any Expr.loose
  return { node := ← node start form (parts.map Expr.node), shape, loose, looseAsTarget := loose }

/-- Complains about an object that should have become a pattern. -/
def verify (e : Expr) : Parse Unit := faultIf e.loose

/-- Checks the operand of an increment, or the left side of an assignment. -/
def checkTarget (shape : Shape) (denyCall : Bool) : Parse Unit := do
  if ← typed then
    match shape with
    | .name text => faultIf (isRestrictedName text)
    | _ => faultIf (!shape.isTarget && shape.isDenied denyCall)
  else faultIf (!shape.isTarget)

/-- Checks the left side of a plain assignment. -/
def checkAssignable (shape : Shape) : Parse Unit := do
  match shape with
  | .object assignable _ => faultIf (!assignable)
  | .array assignable _ => faultIf (!assignable)
  | _ =>
      checkTarget shape true
      match shape with
      | .name _ | .member | .optionalMember | .optionalCall | .paren _ | .asserted _
      | .nonNull _ => pure ()
      | _ => failure

end Parse

/-- What a bound target is made of. -/
inductive TargetKind where
  | name
  | object
  | array
deriving DecidableEq

/-- A name or pattern that is bound. -/
structure Target where
  node : Node
  kind : TargetKind

/-- The parts of the grammar that refer to each other. -/
structure Grammar where
  /-- An expression without commas. -/
  assign : Parse Expr
  /-- An operand of a binary operator. -/
  unary : Parse Expr
  /-- The operand of `new`, or what a call chain starts with. -/
  chainHead : Parse Expr
  /-- A chain of calls and selections. -/
  callChain : Parse Expr
  /-- A name with calls and selections behind it, but no index. -/
  selection : Parse Expr
  /-- A statement; the flag says whether declarations are allowed. -/
  statement : Bool → Parse Node
  /-- A statement, an import or an export. -/
  item : Parse Node
  /-- A name or pattern that is bound; the flag bars the name `let`. -/
  target : Bool → Parse Target
  /-- A type; the answer says whether it is an array or a tuple. -/
  type : Parse Bool
  /-- A type that is no conditional type. -/
  plainType : Parse Bool
  /-- A type that is neither a union nor an intersection. -/
  prefixType : Parse Bool
  /-- Markup, up to the sign that closes its last tag. -/
  element : Parse Node

namespace Grammar

/-- The grammar that reads nothing. -/
def empty : Grammar where
  assign := failure
  unary := failure
  chainHead := failure
  callChain := failure
  selection := failure
  statement := fun _ => failure
  item := failure
  target := fun _ => failure
  type := failure
  plainType := failure
  prefixType := failure
  element := failure

variable (g : Grammar)

/-- An expression in which the operator `in` has its meaning. -/
def assignWithIn : Parse Expr := Parse.within (fun s => { s with noIn := false }) g.assign

/-- Expressions with commas between them. -/
def sequence : Parse Expr := do
  let start ← Parse.here
  let first ← g.assign
  if ← Parse.isMark "," then
    let rest ← Parse.collect (return !(← Parse.isMark ",")) (do Parse.advance; g.assign)
    Parse.compound start .other (first :: rest) .other
  else return first

def sequenceWithIn : Parse Expr := Parse.within (fun s => { s with noIn := false }) g.sequence

end Grammar

end Phrasebook.Script

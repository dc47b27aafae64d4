import Phrasebook.Source.Span

/-!
The tree of a module, as far as a migration looks at it.

Every node has the span of its text, a form and its children in the order in which they are
visited. Nodes that play no part of their own have the form `other`.
-/

namespace Phrasebook.Script

open Source (Span)

/-- The string behind `from`: its value, if that is a text, and the quote it is written with. -/
structure ModuleName where
  value : Option String
  quote : Char
deriving DecidableEq, Repr

inductive Form where
  /-- A name used as an expression. -/
  | identifier (name : String)
  /-- A name bound by a pattern. -/
  | binding (name : String)
  /-- A string literal; no value if it holds half a surrogate pair. -/
  | string (value : Option String)
  /-- Parentheses around one expression. -/
  | paren
  /-- The test and the two branches of a conditional expression. -/
  | conditional
  /-- An object and what is selected from it, with the name if it is selected by a name. -/
  | member (property : Option String)
  /-- Parameters and body of an arrow function; the body is a block or an expression. -/
  | arrow
  /-- A function declaration, or the function of a default export: parameters, then the body. -/
  | function (name : Option String)
  /-- Any other function. -/
  | functionLiteral
  /-- A class declaration, or the class of a default export: members, then the heritage. -/
  | classDeclaration (name : Option String)
  | classLiteral
  /-- A declaration that only typed code has: an interface, an alias, an enumeration, a namespace,
  or an import with an equals sign. -/
  | typeDeclaration (name : String)
  /-- The expression that a class extends. -/
  | heritage
  /-- Statements in braces. -/
  | block
  /-- A statement that is nothing but a string. -/
  | directive
  /-- A statement that declares variables. -/
  | variableList
  /-- The target of a declaration, and its initial value if there is one. -/
  | declarator
  /-- The default export of an expression, a function or a class. -/
  | exportDefault
  /-- An exported declaration. -/
  | exportDeclaration
  /-- An import with the names it binds. -/
  | importFrom (source : ModuleName) (names : List String)
  /-- A re-export from another module. -/
  | exportFrom (source : ModuleName)
  /-- Text between tags, as written and with its references resolved. -/
  | markupText (raw value : String)
  /-- Braces in markup, with the expression inside if there is one. -/
  | container
  /-- An attribute, with its value if it has one. -/
  | attr (name : String)
  | other
deriving DecidableEq, Repr

inductive Node where
  | mk (span : Span) (form : Form) (children : List Node)
deriving Repr

namespace Node

def span : Node → Span
  | mk s _ _ => s

def form : Node → Form
  | mk _ f _ => f

def children : Node → List Node
  | mk _ _ cs => cs

end Node

instance : Inhabited Node := ⟨.mk ⟨0, 0⟩ .other []⟩

mutual

def Node.decEq : (a b : Node) → Decidable (a = b)
  | .mk s f cs, .mk t g ds =>
      if hspan : s = t then
        if hform : f = g then
          match decEqAll cs ds with
          | .isTrue hchildren => .isTrue (by rw [hspan, hform, hchildren])
          | .isFalse hchildren => .isFalse fun h => hchildren (by injection h)
        else .isFalse fun h => hform (by injection h)
      else .isFalse fun h => hspan (by injection h)

def decEqAll : (as bs : List Node) → Decidable (as = bs)
  | [], [] => .isTrue rfl
  | [], _ :: _ => .isFalse (by simp)
  | _ :: _, [] => .isFalse (by simp)
  | a :: as, b :: bs =>
      match a.decEq b, decEqAll as bs with
      | .isTrue hhead, .isTrue htail => .isTrue (by rw [hhead, htail])
      | .isFalse hhead, _ => .isFalse fun h => hhead (by injection h)
      | _, .isFalse htail => .isFalse fun h => htail (by injection h)

end

instance : DecidableEq Node := Node.decEq

mutual

/-- The node and everything below it, each node before its children. -/
def Node.preorder : Node → List Node
  | .mk span form children => .mk span form children :: preorderAll children

/-- The nodes of a list of trees, one tree after the other. -/
def preorderAll : List Node → List Node
  | [] => []
  | n :: ns => n.preorder ++ preorderAll ns

end

/-- A module: the span from its first to its last token, and its items. -/
structure Module where
  span : Span
  items : List Node
deriving DecidableEq, Repr

/-- All nodes of a module in the order in which they are visited. -/
def Module.nodes (m : Module) : List Node := preorderAll m.items

/-- The expression inside any number of parentheses. -/
def Node.unparen : Node → Node
  | .mk _ .paren [inner] => inner.unparen
  | n => n

/-- The body of a function, if it has one. -/
def Node.body? (n : Node) : Option Node :=
  n.children.getLast?.filter fun last => last.form = .block

end Phrasebook.Script

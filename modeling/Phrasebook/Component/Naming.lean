import Phrasebook.Component.Options
import Phrasebook.Script.Tree
import Phrasebook.Text.Phrase

/-!
The name of the component that a module defines, and whether it is a class.

Four rules are tried in order, and the first that finds a name decides.
-/

namespace Phrasebook.Component

open Script

/-- The component of a file. -/
structure Identity where
  /-- The first segment of every key; empty when no rule found a name. -/
  name : String := ""
  isClass : Bool := false
deriving DecidableEq, Repr

def Identity.hasName (c : Identity) : Bool := c.name != ""

/-- Whether an expression names one of the base classes, directly, as a member, or as what a
member is taken from. -/
def isBaseClass (options : Options) (parent : Node) : Bool :=
  let known (name : String) : Bool := options.componentBaseClasses.contains name
  match parent with
  | .mk _ (.identifier name) _ => known name
  | .mk _ (.member property) (object :: _) =>
      let byObject := match object.form with
        | .identifier name => known name
        | _ => false
      (property.map known).getD false || byObject
  | _ => false

/-- The expression a class extends. -/
def superclass? (n : Node) : Option Node :=
  n.children.findSome? fun child =>
    match child with
    | .mk _ .heritage [parent] => some parent
    | _ => none

/-- The name of a class declaration that extends a base class. -/
def componentClass? (options : Options) (n : Node) : Option String :=
  match n.form with
  | .classDeclaration (some name) =>
      match superclass? n with
      | some parent => if isBaseClass options parent then some name else none
      | none => none
  | _ => none

/-- A class that extends a base class, anywhere in the module. -/
def className? (options : Options) (m : Module) : Option String :=
  m.nodes.findSome? (componentClass? options)

/-- What a default export exports, looked at through parentheses. -/
def exportedName? (item : Node) : Option String :=
  match item with
  | .mk _ .exportDefault [value] =>
      match value.unparen.form with
      | .identifier name => some name
      | .function name => name
      | _ => none
  | _ => none

/-- A name or a named function that is the default export. -/
def defaultExportName? (_ : Options) (m : Module) : Option String :=
  m.items.findSome? exportedName?

/-- The name of a variable whose value is an arrow function. -/
def arrowName? (declarator : Node) : Option String :=
  match declarator with
  | .mk _ .declarator [.mk _ (.binding name) _, value] =>
      if value.form = .arrow && Text.startsUppercase name then some name else none
  | _ => none

/-- An arrow function bound to a name with a capital letter, by a statement of the module. -/
def topLevelArrowName? (_ : Options) (m : Module) : Option String :=
  m.items.findSome? fun item =>
    match item.form with
    | .variableList => item.children.findSome? arrowName?
    | _ => none

/-- A function with a capital letter, declared by a statement of the module. -/
def topLevelFunctionName? (_ : Options) (m : Module) : Option String :=
  m.items.findSome? fun item =>
    match item.form with
    | .function (some name) => if Text.startsUppercase name then some name else none
    | _ => none

/-- A way to find the name of a component. -/
structure NameRule where
  label : String
  /-- Whether the component it finds is a class. -/
  findsClass : Bool
  name? : Options → Module → Option String

/-- The component that a rule finds. -/
def NameRule.component? (rule : NameRule) (options : Options) (m : Module) : Option Identity :=
  (rule.name? options m).map fun name => ⟨name, rule.findsClass⟩

/-- The rules in the order in which they are tried. -/
def nameRules : List NameRule :=
  [⟨"class component", true, className?⟩,
   ⟨"default export", false, defaultExportName?⟩,
   ⟨"top-level arrow function", false, topLevelArrowName?⟩,
   ⟨"top-level function", false, topLevelFunctionName?⟩]

/-- The component of a module; it has no name if no rule finds one. -/
def classify (options : Options) (m : Module) : Identity :=
  (nameRules.findSome? fun rule => rule.component? options m).getD {}

end Phrasebook.Component

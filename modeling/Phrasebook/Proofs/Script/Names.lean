import Phrasebook.Proofs.Script.Layout
import Phrasebook.Script.Token

/-!
The names that a module binds, and what becomes of them when parts of its text are exchanged.

A module binds names by its imports and declarations. What stands in a function, a class or a block
binds no name of the module, and neither does an expression. So the names stay as long as the items
do, whatever happens to the texts in them. An export that gets a call around it is another matter:
its own name is lost, and if the call is taken to go on, so is what stands behind it.
-/

namespace Phrasebook.Script

open Source (slice?)

mutual

/-- The names that a pattern binds. Default values and computed keys are expressions: names are
bound in them only further down, in a function or a class. -/
def Node.patternNames : Node → List String
  | .mk _ (.binding name) _ => [name]
  | .mk _ .other children => patternNamesAll children
  | _ => []

def patternNamesAll : List Node → List String
  | [] => []
  | n :: ns => n.patternNames ++ patternNamesAll ns

end

def Node.declaratorNames : Node → List String
  | .mk _ .declarator (target :: _) => target.patternNames
  | _ => []

/-- The name of a declaration, or of a function or a class that is exported by default. -/
def Form.ownName? : Form → Option String
  | .function name? => name?
  | .classDeclaration name? => name?
  | .typeDeclaration name => some name
  | _ => none

/-- The names that a declaration binds. One of resources has no form of its own. -/
def Node.declaredNames : Node → List String
  | .mk _ .variableList children => children.flatMap declaratorNames
  | .mk _ .other children => children.flatMap declaratorNames
  | n => n.form.ownName?.toList

/-- The names that an item binds in its module. -/
def Node.itemNames : Node → List String
  | .mk _ (.importFrom _ names) _ => names
  | .mk _ .exportDeclaration children => children.flatMap declaredNames
  | .mk _ .exportDefault children => children.flatMap (·.form.ownName?.toList)
  | n => n.declaredNames

/-- The forms whose children bind no names outside of them. -/
def Form.isScope : Form → Bool
  | .arrow => true
  | .function _ => true
  | .functionLiteral => true
  | .classDeclaration _ => true
  | .classLiteral => true
  | .block => true
  | _ => false

/-- What nodes are read as once parts of their text have been exchanged: anything can stand in the
place of a token and inside a scope, and all else keeps its form. -/
inductive Revised : List Node → List Node → Prop
  | nil : Revised [] []
  | same {s t : Source.Span} {form : Form} {children children' ns ns' : List Node}
      (hchildren : Revised children children') (hrest : Revised ns ns') :
      Revised (.mk s form children :: ns) (.mk t form children' :: ns')
  | token {n : Node} {ns ns' : List Node} (parts : List Node) (htoken : n.form.isToken = true)
      (hrest : Revised ns ns') : Revised (n :: ns) (parts ++ ns')
  | scope {s t : Source.Span} {form : Form} {children children' ns ns' : List Node}
      (hscope : form.isScope = true) (hrest : Revised ns ns') :
      Revised (.mk s form children :: ns) (.mk t form children' :: ns')

mutual

theorem Node.revised_refl : (n : Node) → {ns ns' : List Node} → Revised ns ns' →
    Revised (n :: ns) (n :: ns')
  | .mk _ _ children, _, _, h => .same (revised_refl children) h

theorem revised_refl : (ns : List Node) → Revised ns ns
  | [] => .nil
  | n :: ns => n.revised_refl (revised_refl ns)

end

/-- An item that exports a value by default. -/
def Node.ExportsDefault (n : Node) : Prop := ∃ span value, n = .mk span .exportDefault [value]

def Node.StartsWith (source : List Char) (sign : String) (n : Node) : Prop :=
  ∃ text, slice? source n.span = some (sign.toList ++ text)

def Node.StartsWithWord (source : List Char) (word : String) (n : Node) : Prop :=
  ∃ text found, slice? source n.span = some text ∧ scanWord (.plain true) text = some found ∧
    found.value.1 = word.toList

/-- No line ends between an item and the next one. -/
def Node.SameLine (source : List Char) (item next : Node) : Prop :=
  ∃ gap, slice? source ⟨item.span.stop, next.span.start⟩ = some gap ∧
    ∀ c ∈ gap, isLineEnd c = false

/-- What an item starts with becomes an operator if there is a call in the export in front of it,
and what follows is then read as other tokens. The export must not end with a semicolon. Some of
the operators, most of them of typed code, have to stand in the line in which it ends. -/
structure Node.Continues (source : List Char) (item next : Node) : Prop where
  isOpen : ∀ value ∈ item.children, value.span.stop = item.span.stop
  operator : (∃ sign ∈ ["<", "/"], next.StartsWith source sign) ∨
    item.SameLine source next ∧ ((∃ sign ∈ ["!", "++", "--"], next.StartsWith source sign) ∨
      ∃ word ∈ ["as", "satisfies"], next.StartsWithWord source word)

/-- The first default export among some items, and the items behind it. -/
def FirstExport (items : List Node) (item : Node) (rest : List Node) : Prop :=
  ∃ front, items = front ++ item :: rest ∧ item.ExportsDefault ∧ ∀ n ∈ front, ¬ n.ExportsDefault

theorem FirstExport.cons {items rest : List Node} {item n : Node}
    (h : FirstExport items item rest) (hn : ¬ n.ExportsDefault) :
    FirstExport (n :: items) item rest := by
  obtain ⟨front, rfl, hitem, hfront⟩ := h
  exact ⟨n :: front, rfl, hitem, List.forall_mem_cons.mpr ⟨hn, hfront⟩⟩

/-- The names that a call around the first default export may cost a module: that of the export
itself, and those behind it if they are read otherwise. -/
inductive AtRisk (source : List Char) (items : List Node) (name : String) : Prop
  | own {item : Node} {rest : List Node} (hexport : FirstExport items item rest)
      (hname : name ∈ item.itemNames)
  | behind {item next : Node} {rest : List Node} (hexport : FirstExport items item (next :: rest))
      (hnext : item.Continues source next) (hname : name ∈ (next :: rest).flatMap Node.itemNames)

theorem AtRisk.cons {source : List Char} {items : List Node} {name : String}
    (h : AtRisk source items name) {n : Node} (hn : ¬ n.ExportsDefault) :
    AtRisk source (n :: items) name := by
  cases h with
  | own hexport hname => exact .own (hexport.cons hn) hname
  | behind hexport hnext hname => exact .behind (hexport.cons hn) hnext hname

end Phrasebook.Script

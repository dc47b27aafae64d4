import Phrasebook.Component.Naming
import Phrasebook.Source.Edit

/-!
Giving a component access to the lookup function.

A function component calls a hook in its first statement, and the default export of a class
component is wrapped. In both cases the integration module is imported at the top of the file.
-/

namespace Phrasebook.Component

open Script
open Source (Edit Span)

/-- What became of the access to the lookup function. -/
inductive Access where
  /-- The file looks nothing up. -/
  | notNeeded
  | injected
  /-- Nothing in the file can hold it. -/
  | missing
deriving DecidableEq, Repr

/-- What the generated code names, and how it quotes. -/
structure Target where
  namespaceName : String
  quote : Char

/-- One step of indentation. -/
def indentStep : String := "    "

/-- The inside of a string literal: the quote and the backslash are escaped. -/
def escapeQuote (quote : Char) : List Char → List Char
  | [] => []
  | c :: cs =>
      if c = quote || c = '\\' then '\\' :: c :: escapeQuote quote cs
      else c :: escapeQuote quote cs

/-- A string literal with the given value. -/
def quoted (quote : Char) (value : String) : String :=
  String.ofList (quote :: escapeQuote quote value.toList ++ [quote])

/-- The statement that makes the lookup function known in a function. -/
def hookStatement (t : Target) : String :=
  "const \x7b " ++ lookupName ++ " \x7d = " ++ hookName ++ "(" ++ quoted t.quote t.namespaceName
    ++ ");"

/-- The statement that imports what the component needs. -/
def importStatement (options : Options) (c : Identity) (t : Target) : String :=
  "import \x7b " ++ (if c.isClass then wrapperName else hookName) ++ " \x7d from "
    ++ quoted t.quote options.i18nModule ++ ";"

/-- What can hold the call of the hook. -/
inductive Host where
  /-- A function with statements. -/
  | block (body : Node)
  /-- An arrow function with an expression. -/
  | expression (arrow body : Node)

/-- The host that a value bound to a name is. -/
def arrowHost? (value : Node) : Option Host :=
  match value.unparen with
  | .mk span .arrow children =>
      children.getLast?.map fun body =>
        if body.form = .block then .block body else .expression (.mk span .arrow children) body
  | _ => none

/-- The host of the given name that a node is. -/
def host? (name : String) (n : Node) : Option Host :=
  match n with
  | .mk span (.function (some own)) children =>
      if own = name then
        (Node.body? (.mk span (.function (some own)) children)).map Host.block
      else none
  | .mk _ .declarator [.mk _ (.binding own) _, value] =>
      if own = name then arrowHost? value else none
  | _ => none

/-- The first item or statement that is not a directive. -/
def firstStatement? (nodes : List Node) : Option Node := nodes.find? fun n => n.form != .directive

/-- The indentation of the line at an offset. -/
def indentAt (source : List Char) (offset : Nat) : String :=
  String.ofList (Source.lineIndent source offset)

/-- The edits that put the hook into a host. -/
def hookEdits (source : List Char) (t : Target) : Host → List Edit
  | .block body =>
      match firstStatement? body.children with
      | some first =>
          let offset := first.span.start
          [.insert offset (hookStatement t ++ "\n" ++ indentAt source offset)]
      | none =>
          let indent := indentAt source body.span.start
          [.insert (body.span.stop - 1)
            ("\n" ++ indent ++ indentStep ++ hookStatement t ++ "\n" ++ indent)]
  | .expression arrow body =>
      let indent := indentAt source arrow.span.start
      Edit.wrap body.span
        ("\x7b\n" ++ indent ++ indentStep ++ hookStatement t ++ "\n" ++ indent ++ indentStep
          ++ "return ")
        (";\n" ++ indent ++ "\x7d")

/-- The span of the expression, function or class that an item exports by default. -/
def defaultExportSpan? (item : Node) : Option Span :=
  match item with
  | .mk _ .exportDefault [value] => some value.span
  | _ => none

/-- The edits that wrap a default export. -/
def wrapEdits (t : Target) (span : Span) : List Edit :=
  Edit.wrap span (wrapperName ++ "(" ++ quoted t.quote t.namespaceName ++ ")(") ")"

/-- The edits that give the component its accessor, if the module has a place for it. -/
def accessorEdits? (source : List Char) (c : Identity) (t : Target) (m : Module) :
    Option (List Edit) :=
  if c.isClass then (m.items.findSome? defaultExportSpan?).map (wrapEdits t)
  else if c.hasName then (m.nodes.findSome? (host? c.name)).map (hookEdits source t)
  else none

/-- The edit that imports the integration module: before the first item that is no directive, or
behind the directives if there is nothing else. -/
def importEdit (options : Options) (c : Identity) (t : Target) (m : Module) : Edit :=
  match firstStatement? m.items with
  | some first => .insert first.span.start (importStatement options c t ++ "\n")
  | none => .insert m.span.stop ("\n" ++ importStatement options c t)

/-- What gives a file with lookups access to the lookup function. The import is added even if
nothing can hold the accessor. -/
def access (options : Options) (source : List Char) (c : Identity) (t : Target) (m : Module)
    (needed : Bool) : Access × List Edit :=
  if needed then
    let import? := importEdit options c t m
    match accessorEdits? source c t m with
    | some edits => (.injected, edits ++ [import?])
    | none => (.missing, [import?])
  else (.notNeeded, [])

end Phrasebook.Component

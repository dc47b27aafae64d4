import Phrasebook.Catalog.Entry
import Phrasebook.Component.Naming
import Phrasebook.Markup.Attribute
import Phrasebook.Slug.Basic
import Phrasebook.Source.Edit

/-!
The texts of a module that readers see, and the lookups that take their place.

Text stands in three places: between tags, in a branch of a conditional that is directly in braces,
and in the value of an attribute. Each text found gives one entry of the catalog and one edit, and
both carry the same key.
-/

namespace Phrasebook.Component

open Script
open Source (Edit Span)
open Catalog (Entry)

/-- A text that was found: where it stands, what it says, and whether the lookup that replaces it
has to stand in braces. -/
structure Literal where
  span : Span
  text : String
  braced : Bool
deriving DecidableEq, Repr

/-- A text without its surrounding white space. -/
def trimmed (s : String) : String := String.ofList (Text.trim s.toList)

/-- The span of a text without its surrounding white space; `start` is where the text starts. -/
def trimmedSpan (start : Nat) (text : List Char) : Span :=
  ⟨start + (Text.byteLength text - Text.byteLength (Text.trimStart text)),
   start + Text.byteLength (Text.trimEnd text)⟩

/-- Text between tags counts if it holds a letter as it is written. -/
def markupLiteral (span : Span) (raw value : String) : List Literal :=
  if Text.containsAlphabetic (trimmed raw) then
    [⟨trimmedSpan span.start raw.toList, trimmed value, true⟩]
  else []

/-- A branch of a conditional counts if it is a string that reads like a phrase. -/
def branchLiteral (branch : Node) : List Literal :=
  match branch.unparen with
  | .mk span (.string (some value)) _ =>
      if Text.isPhrase value then [⟨span, trimmed value, false⟩] else []
  | _ => []

/-- The branches of a conditional in braces. -/
def containerLiterals (inner : Node) : List Literal :=
  match inner.unparen with
  | .mk _ .conditional [_, yes, no] => branchLiteral yes ++ branchLiteral no
  | _ => []

/-- Whether the value of an attribute is text. -/
def isAttributeText (options : Options) (name value : String) : Bool :=
  if options.translatableAttributes.contains name then !(trimmed value).isEmpty
  else !Markup.isKnownAttribute name && Text.isPhrase value

/-- The texts that stand at a node itself. -/
def nodeLiterals (options : Options) (n : Node) : List Literal :=
  match n with
  | .mk span (.markupText raw value) _ => markupLiteral span raw value
  | .mk _ .container [inner] => containerLiterals inner
  | .mk _ (.attr name) [.mk span (.string (some value)) _] =>
      if isAttributeText options name value then [⟨span, trimmed value, true⟩] else []
  | _ => []

/-- The texts of a module in the order in which they are visited. A text without a word has no key
and is left alone. -/
def literals (options : Options) (m : Module) : List Literal :=
  (m.nodes.flatMap (nodeLiterals options)).filter fun l => slugify l.text != ""

/-- The entry that a text gives. -/
def Literal.entry (l : Literal) (c : Identity) : Entry := ⟨c.name, slugify l.text, l.text⟩

/-- The call that looks a key up. -/
def lookupCall (c : Identity) (key : String) : String :=
  (if c.isClass then "this.props." else "") ++ lookupName ++ "('" ++ key ++ "')"

/-- The edit that puts a lookup in place of a text. -/
def Literal.edit (l : Literal) (c : Identity) : Edit :=
  let call := lookupCall c (l.entry c).key
  ⟨l.span, if l.braced then "\x7b" ++ call ++ "\x7d" else call⟩

end Phrasebook.Component

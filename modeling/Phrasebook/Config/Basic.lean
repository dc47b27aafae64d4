import Phrasebook.Component.Options
import Phrasebook.Glob.Pattern
import Phrasebook.Json.Printer
import Phrasebook.Text.Class

/-!
The configuration of a project.
-/

namespace Phrasebook

structure Config extends Component.Options where
  /-- The directory whose subdirectories are the namespaces. -/
  componentsRoot : String := "./src/components"
  /-- The directory that holds a directory of catalogs for each locale. -/
  localesRoot : String := "./public/static/locales"
  baseLocale : String := "en"
  /-- The locales whose catalogs are derived from the base locale. -/
  mockLocales : List String := ["de"]
  /-- The namespaces to work on; all if there is none. -/
  only : List String := []
  extensions : List String := ["js", "jsx", "ts", "tsx"]
  ignores : List String := []
deriving DecidableEq, Repr

namespace Config

/-- Why a configuration is refused. -/
inductive Invalid where
  | pattern (text : String) (cause : Glob.PatternError)
  | emptyBaseLocale
  | emptyMockLocale
  | baseIsMock (locale : String)
  | noExtension
deriving DecidableEq, Repr

def Invalid.message : Invalid → String
  | .pattern text cause => "Invalid glob pattern in 'ignores': \"" ++ text ++ "\": " ++ cause.message
  | .emptyBaseLocale => "'baseLocale' must not be empty"
  | .emptyMockLocale => "'mockLocales' must not contain empty locale names"
  | .baseIsMock locale => "'mockLocales' must not contain the base locale \"" ++ locale ++ "\""
  | .noExtension => "'extensions' must list at least one file extension"

/-- The first entry that is no pattern. -/
def badPattern? (patterns : List String) : Option Invalid :=
  patterns.findSome? fun p =>
    match Glob.parse p with
    | .ok _ => none
    | .error cause => some (.pattern p cause)

def isBlankName (name : String) : Bool := (Text.trim name.toList).isEmpty

/-- The first thing that is wrong with a configuration. -/
def invalid? (c : Config) : Option Invalid :=
  match badPattern? c.ignores with
  | some e => some e
  | none =>
      if isBlankName c.baseLocale then some .emptyBaseLocale
      else if c.mockLocales.any isBlankName then some .emptyMockLocale
      else if c.mockLocales.contains c.baseLocale then some (.baseIsMock c.baseLocale)
      else if c.extensions.isEmpty then some .noExtension
      else none

/-- The fields in the order in which they are written. -/
def toFields (c : Config) : Json.Fields :=
  let texts (xs : List String) : Json.Value := .array (xs.map .string)
  [("componentsRoot", .string c.componentsRoot), ("localesRoot", .string c.localesRoot),
   ("baseLocale", .string c.baseLocale), ("mockLocales", texts c.mockLocales),
   ("only", texts c.only), ("extensions", texts c.extensions), ("ignores", texts c.ignores),
   ("frameworkModule", .string c.frameworkModule), ("i18nModule", .string c.i18nModule),
   ("translatableAttributes", texts c.translatableAttributes),
   ("componentBaseClasses", texts c.componentBaseClasses)]

/-- The text of a configuration file that says what holds without one. -/
def defaultText : String := (Json.Value.object ({} : Config).toFields).indented 2

end Config

end Phrasebook

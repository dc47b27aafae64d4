import Phrasebook.Catalog.Store
import Phrasebook.Config.Discovery

/-!
The settings of a run: the configuration of the project, and over it what was asked for.
-/

namespace Phrasebook

/-- What was asked for in place of the configuration. -/
structure Overrides where
  componentsRoot : Option String := none
  localesRoot : Option String := none
  baseLocale : Option String := none
  /-- Nothing is replaced by an empty list. -/
  only : List String := []
  mockLocales : List String := []
  apply : Bool := false
  verbose : Bool := false
deriving DecidableEq, Repr

structure Settings extends Config where
  /-- Whether anything is written. -/
  apply : Bool := false
  verbose : Bool := false
deriving DecidableEq, Repr

/-- A list in place of another, unless it is empty. -/
def Overrides.choose (given default : List String) : List String :=
  if given.isEmpty then default else given

/-- The configuration with its fields replaced by those that were asked for. -/
def Overrides.effective (o : Overrides) (c : Config) : Config :=
  { c with
    componentsRoot := o.componentsRoot.getD c.componentsRoot
    localesRoot := o.localesRoot.getD c.localesRoot
    baseLocale := o.baseLocale.getD c.baseLocale
    only := choose o.only c.only
    mockLocales := choose o.mockLocales c.mockLocales }

namespace Settings

/-- A configured path, taken from the directory where the search for the configuration began. -/
def placed (start path : String) : String :=
  if Path.isAbsolute path || Path.parts start = [.here] then path
  else Path.join start (Path.withoutHere path)

/-- The settings of an accepted configuration. -/
def ofConfig (start : String) (o : Overrides) (c : Config) : Settings :=
  { c with
    componentsRoot := placed start c.componentsRoot
    localesRoot := placed start c.localesRoot
    apply := o.apply
    verbose := o.verbose }

/-- The settings for a directory. -/
def load (w : Workspace) (start : String) (o : Overrides) : Except Config.LoadError Settings :=
  match Config.load w start with
  | .error e => .error e
  | .ok loaded => (Config.checked (o.effective loaded.config)).map (ofConfig start o)

/-- Where the catalogs are. -/
def store (s : Settings) : Catalog.Store := ⟨s.localesRoot, s.baseLocale, s.mockLocales⟩

end Settings

end Phrasebook

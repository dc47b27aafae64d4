import Phrasebook.Component.Options
import Phrasebook.Script.Tree

/-!
Whether a module is a component that was not migrated yet.
-/

namespace Phrasebook.Component

open Script

inductive Eligibility where
  /-- Nothing is taken from the framework. -/
  | notComponent
  /-- The integration module is imported already. -/
  | alreadyMigrated
  /-- A component; `quote` is the quote around the framework's name. -/
  | eligible (quote : Char)
deriving DecidableEq, Repr

/-- The module that an item imports from. -/
def importSource? (item : Node) : Option ModuleName :=
  match item.form with
  | .importFrom source _ => some source
  | _ => none

/-- The module that an item takes something from, be it an import or a re-export. -/
def source? (item : Node) : Option ModuleName :=
  match item.form with
  | .importFrom source _ => some source
  | .exportFrom source => some source
  | _ => none

/-- The quote around the name of a module. Anything but one of the two quotes counts as the double
one. -/
def quoteOf (source : ModuleName) : Char :=
  if source.quote = '\'' || source.quote = '"' then source.quote else '"'

/-- A file that was migrated is never touched again, whatever else it imports. -/
def eligibility (options : Options) (m : Module) : Eligibility :=
  let imports := m.items.filterMap importSource?
  if imports.any fun s => s.value = some options.i18nModule then .alreadyMigrated
  else
    match (m.items.filterMap source?).find? fun s => s.value = some options.frameworkModule with
    | none => .notComponent
    | some source => .eligible (quoteOf source)

end Phrasebook.Component

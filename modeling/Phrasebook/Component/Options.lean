/-!
What a project counts as a component and as text, and the names that a migration puts into code.
-/

namespace Phrasebook.Component

structure Options where
  /-- The module whose import makes a file a component. -/
  frameworkModule : String := "react"
  /-- The module whose import shows that a file was migrated before. -/
  i18nModule : String := "react-i18next"
  /-- Attributes whose value is text even if it is a single word. -/
  translatableAttributes : List String := ["text", "placeholder", "label"]
  /-- The superclasses that make a class a component. -/
  componentBaseClasses : List String := ["PureComponent", "React", "Component"]
deriving DecidableEq, Repr

/-- The function that looks a text up. -/
def lookupName : String := "t"

/-- What a function component calls to get the lookup function. -/
def hookName : String := "useTranslation"

/-- What a class component is wrapped in to get the lookup function. -/
def wrapperName : String := "withTranslation"

end Phrasebook.Component

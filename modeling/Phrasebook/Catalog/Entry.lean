/-!
One extracted text and the key under which a catalog holds it.
-/

namespace Phrasebook.Catalog

structure Entry where
  /-- The name of the component the text stands in; empty if it has none. -/
  component : String
  slug : String
  text : String
deriving DecidableEq, Repr

/-- The key that a lookup names: component and slug with a point between them. -/
def Entry.key (e : Entry) : String := e.component ++ "." ++ e.slug

end Phrasebook.Catalog

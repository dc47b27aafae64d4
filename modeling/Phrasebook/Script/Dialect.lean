import Phrasebook.Path.Basic

/-!
The dialects of the script language, told apart by the extension of a file.
-/

namespace Phrasebook.Script

inductive Dialect where
  /-- JavaScript with markup and decorators. -/
  | jsx
  /-- TypeScript without markup. -/
  | ts
  /-- TypeScript with markup. -/
  | tsx
deriving DecidableEq, Repr

def Dialect.ofPath (path : String) : Dialect :=
  match Path.extension? path with
  | some "ts" => .ts
  | some "tsx" => .tsx
  | _ => .jsx

/-- Whether type annotations are part of the dialect. -/
def Dialect.typed : Dialect → Bool
  | .jsx => false
  | _ => true

/-- Whether markup is part of the dialect. -/
def Dialect.markup : Dialect → Bool
  | .ts => false
  | _ => true

def Dialect.label : Dialect → String
  | .jsx => "jsx"
  | .ts => "ts"
  | .tsx => "tsx"

end Phrasebook.Script

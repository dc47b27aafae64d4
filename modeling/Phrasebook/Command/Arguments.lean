import Phrasebook.Run.Settings

/-!
The words of a command line.

An option takes the value behind its equals sign, or else the next word. That value is only looked
at when the next option is known or the words end, so an unknown word is found first.
-/

namespace Phrasebook.Command

/-- What a command line asks for. -/
inductive Request where
  | migrate (overrides : Overrides)
  | init
deriving DecidableEq, Repr

/-- Why a command line asks for nothing that could be run. -/
inductive Usage where
  | help
  | version
  | unknownCommand
  | unknownArgument
  | invalidValue
  /-- Something is given twice that can be given once. -/
  | repeated
  /-- A value is given to something that takes none. -/
  | unexpectedValue
deriving DecidableEq, Repr

/-- The exit code of a command line that cannot be run. -/
def Usage.exitCode : Usage → Nat
  | .help => 0
  | .version => 0
  | _ => 2

/-- The options that take a value. -/
inductive ValueOption where
  | componentsRoot
  | localesRoot
  | baseLocale
  | only
  | mockLocale
deriving DecidableEq, Repr

inductive Flag where
  | verbose
  | apply
  | help
deriving DecidableEq, Repr

inductive Argument where
  | value (option : ValueOption)
  | flag (flag : Flag)
deriving DecidableEq, Repr

/-- The arguments that a command takes, by their long and short names. -/
structure Known where
  long : String → Option Argument
  short : Char → Option Flag

def migrateArguments : Known where
  long name :=
    match name with
    | "components-root" => some (.value .componentsRoot)
    | "locales-root" => some (.value .localesRoot)
    | "base-locale" => some (.value .baseLocale)
    | "only" => some (.value .only)
    | "mock-locale" => some (.value .mockLocale)
    | "verbose" => some (.flag .verbose)
    | "apply" => some (.flag .apply)
    | "help" => some (.flag .help)
    | _ => none
  short c := if c = 'v' then some .verbose else if c = 'h' then some .help else none

def initArguments : Known where
  long name := if name = "help" then some (.flag .help) else none
  short c := if c = 'h' then some .help else none

/-- Takes a value that can be given once. -/
def takeOnce (old : Option String) (mayBeEmpty : Bool) (value : String) : Except Usage String :=
  if old.isSome then .error .repeated
  else if value.isEmpty && !mayBeEmpty then .error .invalidValue
  else .ok value

/-- Takes the value of an option. -/
def takeValue (o : Overrides) (option : ValueOption) (value : String) : Except Usage Overrides :=
  match option with
  | .componentsRoot =>
      (takeOnce o.componentsRoot false value).map fun v => { o with componentsRoot := some v }
  | .localesRoot => (takeOnce o.localesRoot false value).map fun v => { o with localesRoot := some v }
  | .baseLocale => (takeOnce o.baseLocale true value).map fun v => { o with baseLocale := some v }
  | .only => .ok { o with only := o.only ++ [value] }
  | .mockLocale => .ok { o with mockLocales := o.mockLocales ++ [value] }

def takeFlag (o : Overrides) : Flag → Except Usage Overrides
  | .verbose => if o.verbose then .error .repeated else .ok { o with verbose := true }
  | .apply => if o.apply then .error .repeated else .ok { o with apply := true }
  | .help => .error .help

/-- An option that is not taken yet, with its value if that is known. -/
abbrev Pending := Option (ValueOption × Option String)

/-- Takes the option that was not taken yet. -/
def settle (o : Overrides) : Pending → Except Usage Overrides
  | none => .ok o
  | some (_, none) => .error .invalidValue
  | some (option, some value) => takeValue o option value

/-- The name behind two dashes, and the value behind an equals sign. -/
def splitLong (word : List Char) : String × Option String :=
  let name := word.takeWhile (· ≠ '=')
  (String.ofList name,
    if name.length < word.length then some (String.ofList (word.drop (name.length + 1))) else none)

/-- Takes flags that are given by their letters. -/
def takeLetters (known : Known) (o : Overrides) (pending : Pending) :
    List Char → Except Usage (Overrides × Pending)
  | [] => .ok (o, pending)
  | c :: cs =>
      match known.short c with
      | none => .error .unknownArgument
      | some flag =>
          match settle o pending with
          | .error e => .error e
          | .ok o =>
              match takeFlag o flag with
              | .error e => .error e
              | .ok o => takeLetters known o none cs

/-- Takes a word with two dashes in front. -/
def takeLong (known : Known) (o : Overrides) (pending : Pending) (word : List Char) :
    Except Usage (Overrides × Pending) :=
  let (name, value) := splitLong word
  match known.long name, value with
  | none, _ => .error .unknownArgument
  | some (.flag _), some _ => .error .unexpectedValue
  | some (.flag flag), none =>
      match settle o pending with
      | .error e => .error e
      | .ok o => (takeFlag o flag).map fun o => (o, none)
  | some (.value option), some v =>
      match settle o pending with
      | .error e => .error e
      | .ok o => (takeValue o option v).map fun o => (o, none)
  | some (.value option), none => (settle o pending).map fun o => (o, some (option, none))

/-- Takes a word without a dash, which can only be the value of an option. -/
def takePlain (o : Overrides) (pending : Pending) (word : String) :
    Except Usage (Overrides × Pending) :=
  match pending with
  | some (option, none) => .ok (o, some (option, some word))
  | _ => .error .unknownArgument

/-- Takes one word. -/
def takeWord (known : Known) (o : Overrides) (pending : Pending) (word : String) :
    Except Usage (Overrides × Pending) :=
  match word.toList with
  | '-' :: '-' :: name => takeLong known o pending name
  | '-' :: c :: cs => takeLetters known o pending (c :: cs)
  | _ => takePlain o pending word

/-- Takes the words behind a command. Nothing may follow two dashes alone. -/
def takeWords (known : Known) (o : Overrides) (pending : Pending) :
    List String → Except Usage Overrides
  | [] => settle o pending
  | word :: words =>
      if word = "--" then if words.isEmpty then settle o pending else .error .unknownArgument
      else
        match takeWord known o pending word with
        | .error e => .error e
        | .ok (o, pending) => takeWords known o pending words

/-- The words that can stand first. -/
def commandNames : List String := ["migrate", "init", "help"]

/-- What the words behind `help` come to. -/
def helpUsage : List String → Usage
  | [] => .help
  | [name] => if commandNames.contains name then .help else .unknownCommand
  | _ => .unknownCommand

/-- What a first word with two dashes comes to. -/
def longUsage (word : List Char) : Usage :=
  let (name, value) := splitLong word
  if name = "help" || name = "version" then
    if value.isSome then .unexpectedValue else if name = "help" then .help else .version
  else .unknownArgument

/-- What a first word with one dash comes to. -/
def letterUsage (c : Char) : Usage :=
  if c = 'h' then .help else if c = 'V' then .version else .unknownArgument

/-- What a first word that is no command comes to. -/
def strayUsage (word : String) : Usage :=
  match word.toList with
  | '-' :: '-' :: name => longUsage name
  | '-' :: c :: _ => letterUsage c
  | _ => .unknownCommand

/-- Reads a command line. Without a command it asks for nothing. -/
def parse : List String → Except Usage (Option Request)
  | [] => .ok none
  | "migrate" :: words => (takeWords migrateArguments {} none words).map fun o => some (.migrate o)
  | "init" :: words => (takeWords initArguments {} none words).map fun _ => some .init
  | "help" :: words => .error (helpUsage words)
  | ["--"] => .ok none
  | "--" :: word :: _ =>
      .error (if commandNames.contains word then .unknownArgument else .unknownCommand)
  | word :: _ => .error (strayUsage word)

end Phrasebook.Command

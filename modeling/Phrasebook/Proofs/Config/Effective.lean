import Phrasebook.Proofs.Config.Discovery
import Phrasebook.Proofs.Json.Reading

/-!
Which configuration a run works with.

The fields of a configuration have three sources: what was asked for, the configuration file and the
default configuration. What a source gives is a record of the fields that it has, and sources are
laid one over another. A file is judged with the default configuration below it, before anything is
laid over it, and once more with what was asked for.
-/

namespace Phrasebook

namespace Config

/-- Some of the fields of a configuration. -/
structure Given where
  componentsRoot : Option String := none
  localesRoot : Option String := none
  baseLocale : Option String := none
  mockLocales : Option (List String) := none
  only : Option (List String) := none
  extensions : Option (List String) := none
  ignores : Option (List String) := none
  frameworkModule : Option String := none
  i18nModule : Option String := none
  translatableAttributes : Option (List String) := none
  componentBaseClasses : Option (List String) := none
deriving DecidableEq, Repr

namespace Given

/-- A configuration with the fields that are given in place of its own. -/
def onto (g : Given) (c : Config) : Config where
  componentsRoot := g.componentsRoot.getD c.componentsRoot
  localesRoot := g.localesRoot.getD c.localesRoot
  baseLocale := g.baseLocale.getD c.baseLocale
  mockLocales := g.mockLocales.getD c.mockLocales
  only := g.only.getD c.only
  extensions := g.extensions.getD c.extensions
  ignores := g.ignores.getD c.ignores
  frameworkModule := g.frameworkModule.getD c.frameworkModule
  i18nModule := g.i18nModule.getD c.i18nModule
  translatableAttributes := g.translatableAttributes.getD c.translatableAttributes
  componentBaseClasses := g.componentBaseClasses.getD c.componentBaseClasses

/-- Each field from the first of two sources that has it. -/
def orElse (g h : Given) : Given where
  componentsRoot := g.componentsRoot.or h.componentsRoot
  localesRoot := g.localesRoot.or h.localesRoot
  baseLocale := g.baseLocale.or h.baseLocale
  mockLocales := g.mockLocales.or h.mockLocales
  only := g.only.or h.only
  extensions := g.extensions.or h.extensions
  ignores := g.ignores.or h.ignores
  frameworkModule := g.frameworkModule.or h.frameworkModule
  i18nModule := g.i18nModule.or h.i18nModule
  translatableAttributes := g.translatableAttributes.or h.translatableAttributes
  componentBaseClasses := g.componentBaseClasses.or h.componentBaseClasses

theorem onto_orElse (g h : Given) (c : Config) : (g.orElse h).onto c = g.onto (h.onto c) := by
  simp only [onto, orElse, Option.getD_or]

/-- A configuration that has no field in common with the default one. -/
def contrary : Config where
  componentsRoot := ""
  localesRoot := ""
  baseLocale := ""
  mockLocales := []
  only := [""]
  extensions := []
  ignores := [""]
  frameworkModule := ""
  i18nModule := ""
  translatableAttributes := []
  componentBaseClasses := []

theorem eq_of_getD {α : Type} {x y : Option α} {a b : α} (hne : a ≠ b)
    (ha : x.getD a = y.getD a) (hb : x.getD b = y.getD b) : x = y := by
  rcases x with _ | u <;> rcases y with _ | v
  · rfl
  · exact absurd (ha.trans hb.symm) hne
  · exact absurd (ha.symm.trans hb) hne
  · exact congrArg some ha

/-- What is given shows over two configurations that differ everywhere. -/
theorem eq_of_onto {g h : Given} (hdefault : g.onto {} = h.onto {})
    (hcontrary : g.onto contrary = h.onto contrary) : g = h := by
  simp only [onto, Config.mk.injEq, Component.Options.mk.injEq] at hdefault hcontrary
  obtain ⟨g₁, g₂, g₃, g₄, g₅, g₆, g₇, g₈, g₉, g₁₀, g₁₁⟩ := g
  obtain ⟨h₁, h₂, h₃, h₄, h₅, h₆, h₇, h₈, h₉, h₁₀, h₁₁⟩ := h
  obtain ⟨⟨d₈, d₉, d₁₀, d₁₁⟩, d₁, d₂, d₃, d₄, d₅, d₆, d₇⟩ := hdefault
  obtain ⟨⟨c₈, c₉, c₁₀, c₁₁⟩, c₁, c₂, c₃, c₄, c₅, c₆, c₇⟩ := hcontrary
  simp only [Given.mk.injEq]
  refine ⟨eq_of_getD ?_ d₁ c₁, eq_of_getD ?_ d₂ c₂, eq_of_getD ?_ d₃ c₃, eq_of_getD ?_ d₄ c₄,
    eq_of_getD ?_ d₅ c₅, eq_of_getD ?_ d₆ c₆, eq_of_getD ?_ d₇ c₇, eq_of_getD ?_ d₈ c₈,
    eq_of_getD ?_ d₉ c₉, eq_of_getD ?_ d₁₀ c₁₀, eq_of_getD ?_ d₁₁ c₁₁⟩
  all_goals decide

end Given

section Reading

variable {c base : Config} {cs rest : List Char}

/-- A field that is read is given, whatever the configuration was. -/
def Field.Gives (field : Field) : Prop :=
  ∀ {c c' : Config} {cs rest : List Char}, field.read c cs = .ok (c', rest) →
    ∃ given : Given, ∀ base, field.read base cs = .ok (given.onto base, rest)

/-- A field is given if what is read into it does not depend on the configuration. -/
theorem Field.gives_of_read {α : Type} {field : Field} {read : List Char → Json.Read α}
    {set : Config → α → Config}
    (hread : ∀ c cs, field.read c cs = (read cs).map fun p => (set c p.1, p.2))
    (give : α → Given) (hset : ∀ a c, set c a = (give a).onto c) : field.Gives := by
  intro c c' cs rest h
  rw [hread] at h
  obtain ⟨⟨a, behind⟩, hvalue, hpair⟩ := exists_of_map_eq_ok h
  obtain ⟨-, rfl⟩ := Prod.mk.inj hpair
  refine ⟨give a, fun base => ?_⟩
  simp only [hread, hvalue, Except.map, hset]

theorem Field.gives_text {name : String} {set : Config → String → Config} (give : String → Given)
    (hset : ∀ s c, set c s = (give s).onto c) : (Field.text name set).Gives :=
  gives_of_read (fun _ _ => rfl) give hset

theorem Field.gives_texts {name : String} {set : Config → List String → Config}
    (give : List String → Given) (hset : ∀ ss c, set c ss = (give ss).onto c) :
    (Field.texts name set).Gives :=
  gives_of_read (fun _ _ => rfl) give hset

theorem gives_of_mem_fields {field : Field} (h : field ∈ fields) : field.Gives := by
  simp only [fields, List.mem_cons, List.not_mem_nil, or_false] at h
  rcases h with rfl | rfl | rfl | rfl | rfl | rfl | rfl | rfl | rfl | rfl | rfl
  · exact Field.gives_text (fun s => { componentsRoot := some s }) fun _ _ => rfl
  · exact Field.gives_text (fun s => { localesRoot := some s }) fun _ _ => rfl
  · exact Field.gives_text (fun s => { baseLocale := some s }) fun _ _ => rfl
  · exact Field.gives_texts (fun ss => { mockLocales := some ss }) fun _ _ => rfl
  · exact Field.gives_texts (fun ss => { only := some ss }) fun _ _ => rfl
  · exact Field.gives_texts (fun ss => { extensions := some ss }) fun _ _ => rfl
  · exact Field.gives_texts (fun ss => { ignores := some ss }) fun _ _ => rfl
  · exact Field.gives_text (fun s => { frameworkModule := some s }) fun _ _ => rfl
  · exact Field.gives_text (fun s => { i18nModule := some s }) fun _ _ => rfl
  · exact Field.gives_texts (fun ss => { translatableAttributes := some ss }) fun _ _ => rfl
  · exact Field.gives_texts (fun ss => { componentBaseClasses := some ss }) fun _ _ => rfl

/-- A member of an object gives its field, or nothing if it is skipped. -/
theorem exists_given_of_readMember {given : Given} {seen : List String} {s : ObjectState}
    (h : readMember ⟨given.onto base, seen⟩ cs = .ok (s, rest)) :
    ∃ (given' : Given) (seen' : List String), ∀ base,
      readMember ⟨given.onto base, seen⟩ cs = .ok (⟨given'.onto base, seen'⟩, rest) := by
  unfold readMember at h ⊢
  split at h
  · cases h
  split at h
  · -- A field that is not known leaves the configuration as it is.
    unfold skipUnknown at h ⊢
    split at h
    · cases h
    obtain ⟨⟨_, after⟩, hskip, hpair⟩ := exists_of_map_eq_ok h
    obtain ⟨-, rfl⟩ := Prod.mk.inj hpair
    refine ⟨given, seen, fun base => ?_⟩
    simp only [hskip, Except.map]
  · -- Whether a field was seen before depends on the text alone.
    rename_i field hfield
    split at h
    · cases h
    rename_i hseen
    unfold readKnown at h ⊢
    split at h
    · cases h
    obtain ⟨⟨config, after⟩, hread, hpair⟩ := exists_of_map_eq_ok h
    obtain ⟨-, rfl⟩ := Prod.mk.inj hpair
    obtain ⟨more, hmore⟩ := gives_of_mem_fields (List.mem_of_find?_eq_some hfield) hread
    refine ⟨more.orElse given, field.name :: seen, fun base => ?_⟩
    simp only [hseen, hmore, Except.map, Given.onto_orElse]
    rfl

theorem exists_given_of_readItem {given : Given} {left : List Field} (hleft : left ⊆ fields)
    {s : Config × List Field} (h : readItem (given.onto base, left) cs = .ok (s, rest)) :
    ∃ (given' : Given) (left' : List Field), left' ⊆ fields ∧ ∀ base,
      readItem (given.onto base, left) cs = .ok ((given'.onto base, left'), rest) := by
  unfold readItem at h ⊢
  rcases left with _ | ⟨field, left⟩
  · cases h
  obtain ⟨hfield, hleft⟩ := List.cons_subset.mp hleft
  obtain ⟨⟨config, after⟩, hread, hpair⟩ := exists_of_map_eq_ok h
  obtain ⟨-, rfl⟩ := Prod.mk.inj hpair
  obtain ⟨more, hmore⟩ := gives_of_mem_fields hfield hread
  refine ⟨more.orElse given, left, hleft, fun base => ?_⟩
  simp only [hmore, Except.map, Given.onto_orElse]

theorem onto_none (base : Config) : ({} : Given).onto base = base := rfl

theorem exists_given_of_members {close : Char} {fuel : Nat} {s : ObjectState}
    (h : Json.readSeq close (fun _ => false) readMember fuel true ⟨base, []⟩ cs = .ok (s, rest)) :
    ∃ (given : Given) (seen : List String), ∀ base,
      Json.readSeq close (fun _ => false) readMember fuel true ⟨base, []⟩ cs =
        .ok (⟨given.onto base, seen⟩, rest) := by
  obtain ⟨t, ⟨given, seen, rfl⟩, hall⟩ := Json.readSeq_family
    (P := fun t : Config → ObjectState => ∃ (given : Given) (seen : List String),
      t = fun base => ⟨given.onto base, seen⟩)
    (fun _ _ _ _ => rfl)
    (by
      rintro t base cs s rest ⟨given, seen, rfl⟩ hmember
      obtain ⟨given', seen', hall⟩ := exists_given_of_readMember hmember
      exact ⟨_, ⟨given', seen', rfl⟩, hall⟩)
    ⟨{}, [], rfl⟩ h
  exact ⟨given, seen, hall⟩

theorem exists_given_of_items {close : Char} {fuel : Nat} {s : Config × List Field}
    (h : Json.readSeq close (fun s => s.2.isEmpty) readItem fuel true (base, fields) cs =
      .ok (s, rest)) :
    ∃ (given : Given) (left : List Field), ∀ base,
      Json.readSeq close (fun s => s.2.isEmpty) readItem fuel true (base, fields) cs =
        .ok ((given.onto base, left), rest) := by
  obtain ⟨t, ⟨given, left, -, rfl⟩, hall⟩ := Json.readSeq_family
    (P := fun t : Config → Config × List Field => ∃ (given : Given) (left : List Field),
      left ⊆ fields ∧ t = fun base => (given.onto base, left))
    (by
      rintro t ⟨given, left, -, rfl⟩ base base'
      rfl)
    (by
      rintro t base cs s rest ⟨given, left, hleft, rfl⟩ hitem
      obtain ⟨given', left', hleft', hall⟩ := exists_given_of_readItem hleft hitem
      exact ⟨_, ⟨given', left', hleft', rfl⟩, hall⟩)
    ⟨{}, fields, List.Subset.refl _, rfl⟩ h
  exact ⟨given, left, hall⟩

/-- Reads a configuration over another one in place of the default one. -/
def readOver (base : Config) (cs : List Char) : Json.Read Config :=
  match Json.skipBlanks cs with
  | [] => .error .ended
  | c :: rest =>
      if c = '\x7b' then
        (Json.readSeq '\x7d' (fun _ => false) readMember (rest.length + 1) true ⟨base, []⟩ rest).map
          fun (s, r) => (s.config, r)
      else if c = '[' then
        (Json.readSeq ']' (fun s => s.2.isEmpty) readItem (rest.length + 1) true (base, fields)
          rest).map fun (s, r) => (s.1, r)
      else .error (Json.mismatchAt c rest)

theorem exists_given_of_readOver (h : readOver base cs = .ok (c, rest)) :
    ∃ given : Given, ∀ base, readOver base cs = .ok (given.onto base, rest) := by
  unfold readOver at h ⊢
  split at h
  · cases h
  split at h
  · rename_i hobject
    obtain ⟨⟨s, behind⟩, hmembers, hpair⟩ := exists_of_map_eq_ok h
    obtain ⟨-, rfl⟩ := Prod.mk.inj hpair
    obtain ⟨given, seen, hall⟩ := exists_given_of_members hmembers
    refine ⟨given, fun base => ?_⟩
    rw [if_pos hobject, hall]
    rfl
  rename_i hobject
  split at h
  · rename_i harray
    obtain ⟨⟨s, behind⟩, hitems, hpair⟩ := exists_of_map_eq_ok h
    obtain ⟨-, rfl⟩ := Prod.mk.inj hpair
    obtain ⟨given, left, hall⟩ := exists_given_of_items hitems
    refine ⟨given, fun base => ?_⟩
    rw [if_neg hobject, if_pos harray, hall]
    rfl
  · cases h

end Reading

/-- Reads a whole text over a configuration. -/
def parseOver (base : Config) (text : String) : Except Json.ReadError Config :=
  Json.complete (readOver base text.toList)

theorem parseOver_default (text : String) : parseOver {} text = parse text := rfl

/-- What a text gives: read over any configuration it replaces these fields and no others. -/
def Tells (text : String) (given : Given) : Prop :=
  ∀ base, parseOver base text = .ok (given.onto base)

theorem exists_tells {text : String} {c : Config} (h : parse text = .ok c) :
    ∃ given, Tells text given := by
  rw [← parseOver_default, parseOver] at h
  rcases hread : readOver {} text.toList with e | ⟨c', rest⟩
  · rw [hread] at h
    cases h
  rw [hread, Json.complete] at h
  obtain ⟨given, hall⟩ := exists_given_of_readOver hread
  refine ⟨given, fun base => ?_⟩
  rw [parseOver, hall, Json.complete]
  split at h
  · rename_i hend
    rw [if_pos hend]
  · cases h

/-- Two readings show what a text tells. -/
theorem tells_iff {text : String} {given : Given} :
    Tells text given ↔ parse text = .ok (given.onto {}) ∧
      parseOver Given.contrary text = .ok (given.onto Given.contrary) := by
  constructor
  · intro h
    exact ⟨h {}, h Given.contrary⟩
  · rintro ⟨hdefault, hcontrary⟩
    obtain ⟨told, htold⟩ := exists_tells hdefault
    have hd := Except.ok.inj ((htold {}).symm.trans hdefault)
    have hc := Except.ok.inj ((htold Given.contrary).symm.trans hcontrary)
    rwa [Given.eq_of_onto hd hc] at htold

theorem Tells.unique {text : String} {g h : Given} (hg : Tells text g) (hh : Tells text h) :
    g = h :=
  Given.eq_of_onto (Except.ok.inj ((hg _).symm.trans (hh _)))
    (Except.ok.inj ((hg _).symm.trans (hh _)))

/-- What the configuration file for a directory gives, if there is one. -/
inductive Stated (w : Workspace) (start : String) : Given → Prop
  | nothing (h : find? w start = none) : Stated w start {}
  | file {path text : String} {given : Given} (found : find? w start = some path)
      (read : w.readText path = .ok text) (tells : Tells text given) : Stated w start given

theorem Stated.unique {w : Workspace} {start : String} {g h : Given} (hg : Stated w start g)
    (hh : Stated w start h) : g = h := by
  cases hg with
  | nothing hnone =>
      cases hh with
      | nothing => rfl
      | file found => cases hnone.symm.trans found
  | file found read tells =>
      cases hh with
      | nothing hnone => cases hnone.symm.trans found
      | file found' read' tells' =>
          obtain rfl := Option.some.inj (found.symm.trans found')
          obtain rfl := Except.ok.inj (read.symm.trans read')
          exact tells.unique tells'

theorem exists_stated {w : Workspace} {start : String}
    (h : ∀ path, find? w start = some path →
      ∃ text c, w.readText path = .ok text ∧ parse text = .ok c) :
    ∃ given, Stated w start given := by
  cases hfound : find? w start with
  | none => exact ⟨{}, .nothing hfound⟩
  | some path =>
      obtain ⟨text, c, hread, hparse⟩ := h path hfound
      obtain ⟨given, htells⟩ := exists_tells hparse
      exact ⟨given, .file hfound hread htells⟩

theorem checked_default : checked {} = .ok {} := rfl

/-- A file is judged with the default configuration below it. -/
theorem Stated.load_eq {w : Workspace} {start : String} {given : Given} (h : Stated w start given) :
    (load w start).map (·.config) = checked (given.onto {}) := by
  rw [load_eq_ofFound]
  cases h with
  | nothing hnone =>
      rw [hnone, onto_none, checked_default]
      rfl
  | file found read tells =>
      have hparse : parse _ = .ok _ := tells {}
      simp only [found, ofFound, ofFile, read, hparse]
      cases checked (given.onto {}) <;> rfl

theorem checked_eq_ok_iff {c c' : Config} : checked c = .ok c' ↔ c.invalid? = none ∧ c' = c := by
  unfold checked
  cases c.invalid? <;> simp [eq_comm]

theorem checked_eq_error_iff {c : Config} {e : LoadError} :
    checked c = .error e ↔ ∃ cause, e = .invalid cause ∧ c.invalid? = some cause := by
  unfold checked
  cases c.invalid? <;> simp [eq_comm]

end Config

/-- The fields that were asked for; an empty list asks for nothing. -/
def Overrides.given (o : Overrides) : Config.Given where
  componentsRoot := o.componentsRoot
  localesRoot := o.localesRoot
  baseLocale := o.baseLocale
  only := if o.only = [] then none else some o.only
  mockLocales := if o.mockLocales = [] then none else some o.mockLocales

theorem Overrides.choose_eq (xs ys : List String) :
    choose xs ys = (if xs = [] then none else some xs).getD ys := by
  unfold choose
  cases xs <;> rfl

theorem Overrides.effective_eq (o : Overrides) (c : Config) : o.effective c = o.given.onto c := by
  simp only [effective, Config.Given.onto, given, choose_eq, Option.getD_none]

namespace Settings

open Config (Given Stated)

variable {w : Workspace} {start : String} {given : Given}

/-- The configuration of a run: each field is the one that was asked for, else the one of the file,
else the default one. -/
def effective (o : Overrides) (file : Given) : Config := (o.given.orElse file).onto {}

theorem load_of_stated (h : Stated w start given) (o : Overrides) :
    load w start o = (Config.checked (given.onto {})).bind fun _ =>
      (Config.checked (effective o given)).map (ofConfig start o) := by
  have hconfig := h.load_eq
  unfold load
  rw [← hconfig]
  rcases hload : Config.load w start with e | loaded
  · rfl
  rw [hload] at hconfig
  obtain ⟨-, heq⟩ := Config.checked_eq_ok_iff.mp hconfig.symm
  simp only [Except.map, Except.bind, effective, Given.onto_orElse, Overrides.effective_eq, heq]

theorem toConfig_ofConfig_of_here (h : Path.parts start = [.here]) (o : Overrides) (c : Config) :
    (ofConfig start o c).toConfig = c := by
  simp [ofConfig, placed, h]

theorem load_eq_ok_iff (h : Stated w start given) (o : Overrides) {s : Settings} :
    load w start o = .ok s ↔ (given.onto {}).invalid? = none ∧
      (effective o given).invalid? = none ∧ s = ofConfig start o (effective o given) := by
  rw [load_of_stated h]
  constructor
  · intro hload
    obtain ⟨_, hfile, hrest⟩ := exists_of_bind_eq_ok hload
    obtain ⟨_, heffective, rfl⟩ := exists_of_map_eq_ok hrest
    obtain ⟨hvalid, rfl⟩ := Config.checked_eq_ok_iff.mp heffective
    exact ⟨(Config.checked_eq_ok_iff.mp hfile).1, hvalid, rfl⟩
  · rintro ⟨hfile, heffective, rfl⟩
    rw [Config.checked_eq_ok_iff.mpr ⟨hfile, rfl⟩, Config.checked_eq_ok_iff.mpr ⟨heffective, rfl⟩]
    rfl

theorem load_eq_error_iff (h : Stated w start given) (o : Overrides) {e : Config.LoadError} :
    load w start o = .error e ↔ ∃ cause, e = .invalid cause ∧
      (given.onto {}).invalid?.or (effective o given).invalid? = some cause := by
  rw [load_of_stated h]
  rcases hfile : (given.onto {}).invalid? with _ | cause
  · rw [Config.checked_eq_ok_iff.mpr ⟨hfile, rfl⟩]
    exact map_eq_error_iff.trans Config.checked_eq_error_iff
  · rw [Config.checked_eq_error_iff.mpr ⟨cause, rfl, hfile⟩]
    simp [Except.bind, eq_comm]

/-- If the configuration file can be read at all, there are settings just if it is valid by itself
and the configuration in effect is valid too. They carry the configuration in effect, with relative
directories taken from where the search began. The first that is not valid says what is wrong. -/
theorem load_iff_valid_twice (hparses : ∀ path, Config.find? w start = some path →
      ∃ text c, w.readText path = .ok text ∧ Config.parse text = .ok c) (o : Overrides) :
    ∃ given, Stated w start given ∧ (∀ other, Stated w start other → other = given) ∧
      (∀ s, load w start o = .ok s ↔ (given.onto {}).invalid? = none ∧
        (effective o given).invalid? = none ∧ s = ofConfig start o (effective o given)) ∧
      (∀ s, load w start o = .ok s → Path.parts start = [.here] →
        s.toConfig = effective o given) ∧
      ∀ e, load w start o = .error e ↔ ∃ cause, e = .invalid cause ∧
        (given.onto {}).invalid?.or (effective o given).invalid? = some cause := by
  obtain ⟨given, hstated⟩ := Config.exists_stated hparses
  refine ⟨given, hstated, fun other hother => hother.unique hstated, fun s => ?_,
    fun s hload hstart => ?_, fun e => ?_⟩
  · exact load_eq_ok_iff hstated o
  · obtain ⟨-, -, rfl⟩ := (load_eq_ok_iff hstated o).mp hload
    exact toConfig_ofConfig_of_here hstart o _
  · exact load_eq_error_iff hstated o

/-- A project with a configuration file in its directory. -/
def configured (text : String) : Workspace where
  disk := ⟨[([Config.fileName], .file (.text text) 0o644)]⟩
  directory := []

/-- The default mock locale as the base locale. -/
def mockedBase : String := "\x7b\"baseLocale\": \"de\"\x7d\n"

def otherMocks : String :=
  "\x7b\"theme\": 7, \"mockLocales\": [\"fr\"], \"extensions\": [\"jsx\"]\x7d\n"

structure ToldFacts (text : String) (given : Given) : Prop where
  found : Config.find? (configured text) "." = some "./.i18nizerc.json"
  read : ((configured text).readText "./.i18nizerc.json").toOption = some text
  parsed : (Config.parse text).toOption = some (given.onto {})
  parsedOver : (Config.parseOver Given.contrary text).toOption = some (given.onto Given.contrary)

theorem ToldFacts.stated {text : String} (h : ToldFacts text given) :
    Stated (configured text) "." given :=
  .file h.found (eq_ok_of_toOption h.read) (Config.tells_iff.mpr
    ⟨eq_ok_of_toOption h.parsed, eq_ok_of_toOption h.parsedOver⟩)

theorem toldFacts_mockedBase : ToldFacts mockedBase { baseLocale := some "de" } := by
  refine (fun ⟨a, b, c, d⟩ => ⟨a, b, c, d⟩ : _ ∧ _ ∧ _ ∧ _ → _) ?_
  decide +kernel

theorem toldFacts_otherMocks :
    ToldFacts otherMocks { mockLocales := some ["fr"], extensions := some ["jsx"] } := by
  refine (fun ⟨a, b, c, d⟩ => ⟨a, b, c, d⟩ : _ ∧ _ ∧ _ ∧ _ → _) ?_
  decide +kernel

/-- The base locale of the file is one of the mock locales that it leaves to the default. Although
others were asked for, the file is refused. -/
theorem mockedBase_refused :
    Stated (configured mockedBase) "." { baseLocale := some "de" } ∧
    (effective { mockLocales := ["fr"] } { baseLocale := some "de" }).invalid? = none ∧
    load (configured mockedBase) "." { mockLocales := ["fr"] } =
      .error (.invalid (.baseIsMock "de")) := by
  refine ⟨toldFacts_mockedBase.stated, by decide +kernel, ?_⟩
  exact (load_eq_error_iff toldFacts_mockedBase.stated _).mpr ⟨_, rfl, by decide +kernel⟩

/-- The other way round, the file moves the default mock locale out of the way of what was asked
for. -/
theorem otherMocks_accepted :
    (∀ path, Config.find? (configured otherMocks) "." = some path → ∃ text c,
      (configured otherMocks).readText path = .ok text ∧ Config.parse text = .ok c) ∧
    ∃ s, load (configured otherMocks) "." { baseLocale := some "de" } = .ok s ∧
      s.toConfig = { baseLocale := "de", mockLocales := ["fr"], extensions := ["jsx"] } := by
  have hparses : ∀ path, Config.find? (configured otherMocks) "." = some path → ∃ text c,
      (configured otherMocks).readText path = .ok text ∧ Config.parse text = .ok c := by
    intro path hpath
    obtain rfl := Option.some.inj (toldFacts_otherMocks.found.symm.trans hpath)
    exact ⟨_, _, eq_ok_of_toOption toldFacts_otherMocks.read,
      eq_ok_of_toOption toldFacts_otherMocks.parsed⟩
  obtain ⟨given, -, hunique, hok, hcarried, -⟩ :=
    load_iff_valid_twice hparses { baseLocale := some "de" }
  obtain rfl := hunique _ toldFacts_otherMocks.stated
  have hload := (hok _).mpr ⟨by decide +kernel, by decide +kernel, rfl⟩
  exact ⟨hparses, _, hload, hcarried _ hload (by decide)⟩

end Settings

end Phrasebook

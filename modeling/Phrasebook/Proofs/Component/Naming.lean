import Phrasebook.Proofs.Catalog.Basic
import Phrasebook.Proofs.Component.Migration
import Phrasebook.Proofs.Script.Paren
import Phrasebook.Proofs.Slug.Format

/-!
Where the name of a component comes from, and what keys follow from it.

Each rule takes the name from a node of the module. If the names of a module are identifiers, every
key of a migrated file has just two segments, the component and the slug.
-/

namespace Phrasebook.Script

def Form.name? : Form → Option String
  | .identifier name => some name
  | .binding name => some name
  | .function name? => name?
  | .classDeclaration name? => name?
  | _ => none

/-- What identifiers are made of: in ASCII, letters, digits and two signs. -/
def IsIdentifier (name : String) : Prop :=
  ∀ c ∈ name.toList, c.toNat < 128 → c.isAlphanum = true ∨ c = '_' ∨ c = '$'

-- The list is given, as the characters could also be gone through one by one.
instance (name : String) : Decidable (IsIdentifier name) :=
  List.decidableBAll (fun c : Char => c.toNat < 128 → c.isAlphanum = true ∨ c = '_' ∨ c = '$')
    name.toList

def Module.NamesAreIdentifiers (m : Module) : Prop :=
  ∀ n ∈ m.nodes, ∀ name ∈ n.form.name?, IsIdentifier name

instance (m : Module) : Decidable m.NamesAreIdentifiers :=
  List.decidableBAll (fun n : Node => ∀ name ∈ n.form.name?, IsIdentifier name) m.nodes

end Phrasebook.Script

namespace Phrasebook.Component

open Script

section

variable (options : Options) {m : Module} {name : String}

theorem exists_of_className? (h : className? options m = some name) :
    ∃ n ∈ m.nodes, n.form.name? = some name := by
  obtain ⟨n, hn, hname⟩ := List.exists_of_findSome?_eq_some h
  refine ⟨n, hn, ?_⟩
  unfold componentClass? at hname
  split at hname
  · rename_i name' hform
    split at hname
    · split at hname
      · rw [hform, ← hname]
        rfl
      · cases hname
    · cases hname
  · cases hname

theorem exists_of_defaultExportName? (h : defaultExportName? options m = some name) :
    ∃ n ∈ m.nodes, n.form.name? = some name := by
  obtain ⟨item, hitem, hname⟩ := List.exists_of_findSome?_eq_some h
  unfold exportedName? at hname
  split at hname
  · rename_i span value
    refine ⟨value.unparen, mem_preorderAll hitem ?_, ?_⟩
    · exact Node.mem_preorder_of_mem_children List.mem_cons_self value.unparen_mem_preorder
    · split at hname
      · rename_i hform
        rw [hform]
        exact hname
      · rename_i hform
        rw [hform]
        exact hname
      · cases hname
  · cases hname

theorem exists_declarator_of_topLevelArrowName? (h : topLevelArrowName? options m = some name) :
    ∃ item ∈ m.items, ∃ span target inner value,
      .mk span .declarator [.mk target (.binding name) inner, value] ∈ item.children ∧
        value.form = .arrow ∧ Text.startsUppercase name = true := by
  obtain ⟨item, hitem, hname⟩ := List.exists_of_findSome?_eq_some h
  split at hname
  · obtain ⟨declarator, hdeclarator, hname⟩ := List.exists_of_findSome?_eq_some hname
    unfold arrowName? at hname
    split at hname
    · rename_i span target name' inner value
      split at hname
      · rename_i hvalue
        obtain rfl := Option.some.inj hname
        obtain ⟨harrow, hupper⟩ := Bool.and_eq_true_iff.mp hvalue
        exact ⟨item, hitem, span, target, inner, value, hdeclarator, by simpa using harrow, hupper⟩
      · cases hname
    · cases hname
  · cases hname

theorem exists_of_topLevelArrowName? (h : topLevelArrowName? options m = some name) :
    ∃ n ∈ m.nodes, n.form.name? = some name := by
  obtain ⟨item, hitem, span, target, inner, value, hdeclarator, -⟩ :=
    exists_declarator_of_topLevelArrowName? options h
  refine ⟨_, mem_preorderAll hitem (Node.mem_preorder_of_mem_children hdeclarator
    (Node.mem_preorder_of_mem_children List.mem_cons_self (Node.mem_preorder_self _))), ?_⟩
  rfl

theorem exists_of_topLevelFunctionName? (h : topLevelFunctionName? options m = some name) :
    ∃ n ∈ m.nodes, n.form.name? = some name := by
  obtain ⟨item, hitem, hname⟩ := List.exists_of_findSome?_eq_some h
  refine ⟨item, mem_preorderAll hitem item.mem_preorder_self, ?_⟩
  split at hname
  · rename_i name' hform
    split at hname
    · rw [hform, ← hname]
      rfl
    · cases hname
  · cases hname

end

theorem classify_name (options : Options) (m : Module) :
    (classify options m).name = "" ∨
      ∃ n ∈ m.nodes, n.form.name? = some (classify options m).name := by
  unfold classify
  cases hfound : nameRules.findSome? fun rule => rule.component? options m with
  | none => exact Or.inl rfl
  | some component =>
      right
      obtain ⟨rule, hrule, hcomponent⟩ := List.exists_of_findSome?_eq_some hfound
      obtain ⟨name, hname, rfl⟩ := Option.map_eq_some_iff.mp hcomponent
      simp only [nameRules, List.mem_cons, List.not_mem_nil, or_false] at hrule
      rcases hrule with rfl | rfl | rfl | rfl
      · exact exists_of_className? options hname
      · exact exists_of_defaultExportName? options hname
      · exact exists_of_topLevelArrowName? options hname
      · exact exists_of_topLevelFunctionName? options hname

theorem isIdentifier_name {m : Module} (h : m.NamesAreIdentifiers) (options : Options) :
    IsIdentifier (classify options m).name := by
  rcases classify_name options m with hname | ⟨n, hn, hname⟩
  · rw [hname]
    intro c hc
    cases hc
  · exact h n hn _ hname

theorem dot_not_mem_name {m : Module} (h : m.NamesAreIdentifiers) (options : Options) :
    '.' ∉ (classify options m).name.toList := by
  intro hdot
  exact absurd (isIdentifier_name h options '.' hdot (by decide)) (by decide)

/-- Every key of a migrated file leads over the component to a slug. -/
theorem keyPath_of_migrateWith {read : String → Option Module} {options : Options}
    {namespaceName source : String} {file : Migrated}
    (hread : ∀ text m, read text = some m → m.NamesAreIdentifiers)
    (h : migrateWith read options namespaceName source = .ok (.migrated file)) :
    ∀ e ∈ file.entries, Catalog.keyPath e.key = [e.component, e.slug] := by
  obtain ⟨m, quote, hm, -, hmigrated⟩ := exists_of_migrateWith h
  obtain ⟨-, -, -, -, hentries⟩ := exists_of_migrateEligible hmigrated
  intro e he
  rw [hentries] at he
  obtain ⟨l, -, rfl⟩ := List.mem_map.mp he
  exact Catalog.keyPath_key (dot_not_mem_name (hread source m hm) options)
    (Slug.dot_not_mem_slugify l.text)

end Phrasebook.Component

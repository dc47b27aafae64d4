import Phrasebook.Proofs.Component.Migration
import Phrasebook.Proofs.Script.Shift

/-!
The migration of a module whose text stands further behind.

What is decided about a module does not depend on where its nodes stand, and what is found in it is
found at the shifted places.
-/

namespace Phrasebook.Component

open Script
open Source (Edit EditError Span)

section

variable (k : Nat) (options : Options)

theorem eligibility_shift (m : Module) : eligibility options (m.shift k) = eligibility options m := by
  have himport : importSource? ∘ Node.shift k = importSource? := by
    funext n
    simp [importSource?]
  have hsource : source? ∘ Node.shift k = source? := by
    funext n
    simp [source?]
  simp only [eligibility, Module.items_shift, List.filterMap_map, himport, hsource]

theorem isBaseClass_shift (n : Node) :
    isBaseClass options (n.shift k) = isBaseClass options n := by
  obtain ⟨span, form, children⟩ := n
  rw [Node.shift_mk]
  cases form with
  | member property =>
      cases children with
      | nil => rfl
      | cons object rest => simp [isBaseClass]
  | _ => rfl

theorem superclass?_shift (n : Node) :
    superclass? (n.shift k) = (superclass? n).map (Node.shift k) := by
  rw [superclass?, superclass?, Node.children_shift, List.findSome?_map, List.map_findSome?]
  congr 1
  funext child
  obtain ⟨span, form, children⟩ := child
  simp only [Function.comp_apply, Node.shift_mk]
  cases form with
  | heritage =>
      rcases children with _ | ⟨parent, _ | ⟨other, rest⟩⟩ <;> rfl
  | _ => rfl

theorem componentClass?_shift (n : Node) :
    componentClass? options (n.shift k) = componentClass? options n := by
  unfold componentClass?
  rw [Node.form_shift, superclass?_shift]
  split
  · cases superclass? n with
    | none => rfl
    | some parent => simp only [Option.map_some, isBaseClass_shift]
  · rfl

theorem exportedName?_shift (item : Node) : exportedName? (item.shift k) = exportedName? item := by
  obtain ⟨span, form, children⟩ := item
  rw [Node.shift_mk]
  cases form with
  | exportDefault =>
      rcases children with _ | ⟨value, _ | ⟨other, rest⟩⟩
      · rfl
      · simp [exportedName?, Node.unparen_shift]
      · rfl
  | _ => rfl

theorem arrowName?_shift (n : Node) : arrowName? (n.shift k) = arrowName? n := by
  obtain ⟨span, form, children⟩ := n
  rw [Node.shift_mk]
  cases form with
  | declarator =>
      rcases children with _ | ⟨⟨target, name, inner⟩, _ | ⟨value, _ | ⟨other, rest⟩⟩⟩
      · rfl
      · cases name <;> rfl
      · cases name with
        | binding own => simp [arrowName?, Node.shift_mk]
        | _ => rfl
      · cases name <;> rfl
  | _ => rfl

theorem classify_shift (m : Module) : classify options (m.shift k) = classify options m := by
  have hclass : className? options (m.shift k) = className? options m := by
    rw [className?, Module.nodes_shift]
    exact findSome?_shift k (componentClass?_shift k options) m.nodes
  have hexport : defaultExportName? options (m.shift k) = defaultExportName? options m := by
    rw [defaultExportName?, Module.items_shift]
    exact findSome?_shift k (exportedName?_shift k) m.items
  have harrow : topLevelArrowName? options (m.shift k) = topLevelArrowName? options m := by
    rw [topLevelArrowName?, Module.items_shift]
    apply findSome?_shift
    intro item
    rw [Node.form_shift, Node.children_shift, findSome?_shift k (arrowName?_shift k)]
  have hfunction : topLevelFunctionName? options (m.shift k) =
      topLevelFunctionName? options m := by
    rw [topLevelFunctionName?, Module.items_shift]
    apply findSome?_shift
    intro item
    rw [Node.form_shift]
  simp only [classify, nameRules, List.findSome?_cons, List.findSome?_nil, NameRule.component?,
    hclass, hexport, harrow, hfunction]

def Literal.shift (l : Literal) : Literal := { l with span := l.span.shift k }

theorem branchLiteral_shift (n : Node) :
    branchLiteral (n.shift k) = (branchLiteral n).map (Literal.shift k) := by
  unfold branchLiteral
  rw [Node.unparen_shift]
  obtain ⟨span, form, children⟩ := n.unparen
  rw [Node.shift_mk]
  rcases form with _ | _ | (_ | value) | _
  all_goals try rfl
  simp only
  split <;> rfl

theorem containerLiterals_shift (n : Node) :
    containerLiterals (n.shift k) = (containerLiterals n).map (Literal.shift k) := by
  unfold containerLiterals
  rw [Node.unparen_shift]
  obtain ⟨span, form, children⟩ := n.unparen
  rw [Node.shift_mk]
  cases form with
  | conditional =>
      rcases children with _ | ⟨test, _ | ⟨yes, _ | ⟨no, _ | ⟨other, rest⟩⟩⟩⟩
      · rfl
      · rfl
      · rfl
      · simp only [List.map_cons, List.map_nil, branchLiteral_shift, List.map_append]
      · rfl
  | _ => rfl

theorem trimmedSpan_shift (start : Nat) (text : List Char) :
    trimmedSpan (start + k) text = (trimmedSpan start text).shift k := by
  simp only [trimmedSpan, Span.shift, Nat.add_right_comm]

theorem nodeLiterals_shift (n : Node) :
    nodeLiterals options (n.shift k) = (nodeLiterals options n).map (Literal.shift k) := by
  obtain ⟨span, form, children⟩ := n
  rw [Node.shift_mk]
  cases form with
  | markupText raw value =>
      simp only [nodeLiterals, markupLiteral, Span.start_shift, trimmedSpan_shift]
      split <;> rfl
  | container =>
      rcases children with _ | ⟨inner, _ | ⟨other, rest⟩⟩
      · rfl
      · exact containerLiterals_shift k inner
      · rfl
  | attr name =>
      rcases children with _ | ⟨⟨span, form, inner⟩, _ | ⟨other, rest⟩⟩
      · rfl
      · rcases form with _ | _ | (_ | value) | _
        all_goals try rfl
        simp only [List.map_cons, List.map_nil, Node.shift_mk, nodeLiterals]
        split <;> rfl
      · rcases form with _ | _ | (_ | value) | _ <;> rfl
  | _ => rfl

theorem literals_shift (m : Module) :
    literals options (m.shift k) = (literals options m).map (Literal.shift k) := by
  have hnodes : nodeLiterals options ∘ Node.shift k =
      fun n => (nodeLiterals options n).map (Literal.shift k) :=
    funext (nodeLiterals_shift k options)
  rw [literals, literals, Module.nodes_shift, List.flatMap_map, ← Function.comp_def, hnodes,
    ← List.map_flatMap, List.filter_map]
  rfl

theorem Literal.entry_shift (l : Literal) (c : Identity) : (l.shift k).entry c = l.entry c := rfl

theorem Literal.edit_shift (l : Literal) (c : Identity) :
    (l.shift k).edit c = (l.edit c).shift k := rfl

def Host.shift : Host → Host
  | .block body => .block (body.shift k)
  | .expression arrow body => .expression (arrow.shift k) (body.shift k)

theorem arrowHost?_shift (n : Node) :
    arrowHost? (n.shift k) = (arrowHost? n).map (Host.shift k) := by
  unfold arrowHost?
  rw [Node.unparen_shift]
  obtain ⟨span, form, children⟩ := n.unparen
  rw [Node.shift_mk]
  cases form with
  | arrow =>
      simp only [List.getLast?_map, Option.map_map]
      congr 1
      funext body
      simp only [Function.comp_apply, Node.form_shift]
      split
      · rfl
      · rw [Host.shift, Node.shift_mk]
  | _ => rfl

theorem host?_shift (name : String) (n : Node) :
    host? name (n.shift k) = (host? name n).map (Host.shift k) := by
  obtain ⟨span, form, children⟩ := n
  rw [Node.shift_mk]
  cases form with
  | function own =>
      cases own with
      | none => rfl
      | some own =>
          simp only [host?]
          split
          · rw [← Node.shift_mk, Node.body?_shift, Option.map_map, Option.map_map]
            rfl
          · rfl
  | declarator =>
      rcases children with _ | ⟨⟨target, form, inner⟩, _ | ⟨value, _ | ⟨other, rest⟩⟩⟩
      · rfl
      · cases form <;> rfl
      · cases form with
        | binding own =>
            simp only [List.map_cons, List.map_nil, Node.shift_mk, host?]
            split
            · exact arrowHost?_shift k value
            · rfl
        | _ => rfl
      · cases form <;> rfl
  | _ => rfl

theorem firstStatement?_shift (ns : List Node) :
    firstStatement? (ns.map (Node.shift k)) = (firstStatement? ns).map (Node.shift k) := by
  simp only [firstStatement?, List.find?_map, Function.comp_def, Node.form_shift]

theorem defaultExportSpan?_shift (n : Node) :
    defaultExportSpan? (n.shift k) = (defaultExportSpan? n).map (Span.shift k) := by
  obtain ⟨span, form, children⟩ := n
  rw [Node.shift_mk]
  cases form with
  | exportDefault =>
      rcases children with _ | ⟨value, _ | ⟨other, rest⟩⟩
      · rfl
      · simp [defaultExportSpan?]
      · rfl
  | _ => rfl

theorem wrap_shift (span : Span) (before behind : String) :
    Edit.wrap (span.shift k) before behind = (Edit.wrap span before behind).map (Edit.shift k) :=
  rfl

theorem importEdit_shift (c : Identity) (t : Target) (m : Module) :
    importEdit options c t (m.shift k) = (importEdit options c t m).shift k := by
  rw [importEdit, importEdit, Module.items_shift, firstStatement?_shift]
  cases firstStatement? m.items with
  | none => rfl
  | some first =>
      rw [Option.map_some]
      simp only [Node.span_shift]
      rfl

end

end Phrasebook.Component

import Phrasebook.Proofs.Script.Paren
import Phrasebook.Proofs.Source.Shift

/-!
Trees of a text that stands further behind.

All spans of such a tree are shifted, and nothing else differs. What is found in a tree by the forms
of its nodes is therefore found in the shifted tree at the same nodes.
-/

namespace Phrasebook.Script

open Source (Span)

mutual

/-- A node with all spans in it shifted. -/
def Node.shift (k : Nat) : Node → Node
  | .mk span form children => .mk (span.shift k) form (shiftAll k children)

def shiftAll (k : Nat) : List Node → List Node
  | [] => []
  | n :: ns => n.shift k :: shiftAll k ns

end

def Module.shift (k : Nat) (m : Module) : Module := ⟨m.span.shift k, shiftAll k m.items⟩

section

variable (k : Nat)

theorem shiftAll_eq_map (ns : List Node) : shiftAll k ns = ns.map (Node.shift k) := by
  induction ns with
  | nil => rfl
  | cons n ns ih => rw [shiftAll, ih, List.map_cons]

theorem Node.shift_mk (span : Span) (form : Form) (children : List Node) :
    Node.shift k (.mk span form children) =
      .mk (span.shift k) form (children.map (Node.shift k)) := by
  rw [Node.shift, shiftAll_eq_map]

@[simp] theorem Node.span_shift (n : Node) : (n.shift k).span = n.span.shift k := by
  cases n
  rfl

@[simp] theorem Node.form_shift (n : Node) : (n.shift k).form = n.form := by
  cases n
  rfl

@[simp] theorem Node.children_shift (n : Node) :
    (n.shift k).children = n.children.map (Node.shift k) := by
  cases n
  exact shiftAll_eq_map k _

@[simp] theorem Module.items_shift (m : Module) :
    (m.shift k).items = m.items.map (Node.shift k) :=
  shiftAll_eq_map k m.items

@[simp] theorem Module.span_shift (m : Module) : (m.shift k).span = m.span.shift k := rfl

mutual

theorem Node.preorder_shift : ∀ n : Node, (n.shift k).preorder = n.preorder.map (Node.shift k)
  | .mk span form children => by
      rw [Node.shift, Node.preorder, Node.preorder, List.map_cons, Node.shift,
        preorderAll_shift children]

theorem preorderAll_shift :
    ∀ ns : List Node, preorderAll (shiftAll k ns) = (preorderAll ns).map (Node.shift k)
  | [] => by
      rw [shiftAll, preorderAll, List.map_nil]
  | n :: ns => by
      rw [shiftAll, preorderAll, preorderAll, List.map_append, n.preorder_shift,
        preorderAll_shift ns]

end

theorem Module.nodes_shift (m : Module) : (m.shift k).nodes = m.nodes.map (Node.shift k) :=
  preorderAll_shift k m.items

theorem Node.unparen_shift (n : Node) : (n.shift k).unparen = n.unparen.shift k := by
  fun_induction Node.unparen n with
  | case1 span inner ih =>
      rw [← ih, Node.shift_mk]
      rfl
  | case2 n hbare =>
      obtain ⟨span, form, children⟩ := n
      rw [Node.shift_mk]
      unfold Node.unparen
      split
      · rename_i inner hn
        injection hn with _ hform hchildren
        obtain ⟨c, rfl, -⟩ := List.map_eq_singleton_iff.mp hchildren
        subst hform
        exact (hbare span c rfl).elim
      · rfl

theorem Node.body?_shift (n : Node) : (n.shift k).body? = n.body?.map (Node.shift k) := by
  rw [Node.body?, Node.body?, Node.children_shift, List.getLast?_map, Option.filter_map]
  simp [Function.comp_def]

/-- What a search finds is shifted, if it is shifted at every node. -/
theorem map_findSome?_shift {α : Type} {f : Node → Option α} {g : α → α}
    (h : ∀ n, f (n.shift k) = (f n).map g) (ns : List Node) :
    (ns.map (Node.shift k)).findSome? f = (ns.findSome? f).map g := by
  rw [List.findSome?_map, List.map_findSome?]
  congr 1
  exact funext h

/-- A search that does not look at spans finds the same. -/
theorem findSome?_shift {α : Type} {f : Node → Option α} (h : ∀ n, f (n.shift k) = f n)
    (ns : List Node) : (ns.map (Node.shift k)).findSome? f = ns.findSome? f := by
  rw [map_findSome?_shift k (g := id) (by simpa using h), Option.map_id_apply]

end

end Phrasebook.Script

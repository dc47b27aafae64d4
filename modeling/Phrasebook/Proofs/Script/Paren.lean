import Phrasebook.Proofs.Script.Address

/-!
Nodes in parentheses, and nodes below others.

What stands in parentheses is found below them, after as many first children as there are pairs.
-/

namespace Phrasebook.Script

open Source (Span)

theorem Node.mem_preorder_self (n : Node) : n ∈ n.preorder := by
  cases n
  rw [Node.preorder]
  exact List.mem_cons_self

theorem mem_preorderAll {n x : Node} {ns : List Node} (hn : n ∈ ns) (hx : x ∈ n.preorder) :
    x ∈ preorderAll ns := by
  induction ns with
  | nil => cases hn
  | cons n' ns ih =>
      rw [preorderAll, List.mem_append]
      rcases List.mem_cons.mp hn with rfl | hn
      · exact Or.inl hx
      · exact Or.inr (ih hn)

theorem Node.mem_preorder_of_mem_children {n child x : Node} (h : child ∈ n.children)
    (hx : x ∈ child.preorder) : x ∈ n.preorder := by
  cases n
  rw [Node.preorder]
  exact List.mem_cons_of_mem _ (mem_preorderAll h hx)

/-- A node is another one in so many pairs of parentheses. -/
inductive Wraps : Nat → Node → Node → Prop
  | bare (n : Node) : Wraps 0 n n
  | paren {k : Nat} {span : Span} {n inner : Node} :
      Wraps k n inner → Wraps (k + 1) (.mk span .paren [n]) inner

def parenDepth : Node → Nat
  | .mk _ .paren [inner] => parenDepth inner + 1
  | _ => 0

theorem wraps_unparen (n : Node) : Wraps (parenDepth n) n n.unparen := by
  fun_induction Node.unparen n with
  | case1 span inner ih => exact .paren ih
  | case2 n hbare =>
      have hdepth : parenDepth n = 0 := by
        unfold parenDepth
        split
        · exact absurd rfl (hbare _ _)
        · rfl
      rw [hdepth]
      exact .bare n

theorem Wraps.unparen_eq {k : Nat} {n inner : Node} (h : Wraps k n inner) :
    n.unparen = inner.unparen ∧ parenDepth n = k + parenDepth inner := by
  induction h with
  | bare n => exact ⟨rfl, by simp⟩
  | paren _ ih => exact ⟨ih.1, by simp only [parenDepth, ih.2]; omega⟩

theorem Wraps.at? {k : Nat} {n inner : Node} (h : Wraps k n inner) :
    n.at? (List.replicate k 0) = some inner := by
  induction h with
  | bare n => rfl
  | paren _ ih => exact ih

/-- All that lies between a wrapped node and its wrapping is parentheses. -/
theorem Wraps.at?_of_lt {k d : Nat} {n inner : Node} (h : Wraps k n inner) (hd : d < k) :
    ∃ span x, n.at? (List.replicate d 0) = some (.mk span .paren [x]) := by
  induction h generalizing d with
  | bare n => omega
  | paren hwraps ih =>
      cases d with
      | zero => exact ⟨_, _, rfl⟩
      | succ d => exact ih (by omega)

theorem Wraps.mem_preorder {k : Nat} {n inner : Node} (h : Wraps k n inner) :
    inner ∈ n.preorder := by
  induction h with
  | bare n => exact n.mem_preorder_self
  | paren _ ih => exact Node.mem_preorder_of_mem_children List.mem_cons_self ih

theorem Node.unparen_mem_preorder (n : Node) : n.unparen ∈ n.preorder :=
  (wraps_unparen n).mem_preorder

end Phrasebook.Script

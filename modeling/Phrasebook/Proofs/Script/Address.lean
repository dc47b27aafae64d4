import Phrasebook.Script.Tree

/-!
Addresses in a tree.

An address leads from the items of a module down to a node, child by child. Each node has one
address, and the order in which nodes are visited is the order of their addresses.
-/

namespace Phrasebook.Script

/-- The positions of the children on the way to a node. -/
abbrev Address := List Nat

/-- The node at an address, seen from a node. -/
def Node.at? : Node → Address → Option Node
  | n, [] => some n
  | n, i :: rest => n.children[i]?.bind fun child => child.at? rest

def Module.at? (m : Module) : Address → Option Node
  | [] => none
  | i :: rest => m.items[i]?.bind fun item => item.at? rest

theorem Node.at?_append (n : Node) (a b : Address) :
    n.at? (a ++ b) = (n.at? a).bind fun inner => inner.at? b := by
  induction a generalizing n with
  | nil => rfl
  | cons i rest ih =>
      simp only [List.cons_append, Node.at?]
      cases n.children[i]? with
      | none => rfl
      | some child => exact ih child

theorem Module.at?_append {m : Module} {a : Address} {n : Node} (h : m.at? a = some n)
    (b : Address) : m.at? (a ++ b) = n.at? b := by
  rcases a with _ | ⟨i, rest⟩
  · cases h
  · obtain ⟨item, hitem, hrest⟩ := Option.bind_eq_some_iff.mp h
    rw [List.cons_append, Module.at?, hitem, Option.bind_some, Node.at?_append, hrest,
      Option.bind_some]

theorem append_lt_append_iff (a b c : Address) : a ++ b < a ++ c ↔ b < c := by
  induction a with
  | nil => rfl
  | cons i rest ih => simp [ih]

mutual

def Node.indexed (a : Address) : Node → List (Address × Node)
  | .mk span form children => (a, .mk span form children) :: indexedAll a 0 children

def indexedAll (a : Address) (i : Nat) : List Node → List (Address × Node)
  | [] => []
  | n :: ns => n.indexed (a ++ [i]) ++ indexedAll a (i + 1) ns

end

mutual

theorem Node.map_snd_indexed (a : Address) : ∀ n : Node, (n.indexed a).map (·.2) = n.preorder
  | .mk span form children => by
      rw [Node.indexed, Node.preorder, List.map_cons, map_snd_indexedAll]

theorem map_snd_indexedAll (a : Address) (i : Nat) :
    ∀ ns : List Node, (indexedAll a i ns).map (·.2) = preorderAll ns
  | [] => by
      rw [indexedAll, preorderAll, List.map_nil]
  | n :: ns => by
      rw [indexedAll, preorderAll, List.map_append, n.map_snd_indexed, map_snd_indexedAll]

end

mutual

theorem Node.mem_indexed (a b : Address) (x : Node) :
    ∀ n : Node, (b, x) ∈ n.indexed a ↔ ∃ rest, b = a ++ rest ∧ n.at? rest = some x
  | .mk span form children => by
      rw [Node.indexed, List.mem_cons, mem_indexedAll]
      constructor
      · rintro (heq | ⟨j, rest, rfl, hx⟩)
        · cases heq
          exact ⟨[], by simp, rfl⟩
        · exact ⟨j :: rest, by simp, hx⟩
      · rintro ⟨_ | ⟨j, rest⟩, rfl, hx⟩
        · left
          cases hx
          simp
        · exact Or.inr ⟨j, rest, by simp, hx⟩

theorem mem_indexedAll (a : Address) (i : Nat) (b : Address) (x : Node) :
    ∀ ns : List Node, (b, x) ∈ indexedAll a i ns ↔
      ∃ j rest, b = a ++ (i + j) :: rest ∧ (ns[j]?.bind fun n => n.at? rest) = some x
  | [] => by
      simp [indexedAll]
  | n :: ns => by
      rw [indexedAll, List.mem_append, Node.mem_indexed, mem_indexedAll]
      constructor
      · rintro (⟨rest, rfl, hx⟩ | ⟨j, rest, rfl, hx⟩)
        · exact ⟨0, rest, by simp, hx⟩
        · exact ⟨j + 1, rest, by simp [Nat.add_assoc, Nat.add_comm 1 j], hx⟩
      · rintro ⟨_ | j, rest, rfl, hx⟩
        · exact Or.inl ⟨rest, by simp, hx⟩
        · exact Or.inr ⟨j, rest, by simp [Nat.add_assoc, Nat.add_comm 1 j], hx⟩

end

mutual

theorem Node.pairwise_indexed (a : Address) :
    ∀ n : Node, (n.indexed a).Pairwise fun p q => p.1 < q.1
  | .mk span form children => by
      rw [Node.indexed, List.pairwise_cons]
      refine ⟨?_, pairwise_indexedAll a 0 children⟩
      rintro ⟨b, x⟩ hb
      obtain ⟨j, rest, rfl, -⟩ := (mem_indexedAll a 0 b x children).mp hb
      have hlt := (append_lt_append_iff a [] ((0 + j) :: rest)).mpr (List.nil_lt_cons _ _)
      rwa [List.append_nil] at hlt

theorem pairwise_indexedAll (a : Address) (i : Nat) :
    ∀ ns : List Node, (indexedAll a i ns).Pairwise fun p q => p.1 < q.1
  | [] => by
      rw [indexedAll]
      exact List.Pairwise.nil
  | n :: ns => by
      rw [indexedAll, List.pairwise_append]
      refine ⟨n.pairwise_indexed (a ++ [i]), pairwise_indexedAll a (i + 1) ns, ?_⟩
      rintro ⟨b, x⟩ hb ⟨c, y⟩ hc
      obtain ⟨rest, rfl, -⟩ := (Node.mem_indexed (a ++ [i]) b x n).mp hb
      obtain ⟨j, rest', rfl, -⟩ := (mem_indexedAll a (i + 1) c y ns).mp hc
      rw [List.append_assoc]
      refine (append_lt_append_iff a _ _).mpr ?_
      exact List.cons_lt_cons_iff.mpr (Or.inl (by omega))

end

/-- All nodes of a module in the order in which they are visited, each with its address. -/
def Module.indexed (m : Module) : List (Address × Node) := indexedAll [] 0 m.items

namespace Module

theorem map_snd_indexed (m : Module) : m.indexed.map (·.2) = m.nodes :=
  map_snd_indexedAll [] 0 m.items

theorem mem_indexed {m : Module} {a : Address} {n : Node} :
    (a, n) ∈ m.indexed ↔ m.at? a = some n := by
  rw [indexed, mem_indexedAll]
  constructor
  · rintro ⟨j, rest, rfl, hn⟩
    simpa [Module.at?] using hn
  · intro hn
    rcases a with _ | ⟨i, rest⟩
    · cases hn
    · exact ⟨i, rest, by simp, hn⟩

theorem mem_nodes_of_at? {m : Module} {a : Address} {n : Node} (h : m.at? a = some n) :
    n ∈ m.nodes := by
  rw [← m.map_snd_indexed]
  exact List.mem_map.mpr ⟨(a, n), mem_indexed.mpr h, rfl⟩

theorem pairwise_indexed (m : Module) : m.indexed.Pairwise fun p q => p.1 < q.1 :=
  pairwise_indexedAll [] 0 m.items

/-- The first node of a kind, in the order in which nodes are visited. -/
def First (m : Module) (P : Node → Prop) (n : Node) : Prop :=
  ∃ a, m.at? a = some n ∧ P n ∧ ∀ b < a, ∀ x, m.at? b = some x → ¬ P x

theorem exists_first_of_findSome? {β : Type} {m : Module} {f : Node → Option β} {y : β}
    (h : m.nodes.findSome? f = some y) : ∃ n, m.First (fun n => f n ≠ none) n ∧ f n = some y := by
  rw [← map_snd_indexed, List.findSome?_map] at h
  obtain ⟨front, ⟨a, n⟩, back, hsplit, hn, hfront⟩ := List.findSome?_eq_some_iff.mp h
  have hsome : f n = some y := hn
  have hat : m.at? a = some n := mem_indexed.mp (by simp [hsplit])
  refine ⟨n, ⟨a, hat, by simp [hsome], fun b hb x hx hfound => ?_⟩, hsome⟩
  have hmem := mem_indexed.mpr hx
  rw [hsplit, List.mem_append, List.mem_cons] at hmem
  rcases hmem with hmem | heq | hmem
  · exact hfound (hfront _ hmem)
  · cases heq
    exact List.lt_irrefl a hb
  · have hpairwise := m.pairwise_indexed
    rw [hsplit, List.pairwise_append, List.pairwise_cons] at hpairwise
    exact List.lt_asymm hb (hpairwise.2.1.1 _ hmem)

end Module

end Phrasebook.Script

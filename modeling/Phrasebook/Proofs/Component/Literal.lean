import Phrasebook.Component.Migration
import Phrasebook.Proofs.Script.Paren

/-!
Which texts of a module are found.

A spot is a place in the tree where a text stands that readers see. The search finds the text of
every spot and nothing else, each once and in the order in which the tree is visited.
-/

namespace Phrasebook.Component

open Script
open Source (Span)

/-- A text at a place in the tree. -/
structure Spot where
  /-- The node that is visited when the text is found. -/
  visit : Address
  /-- The place among the texts that are found there. -/
  rank : Nat
  /-- The node that holds the text. -/
  address : Address
  literal : Literal
deriving DecidableEq

/-- The order in which texts are found: by the visited nodes, and for the two branches of a
conditional by their order. -/
def Spot.Before (p q : Spot) : Prop := p.visit < q.visit ∨ p.visit = q.visit ∧ p.rank < q.rank

/-- The places where text stands. -/
inductive IsSpot (options : Options) (m : Module) : Spot → Prop
  /-- Text between tags that holds a letter. -/
  | text {a : Address} {span : Span} {raw value : String} {children : List Node}
      (hat : m.at? a = some (.mk span (.markupText raw value) children))
      (hletter : ∃ c ∈ Text.trim raw.toList, Text.isAlphabetic c = true) :
      IsSpot options m ⟨a, 0, a, ⟨trimmedSpan span.start raw.toList, trimmed value, true⟩⟩
  /-- A string that reads like a phrase, in a branch of a conditional in braces. Parentheses around
  the string and around the conditional do not count. -/
  | branch {a : Address} {outer s span : Span} {e test yes no branch : Node} {i j k : Nat}
      {value : String} {children : List Node}
      (hat : m.at? a = some (.mk outer .container [e]))
      (hconditional : Wraps k e (.mk s .conditional [test, yes, no]))
      (hbranch : [yes, no][i]? = some branch)
      (hstring : Wraps j branch (.mk span (.string (some value)) children))
      (hphrase : Text.isPhrase value = true) :
      IsSpot options m ⟨a, i, a ++ 0 :: (List.replicate k 0 ++ (i + 1) :: List.replicate j 0),
        ⟨span, trimmed value, false⟩⟩
  /-- The string of an attribute that is text by its name, or by its value if its name says
  nothing. -/
  | attr {a : Address} {outer span : Span} {name value : String} {children : List Node}
      (hat : m.at? a =
        some (.mk outer (.attr name) [.mk span (.string (some value)) children]))
      (htext : (name ∈ options.translatableAttributes ∧ Text.trim value.toList ≠ []) ∨
        (name ∉ options.translatableAttributes ∧ Markup.isKnownAttribute name = false ∧
          Text.isPhrase value = true)) :
      IsSpot options m ⟨a, 0, a ++ [0], ⟨span, trimmed value, true⟩⟩

def branchSpot (a : Address) (e branch : Node) (i : Nat) (l : Literal) : Spot :=
  ⟨a, i, a ++ 0 :: (List.replicate (parenDepth e) 0 ++
    (i + 1) :: List.replicate (parenDepth branch) 0), l⟩

def containerSpots (a : Address) (e : Node) : List Spot :=
  match e.unparen with
  | .mk _ .conditional [_, yes, no] =>
      (branchLiteral yes).map (branchSpot a e yes 0) ++
        (branchLiteral no).map (branchSpot a e no 1)
  | _ => []

def spotsAt (options : Options) (a : Address) (n : Node) : List Spot :=
  match n with
  | .mk _ .container [e] => containerSpots a e
  | .mk _ (.attr _) _ => (nodeLiterals options n).map fun l => ⟨a, 0, a ++ [0], l⟩
  | _ => (nodeLiterals options n).map fun l => ⟨a, 0, a, l⟩

theorem map_literal_containerSpots (a : Address) (e : Node) :
    (containerSpots a e).map (·.literal) = containerLiterals e := by
  by_cases hcond : ∃ span head yes no, e.unparen = .mk span .conditional [head, yes, no]
  · obtain ⟨span, head, yes, no, hcond⟩ := hcond
    simp [containerSpots, containerLiterals, hcond, branchSpot, Function.comp_def]
  · have hspots : containerSpots a e = [] := by
      unfold containerSpots
      split
      · rename_i hmatch
        exact absurd ⟨_, _, _, _, hmatch⟩ hcond
      · rfl
    have hliterals : containerLiterals e = [] := by
      unfold containerLiterals
      split
      · rename_i hmatch
        exact absurd ⟨_, _, _, _, hmatch⟩ hcond
      · rfl
    rw [hspots, hliterals, List.map_nil]

theorem map_literal_spotsAt (options : Options) (a : Address) (n : Node) :
    (spotsAt options a n).map (·.literal) = nodeLiterals options n := by
  unfold spotsAt
  split
  · exact map_literal_containerSpots a _
  · simp [Function.comp_def]
  · simp [Function.comp_def]

theorem mem_branchLiteral {branch : Node} {l : Literal} :
    l ∈ branchLiteral branch ↔ ∃ span value children,
      Wraps (parenDepth branch) branch (.mk span (.string (some value)) children) ∧
        Text.isPhrase value = true ∧ l = ⟨span, trimmed value, false⟩ := by
  unfold branchLiteral
  constructor
  · intro h
    split at h
    · rename_i span value children hstring
      split at h
      · rename_i hphrase
        exact ⟨span, value, children, hstring ▸ wraps_unparen branch, hphrase,
          List.mem_singleton.mp h⟩
      · cases h
    · cases h
  · rintro ⟨span, value, children, hwraps, hphrase, rfl⟩
    have hunparen : branch.unparen = .mk span (.string (some value)) children :=
      hwraps.unparen_eq.1
    rw [hunparen]
    simp [hphrase]

theorem mem_containerSpots {options : Options} {m : Module} {a : Address} {outer : Span}
    {e : Node} (hat : m.at? a = some (.mk outer .container [e])) {spot : Spot}
    (h : spot ∈ containerSpots a e) : IsSpot options m spot := by
  unfold containerSpots at h
  split at h
  · rename_i s test yes no hcond
    have hwraps : Wraps (parenDepth e) e (.mk s .conditional [test, yes, no]) :=
      hcond ▸ wraps_unparen e
    rcases List.mem_append.mp h with hyes | hno
    · obtain ⟨l, hl, rfl⟩ := List.mem_map.mp hyes
      obtain ⟨span, value, children, hstring, hphrase, rfl⟩ := mem_branchLiteral.mp hl
      exact .branch hat hwraps rfl hstring hphrase
    · obtain ⟨l, hl, rfl⟩ := List.mem_map.mp hno
      obtain ⟨span, value, children, hstring, hphrase, rfl⟩ := mem_branchLiteral.mp hl
      exact .branch hat hwraps rfl hstring hphrase
  · cases h

theorem visit_of_mem_containerSpots {a : Address} {e : Node} {spot : Spot}
    (h : spot ∈ containerSpots a e) : spot.visit = a := by
  unfold containerSpots at h
  split at h
  · rcases List.mem_append.mp h with hyes | hno
    · obtain ⟨l, -, rfl⟩ := List.mem_map.mp hyes
      rfl
    · obtain ⟨l, -, rfl⟩ := List.mem_map.mp hno
      rfl
  · cases h

theorem branchSpot_mem_containerSpots {a : Address} {s span : Span}
    {e test yes no branch : Node} {i j k : Nat} {value : String} {children : List Node}
    (hconditional : Wraps k e (.mk s .conditional [test, yes, no]))
    (hbranch : [yes, no][i]? = some branch)
    (hstring : Wraps j branch (.mk span (.string (some value)) children))
    (hphrase : Text.isPhrase value = true) :
    ⟨a, i, a ++ 0 :: (List.replicate k 0 ++ (i + 1) :: List.replicate j 0),
      ⟨span, trimmed value, false⟩⟩ ∈ containerSpots a e := by
  have hcond : e.unparen = .mk s .conditional [test, yes, no] := hconditional.unparen_eq.1
  obtain rfl : parenDepth e = k := hconditional.unparen_eq.2
  obtain rfl : parenDepth branch = j := hstring.unparen_eq.2
  have hliteral : ⟨span, trimmed value, false⟩ ∈ branchLiteral branch :=
    mem_branchLiteral.mpr ⟨span, value, children, hstring, hphrase, rfl⟩
  unfold containerSpots
  rw [hcond]
  refine List.mem_append.mpr ?_
  rcases i with _ | _ | i
  · obtain rfl := Option.some.inj hbranch
    exact Or.inl (List.mem_map.mpr ⟨_, hliteral, rfl⟩)
  · obtain rfl := Option.some.inj hbranch
    exact Or.inr (List.mem_map.mpr ⟨_, hliteral, rfl⟩)
  · cases hbranch

theorem isAttributeText_iff (options : Options) (name value : String) :
    isAttributeText options name value = true ↔
      (name ∈ options.translatableAttributes ∧ Text.trim value.toList ≠ []) ∨
        (name ∉ options.translatableAttributes ∧ Markup.isKnownAttribute name = false ∧
          Text.isPhrase value = true) := by
  unfold isAttributeText
  by_cases hname : name ∈ options.translatableAttributes
  · simp [hname, trimmed]
  · simp [hname]

theorem containsAlphabetic_iff (raw : String) :
    Text.containsAlphabetic (trimmed raw) = true ↔
      ∃ c ∈ Text.trim raw.toList, Text.isAlphabetic c = true := by
  simp [Text.containsAlphabetic, trimmed]

/-- The three kinds of nodes at which text is found. -/
theorem nodeLiterals_cases {options : Options} {n : Node} {l : Literal}
    (h : l ∈ nodeLiterals options n) :
    (∃ span raw value children, n = .mk span (.markupText raw value) children ∧
        (∃ c ∈ Text.trim raw.toList, Text.isAlphabetic c = true) ∧
        l = ⟨trimmedSpan span.start raw.toList, trimmed value, true⟩) ∨
      (∃ outer e, n = .mk outer .container [e]) ∨
      ∃ outer name span value children,
        n = .mk outer (.attr name) [.mk span (.string (some value)) children] ∧
        isAttributeText options name value = true ∧ l = ⟨span, trimmed value, true⟩ := by
  unfold nodeLiterals at h
  split at h
  · rename_i span raw value children
    unfold markupLiteral at h
    split at h
    · rename_i hletter
      exact Or.inl ⟨span, raw, value, children, rfl, (containsAlphabetic_iff raw).mp hletter,
        List.mem_singleton.mp h⟩
    · cases h
  · rename_i outer e
    exact Or.inr (Or.inl ⟨outer, e, rfl⟩)
  · rename_i outer name span value children
    split at h
    · rename_i htext
      exact Or.inr (Or.inr ⟨outer, name, span, value, children, rfl, htext,
        List.mem_singleton.mp h⟩)
    · cases h
  · cases h

theorem mem_spotsAt {options : Options} {m : Module} {a : Address} {n : Node}
    (hat : m.at? a = some n) {spot : Spot} :
    spot ∈ spotsAt options a n ↔ IsSpot options m spot ∧ spot.visit = a := by
  constructor
  · intro h
    unfold spotsAt at h
    split at h
    · have hspot : IsSpot options m spot := mem_containerSpots hat h
      exact ⟨hspot, visit_of_mem_containerSpots h⟩
    · obtain ⟨l, hl, rfl⟩ := List.mem_map.mp h
      refine ⟨?_, rfl⟩
      rcases nodeLiterals_cases hl with ⟨_, _, _, _, hn, -⟩ | ⟨_, _, hn⟩ |
        ⟨outer, name, span, value, children, hn, htext, rfl⟩
      · cases hn
      · cases hn
      · rw [hn] at hat
        exact .attr hat ((isAttributeText_iff ..).mp htext)
    · rename_i hcontainer hattr
      obtain ⟨l, hl, rfl⟩ := List.mem_map.mp h
      refine ⟨?_, rfl⟩
      rcases nodeLiterals_cases hl with ⟨span, raw, value, children, rfl, hletter, rfl⟩ |
        ⟨_, _, hn⟩ | ⟨_, _, _, _, _, hn, -⟩
      · exact .text hat hletter
      · exact (hcontainer _ _ hn).elim
      · exact (hattr _ _ _ hn).elim
  · rintro ⟨hspot, rfl⟩
    cases hspot with
    | text hat' hletter =>
        obtain rfl := Option.some.inj (hat.symm.trans hat')
        simp [spotsAt, nodeLiterals, markupLiteral, (containsAlphabetic_iff _).mpr hletter]
    | branch hat' hconditional hbranch hstring hphrase =>
        obtain rfl := Option.some.inj (hat.symm.trans hat')
        exact branchSpot_mem_containerSpots hconditional hbranch hstring hphrase
    | attr hat' htext =>
        obtain rfl := Option.some.inj (hat.symm.trans hat')
        simp [spotsAt, nodeLiterals, (isAttributeText_iff _ _ _).mpr htext]

theorem branchLiteral_eq (branch : Node) :
    branchLiteral branch = [] ∨ ∃ l, branchLiteral branch = [l] := by
  unfold branchLiteral
  split
  · split
    · exact Or.inr ⟨_, rfl⟩
    · exact Or.inl rfl
  · exact Or.inl rfl

theorem nodeLiterals_eq (options : Options) {n : Node}
    (hn : ∀ outer e, n ≠ .mk outer .container [e]) :
    nodeLiterals options n = [] ∨ ∃ l, nodeLiterals options n = [l] := by
  unfold nodeLiterals
  split
  · unfold markupLiteral
    split
    · exact Or.inr ⟨_, rfl⟩
    · exact Or.inl rfl
  · exact absurd rfl (hn _ _)
  · split
    · exact Or.inr ⟨_, rfl⟩
    · exact Or.inl rfl
  · exact Or.inl rfl

theorem pairwise_containerSpots (a : Address) (e : Node) :
    (containerSpots a e).Pairwise Spot.Before := by
  unfold containerSpots
  split
  · rename_i yes no _
    rcases branchLiteral_eq yes with hyes | ⟨l, hyes⟩ <;>
      rcases branchLiteral_eq no with hno | ⟨l', hno⟩ <;>
      simp [hyes, hno, Spot.Before, branchSpot]
  · exact List.Pairwise.nil

theorem pairwise_spotsAt (options : Options) (a : Address) (n : Node) :
    (spotsAt options a n).Pairwise Spot.Before := by
  unfold spotsAt
  split
  · exact pairwise_containerSpots a _
  · rename_i outer name children
    have hn : ∀ o e, Node.mk outer (.attr name) children ≠ .mk o .container [e] := by simp
    rcases nodeLiterals_eq options hn with h | ⟨l, h⟩ <;> simp [h]
  · rename_i hcontainer _
    rcases nodeLiterals_eq options hcontainer with h | ⟨l, h⟩ <;> simp [h]

/-- All spots of a module that have a key, in the order in which they are found. -/
def spots (options : Options) (m : Module) : List Spot :=
  (m.indexed.flatMap fun p => spotsAt options p.1 p.2).filter
    fun spot => slugify spot.literal.text != ""

theorem map_literal_spots (options : Options) (m : Module) :
    (spots options m).map (·.literal) = literals options m := by
  have hnodes : m.nodes.flatMap (nodeLiterals options) =
      (m.indexed.flatMap fun p => spotsAt options p.1 p.2).map (·.literal) := by
    rw [← m.map_snd_indexed, List.flatMap_map, List.map_flatMap]
    congr 1
    funext p
    exact (map_literal_spotsAt options p.1 p.2).symm
  rw [spots, literals, hnodes, List.filter_map]
  rfl

theorem IsSpot.exists_at? {options : Options} {m : Module} {spot : Spot}
    (h : IsSpot options m spot) : ∃ n, m.at? spot.visit = some n := by
  cases h with
  | text hat _ => exact ⟨_, hat⟩
  | branch hat _ _ _ _ => exact ⟨_, hat⟩
  | attr hat _ => exact ⟨_, hat⟩

theorem mem_spots {options : Options} {m : Module} {spot : Spot} :
    spot ∈ spots options m ↔ IsSpot options m spot ∧ slugify spot.literal.text ≠ "" := by
  rw [spots, List.mem_filter, List.mem_flatMap, bne_iff_ne]
  refine and_congr_left fun _ => ⟨?_, ?_⟩
  · rintro ⟨⟨a, n⟩, hmem, hspot⟩
    exact ((mem_spotsAt (Module.mem_indexed.mp hmem)).mp hspot).1
  · intro hspot
    obtain ⟨n, hat⟩ := hspot.exists_at?
    exact ⟨(spot.visit, n), Module.mem_indexed.mpr hat, (mem_spotsAt hat).mpr ⟨hspot, rfl⟩⟩

theorem pairwise_spots (options : Options) (m : Module) :
    (spots options m).Pairwise Spot.Before := by
  refine List.Pairwise.filter _ (List.pairwise_flatMap.mpr ⟨?_, ?_⟩)
  · exact fun p _ => pairwise_spotsAt options p.1 p.2
  · refine m.pairwise_indexed.imp_of_mem ?_
    intro p q hp hq hlt x hx y hy
    have hx' := ((mem_spotsAt (Module.mem_indexed.mp hp)).mp hx).2
    have hy' := ((mem_spotsAt (Module.mem_indexed.mp hq)).mp hy).2
    exact Or.inl (by rw [hx', hy']; exact hlt)

theorem append_cons_replicate_inj {i i' j j' : Nat} {xs ys : List Nat}
    (h : xs ++ (i + 1) :: List.replicate j 0 = ys ++ (i' + 1) :: List.replicate j' 0) :
    xs = ys ∧ i = i' := by
  -- The number in front of the zeros at the end is the last one that is not zero.
  have hback : List.replicate j 0 ++ (i + 1) :: xs.reverse =
      List.replicate j' 0 ++ (i' + 1) :: ys.reverse := by
    simpa using congrArg List.reverse h
  clear h
  induction j generalizing j' with
  | zero =>
      cases j' with
      | zero =>
          obtain ⟨hi, hxs⟩ := List.cons.inj hback
          exact ⟨List.reverse_inj.mp hxs, Nat.succ.inj hi⟩
      | succ j' => simp [List.replicate_succ] at hback
  | succ j ih =>
      cases j' with
      | zero => simp [List.replicate_succ] at hback
      | succ j' => exact ih (List.cons.inj hback).2

section

variable {m : Module} {a a' : Address} {outer outer' s s' : Span}
  {e e' test test' yes yes' no no' branch : Node} {i k k' : Nat}

theorem at?_container (hat : m.at? a = some (.mk outer .container [e])) (rest : Address) :
    m.at? (a ++ 0 :: rest) = e.at? rest := by
  rw [Module.at?_append hat]
  rfl

theorem at?_branch (hat : m.at? a = some (.mk outer .container [e]))
    (hconditional : Wraps k e (.mk s .conditional [test, yes, no]))
    (hbranch : [yes, no][i]? = some branch) (rest : Address) :
    m.at? (a ++ 0 :: (List.replicate k 0 ++ (i + 1) :: rest)) = branch.at? rest := by
  have hchild : (Node.mk s .conditional [test, yes, no]).children[i + 1]? = some branch := hbranch
  rw [at?_container hat, Node.at?_append, hconditional.at?, Option.bind_some, Node.at?, hchild,
    Option.bind_some]

/-- A container does not lie in the parentheses of another one. -/
theorem not_lt_of_containers (hat : m.at? a = some (.mk outer .container [e]))
    (hat' : m.at? a' = some (.mk outer' .container [e']))
    (hconditional' : Wraps k' e' (.mk s' .conditional [test', yes', no']))
    (h : a ++ List.replicate (k + 1) 0 = a' ++ List.replicate (k' + 1) 0) : ¬ k < k' := by
  intro hlt
  obtain ⟨d, rfl⟩ : ∃ d, k' = k + (d + 1) := ⟨k' - k - 1, by omega⟩
  have hsplit : List.replicate (k + (d + 1) + 1) 0 =
      List.replicate (d + 1) 0 ++ List.replicate (k + 1) 0 := by
    rw [List.replicate_append_replicate]
    congr 1
    omega
  rw [hsplit, ← List.append_assoc] at h
  have ha : a = a' ++ 0 :: List.replicate d 0 := List.append_cancel_right h
  obtain ⟨span, x, hparen⟩ := hconditional'.at?_of_lt (d := d) (by omega)
  rw [ha, at?_container hat', hparen] at hat
  cases hat

theorem address_inj_of_containers (hat : m.at? a = some (.mk outer .container [e]))
    (hconditional : Wraps k e (.mk s .conditional [test, yes, no]))
    (hat' : m.at? a' = some (.mk outer' .container [e']))
    (hconditional' : Wraps k' e' (.mk s' .conditional [test', yes', no']))
    (h : a ++ List.replicate (k + 1) 0 = a' ++ List.replicate (k' + 1) 0) : a = a' := by
  have hle := not_lt_of_containers hat hat' hconditional' h
  have hge := not_lt_of_containers hat' hat hconditional h.symm
  obtain rfl : k = k' := by omega
  exact List.append_cancel_right h

theorem branch_address_ne_attr {name : String} {children : List Node} {inner : Node} {j : Nat}
    (hat : m.at? a = some (.mk outer .container [e]))
    (hconditional : Wraps k e (.mk s .conditional [test, yes, no]))
    (hbranch : [yes, no][i]? = some branch) (hstring : Wraps j branch inner)
    (hat' : m.at? a' = some (.mk outer' (.attr name) children)) :
    a ++ 0 :: (List.replicate k 0 ++ (i + 1) :: List.replicate j 0) ≠ a' ++ [0] := by
  intro h
  cases j with
  | zero =>
      rw [List.replicate_zero, ← List.cons_append, ← List.append_assoc] at h
      have hlast : [i + 1] = [0] := (List.append_inj' h rfl).2
      cases hlast
  | succ j =>
      have hsplit : a ++ 0 :: (List.replicate k 0 ++ (i + 1) :: List.replicate (j + 1) 0) =
          (a ++ 0 :: (List.replicate k 0 ++ (i + 1) :: List.replicate j 0)) ++ [0] := by
        simp [List.replicate_succ']
      rw [hsplit] at h
      have ha' := List.append_cancel_right h
      obtain ⟨span, x, hparen⟩ := hstring.at?_of_lt (Nat.lt_succ_self j)
      rw [← ha', at?_branch hat hconditional hbranch, hparen] at hat'
      cases hat'

end

/-- At the address of a spot stands the text between tags that is visited, or a string. -/
theorem IsSpot.at?_address {options : Options} {m : Module} {spot : Spot}
    (h : IsSpot options m spot) :
    (spot.visit = spot.address ∧ spot.rank = 0 ∧ ∃ span raw value children,
        m.at? spot.address = some (.mk span (.markupText raw value) children)) ∨
      ∃ span value children,
        m.at? spot.address = some (.mk span (.string (some value)) children) := by
  cases h with
  | text hat _ => exact Or.inl ⟨rfl, rfl, _, _, _, _, hat⟩
  | branch hat hconditional hbranch hstring _ =>
      exact Or.inr ⟨_, _, _, (at?_branch hat hconditional hbranch _).trans hstring.at?⟩
  | attr hat _ => exact Or.inr ⟨_, _, _, Module.at?_append hat [0]⟩

/-- No text stands at two spots. -/
theorem IsSpot.eq_of_address_eq {options : Options} {m : Module} {p q : Spot}
    (hp : IsSpot options m p) (hq : IsSpot options m q) (h : p.address = q.address) :
    p.visit = q.visit ∧ p.rank = q.rank := by
  have hp' := hp.at?_address
  have hq' := hq.at?_address
  rw [h] at hp'
  rcases hp' with ⟨hpv, hpr, _, _, _, _, hpat⟩ | ⟨_, _, _, hpat⟩ <;>
    rcases hq' with ⟨hqv, hqr, _, _, _, _, hqat⟩ | ⟨_, _, _, hqat⟩
  · exact ⟨hpv.trans hqv.symm, hpr.trans hqr.symm⟩
  · cases hpat.symm.trans hqat
  · cases hpat.symm.trans hqat
  -- Two strings: both in branches or both in attributes.
  cases hp with
  | text hat _ =>
      rw [← h] at hqat
      cases hqat.symm.trans hat
  | branch hat hconditional hbranch hstring _ =>
      cases hq with
      | text hat' _ => cases hpat.symm.trans hat'
      | attr hat' _ => exact absurd h (branch_address_ne_attr hat hconditional hbranch hstring hat')
      | branch hat' hconditional' hbranch' hstring' _ =>
          have hsplit : ∀ (a : Address) (k i j : Nat),
              a ++ 0 :: (List.replicate k 0 ++ (i + 1) :: List.replicate j 0) =
                a ++ List.replicate (k + 1) 0 ++ (i + 1) :: List.replicate j 0 := by
            simp [List.replicate_succ]
          dsimp only at h
          rw [hsplit, hsplit] at h
          obtain ⟨hzeros, hrank⟩ := append_cons_replicate_inj h
          exact ⟨address_inj_of_containers hat hconditional hat' hconditional' hzeros, hrank⟩
  | attr hat _ =>
      cases hq with
      | text hat' _ => cases hpat.symm.trans hat'
      | attr hat' _ => exact ⟨List.append_cancel_right h, rfl⟩
      | branch hat' hconditional hbranch hstring _ =>
          exact absurd h.symm (branch_address_ne_attr hat' hconditional hbranch hstring hat)

theorem nodup_address_spots (options : Options) (m : Module) :
    ((spots options m).map (·.address)).Nodup := by
  rw [List.Nodup, List.pairwise_map]
  refine (pairwise_spots options m).imp_of_mem ?_
  intro p q hp hq hbefore heq
  obtain ⟨hvisit, hrank⟩ := (mem_spots.mp hp).1.eq_of_address_eq (mem_spots.mp hq).1 heq
  rcases hbefore with hlt | ⟨-, hlt⟩
  · rw [hvisit] at hlt
    exact List.lt_irrefl _ hlt
  · omega

/-- A module without text is left alone, and only such a module. -/
theorem migrateEligible_noText_iff (read : String → Option Module) (options : Options)
    (namespaceName : String) (quote : Char) (source : String) (m : Module) :
    (∃ diagnostics, migrateEligible read options namespaceName quote source m =
      .ok (.skipped .noText diagnostics)) ↔ literals options m = [] := by
  unfold migrateEligible
  simp only [List.isEmpty_iff]
  constructor
  · rintro ⟨diagnostics, h⟩
    split at h
    · assumption
    · split at h
      · cases h
      · split at h <;> cases h
  · intro hnone
    rw [if_pos hnone]
    exact ⟨_, rfl⟩

/-- The texts that are found are those of the spots with a key: each once, in the order in which
the tree is visited, and each with its own edit and entry. -/
theorem literals_eq_spots (options : Options) (m : Module) :
    ∃ found : List Spot,
      (∀ spot, spot ∈ found ↔ IsSpot options m spot ∧ slugify spot.literal.text ≠ "") ∧
      found.Pairwise Spot.Before ∧
      (found.map (·.address)).Nodup ∧
      (∀ c, (literals options m).map (fun l => (l.span, l.entry c)) =
        found.map fun spot => (spot.literal.span,
          ⟨c.name, slugify spot.literal.text, spot.literal.text⟩)) ∧
      (∀ c, (literals options m).map (fun l => (l.edit c).span) =
        found.map (·.literal.span)) ∧
      ∀ read namespaceName quote source,
        (∃ diagnostics, migrateEligible read options namespaceName quote source m =
          .ok (.skipped .noText diagnostics)) ↔ found = [] := by
  refine ⟨spots options m, fun _ => mem_spots, pairwise_spots options m,
    nodup_address_spots options m, fun c => ?_, fun c => ?_,
    fun read namespaceName quote source => ?_⟩
  · rw [← map_literal_spots, List.map_map]
    rfl
  · rw [← map_literal_spots, List.map_map]
    rfl
  · rw [migrateEligible_noText_iff, ← map_literal_spots, List.map_eq_nil_iff]

end Phrasebook.Component

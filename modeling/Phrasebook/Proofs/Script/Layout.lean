import Phrasebook.Proofs.Script.Paren
import Phrasebook.Proofs.Source.Fit

/-!
Where the nodes of a module lie in its source.

Children lie inside their parents and beside each other. It follows that strings and text between
tags, which have no children, are never cut: a node holds such a token whole or not at all, and so
it starts and ends in a gap between the tokens.
-/

namespace Phrasebook.Script

open Source (Span IsPlace slice?)

/-- The forms that are one token: strings, and text between tags. -/
def Form.isToken : Form → Bool
  | .string _ => true
  | .markupText _ _ => true
  | _ => false

/-- Whether a form can be written so: text between tags has its own text, and a block ends with
its brace. -/
def Form.isWritten : Form → List Char → Bool
  | .markupText raw _, text => text = raw.toList
  | .block, text => text.getLast? = some '\x7d'
  | _, _ => true

/-- Siblings share no byte. The function of a method is the one exception: it starts with the key,
which then lies beside all that is in the function. -/
def Node.Beside (a b : Node) : Prop :=
  a.span.Apart b.span ∨
    b.form = .functionLiteral ∧ b.span.Covers a.span ∧ ∀ c ∈ b.children, a.span.Apart c.span

instance (a b : Node) : Decidable (a.Beside b) := inferInstanceAs (Decidable (_ ∨ _ ∧ _ ∧ _))

/-- A node lies in the source, and its children lie in order inside it. -/
structure Node.Placed (source : List Char) (n : Node) : Prop where
  written : (slice? source n.span).any n.form.isWritten = true
  inside : ∀ c ∈ n.children, n.span.Covers c.span
  beside : n.children.Pairwise Node.Beside
  leaf : n.form.isToken = true → n.children = []
  /-- The closing brace of a block belongs to none of its statements. -/
  brace : n.form = .block → ∀ c ∈ n.children, c.span.stop < n.span.stop

instance (source : List Char) (n : Node) : Decidable (n.Placed source) :=
  decidable_of_iff
    ((slice? source n.span).any n.form.isWritten = true ∧
      (∀ c ∈ n.children, n.span.Covers c.span) ∧ n.children.Pairwise Node.Beside ∧
      (n.form.isToken = true → n.children = []) ∧
      (n.form = .block → ∀ c ∈ n.children, c.span.stop < n.span.stop))
    ⟨fun ⟨hwritten, hinside, hbeside, hleaf, hbrace⟩ =>
        ⟨hwritten, hinside, hbeside, hleaf, hbrace⟩,
      fun h => ⟨h.written, h.inside, h.beside, h.leaf, h.brace⟩⟩

/-- A module as a node of its own, above its items. -/
def Module.root (m : Module) : Node := .mk m.span .other m.items

def Module.Placed (source : List Char) (m : Module) : Prop :=
  ∀ n ∈ m.root.preorder, n.Placed source

instance (source : List Char) (m : Module) : Decidable (m.Placed source) :=
  inferInstanceAs (Decidable (∀ n ∈ m.root.preorder, n.Placed source))

theorem Node.mem_preorder_iff {n x : Node} : x ∈ n.preorder ↔ ∃ a, n.at? a = some x := by
  rw [← n.map_snd_indexed [], List.mem_map]
  constructor
  · rintro ⟨⟨a, y⟩, hy, rfl⟩
    obtain ⟨rest, -, hat⟩ := (Node.mem_indexed [] a y n).mp hy
    exact ⟨rest, hat⟩
  · rintro ⟨a, hat⟩
    exact ⟨(a, x), (Node.mem_indexed [] a x n).mpr ⟨a, rfl, hat⟩, rfl⟩

theorem Node.mem_preorder_trans {n x y : Node} (hx : x ∈ n.preorder) (hy : y ∈ x.preorder) :
    y ∈ n.preorder := by
  obtain ⟨a, ha⟩ := Node.mem_preorder_iff.mp hx
  obtain ⟨b, hb⟩ := Node.mem_preorder_iff.mp hy
  exact Node.mem_preorder_iff.mpr ⟨a ++ b, by rw [Node.at?_append, ha, Option.bind_some, hb]⟩

theorem Module.mem_preorder_root {m : Module} {n : Node} (h : n ∈ m.nodes) :
    n ∈ m.root.preorder :=
  List.mem_cons_of_mem m.root h

theorem Module.root_at? {m : Module} {a : Address} {n : Node} (h : m.at? a = some n) :
    m.root.at? a = some n := by
  cases a with
  | nil => cases h
  | cons i rest => exact h

theorem Node.Placed.slice? {source : List Char} {n : Node} (h : n.Placed source) :
    ∃ text, slice? source n.span = some text ∧ n.form.isWritten text = true :=
  (Option.any_eq_true ..).mp h.written

theorem Node.Placed.within {source : List Char} {n : Node} (h : n.Placed source) :
    n.span.Within source := by
  obtain ⟨text, htext, -⟩ := h.slice?
  exact Option.isSome_iff_exists.mpr ⟨text, htext⟩

section

variable {source : List Char}

/-- The nodes below a node of which all lie in place. -/
theorem placed_of_child {n c : Node} (hn : ∀ x ∈ n.preorder, x.Placed source)
    (hc : c ∈ n.children) : ∀ x ∈ c.preorder, x.Placed source :=
  fun x hx => hn x (Node.mem_preorder_of_mem_children hc hx)

theorem covers_of_at? {n x : Node} {a : Address} (hn : ∀ y ∈ n.preorder, y.Placed source)
    (hx : n.at? a = some x) : n.span.Covers x.span := by
  induction a generalizing n with
  | nil =>
      obtain rfl := Option.some.inj hx
      exact Span.Covers.refl _
  | cons i rest ih =>
      obtain ⟨c, hi, hrest⟩ := Option.bind_eq_some_iff.mp hx
      have hc : c ∈ n.children := List.mem_of_getElem? hi
      exact ((hn n n.mem_preorder_self).inside c hc).trans (ih (placed_of_child hn hc) hrest)

/-- What lies in two siblings shares no byte, unless one is the function that the other is the key
of. -/
theorem Node.Beside.apart_or {a b x y : Node} {p q : Address} (h : a.Beside b)
    (ha : ∀ z ∈ a.preorder, z.Placed source) (hb : ∀ z ∈ b.preorder, z.Placed source)
    (hx : a.at? p = some x) (hy : b.at? q = some y) :
    x.span.Apart y.span ∨ y.form = .functionLiteral ∧ y.span.Covers x.span := by
  have hcovers := covers_of_at? ha hx
  rcases h with hapart | ⟨hform, hkey, hchildren⟩
  · exact Or.inl (hapart.mono hcovers (covers_of_at? hb hy))
  · cases q with
    | nil =>
        obtain rfl := Option.some.inj hy
        exact Or.inr ⟨hform, hkey.trans hcovers⟩
    | cons i rest =>
        obtain ⟨c, hi, hrest⟩ := Option.bind_eq_some_iff.mp hy
        have hc : c ∈ b.children := List.mem_of_getElem? hi
        exact Or.inl ((hchildren c hc).mono hcovers
          (covers_of_at? (placed_of_child hb hc) hrest))

/-- A node that holds a token whole. A block has its brace behind it. -/
structure Node.Holds (x t : Node) : Prop where
  isToken : x.form.isToken = false
  covers : x.span.Covers t.span
  brace : x.form = .block → t.span.stop < x.span.stop

theorem holds_of_at?_cons {n t : Node} {i : Nat} {rest : Address}
    (hn : ∀ y ∈ n.preorder, y.Placed source) (ht : n.at? (i :: rest) = some t) : n.Holds t := by
  have hself := hn n n.mem_preorder_self
  obtain ⟨c, hi, hrest⟩ := Option.bind_eq_some_iff.mp ht
  have hc : c ∈ n.children := List.mem_of_getElem? hi
  refine ⟨?_, covers_of_at? hn ht, ?_⟩
  · apply Bool.eq_false_iff.mpr
    intro htoken
    rw [hself.leaf htoken] at hc
    cases hc
  · intro hblock
    have hstop := (covers_of_at? (placed_of_child hn hc) hrest).2
    exact Nat.lt_of_le_of_lt hstop (hself.brace hblock c hc)

/-- A node holds a token whole, or shares no byte with it. -/
theorem apart_or_holds {n x t : Node} {a b : Address} (hn : ∀ y ∈ n.preorder, y.Placed source)
    (hx : n.at? a = some x) (ht : n.at? b = some t) (htoken : t.form.isToken = true)
    (hne : a ≠ b) : x.span.Apart t.span ∨ x.Holds t := by
  induction a generalizing n b with
  | nil =>
      cases b with
      | nil => exact absurd rfl hne
      | cons j rest =>
          obtain rfl := Option.some.inj hx
          exact Or.inr (holds_of_at?_cons hn ht)
  | cons i rest ih =>
      cases b with
      | nil =>
          obtain rfl := Option.some.inj ht
          have hholds := holds_of_at?_cons hn hx
          rw [hholds.isToken] at htoken
          cases htoken
      | cons j rest' =>
          obtain ⟨c, hi, hrest⟩ := Option.bind_eq_some_iff.mp hx
          obtain ⟨d, hj, hrest'⟩ := Option.bind_eq_some_iff.mp ht
          have hc := placed_of_child hn (List.mem_of_getElem? hi)
          have hd := placed_of_child hn (List.mem_of_getElem? hj)
          have hbeside := List.pairwise_iff_getElem.mp (hn n n.mem_preorder_self).beside
          obtain ⟨hilt, rfl⟩ := List.getElem?_eq_some_iff.mp hi
          obtain ⟨hjlt, rfl⟩ := List.getElem?_eq_some_iff.mp hj
          rcases Nat.lt_trichotomy i j with hlt | rfl | hgt
          · rcases (hbeside i j hilt hjlt hlt).apart_or hc hd hrest hrest' with h | ⟨hform, -⟩
            · exact Or.inl h
            · rw [hform] at htoken
              cases htoken
          · exact ih hc hrest hrest' (by simpa using hne)
          · rcases (hbeside j i hjlt hilt hgt).apart_or hd hc hrest' hrest with h | ⟨hform, h⟩
            · exact Or.inl h.symm
            · exact Or.inr ⟨by rw [hform]; rfl, h, by simp [hform]⟩

variable {m : Module}

/-- A place of the source that does not lie inside a token. -/
structure Module.IsGap (source : List Char) (m : Module) (offset : Nat) : Prop where
  isPlace : IsPlace source offset
  beside : ∀ a t, m.at? a = some t → t.form.isToken = true →
    offset ≤ t.span.start ∨ t.span.stop ≤ offset

theorem Module.Placed.apart_or_holds (h : m.Placed source) {n t : Node} {a b : Address}
    (hn : m.root.at? a = some n) (ht : m.at? b = some t) (htoken : t.form.isToken = true) :
    n = t ∨ n.span.Apart t.span ∨ n.Holds t := by
  have ht' := Module.root_at? ht
  by_cases hab : a = b
  · rw [hab, ht'] at hn
    exact Or.inl (Option.some.inj hn).symm
  · exact Or.inr (Script.apart_or_holds h hn ht' htoken hab)

theorem Module.Placed.isGap_start (h : m.Placed source) {n : Node} (hn : n ∈ m.root.preorder) :
    m.IsGap source n.span.start := by
  have hwithin := (h n hn).within
  have hle := hwithin.start_le_stop
  obtain ⟨a, ha⟩ := Node.mem_preorder_iff.mp hn
  refine ⟨hwithin.isPlace_start, ?_⟩
  intro b t ht htoken
  rcases h.apart_or_holds ha ht htoken with rfl | (hapart | hapart) | hholds
  · exact Or.inl (Nat.le_refl _)
  · exact Or.inl (by omega)
  · exact Or.inr hapart
  · exact Or.inl hholds.covers.1

theorem Module.Placed.isGap_stop (h : m.Placed source) {n : Node} (hn : n ∈ m.root.preorder) :
    m.IsGap source n.span.stop := by
  have hwithin := (h n hn).within
  have hle := hwithin.start_le_stop
  obtain ⟨a, ha⟩ := Node.mem_preorder_iff.mp hn
  refine ⟨hwithin.isPlace_stop, ?_⟩
  intro b t ht htoken
  rcases h.apart_or_holds ha ht htoken with rfl | (hapart | hapart) | hholds
  · exact Or.inr (Nat.le_refl _)
  · exact Or.inl hapart
  · exact Or.inr (by omega)
  · exact Or.inr hholds.covers.2

theorem Node.Placed.isPlace_brace {n : Node} (h : n.Placed source) (hblock : n.form = .block) :
    n.span.start < n.span.stop ∧ IsPlace source (n.span.stop - 1) := by
  obtain ⟨text, htext, hwritten⟩ := h.slice?
  rw [hblock] at hwritten
  obtain ⟨inner, rfl⟩ : ∃ inner, text = inner ++ ['\x7d'] :=
    List.getLast?_eq_some_iff.mp (of_decide_eq_true hwritten)
  obtain ⟨front, back, hsource, hstart, hstop⟩ := Source.slice?_eq_some_iff.mp htext
  have hbrace : Text.byteLength ['\x7d'] = 1 := by decide
  simp only [Text.byteLength_append, hbrace] at hstop
  refine ⟨by omega, front ++ inner, ['\x7d'] ++ back, by simpa using hsource, ?_⟩
  rw [Text.byteLength_append]
  omega

theorem Module.Placed.isGap_brace (h : m.Placed source) {n : Node} (hn : n ∈ m.root.preorder)
    (hblock : n.form = .block) : m.IsGap source (n.span.stop - 1) := by
  obtain ⟨hlt, hplace⟩ := (h n hn).isPlace_brace hblock
  obtain ⟨a, ha⟩ := Node.mem_preorder_iff.mp hn
  refine ⟨hplace, ?_⟩
  intro b t ht htoken
  rcases h.apart_or_holds ha ht htoken with rfl | (hapart | hapart) | hholds
  · rw [hblock] at htoken
    cases htoken
  · exact Or.inl (by omega)
  · exact Or.inr (by omega)
  · have hstop := hholds.brace hblock
    exact Or.inr (by omega)

end

end Phrasebook.Script

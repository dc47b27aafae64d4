import Phrasebook.Proofs.Component.Accessor
import Phrasebook.Proofs.Component.Edits
import Phrasebook.Proofs.Result

/-!
Which lookups the accessor of a function component reaches.

The hook is called in the body of one function. A lookup stands in that body if the text that it
replaces does, and it is apart from the body if the text is: in another function, or in a parameter.
Nothing is reported then. The only thing that is reported is a component without a function that can
call the hook.
-/

namespace Phrasebook

namespace Script

open Source (Span)

variable {source : List Char}

theorem Node.Beside.apart_or_key {a b x y : Node} {p q : Address} (h : a.Beside b)
    (ha : ∀ z ∈ a.preorder, z.Placed source) (hb : ∀ z ∈ b.preorder, z.Placed source)
    (hx : a.at? p = some x) (hy : b.at? q = some y) (hform : y.form ≠ .functionLiteral) :
    x.span.Apart y.span := by
  rcases h.apart_or ha hb hx hy with hapart | ⟨hfunction, -⟩
  · exact hapart
  · exact absurd hfunction hform

/-- A node that is no function of a method shares no byte with a token that is not below it. -/
theorem apart_of_not_prefix {n x t : Node} {a b : Address}
    (hn : ∀ y ∈ n.preorder, y.Placed source) (hx : n.at? a = some x) (ht : n.at? b = some t)
    (htoken : t.form.isToken = true) (hform : x.form ≠ .functionLiteral) (h : ¬ a <+: b) :
    x.span.Apart t.span := by
  have htoken' : t.form ≠ .functionLiteral := by
    intro hfunction
    rw [hfunction] at htoken
    cases htoken
  induction a generalizing n b with
  | nil => exact absurd List.nil_prefix h
  | cons i rest ih =>
      cases b with
      | nil =>
          obtain rfl := Option.some.inj ht
          have hholds := holds_of_at?_cons hn hx
          rw [hholds.isToken] at htoken
          cases htoken
      | cons j rest' =>
          obtain ⟨c, hi, hrest⟩ := Option.bind_eq_some_iff.mp hx
          obtain ⟨d, hj, hrest'⟩ := Option.bind_eq_some_iff.mp ht
          have hc := placed_of_child hn (List.mem_of_getElem? hi)
          have hd := placed_of_child hn (List.mem_of_getElem? hj)
          have hbeside := List.pairwise_iff_getElem.mp (hn n n.mem_preorder_self).beside
          obtain ⟨hilt, rfl⟩ := List.getElem?_eq_some_iff.mp hi
          obtain ⟨hjlt, rfl⟩ := List.getElem?_eq_some_iff.mp hj
          rcases Nat.lt_trichotomy i j with hlt | rfl | hgt
          · exact (hbeside i j hilt hjlt hlt).apart_or_key hc hd hrest hrest' htoken'
          · refine ih hc hrest hrest' fun hbelow => h ?_
            exact List.cons_prefix_cons.mpr ⟨rfl, hbelow⟩
          · exact ((hbeside j i hjlt hilt hgt).apart_or_key hd hc hrest' hrest hform).symm

/-- The parameters of an arrow function stand in front of its body. -/
def Module.ArrowsInOrder (m : Module) : Prop :=
  ∀ n ∈ m.nodes, n.form = .arrow → n.children.Pairwise fun a b => a.span.stop ≤ b.span.start

instance (m : Module) : Decidable m.ArrowsInOrder :=
  inferInstanceAs (Decidable (∀ n ∈ m.nodes, n.form = .arrow →
    n.children.Pairwise fun a b => a.span.stop ≤ b.span.start))

/-- The expression of an arrow function shares no byte with a token that is not in it. -/
theorem Module.Placed.apart_expression {m : Module} (hm : m.Placed source)
    (harrows : m.ArrowsInOrder) {a b : Address} {span : Span} {front : List Node} {body t : Node}
    (harrow : m.at? a = some (.mk span .arrow (front ++ [body]))) (ht : m.at? b = some t)
    (htoken : t.form.isToken = true) (h : ¬ a ++ [front.length] <+: b) :
    body.span.Apart t.span := by
  have hroot := Module.root_at? harrow
  have hplaced : ∀ x ∈ (Node.mk span .arrow (front ++ [body])).preorder, x.Placed source :=
    fun x hx => hm x (Node.mem_preorder_trans (Node.mem_preorder_iff.mpr ⟨a, hroot⟩) hx)
  by_cases hbelow : a <+: b
  · obtain ⟨rest, rfl⟩ := hbelow
    rw [Module.at?_append harrow] at ht
    cases rest with
    | nil =>
        obtain rfl := Option.some.inj ht
        cases htoken
    | cons j rest =>
        -- The token stands in a parameter.
        obtain ⟨c, hj, hrest⟩ := Option.bind_eq_some_iff.mp ht
        have hne : j ≠ front.length := by
          rintro rfl
          exact h (List.prefix_append_right_inj _ |>.mpr (by simp))
        obtain ⟨hjlt, hget⟩ := List.getElem?_eq_some_iff.mp hj
        simp only [Node.children, List.length_append, List.length_singleton] at hjlt
        have hc : c ∈ front := by
          have hlt : j < front.length := by omega
          rw [Node.children, List.getElem?_append_left hlt] at hj
          exact List.mem_of_getElem? hj
        have horder := harrows _ (Module.mem_nodes_of_at? harrow) rfl
        have hstop := (List.pairwise_append.mp horder).2.2 c hc body (List.mem_singleton_self _)
        have hcovers := covers_of_at? (placed_of_child hplaced
          (List.mem_append_left [body] hc)) hrest
        exact Or.inr (Nat.le_trans hcovers.2 hstop)
  · have hapart := apart_of_not_prefix hm hroot (Module.root_at? ht) htoken (by simp [Node.form])
      hbelow
    have hinside := (hplaced _ (Node.mem_preorder_self _)).inside body
      (List.mem_append_right _ (List.mem_singleton_self _))
    exact hapart.mono hinside (Span.Covers.refl _)

end Script

namespace Component

open Script
open Source (Edit Span)

/-- The part of a host that the hook is called in. -/
def Host.body : Host → Node
  | .block body => body
  | .expression _ body => body

/-- A host is a function with parameters and a body: the node itself, or an arrow function that is
bound to the name. -/
theorem IsHost.exists_function {name : String} {n : Node} {host : Host} (h : IsHost name n host) :
    ∃ way span form params, n.at? way = some (.mk span form (params ++ [host.body])) ∧
      (form = .arrow ∨ form = .function (some name) ∧ host.body.form = .block) := by
  have hvalue : ∀ {span target : Span} {inner : List Node} {value arrow : Node} {k : Nat},
      Wraps k value arrow → (Node.mk span .declarator
        [.mk target (.binding name) inner, value]).at? (1 :: List.replicate k 0) = some arrow := by
    intro span target inner value arrow k hwraps
    rw [Node.at?, Node.children, List.getElem?_cons_succ, List.getElem?_cons_zero,
      Option.bind_some, hwraps.at?]
  cases h with
  | function hbody => exact ⟨[], _, _, _, rfl, Or.inr ⟨rfl, hbody⟩⟩
  | block hwraps hbody => exact ⟨_, _, _, _, hvalue hwraps, Or.inl rfl⟩
  | expression hwraps hbody => exact ⟨_, _, _, _, hvalue hwraps, Or.inl rfl⟩

/-- The function that is visited first among those of a name, and the address of its body. -/
def BodyAt (m : Module) (name : String) (host : Host) (body : Address) : Prop :=
  ∃ a n way span form params, m.at? a = some n ∧ IsHost name n host ∧
    (∀ b < a, ∀ x, m.at? b = some x → ∀ other, ¬ IsHost name x other) ∧
    n.at? way = some (.mk span form (params ++ [host.body])) ∧
    (form = .arrow ∨ form = .function (some name) ∧ host.body.form = .block) ∧
    body = a ++ way ++ [params.length]

theorem exists_bodyAt {m : Module} {name : String} {host : Host} (h : FirstHost m name host) :
    ∃ body, BodyAt m name host body := by
  obtain ⟨n, ⟨a, hat, -, hfirst⟩, hhost⟩ := h
  obtain ⟨way, span, form, params, hway, hform⟩ := hhost.exists_function
  exact ⟨_, a, n, way, span, form, params, hat, hhost,
    fun b hb x hx other hother => hfirst b hb x hx ⟨other, hother⟩, hway, hform, rfl⟩

section

variable {source : List Char} {m : Module} {name : String} {host : Host} {body : Address}

theorem BodyAt.at? (h : BodyAt m name host body) : m.at? body = some host.body := by
  obtain ⟨a, n, way, span, form, params, hat, -, -, hway, -, rfl⟩ := h
  rw [List.append_assoc, Module.at?_append hat, Node.at?_append, hway]
  simp [Node.at?, Node.children]

theorem BodyAt.host_eq {other : Host} {body' : Address} (h : BodyAt m name host body)
    (h' : BodyAt m name other body') : host = other := by
  obtain ⟨a, n, -, -, -, -, hat, hhost, hfirst, -⟩ := h
  obtain ⟨b, x, -, -, -, -, hat', hhost', hfirst', -⟩ := h'
  have hle := List.not_lt.mp fun hlt => hfirst b hlt x hat' other hhost'
  have hge := List.not_lt.mp fun hlt => hfirst' a hlt n hat host hhost
  obtain rfl := List.le_antisymm hle hge
  obtain rfl := Option.some.inj (hat.symm.trans hat')
  exact Option.some.inj ((host?_eq_some_iff.mpr hhost).symm.trans (host?_eq_some_iff.mpr hhost'))

/-- A token shares no byte with the body of a function that it does not stand in. -/
theorem BodyAt.apart (h : BodyAt m name host body) (hm : m.Placed source)
    (harrows : m.ArrowsInOrder) {b : Address} {t : Node} (ht : m.at? b = some t)
    (htoken : t.form.isToken = true) (hbelow : ¬ body <+: b) : host.body.span.Apart t.span := by
  have hbody := h.at?
  obtain ⟨a, n, way, span, form, params, hat, -, -, hway, hform, rfl⟩ := h
  rcases hform with rfl | ⟨-, hblock⟩
  · have harrow : m.at? (a ++ way) = some (.mk span .arrow (params ++ [host.body])) := by
      rw [Module.at?_append hat, hway]
    exact hm.apart_expression harrows harrow ht htoken hbelow
  · exact apart_of_not_prefix hm (Module.root_at? hbody) (Module.root_at? ht) htoken
      (by simp [hblock]) hbelow

/-- A text lies in the body of the function if it stands there, and else it is apart from it. -/
theorem BodyAt.covers_or_apart (h : BodyAt m name host body) (hm : m.Placed source)
    (harrows : m.ArrowsInOrder) {options : Options} {spot : Spot} (hspot : IsSpot options m spot) :
    (body <+: spot.address → host.body.span.Covers spot.literal.span) ∧
      (¬ body <+: spot.address → host.body.span.Apart spot.literal.span) := by
  obtain ⟨t, ht, htoken, hcovers, -⟩ := hspot.exists_token hm
  constructor
  · rintro ⟨rest, hrest⟩
    rw [← hrest, Module.at?_append h.at?] at ht
    have hbody : host.body ∈ m.root.preorder :=
      Node.mem_preorder_iff.mpr ⟨body, Module.root_at? h.at?⟩
    exact (covers_of_at? (fun x hx => hm x (Node.mem_preorder_trans hbody hx)) ht).trans hcovers
  · intro hbelow
    exact (h.apart hm harrows ht htoken hbelow).mono (Span.Covers.refl _) hcovers

theorem BodyAt.liesIn (h : BodyAt m name host body) : host.LiesIn m.root := by
  obtain ⟨a, n, -, -, -, -, hat, hhost, -⟩ := h
  exact (liesIn_of_host? (host?_eq_some_iff.mpr hhost)).mono
    (Module.mem_preorder_root (Module.mem_nodes_of_at? hat))

/-- The declaration is put inside the body. -/
theorem Declares.covers {t : Target} {edits : List Edit} (h : Declares source t host edits)
    (hhost : host.LiesIn m.root) (hm : m.Placed source) :
    ∀ e ∈ edits, host.body.span.Covers e.span := by
  cases h with
  | @first body first hleads =>
      obtain ⟨front, rest, hchildren, -, -⟩ := hleads
      have hfirst : first ∈ body.children := by
        rw [hchildren]
        exact List.mem_append_right _ List.mem_cons_self
      have hplaced := hm first (Node.mem_preorder_trans hhost.1
        (Node.mem_preorder_of_mem_children hfirst first.mem_preorder_self))
      have hinside := (hm body hhost.1).inside first hfirst
      intro e he
      obtain rfl := List.mem_singleton.mp he
      exact ⟨hinside.1, Nat.le_trans hplaced.within.start_le_stop hinside.2⟩
  | @last body hdirectives =>
      have hbrace := ((hm body hhost.1).isPlace_brace hhost.2).1
      intro e he
      obtain rfl := List.mem_singleton.mp he
      exact ⟨Nat.le_sub_one_of_lt hbrace, Nat.sub_le _ _⟩
  | @around arrow body =>
      have hle := (hm body hhost).within.start_le_stop
      intro e he
      rcases List.mem_cons.mp he with rfl | he
      · exact ⟨Nat.le_refl _, hle⟩
      · obtain rfl := List.mem_singleton.mp he
        exact ⟨hle, Nat.le_refl _⟩

end

theorem Provides.missing_iff {source : List Char} {c : Identity} {t : Target} {m : Module}
    {outcome : Access} {edits : List Edit} (h : Provides source c t m outcome edits) :
    outcome = .missing ↔ ¬ HasPlace c m := by
  rw [← h.injected_iff]
  cases h <;> simp

/-- What a migration reports: a component without a name, and one without an accessor. -/
theorem diagnostics_of_migrateEligible {read : String → Option Module} {options : Options}
    {namespaceName source : String} {quote : Char} {m : Module} {file : Migrated}
    (h : migrateEligible read options namespaceName quote source m = .ok (.migrated file)) :
    file.diagnostics =
      (if (classify options m).hasName then [] else [.unresolvedName]) ++
        if (access options source.toList (classify options m) ⟨namespaceName, quote⟩ m true).1 =
          .missing then [.accessMissing] else [] := by
  unfold migrateEligible at h
  simp only at h
  split at h
  · cases h
  split at h
  · cases h
  split at h
  · cases h
  · cases h
    rfl

theorem accessMissing_mem_diagnostics_iff {read : String → Option Module} {options : Options}
    {namespaceName source : String} {quote : Char} {m : Module} {file : Migrated}
    (h : migrateEligible read options namespaceName quote source m = .ok (.migrated file)) :
    .accessMissing ∈ file.diagnostics ↔
      (access options source.toList (classify options m) ⟨namespaceName, quote⟩ m true).1 =
        .missing := by
  rw [diagnostics_of_migrateEligible h]
  split <;> split <;> simp_all

/-- A missing accessor is reported if no function can hold it, and only then. Otherwise the first
function of the component's name gets the declaration, and nothing is reported. A lookup then stands
in the body of that function if the text that it replaces does; in any other place it is apart from
the body. -/
theorem lookups_in_body_or_apart {read : String → Option Module} {options : Options}
    {namespaceName source : String} {file : Migrated}
    (hread : ∀ m, read source = some m → m.Placed source.toList ∧ m.ArrowsInOrder)
    (h : migrateWith read options namespaceName source = .ok (.migrated file))
    (hfunction : file.component.isClass = false) :
    ∃ m quote, read source = some m ∧ eligibility options m = .eligible quote ∧
      (.accessMissing ∈ file.diagnostics ↔ ¬ HasPlace file.component m) ∧
      (.accessMissing ∉ file.diagnostics → file.diagnostics = [] ∧
        ∃ host body accessor imported, BodyAt m file.component.name host body ∧
          Declares source.toList ⟨namespaceName, quote⟩ host accessor ∧
          isImport imported = true ∧
          Source.applyEdits source ((spots options m).map (·.literal.edit file.component) ++
            accessor ++ [imported]) = .ok file.code ∧
          (∀ e ∈ accessor, host.body.span.Covers e.span) ∧
          ∀ spot ∈ spots options m,
            (body <+: spot.address → host.body.span.Covers spot.literal.span) ∧
            (¬ body <+: spot.address → host.body.span.Apart spot.literal.span)) := by
  obtain ⟨m, quote, hm, heligible, hmigrated⟩ := exists_of_migrateWith h
  obtain ⟨-, hcode, -, hcomponent, -⟩ := exists_of_migrateEligible hmigrated
  obtain ⟨hplaced, harrows⟩ := hread m hm
  have hmissing := accessMissing_mem_diagnostics_iff hmigrated
  have hprovides := provides_access options source.toList (classify options m)
    ⟨namespaceName, quote⟩ m
  have hdiagnostics := diagnostics_of_migrateEligible hmigrated
  rw [hcomponent] at hfunction ⊢
  rw [rewriteEdits, ← map_literal_spots, List.map_map] at hcode
  refine ⟨m, quote, hm, heligible, ?_, fun hreported => ?_⟩
  · rw [hmissing, hprovides.missing_iff]
  · rw [hmissing] at hreported
    rw [if_neg hreported, List.append_nil] at hdiagnostics
    generalize (access options source.toList (classify options m) ⟨namespaceName, quote⟩ m
      true).1 = outcome at hprovides hreported
    generalize (accessorEdits? source.toList (classify options m) ⟨namespaceName, quote⟩ m).getD
      [] = accessor at hprovides hcode
    cases hprovides with
    | hook hclass hname hhost hedits =>
        obtain ⟨body, hbody⟩ := exists_bodyAt hhost
        rw [if_pos (by simpa [Identity.hasName] using hname)] at hdiagnostics
        refine ⟨hdiagnostics, _, body, _, _, hbody, hedits, isImport_importEdit options _ _ m,
          hcode, hedits.covers hbody.liesIn hplaced, fun spot hspot => ?_⟩
        exact hbody.covers_or_apart hplaced harrows (mem_spots.mp hspot).1
    | wrapper hclass hvalue =>
        rw [hclass] at hfunction
        cases hfunction
    | nothing hnone hclass => exact absurd rfl hreported

/-- A component with a text of its own, beside a helper that has one too. -/
def list : String :=
  "import R from 'react';\nconst Row = () => <i>Row</i>;\n" ++
  "export default function List() \x7b return <b>Items</b>; \x7d\n"

def migratedList : String :=
  "import \x7b useTranslation \x7d from 'react-i18next';\nimport R from 'react';\n" ++
  "const Row = () => <i>\x7bt('List.row')\x7d</i>;\nexport default function List() \x7b " ++
  "const \x7b t \x7d = useTranslation('Common');\nreturn <b>\x7bt('List.items')\x7d</b>; \x7d\n"

def listBody : Node :=
  .mk ⟨84, 108⟩ .block
    [.mk ⟨86, 106⟩ .other [.mk ⟨93, 105⟩ .other [.mk ⟨96, 101⟩ (.markupText "Items" "Items") []]]]

def listModule : Module :=
  ⟨⟨0, 108⟩,
    [.mk ⟨0, 22⟩ (.importFrom ⟨some "react", '\''⟩ ["R"]) [],
     .mk ⟨23, 52⟩ .variableList
      [.mk ⟨29, 51⟩ .declarator
        [.mk ⟨29, 32⟩ (.binding "Row") [],
         .mk ⟨35, 51⟩ .arrow
          [.mk ⟨41, 51⟩ .other [.mk ⟨44, 47⟩ (.markupText "Row" "Row") []]]]],
     .mk ⟨53, 108⟩ .exportDefault [.mk ⟨68, 108⟩ (.function (some "List")) [listBody]]]⟩

def migratedListModule : Module :=
  ⟨⟨0, 220⟩,
    [.mk ⟨0, 47⟩ (.importFrom ⟨some "react-i18next", '\''⟩ ["useTranslation"]) [],
     .mk ⟨48, 70⟩ (.importFrom ⟨some "react", '\''⟩ ["R"]) [],
     .mk ⟨71, 112⟩ .variableList
      [.mk ⟨77, 111⟩ .declarator
        [.mk ⟨77, 80⟩ (.binding "Row") [],
         .mk ⟨83, 111⟩ .arrow
          [.mk ⟨89, 111⟩ .other [.mk ⟨92, 107⟩ .container [.mk ⟨93, 106⟩ .other
            [.mk ⟨93, 94⟩ (.identifier "t") [],
             .mk ⟨95, 105⟩ (.string (some "List.row")) []]]]]]],
     .mk ⟨113, 220⟩ .exportDefault
      [.mk ⟨128, 220⟩ (.function (some "List"))
        [.mk ⟨144, 220⟩ .block
          [.mk ⟨146, 185⟩ .variableList
            [.mk ⟨152, 184⟩ .declarator
              [.mk ⟨152, 157⟩ .other [.mk ⟨154, 155⟩ (.binding "t") []],
               .mk ⟨160, 184⟩ .other
                [.mk ⟨160, 174⟩ (.identifier "useTranslation") [],
                 .mk ⟨175, 183⟩ (.string (some "Common")) []]]],
           .mk ⟨186, 218⟩ .other
            [.mk ⟨193, 217⟩ .other [.mk ⟨196, 213⟩ .container [.mk ⟨197, 212⟩ .other
              [.mk ⟨197, 198⟩ (.identifier "t") [],
               .mk ⟨199, 211⟩ (.string (some "List.items")) []]]]]]]]]⟩

def rowSpot : Spot := ⟨[1, 0, 1, 0, 0], 0, [1, 0, 1, 0, 0], ⟨⟨44, 47⟩, "Row", true⟩⟩

def itemsSpot : Spot := ⟨[2, 0, 0, 0, 0, 0], 0, [2, 0, 0, 0, 0, 0], ⟨⟨96, 101⟩, "Items", true⟩⟩

theorem parse_list : Script.parse .jsx list = some listModule ∧
    Script.parse .jsx migratedList = some migratedListModule := by
  constructor <;> decide +kernel

theorem spots_list : spots {} listModule = [rowSpot, itemsSpot] := by
  decide +kernel

theorem firstHost_list : FirstHost listModule "List" (.block listBody) :=
  firstHost_of_findSome? (by rfl)

theorem migrateWith_list {read : String → Option Module} (hlist : read list = some listModule)
    (hmigrated : read migratedList = some migratedListModule) :
    ∃ file, migrateWith read {} "Common" list = .ok (.migrated file) ∧ file.code = migratedList ∧
      file.component = ⟨"List", false⟩ ∧ file.diagnostics = [] := by
  have heligible : eligibility {} listModule = .eligible '\'' := by decide +kernel
  have hedits : rewriteEdits {} list.toList ⟨"Common", '\''⟩ listModule ++
      [importEdit {} (classify {} listModule) ⟨"Common", '\''⟩ listModule] =
        [⟨⟨44, 47⟩, "\x7bt('List.row')\x7d"⟩, ⟨⟨96, 101⟩, "\x7bt('List.items')\x7d"⟩,
          .insert 86 "const \x7b t \x7d = useTranslation('Common');\n",
          .insert 0 "import \x7b useTranslation \x7d from 'react-i18next';\n"] := by
    decide +kernel
  have hcode : (Source.applyEdits list
      [⟨⟨44, 47⟩, "\x7bt('List.row')\x7d"⟩, ⟨⟨96, 101⟩, "\x7bt('List.items')\x7d"⟩,
        .insert 86 "const \x7b t \x7d = useTranslation('Common');\n",
        .insert 0 "import \x7b useTranslation \x7d from 'react-i18next';\n"]).toOption =
      some migratedList := by
    have hperm : List.Perm
        [⟨⟨44, 47⟩, "\x7bt('List.row')\x7d"⟩, ⟨⟨96, 101⟩, "\x7bt('List.items')\x7d"⟩,
          .insert 86 "const \x7b t \x7d = useTranslation('Common');\n",
          .insert 0 "import \x7b useTranslation \x7d from 'react-i18next';\n"]
        [.insert 0 "import \x7b useTranslation \x7d from 'react-i18next';\n",
          ⟨⟨44, 47⟩, "\x7bt('List.row')\x7d"⟩,
          Edit.insert 86 "const \x7b t \x7d = useTranslation('Common');\n",
          ⟨⟨96, 101⟩, "\x7bt('List.items')\x7d"⟩] := by decide
    rw [Source.applyEdits_of_perm hperm (by decide)]
    decide +kernel
  have hclassify : classify {} listModule = ⟨"List", false⟩ := by decide +kernel
  have houtcome : (access {} list.toList (classify {} listModule) ⟨"Common", '\''⟩ listModule
      true).1 = .injected := by decide +kernel
  obtain ⟨file, hfile, hfileCode, -⟩ := migrateWith_of_applyEdits hlist heligible
    (by decide +kernel) (hedits ▸ eq_ok_of_toOption hcode) hmigrated
  obtain ⟨m, quote, hm, hquote, hmigrate⟩ := exists_of_migrateWith hfile
  obtain rfl := Option.some.inj (hlist.symm.trans hm)
  obtain rfl := Eligibility.eligible.inj (heligible.symm.trans hquote)
  obtain ⟨-, -, -, hcomponent, -⟩ := exists_of_migrateEligible hmigrate
  refine ⟨file, hfile, hfileCode, hcomponent.trans hclassify, ?_⟩
  rw [diagnostics_of_migrateEligible hmigrate, houtcome, hclassify]
  rfl

/-- The helper looks its text up, but the hook is called in the component, and nothing is
reported. -/
theorem list_row_apart :
    ∃ m file host body, Script.parse .jsx list = some m ∧
      migrateWith (Script.parse .jsx) {} "Common" list = .ok (.migrated file) ∧
      file.component.isClass = false ∧ .accessMissing ∉ file.diagnostics ∧
      BodyAt m file.component.name host body ∧
      ∃ spot ∈ spots {} m, ¬ host.body.span.Covers spot.literal.span := by
  obtain ⟨file, hfile, -, hcomponent, hdiagnostics⟩ :=
    migrateWith_list parse_list.1 parse_list.2
  obtain ⟨body, hbody⟩ := exists_bodyAt firstHost_list
  refine ⟨listModule, file, _, body, parse_list.1, hfile, by rw [hcomponent],
    by simp [hdiagnostics], by rwa [hcomponent], rowSpot, by simp [spots_list], ?_⟩
  decide

/-- The text of the component is looked up in the body that the hook is called in, the text of the
helper apart from it. -/
theorem list_items_reached :
    ∃ file, migrateWith (Script.parse .jsx) {} "Common" list = .ok (.migrated file) ∧
      file.component.isClass = false ∧ listModule.Placed list.toList ∧ listModule.ArrowsInOrder ∧
      ∃ host body, BodyAt listModule file.component.name host body ∧
        (body <+: itemsSpot.address ∧ host.body.span.Covers itemsSpot.literal.span) ∧
        ¬ body <+: rowSpot.address ∧ host.body.span.Apart rowSpot.literal.span := by
  obtain ⟨file, hfile, -, hcomponent, hdiagnostics⟩ :=
    migrateWith_list parse_list.1 parse_list.2
  have hfunction : file.component.isClass = false := by rw [hcomponent]
  have hlist : listModule.Placed list.toList ∧ listModule.ArrowsInOrder := by decide +kernel
  have hread : ∀ m, Script.parse .jsx list = some m →
      m.Placed list.toList ∧ m.ArrowsInOrder := by
    intro m hm
    obtain rfl := Option.some.inj (parse_list.1.symm.trans hm)
    exact hlist
  obtain ⟨m, quote, hm, -, -, hreach⟩ := lookups_in_body_or_apart hread hfile hfunction
  obtain rfl := Option.some.inj (parse_list.1.symm.trans hm)
  obtain ⟨-, host, body, -, -, hbody, -, -, -, -, hspots⟩ := hreach (by simp [hdiagnostics])
  obtain ⟨body', hbody'⟩ := exists_bodyAt firstHost_list
  obtain rfl : host = .block listBody := by
    rw [hcomponent] at hbody
    exact hbody.host_eq hbody'
  have hrow := hspots rowSpot (by simp [spots_list])
  have hitems := hspots itemsSpot (by simp [spots_list])
  have hinside : body <+: itemsSpot.address :=
    Decidable.byContradiction fun h => absurd (hitems.2 h) (by decide)
  have houtside : ¬ body <+: rowSpot.address := fun h => absurd (hrow.1 h) (by decide)
  exact ⟨file, hfile, hfunction, hlist.1, hlist.2, _, body, hbody, ⟨hinside, hitems.1 hinside⟩,
    houtside, hrow.2 houtside⟩

end Component

end Phrasebook

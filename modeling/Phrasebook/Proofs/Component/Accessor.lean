import Phrasebook.Proofs.Component.Naming

/-!
Where a component gets its accessor.

The hook goes into the first function of the component's name, in the order in which the nodes of
the module are visited, and a class is wrapped where it is exported by default. Either happens once,
if there is such a place at all, and the integration module is imported once in any case.
-/

namespace Phrasebook.Component

open Script
open Source (Edit Span)

/-- A function with statements that is declared under a name, or an arrow function that is bound to
it, in parentheses or not; and what of it can hold the hook. -/
inductive IsHost (name : String) : Node → Host → Prop
  | function {span : Span} {front : List Node} {body : Node} (hbody : body.form = .block) :
      IsHost name (.mk span (.function (some name)) (front ++ [body])) (.block body)
  | block {span target arrow : Span} {inner front : List Node} {value body : Node} {k : Nat}
      (hvalue : Wraps k value (.mk arrow .arrow (front ++ [body]))) (hbody : body.form = .block) :
      IsHost name (.mk span .declarator [.mk target (.binding name) inner, value]) (.block body)
  | expression {span target arrow : Span} {inner front : List Node} {value body : Node} {k : Nat}
      (hvalue : Wraps k value (.mk arrow .arrow (front ++ [body]))) (hbody : body.form ≠ .block) :
      IsHost name (.mk span .declarator [.mk target (.binding name) inner, value])
        (.expression (.mk arrow .arrow (front ++ [body])) body)

theorem arrowHost?_of_wraps {value body : Node} {span : Span} {front : List Node} {k : Nat}
    (h : Wraps k value (.mk span .arrow (front ++ [body]))) :
    arrowHost? value = some (if body.form = .block then .block body
      else .expression (.mk span .arrow (front ++ [body])) body) := by
  have hunparen : value.unparen = .mk span .arrow (front ++ [body]) := by
    rw [h.unparen_eq.1, Node.unparen]
    simp
  simp [arrowHost?, hunparen]

theorem exists_of_arrowHost? {value : Node} {host : Host} (h : arrowHost? value = some host) :
    ∃ (k : Nat) (span : Span) (front : List Node) (body : Node),
      Wraps k value (.mk span .arrow (front ++ [body])) := by
  unfold arrowHost? at h
  split at h
  · rename_i span children hunparen
    obtain ⟨body, hlast, -⟩ := Option.map_eq_some_iff.mp h
    obtain ⟨front, rfl⟩ := List.getLast?_eq_some_iff.mp hlast
    exact ⟨_, span, front, body, hunparen ▸ wraps_unparen value⟩
  · cases h

/-- The hosts that are looked for are all there are. -/
theorem host?_eq_some_iff {name : String} {n : Node} {host : Host} :
    host? name n = some host ↔ IsHost name n host := by
  constructor
  · intro h
    unfold host? at h
    split at h
    · rename_i span own children
      split at h
      · rename_i hown
        obtain ⟨body, hbody, rfl⟩ := Option.map_eq_some_iff.mp h
        obtain ⟨hlast, hblock⟩ := Option.filter_eq_some_iff.mp hbody
        obtain ⟨front, hfront⟩ := List.getLast?_eq_some_iff.mp hlast
        simp only [Node.children] at hfront
        rw [hown, hfront]
        exact .function (by simpa using hblock)
      · cases h
    · rename_i span target own inner value
      split at h
      · rename_i hown
        subst hown
        obtain ⟨k, arrow, front, body, hvalue⟩ := exists_of_arrowHost? h
        rw [arrowHost?_of_wraps hvalue] at h
        obtain rfl := Option.some.inj h
        by_cases hbody : body.form = .block
        · rw [if_pos hbody]
          exact .block hvalue hbody
        · rw [if_neg hbody]
          exact .expression hvalue hbody
      · cases h
    · cases h
  · intro h
    cases h with
    | function hbody => simp [host?, Node.body?, Node.children, hbody]
    | block hvalue hbody => simp [host?, arrowHost?_of_wraps hvalue, hbody]
    | expression hvalue hbody => simp [host?, arrowHost?_of_wraps hvalue, hbody]

/-- The host among the functions of a name that is visited first. -/
def FirstHost (m : Module) (name : String) (host : Host) : Prop :=
  ∃ n, m.First (fun x => ∃ other, IsHost name x other) n ∧ IsHost name n host

theorem firstHost_of_findSome? {m : Module} {name : String} {host : Host}
    (h : m.nodes.findSome? (host? name) = some host) : FirstHost m name host := by
  obtain ⟨n, ⟨a, hat, hn, hfirst⟩, hhost⟩ := Module.exists_first_of_findSome? h
  have hiff : ∀ x, host? name x ≠ none ↔ ∃ other, IsHost name x other := by
    intro x
    simp only [Option.ne_none_iff_exists', host?_eq_some_iff]
  refine ⟨n, ⟨a, hat, (hiff n).mp hn, fun b hb x hx hfound => ?_⟩, host?_eq_some_iff.mp hhost⟩
  exact hfirst b hb x hx ((hiff x).mpr hfound)

/-- The value of the first default export of a module. -/
def FirstDefaultExport (m : Module) (value : Node) : Prop :=
  ∃ front span rest, m.items = front ++ .mk span .exportDefault [value] :: rest ∧
    ∀ item ∈ front, ¬ ∃ span value, item = .mk span .exportDefault [value]

theorem defaultExportSpan?_eq_none_iff {item : Node} :
    defaultExportSpan? item = none ↔ ¬ ∃ span value, item = .mk span .exportDefault [value] := by
  unfold defaultExportSpan?
  split
  · rename_i span value
    simp
  · rename_i hother
    simp only [true_iff]
    rintro ⟨span, value, rfl⟩
    exact hother span value rfl

theorem exists_firstDefaultExport {m : Module} {span : Span}
    (h : m.items.findSome? defaultExportSpan? = some span) :
    ∃ value, FirstDefaultExport m value ∧ value.span = span := by
  obtain ⟨front, item, rest, hitems, hspan, hfront⟩ := List.findSome?_eq_some_iff.mp h
  unfold defaultExportSpan? at hspan
  split at hspan
  · rename_i itemSpan value
    refine ⟨value, ⟨front, itemSpan, rest, hitems, fun item hitem => ?_⟩, Option.some.inj hspan⟩
    exact defaultExportSpan?_eq_none_iff.mp (hfront item hitem)
  · cases hspan

/-- The first of some statements that is not a directive. -/
def Leads (nodes : List Node) (first : Node) : Prop :=
  ∃ front rest, nodes = front ++ first :: rest ∧ (∀ n ∈ front, n.form = .directive) ∧
    first.form ≠ .directive

theorem leads_of_firstStatement? {nodes : List Node} {first : Node}
    (h : firstStatement? nodes = some first) : Leads nodes first := by
  obtain ⟨hfirst, front, rest, hnodes, hfront⟩ := List.find?_eq_some_iff_append.mp h
  exact ⟨front, rest, hnodes, fun n hn => by simpa using hfront n hn, by simpa using hfirst⟩

/-- Edits that declare the lookup function in a host: in front of its first statement, before its
closing brace if it has none, or in a block that is put around its expression. -/
inductive Declares (source : List Char) (t : Target) : Host → List Edit → Prop
  | first {body first : Node} (h : Leads body.children first) :
      Declares source t (.block body)
        [.insert first.span.start (hookStatement t ++ "\n" ++ indentAt source first.span.start)]
  | last {body : Node} (h : ∀ n ∈ body.children, n.form = .directive) :
      Declares source t (.block body)
        [.insert (body.span.stop - 1) ("\n" ++ indentAt source body.span.start ++ indentStep
          ++ hookStatement t ++ "\n" ++ indentAt source body.span.start)]
  | around {arrow body : Node} :
      Declares source t (.expression arrow body)
        [.insert body.span.start ("\x7b\n" ++ indentAt source arrow.span.start ++ indentStep
            ++ hookStatement t ++ "\n" ++ indentAt source arrow.span.start ++ indentStep
            ++ "return "),
          .insert body.span.stop (";\n" ++ indentAt source arrow.span.start ++ "\x7d")]

theorem declares_hookEdits (source : List Char) (t : Target) (host : Host) :
    Declares source t host (hookEdits source t host) := by
  cases host with
  | block body =>
      rw [hookEdits]
      cases hfirst : firstStatement? body.children with
      | some first => exact .first (leads_of_firstStatement? hfirst)
      | none =>
          refine .last fun n hn => ?_
          simpa using List.find?_eq_none.mp hfirst n hn
  | expression arrow body => exact .around

/-- What a component needs, found in its module or not. -/
inductive Provides (source : List Char) (c : Identity) (t : Target) (m : Module) :
    Access → List Edit → Prop
  | hook {host : Host} {edits : List Edit} (hclass : c.isClass = false) (hname : c.name ≠ "")
      (hhost : FirstHost m c.name host) (hedits : Declares source t host edits) :
      Provides source c t m .injected edits
  | wrapper {value : Node} (hclass : c.isClass = true) (hvalue : FirstDefaultExport m value) :
      Provides source c t m .injected
        [.insert value.span.start
            ("withTranslation(" ++ quoted t.quote t.namespaceName ++ ")("),
          .insert value.span.stop ")"]
  | nothing
      (hfunction : c.isClass = false → c.name ≠ "" →
        ∀ n ∈ m.nodes, ∀ host, ¬ IsHost c.name n host)
      (hclass : c.isClass = true → ∀ item ∈ m.items, ∀ span value,
        item ≠ .mk span .exportDefault [value]) :
      Provides source c t m .missing []

theorem provides_access (options : Options) (source : List Char) (c : Identity) (t : Target)
    (m : Module) :
    Provides source c t m (access options source c t m true).1
      ((accessorEdits? source c t m).getD []) := by
  have houtcome : (access options source c t m true).1 =
      if (accessorEdits? source c t m).isSome then .injected else .missing := by
    unfold access
    cases accessorEdits? source c t m <;> rfl
  rw [houtcome]
  unfold accessorEdits?
  split
  · rename_i hclass
    cases hexport : m.items.findSome? defaultExportSpan? with
    | some span =>
        obtain ⟨value, hvalue, rfl⟩ := exists_firstDefaultExport hexport
        exact .wrapper hclass hvalue
    | none =>
        refine .nothing (by simp [hclass]) fun _ item hitem span value heq => ?_
        have hnone := List.findSome?_eq_none_iff.mp hexport item hitem
        exact defaultExportSpan?_eq_none_iff.mp hnone ⟨span, value, heq⟩
  · rename_i hclass
    split
    · rename_i hname
      cases hfound : m.nodes.findSome? (host? c.name) with
      | some host =>
          exact .hook (by simpa using hclass) (by simpa [Identity.hasName] using hname)
            (firstHost_of_findSome? hfound) (declares_hookEdits source t host)
      | none =>
          refine .nothing (fun _ _ n hn host hhost => ?_) (by simp [hclass])
          have hnone := List.findSome?_eq_none_iff.mp hfound n hn
          rw [host?_eq_some_iff.mpr hhost] at hnone
          cases hnone
    · rename_i hname
      have hempty : c.name = "" := by simpa [Identity.hasName] using hname
      exact .nothing (fun _ hne => absurd hempty hne) (by simp [hclass])

/-- Whether a module has a place for the accessor of a component. -/
def HasPlace (c : Identity) (m : Module) : Prop :=
  if c.isClass then ∃ item ∈ m.items, ∃ span value, item = .mk span .exportDefault [value]
  else c.name ≠ "" ∧ ∃ n ∈ m.nodes, ∃ host, IsHost c.name n host

theorem Provides.injected_iff {source : List Char} {c : Identity} {t : Target} {m : Module}
    {outcome : Access} {edits : List Edit} (h : Provides source c t m outcome edits) :
    outcome = .injected ↔ HasPlace c m := by
  unfold HasPlace
  cases h with
  | hook hclass hname hhost hedits =>
      obtain ⟨n, ⟨a, hat, -⟩, hn⟩ := hhost
      rw [hclass]
      exact ⟨fun _ => ⟨hname, n, Module.mem_nodes_of_at? hat, _, hn⟩, fun _ => rfl⟩
  | wrapper hclass hvalue =>
      obtain ⟨front, span, rest, hitems, -⟩ := hvalue
      rename_i value
      have hmem : .mk span .exportDefault [value] ∈ m.items := by
        rw [hitems]
        exact List.mem_append_right _ List.mem_cons_self
      rw [hclass]
      exact ⟨fun _ => ⟨_, hmem, span, value, rfl⟩, fun _ => rfl⟩
  | nothing hfunction hclass =>
      refine ⟨fun h => (by cases h), fun hplace => ?_⟩
      split at hplace
      · rename_i hc
        obtain ⟨item, hitem, span, value, heq⟩ := hplace
        exact absurd heq (hclass hc item hitem span value)
      · rename_i hc
        obtain ⟨hname, n, hn, host, hhost⟩ := hplace
        exact absurd hhost (hfunction (by simpa using hc) hname n hn host)

theorem isWhitespace_of_mem_indentAt {source : List Char} {offset : Nat} {c : Char}
    (h : c ∈ (indentAt source offset).toList) : c.isWhitespace = true := by
  have hindent : ∀ {line : List Char}, c ∈ Source.leadingIndent line → c.isWhitespace = true := by
    intro line hc
    have hblank : (c = ' ' || c = '\t') = true := List.all_eq_true.mp List.all_takeWhile c hc
    simp only [Bool.or_eq_true, decide_eq_true_eq] at hblank
    rcases hblank with rfl | rfl <;> rfl
  rw [indentAt, String.toList_ofList, Source.lineIndent] at h
  have hfrom : ∀ line n rest, c ∈ Source.indentFrom line n rest → c.isWhitespace = true := by
    intro line n rest
    fun_induction Source.indentFrom line n rest with
    | case1 => exact hindent
    | case2 => exact hindent
    | case3 => exact hindent
    | case4 _ _ _ _ _ ih => exact ih
  exact hfrom _ _ _ h

/-- Whether an edit puts an import into the code. -/
def isImport (e : Edit) : Bool :=
  "import ".toList.isPrefixOf (e.text.toList.dropWhile Char.isWhitespace)

/-- An edit is no import if its code begins with another letter. -/
theorem isImport_eq_false {e : Edit} (blanks : List Char) (c : Char)
    (htext : ∃ rest, e.text.toList = blanks ++ c :: rest)
    (hblanks : ∀ b ∈ blanks, b.isWhitespace = true) (hblank : c.isWhitespace = false)
    (hc : c ≠ 'i') : isImport e = false := by
  obtain ⟨rest, htext⟩ := htext
  have hcode : e.text.toList.dropWhile Char.isWhitespace = c :: rest := by
    rw [htext, List.dropWhile_append_of_pos hblanks, List.dropWhile_cons_of_neg (by simp [hblank])]
  have hopening : "import ".toList = 'i' :: "mport ".toList := rfl
  rw [isImport, hcode, hopening, List.isPrefixOf_cons_cons, beq_eq_false_iff_ne.mpr hc.symm]
  rfl

theorem exists_hookStatement (t : Target) :
    ∃ rest, (hookStatement t).toList = 'c' :: rest := by
  simp only [hookStatement, String.toList_append]
  exact ⟨_, rfl⟩

theorem Declares.isImport {source : List Char} {t : Target} {host : Host} {edits : List Edit}
    (h : Declares source t host edits) : ∀ e ∈ edits, Component.isImport e = false := by
  obtain ⟨rest, hhook⟩ := exists_hookStatement t
  cases h with
  | first hleads =>
      intro e he
      obtain rfl := List.mem_singleton.mp he
      refine isImport_eq_false [] 'c' ?_ (by simp) (by decide) (by decide)
      simp only [Edit.insert, String.toList_append, hhook]
      exact ⟨_, rfl⟩
  | last hdirectives =>
      rename_i body
      intro e he
      obtain rfl := List.mem_singleton.mp he
      refine isImport_eq_false ('\n' :: (indentAt source body.span.start).toList ++
        indentStep.toList) 'c' ?_ ?_ (by decide) (by decide)
      · simp only [Edit.insert, String.toList_append, hhook, List.append_assoc, List.cons_append]
        exact ⟨_, rfl⟩
      · intro b hb
        rcases List.mem_append.mp hb with hb | hb
        · rcases List.mem_cons.mp hb with rfl | hb
          · decide
          · exact isWhitespace_of_mem_indentAt hb
        · obtain ⟨-, rfl⟩ := List.mem_replicate.mp (show b ∈ List.replicate 4 ' ' from hb)
          decide
  | around =>
      intro e he
      rcases List.mem_cons.mp he with rfl | he
      · refine isImport_eq_false [] '\x7b' ?_ (by simp) (by decide) (by decide)
        simp only [Edit.insert, String.toList_append]
        exact ⟨_, rfl⟩
      · obtain rfl := List.mem_singleton.mp he
        refine isImport_eq_false [] ';' ?_ (by simp) (by decide) (by decide)
        simp only [Edit.insert, String.toList_append]
        exact ⟨_, rfl⟩

theorem Provides.isImport {source : List Char} {c : Identity} {t : Target} {m : Module}
    {outcome : Access} {edits : List Edit} (h : Provides source c t m outcome edits) :
    ∀ e ∈ edits, Component.isImport e = false := by
  cases h with
  | hook hclass hname hhost hedits => exact hedits.isImport
  | wrapper hclass hvalue =>
      intro e he
      rcases List.mem_cons.mp he with rfl | he
      · refine isImport_eq_false [] 'w' ?_ (by simp) (by decide) (by decide)
        simp only [Edit.insert, String.toList_append]
        exact ⟨_, rfl⟩
      · obtain rfl := List.mem_singleton.mp he
        exact isImport_eq_false [] ')' ⟨[], by simp [Edit.insert]⟩ (by simp) (by decide) (by decide)
  | nothing hfunction hclass => simp

theorem Provides.insertion {source : List Char} {c : Identity} {t : Target} {m : Module}
    {outcome : Access} {edits : List Edit} (h : Provides source c t m outcome edits) :
    ∀ e ∈ edits, e.span.start = e.span.stop := by
  cases h with
  | hook hclass hname hhost hedits => cases hedits <;> simp [Edit.insert]
  | wrapper hclass hvalue => simp [Edit.insert]
  | nothing hfunction hclass => simp

/-- The statement that imports the one thing which a component needs. -/
def ImportText (options : Options) (c : Identity) (t : Target) (text : String) : Prop :=
  text = "import \x7b " ++ (if c.isClass then "withTranslation" else "useTranslation")
    ++ " \x7d from " ++ quoted t.quote options.i18nModule ++ ";"

theorem exists_importEdit (options : Options) (c : Identity) (t : Target) (m : Module) :
    ∃ offset statement, ImportText options c t statement ∧
      (importEdit options c t m = .insert offset (statement ++ "\n") ∨
        importEdit options c t m = .insert offset ("\n" ++ statement)) := by
  unfold importEdit
  cases firstStatement? m.items with
  | some first => exact ⟨_, _, rfl, Or.inl rfl⟩
  | none => exact ⟨_, _, rfl, Or.inr rfl⟩

theorem isImport_importEdit (options : Options) (c : Identity) (t : Target) (m : Module) :
    isImport (importEdit options c t m) = true := by
  have hopening : ∃ rest, (importStatement options c t).toList = "import ".toList ++ rest := by
    simp only [importStatement, String.toList_append, List.append_assoc]
    exact ⟨_, rfl⟩
  obtain ⟨rest, hopening⟩ := hopening
  unfold importEdit isImport
  cases firstStatement? m.items with
  | some first =>
      simp only [Edit.insert, String.toList_append, hopening]
      rfl
  | none =>
      simp only [Edit.insert, String.toList_append, hopening]
      rfl

/-- A name that was found by the rule for arrow functions is the name of a host. The trees that
arrow functions are read as end with their body. -/
theorem hasPlace_of_topLevelArrowName? {options : Options} {m : Module}
    (hbodies : ∀ n ∈ m.nodes, n.form = .arrow → n.children ≠ [])
    (hclass : className? options m = none) (hexport : defaultExportName? options m = none)
    (harrow : topLevelArrowName? options m ≠ none) : HasPlace (classify options m) m := by
  obtain ⟨name, hname⟩ := Option.ne_none_iff_exists'.mp harrow
  have hidentity : classify options m = ⟨name, false⟩ := by
    simp [classify, nameRules, NameRule.component?, hclass, hexport, hname]
  obtain ⟨item, hitem, span, target, inner, value, hdeclarator, hform, hupper⟩ :=
    exists_declarator_of_topLevelArrowName? options hname
  have hnonempty : name ≠ "" := by
    rintro rfl
    cases hupper
  have hbelow : ∀ {n}, n ∈ (Node.mk span .declarator
      [.mk target (.binding name) inner, value]).preorder → n ∈ m.nodes :=
    fun hn => mem_preorderAll hitem (Node.mem_preorder_of_mem_children hdeclarator hn)
  have hvalue : value ∈ m.nodes :=
    hbelow (Node.mem_preorder_of_mem_children (by simp [Node.children]) value.mem_preorder_self)
  obtain ⟨front, body, hchildren⟩ : ∃ front body, value.children = front ++ [body] :=
    ⟨_, _, (List.dropLast_concat_getLast (hbodies value hvalue hform)).symm⟩
  obtain ⟨arrow, form, children⟩ := value
  obtain rfl : form = .arrow := hform
  obtain rfl : children = front ++ [body] := hchildren
  rw [hidentity]
  refine ⟨hnonempty, _, hbelow (Node.mem_preorder_self _), ?_⟩
  by_cases hblock : body.form = .block
  · exact ⟨_, .block (.bare _) hblock⟩
  · exact ⟨_, .expression (.bare _) hblock⟩

/-- The accessor of a component is put in once, in the first place that can hold it. -/
theorem access_provides (options : Options) (source : List Char) (c : Identity) (t : Target)
    (m : Module) :
    ∃ accessor offset statement imported,
      (access options source c t m true).2 = accessor ++ [imported] ∧
        Provides source c t m (access options source c t m true).1 accessor ∧
        (∀ e ∈ accessor ++ [imported], e.span.start = e.span.stop) ∧
        (accessor ++ [imported]).filter isImport = [imported] ∧
        ImportText options c t statement ∧
        (imported = .insert offset (statement ++ "\n") ∨
          imported = .insert offset ("\n" ++ statement)) ∧
        ((access options source c t m true).1 = .injected ↔ HasPlace c m) ∧
        ((∀ n ∈ m.nodes, n.form = .arrow → n.children ≠ []) → c = classify options m →
          className? options m = none → defaultExportName? options m = none →
          topLevelArrowName? options m ≠ none →
          (access options source c t m true).1 = .injected) := by
  have hprovides := provides_access options source c t m
  obtain ⟨offset, statement, hstatement, himported⟩ := exists_importEdit options c t m
  refine ⟨_, offset, statement, importEdit options c t m, access_snd options source c t m,
    hprovides, ?_, ?_, hstatement, himported, hprovides.injected_iff, ?_⟩
  · intro e he
    rcases List.mem_append.mp he with he | he
    · exact hprovides.insertion e he
    · obtain rfl := List.mem_singleton.mp he
      rcases himported with heq | heq <;> rw [heq] <;> rfl
  · have hnone : ((accessorEdits? source c t m).getD []).filter isImport = [] :=
      List.filter_eq_nil_iff.mpr fun e he => by simp [hprovides.isImport e he]
    rw [List.filter_append, hnone, List.filter_cons_of_pos (isImport_importEdit options c t m)]
    rfl
  · rintro hbodies rfl hclass hexport harrow
    exact hprovides.injected_iff.mpr (hasPlace_of_topLevelArrowName? hbodies hclass hexport harrow)

def badge : String := "const Badge = () => (<p/>);"

def badgeModule : Module :=
  ⟨⟨0, 27⟩, [.mk ⟨0, 27⟩ .variableList [.mk ⟨6, 26⟩ .declarator [.mk ⟨6, 11⟩ (.binding "Badge") [],
    .mk ⟨14, 26⟩ .arrow [.mk ⟨20, 26⟩ .paren [.mk ⟨21, 25⟩ .other []]]]]]⟩

/-- An arrow function without statements gets its hook, and one import. -/
theorem badge_injected :
    classify {} badgeModule = ⟨"Badge", false⟩ ∧
      (access {} badge.toList (classify {} badgeModule) ⟨"Common", '\''⟩ badgeModule true).1 =
        .injected ∧
      ∃ imported,
        (access {} badge.toList (classify {} badgeModule) ⟨"Common", '\''⟩ badgeModule
          true).2.filter isImport = [imported] := by
  obtain ⟨accessor, -, -, imported, hedits, -, -, hone, -, -, -, harrow⟩ :=
    access_provides {} badge.toList (classify {} badgeModule) ⟨"Common", '\''⟩ badgeModule
  refine ⟨by decide, ?_, imported, by rw [hedits, hone]⟩
  exact harrow (by decide) rfl (by decide) (by decide) (by decide)

end Phrasebook.Component

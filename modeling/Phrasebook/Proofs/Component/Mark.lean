import Phrasebook.Proofs.Component.Edits
import Phrasebook.Proofs.Component.Shift

/-!
Files that start with a mark for the order of their bytes.

The mark is no part of the module, but its three bytes count in every place of the file. So all
edits are shifted by three bytes, and the mark stays in front of the migrated code. Nothing else
changes, as long as the first line is not indented: the mark would hide its indentation.
-/

namespace Phrasebook.Component

open Script
open Source (Edit EditError Span)

/-- The mark for the order of bytes. -/
def mark : Char := '\uFEFF'

def marked (text : String) : String := String.singleton mark ++ text

theorem toList_marked (text : String) : (marked text).toList = mark :: text.toList := by
  simp [marked]

theorem marked_inj {text other : String} : marked text = marked other ↔ text = other := by
  rw [← String.toList_inj, toList_marked, toList_marked, List.cons_inj_right, String.toList_inj]

/-- Every block ends behind its closing brace, and so not where the text starts. -/
def ClosesBlocks (m : Module) : Prop := ∀ n ∈ m.nodes, n.form = .block → 0 < n.span.stop

instance (m : Module) : Decidable (ClosesBlocks m) :=
  inferInstanceAs (Decidable (∀ n ∈ m.nodes, n.form = .block → 0 < n.span.stop))

/-- What is assumed of a reader: a mark in front of a text is skipped, which shifts all places by
its three bytes, and a block has its braces. -/
structure SkipsMark (read : String → Option Module) : Prop where
  read_marked : ∀ text, text.toList.head? ≠ some mark →
    read (marked text) = (read text).map (Module.shift 3)
  closesBlocks : ∀ text m, read text = some m → ClosesBlocks m

/-- A text that starts neither with a mark nor with an indented line. -/
def PlainStart (source : List Char) : Prop :=
  ∀ c ∈ source.head?, c ≠ mark ∧ c ≠ ' ' ∧ c ≠ '\t'

section

variable {source : List Char}

theorem indentAt_marked (hsource : PlainStart source) (offset : Nat) :
    indentAt (mark :: source) (offset + 3) = indentAt source offset := by
  have hindent : ∀ c ∈ source.head?, c ≠ ' ' ∧ c ≠ '\t' := fun c hc => (hsource c hc).2
  have hsize : mark.utf8Size = 3 := rfl
  rw [indentAt, indentAt, ← hsize, Source.lineIndent_cons (by decide) (by decide) hindent]

theorem hookEdits_marked (hsource : PlainStart source) (t : Target) {host : Host}
    (hhost : ∀ body, host = .block body → 0 < body.span.stop) :
    hookEdits (mark :: source) t (host.shift 3) =
      (hookEdits source t host).map (Edit.shift 3) := by
  cases host with
  | block body =>
      simp only [Host.shift, hookEdits, Node.children_shift, firstStatement?_shift]
      cases firstStatement? body.children with
      | some first =>
          simp only [Option.map_some, Node.span_shift, Span.start_shift, indentAt_marked hsource]
          rfl
      | none =>
          have hpos := hhost body rfl
          have hbrace : body.span.stop + 3 - 1 = body.span.stop - 1 + 3 := by omega
          simp only [Option.map_none, Node.span_shift, Span.start_shift, Span.stop_shift,
            indentAt_marked hsource, hbrace]
          rfl
  | expression arrow body =>
      simp only [Host.shift, hookEdits, Node.span_shift, Span.start_shift, indentAt_marked hsource,
        wrap_shift]

variable {m : Module}

theorem stop_pos_of_findSome? {name : String} {body : Node} (hblocks : ClosesBlocks m)
    (h : m.nodes.findSome? (host? name) = some (.block body)) : 0 < body.span.stop := by
  obtain ⟨n, hn, hhost⟩ := List.exists_of_findSome?_eq_some h
  obtain ⟨hbody, hform⟩ := (liesIn_of_host? hhost).mono (Module.mem_preorder_root hn)
  rcases List.mem_cons.mp hbody with rfl | hnode
  · cases hform
  · exact hblocks body hnode hform

theorem accessorEdits?_marked (hsource : PlainStart source) (c : Identity) (t : Target)
    (hblocks : ClosesBlocks m) :
    accessorEdits? (mark :: source) c t (m.shift 3) =
      (accessorEdits? source c t m).map (List.map (Edit.shift 3)) := by
  unfold accessorEdits?
  split
  · rw [Module.items_shift, map_findSome?_shift 3 (defaultExportSpan?_shift 3), Option.map_map,
      Option.map_map]
    rfl
  split
  · rw [Module.nodes_shift, map_findSome?_shift 3 (host?_shift 3 c.name)]
    cases hfound : m.nodes.findSome? (host? c.name) with
    | none => rfl
    | some host =>
        have hpos : ∀ body, host = .block body → 0 < body.span.stop := by
          rintro body rfl
          exact stop_pos_of_findSome? hblocks hfound
        simp only [Option.map_some, hookEdits_marked hsource t hpos]
  · rfl

theorem access_marked (hsource : PlainStart source) (options : Options) (c : Identity) (t : Target)
    (hblocks : ClosesBlocks m) :
    access options (mark :: source) c t (m.shift 3) true =
      ((access options source c t m true).1,
        (access options source c t m true).2.map (Edit.shift 3)) := by
  simp only [access, accessorEdits?_marked hsource c t hblocks, importEdit_shift, if_true]
  cases accessorEdits? source c t m with
  | none => rfl
  | some edits => simp

end

/-- An edit whose text starts with some other character than the mark. -/
def StartsUnmarked (e : Edit) : Prop := ∃ d ∈ e.text.toList.head?, d ≠ mark

theorem startsUnmarked_edit (l : Literal) (c : Identity) : StartsUnmarked (l.edit c) := by
  unfold StartsUnmarked Literal.edit lookupCall
  cases l.braced <;> cases c.isClass <;> simp [lookupName, mark]

theorem startsUnmarked_hookEdits (source : List Char) (t : Target) (host : Host) :
    ∀ e ∈ hookEdits source t host, StartsUnmarked e := by
  cases host with
  | block body =>
      rw [hookEdits]
      split <;> simp [StartsUnmarked, Edit.insert, hookStatement, mark]
  | expression arrow body => simp [hookEdits, StartsUnmarked, Edit.wrap, Edit.insert, mark]

theorem startsUnmarked_accessorEdits? {source : List Char} {c : Identity} {t : Target} {m : Module}
    {edits : List Edit} (h : accessorEdits? source c t m = some edits) :
    ∀ e ∈ edits, StartsUnmarked e := by
  unfold accessorEdits? at h
  split at h
  · obtain ⟨span, -, rfl⟩ := Option.map_eq_some_iff.mp h
    simp [wrapEdits, StartsUnmarked, Edit.wrap, Edit.insert, wrapperName, mark]
  split at h
  · obtain ⟨host, -, rfl⟩ := Option.map_eq_some_iff.mp h
    exact startsUnmarked_hookEdits source t host
  · cases h

theorem startsUnmarked_importEdit (options : Options) (c : Identity) (t : Target) (m : Module) :
    StartsUnmarked (importEdit options c t m) := by
  unfold importEdit
  split <;> simp [StartsUnmarked, Edit.insert, importStatement, mark]

theorem startsUnmarked_access (options : Options) (source : List Char) (c : Identity) (t : Target)
    (m : Module) : ∀ e ∈ (access options source c t m true).2, StartsUnmarked e := by
  intro e he
  rw [access_snd] at he
  rcases List.mem_append.mp he with haccessor | himport
  · cases hedits : accessorEdits? source c t m with
    | none => simp [hedits] at haccessor
    | some edits => exact startsUnmarked_accessorEdits? hedits e (by simpa [hedits] using haccessor)
  · obtain rfl := List.mem_singleton.mp himport
    exact startsUnmarked_importEdit options c t m

theorem containsText_cons {part : List Char} {c : Char} (h : ∃ d ∈ part.head?, d ≠ c)
    (cs : List Char) : containsText part (c :: cs) = containsText part cs := by
  obtain ⟨d, hd, hne⟩ := h
  obtain ⟨ds, rfl⟩ := List.head?_eq_some_iff.mp hd
  rw [containsText, List.isPrefixOf_cons_cons, beq_false_of_ne hne, Bool.false_and, Bool.false_or]

theorem isObserved_marked (source : String) : isObserved (marked source) = isObserved source := by
  rw [isObserved, isObserved, toList_marked, containsText_cons ⟨'o', rfl, by decide⟩,
    containsText_cons ⟨'c', rfl, by decide⟩]

/-- An error about a file in which all places are shifted. -/
def MigrationError.shift (k : Nat) : MigrationError → MigrationError
  | .edits cause => .edits (cause.shift k)
  | other => other

/-- The outcome for a file with a mark in front. -/
def Outcome.marked : Outcome → Outcome
  | .skipped reason diagnostics => .skipped reason diagnostics
  | .migrated file => .migrated { file with code := Component.marked file.code }

/-- The code of a migrated file starts with a mark only if the source does. -/
theorem head?_code {source code : String} {edits : List Edit}
    (h : Source.applyEdits source edits = .ok code) (hsource : source.toList.head? ≠ some mark)
    (hedits : ∀ e ∈ edits, StartsUnmarked e) : code.toList.head? ≠ some mark := by
  obtain ⟨out, hout, rfl⟩ := exists_of_map_eq_ok h
  rw [String.toList_ofList]
  exact Source.head?_of_splice hout hsource fun e he => hedits e (by simpa using he)

theorem applyEdits_marked (source : String) (edits : List Edit) :
    Source.applyEdits (marked source) (edits.map (Edit.shift 3)) =
      ((Source.applyEdits source edits).mapError (EditError.shift 3)).map marked :=
  Source.applyEdits_cons mark source edits

section

variable {read : String → Option Module}

theorem migrateEligible_marked (hread : SkipsMark read) {source : String}
    (hsource : PlainStart source.toList) (options : Options) (namespaceName : String) (quote : Char)
    {m : Module} (hblocks : ClosesBlocks m) :
    migrateEligible read options namespaceName quote (marked source) (m.shift 3) =
      ((migrateEligible read options namespaceName quote source m).mapError
        (MigrationError.shift 3)).map Outcome.marked := by
  have hentry : (fun l : Literal => l.entry (classify options m)) ∘ Literal.shift 3 =
      fun l => l.entry (classify options m) := funext fun l => l.entry_shift 3 _
  have hedit : (fun l : Literal => l.edit (classify options m)) ∘ Literal.shift 3 =
      Edit.shift 3 ∘ fun l => l.edit (classify options m) := funext fun l => l.edit_shift 3 _
  simp only [migrateEligible, classify_shift, literals_shift, toList_marked,
    access_marked hsource options _ _ hblocks, isObserved_marked, List.isEmpty_map, List.map_map,
    hentry, hedit]
  split
  · rfl
  rw [← List.map_map, ← List.map_append, applyEdits_marked]
  cases hcode : Source.applyEdits source ((literals options m).map (·.edit (classify options m)) ++
      (access options source.toList (classify options m) ⟨namespaceName, quote⟩ m true).2) with
  | error cause => rfl
  | ok code =>
      -- The migrated code is read with its mark too.
      have hhead : code.toList.head? ≠ some mark := by
        refine head?_code hcode (fun h => (hsource mark h).1 rfl) ?_
        intro e he
        rcases List.mem_append.mp he with hlookup | haccess
        · obtain ⟨l, -, rfl⟩ := List.mem_map.mp hlookup
          exact startsUnmarked_edit l _
        · exact startsUnmarked_access options _ _ _ m e haccess
      have hmarked : ((Except.ok code).mapError (EditError.shift 3)).map marked =
          .ok (marked code) := rfl
      simp only [hmarked, hread.read_marked code hhead, Option.isNone_map]
      split <;> rfl

/-- A mark in front of a file changes nothing but itself: the file fails to be migrated if it does
without the mark, it is skipped for the same reason, and otherwise only the code differs, by the
mark in front of it. -/
theorem migrateWith_marked (hread : SkipsMark read) {source : String}
    (hsource : PlainStart source.toList) (options : Options) (namespaceName : String) :
    migrateWith read options namespaceName (marked source) =
      ((migrateWith read options namespaceName source).mapError
        (MigrationError.shift 3)).map Outcome.marked := by
  have hmark : source.toList.head? ≠ some mark := fun h => (hsource mark h).1 rfl
  rw [migrateWith, migrateWith, hread.read_marked source hmark]
  cases hm : read source with
  | none => rfl
  | some m =>
      simp only [Option.map_some, eligibility_shift]
      cases eligibility options m with
      | notComponent => rfl
      | alreadyMigrated => rfl
      | eligible quote =>
          exact migrateEligible_marked hread hsource options namespaceName quote
            (hread.closesBlocks source m hm)

end

/-- A component on the first line, so that its hook takes the indentation of that line. -/
def banner : String := "import R from 'react';function A()\x7breturn <p>Hi you</p>\x7d"

def migratedBanner : String :=
  "import \x7b useTranslation \x7d from 'react-i18next';\nimport R from 'react';function A()\x7b"
    ++ "const \x7b t \x7d = useTranslation('Common');\nreturn <p>\x7bt('A.hi_you')\x7d</p>\x7d"

def bannerModule : Module :=
  ⟨⟨0, 56⟩,
    [.mk ⟨0, 22⟩ (.importFrom ⟨some "react", '\''⟩ ["R"]) [],
     .mk ⟨22, 56⟩ (.function (some "A"))
      [.mk ⟨34, 56⟩ .block
        [.mk ⟨35, 55⟩ .other
          [.mk ⟨42, 55⟩ .other [.mk ⟨45, 51⟩ (.markupText "Hi you" "Hi you") []]]]]]⟩

def bannerTexts : List String := [banner, migratedBanner]

/-- Reads the banner and its migrated form, both with and without a mark, and nothing else. -/
def readBanner (text : String) : Option Module :=
  if text ∈ bannerTexts ++ bannerTexts.map marked then Script.parse .jsx text else none

theorem parse_banner : Script.parse .jsx banner = some bannerModule := by decide +kernel

theorem exists_parse_of_mem {text : String} (h : text ∈ bannerTexts) :
    ∃ m, Script.parse .jsx text = some m ∧
      Script.parse .jsx (marked text) = some (m.shift 3) ∧ ClosesBlocks m := by
  have hall : ∀ text ∈ bannerTexts, (Script.parse .jsx text).any (fun m =>
      Script.parse .jsx (marked text) = some (m.shift 3) ∧ ClosesBlocks m) = true := by
    decide +kernel
  obtain ⟨m, hm, hrest⟩ := (Option.any_eq_true ..).mp (hall text h)
  exact ⟨m, hm, of_decide_eq_true hrest⟩

theorem readBanner_of_mem {text : String} (h : text ∈ bannerTexts) :
    readBanner text = Script.parse .jsx text :=
  if_pos (List.mem_append_left _ h)

theorem readBanner_marked_of_mem {text : String} (h : text ∈ bannerTexts) :
    readBanner (marked text) = Script.parse .jsx (marked text) :=
  if_pos (List.mem_append_right _ (List.mem_map_of_mem h))

theorem readBanner_of_not_mem {text : String} (h : text ∉ bannerTexts)
    (hmark : text.toList.head? ≠ some mark) :
    readBanner text = none ∧ readBanner (marked text) = none := by
  have hhead : ∀ other, (marked other).toList.head? = some mark := by
    intro other
    rw [toList_marked, List.head?_cons]
  have hplain : ∀ other ∈ bannerTexts, other.toList.head? ≠ some mark := by decide +kernel
  constructor
  · apply if_neg
    rw [List.mem_append, List.mem_map]
    rintro (hmem | ⟨other, -, rfl⟩)
    · exact h hmem
    · exact hmark (hhead other)
  · apply if_neg
    rw [List.mem_append, List.mem_map]
    rintro (hmem | ⟨other, hother, hsame⟩)
    · exact hplain _ hmem (hhead text)
    · exact h (marked_inj.mp hsame ▸ hother)

theorem skipsMark_readBanner : SkipsMark readBanner where
  read_marked text hmark := by
    by_cases h : text ∈ bannerTexts
    · obtain ⟨m, hm, hmarked, -⟩ := exists_parse_of_mem h
      rw [readBanner_of_mem h, readBanner_marked_of_mem h, hm, hmarked, Option.map_some]
    · obtain ⟨hnone, hmarked⟩ := readBanner_of_not_mem h hmark
      rw [hnone, hmarked, Option.map_none]
  closesBlocks text m hm := by
    unfold readBanner at hm
    split at hm
    · rename_i htext
      rcases List.mem_append.mp htext with htext | htext
      · obtain ⟨m', hm', -, hblocks⟩ := exists_parse_of_mem htext
        obtain rfl := Option.some.inj (hm.symm.trans hm')
        exact hblocks
      · obtain ⟨other, hother, rfl⟩ := List.mem_map.mp htext
        obtain ⟨m', -, hm', -⟩ := exists_parse_of_mem hother
        obtain rfl := Option.some.inj (hm.symm.trans hm')
        intro n hn _
        rw [Module.nodes_shift] at hn
        obtain ⟨n', -, rfl⟩ := List.mem_map.mp hn
        simp
    · cases hm

theorem plainStart_banner : PlainStart banner.toList := by
  intro c hc
  obtain rfl : 'i' = c := Option.some.inj hc
  decide

theorem migrateWith_banner :
    ∃ file, migrateWith readBanner {} "Common" banner = .ok (.migrated file) ∧
      file.code = migratedBanner := by
  have hedits : rewriteEdits {} banner.toList ⟨"Common", '\''⟩ bannerModule ++
      [importEdit {} (classify {} bannerModule) ⟨"Common", '\''⟩ bannerModule] =
      [⟨⟨45, 51⟩, "\x7bt('A.hi_you')\x7d"⟩,
        .insert 35 "const \x7b t \x7d = useTranslation('Common');\n",
        .insert 0 "import \x7b useTranslation \x7d from 'react-i18next';\n"] := by decide +kernel
  have hcode : (Source.applyEdits banner
      [⟨⟨45, 51⟩, "\x7bt('A.hi_you')\x7d"⟩,
        .insert 35 "const \x7b t \x7d = useTranslation('Common');\n",
        .insert 0 "import \x7b useTranslation \x7d from 'react-i18next';\n"]).toOption =
      some migratedBanner := by
    rw [Source.applyEdits_of_descending (by decide)]
    decide +kernel
  have hbanner : readBanner banner = some bannerModule :=
    (readBanner_of_mem List.mem_cons_self).trans parse_banner
  have hmem : migratedBanner ∈ bannerTexts := List.mem_cons_of_mem _ (List.mem_singleton_self _)
  obtain ⟨m, hm, -⟩ := exists_parse_of_mem hmem
  have heligible : eligibility {} bannerModule = .eligible '\'' := by decide +kernel
  obtain ⟨file, hfile, hcode', -⟩ := migrateWith_of_applyEdits hbanner heligible
    (by decide +kernel) (hedits ▸ eq_ok_of_toOption hcode) ((readBanner_of_mem hmem).trans hm)
  exact ⟨file, hfile, hcode'⟩

theorem banner_marked :
    SkipsMark readBanner ∧ PlainStart banner.toList ∧
      ∃ file, migrateWith readBanner {} "Common" banner = .ok (.migrated file) ∧
        file.code = migratedBanner ∧
        migrateWith readBanner {} "Common" (marked banner) =
          .ok (.migrated { file with code := marked migratedBanner }) := by
  obtain ⟨file, hfile, hcode⟩ := migrateWith_banner
  have h := migrateWith_marked skipsMark_readBanner plainStart_banner {} "Common"
  rw [hfile] at h
  refine ⟨skipsMark_readBanner, plainStart_banner, file, hfile, hcode, ?_⟩
  rw [h, ← hcode]
  rfl

end Phrasebook.Component

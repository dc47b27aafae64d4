import Phrasebook.Proofs.Component.Migration
import Phrasebook.Proofs.Result
import Phrasebook.Proofs.Script.StringLiteral
import Phrasebook.Proofs.Source.Fit

/-!
Migrating a migrated file.

A migration puts an import of the integration module in front of the first item that is no
directive. If the result is read with that import among its items, it counts as migrated. All that
is assumed of the reader is how it reads an import in front of an item.
-/

namespace Phrasebook.Component

open Script
open Source (Edit splice)

/-- The text of an import up to the string that names the module. -/
def importOpening (c : Identity) : String :=
  "import \x7b " ++ (if c.isClass then wrapperName else hookName) ++ " \x7d from "

/-- `before` is what stands in front of the first item, directives apart, of a text that can be
read, with edits of a migration made in it. Most often there are none: of an item, only decorators
stand in front of it. -/
def FrontOfItem (read : String → Option Module) (before : List Char) : Prop :=
  ∃ source m item options t edits front back,
    read source = some m ∧ firstStatement? m.items = some item ∧
    source.toList = front ++ back ∧ Text.byteLength front = item.span.start ∧
    IsQuote t.quote ∧ edits ⊆ rewriteEdits options source.toList t m ∧
    splice 0 front edits = .ok before

/-- A text in which an import stands in front of an item is only read if a string follows the word
`from`, and then the import is an item whose source is the value of that string. -/
def ReadsImports (read : String → Option Module) : Prop :=
  ∀ before c quote rest m,
    FrontOfItem read before → IsQuote quote →
    read (String.ofList (before ++ (importOpening c).toList ++ quote :: rest)) = some m →
    ∃ found names item,
      readString (quote :: rest) = some found ∧ item ∈ m.items ∧
      item.form = .importFrom ⟨found.value, quote⟩ names

theorem isQuote_quoteOf (source : ModuleName) : IsQuote (quoteOf source) := by
  unfold quoteOf
  split
  · rename_i h
    simpa [IsQuote] using h
  · exact Or.inr rfl

theorem exists_of_eligible {options : Options} {m : Module} {quote : Char}
    (h : eligibility options m = .eligible quote) :
    IsQuote quote ∧ ∃ first, firstStatement? m.items = some first := by
  unfold eligibility at h
  simp only at h
  split at h
  · cases h
  split at h
  · cases h
  rename_i source hsource
  cases h
  refine ⟨isQuote_quoteOf source, ?_⟩
  obtain ⟨item, hitem, hitemSource⟩ :=
    List.mem_filterMap.mp (List.mem_of_find?_eq_some hsource)
  have hform : (item.form != .directive) = true := by
    rw [bne_iff_ne]
    intro hdirective
    simp [source?, hdirective] at hitemSource
  exact Option.isSome_iff_exists.mp (List.find?_isSome.mpr ⟨item, hitem, hform⟩)

theorem eligibility_of_import {options : Options} {m : Module} {item : Node} {quote : Char}
    {names : List String} (hitem : item ∈ m.items)
    (hform : item.form = .importFrom ⟨some options.i18nModule, quote⟩ names) :
    eligibility options m = .alreadyMigrated := by
  have hsource : importSource? item = some ⟨some options.i18nModule, quote⟩ := by
    simp [importSource?, hform]
  have hany : (m.items.filterMap importSource?).any
      (fun s => s.value = some options.i18nModule) = true :=
    List.any_eq_true.mpr ⟨_, List.mem_filterMap.mpr ⟨item, hitem, hsource⟩, by simp⟩
  simp [eligibility, hany]

theorem importEdit_eq {options : Options} {c : Identity} {t : Target} {m : Module} {first : Node}
    (h : firstStatement? m.items = some first) :
    importEdit options c t m =
      .insert first.span.start
        (importOpening c ++ quoted t.quote options.i18nModule ++ ";" ++ "\n") := by
  rw [importEdit, h]
  simp [importStatement, importOpening, String.append_assoc]

/-- The code of a migrated file has the import of the integration module where an item of the
source stood, and behind it a text that is of no further interest. -/
theorem exists_code_eq {read : String → Option Module} {options : Options}
    {namespaceName source : String} {file : Migrated}
    (h : migrateWith read options namespaceName source = .ok (.migrated file)) :
    ∃ before c quote behind m,
      FrontOfItem read before ∧ IsQuote quote ∧ read file.code = some m ∧
      file.code = String.ofList (before ++ (importOpening c).toList ++
        ((quoted quote options.i18nModule).toList ++ behind)) := by
  obtain ⟨m, quote, hm, heligible, hmigrated⟩ := exists_of_migrateWith h
  obtain ⟨-, hcode, ⟨result, hresult⟩, -, -⟩ := exists_of_migrateEligible hmigrated
  obtain ⟨hquote, first, hfirst⟩ := exists_of_eligible heligible
  obtain ⟨edits, front, back, before, behind, hedits, himport, hsource, hfront, hbefore,
    hcodeList⟩ :=
    Source.applyEdits_of_mem hcode (List.mem_append_right _ (List.mem_singleton_self _))
  rw [importEdit_eq hfirst] at hedits himport hfront hcodeList
  refine ⟨before, classify options m, quote, ";\n".toList ++ behind, result,
    ⟨source, m, first, options, ⟨namespaceName, quote⟩, edits, front, back, hm, hfirst, hsource,
      hfront, hquote, ?_, hbefore⟩, hquote, hresult, ?_⟩
  · intro e he
    rcases List.mem_append.mp (hedits he) with hrewrite | hother
    · exact hrewrite
    · exact absurd (List.mem_singleton.mp hother ▸ he) himport
  · rw [← String.ofList_toList (s := file.code), hcodeList]
    simp [Edit.insert, List.append_assoc]

/-- The code of a migrated file can be read, and is found to be migrated. -/
theorem eligibility_code {read : String → Option Module} (hread : ReadsImports read)
    {options : Options} {namespaceName source : String} {file : Migrated}
    (h : migrateWith read options namespaceName source = .ok (.migrated file)) :
    ∃ m, read file.code = some m ∧ eligibility options m = .alreadyMigrated := by
  obtain ⟨before, c, quote, behind, m, hfront, hquote, hm, hcode⟩ := exists_code_eq h
  have hstring : (quoted quote options.i18nModule).toList ++ behind =
      quote :: (escapeQuote quote options.i18nModule.toList ++ quote :: behind) := by
    simp [quoted]
  obtain ⟨found, names, item, hfound, hitem, hform⟩ :=
    hread before c quote _ m hfront hquote (by rw [← hstring, ← hcode]; exact hm)
  rw [← hstring, readString_quoted hquote] at hfound
  split at hfound
  · cases hfound
  · cases hfound
    exact ⟨m, hm, eligibility_of_import hitem hform⟩

/-- A migrated file is not migrated again: it is skipped as migrated, for every namespace and
without a diagnostic. -/
theorem migrateWith_code {read : String → Option Module} (hread : ReadsImports read)
    {options : Options} {namespaceName source : String} {file : Migrated}
    (h : migrateWith read options namespaceName source = .ok (.migrated file))
    (otherNamespace : String) :
    migrateWith read options otherNamespace file.code =
      .ok (.skipped .alreadyMigrated []) := by
  obtain ⟨m, hm, hmigrated⟩ := eligibility_code hread h
  simp only [migrateWith, hm, hmigrated]

/-- A component behind a mark for the order of bytes and a directive. -/
def greeting : String :=
  "\uFEFF'use client';\nimport R from 'react';\nconst a = <p>Hi you</p>;\n"

/-- An integration module whose name has to be escaped. -/
def greetingOptions : Options := { i18nModule := "it's" }

def migratedGreeting : String :=
  "\uFEFF'use client';\nimport \x7b useTranslation \x7d from 'it\\'s';\nimport R from 'react';\n"
    ++ "const a = <p>\x7bt('.hi_you')\x7d</p>;\n"

def greetingModule : Module :=
  ⟨⟨3, 64⟩,
    [.mk ⟨3, 16⟩ .directive [.mk ⟨3, 15⟩ (.string (some "use client")) []],
     .mk ⟨17, 39⟩ (.importFrom ⟨some "react", '\''⟩ ["R"]) [],
     .mk ⟨40, 64⟩ .variableList
      [.mk ⟨46, 63⟩ .declarator
        [.mk ⟨46, 47⟩ (.binding "a") [],
         .mk ⟨50, 63⟩ .other [.mk ⟨53, 59⟩ (.markupText "Hi you" "Hi you") []]]]]⟩

/-- Reads the greeting and its migrated form, and nothing else. -/
def readGreeting (text : String) : Option Module :=
  if text = greeting ∨ text = migratedGreeting then Script.parse .jsx text else none

theorem readGreeting_greeting : readGreeting greeting = some greetingModule := by
  have h : Script.parse .jsx greeting = some greetingModule := by decide +kernel
  simp [readGreeting, h]

theorem exists_readGreeting_migratedGreeting :
    ∃ m item, readGreeting migratedGreeting = some m ∧ item ∈ m.items ∧
      item.form = .importFrom ⟨some "it's", '\''⟩ ["useTranslation"] := by
  have h : (Script.parse .jsx migratedGreeting).any (fun m => m.items.any fun item =>
      item.form = .importFrom ⟨some "it's", '\''⟩ ["useTranslation"]) = true := by
    decide +kernel
  obtain ⟨m, hm, hany⟩ := (Option.any_eq_true ..).mp h
  obtain ⟨item, hitem, hform⟩ := List.any_eq_true.mp hany
  exact ⟨m, item, by simp [readGreeting, hm], hitem, by simpa using hform⟩

/-- Where the opening of an import stands in a text, and what follows it. -/
theorem opening_of_toList_eq {text : String} {before rest : List Char} {c : Identity} {quote : Char}
    (h : text.toList = before ++ (importOpening c).toList ++ quote :: rest) :
    before.length < text.toList.length ∧
      (importOpening ⟨"", c.isClass⟩).toList.isPrefixOf (text.toList.drop before.length) = true ∧
      text.toList.drop (before.length + (importOpening c).toList.length) = quote :: rest := by
  have hdrop : text.toList.drop before.length = (importOpening c).toList ++ quote :: rest := by
    simp [h]
  refine ⟨by simp only [h, List.length_append, List.length_cons]; omega, ?_, ?_⟩
  · rw [hdrop]
    simp [importOpening]
  · rw [← List.drop_drop, hdrop]
    simp

/-- The only import of the integration that these two texts hold is the one that the migration put
there. -/
theorem readsImports_readGreeting : ReadsImports readGreeting := by
  intro before c quote rest m _ _ hm
  have hplace : ∀ isClass : Bool,
      (∀ k < greeting.toList.length,
        (importOpening ⟨"", isClass⟩).toList.isPrefixOf (greeting.toList.drop k) = false) ∧
      ∀ k < migratedGreeting.toList.length,
        (importOpening ⟨"", isClass⟩).toList.isPrefixOf (migratedGreeting.toList.drop k) = true →
          isClass = false ∧ k = 15 := by
    decide +kernel
  have hlist := String.toList_ofList (l := before ++ (importOpening c).toList ++ quote :: rest)
  generalize String.ofList (before ++ (importOpening c).toList ++ quote :: rest) = text at hm hlist
  obtain ⟨hlength, hstarts, hrest⟩ := opening_of_toList_eq hlist
  unfold readGreeting at hm
  split at hm
  · rename_i htext
    rcases htext with rfl | rfl
    · rw [(hplace c.isClass).1 before.length hlength] at hstarts
      cases hstarts
    · obtain ⟨hclass, hbefore⟩ := (hplace c.isClass).2 before.length hlength hstarts
      have hopening : importOpening c = importOpening {} := by simp [importOpening, hclass]
      have hclosed :
          (migratedGreeting.toList.drop (15 + (importOpening {}).toList.length)).head? =
            some '\'' ∧
          (readString (migratedGreeting.toList.drop
            (15 + (importOpening {}).toList.length))).map Found.value = some (some "it's") := by
        decide +kernel
      rw [hbefore, hopening] at hrest
      rw [hrest] at hclosed
      obtain ⟨hquote, hvalue⟩ := hclosed
      obtain ⟨found, hfound, hfoundValue⟩ := Option.map_eq_some_iff.mp hvalue
      obtain ⟨m', item, hm', hitem, hform⟩ := exists_readGreeting_migratedGreeting
      have hsame : m' = m := by
        simpa [readGreeting, hm] using hm'.symm
      subst hsame
      refine ⟨found, ["useTranslation"], item, hfound, hitem, ?_⟩
      rw [hform, hfoundValue, ← Option.some.inj hquote]
  · cases hm

theorem migrateWith_greeting :
    ∃ file, migrateWith readGreeting greetingOptions "Common" greeting = .ok (.migrated file) ∧
      file.code = migratedGreeting ∧ file.entries = [⟨"", "hi_you", "Hi you"⟩] := by
  have heligible : eligibility greetingOptions greetingModule = .eligible '\'' := by decide +kernel
  have hedits : rewriteEdits greetingOptions greeting.toList ⟨"Common", '\''⟩ greetingModule ++
      [importEdit greetingOptions (classify greetingOptions greetingModule) ⟨"Common", '\''⟩
        greetingModule] =
      [⟨⟨53, 59⟩, "\x7bt('.hi_you')\x7d"⟩,
        .insert 17 "import \x7b useTranslation \x7d from 'it\\'s';\n"] := by decide +kernel
  have hcode : (Source.applyEdits greeting
      [⟨⟨53, 59⟩, "\x7bt('.hi_you')\x7d"⟩,
        .insert 17 "import \x7b useTranslation \x7d from 'it\\'s';\n"]).toOption =
      some migratedGreeting := by
    rw [Source.applyEdits_of_descending (by decide)]
    decide +kernel
  obtain ⟨m, item, hm, -, -⟩ := exists_readGreeting_migratedGreeting
  obtain ⟨file, hfile, hcode', hentries⟩ := migrateWith_of_applyEdits readGreeting_greeting
    heligible (by decide +kernel) (hedits ▸ eq_ok_of_toOption hcode) hm
  exact ⟨file, hfile, hcode', hentries.trans (by decide +kernel)⟩

theorem greeting_migrated :
    ∃ file, migrateWith readGreeting greetingOptions "Common" greeting = .ok (.migrated file) ∧
      migrateWith readGreeting greetingOptions "Shop" file.code =
        .ok (.skipped .alreadyMigrated []) := by
  obtain ⟨file, hfile, -⟩ := migrateWith_greeting
  exact ⟨file, hfile, migrateWith_code readsImports_readGreeting hfile "Shop"⟩

end Phrasebook.Component

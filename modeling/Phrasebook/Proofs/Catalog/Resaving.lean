import Phrasebook.Proofs.Catalog.Readback
import Phrasebook.Proofs.Disk.Unchanged

/-!
Reading catalogs that were written, and writing them once more.

A catalog without doubles is read as it was written, with its keys in the same order. What was merged
into it is merged into it already, and the catalogs of the mock locales are made from the base
catalog, which no longer changes. So the texts of a namespace can be saved again and again, and after
the first time the disk is what it was.
-/

namespace Phrasebook

open Json (Fields Value Number Sound)

namespace Json.Fields

theorem get?_of_mem {fields : Fields} (hkeys : fields.keys.Nodup) {f : String × Value}
    (hf : f ∈ fields) : fields.get? f.1 = some f.2 := by
  induction fields with
  | nil => cases hf
  | cons g fields ih =>
      obtain ⟨hg, hrest⟩ := List.nodup_cons.mp hkeys
      rcases List.mem_cons.mp hf with rfl | hf
      · exact if_pos rfl
      · have hne : g.1 ≠ f.1 := fun heq => hg (heq ▸ List.mem_map_of_mem hf)
        rw [get?, if_neg hne]
        exact ih hrest hf

theorem set_of_get? {key : String} {value : Value} {fields : Fields}
    (h : fields.get? key = some value) : fields.set key value = fields := by
  induction fields with
  | nil => cases h
  | cons f fields ih =>
      obtain ⟨k, v⟩ := f
      by_cases hk : k = key
      · rw [get?, if_pos hk] at h
        rw [set, if_pos hk, Option.some.inj h]
      · rw [get?, if_neg hk] at h
        rw [set, if_neg hk, ih h]

end Json.Fields

namespace Catalog

section Merge

variable {ok : Number → Prop} {depth : Nat} {existing fresh : Fields} {value : Value}

/-- Merging changes nothing if each new value is found and changes nothing there. -/
theorem merge_eq_self (h : ∀ f ∈ fresh, ∃ old, existing.get? f.1 = some old ∧
    mergeValue old f.2 = old) : merge existing fresh = existing := by
  induction fresh with
  | nil => rw [merge]
  | cons f fresh ih =>
      obtain ⟨old, hold, hsame⟩ := h f List.mem_cons_self
      rw [merge, hold]
      show merge (existing.set f.1 (mergeValue old f.2)) fresh = existing
      rw [hsame, Fields.set_of_get? hold]
      exact ih fun f' hf' => h f' (List.mem_cons_of_mem _ hf')

theorem mergeValue_self (h : Sound ok depth value) : mergeValue value value = value := by
  induction h with
  | object hkeys hfields ih =>
      rw [mergeValue, merge_eq_self]
      intro f hf
      exact ⟨f.2, Fields.get?_of_mem hkeys hf, ih f hf⟩
  | _ => rfl

/-- What was merged into a value is merged into it already. -/
theorem mergeValue_mergeValue (h : Sound ok depth value) (old : Value) :
    mergeValue (mergeValue old value) value = mergeValue old value := by
  induction h generalizing old with
  | @object depth fresh hkeys hfields ih =>
      cases old with
      | object existing =>
          simp only [mergeValue]
          congr 1
          apply merge_eq_self
          intro f hf
          -- The field was new, or it was merged with one that was there.
          rw [get?_merge hkeys, Fields.get?_of_mem hkeys hf]
          cases Fields.get? f.1 existing with
          | none => exact ⟨f.2, rfl, mergeValue_self (hfields f hf)⟩
          | some old => exact ⟨mergeValue old f.2, rfl, ih f hf old⟩
      | _ => simp only [mergeValue]
  | _ => simp only [mergeValue]

theorem merge_merge (h : Sound ok depth (.object fresh)) (existing : Fields) :
    merge (merge existing fresh) fresh = merge existing fresh := by
  have hmerged := mergeValue_mergeValue h (.object existing)
  simp only [mergeValue] at hmerged
  exact Value.object.inj hmerged

end Merge

/-- Catalogs are read as they were written. -/
theorem load_save {fields : Fields} (hfields : Whole fields) :
    (∀ path, ofText path (toText fields) = .ok fields) ∧
      ∀ (write : Writer) (w w' : Workspace) (path : String), write.MayFail → w.WellFormed →
        save write w path fields = (w', none) →
          w'.contentAt path = some (.text (toText fields)) ∧ load w' path = .ok (some fields) := by
  constructor
  · intro path
    rw [ofText, parse_toText_of_whole hfields]
  · intro write w w' path hwrite hw hsaved
    obtain ⟨mode, hnode⟩ := hwrite.node_of_success hw hsaved
    exact ⟨(hwrite.changes_of_success hw hsaved).2, load_of_node hfields hnode⟩

/-- A catalog with what is hard to write: signs that are escaped, texts of several alphabets, empty
objects and arrays, and the outermost integers. -/
def oddities : Fields :=
  [("say \"hi\"", .object
      [("back\\slash", .string "tab\t, line\n, bell\u0007, é, 語, 😀"), ("", .object []),
        ("list", .array [.array [], .null, .bool true, .number (.integer (-9223372036854775808)),
          .number (.integer 18446744073709551615)])]),
    ("After", .string "/")]

theorem whole_oddities : Whole oddities := by
  refine .object (by decide) ?_
  simp only [oddities, List.forall_mem_cons, List.not_mem_nil, false_imp_iff, implies_true, and_true]
  refine ⟨.object (by decide) ?_, .string _⟩
  simp only [List.forall_mem_cons, List.not_mem_nil, false_imp_iff, implies_true, and_true]
  refine ⟨.string _, .object .nil (by simp), .array ?_⟩
  simp only [List.forall_mem_cons, List.not_mem_nil, false_imp_iff, implies_true, and_true]
  exact ⟨.array (by simp), .null, .bool _, .number ⟨by decide, by decide⟩,
    .number ⟨by decide, by decide⟩⟩

/-- The catalog is put where there is not even a directory for it. -/
theorem oddities_read_back : ∃ w',
    save Workspace.replace shop "locales/it/Odd.json" oddities = (w', none) ∧
      w'.contentAt "locales/it/Odd.json" = some (.text (toText oddities)) ∧
      load w' "locales/it/Odd.json" = .ok (some oddities) := by
  have hnone : (save Workspace.replace shop "locales/it/Odd.json" oddities).2 = none := by
    decide +kernel
  have hsaved := eq_mk_of_snd_eq hnone
  exact ⟨_, hsaved, (load_save whole_oddities).2 _ _ _ _ Writer.mayFail_replace wellFormed_shop
    hsaved⟩

namespace Store

variable {s : Store} {w w' : Workspace} {namespaceName : String}

theorem unfit?_of_saveLocales {catalogs : List (String × Fields)} {written : List Written}
    (h : s.saveLocales Workspace.replace namespaceName w catalogs = (w', .ok written)) :
    ∀ c ∈ catalogs, Workspace.unfit? (s.path namespaceName c.1) = none := by
  induction catalogs generalizing w written with
  | nil => simp
  | cons catalog rest ih =>
      obtain ⟨next, others, hsaved, hrest, -⟩ := exists_of_saveLocales_cons h
      intro c hc
      rcases List.mem_cons.mp hc with rfl | hc
      · exact Workspace.unfit?_of_replace hsaved
      · exact ih hrest c hc

/-- Catalogs that are there are saved without a change. -/
theorem saveLocales_of_nodes {catalogs : List (String × Fields)}
    (hnodes : ∀ c ∈ catalogs, ∃ mode,
      w.node (s.path namespaceName c.1) = .ok (.file (.text (toText c.2)) mode))
    (hfit : ∀ c ∈ catalogs, Workspace.unfit? (s.path namespaceName c.1) = none) :
    s.saveLocales Workspace.replace namespaceName w catalogs =
      (w, .ok (catalogs.map fun c => ⟨c.1, s.path namespaceName c.1, keyCount c.2⟩)) := by
  induction catalogs with
  | nil => rfl
  | cons catalog rest ih =>
      obtain ⟨mode, hnode⟩ := hnodes catalog List.mem_cons_self
      have hsaved : save Workspace.replace w (s.path namespaceName catalog.1) catalog.2 =
          (w, none) :=
        Workspace.replace_of_node hnode (hfit catalog List.mem_cons_self)
      have hrest := ih (fun c hc => hnodes c (List.mem_cons_of_mem _ hc))
        fun c hc => hfit c (List.mem_cons_of_mem _ hc)
      simp only [saveLocales, hsaved, hrest]
      rfl

/-- The catalogs that a namespace gets, as what is there when it gets its texts again. -/
def upToDate (translate : Translator) (existing : Existing) (fresh : Fields) : Existing where
  base := merge existing.base fresh
  mocks := existing.mocks.map fun c =>
    (c.1, merge c.2 (mock translate c.1 (merge existing.base fresh)))

theorem updated_upToDate {existing : Existing} {fresh : Fields} (hbase : Whole existing.base)
    (hfresh : Whole fresh) (s : Store) (translate : Translator) :
    s.updated translate (upToDate translate existing fresh) fresh =
      s.updated translate existing fresh := by
  have hmerged : Whole (merge existing.base fresh) := sound_merge hbase hfresh
  unfold updated upToDate
  simp only [merge_merge hfresh, List.map_map]
  congr 1
  apply List.map_congr_left
  intro c hc
  show (c.1, merge (merge c.2 _) _) = _
  rw [merge_merge (sound_mock translate c.1 hmerged)]

/-- Saving the same texts a second time succeeds, returns the same list and leaves the whole disk as
it is. -/
theorem saveNamespace_again {existing : Existing} {translate : Translator} {fresh : Fields}
    {written : List Written} (hw : w.WellFormed) (hplaces : (s.places w namespaceName).Nodup)
    (hfloat : ∀ path ∈ s.paths namespaceName, ∀ fields, load w path = .ok (some fields) →
      ∀ bits, .float bits ∉ (Value.object fields).numbers)
    (hfresh : Whole fresh) (hloaded : s.loadExisting w namespaceName = .ok existing)
    (hsaved : s.saveNamespace Workspace.replace translate w namespaceName existing fresh =
      (w', .ok written)) :
    ∃ existing', s.loadExisting w' namespaceName = .ok existing' ∧
      (s.baseLocale, existing'.base) :: existing'.mocks = s.updated translate existing fresh ∧
      s.saveNamespace Workspace.replace translate w' namespaceName existing' fresh =
        (w', .ok written) := by
  obtain ⟨hbaseWhole, hmocksWhole⟩ := whole_of_loadExisting hloaded hfloat
  have hwhole : ∀ c ∈ s.updated translate existing fresh, Whole c.2 :=
    whole_of_mem_updated hbaseWhole hmocksWhole hfresh
  have hnodes := node_saveLocales Writer.mayFail_replace hw
    (map_place_updated hloaded translate fresh w ▸ hplaces) hsaved
  have hread : ∀ c ∈ s.updated translate existing fresh,
      s.loadLocale w' namespaceName c.1 = .ok c.2 := by
    intro c hc
    obtain ⟨mode, hnode⟩ := hnodes c hc
    rw [loadLocale, load_of_node (hwhole c hc) hnode]
    rfl
  refine ⟨upToDate translate existing fresh, ?_, rfl, ?_⟩
  · apply loadExisting_eq_ok
    · exact hread (s.baseLocale, merge existing.base fresh) List.mem_cons_self
    · have hmocks := loadLocales_eq_ok (s := s) fun c hc => hread c (List.mem_cons_of_mem _ hc)
      rw [← map_fst_of_loadExisting hloaded]
      rw [List.map_map] at hmocks
      exact hmocks
  · rw [saveNamespace, updated_upToDate hbaseWhole hfresh,
      saveLocales_of_nodes hnodes (unfit?_of_saveLocales hsaved), written_of_saveLocales hsaved]

end Store

/-- The new text of the shop is saved a second time, in all of its locales. -/
theorem shop_saved_again : ∃ existing w' written existing',
    shopStore.loadExisting shop "Shop" = .ok existing ∧
      shopStore.saveNamespace Workspace.replace bracketed shop "Shop" existing shopTexts =
        (w', .ok written) ∧
      shopStore.loadExisting w' "Shop" = .ok existing' ∧
      shopStore.saveNamespace Workspace.replace bracketed w' "Shop" existing' shopTexts =
        (w', .ok written) := by
  obtain ⟨existing, hexisting, hsome⟩ := Option.map_eq_some_iff.mp shopFacts.saved
  have hloaded := eq_ok_of_toOption hexisting
  obtain ⟨written, hwritten⟩ := Option.isSome_iff_exists.mp hsome
  have hsaved := eq_mk_of_snd_eq (eq_ok_of_toOption hwritten)
  obtain ⟨existing', hloaded', -, hagain⟩ := Store.saveNamespace_again wellFormed_shop
    shopFacts.places float_not_mem_shop (whole_text "Cart" "empty" "No items") hloaded hsaved
  exact ⟨existing, _, written, existing', hloaded, hsaved, hloaded', hagain⟩

end Catalog

end Phrasebook

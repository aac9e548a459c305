import Mathlib.Data.Set.Card
import ShaderAssembly.Proofs.Lists.FirstOccurrences
import ShaderAssembly.Proofs.Resource.Labels

/-!
# Registering a directory

A directory has each name once, so the labels it gives are all different. Hence no insertion
overwrites another one of the same directory, and the order in which the names are listed makes no
difference to the table that comes out, nor to how many labels are new in it. If a file is no text,
the work ends there. Which files are registered by then depends on the order, but nothing else is.
-/

namespace ShaderAssembly

namespace ResourceTable

/-- The two tables have the same labels, with the same texts. -/
def Equiv (table other : ResourceTable) : Prop := table.entries.Equiv other.entries

variable {tree : FileTree} {dir : String} {table loaded loaded' : ResourceTable}
  {names : List String} {count : Nat}

theorem equiv_of_get?_eq (h : ∀ label, loaded.get? label = loaded'.get? label) :
    loaded.Equiv loaded' :=
  Std.TreeMap.Equiv.of_forall_constGet?_eq h

/-- Of labels that are all different, the new ones make the table larger. -/
theorem size_insertAll {entries : List (String × String)} (h : (entries.map Prod.fst).Nodup) :
    (table.insertAll entries).size
      = table.size + ((entries.map Prod.fst).filter (!table.contains ·)).length := by
  induction entries generalizing table with
  | nil => rfl
  | cons entry entries ih =>
      rw [List.map_cons, List.nodup_cons] at h
      -- The labels that come later are other ones, so whether they are new is not changed.
      have hlater : (entries.map Prod.fst).filter
            (fun label => !(table.insert entry.1 entry.2).contains label)
          = (entries.map Prod.fst).filter (!table.contains ·) := by
        refine List.filter_congr fun label hlabel => ?_
        rw [contains_insert_of_ne (fun hsame => h.1 (by rwa [hsame]))]
      have hrest : table.insertAll (entry :: entries)
          = (table.insert entry.1 entry.2).insertAll entries := rfl
      rw [hrest, ih h.2, hlater, size_insert, List.map_cons, List.filter_cons]
      cases table.contains entry.1 with
      | true => rfl
      | false =>
          rw [if_neg Bool.false_ne_true, Bool.not_false, if_pos rfl, List.length_cons,
            Nat.add_assoc, Nat.add_comm 1]

theorem map_fst_of_gives {files : List ResourceFile} {entries : List (String × String)}
    (h : List.Forall₂ (ResourceFile.Gives tree) files entries) :
    entries.map Prod.fst = files.map ResourceFile.name := by
  induction h with
  | nil => rfl
  | cons hfirst _ ih => rw [List.map_cons, List.map_cons, hfirst.1, ih]

/-! ### A list of names -/

/-- However the work ends, a label that is none of the resources listed is left as it was. -/
theorem get?_loadNames_of_not_resource {label : String}
    (h : ¬ (label ∈ names ∧ tree.isResource dir label = true)) :
    (loadNames tree dir names table).1.get? label = table.get? label := by
  induction names generalizing table with
  | nil => rfl
  | cons name names ih =>
      have hrest : ¬ (label ∈ names ∧ tree.isResource dir label = true) :=
        fun ⟨hmem, hkept⟩ => h ⟨List.mem_cons_of_mem _ hmem, hkept⟩
      rw [loadNames_cons]
      split
      · rename_i hkept
        have hne : name ≠ label := by
          rintro rfl
          exact h ⟨List.mem_cons_self, hkept⟩
        split
        · rfl
        · exact (ih hrest).trans (by rw [get?_insert, if_neg hne])
      · exact ih hrest

theorem count_of_loadNames (h : loadNames tree dir names table = (loaded, .ok count)) :
    count = (names.filter (tree.isResource dir)).length := by
  obtain ⟨entries, hentries, -, rfl⟩ := loadNames_eq_ok_iff.1 h
  rw [← hentries.length_eq, List.length_map]

theorem size_of_loadNames (hnames : names.Nodup)
    (h : loadNames tree dir names table = (loaded, .ok count)) :
    loaded.size = table.size
      + ((names.filter (tree.isResource dir)).filter (!table.contains ·)).length := by
  obtain ⟨entries, hentries, rfl, -⟩ := loadNames_eq_ok_iff.1 h
  have hlabels : entries.map Prod.fst = names.filter (tree.isResource dir) := by
    rw [map_fst_of_gives hentries, List.map_map]
    exact List.map_id _
  rw [size_insertAll (hlabels ▸ hnames.filter _), hlabels]

/-! ### A directory -/

/-- What registering a directory may give, in whichever order it lists its names. -/
def MayLoad (table : ResourceTable) (tree : FileTree) (dir : String)
    (run : ResourceTable × Except FileError Nat) : Prop :=
  ∃ names order, tree.list dir = .ok names ∧ order.Perm names ∧
    loadNames tree dir order table = run

/-- What a table is like once the resources of a directory are registered. -/
structure Registers (tree : FileTree) (dir : String) (table loaded : ResourceTable) (count : Nat) :
    Prop where
  count : count = {name | tree.HoldsResource dir name}.ncard
  texts : ∀ name, tree.HoldsResource dir name →
    ∃ text, tree.readText (Path.join dir name) = .ok text ∧ loaded.get? name = some text
  others : ∀ label, ¬ tree.HoldsResource dir label → loaded.get? label = table.get? label
  size : loaded.size
    = table.size + {name | tree.HoldsResource dir name ∧ table.contains name = false}.ncard

theorem mayLoad_loadDirectory (hdir : tree.isDirectory dir = true) (table : ResourceTable) :
    table.MayLoad tree dir (table.loadDirectory tree dir) := by
  obtain ⟨place, hplace, hnode⟩ := FileTree.isDirectory_eq_true_iff.1 hdir
  have hlist := FileTree.list_eq_ok_iff.2 ⟨place, hplace, hnode, rfl⟩
  refine ⟨_, _, hlist, .refl _, ?_⟩
  rw [loadDirectory, hlist]

theorem ncard_listed {names : List String} (hnames : names.Nodup) (p : String → Bool) :
    {name | name ∈ names ∧ p name = true}.ncard = (names.filter p).length := by
  have hset : {name | name ∈ names ∧ p name = true} = ↑(names.filter p).toFinset := by
    ext name
    simp
  rw [hset, Set.ncard_coe_finset, List.toFinset_card_of_nodup (hnames.filter p)]

theorem registers_of_loadNames {order : List String} (hlist : tree.list dir = .ok names)
    (horder : order.Perm names) (h : loadNames tree dir order table = (loaded, .ok count)) :
    Registers tree dir table loaded count := by
  have hnodup : order.Nodup := by
    obtain ⟨place, -, -, rfl⟩ := FileTree.list_eq_ok_iff.1 hlist
    exact horder.nodup_iff.2 (nodup_eraseDups _)
  have hholds (name : String) := FileTree.holdsResource_iff_of_list hlist horder name
  refine ⟨?_, fun name hname => ?_, fun label hlabel => ?_, ?_⟩
  · simp only [hholds, ncard_listed hnodup]
    exact count_of_loadNames h
  · obtain ⟨hmem, hkept⟩ := (hholds name).1 hname
    obtain ⟨text, hread⟩ := readable_of_loadNames h hmem hkept
    have hget := get?_of_loadNames h name
    rw [if_pos ⟨hmem, hkept⟩, hread] at hget
    exact ⟨text, hread, Option.map_injective (fun _ _ => Except.ok.inj) hget⟩
  · have hget := get?_of_loadNames h label
    rw [if_neg (mt (hholds label).2 hlabel)] at hget
    exact Option.map_injective (fun _ _ => Except.ok.inj) hget
  · have hnew (name : String) : tree.HoldsResource dir name ∧ table.contains name = false
        ↔ name ∈ order ∧ (tree.isResource dir name && !table.contains name) = true := by
      rw [hholds, Bool.and_eq_true, Bool.not_eq_true', and_assoc]
    rw [size_of_loadNames hnodup h, List.filter_filter]
    simp only [hnew, ncard_listed hnodup, Bool.and_comm]

theorem Registers.equiv (h : Registers tree dir table loaded count)
    (h' : Registers tree dir table loaded' count) : loaded.Equiv loaded' := by
  refine equiv_of_get?_eq fun label => ?_
  by_cases hlabel : tree.HoldsResource dir label
  · obtain ⟨text, hread, hget⟩ := h.texts label hlabel
    obtain ⟨text', hread', hget'⟩ := h'.texts label hlabel
    obtain rfl : text = text' := Except.ok.inj (hread.symm.trans hread')
    rw [hget, hget']
  · rw [h.others label hlabel, h'.others label hlabel]

variable {run : ResourceTable × Except FileError Nat}

theorem MayLoad.registers (h : table.MayLoad tree dir run) (htexts : ¬ tree.HoldsNonText dir) :
    ∃ count, run.2 = .ok count ∧ Registers tree dir table run.1 count := by
  obtain ⟨names, order, hlist, horder, rfl⟩ := h
  cases hload : loadNames tree dir order table with
  | mk loaded result =>
      cases result with
      | ok count => exact ⟨count, rfl, registers_of_loadNames hlist horder hload⟩
      | error e =>
          have hnonText := holdsNonText_of_loadNames hlist horder (congrArg Prod.snd hload)
          exact absurd hnonText.2 htexts

theorem MayLoad.fails (h : table.MayLoad tree dir run) (hnonText : tree.HoldsNonText dir) :
    run.2 = .error .notText := by
  obtain ⟨names, order, hlist, horder, rfl⟩ := h
  cases hload : loadNames tree dir order table with
  | mk loaded result =>
      cases result with
      | ok count => exact absurd hnonText (not_holdsNonText_of_loadNames hlist horder hload)
      | error e =>
          rw [(holdsNonText_of_loadNames hlist horder (congrArg Prod.snd hload)).1]

theorem MayLoad.get?_of_not_holdsResource (h : table.MayLoad tree dir run) {label : String}
    (hlabel : ¬ tree.HoldsResource dir label) : run.1.get? label = table.get? label := by
  obtain ⟨names, order, hlist, horder, rfl⟩ := h
  exact get?_loadNames_of_not_resource
    (mt (FileTree.holdsResource_iff_of_list hlist horder label).2 hlabel)

/-- **Any order will do.** A directory may list its names in any order. If all its resources are
texts, it is read to the end whatever the order, and the tables that come out are the same: each
resource is registered under its name, all other labels are as they were, and the table is larger by
the labels that are new. If one of them is no text, the work fails whatever the order, and no label
but those of resources of the directory is touched. -/
theorem loadDirectory_in_any_order (hdir : tree.isDirectory dir = true) (table : ResourceTable) :
    table.MayLoad tree dir (table.loadDirectory tree dir) ∧
    (¬ tree.HoldsNonText dir →
      ∀ run run', table.MayLoad tree dir run → table.MayLoad tree dir run' →
        ∃ count, run.2 = .ok count ∧ run'.2 = .ok count ∧ run.1.Equiv run'.1 ∧
          Registers tree dir table run.1 count ∧ Registers tree dir table run'.1 count) ∧
    (tree.HoldsNonText dir → ∀ run, table.MayLoad tree dir run →
      run.2 = .error .notText ∧
        ∀ label, ¬ tree.HoldsResource dir label → run.1.get? label = table.get? label) := by
  refine ⟨mayLoad_loadDirectory hdir table, fun htexts run run' hrun hrun' => ?_,
    fun hnonText run hrun => ?_⟩
  · obtain ⟨count, hcount, hregisters⟩ := hrun.registers htexts
    obtain ⟨count', hcount', hregisters'⟩ := hrun'.registers htexts
    obtain rfl : count = count' := hregisters.count.trans hregisters'.count.symm
    exact ⟨count, hcount, hcount', hregisters.equiv hregisters', hregisters, hregisters'⟩
  · exact ⟨hrun.fails hnonText, fun label hlabel => hrun.get?_of_not_holdsResource hlabel⟩

/-- A directory with two resources and three entries that are none, and one whose second resource is
no text. -/
def mixedDirectories : FileTree :=
  ⟨"/", [
    (["good"], .directory),
    (["good", "a.glsl"], .file (.text "new")),
    (["good", "b.glsl"], .file (.text "b")),
    (["good", ".glsl"], .file (.bytes [255])),
    (["good", "c.txt"], .file (.bytes [255])),
    (["good", "d.glsl"], .directory),
    (["spoilt"], .directory),
    (["spoilt", "a.glsl"], .file (.text "new")),
    (["spoilt", "z.glsl"], .file (.bytes [255]))]⟩

/-- The entries of the first one, and those of the other. -/
def goodNames : List String := ["a.glsl", "b.glsl", ".glsl", "c.txt", "d.glsl"]

def spoiltNames : List String := ["a.glsl", "z.glsl"]

def oldTexts : ResourceTable := (empty.insert "a.glsl" "old").insert "kept" "text"

/-- The run on a directory of these that lists its names like this. -/
def listing (dir : String) (order : List String) : ResourceTable × Except FileError Nat :=
  loadNames mixedDirectories dir order oldTexts

theorem mixedDirectories_load_in_any_order :
    ((listing "good" goodNames).2 = .ok 2 ∧ (listing "good" goodNames.reverse).2 = .ok 2 ∧
      (listing "good" goodNames).1.Equiv (listing "good" goodNames.reverse).1 ∧
      (listing "good" goodNames.reverse).1.get? "a.glsl" = some "new" ∧
      (listing "good" goodNames.reverse).1.get? "kept" = some "text") ∧
    ∀ order ∈ [spoiltNames, spoiltNames.reverse],
      (listing "spoilt" order).2 = .error .notText ∧
      (listing "spoilt" order).1.get? "kept" = some "text" := by
  have hkept : oldTexts.get? "kept" = some "text" := by rw [oldTexts, get?_insert, if_pos rfl]
  have hgood {order : List String} (horder : order.Perm goodNames) :
      oldTexts.MayLoad mixedDirectories "good" (listing "good" order) :=
    ⟨goodNames, order, by decide +kernel, horder, rfl⟩
  have hspoilt {order : List String} (horder : order.Perm spoiltNames) :
      oldTexts.MayLoad mixedDirectories "spoilt" (listing "spoilt" order) :=
    ⟨spoiltNames, order, by decide +kernel, horder, rfl⟩
  obtain ⟨-, htexts, -⟩ :=
    loadDirectory_in_any_order (show mixedDirectories.isDirectory "good" = true by decide +kernel)
      oldTexts
  obtain ⟨-, -, hnonText⟩ :=
    loadDirectory_in_any_order (show mixedDirectories.isDirectory "spoilt" = true by decide +kernel)
      oldTexts
  obtain ⟨count, hcount, hcount', hequiv, -, hregisters⟩ :=
    htexts (by decide +kernel) _ _ (hgood (.refl _)) (hgood goodNames.reverse_perm)
  obtain rfl : 2 = count := by
    have hrun : (listing "good" goodNames).2 = .ok 2 := by decide +kernel
    exact Except.ok.inj (hrun.symm.trans hcount)
  refine ⟨⟨hcount, hcount', hequiv, ?_, ?_⟩, ?_⟩
  · obtain ⟨text, hread, hget⟩ := hregisters.texts "a.glsl" (by decide +kernel)
    have hnew : mixedDirectories.readText (Path.join "good" "a.glsl") = .ok "new" := by
      decide +kernel
    rw [hget, Except.ok.inj (hread.symm.trans hnew)]
  · rw [hregisters.others "kept" (by decide +kernel), hkept]
  · intro order horder
    have hperm : order.Perm spoiltNames := by
      rcases List.mem_pair.1 horder with rfl | rfl
      · exact .refl _
      · exact spoiltNames.reverse_perm
    obtain ⟨hfails, hothers⟩ := hnonText (by decide +kernel) _ (hspoilt hperm)
    exact ⟨hfails, by rw [hothers "kept" (by decide +kernel), hkept]⟩

end ResourceTable

end ShaderAssembly

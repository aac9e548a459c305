import Mathlib.Data.List.ReduceOption
import Mathlib.Tactic.TFAE
import ShaderAssembly.Proofs.Resource.Loading

/-!
# What a table answers

A table is filled by inserting texts and by reading directories, which may fail on the way. Either
way it is filled entry by entry, so a run comes down to a list of registrations, in order: a
directory adds its resources up to the first that is no text. The table keeps the last registration
of each label and no order among them, but all its answers are about the same labels. They are
listed in order and once each, there are as many as the size says, and a text is found under these
and under no others. So a label that is registered again makes no table larger.
-/

namespace ShaderAssembly

namespace FileTree

/-- The entry that a name in a directory gives, unless its file is no text. -/
def entry? (tree : FileTree) (dir name : String) : Option (String × String) :=
  (tree.readText (Path.join dir name)).toOption.map (name, ·)

/-- The entries that a directory gives if it lists these names in this order: those of the resources
before the first one that is no text. -/
def entriesOf (tree : FileTree) (dir : String) (names : List String) : List (String × String) :=
  (((names.filter (tree.isResource dir)).map (tree.entry? dir)).takeWhile
    Option.isSome).reduceOption

end FileTree

def bundledEntries : List (String × String) :=
  bundledResources.map fun resource => (resource.label, resource.text)

namespace ResourceTable

/-! ### Runs -/

/-- A call that adds to a table: a text, or what a directory has at that time. -/
inductive Addition where
  | text (label text : String)
  | directory (tree : FileTree) (dir : String)

/-- The table after a call. If it fails, what was registered before stays. -/
def add (table : ResourceTable) : Addition → ResourceTable
  | .text label text => table.insert label text
  | .directory tree dir => (table.loadDirectory tree dir).1

/-- What a call may come to: the entries that it registers, one after the other, and the table then.
A directory may list its names in any order. -/
inductive MayAdd (table : ResourceTable) :
    Addition → List (String × String) → ResourceTable → Prop where
  | text (label text : String) :
      MayAdd table (.text label text) [(label, text)] (table.insert label text)
  | load {tree : FileTree} {dir : String} {names order : List String}
      (list : tree.list dir = .ok names) (enumerated : order.Perm names) :
      MayAdd table (.directory tree dir) (tree.entriesOf dir order)
        (loadNames tree dir order table).1
  | refuse {tree : FileTree} {dir : String} {e : FileError} (list : tree.list dir = .error e) :
      MayAdd table (.directory tree dir) [] table

/-- What calls may come to, one after the other. -/
inductive MayFill : ResourceTable → List Addition → List (String × String) → ResourceTable → Prop
    where
  | done {table : ResourceTable} : MayFill table [] [] table
  | add {table next last : ResourceTable} {addition : Addition} {additions : List Addition}
      {entries more : List (String × String)} (first : table.MayAdd addition entries next)
      (rest : MayFill next additions more last) :
      MayFill table (addition :: additions) (entries ++ more) last

/-- A table to start with, and what is registered in it. -/
inductive StartsWith : ResourceTable → List (String × String) → Prop where
  | fresh : StartsWith .empty []
  | withBundled : StartsWith .bundled bundledEntries

variable {tree : FileTree} {dir : String} {table next last start : ResourceTable}
  {addition : Addition} {additions : List Addition}
  {entries more known : List (String × String)}

theorem fst_loadNames (names : List String) (table : ResourceTable) :
    (loadNames tree dir names table).1 = table.insertAll (tree.entriesOf dir names) := by
  induction names generalizing table with
  | nil => rfl
  | cons name names ih =>
      rw [loadNames_cons, FileTree.entriesOf]
      by_cases hkept : tree.isResource dir name = true
      · rw [if_pos hkept, List.filter_cons_of_pos hkept, List.map_cons]
        cases hread : tree.readText (Path.join dir name) with
        | error e =>
            have hentry : tree.entry? dir name = none := by
              rw [FileTree.entry?, hread]
              rfl
            -- The work ends here, and so do the entries.
            rw [hentry, List.takeWhile_cons_of_neg (by simp)]
            rfl
        | ok text =>
            have hentry : tree.entry? dir name = some (name, text) := by
              rw [FileTree.entry?, hread]
              rfl
            rw [hentry, List.takeWhile_cons_of_pos rfl, List.reduceOption_cons_of_some]
            exact ih (table.insert name text)
      · rw [if_neg hkept, List.filter_cons_of_neg hkept]
        exact ih table

theorem MayAdd.eq_insertAll (h : table.MayAdd addition entries next) :
    next = table.insertAll entries := by
  cases h with
  | text label text => rfl
  | load list enumerated => exact fst_loadNames _ table
  | refuse list => rfl

theorem MayFill.eq_insertAll (h : table.MayFill additions entries last) :
    last = table.insertAll entries := by
  induction h with
  | done => rfl
  | add first rest ih => rw [insertAll_append, ← first.eq_insertAll, ih]

theorem StartsWith.eq_insertAll (h : start.StartsWith known) : start = empty.insertAll known := by
  cases h with
  | fresh => rfl
  | withBundled => rw [bundled, insertAll, bundledEntries, List.foldl_map]

theorem exists_mayAdd (table : ResourceTable) (addition : Addition) :
    ∃ entries, table.MayAdd addition entries (table.add addition) := by
  cases addition with
  | text label text => exact ⟨_, .text label text⟩
  | directory tree dir =>
      rw [add, loadDirectory]
      cases hlist : tree.list dir with
      | error e => exact ⟨_, .refuse hlist⟩
      | ok names => exact ⟨_, .load hlist (.refl names)⟩

theorem exists_mayFill (table : ResourceTable) (additions : List Addition) :
    ∃ entries, table.MayFill additions entries (additions.foldl add table) := by
  induction additions generalizing table with
  | nil => exact ⟨[], .done⟩
  | cons addition additions ih =>
      obtain ⟨entries, hfirst⟩ := exists_mayAdd table addition
      obtain ⟨more, hrest⟩ := ih (table.add addition)
      exact ⟨entries ++ more, .add hfirst hrest⟩

/-! ### Answers -/

/-- What a table answers if these are the registrations in it, in order. -/
structure Answers (table : ResourceTable) (entries : List (String × String)) : Prop where
  /-- The labels are listed by their code points, and each of them once. -/
  increasing : table.labels.Pairwise (· < ·)
  length : table.labels.length = table.size
  isEmpty : table.isEmpty = true ↔ table.labels = []
  agree : ∀ label, List.TFAE [table.contains label = true, label ∈ table.labels,
    (table.get? label).isSome = true, ((Resolver.ofTable table).resourceText label).isSome = true]
  last : ∀ label, table.get? label = entries.reverse.lookup label

theorem get?_empty (label : String) : empty.get? label = none := by simp [empty, get?]

theorem get?_insertAll (entries : List (String × String)) (table : ResourceTable)
    (label : String) :
    (table.insertAll entries).get? label
      = (entries.reverse.lookup label).or (table.get? label) := by
  induction entries generalizing table with
  | nil => rfl
  | cons entry entries ih =>
      have hrest : table.insertAll (entry :: entries)
          = (table.insert entry.1 entry.2).insertAll entries := rfl
      rw [hrest, ih, get?_insert, List.reverse_cons, List.lookup_append, Option.or_assoc,
        List.lookup_cons]
      by_cases hlabel : entry.1 = label
      · rw [if_pos hlabel, hlabel, beq_self_eq_true, Option.some_or]
      · rw [if_neg hlabel, beq_eq_false_iff_ne.2 (Ne.symm hlabel), List.lookup_nil, Option.none_or]

theorem increasing_labels (table : ResourceTable) : table.labels.Pairwise (· < ·) := by
  have hordered : table.labels.Pairwise (compare · · = .lt) := Std.TreeMap.ordered_keys
  exact hordered.imp compareOfLessAndEq_eq_lt.1

theorem mem_labels_iff {label : String} : label ∈ table.labels ↔ table.contains label = true := by
  rw [labels, Std.TreeMap.mem_keys, Std.TreeMap.mem_iff_contains, contains]

theorem isSome_get? (table : ResourceTable) (label : String) :
    (table.get? label).isSome = table.contains label :=
  Std.TreeMap.isSome_getElem?_eq_contains

theorem isEmpty_eq_true_iff : table.isEmpty = true ↔ table.labels = [] := by
  rw [← List.isEmpty_iff, labels, Std.TreeMap.isEmpty_keys, isEmpty]

theorem answers_insertAll (entries : List (String × String)) :
    (empty.insertAll entries).Answers entries where
  increasing := increasing_labels _
  length := Std.TreeMap.length_keys
  isEmpty := isEmpty_eq_true_iff
  agree label := by
    tfae_have 1 ↔ 2 := mem_labels_iff.symm
    tfae_have 1 ↔ 3 := by rw [isSome_get?]
    tfae_have 3 ↔ 4 := Iff.rfl
    tfae_finish
  last label := by rw [get?_insertAll, get?_empty, Option.or_none]

theorem StartsWith.answers_insertAll (h : start.StartsWith known)
    (entries : List (String × String)) : (start.insertAll entries).Answers (known ++ entries) := by
  rw [h.eq_insertAll, ← insertAll_append]
  exact ResourceTable.answers_insertAll (known ++ entries)

theorem Answers.mem_labels_iff (h : table.Answers entries) {label : String} :
    label ∈ table.labels ↔ label ∈ entries.map Prod.fst := by
  have hfound : label ∈ table.labels ↔ (table.get? label).isSome = true := (h.agree label).out 1 2
  rw [hfound, h.last, List.lookup_isSome_iff, List.mem_map]
  refine exists_congr fun entry => and_congr List.mem_reverse ?_
  rw [beq_iff_eq, eq_comm]

/-- The labels are the registered ones without repetitions. -/
theorem Answers.labels_perm (h : table.Answers entries) :
    table.labels.Perm (entries.map Prod.fst).eraseDups := by
  have hnodup : table.labels.Nodup := by
    refine h.increasing.imp fun hlt => ?_
    rintro rfl
    exact String.lt_irrefl _ hlt
  rw [List.perm_ext_iff_of_nodup hnodup (nodup_eraseDups _)]
  intro label
  rw [h.mem_labels_iff, List.mem_eraseDups]

theorem Answers.size_eq (h : table.Answers entries) :
    table.size = (entries.map Prod.fst).eraseDups.length := by
  rw [← h.length, h.labels_perm.length_eq]

/-- Labels that are registered again leave the size as it is. -/
theorem Answers.size_eq_of_known (h : table.Answers entries)
    (hlast : last.Answers (entries ++ more)) (hknown : ∀ entry ∈ more, entry.1 ∈ table.labels) :
    last.size = table.size := by
  have hsubset : more.map Prod.fst ⊆ entries.map Prod.fst := by
    intro label hlabel
    obtain ⟨entry, hentry, rfl⟩ := List.mem_map.1 hlabel
    exact h.mem_labels_iff.1 (hknown entry hentry)
  rw [hlast.size_eq, h.size_eq, List.map_append, eraseDups_append_of_subset hsubset]

/-- **A table is a map to what was registered last.** Whatever is inserted into a table that starts
empty or with the bundled texts, and whatever directories are read into it, with success or without,
and in whichever order they list their names: the labels come in increasing order, the size is their
number, and the table is empty if there are none. A label is contained exactly if it is listed, and
exactly if a text is found under it, which is that of its last registration. So registering labels
again does not change the size. -/
theorem filled_table_answers (hstart : start.StartsWith known) (additions : List Addition) :
    (∃ entries, start.MayFill additions entries (additions.foldl add start)) ∧
    ∀ entries table, start.MayFill additions entries table →
      table.Answers (known ++ entries) ∧
      ∀ again more last, table.MayFill again more last →
        (∀ entry ∈ more, entry.1 ∈ table.labels) → last.size = table.size := by
  refine ⟨exists_mayFill start additions, fun entries table hfill => ?_⟩
  have hanswers : table.Answers (known ++ entries) := by
    rw [hfill.eq_insertAll]
    exact hstart.answers_insertAll entries
  refine ⟨hanswers, fun again more last hagain hknown => ?_⟩
  have hlast : last.Answers (known ++ entries ++ more) := by
    rw [hagain.eq_insertAll, hfill.eq_insertAll, ← insertAll_append, List.append_assoc]
    exact hstart.answers_insertAll (entries ++ more)
  exact hanswers.size_eq_of_known hlast hknown

/-- A directory whose second file is no text, texts under a known and under a bundled label, and a
directory that is none. -/
def mixedAdditions : List Addition :=
  [.directory mixedDirectories "spoilt", .text "a.glsl" "again",
   .text "sasm/math.glsl" "own", .directory mixedDirectories "gone"]

theorem bundled_mixedAdditions_answers :
    ∃ table, bundled.MayFill mixedAdditions
        [("a.glsl", "new"), ("a.glsl", "again"), ("sasm/math.glsl", "own")] table ∧
      table.labels.Pairwise (· < ·) ∧
      table.size = 4 ∧
      table.get? "a.glsl" = some "again" ∧
      table.get? "sasm/math.glsl" = some "own" ∧
      table.get? "z.glsl" = none ∧
      (table.insert "a.glsl" "once more").size = table.size := by
  have hlist : mixedDirectories.list "spoilt" = .ok spoiltNames := by decide +kernel
  have hentries : mixedDirectories.entriesOf "spoilt" spoiltNames = [("a.glsl", "new")] := by
    decide +kernel
  obtain ⟨e, hgone⟩ : ∃ e, mixedDirectories.list "gone" = .error e := ⟨_, rfl⟩
  have hspoilt : bundled.MayAdd (.directory mixedDirectories "spoilt") [("a.glsl", "new")]
      (loadNames mixedDirectories "spoilt" spoiltNames bundled).1 := by
    rw [← hentries]
    exact .load hlist (.refl spoiltNames)
  have hfill := MayFill.add hspoilt (.add (.text "a.glsl" "again")
    (.add (.text "sasm/math.glsl" "own") (.add (.refuse hgone) .done)))
  obtain ⟨hanswers, hagain⟩ := (filled_table_answers .withBundled mixedAdditions).2 _ _ hfill
  refine ⟨_, hfill, hanswers.increasing, hanswers.size_eq.trans ?_, hanswers.last "a.glsl",
    hanswers.last "sasm/math.glsl", hanswers.last "z.glsl", ?_⟩
  · decide
  · refine hagain [.text "a.glsl" "once more"] [("a.glsl", "once more")] _
      (.add (.text "a.glsl" "once more") .done) fun entry hentry => ?_
    obtain rfl := List.mem_singleton.1 hentry
    rw [hanswers.mem_labels_iff]
    decide

end ResourceTable

end ShaderAssembly

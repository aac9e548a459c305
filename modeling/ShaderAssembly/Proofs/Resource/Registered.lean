import Mathlib.Data.List.Forall2
import ShaderAssembly.Config.Resolver
import ShaderAssembly.Proofs.FileTree.Walk

/-!
# Which files are registered

A run registers the files of the resource directories whose names are resource names, directory
after directory. It can do so exactly if each of them is text, and then its table is the bundled one
with these texts inserted in order.
-/

namespace ShaderAssembly

/-- A file that is registered under its name in a directory. -/
structure ResourceFile where
  dir : String
  name : String
  deriving DecidableEq

def ResourceFile.path (file : ResourceFile) : String := Path.join file.dir file.name

/-- The entry of a resource table that a file gives. -/
def ResourceFile.Gives (tree : FileTree) (file : ResourceFile) (entry : String × String) : Prop :=
  entry.1 = file.name ∧ tree.readText file.path = .ok entry.2

namespace FileTree

variable {tree : FileTree} {dir : String}

/-- Whether a name in a directory is that of a file that is registered. -/
def isResource (tree : FileTree) (dir name : String) : Bool :=
  tree.isFile (Path.join dir name) && isResourceName name

/-- The files of a directory that are registered, in the order of the directory. -/
def resourceFiles (tree : FileTree) (dir : String) : List ResourceFile :=
  match tree.list dir with
  | .ok names => (names.filter (tree.isResource dir)).map (ResourceFile.mk dir)
  | .error _ => []

theorem mem_resourceFiles {file : ResourceFile} (h : file ∈ tree.resourceFiles dir) :
    file.dir = dir ∧ tree.isResource dir file.name = true ∧
      ∃ names, tree.list dir = .ok names ∧ file.name ∈ names := by
  rw [resourceFiles] at h
  cases hlist : tree.list dir with
  | error e => simp [hlist] at h
  | ok names =>
      rw [hlist, List.mem_map] at h
      obtain ⟨name, hname, rfl⟩ := h
      obtain ⟨hmem, hresource⟩ := List.mem_filter.1 hname
      exact ⟨rfl, hresource, names, rfl, hmem⟩

theorem resourceFiles_of_not_isDirectory (h : tree.isDirectory dir = false) :
    tree.resourceFiles dir = [] := by
  obtain ⟨e, hlist⟩ := exists_error_of_not_isDirectory h
  rw [resourceFiles, hlist]

end FileTree

namespace ResourceTable

variable {tree : FileTree} {dir : String} {table loaded : ResourceTable}

theorem insertAll_append (table : ResourceTable) (entries more : List (String × String)) :
    table.insertAll (entries ++ more) = (table.insertAll entries).insertAll more :=
  List.foldl_append

theorem loadNames_nil (table : ResourceTable) : loadNames tree dir [] table = (table, .ok 0) := by
  rfl

theorem loadNames_cons (name : String) (names : List String) (table : ResourceTable) :
    loadNames tree dir (name :: names) table =
      if tree.isResource dir name = true then
        match tree.readText (Path.join dir name) with
        | .error e => (table, .error e)
        | .ok text =>
          let (loaded, count) := loadNames tree dir names (table.insert name text)
          (loaded, count.map (· + 1))
      else loadNames tree dir names table := by
  rfl

theorem loadNames_eq_ok_iff {names : List String} {count : Nat} :
    loadNames tree dir names table = (loaded, .ok count) ↔
      ∃ entries,
        List.Forall₂ (ResourceFile.Gives tree)
          ((names.filter (tree.isResource dir)).map (ResourceFile.mk dir)) entries ∧
        loaded = table.insertAll entries ∧ count = entries.length := by
  induction names generalizing table count with
  | nil =>
      rw [loadNames_nil, Prod.mk.injEq, Except.ok.injEq]
      constructor
      · rintro ⟨rfl, rfl⟩
        exact ⟨[], .nil, rfl, rfl⟩
      · rintro ⟨_, hentries, rfl, rfl⟩
        obtain _ | _ := hentries
        exact ⟨rfl, rfl⟩
  | cons name names ih =>
      rw [loadNames_cons]
      by_cases hkept : tree.isResource dir name = true
      · rw [List.filter_cons_of_pos hkept, List.map_cons, if_pos hkept]
        simp only [List.forall₂_cons_left_iff]
        cases hread : tree.readText (Path.join dir name) with
        | error e => simp [ResourceFile.Gives, ResourceFile.path, hread]
        | ok text =>
            have hgives (entry : String × String) :
                ResourceFile.Gives tree ⟨dir, name⟩ entry ↔ entry = (name, text) := by
              constructor
              · rintro ⟨hname, htext⟩
                exact Prod.ext hname (Except.ok.inj (htext.symm.trans hread))
              · rintro rfl
                exact ⟨rfl, hread⟩
            simp only [hgives]
            constructor
            · intro h
              cases hmore : loadNames tree dir names (table.insert name text) with
              | mk after result =>
                  cases result with
                  | error e => simp [hmore, Except.map] at h
                  | ok more =>
                      obtain ⟨rfl, rfl⟩ : after = loaded ∧ more + 1 = count := by
                        simpa [hmore, Except.map] using h
                      obtain ⟨entries, hentries, rfl, rfl⟩ := ih.1 hmore
                      exact ⟨(name, text) :: entries, ⟨_, _, rfl, hentries, rfl⟩, rfl, rfl⟩
            · rintro ⟨_, ⟨_, entries, rfl, hentries, rfl⟩, rfl, rfl⟩
              rw [ih.2 ⟨entries, hentries, rfl, rfl⟩]
              rfl
      · rw [List.filter_cons_of_neg hkept, if_neg hkept]
        exact ih

/-- Reading a directory registers its files, and fails if one of them is no text. -/
theorem loadDirectory_eq_ok_iff (hdir : tree.isDirectory dir = true) :
    (∃ count, table.loadDirectory tree dir = (loaded, .ok count)) ↔
      ∃ entries, List.Forall₂ (ResourceFile.Gives tree) (tree.resourceFiles dir) entries ∧
        loaded = table.insertAll entries := by
  obtain ⟨place, hplace, hnode⟩ := FileTree.isDirectory_eq_true_iff.1 hdir
  have hlist := FileTree.list_eq_ok_iff.2 ⟨place, hplace, hnode, rfl⟩
  simp only [loadDirectory, FileTree.resourceFiles, hlist, loadNames_eq_ok_iff]
  constructor
  · rintro ⟨count, entries, hentries, hloaded, -⟩
    exact ⟨entries, hentries, hloaded⟩
  · rintro ⟨entries, hentries, hloaded⟩
    exact ⟨_, entries, hentries, hloaded, rfl⟩

end ResourceTable

namespace Config

variable {tree : FileTree} {table loaded : ResourceTable}

/-- The files that a configuration has registered, in the order of their registration. -/
def resourceFiles (config : Config) (tree : FileTree) : List ResourceFile :=
  config.paths.resourceDirs.flatMap tree.resourceFiles

theorem addDirectories_eq_ok_iff {dirs : List String} :
    addDirectories tree dirs table = .ok loaded ↔
      ∃ entries,
        List.Forall₂ (ResourceFile.Gives tree) (dirs.flatMap tree.resourceFiles) entries ∧
        loaded = table.insertAll entries := by
  induction dirs generalizing table with
  | nil => simp [addDirectories, ResourceTable.insertAll, eq_comm]
  | cons dir dirs ih =>
      rw [addDirectories, List.flatMap_cons]
      split
      · rename_i hdir
        constructor
        · intro h
          cases hload : table.loadDirectory tree dir with
          | mk after result =>
              cases result with
              | error e => simp [hload] at h
              | ok count =>
                  obtain ⟨entries, hentries, rfl⟩ :=
                    (ResourceTable.loadDirectory_eq_ok_iff hdir).1 ⟨count, hload⟩
                  obtain ⟨more, hmore, rfl⟩ := ih.1 (by simpa [hload] using h)
                  exact ⟨entries ++ more, List.rel_append hentries hmore,
                    (table.insertAll_append entries more).symm⟩
        · rintro ⟨all, hall, rfl⟩
          have hentries := List.forall₂_take (tree.resourceFiles dir).length hall
          have hmore := List.forall₂_drop (tree.resourceFiles dir).length hall
          rw [List.take_left] at hentries
          rw [List.drop_left] at hmore
          obtain ⟨count, hload⟩ :=
            (ResourceTable.loadDirectory_eq_ok_iff hdir).2 ⟨_, hentries, rfl⟩
          rw [hload]
          refine ih.2 ⟨_, hmore, ?_⟩
          rw [← ResourceTable.insertAll_append, List.take_append_drop]
      · rename_i hdir
        rw [FileTree.resourceFiles_of_not_isDirectory (Bool.eq_false_iff.2 hdir), List.nil_append]
        exact ih

/-- The resources of a run are the bundled ones and the files that are registered. -/
theorem resources_eq_ok_iff {config : Config} :
    config.resources tree = .ok table ↔
      ∃ entries, List.Forall₂ (ResourceFile.Gives tree) (config.resourceFiles tree) entries ∧
        table = ResourceTable.bundled.insertAll entries :=
  addDirectories_eq_ok_iff

end Config

end ShaderAssembly

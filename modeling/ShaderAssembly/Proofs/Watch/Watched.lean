import ShaderAssembly.Proofs.FileTree.Proper
import ShaderAssembly.Proofs.Library.Directories
import ShaderAssembly.Proofs.Pipeline.SourceFiles
import ShaderAssembly.Watch.Operation

/-!
# Which directories are watched

Watching a directory asks where its path leads. A directory that is reached and not watched yet goes
to the end of the list; anything else leaves the list as it is. So what is watched is the list of
all directories that the paths lead to, each at its first occurrence, and more calls only make it
longer. A watcher of a manifest starts with the directories of the build, or with the one directory
of a manifest that cannot be built. The root is no manifest and lies in no directory: a watcher of
it watches the configured directories alone.
-/

namespace ShaderAssembly

open Relation (ReflTransGen)

variable {tree : FileTree}

/-! ### Directories, one by one -/

namespace FileTree

/-- The directory that a path leads to, if the path of that one is not too long. -/
def canonicalDirectory? (tree : FileTree) (path : String) : Option Location :=
  match tree.canonicalize path with
  | .ok place => if tree.node? place = some .directory then some place else none
  | .error _ => none

theorem canonicalDirectory?_eq_some_iff {path : String} {place : Location} :
    tree.canonicalDirectory? path = some place ↔
      tree.canonicalize path = .ok place ∧ tree.node? place = some .directory := by
  rw [canonicalDirectory?]
  cases tree.canonicalize path with
  | error e => simp
  | ok there =>
      simp only [Option.ite_none_right_eq_some, Option.some.injEq, Except.ok.injEq]
      constructor
      · rintro ⟨hnode, rfl⟩
        exact ⟨rfl, hnode⟩
      · rintro ⟨rfl, hnode⟩
        exact ⟨hnode, rfl⟩

end FileTree

theorem watchDirectory_eq (tree : FileTree) (watched : List Location) (dir : String) :
    watchDirectory tree watched dir =
      match tree.canonicalDirectory? dir with
      | some place => if place ∈ watched then (false, watched) else (true, watched ++ [place])
      | none => (false, watched) := by
  rw [watchDirectory, FileTree.canonicalDirectory?]
  cases tree.canonicalize dir with
  | error e => rfl
  | ok place =>
      by_cases hnode : tree.node? place = some .directory
      · by_cases hmem : place ∈ watched <;> simp [hnode, hmem]
      · simp [hnode]

/-- What is watched is where the paths lead, without repetitions. -/
theorem watchDirectories_nil_eq (tree : FileTree) (dirs : List String) :
    watchDirectories tree [] dirs = (dirs.filterMap tree.canonicalDirectory?).eraseDups := by
  rw [← foldl_add_new_eq_eraseDups, List.foldl_filterMap, watchDirectories]
  congr 1
  funext watched dir
  rw [watchDirectory_eq]
  cases tree.canonicalDirectory? dir with
  | none => rfl
  | some place => exact apply_ite Prod.snd _ _ _

/-! ### The manifests that are reached -/

namespace FileTree

variable {path : String} {top here : Location}

/-- What is reached from a canonical location is canonical. -/
theorem canonical_of_reached (htop : tree.canonicalize path = .ok top)
    (hreach : ReflTransGen tree.LibraryEdge top here) :
    ∃ path, tree.canonicalize path = .ok here := by
  rcases Relation.ReflTransGen.cases_tail hreach with rfl | ⟨before, -, hedge⟩
  · exact ⟨path, htop⟩
  · obtain ⟨manifest, -, library, -, hlibrary⟩ := hedge
    exact ⟨libraryPath before library, hlibrary⟩

/-- The directory of a file at a canonical location can be watched. -/
theorem Proper.canonicalize_parent (htree : tree.Proper) (hpath : tree.canonicalize path = .ok here)
    (hne : here ≠ []) :
    tree.canonicalize here.parent.path = .ok here.parent ∧
      tree.node? here.parent = some .directory := by
  obtain ⟨hresolve, hsize⟩ := canonicalize_eq_ok_iff.1 hpath
  have hstanding := htree.standing hresolve
  have hnode := hstanding.directory_parent hne
  have hfits := here.utf8ByteSize_path_parent_le.trans hsize
  exact ⟨hstanding.parent.canonicalize_path hnode hfits, hnode⟩

end FileTree

theorem LibraryTree.Unfolds.ne_nil_of_reached {library : LibraryTree} (h : library.Unfolds tree)
    {here : Location} (hreach : ReflTransGen tree.LibraryEdge library.root here) : here ≠ [] := by
  obtain ⟨inner, hinner, rfl, -⟩ := h.exists_of_reflTransGen hreach
  obtain ⟨content, hnode⟩ := FileTree.exists_file_of_manifestAt? hinner.read
  intro hroot
  have hdir : tree.node? [] = some .directory := rfl
  rw [hroot, hdir] at hnode
  cases hnode

namespace Pipeline

variable {pipeline : Pipeline} {library : LibraryTree}

theorem BuildsFrom.initiallyWatched_eq (h : pipeline.BuildsFrom tree library) :
    initiallyWatched tree pipeline.manifest pipeline.config
      = .ok (watchDirectories tree [] ((library.visit []).map Location.path
        ++ pipeline.config.paths.includeDirs ++ pipeline.config.paths.resourceDirs)) := by
  have hbuilt : Manifest.buildTracked tree pipeline.manifest pipeline.config.general
      = .ok (library.shader tree (some pipeline.config.general), library.visit []) :=
    Manifest.buildTracked_eq_ok_iff.2 ⟨library, h.unfolds, h.faultless, h.root, rfl, rfl⟩
  rw [initiallyWatched, Manifest.directories, h.root]
  simp only [hbuilt]
  rfl

theorem BuildsFrom.canonicalize_parent (h : pipeline.BuildsFrom tree library)
    (htree : tree.Proper) {here : Location}
    (hreach : ReflTransGen tree.LibraryEdge library.root here) :
    tree.canonicalize here.parent.path = .ok here.parent ∧
      tree.node? here.parent = some .directory := by
  obtain ⟨path, hpath⟩ := FileTree.canonical_of_reached h.root hreach
  exact htree.canonicalize_parent hpath (h.unfolds.ne_nil_of_reached hreach)

/-- The directories of the manifests that are reached are watched, and the configured ones. -/
theorem BuildsFrom.mem_watched_iff (h : pipeline.BuildsFrom tree library) (htree : tree.Proper)
    {watched : List Location}
    (hwatched : initiallyWatched tree pipeline.manifest pipeline.config = .ok watched)
    (place : Location) :
    place ∈ watched ↔
      (∃ here, ReflTransGen tree.LibraryEdge library.root here ∧ here.parent = place) ∨
        ∃ dir ∈ pipeline.config.paths.includeDirs ++ pipeline.config.paths.resourceDirs,
          tree.canonicalize dir = .ok place ∧ tree.node? place = some .directory := by
  obtain rfl := Except.ok.inj (h.initiallyWatched_eq.symm.trans hwatched)
  have hmanifests (dir : String) : dir ∈ (library.visit []).map Location.path ↔
      ∃ here, ReflTransGen tree.LibraryEdge library.root here ∧ here.parent.path = dir := by
    simp only [List.mem_map, LibraryTree.mem_visit, List.not_mem_nil, false_or,
      h.unfolds.mem_locations_iff]
    constructor
    · rintro ⟨_, ⟨here, hreach, rfl⟩, rfl⟩
      exact ⟨here, hreach, rfl⟩
    · rintro ⟨here, hreach, rfl⟩
      exact ⟨_, ⟨here, hreach, rfl⟩, rfl⟩
  rw [watchDirectories_nil_eq, List.mem_eraseDups, List.mem_filterMap, List.append_assoc]
  simp only [FileTree.canonicalDirectory?_eq_some_iff, List.mem_append, or_and_right, exists_or,
    hmanifests]
  refine or_congr ⟨?_, ?_⟩ Iff.rfl
  · rintro ⟨dir, ⟨here, hreach, rfl⟩, hplace, -⟩
    have hparent := (h.canonicalize_parent htree hreach).1
    exact ⟨here, hreach, Except.ok.inj (hparent.symm.trans hplace)⟩
  · rintro ⟨here, hreach, rfl⟩
    exact ⟨_, ⟨here, hreach, rfl⟩, h.canonicalize_parent htree hreach⟩

end Pipeline

/-! ### From the start -/

/-- The root is no manifest. -/
theorem Manifest.exists_error_of_root {path : String} (h : tree.canonicalize path = .ok [])
    (general : General) : ∃ e, buildTracked tree path general = .error e := by
  cases hbuilt : buildTracked tree path general with
  | error e => exact ⟨e, rfl⟩
  | ok built =>
      obtain ⟨library, hunfolds, -, hroot, -⟩ := buildTracked_eq_ok_iff.1 hbuilt
      exact absurd (Except.ok.inj (hroot.symm.trans h)) (hunfolds.ne_nil_of_reached .refl)

/-- The directories of the build of a manifest, or its own one if it cannot be built. -/
def FileTree.manifestDirs (tree : FileTree) (manifest : String) (general : General)
    (top : Location) : List Location :=
  match Manifest.buildTracked tree manifest general with
  | .ok (_, dirs) => dirs
  | .error _ => if top = [] then [] else [top.parent]

namespace FileTree

variable {manifest : String} {general : General} {top : Location}

theorem manifestDirs_of_ok {shader : Shader} {dirs : List Location}
    (h : Manifest.buildTracked tree manifest general = .ok (shader, dirs)) :
    tree.manifestDirs manifest general top = dirs := by
  rw [manifestDirs, h]

theorem manifestDirs_of_error {e : SetupError}
    (h : Manifest.buildTracked tree manifest general = .error e) :
    tree.manifestDirs manifest general top = if top = [] then [] else [top.parent] := by
  rw [manifestDirs, h]

theorem manifestDirs_root (h : tree.canonicalize manifest = .ok []) :
    tree.manifestDirs manifest general [] = [] := by
  obtain ⟨e, hbuilt⟩ := Manifest.exists_error_of_root h general
  rw [manifestDirs_of_error hbuilt, if_pos rfl]

theorem head?_manifestDirs (h : tree.canonicalize manifest = .ok top) (hne : top ≠ [])
    (general : General) :
    (tree.manifestDirs manifest general top).head? = some top.parent := by
  cases hbuilt : Manifest.buildTracked tree manifest general with
  | error e => rw [manifestDirs_of_error hbuilt, if_neg hne, List.head?_cons]
  | ok built =>
      obtain ⟨shader, dirs⟩ := built
      obtain ⟨library, -, -, hroot, -, rfl⟩ := Manifest.buildTracked_eq_ok_iff.1 hbuilt
      obtain rfl : library.root = top := Except.ok.inj (hroot.symm.trans h)
      rw [manifestDirs_of_ok hbuilt, library.head?_visit_nil]

end FileTree

/-- Where a manifest leads somewhere, what is watched from the start is a list of directories. -/
theorem initiallyWatched_eq {manifest : String} {top : Location}
    (h : tree.canonicalize manifest = .ok top) (config : Config) :
    initiallyWatched tree manifest config
      = .ok ((((tree.manifestDirs manifest config.general top).map Location.path
          ++ config.paths.includeDirs ++ config.paths.resourceDirs).filterMap
            tree.canonicalDirectory?).eraseDups) := by
  rw [initiallyWatched, Manifest.directories, h]
  cases hbuilt : Manifest.buildTracked tree manifest config.general with
  | ok built =>
      rw [FileTree.manifestDirs_of_ok hbuilt, ← watchDirectories_nil_eq]
      rfl
  | error e =>
      rw [FileTree.manifestDirs_of_error hbuilt, ← watchDirectories_nil_eq]
      by_cases htop : top = []
      · -- The path of the directory above the root is empty, which leads nowhere.
        subst htop
        rfl
      · rw [if_neg htop]
        simp only [Location.parentPath, if_neg htop]
        rfl

namespace Watcher

variable {watcher : Watcher}

theorem initiallyWatched_of_start {manifest : String} {config : Config} {window : Nat}
    (h : start tree manifest config window = .ok watcher) :
    initiallyWatched tree manifest config = .ok watcher.watched := by
  rw [start] at h
  cases hinitial : initiallyWatched tree manifest config with
  | error e => simp [hinitial, Except.map] at h
  | ok watched =>
      obtain rfl : Watcher.mk watched (.fresh window) = watcher := by
        simpa [hinitial, Except.map] using h
      rfl

theorem start_of_initiallyWatched {manifest : String} {config : Config} {watched : List Location}
    (h : initiallyWatched tree manifest config = .ok watched) (window : Nat) :
    start tree manifest config window = .ok ⟨watched, .fresh window⟩ := by
  rw [start, h]
  rfl

theorem start_eq_error_iff {manifest : String} {config : Config} {window : Nat} :
    (∃ e, start tree manifest config window = .error e)
      ↔ ∃ e, tree.canonicalize manifest = .error e := by
  cases hmanifest : tree.canonicalize manifest with
  | error e =>
      refine ⟨fun _ => ⟨e, rfl⟩, fun _ => ⟨.unreadable manifest e, ?_⟩⟩
      rw [start, initiallyWatched, Manifest.directories, hmanifest]
      rfl
  | ok top =>
      rw [start_of_initiallyWatched (initiallyWatched_eq hmanifest config)]
      constructor
      · rintro ⟨e, h⟩
        cases h
      · rintro ⟨e, h⟩
        cases h

/-! ### Later calls -/

theorem watch_of_new {dir : String} {place : Location}
    (hdir : tree.canonicalDirectory? dir = some place) (hnew : place ∉ watcher.watched) :
    watcher.watch tree dir = (true, { watcher with watched := watcher.watched ++ [place] }) := by
  simp only [watch, watchDirectory_eq, hdir, if_neg hnew]

theorem watch_of_old {dir : String}
    (h : ∀ place, tree.canonicalDirectory? dir = some place → place ∈ watcher.watched) :
    watcher.watch tree dir = (false, watcher) := by
  cases hdir : tree.canonicalDirectory? dir with
  | none => simp only [watch, watchDirectory_eq, hdir]
  | some place => simp only [watch, watchDirectory_eq, hdir, if_pos (h place hdir)]

/-- What one call does. -/
theorem watch_cases (watcher : Watcher) (tree : FileTree) (dir : String) :
    (∃ place, tree.canonicalDirectory? dir = some place ∧ place ∉ watcher.watched ∧
      watcher.watch tree dir
        = (true, { watcher with watched := watcher.watched ++ [place] })) ∨
    (∀ place, tree.canonicalDirectory? dir = some place → place ∈ watcher.watched) ∧
      watcher.watch tree dir = (false, watcher) := by
  by_cases h : ∀ place, tree.canonicalDirectory? dir = some place → place ∈ watcher.watched
  · exact .inr ⟨h, watch_of_old h⟩
  · simp only [not_forall] at h
    obtain ⟨place, hdir, hnew⟩ := h
    exact .inl ⟨place, hdir, hnew, watch_of_new hdir hnew⟩

theorem prefix_watch (watcher : Watcher) (tree : FileTree) (dir : String) :
    watcher.watched <+: (watcher.watch tree dir).2.watched := by
  rcases watch_cases watcher tree dir with ⟨place, -, -, hwatch⟩ | ⟨-, hwatch⟩
  · rw [hwatch]
    exact List.prefix_append watcher.watched [place]
  · rw [hwatch]

theorem nodup_watch (h : watcher.watched.Nodup) (tree : FileTree) (dir : String) :
    (watcher.watch tree dir).2.watched.Nodup := by
  rcases watch_cases watcher tree dir with ⟨place, -, hnew, hwatch⟩ | ⟨-, hwatch⟩
  · rw [hwatch, ← List.concat_eq_append]
    exact h.concat hnew
  · rw [hwatch]
    exact h

/-- A call watches a directory that is not watched yet, and tells so; any other call changes
nothing. -/
structure WatchesOnce (watcher : Watcher) (tree : FileTree) (dir : String) : Prop where
  answer : (watcher.watch tree dir).1 = true ↔
    ∃ place, tree.canonicalize dir = .ok place ∧ tree.node? place = some .directory ∧
      place ∉ watcher.watched
  watched : ∀ place, tree.canonicalize dir = .ok place → (watcher.watch tree dir).1 = true →
    (watcher.watch tree dir).2 = { watcher with watched := watcher.watched ++ [place] }
  refused : (watcher.watch tree dir).1 = false → (watcher.watch tree dir).2 = watcher

theorem watchesOnce (watcher : Watcher) (tree : FileTree) (dir : String) :
    watcher.WatchesOnce tree dir := by
  rcases watch_cases watcher tree dir with ⟨place, hdir, hnew, hwatch⟩ | ⟨hold, hwatch⟩
  · obtain ⟨hplace, hnode⟩ := FileTree.canonicalDirectory?_eq_some_iff.1 hdir
    refine ⟨?_, ?_, ?_⟩
    · rw [hwatch]
      exact ⟨fun _ => ⟨place, hplace, hnode, hnew⟩, fun _ => rfl⟩
    · intro place' hplace' _
      obtain rfl : place = place' := Except.ok.inj (hplace.symm.trans hplace')
      rw [hwatch]
    · rw [hwatch]
      intro h
      cases h
  · refine ⟨?_, ?_, fun _ => congrArg Prod.snd hwatch⟩
    · rw [hwatch]
      constructor
      · intro h
        cases h
      · rintro ⟨place, hplace, hnode, hnew⟩
        exact absurd (hold place (FileTree.canonicalDirectory?_eq_some_iff.2 ⟨hplace, hnode⟩)) hnew
    · rw [hwatch]
      intro place _ h
      cases h

/-- The watcher after some calls, each with the tree that it finds. -/
def watchAll (watcher : Watcher) (calls : List (FileTree × String)) : Watcher :=
  calls.foldl (fun watcher (tree, dir) => (watcher.watch tree dir).2) watcher

theorem prefix_watchAll (watcher : Watcher) (calls : List (FileTree × String)) :
    watcher.watched <+: (watcher.watchAll calls).watched := by
  induction calls generalizing watcher with
  | nil => exact List.prefix_refl _
  | cons call calls ih => exact (prefix_watch watcher call.1 call.2).trans (ih _)

theorem nodup_watchAll (h : watcher.watched.Nodup) (calls : List (FileTree × String)) :
    (watcher.watchAll calls).watched.Nodup := by
  induction calls generalizing watcher with
  | nil => exact h
  | cons call calls ih => exact ih (nodup_watch h call.1 call.2)

/-- **Which directories are watched.** A watcher cannot be started only if the path of the manifest
leads nowhere. Otherwise it watches the directories of the build, or that of the manifest if the
build fails, and then the configured ones, each once and in its canonical form. The directory of the
manifest comes first, unless the path leads to the root, which lies in none. The directories that a
run reports are among them. Later calls, on whatever becomes of the tree, only add to the end of the
list, one directory each that is not in it. -/
theorem start_watches_sequence (htree : tree.Proper) (manifest : String) (config : Config)
    (window : Nat) :
    ((∃ e, start tree manifest config window = .error e)
      ↔ ∃ e, tree.canonicalize manifest = .error e) ∧
    ∀ top, tree.canonicalize manifest = .ok top →
      ∃ watcher, start tree manifest config window = .ok watcher ∧
        watcher.watched = (((tree.manifestDirs manifest config.general top).map Location.path
          ++ config.paths.includeDirs ++ config.paths.resourceDirs).filterMap
            tree.canonicalDirectory?).eraseDups ∧
        (top ≠ [] → watcher.watched.head? = some top.parent) ∧
        (top = [] → watcher.watched = ((config.paths.includeDirs
          ++ config.paths.resourceDirs).filterMap tree.canonicalDirectory?).eraseDups) ∧
        (∀ options assembly, (Pipeline.mk manifest config options).run tree = .ok assembly →
          assembly.dirs ⊆ watcher.watched) ∧
        ∀ calls, watcher.watched <+: (watcher.watchAll calls).watched ∧
          (watcher.watchAll calls).watched.Nodup ∧
          ∀ later dir, (watcher.watchAll calls).WatchesOnce later dir := by
  refine ⟨start_eq_error_iff, fun top htop => ?_⟩
  have hwatched := initiallyWatched_eq htop config
  refine ⟨_, start_of_initiallyWatched hwatched window, rfl, fun hne => ?_, ?_, ?_, fun calls =>
    ⟨prefix_watchAll _ calls, nodup_watchAll (nodup_eraseDups _) calls, fun later dir =>
      watchesOnce _ later dir⟩⟩
  · obtain ⟨others, hothers⟩ :=
      List.head?_eq_some_iff.1 (FileTree.head?_manifestDirs htop hne config.general)
    have hown : tree.canonicalDirectory? top.parent.path = some top.parent :=
      FileTree.canonicalDirectory?_eq_some_iff.2 (htree.canonicalize_parent htop hne)
    dsimp only
    rw [hothers, List.map_cons, List.cons_append, List.cons_append,
      List.filterMap_cons_some hown, head?_eraseDups, List.head?_cons]
  · rintro rfl
    rw [FileTree.manifestDirs_root htop]
    rfl
  · intro options assembly hrun dir hdir
    obtain ⟨library, table, texts, hbuilds, -, -, rfl⟩ := Pipeline.run_eq_ok_iff.1 hrun
    exact (hbuilds.mem_watched_iff htree hwatched dir).2
      (.inl (hbuilds.unfolds.mem_visit_nil_iff.1 hdir))

/-- Directories in several spellings, some of them missing or files, and a manifest that asks for
libraries of which one is missing. -/
def manySpellings : FileTree :=
  ⟨"/app",
    [(["app"], .directory),
     (["app", "m.toml"], .file (.text "libraries = ['../lib/l.toml']")),
     (["app", "broken.toml"], .file (.text "libraries = ['missing.toml', '../lib/l.toml']")),
     (["lib"], .directory),
     (["lib", "l.toml"], .file (.text "")),
     (["inc"], .directory)]⟩

def manySpellingsConfig : Config :=
  { paths := { includeDirs := ["../inc/", "m.toml", "/lib/../app"],
               resourceDirs := ["missing", "/inc/../inc", "../lib/."] } }

/-- The library has its place before the configured directories where the build succeeds, and stays
there whatever is called for later. -/
theorem start_manySpellings_watches :
    (∃ watcher, start manySpellings "m.toml" manySpellingsConfig 100 = .ok watcher ∧
      watcher.watched = [["app"], ["lib"], ["inc"]] ∧
      [["app"], ["lib"], ["inc"]] <+:
        (watcher.watchAll [(manySpellings, "/app"), (manySpellings, "/"),
          (manySpellings, "m.toml")]).watched) ∧
    ∃ watcher, start manySpellings "broken.toml" manySpellingsConfig 100 = .ok watcher ∧
      watcher.watched = [["app"], ["inc"], ["lib"]] := by
  have hproper : manySpellings.Proper := by decide +kernel
  have hlibrary : LibraryTree.Unfolds manySpellings (.node ["lib", "l.toml"] {} []) :=
    .leaf (by decide +kernel) rfl
  have hgood : LibraryTree.Faultless (.node ["lib", "l.toml"] {} []) :=
    LibraryTree.faultless_leaf (by decide)
  constructor
  · have hbuilds : (Pipeline.mk "m.toml" manySpellingsConfig {}).BuildsFrom manySpellings
        (.node ["app", "m.toml"] { libraries := ["../lib/l.toml"] }
          [.node ["lib", "l.toml"] {} []]) :=
      ⟨.node (by decide +kernel) (by decide +kernel) (by simpa using hlibrary),
        LibraryTree.faultless_node.2 ⟨by decide, by simpa using hgood⟩, by decide +kernel⟩
    have hdirs : manySpellings.manifestDirs "m.toml" manySpellingsConfig.general ["app", "m.toml"]
        = [["app"], ["lib"]] := by
      rw [FileTree.manifestDirs_of_ok hbuilds.buildTracked_eq]
      simp only [LibraryTree.visit_node, List.foldl_cons, List.foldl_nil]
      decide
    obtain ⟨watcher, hstart, hwatched, -, -, -, hlater⟩ :=
      (start_watches_sequence hproper "m.toml" manySpellingsConfig 100).2 ["app", "m.toml"]
        hbuilds.root
    rw [hdirs] at hwatched
    have hlist : watcher.watched = [["app"], ["lib"], ["inc"]] :=
      hwatched.trans (by decide +kernel)
    exact ⟨watcher, hstart, hlist, hlist ▸ (hlater _).1⟩
  · have hpath : manySpellings.canonicalize "broken.toml" = .ok ["app", "broken.toml"] := by
      decide +kernel
    have hload : Manifest.load manySpellings "broken.toml"
        = .ok { libraries := ["missing.toml", "../lib/l.toml"] } :=
      (Manifest.load_eq_ok_iff hpath _).2 (by decide +kernel)
    have hmissing : manySpellings.canonicalize "/app/missing.toml" = .error .notFound := by
      decide +kernel
    have hbroken : Manifest.buildTracked manySpellings "broken.toml" manySpellingsConfig.general
        = .error (.unreadable "/app/missing.toml" .notFound) := by
      rw [Manifest.buildTracked, Manifest.buildBelow_of_load hpath List.not_mem_nil hload,
        Manifest.mergeLibraries,
        show Path.join (Location.path (Location.parent ["app", "broken.toml"])) "missing.toml"
          = "/app/missing.toml" by decide, Manifest.buildBelow_eq, hmissing]
    obtain ⟨watcher, hstart, hwatched, -⟩ :=
      (start_watches_sequence hproper "broken.toml" manySpellingsConfig 100).2 _ hpath
    rw [FileTree.manifestDirs_of_error hbroken] at hwatched
    exact ⟨watcher, hstart, hwatched.trans (by decide +kernel)⟩

/-- The root lies in no directory, so a watcher of it does not watch the root either. -/
theorem start_root_watches_nothing :
    (FileTree.mk "/" []).Proper ∧ (FileTree.mk "/" []).canonicalize "/" = .ok [] ∧
      ∃ watcher, start ⟨"/", []⟩ "/" {} 100 = .ok watcher ∧ watcher.watched = [] := by
  have hroot : (FileTree.mk "/" []).canonicalize "/" = .ok [] := by decide +kernel
  refine ⟨by decide +kernel, hroot,
    _, start_of_initiallyWatched (initiallyWatched_eq hroot {}) 100, ?_⟩
  rw [FileTree.manifestDirs_root hroot]
  rfl

end Watcher

end ShaderAssembly

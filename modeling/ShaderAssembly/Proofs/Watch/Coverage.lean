import ShaderAssembly.Proofs.Resource.Registered
import ShaderAssembly.Proofs.Watch.Watched

/-!
# What a watcher covers

A watcher of a manifest watches directories, and a run of the manifest reads files. The watched
directories are those of the manifests that are reached and the configured ones. So the manifests
are covered, and so is what is seen from one of these directories without a step out of it. Other
files that a run reads are not looked for: those with absolute names, those above the directory from
which they are seen, those found where the run takes place, and those in a directory whose own path
is too long to be watched.
-/

namespace ShaderAssembly

open Relation (ReflTransGen)

variable {tree : FileTree}

namespace FileTree

/-- A relative path, seen from a directory with a canonical path, that does not step out of it. -/
structure SeenInside (tree : FileTree) (dir file : String) : Prop where
  relative : Path.isAbsolute file = false
  inside : Path.staysInside 0 (Path.names file) = true
  canonical : ∃ place, tree.canonicalize dir = .ok place

/-- A name in a directory does not step out of it. -/
theorem seenInside_of_plain {dir name : String} (hname : Path.Plain name)
    (hdir : ∃ place, tree.canonicalize dir = .ok place) : tree.SeenInside dir name := by
  refine ⟨?_, ?_, hdir⟩
  · rw [Path.isAbsolute, beq_eq_false_iff_ne]
    intro hslash
    exact hname.noSlash (List.mem_of_head? hslash)
  · rw [Path.names_of_plain hname, Path.staysInside, if_neg hname.notHere, if_neg hname.notUp]
    rfl

/-- The files of a directory that are registered are there, under plain names. -/
theorem Proper.exists_of_mem_resourceFiles (htree : tree.Proper) {dir : String}
    {file : ResourceFile} (h : file ∈ tree.resourceFiles dir) :
    file.dir = dir ∧ Path.Plain file.name ∧
      ∃ location content, tree.resolve file.path = .ok location ∧
        tree.node? location = some (.file content) := by
  obtain ⟨rfl, hresource, names, hlist, hname⟩ := mem_resourceFiles h
  obtain ⟨place, -, -, rfl⟩ := list_eq_ok_iff.1 hlist
  rw [isResource, Bool.and_eq_true] at hresource
  exact ⟨rfl, htree.plain_of_mem_namesAt hname, isFile_eq_true_iff.1 hresource.1⟩

end FileTree

/-- Where a source that names a file has a text, its file is found and stands somewhere. -/
theorem Pipeline.exists_located {pipeline : Pipeline} {table : ResourceTable} {here : Location}
    {file text : String} (h : pipeline.sourceText tree table (here, .file file) = .ok text) :
    ∃ found location content,
      pipeline.config.search.locate tree (anchor tree here.parent.path file) = some found ∧
      tree.resolve found = .ok location ∧ tree.node? location = some (.file content) := by
  rw [sourceText, Block.listedText] at h
  cases hchoice : pipeline.config.search.choose? tree here.parent.path file with
  | none => simp [hchoice] at h
  | some found =>
      have hfile : tree.isFile found = true := List.find?_some hchoice
      obtain ⟨location, content, hlocation, hnode⟩ := FileTree.isFile_eq_true_iff.1 hfile
      refine ⟨found, location, content, ?_, hlocation, hnode⟩
      rw [FileSearch.locate_anchor here.parent.isAbsolute_path, hchoice]

namespace Watcher

variable {watcher : Watcher}

theorem covers_iff {location : Location} :
    watcher.covers location = true ↔
      ∃ dir ∈ watcher.watched, dir <+: location ∧ dir ≠ location := by
  simp [covers, List.any_eq_true]

/-- What is seen inside a watched directory is covered. -/
theorem covers_of_seenInside {dir file : String} {location : Location}
    (h : tree.SeenInside dir file)
    (hwatched : ∀ place, tree.canonicalize dir = .ok place → tree.node? place = some .directory →
      place ∈ watcher.watched)
    (hlocation : tree.resolve (Path.join dir file) = .ok location)
    (hfile : tree.node? location ≠ some .directory) : watcher.covers location = true := by
  obtain ⟨place, hplace⟩ := h.canonical
  have hresolve := FileTree.resolve_of_canonicalize hplace
  obtain ⟨hnode, hprefix⟩ :=
    FileTree.isPrefix_of_resolve_join h.relative h.inside hresolve hlocation
  refine covers_iff.2 ⟨place, hwatched place hplace hnode, hprefix, ?_⟩
  rintro rfl
  exact hfile hnode

theorem covers_of_parent_mem {here : Location} (hne : here ≠ [])
    (h : here.parent ∈ watcher.watched) : watcher.covers here = true := by
  refine covers_iff.2 ⟨here.parent, h, List.dropLast_prefix here, ?_⟩
  intro heq
  have hlength := congrArg List.length heq
  have hpos := List.length_pos_iff.2 hne
  rw [Location.parent, List.length_dropLast] at hlength
  omega

/-- **What a watcher covers.** Where both the watcher of a manifest and its run succeed, the watcher
watches the directories of all manifests that are reached and the configured directories, and no
others. So it covers all these manifests. A file source means a file, and the file is covered if it
is seen, from the directory of its manifest or from an include directory, by a relative path without
a step out of that directory. All files that are registered are covered if their directory has a
canonical path. -/
theorem start_covers_inputs (htree : tree.Proper) {pipeline : Pipeline} {window : Nat}
    {assembly : Assembly}
    (hstart : start tree pipeline.manifest pipeline.config window = .ok watcher)
    (hrun : pipeline.run tree = .ok assembly) :
    ∃ top, tree.canonicalize pipeline.manifest = .ok top ∧
      (∀ place, place ∈ watcher.watched ↔
        (∃ here, ReflTransGen tree.LibraryEdge top here ∧ here.parent = place) ∨
          ∃ dir ∈ pipeline.config.paths.includeDirs ++ pipeline.config.paths.resourceDirs,
            tree.canonicalize dir = .ok place ∧ tree.node? place = some .directory) ∧
      (∀ here, ReflTransGen tree.LibraryEdge top here →
        watcher.covers here = true ∧
        ∀ manifest, tree.manifestAt? here = some manifest →
          ∀ entry ∈ manifest.sources, ∀ file, entry.block = .ok (.file file) →
            ∃ found location,
              pipeline.config.search.locate tree (anchor tree here.parent.path file) = some found ∧
              tree.resolve found = .ok location ∧
              ∀ dir ∈ here.parent.path :: pipeline.config.paths.includeDirs,
                found = Path.join dir file → tree.SeenInside dir file →
                  watcher.covers location = true) ∧
      ∃ entries,
        List.Forall₂ (ResourceFile.Gives tree) (pipeline.config.resourceFiles tree) entries ∧
        pipeline.config.resources tree = .ok (ResourceTable.bundled.insertAll entries) ∧
        ∀ file ∈ pipeline.config.resourceFiles tree, ∃ location,
          tree.resolve file.path = .ok location ∧
            ((∃ place, tree.canonicalize file.dir = .ok place) →
              watcher.covers location = true) := by
  obtain ⟨library, table, texts, hbuilds, htable, htexts, -⟩ := Pipeline.run_eq_ok_iff.1 hrun
  have hwatched := hbuilds.mem_watched_iff htree (initiallyWatched_of_start hstart)
  have hconfigured (dir : String)
      (hdir : dir ∈ pipeline.config.paths.includeDirs ++ pipeline.config.paths.resourceDirs) :
      ∀ place, tree.canonicalize dir = .ok place → tree.node? place = some .directory →
        place ∈ watcher.watched := by
    intro place hplace hnode
    exact (hwatched place).2 (.inr ⟨dir, hdir, hplace, hnode⟩)
  refine ⟨library.root, hbuilds.root, hwatched, fun here hreach => ⟨?_, ?_⟩, ?_⟩
  · exact covers_of_parent_mem (hbuilds.unfolds.ne_nil_of_reached hreach)
      ((hwatched _).2 (.inl ⟨here, hreach, rfl⟩))
  · intro manifest hread entry hentry file hblock
    have hsource := hbuilds.unfolds.mem_sources hreach hread hentry hblock
    obtain ⟨text, htext⟩ := exists_of_mem_of_forall₂ htexts hsource
    obtain ⟨found, location, content, hfound, hlocation, hnode⟩ := Pipeline.exists_located htext
    refine ⟨found, location, hfound, hlocation, fun dir hdir hjoin hinside => ?_⟩
    rw [hjoin] at hlocation
    refine covers_of_seenInside hinside ?_ hlocation (by simp [hnode])
    rcases List.mem_cons.1 hdir with rfl | hdir
    · intro place hplace hnode
      have hparent := (hbuilds.canonicalize_parent htree hreach).1
      obtain rfl := Except.ok.inj (hparent.symm.trans hplace)
      exact (hwatched _).2 (.inl ⟨here, hreach, rfl⟩)
    · exact hconfigured dir (List.mem_append_left _ hdir)
  · obtain ⟨entries, hentries, rfl⟩ := Config.resources_eq_ok_iff.1 htable
    refine ⟨entries, hentries, htable, fun file hfile => ?_⟩
    obtain ⟨dir, hdir, hfile⟩ := List.mem_flatMap.1 hfile
    obtain ⟨rfl, hname, location, content, hlocation, hnode⟩ :=
      htree.exists_of_mem_resourceFiles hfile
    refine ⟨location, hlocation, fun hplace => ?_⟩
    exact covers_of_seenInside (FileTree.seenInside_of_plain hname hplace)
      (hconfigured _ (List.mem_append_right _ hdir)) hlocation (by simp [hnode])

/-- A manifest with all inputs inside of what is watched, and one that names files outside of it. -/
def spread : FileTree :=
  ⟨"/work",
    [(["app"], .directory),
     (["app", "m.toml"], .file (.text (Text.ofLines
      ["libraries = ['../lib/l.toml']", "sources = [\x7bfile = 'b.glsl'\x7d]"]))),
     (["app", "n.toml"], .file (.text (Text.ofLines
      ["sources = [",
       "  \x7bfile = '../up.glsl'\x7d, \x7bfile = '/else/c.glsl'\x7d, \x7bfile = 'd.glsl'\x7d]"]))),
     (["up.glsl"], .file (.text "up")),
     (["lib"], .directory),
     (["lib", "l.toml"], .file (.text "sources = [\x7bfile = 'sub/a.glsl'\x7d]")),
     (["lib", "sub"], .directory),
     (["lib", "sub", "a.glsl"], .file (.text "a")),
     (["inc"], .directory),
     (["inc", "b.glsl"], .file (.text "b")),
     (["res"], .directory),
     (["res", "r.glsl"], .file (.text "r")),
     (["else"], .directory),
     (["else", "c.glsl"], .file (.text "c")),
     (["work"], .directory),
     (["work", "d.glsl"], .file (.text "d"))]⟩

def spreadConfig : Config :=
  { paths := { includeDirs := ["/inc", ""], resourceDirs := ["/res"] } }

theorem resourceFiles_spread : spreadConfig.resourceFiles spread = [⟨"/res", "r.glsl"⟩] := by
  decide +kernel

theorem resources_spread : spreadConfig.resources spread
    = .ok (ResourceTable.bundled.insertAll [("r.glsl", "r")]) :=
  Config.resources_eq_ok_iff.2 ⟨_, by
    rw [resourceFiles_spread]
    exact .cons ⟨rfl, by decide +kernel⟩ .nil, rfl⟩

def libraryInside : LibraryTree :=
  .node ["lib", "l.toml"] { sources := [{ file := some "sub/a.glsl" }] } []

def manifestInside : LibraryTree :=
  .node ["app", "m.toml"]
    { libraries := ["../lib/l.toml"], sources := [{ file := some "b.glsl" }] } [libraryInside]

def manifestOutside : LibraryTree :=
  .node ["app", "n.toml"]
    { sources := [{ file := some "../up.glsl" }, { file := some "/else/c.glsl" },
        { file := some "d.glsl" }] } []

theorem start_spread_covers :
    ∃ watcher assembly,
      start spread "/app/m.toml" spreadConfig 100 = .ok watcher ∧
      (Pipeline.mk "/app/m.toml" spreadConfig {}).run spread = .ok assembly ∧
      watcher.covers ["app", "m.toml"] = true ∧ watcher.covers ["lib", "l.toml"] = true ∧
      watcher.covers ["lib", "sub", "a.glsl"] = true ∧ watcher.covers ["inc", "b.glsl"] = true ∧
      watcher.covers ["res", "r.glsl"] = true := by
  have hinner : libraryInside.Unfolds spread := .leaf (by decide +kernel) rfl
  have hgood : libraryInside.Faultless := LibraryTree.faultless_leaf (by decide)
  have hbuilds : (Pipeline.mk "/app/m.toml" spreadConfig {}).BuildsFrom spread manifestInside :=
    ⟨.node (by decide +kernel) (by decide +kernel) (by simpa using hinner),
      LibraryTree.faultless_node.2 ⟨by decide, by simpa using hgood⟩, by decide +kernel⟩
  have hsources : manifestInside.sources
      = [(["lib", "l.toml"], .file "sub/a.glsl"), (["app", "m.toml"], .file "b.glsl")] := by
    simp only [manifestInside, libraryInside, LibraryTree.sources, LibraryTree.layout_node,
      List.flatMap_cons, List.flatMap_nil]
    rfl
  obtain ⟨watcher, hstart⟩ : ∃ watcher,
      start spread "/app/m.toml" spreadConfig 100 = .ok watcher :=
    ⟨_, congrArg (Except.map (Watcher.mk · (.fresh 100))) hbuilds.initiallyWatched_eq⟩
  have htexts : List.Forall₂ (fun source text =>
      (Pipeline.mk "/app/m.toml" spreadConfig {}).sourceText spread
        (ResourceTable.bundled.insertAll [("r.glsl", "r")]) source = .ok text)
      manifestInside.sources ["a", "b"] := by
    rw [hsources]
    exact .cons (by decide +kernel) (.cons (by decide +kernel) .nil)
  obtain ⟨assembly, hrun⟩ : ∃ assembly,
      (Pipeline.mk "/app/m.toml" spreadConfig {}).run spread = .ok assembly :=
    ⟨_, Pipeline.run_eq_ok_iff.2 ⟨manifestInside, _, _, hbuilds, resources_spread, htexts, rfl⟩⟩
  obtain ⟨top, htop, -, hcovers, entries, -, -, hresources⟩ :=
    start_covers_inputs (by decide +kernel) hstart hrun
  obtain rfl : ["app", "m.toml"] = top := Except.ok.inj (hbuilds.root.symm.trans htop)
  have hlibrary : ReflTransGen spread.LibraryEdge ["app", "m.toml"] ["lib", "l.toml"] :=
    .single (hbuilds.unfolds.edge (show libraryInside ∈ manifestInside.libraries by
      simp [manifestInside, LibraryTree.libraries]))
  refine ⟨watcher, assembly, hstart, hrun, (hcovers _ .refl).1, (hcovers _ hlibrary).1, ?_, ?_, ?_⟩
  · obtain ⟨found, location, hfound, hlocation, hsource⟩ :=
      (hcovers _ hlibrary).2 _ hinner.read _ List.mem_cons_self "sub/a.glsl" rfl
    obtain rfl : Path.join "/lib" "sub/a.glsl" = found :=
      Option.some.inj (Eq.trans (by decide +kernel) hfound)
    obtain rfl : ["lib", "sub", "a.glsl"] = location :=
      Except.ok.inj (Eq.trans (by decide +kernel) hlocation)
    exact hsource "/lib" List.mem_cons_self rfl
      ⟨by decide, by decide +kernel, ["lib"], by decide +kernel⟩
  · obtain ⟨found, location, hfound, hlocation, hsource⟩ :=
      (hcovers _ .refl).2 _ hbuilds.unfolds.read _ List.mem_cons_self "b.glsl" rfl
    obtain rfl : Path.join "/inc" "b.glsl" = found :=
      Option.some.inj (Eq.trans (by decide +kernel) hfound)
    obtain rfl : ["inc", "b.glsl"] = location :=
      Except.ok.inj (Eq.trans (by decide +kernel) hlocation)
    exact hsource "/inc" (by decide) rfl
      ⟨by decide, by decide +kernel, ["inc"], by decide +kernel⟩
  · obtain ⟨location, hlocation, hresource⟩ := hresources ⟨"/res", "r.glsl"⟩ (by
      rw [resourceFiles_spread]
      exact List.mem_cons_self)
    obtain rfl : ["res", "r.glsl"] = location :=
      Except.ok.inj (Eq.trans (by decide +kernel) hlocation)
    exact hresource ⟨["res"], by decide +kernel⟩

/-- None of these files is covered: one above the directory from which it is seen, one with an
absolute name, and one that is found where the run takes place. -/
theorem start_spread_misses :
    spread.Proper ∧
    ∃ watcher assembly manifest,
      start spread "/app/n.toml" spreadConfig 100 = .ok watcher ∧
      (Pipeline.mk "/app/n.toml" spreadConfig {}).run spread = .ok assembly ∧
      spread.manifestAt? ["app", "n.toml"] = some manifest ∧
      ∀ file ∈ ["../up.glsl", "/else/c.glsl", "d.glsl"],
        (∃ entry ∈ manifest.sources, entry.block = .ok (.file file)) ∧
        ∃ found location,
          spreadConfig.search.locate spread (anchor spread "/app" file)
            = some found ∧
          spread.resolve found = .ok location ∧ ∀ dir ∈ watcher.watched, ¬ dir <+: location := by
  have hbuilds : (Pipeline.mk "/app/n.toml" spreadConfig {}).BuildsFrom spread manifestOutside :=
    ⟨.leaf (by decide +kernel) rfl, LibraryTree.faultless_leaf (by decide), by decide +kernel⟩
  have hvisit : manifestOutside.visit [] = [["app"]] := by
    rw [manifestOutside, LibraryTree.visit_node]
    rfl
  have hinitial : initiallyWatched spread "/app/n.toml" spreadConfig
      = .ok [["app"], ["inc"], ["res"]] := by
    have hdirs : watchDirectories spread [] (["/app"] ++ ["/inc", ""] ++ ["/res"])
        = [["app"], ["inc"], ["res"]] := by decide +kernel
    have hinitial := hbuilds.initiallyWatched_eq
    rw [hvisit] at hinitial
    exact hinitial.trans (congrArg Except.ok hdirs)
  have hsources : manifestOutside.sources
      = [(["app", "n.toml"], .file "../up.glsl"), (["app", "n.toml"], .file "/else/c.glsl"),
        (["app", "n.toml"], .file "d.glsl")] := by
    simp only [manifestOutside, LibraryTree.sources, LibraryTree.layout_node]
    rfl
  have htexts : List.Forall₂ (fun source text =>
      (Pipeline.mk "/app/n.toml" spreadConfig {}).sourceText spread
        (ResourceTable.bundled.insertAll [("r.glsl", "r")]) source = .ok text)
      manifestOutside.sources ["up", "c", "d"] := by
    rw [hsources]
    exact .cons (by decide +kernel) (.cons (by decide +kernel) (.cons (by decide +kernel) .nil))
  obtain ⟨assembly, hrun⟩ : ∃ assembly,
      (Pipeline.mk "/app/n.toml" spreadConfig {}).run spread = .ok assembly :=
    ⟨_, Pipeline.run_eq_ok_iff.2 ⟨manifestOutside, _, _, hbuilds, resources_spread, htexts, rfl⟩⟩
  refine ⟨by decide +kernel, ⟨[["app"], ["inc"], ["res"]], .fresh 100⟩, assembly, _,
    congrArg (Except.map (Watcher.mk · (.fresh 100))) hinitial, hrun, hbuilds.unfolds.read, ?_⟩
  simp only [List.forall_mem_cons]
  refine ⟨⟨⟨_, List.mem_cons_self, rfl⟩, "/app/../up.glsl", ["up.glsl"], ?_⟩,
    ⟨⟨_, List.mem_cons_of_mem _ List.mem_cons_self, rfl⟩, "/else/c.glsl", ["else", "c.glsl"], ?_⟩,
    ⟨⟨_, List.mem_cons_of_mem _ (List.mem_cons_of_mem _ List.mem_cons_self), rfl⟩,
      "d.glsl", ["work", "d.glsl"], ?_⟩, fun _ hmem => absurd hmem List.not_mem_nil⟩
  all_goals decide +kernel

end Watcher

end ShaderAssembly

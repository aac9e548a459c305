import ShaderAssembly.Proofs.Library.Tree

/-!
# Building along a library tree

A build succeeds exactly if the path starts a library tree without a bad source entry and without a
manifest that is already being built; what it gives is then read off from the tree. The chain of
manifests in progress decides only whether the build succeeds, never what it gives. For a build from
the top, where the chain is empty, the tree alone decides.
-/

namespace ShaderAssembly

/-- The shader with the body and the extensions of another one after its own. -/
def Shader.merge (shader other : Shader) : Shader := (shader.appendBody other).setExtensionsOf other

theorem Manifest.mem_withDirectory {dirs : List Location} {dir place : Location} :
    place ∈ withDirectory dirs dir ↔ place ∈ dirs ∨ place = dir := by
  rw [withDirectory]
  split
  · rename_i hmem
    constructor
    · exact .inl
    · rintro (h | rfl)
      · exact h
      · exact hmem
  · simp

namespace LibraryTree

/-- No manifest of the tree has a source entry that is at fault. -/
def Faultless (library : LibraryTree) : Prop :=
  ∀ node ∈ library.nodes, ∀ entry ∈ node.2.sources, entry.namesOne

/-- The shader of a library: those of its own libraries merged in order, then the manifest. -/
def libraryShader (tree : FileTree) : LibraryTree → Shader :=
  fold fun here manifest shaders =>
    (manifest.apply tree here.parent.path none (shaders.foldl Shader.merge .empty)).1

/-- The shader of the manifest at the root, to which alone the defaults apply. -/
def shader (tree : FileTree) (defaults : Option General) (library : LibraryTree) : Shader :=
  (library.manifest.apply tree library.root.parent.path defaults
    ((library.libraries.map (libraryShader tree)).foldl Shader.merge .empty)).1

/-- Some directories, and after them those of the tree that are not among them. -/
def visit (dirs : List Location) (library : LibraryTree) : List Location :=
  library.locations.foldl (fun dirs here => Manifest.withDirectory dirs here.parent) dirs

theorem shader_none (tree : FileTree) (library : LibraryTree) :
    library.shader tree none = library.libraryShader tree := by
  obtain ⟨here, manifest, libraries⟩ := library
  rw [shader, libraryShader, fold_node]
  rfl

theorem visit_node (dirs : List Location) (here : Location) (manifest : Manifest)
    (libraries : List LibraryTree) :
    (node here manifest libraries).visit dirs
      = libraries.foldl visit (Manifest.withDirectory dirs here.parent) := by
  rw [visit, locations_node, List.foldl_cons, List.foldl_flatMap]
  rfl

theorem mem_visit {library : LibraryTree} {dirs : List Location} {place : Location} :
    place ∈ library.visit dirs ↔
      place ∈ dirs ∨ ∃ here ∈ library.locations, here.parent = place := by
  rw [visit]
  induction library.locations generalizing dirs with
  | nil => simp
  | cons here locations ih =>
      rw [List.foldl_cons, ih, Manifest.mem_withDirectory, List.exists_mem_cons_iff, or_assoc,
        eq_comm]

theorem faultless_node {here : Location} {manifest : Manifest} {libraries : List LibraryTree} :
    (node here manifest libraries).Faultless
      ↔ (∀ entry ∈ manifest.sources, entry.namesOne) ∧
        ∀ library ∈ libraries, library.Faultless := by
  simp only [Faultless, nodes_node, List.forall_mem_cons, List.mem_flatMap]
  constructor
  · rintro ⟨hown, hbelow⟩
    exact ⟨hown, fun library hlibrary node hnode => hbelow node ⟨library, hlibrary, hnode⟩⟩
  · rintro ⟨hown, hbelow⟩
    refine ⟨hown, ?_⟩
    rintro node ⟨library, hlibrary, hnode⟩
    exact hbelow library hlibrary node hnode

theorem faultless_leaf {here : Location} {manifest : Manifest}
    (h : ∀ entry ∈ manifest.sources, entry.namesOne) : (node here manifest []).Faultless :=
  faultless_node.2 ⟨h, fun _ hmem => absurd hmem List.not_mem_nil⟩

end LibraryTree

namespace Manifest

variable {tree : FileTree}

/-- What building a path gives is what its library tree describes. -/
def DescribedBuild (tree : FileTree) (dirs : List Location) (defaults : Option General)
    (path : String) (shader : Shader) (dirs' : List Location) : Prop :=
  ∃ library : LibraryTree, library.Unfolds tree ∧ library.Faultless ∧
    tree.canonicalize path = .ok library.root ∧ shader = library.shader tree defaults ∧
    dirs' = library.visit dirs

def DescribedMerge (tree : FileTree) (dir : Location) (paths : List String) (dirs : List Location)
    (shader shader' : Shader) (dirs' : List Location) : Prop :=
  ∃ libraries : List LibraryTree,
    (∀ library ∈ libraries, library.Unfolds tree ∧ library.Faultless) ∧
    paths.map (fun path => tree.canonicalize (Path.join dir.path path))
      = libraries.map (fun library => .ok library.root) ∧
    shader' = (libraries.map (LibraryTree.libraryShader tree)).foldl Shader.merge shader ∧
    dirs' = libraries.foldl LibraryTree.visit dirs

theorem describedBuild_of_buildBelow {chain dirs : List Location} {defaults : Option General}
    {path : String} {shader : Shader} {dirs' : List Location}
    (h : buildBelow tree chain dirs defaults path = .ok (shader, dirs')) :
    DescribedBuild tree dirs defaults path shader dirs' := by
  refine buildBelow.induct_unfolding tree
    (fun _ dirs defaults path result => ∀ shader dirs', result = .ok (shader, dirs') →
      DescribedBuild tree dirs defaults path shader dirs')
    (fun _ dir paths dirs shader result => ∀ shader' dirs', result = .ok (shader', dirs') →
      DescribedMerge tree dir paths dirs shader shader' dirs')
    ?unreadable ?cycle ?malformed ?badLibrary ?fault ?built ?noLibrary ?badFirst ?first
    chain dirs defaults path shader dirs' h
  case unreadable | cycle | malformed | badLibrary | fault | badFirst => intros; contradiction
  case built =>
    intro chain dirs defaults path here hpath _ manifest hload merged dirs₁ hmerge shader₁ happly ih
      shader dirs' hresult
    obtain ⟨rfl, rfl⟩ : shader₁ = shader ∧ dirs₁ = dirs' := by
      simpa using hresult
    obtain ⟨libraries, hbelow, hroots, rfl, rfl⟩ := ih _ _ hmerge
    have hread := (load_eq_ok_iff hpath manifest).1 hload
    have hown : ∀ entry ∈ manifest.sources, entry.namesOne :=
      (apply_fault_eq_none_iff manifest defaults _).1 (congrArg Prod.snd happly)
    refine ⟨.node here manifest libraries, .node hread hroots fun library hlibrary =>
      (hbelow library hlibrary).1, ?_, hpath, ?_, ?_⟩
    · exact LibraryTree.faultless_node.2 ⟨hown, fun library hlibrary => (hbelow library hlibrary).2⟩
    · exact (congrArg Prod.fst happly).symm
    · exact (LibraryTree.visit_node dirs here manifest libraries).symm
  case noLibrary =>
    intro chain dir dirs shader shader' dirs' hresult
    obtain ⟨rfl, rfl⟩ : shader = shader' ∧ dirs = dirs' := by simpa using hresult
    exact ⟨[], by simp, rfl, rfl, rfl⟩
  case first =>
    intro chain dir dirs shader path rest built dirs₁ hbuilt ihFirst ihRest shader' dirs' hresult
    obtain ⟨library, hunfolds, hfaultless, hpath, rfl, rfl⟩ := ihFirst _ _ hbuilt
    obtain ⟨libraries, hbelow, hroots, rfl, rfl⟩ := ihRest _ _ hresult
    refine ⟨library :: libraries, ?_, ?_, ?_, rfl⟩
    · exact List.forall_mem_cons.2 ⟨⟨hunfolds, hfaultless⟩, hbelow⟩
    · rw [List.map_cons, List.map_cons, hpath, hroots]
    · rw [List.map_cons, List.foldl_cons, ← LibraryTree.shader_none]
      rfl

/-- The recursion without the proofs by which it ends. -/
theorem buildBelow_eq (tree : FileTree) (chain dirs : List Location) (defaults : Option General)
    (path : String) :
    buildBelow tree chain dirs defaults path =
      match tree.canonicalize path with
      | .error e => .error (.unreadable path e)
      | .ok here =>
        if here ∈ chain then .error (.invalidManifest path (.libraryCycle chain here))
        else match load tree path with
          | .error e => .error e
          | .ok manifest =>
            match mergeLibraries tree (chain ++ [here]) here.parent manifest.libraries
                (withDirectory dirs here.parent) .empty with
            | .error e => .error e
            | .ok (shader, dirs) =>
              match manifest.apply tree here.parent.path defaults shader with
              | (_, some fault) => .error (.invalidManifest path fault)
              | (shader, none) => .ok (shader, dirs) := by
  rw [buildBelow]
  split
  · rename_i e hpath
    rw [hpath]
  · rename_i here hpath
    rw [hpath]
    by_cases hon : here ∈ chain
    · rw [dif_pos hon]
      simp only [if_pos hon]
    · rw [dif_neg hon]
      simp only [if_neg hon]
      split
      · rename_i e hload
        simp only [hload]
      · rename_i manifest hload
        exact hload ▸ rfl

theorem buildBelow_of_mem_chain {chain : List Location} {path : String} {here : Location}
    (hpath : tree.canonicalize path = .ok here) (hon : here ∈ chain) (dirs : List Location)
    (defaults : Option General) :
    buildBelow tree chain dirs defaults path
      = .error (.invalidManifest path (.libraryCycle chain here)) := by
  rw [buildBelow_eq, hpath]
  exact if_pos hon

theorem buildBelow_of_load {chain dirs : List Location} {defaults : Option General} {path : String}
    {here : Location} {manifest : Manifest} (hpath : tree.canonicalize path = .ok here)
    (hoff : here ∉ chain) (hload : load tree path = .ok manifest) :
    buildBelow tree chain dirs defaults path =
      match mergeLibraries tree (chain ++ [here]) here.parent manifest.libraries
          (withDirectory dirs here.parent) .empty with
      | .error e => .error e
      | .ok (shader, dirs) =>
        match manifest.apply tree here.parent.path defaults shader with
        | (_, some fault) => .error (.invalidManifest path fault)
        | (shader, none) => .ok (shader, dirs) := by
  rw [buildBelow_eq, hpath]
  simp only [if_neg hoff, hload]

/-- What a build gives for a manifest once its libraries are merged. -/
def conclude (path : String) (dirs : List Location) :
    Shader × Option ManifestFault → Except SetupError (Shader × List Location)
  | (_, some fault) => .error (.invalidManifest path fault)
  | (shader, none) => .ok (shader, dirs)

theorem conclude_of_faultless {path : String} {dirs : List Location}
    {applied : Shader × Option ManifestFault} (h : applied.2 = none) :
    conclude path dirs applied = .ok (applied.1, dirs) := by
  obtain ⟨shader, fault⟩ := applied
  obtain rfl : fault = none := h
  rfl

theorem buildBelow_eq_of_merged {chain dirs dirs₁ : List Location} {defaults : Option General}
    {path : String} {here : Location} {manifest : Manifest} {merged : Shader}
    (hpath : tree.canonicalize path = .ok here) (hoff : here ∉ chain)
    (hload : load tree path = .ok manifest)
    (hmerge : mergeLibraries tree (chain ++ [here]) here.parent manifest.libraries
      (withDirectory dirs here.parent) .empty = .ok (merged, dirs₁)) :
    buildBelow tree chain dirs defaults path
      = conclude path dirs₁ (manifest.apply tree here.parent.path defaults merged) := by
  rw [buildBelow_of_load hpath hoff hload, hmerge]
  dsimp only
  cases manifest.apply tree here.parent.path defaults merged with
  | mk shader fault => cases fault <;> rfl

theorem mergeLibraries_eq_ok {chain : List Location} {dir : Location} {paths : List String}
    {libraries : List LibraryTree} (dirs : List Location) (shader : Shader)
    (hbuild : ∀ library ∈ libraries, ∀ dirs path, tree.canonicalize path = .ok library.root →
      buildBelow tree chain dirs none path
        = .ok (library.libraryShader tree, library.visit dirs))
    (hroots : paths.map (fun path => tree.canonicalize (Path.join dir.path path))
      = libraries.map fun library => .ok library.root) :
    mergeLibraries tree chain dir paths dirs shader
      = .ok ((libraries.map (LibraryTree.libraryShader tree)).foldl Shader.merge shader,
          libraries.foldl LibraryTree.visit dirs) := by
  induction paths generalizing libraries dirs shader with
  | nil =>
      obtain rfl : libraries = [] := List.map_eq_nil_iff.1 hroots.symm
      rw [mergeLibraries]
      rfl
  | cons path paths ih =>
      cases libraries with
      | nil => simp at hroots
      | cons library libraries =>
          simp only [List.map_cons, List.cons.injEq] at hroots
          rw [mergeLibraries, hbuild library (by simp) dirs _ hroots.1]
          exact ih _ _ (fun below hbelow => hbuild below (List.mem_cons_of_mem _ hbelow)) hroots.2

/-- A library tree without faults and off the chain can be built. -/
theorem buildBelow_eq_ok {library : LibraryTree} (hunfolds : library.Unfolds tree)
    (hfaultless : library.Faultless) {chain : List Location}
    (hoff : ∀ here ∈ library.locations, here ∉ chain) (dirs : List Location)
    (defaults : Option General) {path : String}
    (hpath : tree.canonicalize path = .ok library.root) :
    buildBelow tree chain dirs defaults path
      = .ok (library.shader tree defaults, library.visit dirs) := by
  induction hunfolds generalizing chain dirs defaults path with
  | @node here manifest libraries read roots below ih =>
      have hunfolds : (LibraryTree.node here manifest libraries).Unfolds tree :=
        .node read roots below
      have hhere : tree.canonicalize path = .ok here := hpath
      obtain ⟨hown, hfaults⟩ := LibraryTree.faultless_node.1 hfaultless
      rw [LibraryTree.locations_node, List.forall_mem_cons] at hoff
      have hload : load tree path = .ok manifest := (load_eq_ok_iff hhere manifest).2 read
      have hbuild : ∀ library ∈ libraries, ∀ dirs path,
          tree.canonicalize path = .ok library.root →
          buildBelow tree (chain ++ [here]) dirs none path
            = .ok (library.libraryShader tree, library.visit dirs) := by
        intro library hlibrary dirs path hpath
        rw [← LibraryTree.shader_none]
        refine ih library hlibrary (hfaults library hlibrary) ?_ dirs none hpath
        intro inside hinside
        rw [List.mem_append, List.mem_singleton, not_or]
        refine ⟨hoff.2 inside (List.mem_flatMap.2 ⟨library, hlibrary, hinside⟩), ?_⟩
        -- A library that came back to `here` would close a cycle through it.
        rintro rfl
        exact hunfolds.not_transGen_root (.head' (hunfolds.edge hlibrary)
          ((below library hlibrary).mem_locations_iff.1 hinside))
      have hfault : (manifest.apply tree here.parent.path defaults
          ((libraries.map (LibraryTree.libraryShader tree)).foldl Shader.merge .empty)).2 = none :=
        (apply_fault_eq_none_iff manifest defaults _).2 hown
      rw [buildBelow_eq_of_merged hhere hoff.1 hload (mergeLibraries_eq_ok _ _ hbuild roots),
        conclude_of_faultless hfault, LibraryTree.visit_node]
      rfl

theorem buildTracked_eq_ok_iff {path : String} {general : General} {shader : Shader}
    {dirs : List Location} :
    buildTracked tree path general = .ok (shader, dirs)
      ↔ DescribedBuild tree [] (some general) path shader dirs := by
  constructor
  · exact describedBuild_of_buildBelow
  · rintro ⟨library, hunfolds, hfaultless, hpath, rfl, rfl⟩
    exact buildBelow_eq_ok hunfolds hfaultless (fun _ _ => List.not_mem_nil) [] (some general) hpath

theorem build_eq_ok_iff {path : String} {general : General} {shader : Shader} :
    build tree path general = .ok shader ↔
      ∃ library : LibraryTree, library.Unfolds tree ∧ library.Faultless ∧
        tree.canonicalize path = .ok library.root ∧
          shader = library.shader tree (some general) := by
  constructor
  · intro h
    cases hbuilt : buildTracked tree path general with
    | error e => simp [build, hbuilt, Except.map] at h
    | ok built =>
        obtain rfl : built.1 = shader := by simpa [build, hbuilt, Except.map] using h
        obtain ⟨library, hunfolds, hfaultless, hpath, hshader, -⟩ := buildTracked_eq_ok_iff.1 hbuilt
        exact ⟨library, hunfolds, hfaultless, hpath, hshader⟩
  · rintro ⟨library, hunfolds, hfaultless, hpath, rfl⟩
    rw [build, buildTracked_eq_ok_iff.2 ⟨library, hunfolds, hfaultless, hpath, rfl, rfl⟩]
    rfl

end Manifest

end ShaderAssembly

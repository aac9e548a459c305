import ShaderAssembly.Proofs.Library.Graph

/-!
# Library trees

A manifest that builds on libraries spans a tree: below it stand the trees of its libraries, in the
order listed, each as often as it is listed. A tree unfolds from a file tree if each of its nodes is
the manifest at its location and its branches start where the libraries lead. What a build does is
said once for such trees, by recursion over them, and no chain of manifests in progress takes part.

A location starts at most one tree. So a tree never holds the tree of its own root a second time,
and what lies on a cycle of the graph starts no tree at all.
-/

namespace ShaderAssembly

/-- A manifest at its location, and the trees of its libraries. -/
inductive LibraryTree where
  | node (here : Location) (manifest : Manifest) (libraries : List LibraryTree)

namespace LibraryTree

def root : LibraryTree → Location
  | node here _ _ => here

def manifest : LibraryTree → Manifest
  | node _ manifest _ => manifest

def libraries : LibraryTree → List LibraryTree
  | node _ _ libraries => libraries

def fold {α : Type} (f : Location → Manifest → List α → α) : LibraryTree → α
  | node here manifest libraries => f here manifest (libraries.map (fold f))

theorem fold_node {α : Type} (f : Location → Manifest → List α → α) (here : Location)
    (manifest : Manifest) (libraries : List LibraryTree) :
    fold f (node here manifest libraries) = f here manifest (libraries.map (fold f)) := by
  rw [fold]

/-- A tree has a property that each tree inherits from the trees of its libraries. -/
@[induction_eliminator]
theorem induction {motive : LibraryTree → Prop}
    (node : ∀ here manifest libraries, (∀ library ∈ libraries, motive library) →
      motive (.node here manifest libraries)) :
    ∀ library, motive library
  | .node here manifest libraries =>
      node here manifest libraries fun library _ => induction node library

/-- The manifests of a tree with their locations, each before those of its libraries. -/
def nodes : LibraryTree → List (Location × Manifest) :=
  fold fun here manifest below => (here, manifest) :: below.flatten

def locations (library : LibraryTree) : List Location := library.nodes.map (·.1)

theorem nodes_node (here : Location) (manifest : Manifest) (libraries : List LibraryTree) :
    (node here manifest libraries).nodes = (here, manifest) :: libraries.flatMap nodes := by
  rw [nodes, fold_node, List.flatMap_def]

theorem locations_node (here : Location) (manifest : Manifest) (libraries : List LibraryTree) :
    (node here manifest libraries).locations = here :: libraries.flatMap locations := by
  rw [locations, nodes_node, List.map_cons, List.map_flatMap]
  rfl

/-- The tree describes what stands in the file tree. -/
inductive Unfolds (tree : FileTree) : LibraryTree → Prop where
  | node {here : Location} {manifest : Manifest} {libraries : List LibraryTree}
      (read : tree.manifestAt? here = some manifest)
      (roots : manifest.libraries.map (fun l => tree.canonicalize (FileTree.libraryPath here l))
        = libraries.map fun library => .ok library.root)
      (below : ∀ library ∈ libraries, Unfolds tree library) :
      Unfolds tree (.node here manifest libraries)

variable {tree : FileTree}

theorem Unfolds.leaf {here : Location} {manifest : Manifest}
    (read : tree.manifestAt? here = some manifest) (hlibraries : manifest.libraries = []) :
    (LibraryTree.node here manifest []).Unfolds tree :=
  .node read (by rw [hlibraries]; rfl) fun _ hmem => absurd hmem List.not_mem_nil

theorem Unfolds.read {library : LibraryTree} (h : library.Unfolds tree) :
    tree.manifestAt? library.root = some library.manifest := by
  obtain ⟨read, -, -⟩ := h
  exact read

theorem Unfolds.of_mem {library below : LibraryTree} (h : library.Unfolds tree)
    (hmem : below ∈ library.libraries) : below.Unfolds tree := by
  obtain ⟨-, -, hbelow⟩ := h
  exact hbelow below hmem

private theorem eq_of_map_root_eq {first second : List LibraryTree}
    (hroots : first.map root = second.map root)
    (hunique : ∀ a ∈ first, ∀ b ∈ second, a.root = b.root → a = b) : first = second := by
  induction first generalizing second with
  | nil => exact (List.map_eq_nil_iff.1 hroots.symm).symm
  | cons a first ih =>
      cases second with
      | nil => simp at hroots
      | cons b second =>
          simp only [List.map_cons, List.cons.injEq] at hroots
          rw [hunique a (by simp) b (by simp) hroots.1, ih hroots.2 fun x hx y hy =>
            hunique x (List.mem_cons_of_mem _ hx) y (List.mem_cons_of_mem _ hy)]

theorem Unfolds.unique {first second : LibraryTree} (hfirst : first.Unfolds tree)
    (hsecond : second.Unfolds tree) (hroot : first.root = second.root) : first = second := by
  induction hfirst generalizing second with
  | @node here manifest libraries read roots below ih =>
      cases hsecond with
      | @node here' manifest' libraries' read' roots' below' =>
          obtain rfl : here = here' := hroot
          obtain rfl : manifest = manifest' := Option.some.inj (read.symm.trans read')
          have hroots : libraries.map root = libraries'.map root := by
            have hok : Function.Injective (Except.ok : Location → Except FileError Location) :=
              fun _ _ => Except.ok.inj
            refine List.map_injective_iff.2 hok ?_
            rw [List.map_map, List.map_map]
            exact roots.symm.trans roots'
          rw [eq_of_map_root_eq hroots fun a ha b hb => ih a ha (below' b hb)]

/-! ### Trees and reachability -/

theorem Unfolds.exists_library {library : LibraryTree} (h : library.Unfolds tree)
    {target : Location} (hedge : tree.LibraryEdge library.root target) :
    ∃ below ∈ library.libraries, below.root = target := by
  obtain ⟨manifest, hread, path, hpath, htarget⟩ := hedge
  cases h with
  | @node here manifest' libraries read roots below =>
      obtain rfl : manifest' = manifest := Option.some.inj (read.symm.trans hread)
      have hmem : (.ok target : Except FileError Location)
          ∈ libraries.map fun library => .ok library.root := by
        rw [← roots, ← htarget]
        exact List.mem_map_of_mem hpath
      obtain ⟨library, hlibrary, hroot⟩ := List.mem_map.1 hmem
      exact ⟨library, hlibrary, Except.ok.inj hroot⟩

theorem Unfolds.edge {library below : LibraryTree} (h : library.Unfolds tree)
    (hmem : below ∈ library.libraries) : tree.LibraryEdge library.root below.root := by
  cases h with
  | @node here manifest libraries read roots _ =>
      have hroot : Except.ok below.root ∈ manifest.libraries.map fun l =>
          tree.canonicalize (FileTree.libraryPath here l) := by
        rw [roots]
        exact List.mem_map_of_mem hmem
      obtain ⟨path, hpath, htarget⟩ := List.mem_map.1 hroot
      exact ⟨manifest, read, path, hpath, htarget⟩

theorem sizeOf_lt_of_mem {library below : LibraryTree} (hmem : below ∈ library.libraries) :
    sizeOf below < sizeOf library := by
  obtain ⟨here, manifest, libraries⟩ := library
  have hlist : sizeOf below < sizeOf libraries := List.sizeOf_lt_of_mem hmem
  simp only [node.sizeOf_spec]
  omega

theorem nodes_subset_of_mem {library below : LibraryTree} (hmem : below ∈ library.libraries) :
    below.nodes ⊆ library.nodes := by
  obtain ⟨here, manifest, libraries⟩ := library
  intro node hnode
  rw [nodes_node]
  exact List.mem_cons_of_mem _ (List.mem_flatMap.2 ⟨below, hmem, hnode⟩)

/-- What the root of a tree reaches in one step or more starts a smaller tree inside. -/
theorem Unfolds.exists_of_transGen {library : LibraryTree} (h : library.Unfolds tree)
    {target : Location} (hreach : Relation.TransGen tree.LibraryEdge library.root target) :
    ∃ inner : LibraryTree, inner.Unfolds tree ∧ inner.root = target ∧
      sizeOf inner < sizeOf library ∧ inner.nodes ⊆ library.nodes := by
  induction hreach with
  | single hedge =>
      obtain ⟨below, hmem, hroot⟩ := h.exists_library hedge
      exact ⟨below, h.of_mem hmem, hroot, sizeOf_lt_of_mem hmem, nodes_subset_of_mem hmem⟩
  | tail _ hedge ih =>
      obtain ⟨inner, hinner, rfl, hsize, hnodes⟩ := ih
      obtain ⟨below, hmem, hroot⟩ := hinner.exists_library hedge
      exact ⟨below, hinner.of_mem hmem, hroot, (sizeOf_lt_of_mem hmem).trans hsize,
        List.Subset.trans (nodes_subset_of_mem hmem) hnodes⟩

/-- The root of a tree lies on no cycle, or the tree would hold itself. -/
theorem Unfolds.not_transGen_root {library : LibraryTree} (h : library.Unfolds tree) :
    ¬ Relation.TransGen tree.LibraryEdge library.root library.root := by
  intro hcycle
  obtain ⟨inner, hinner, hroot, hsize, -⟩ := h.exists_of_transGen hcycle
  obtain rfl := hinner.unique h hroot
  exact lt_irrefl _ hsize

theorem root_mem_nodes (library : LibraryTree) :
    (library.root, library.manifest) ∈ library.nodes := by
  obtain ⟨here, manifest, libraries⟩ := library
  rw [nodes_node]
  exact List.mem_cons_self

theorem Unfolds.exists_of_reflTransGen {library : LibraryTree} (h : library.Unfolds tree)
    {target : Location} (hreach : Relation.ReflTransGen tree.LibraryEdge library.root target) :
    ∃ inner : LibraryTree, inner.Unfolds tree ∧ inner.root = target ∧
      inner.nodes ⊆ library.nodes := by
  rcases Relation.reflTransGen_iff_eq_or_transGen.1 hreach with rfl | hreach
  · exact ⟨library, h, rfl, List.Subset.refl _⟩
  · obtain ⟨inner, hinner, hroot, -, hnodes⟩ := h.exists_of_transGen hreach
    exact ⟨inner, hinner, hroot, hnodes⟩

theorem Unfolds.reflTransGen_of_mem {library : LibraryTree} (h : library.Unfolds tree)
    {here : Location} (hmem : here ∈ library.locations) :
    Relation.ReflTransGen tree.LibraryEdge library.root here := by
  induction h with
  | @node root manifest libraries read roots below ih =>
      have hwhole : (LibraryTree.node root manifest libraries).Unfolds tree :=
        .node read roots below
      rw [locations_node, List.mem_cons, List.mem_flatMap] at hmem
      rcases hmem with rfl | ⟨library, hlibrary, hmem⟩
      · exact .refl
      · exact .head (hwhole.edge hlibrary) (ih library hlibrary hmem)

theorem Unfolds.mem_locations_iff {library : LibraryTree} (h : library.Unfolds tree)
    {here : Location} :
    here ∈ library.locations ↔ Relation.ReflTransGen tree.LibraryEdge library.root here := by
  constructor
  · exact h.reflTransGen_of_mem
  · intro hreach
    obtain ⟨inner, -, rfl, hnodes⟩ := h.exists_of_reflTransGen hreach
    exact List.mem_map_of_mem (hnodes inner.root_mem_nodes)

theorem Unfolds.read_of_mem {library : LibraryTree} (h : library.Unfolds tree)
    {node : Location × Manifest} (hmem : node ∈ library.nodes) :
    tree.manifestAt? node.1 = some node.2 := by
  induction h with
  | @node root manifest libraries read roots below ih =>
      rw [nodes_node, List.mem_cons, List.mem_flatMap] at hmem
      rcases hmem with rfl | ⟨library, hlibrary, hmem⟩
      · exact read
      · exact ih library hlibrary hmem

end LibraryTree

end ShaderAssembly

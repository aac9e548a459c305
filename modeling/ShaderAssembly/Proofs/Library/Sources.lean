import ShaderAssembly.Proofs.Library.Layout

/-!
# The sources of a library tree

The blocks of a shader are those that its manifests list, each in its place in the layout of the
library tree and anchored in the directory of its manifest. The list of sources keeps beside each
block the location of the manifest that lists it, so that nothing of what a manifest says is lost.
-/

namespace ShaderAssembly

namespace Manifest

/-- The blocks that the manifest at a location lists on one side. -/
def listedAt (side : Side) (here : Location) (manifest : Manifest) : List (Location × Block) :=
  (manifest.sources.filter (·.side = side)).filterMap fun entry =>
    entry.block.toOption.map (here, ·)

theorem blocksAt_eq_map_listedAt (manifest : Manifest) (tree : FileTree) (side : Side)
    (here : Location) :
    manifest.blocksAt tree here.parent.path side
      = (manifest.listedAt side here).map fun listed =>
          listed.2.anchored tree listed.1.parent.path := by
  rw [blocksAt, blocksOf, listedAt, List.map_filterMap]
  refine congrArg (List.filterMap · _) (funext fun entry => ?_)
  rw [SourceEntry.placedBlock?, Option.map_map]
  rfl

/-- What forgets at every step has nothing remembered in the end. -/
theorem assembled_foldl {β : Type} (step : Shader → β → Shader)
    (hstep : ∀ shader item, (step shader item).assembled = none) (items : List β) {shader : Shader}
    (h : shader.assembled = none) : (items.foldl step shader).assembled = none := by
  induction items generalizing shader with
  | nil => exact h
  | cons item items ih => exact ih (hstep shader item)

theorem assembled_applyOpening (manifest : Manifest) {shader : Shader}
    (defaults : Option General) (h : shader.assembled = none) :
    (manifest.applyOpening shader defaults).assembled = none := by
  simp only [applyOpening]
  split <;> split <;> first | rfl | exact h

theorem assembled_applySources {tree : FileTree} {dir : String} (entries : List SourceEntry)
    {shader : Shader} (h : shader.assembled = none) :
    (applySources tree dir entries shader).1.assembled = none := by
  induction entries generalizing shader with
  | nil => exact h
  | cons entry entries ih =>
      rw [applySources]
      cases entry.block with
      | error fault => exact h
      | ok block => exact ih rfl

theorem assembled_apply (manifest : Manifest) (tree : FileTree) (dir : String)
    (defaults : Option General) {shader : Shader} (h : shader.assembled = none) :
    (manifest.apply tree dir defaults shader).1.assembled = none := by
  rw [apply, applyHeader_eq]
  refine assembled_applySources manifest.sources ?_
  refine assembled_foldl _ (fun _ _ => rfl) _ (assembled_foldl _ (fun _ _ => rfl) _
    (assembled_foldl _ (fun _ _ => rfl) _ ?_))
  exact assembled_applyOpening manifest defaults h

end Manifest

namespace LibraryTree

/-- The sources of a tree in the order of its shader, each with the location of its manifest. -/
def sources : LibraryTree → List (Location × Block) :=
  layout (Manifest.listedAt .front) (Manifest.listedAt .back)

theorem layout_map {α β : Type} (f : α → β) (front back : Location → Manifest → List α)
    (library : LibraryTree) :
    library.layout (fun here manifest => (front here manifest).map f)
        (fun here manifest => (back here manifest).map f)
      = (library.layout front back).map f := by
  induction library with
  | node here manifest libraries ih =>
      rw [layout_node, layout_node, List.map_append, List.map_append, List.map_reverse,
        List.map_flatMap, List.flatMap_def, List.flatMap_def, List.map_congr_left ih]

theorem blocks_shader {tree : FileTree} {library : LibraryTree} (hfaultless : library.Faultless)
    (defaults : Option General) :
    (library.shader tree defaults).blocks
      = library.sources.map fun listed => listed.2.anchored tree listed.1.parent.path := by
  rw [(Manifest.layered_blocks tree).shader_eq hfaultless, sources, ← layout_map]
  simp only [Manifest.blocksAt_eq_map_listedAt]

theorem assembled_shader (tree : FileTree) (library : LibraryTree) (defaults : Option General) :
    (library.shader tree defaults).assembled = none := by
  rw [shader]
  refine Manifest.assembled_apply _ _ _ _ ?_
  exact Manifest.assembled_foldl Shader.merge (fun _ _ => rfl) _ rfl

/-- Every source entry of every manifest that is reached is among the sources. -/
theorem Unfolds.mem_sources {tree : FileTree} {library : LibraryTree} (h : library.Unfolds tree)
    {here : Location} (hreach : Relation.ReflTransGen tree.LibraryEdge library.root here)
    {manifest : Manifest} (hread : tree.manifestAt? here = some manifest) {entry : SourceEntry}
    (hentry : entry ∈ manifest.sources) {block : Block} (hblock : entry.block = .ok block) :
    (here, block) ∈ library.sources := by
  obtain ⟨node, hnode, rfl⟩ := List.mem_map.1 (h.mem_locations_iff.2 hreach)
  obtain rfl : node.2 = manifest := Option.some.inj ((h.read_of_mem hnode).symm.trans hread)
  rw [sources, (layout_perm _ _ library).mem_iff, List.mem_flatMap]
  refine ⟨node, hnode, ?_⟩
  have hlisted (side : Side) (hside : entry.side = side) :
      (node.1, block) ∈ Manifest.listedAt side node.1 node.2 := by
    refine List.mem_filterMap.2 ⟨entry, List.mem_filter.2 ⟨hentry, by simpa using hside⟩, ?_⟩
    rw [hblock]
    rfl
  rw [added, List.mem_append]
  cases hside : entry.side with
  | front => exact .inl (hlisted .front hside)
  | back => exact .inr (hlisted .back hside)

end LibraryTree

end ShaderAssembly

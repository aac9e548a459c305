import Mathlib.Algebra.BigOperators.Group.Finset.Basic
import Mathlib.Algebra.Order.Group.Multiset
import Mathlib.Data.List.Forall2
import ShaderAssembly.Proofs.Library.Build
import ShaderAssembly.Proofs.Library.Routes

/-!
# How a library tree is laid out

Both sequences of a shader, its macro operations and its blocks, are laid out in the same way: what
a manifest adds at the front, in reverse, then its libraries one after another, then what it adds at
the back. What a library adds at its front stays inside its own part. So the layout is one fold over
the library tree, and the two sequences differ only in what a manifest adds to them.

The layout shuffles what the manifests add and does nothing else. Each node of the tree contributes
once, and there is one node for each library path from the root.
-/

namespace ShaderAssembly

namespace LibraryTree

section Layout

variable {α : Type} (front back : Location → Manifest → List α)

/-- The sequence of a tree whose manifests add at both ends. -/
def layout : LibraryTree → List α :=
  fold fun here manifest below =>
    (front here manifest).reverse ++ below.flatten ++ back here manifest

theorem layout_node (here : Location) (manifest : Manifest) (libraries : List LibraryTree) :
    (node here manifest libraries).layout front back
      = (front here manifest).reverse ++ libraries.flatMap (layout front back)
        ++ back here manifest := by
  rw [layout, fold_node, List.flatMap_def]

def added (here : Location) (manifest : Manifest) : List α :=
  front here manifest ++ back here manifest

/-- Each node of the tree contributes all it adds, and nothing else is there. -/
theorem layout_perm (library : LibraryTree) :
    (library.layout front back).Perm
      (library.nodes.flatMap fun node => added front back node.1 node.2) := by
  induction library with
  | node here manifest libraries ih =>
      have hbelow : (libraries.flatMap (layout front back)).Perm
          (libraries.flatMap fun library =>
            library.nodes.flatMap fun node => added front back node.1 node.2) :=
        List.Perm.flatMap_left libraries ih
      rw [layout_node, nodes_node, List.flatMap_cons, List.flatMap_assoc, added]
      have hfront : ((front here manifest).reverse ++ libraries.flatMap (layout front back)
          ++ back here manifest).Perm (front here manifest ++
            (libraries.flatMap (layout front back) ++ back here manifest)) := by
        rw [List.append_assoc]
        exact (List.reverse_perm _).append_right _
      refine hfront.trans ?_
      rw [List.append_assoc]
      refine List.Perm.append_left _ ?_
      exact List.perm_append_comm.trans (hbelow.append_left _)

variable {tree : FileTree}

/-- A section of a shader that is merged in order, and to which every manifest without a bad source
adds at both ends what it lists. -/
structure Layered (tree : FileTree) (part : Shader → List α)
    (front back listed : Location → Manifest → List α) : Prop where
  empty : part .empty = []
  merge : ∀ shader other, part (shader.merge other) = part shader ++ part other
  apply : ∀ here (manifest : Manifest) defaults shader,
    (∀ entry ∈ manifest.sources, entry.namesOne) →
      part (manifest.apply tree here.parent.path defaults shader).1
        = (front here manifest).reverse ++ part shader ++ back here manifest
  listed : ∀ here manifest, (added front back here manifest).Perm (listed here manifest)

variable {front back} {listed : Location → Manifest → List α} {part : Shader → List α}

theorem Layered.foldl_merge (h : Layered tree part front back listed) (shaders : List Shader)
    (shader : Shader) :
    part (shaders.foldl Shader.merge shader) = part shader ++ shaders.flatMap part :=
  foldl_at_back h.merge shaders shader

theorem Layered.shader_eq (h : Layered tree part front back listed) {library : LibraryTree}
    (hfaultless : library.Faultless) (defaults : Option General) :
    part (library.shader tree defaults) = library.layout front back := by
  induction library generalizing defaults with
  | node here manifest libraries ih =>
      obtain ⟨hown, hbelow⟩ := faultless_node.1 hfaultless
      have hlibraries : (libraries.map (libraryShader tree)).flatMap part
          = libraries.flatMap (layout front back) := by
        rw [List.flatMap_map, List.flatMap_def, List.flatMap_def]
        refine congrArg List.flatten (List.map_congr_left fun library hlibrary => ?_)
        rw [← shader_none, ih library hlibrary (hbelow library hlibrary)]
      rw [shader]
      simp only [root, LibraryTree.manifest, LibraryTree.libraries]
      rw [h.apply _ _ _ _ hown, h.foldl_merge, h.empty, List.nil_append, hlibraries, layout_node]

end Layout

end LibraryTree

namespace Manifest

variable {tree : FileTree}

def operations (manifest : Manifest) : List MacroOp :=
  manifest.macros.map MacroEntry.op ++ manifest.removals

def placedBlocks (manifest : Manifest) (tree : FileTree) (dir : String) : List Block :=
  manifest.sources.filterMap (·.placedBlock? tree dir)

private theorem filter_sides_perm {α : Type} (side : α → Side) (entries : List α) :
    (entries.filter (side · = .front) ++ entries.filter (side · = .back)).Perm entries := by
  have hback : entries.filter (fun e => decide (side e = .back))
      = entries.filter fun e => !decide (side e = .front) := by
    refine List.filter_congr fun entry _ => ?_
    cases side entry <;> rfl
  rw [hback]
  exact List.filter_append_perm _ _

theorem layered_macros (tree : FileTree) :
    LibraryTree.Layered tree Shader.macros (fun _ manifest => manifest.macrosAt .front)
      (fun _ manifest => manifest.macrosAt .back ++ manifest.removals)
      (fun _ manifest => manifest.operations) where
  empty := rfl
  merge _ _ := rfl
  apply _ manifest defaults shader _ := by
    rw [macros_apply, List.append_assoc _ (manifest.macrosAt .back)]
  listed _ manifest := by
    rw [LibraryTree.added, ← List.append_assoc, operations, macrosAt, macrosAt, ← List.map_append]
    exact ((filter_sides_perm MacroEntry.side manifest.macros).map _).append_right _

theorem layered_blocks (tree : FileTree) :
    LibraryTree.Layered tree Shader.blocks
      (fun here manifest => manifest.blocksAt tree here.parent.path .front)
      (fun here manifest => manifest.blocksAt tree here.parent.path .back)
      (fun here manifest => manifest.placedBlocks tree here.parent.path) where
  empty := rfl
  merge _ _ := rfl
  apply _ manifest defaults shader hgood := blocks_apply manifest defaults shader hgood
  listed _ manifest := by
    rw [LibraryTree.added, blocksAt, blocksAt, blocksOf, blocksOf, ← List.filterMap_append]
    exact (filter_sides_perm SourceEntry.side manifest.sources).filterMap _

end Manifest

end ShaderAssembly

import ShaderAssembly.Proofs.FileTree.Alike
import ShaderAssembly.Proofs.Library.Build
import ShaderAssembly.Proofs.Manifest.KeyOrder

/-!
# File trees that build alike

A build asks a file tree three things: where a path leads, what manifest stands at a location, and
whether a path leads to a file. Trees that answer alike unfold into the same library trees and give
the same shaders. Writing the keys of a table of extensions in another order changes none of the
answers.
-/

namespace ShaderAssembly

/-- The two trees answer a build alike. -/
structure FileTree.BuildsAlike (tree tree' : FileTree) : Prop where
  canonicalize : tree'.canonicalize = tree.canonicalize
  manifestAt? : tree'.manifestAt? = tree.manifestAt?
  isFile : tree'.isFile = tree.isFile

namespace FileTree.BuildsAlike

variable {tree tree' : FileTree}

theorem shader (h : tree.BuildsAlike tree') (library : LibraryTree) (defaults : Option General) :
    library.shader tree' defaults = library.shader tree defaults := by
  have hlibrary : LibraryTree.libraryShader tree' = LibraryTree.libraryShader tree := by
    rw [LibraryTree.libraryShader, LibraryTree.libraryShader]
    congr 1
    funext here manifest shaders
    rw [Manifest.apply_congr h.isFile]
  rw [LibraryTree.shader, LibraryTree.shader, Manifest.apply_congr h.isFile, hlibrary]

theorem unfolds (h : tree.BuildsAlike tree') {library : LibraryTree}
    (hunfolds : library.Unfolds tree) : library.Unfolds tree' := by
  induction hunfolds with
  | node read roots below ih =>
      exact .node (by rwa [h.manifestAt?]) (by rwa [h.canonicalize]) ih

theorem build (h : tree.BuildsAlike tree') {path : String} {general : General} {shader : Shader}
    (hbuilt : Manifest.build tree path general = .ok shader) :
    Manifest.build tree' path general = .ok shader := by
  obtain ⟨library, hunfolds, hfaultless, hroot, rfl⟩ := Manifest.build_eq_ok_iff.1 hbuilt
  refine Manifest.build_eq_ok_iff.2 ⟨library, h.unfolds hunfolds, hfaultless, ?_, ?_⟩
  · rwa [h.canonicalize]
  · rw [h.shader]

end FileTree.BuildsAlike

/-! ### Keys in another order -/

namespace FileTree

/-- The two trees are the same, apart from the order of keys in tables of extensions. -/
structure SameButKeyOrder (tree tree' : FileTree) : Prop where
  workingDir : tree'.workingDir = tree.workingDir
  nodes : ∀ here, tree'.node? here = tree.node? here ∨
    ∃ text text', tree.node? here = some (.file (.text text)) ∧
      tree'.node? here = some (.file (.text text')) ∧ Manifest.SameButKeyOrder text text'

variable {tree tree' : FileTree}

theorem SameButKeyOrder.sameFiles (h : tree.SameButKeyOrder tree') : tree.SameFiles tree' where
  workingDir := h.workingDir
  nodes here := (h.nodes here).imp_right fun ⟨_, _, hnode, hnode', _⟩ => ⟨_, _, hnode, hnode'⟩

theorem SameButKeyOrder.manifestAt? (h : tree.SameButKeyOrder tree') (here : Location) :
    tree'.manifestAt? here = tree.manifestAt? here := by
  rcases h.nodes here with hnode | ⟨text, text', hnode, hnode', hsame⟩
  · simp only [FileTree.manifestAt?, textAt, hnode]
  · simp only [FileTree.manifestAt?, textAt, hnode, hnode']
    exact Manifest.parse?_eq_of_sameButKeyOrder hsame

theorem SameButKeyOrder.buildsAlike (h : tree.SameButKeyOrder tree') :
    tree.BuildsAlike tree' where
  canonicalize := h.sameFiles.canonicalize
  manifestAt? := funext h.manifestAt?
  isFile := h.sameFiles.isFile

end FileTree

end ShaderAssembly

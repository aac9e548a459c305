import ShaderAssembly.FileTree.Basic

/-!
# Trees that differ in what files hold

Following a path asks for names and directories and never for what a file holds. So trees with the
same files and directories lead each path to the same place, and agree on whether a file is there.
-/

namespace ShaderAssembly

namespace FileTree

/-- The two trees are the same, apart from what their files hold. -/
structure SameFiles (tree tree' : FileTree) : Prop where
  workingDir : tree'.workingDir = tree.workingDir
  nodes : ∀ here, tree'.node? here = tree.node? here ∨
    ∃ content content', tree.node? here = some (.file content) ∧
      tree'.node? here = some (.file content')

namespace SameFiles

variable {tree tree' : FileTree}

theorem walk (h : tree.SameFiles tree') (names : List String) (here : Location) :
    tree'.walk here names = tree.walk here names := by
  induction names generalizing here with
  | nil => rfl
  | cons name names ih =>
      rcases h.nodes here with hhere | ⟨_, _, hhere, hhere'⟩
      · rcases h.nodes (here ++ [name]) with hnext | ⟨_, _, hnext, hnext'⟩
        · simp only [FileTree.walk, hhere, hnext, ih]
        · simp only [FileTree.walk, hhere, hnext, hnext', ih]
      · simp only [FileTree.walk, hhere, hhere']

theorem resolve (h : tree.SameFiles tree') : tree'.resolve = tree.resolve := by
  funext path
  simp only [FileTree.resolve, origin, h.workingDir, h.walk]

theorem canonicalize (h : tree.SameFiles tree') : tree'.canonicalize = tree.canonicalize := by
  funext path
  simp only [FileTree.canonicalize, h.resolve]

theorem isFile (h : tree.SameFiles tree') : tree'.isFile = tree.isFile := by
  funext path
  rw [FileTree.isFile, FileTree.isFile, find?, find?, h.resolve]
  cases tree.resolve path with
  | error e => rfl
  | ok here =>
      rcases h.nodes here with hnode | ⟨content, content', hnode, hnode'⟩
      · simp only [hnode]
      · simp only [hnode, hnode']

end SameFiles

end FileTree

end ShaderAssembly

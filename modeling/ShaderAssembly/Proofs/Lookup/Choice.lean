import ShaderAssembly.Lookup.Resolvers
import ShaderAssembly.Manifest.Apply
import ShaderAssembly.Proofs.FileTree.Names

/-!
# The file that a manifest means

A file name in a manifest is looked up twice: once beside the manifest, when the shader is built,
and once in the include directories, when it is assembled. Together the two make one search, beside
the manifest first. For what is found beside the manifest enters the shader as an absolute path,
since the directory of a manifest is one, and an absolute path is not searched any more; and what is
not found there enters the shader as it was written.
-/

namespace ShaderAssembly

namespace FileSearch

/-- The paths that a file name in a manifest may mean, the first choice first. -/
def choices (search : FileSearch) (dir file : String) : List String :=
  if Path.isAbsolute file then [file]
  else Path.join dir file :: search.includeDirs.map (Path.join · file) ++ [file]

/-- The path of the file that is meant by a file name in a manifest, if there is one. -/
def choose? (search : FileSearch) (tree : FileTree) (dir file : String) : Option String :=
  (search.choices dir file).find? tree.isFile

variable {search : FileSearch} {tree : FileTree} {dir file : String}

/-- The two searches make one. -/
theorem locate_anchor (hdir : Path.isAbsolute dir = true) :
    search.locate tree (anchor tree dir file) = search.choose? tree dir file := by
  rw [anchor, choose?, choices]
  split
  · rename_i hfile
    rw [locate, candidates, if_pos hfile]
  · rename_i hfile
    split
    · rename_i hbeside
      rw [locate, candidates, if_pos (Path.isAbsolute_join hdir file), List.cons_append,
        List.find?_cons_of_pos hbeside, List.find?_cons_of_pos hbeside]
    · rename_i hbeside
      rw [locate, candidates, if_neg hfile, List.cons_append, List.find?_cons_of_neg hbeside]

theorem anchor_of_choose?_eq_none (h : search.choose? tree dir file = none) :
    anchor tree dir file = file := by
  rw [anchor]
  split
  · rfl
  · rename_i hfile
    rw [choose?, choices, if_neg hfile, List.cons_append, List.find?_eq_none,
      List.forall_mem_cons] at h
    rw [if_neg h.1]

/-- Where nothing is meant, the text is asked for by the name as it was written. -/
theorem fileText_anchor (hdir : Path.isAbsolute dir = true) :
    search.fileText tree (anchor tree dir file)
      = match search.choose? tree dir file with
        | some found => tree.readText found
        | none => .error (.notLocated file search.includeDirs.length) := by
  rw [fileText, locate_anchor hdir]
  cases hchoice : search.choose? tree dir file with
  | some found => rfl
  | none => rw [anchor_of_choose?_eq_none hchoice]

end FileSearch

/-- The text behind a block that a manifest in the directory `dir` lists. -/
def Block.listedText (search : FileSearch) (tree : FileTree) (table : ResourceTable)
    (dir : String) : Block → Except AssemblyError String
  | .file name =>
    match search.choose? tree dir name with
    | some found => (tree.readText found).mapError (.unresolvedFile (anchor tree dir name))
    | none => .error (.unresolvedFile name (.notLocated name search.includeDirs.length))
  | .text code => .ok code
  | .resource label =>
    match table.get? label with
    | some code => .ok code
    | none => .error (.unresolvedResource label)

theorem Block.resolve_anchored (search : FileSearch) (tree : FileTree) (table : ResourceTable)
    (dir : Location) (block : Block) :
    (block.anchored tree dir.path).resolve (.ofFilesAndTable search tree table)
      = block.listedText search tree table dir.path := by
  cases block with
  | text code => rfl
  | resource label => rfl
  | file file =>
      have hfile : (Block.anchored tree dir.path (.file file)).resolve
          (.ofFilesAndTable search tree table)
        = (search.fileText tree (anchor tree dir.path file)).mapError
            (.unresolvedFile (anchor tree dir.path file)) := rfl
      rw [hfile, FileSearch.fileText_anchor dir.isAbsolute_path, listedText]
      cases hchoice : search.choose? tree dir.path file with
      | some found => rfl
      | none =>
          rw [FileSearch.anchor_of_choose?_eq_none hchoice]
          rfl

end ShaderAssembly

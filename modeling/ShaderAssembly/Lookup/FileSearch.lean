import ShaderAssembly.FileTree.Basic
import ShaderAssembly.Shader.Block

/-!
# Searching files

A shader names its files by paths. An absolute path means one file only. A relative one is tried in
each include directory, in order, and then where it stands; the first of these that is a file is
meant.
-/

namespace ShaderAssembly

/-- The directories in which relative paths are searched. -/
structure FileSearch where
  includeDirs : List String
  deriving DecidableEq, Repr

namespace FileSearch

def addDirectory (search : FileSearch) (dir : String) : FileSearch :=
  ⟨search.includeDirs ++ [dir]⟩

/-- The paths that a path may mean, the first choice first. -/
def candidates (search : FileSearch) (path : String) : List String :=
  if Path.isAbsolute path then [path]
  else search.includeDirs.map (Path.join · path) ++ [path]

/-- The path of the file that is meant, if there is one. -/
def locate (search : FileSearch) (tree : FileTree) (path : String) : Option String :=
  (search.candidates path).find? tree.isFile

def fileText (search : FileSearch) (tree : FileTree) (path : String) : Except FileError String :=
  match search.locate tree path with
  | some found => tree.readText found
  | none => .error (.notLocated path search.includeDirs.length)

end FileSearch

end ShaderAssembly

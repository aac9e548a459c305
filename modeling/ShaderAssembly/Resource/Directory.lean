import ShaderAssembly.FileTree.Basic
import ShaderAssembly.Resource.Table

/-!
# Resources from a directory

Every file of a directory whose name ends in `.glsl` can be registered under that name. The files
are taken in the order in which the directory lists them, and the first one that is no text ends
the work; what was registered before it stays.
-/

namespace ShaderAssembly

/-- Whether the name of a file makes it a resource. -/
def isResourceName (name : String) : Bool := Path.extension? name == some "glsl"

namespace ResourceTable

/-- Registers the resources among the given names of a directory, and counts them. -/
def loadNames (tree : FileTree) (dir : String) :
    List String → ResourceTable → ResourceTable × Except FileError Nat
  | [], table => (table, .ok 0)
  | name :: names, table =>
    let path := Path.join dir name
    if tree.isFile path && isResourceName name then
      match tree.readText path with
      | .error e => (table, .error e)
      | .ok text =>
        let (loaded, count) := loadNames tree dir names (table.insert name text)
        (loaded, count.map (· + 1))
    else loadNames tree dir names table

/-- Registers the resources of a directory, and counts them. -/
def loadDirectory (table : ResourceTable) (tree : FileTree) (dir : String) :
    ResourceTable × Except FileError Nat :=
  match tree.list dir with
  | .error e => (table, .error e)
  | .ok names => loadNames tree dir names table

end ResourceTable

end ShaderAssembly

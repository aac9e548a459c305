import ShaderAssembly.Config.Basic
import ShaderAssembly.Config.Error
import ShaderAssembly.Lookup.Resolvers
import ShaderAssembly.Resource.Directory

/-!
# The resolver of a configuration

Files are searched in the include directories. Resources are the bundled ones together with those
of the resource directories, where a later directory wins over an earlier one. What is no directory
is passed over.
-/

namespace ShaderAssembly

namespace Config

def search (config : Config) : FileSearch := ⟨config.paths.includeDirs⟩

def addDirectories (tree : FileTree) :
    List String → ResourceTable → Except SetupError ResourceTable
  | [], table => .ok table
  | dir :: dirs, table =>
    if tree.isDirectory dir then
      match table.loadDirectory tree dir with
      | (_, .error e) => .error (.unreadable dir e)
      | (loaded, .ok _) => addDirectories tree dirs loaded
    else addDirectories tree dirs table

def resources (config : Config) (tree : FileTree) : Except SetupError ResourceTable :=
  addDirectories tree config.paths.resourceDirs .bundled

def resolver (config : Config) (tree : FileTree) : Except SetupError Resolver :=
  (config.resources tree).map (.ofFilesAndTable config.search tree)

end Config

end ShaderAssembly

import ShaderAssembly.Lookup.FileSearch
import ShaderAssembly.Resource.Bundled

/-!
# The resolvers

What a shader is assembled from: named texts, a resource table alone, files alone, or files
together with a resource table.
-/

namespace ShaderAssembly

namespace Resolver

def ofTexts (files resources : List (String × String)) : Resolver where
  fileText path :=
    match files.lookup path with
    | some text => .ok text
    | none => .error (.noSuchText path)
  resourceText label := resources.lookup label

def ofTable (table : ResourceTable) : Resolver where
  fileText path := .error (.resourcesOnly path)
  resourceText label := table.get? label

def ofFiles (search : FileSearch) (tree : FileTree) : Resolver where
  fileText path := search.fileText tree path
  resourceText _ := none

def ofFilesAndTable (search : FileSearch) (tree : FileTree) (table : ResourceTable) : Resolver where
  fileText path := search.fileText tree path
  resourceText label := table.get? label

end Resolver

end ShaderAssembly

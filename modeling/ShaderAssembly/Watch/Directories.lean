import ShaderAssembly.Manifest.Library

/-!
# Watched directories

A watcher of a manifest watches the directories of the manifest and its libraries, and those in
which the configuration has files and resources searched. Each directory is watched once, whichever
way it is named; what is missing or no directory is passed over. If the manifest cannot be built,
its own directory is watched, so that a repair is noticed.
-/

namespace ShaderAssembly

/-- Watches one more directory, and tells whether it is a new one. -/
def watchDirectory (tree : FileTree) (watched : List Location) (dir : String) :
    Bool × List Location :=
  match tree.canonicalize dir with
  | .error _ => (false, watched)
  | .ok location =>
    if tree.node? location == some .directory && !watched.contains location then
      (true, watched ++ [location])
    else (false, watched)

def watchDirectories (tree : FileTree) (watched : List Location) (dirs : List String) :
    List Location :=
  dirs.foldl (fun w dir => (watchDirectory tree w dir).2) watched

/-- The path of the directory a location lies in; the root lies in none. -/
def Location.parentPath (location : Location) : String :=
  if location = [] then "" else location.parent.path

/-- The directories to watch for the sake of a manifest. -/
def Manifest.directories (tree : FileTree) (manifest : String) (general : General) :
    Except SetupError (List String) :=
  match tree.canonicalize manifest with
  | .error e => .error (.unreadable manifest e)
  | .ok location =>
    match Manifest.buildTracked tree manifest general with
    | .ok (_, dirs) => .ok (dirs.map Location.path)
    | .error _ => .ok [location.parentPath]

/-- The directories that a watcher of a manifest watches from the start. -/
def initiallyWatched (tree : FileTree) (manifest : String) (config : Config) :
    Except SetupError (List Location) := do
  let dirs ← Manifest.directories tree manifest config.general
  return watchDirectories tree [] (dirs ++ config.paths.includeDirs ++ config.paths.resourceDirs)

end ShaderAssembly

import ShaderAssembly.CommandLine.Run

/-!
# The program

The outside is touched here only. What the command may look at on the disk is copied into a file
tree, the command runs on the tree, and what it changed there is written back. A session is told
that a file was modified whenever one in a watched directory has another time than before.
-/

namespace ShaderAssembly

namespace Disk

def node? (location : Location) : IO (Option Node) := do
  try
    let path ← IO.FS.realPath location.path
    if ← path.isDir then return some .directory
    else return some (.file (.ofBytes (← IO.FS.readBinFile path)))
  catch _ => return none

/-- The locations on the way along a path, its end included. -/
def locationsAlong (tree : FileTree) (path : String) : List Location :=
  let step : Location × List Location → String → Location × List Location :=
    fun (here, passed) name =>
      if name = "." then (here, passed)
      else if name = ".." then (here.parent, passed)
      else (here ++ [name], passed ++ [here ++ [name]])
  ((tree.origin path ++ Path.names path).foldl step ([], [])).2

/-- Adds to a tree what the disk has along a path. -/
def observe (tree : FileTree) (path : String) : IO FileTree :=
  (locationsAlong tree path).foldlM (fun tree location => do
    if (tree.node? location).isSome then return tree
    match ← node? location with
    | some node => return tree.put location node
    | none => return tree) tree

/-- Adds the resources of a directory. -/
def observeResources (tree : FileTree) (dir : String) : IO FileTree := do
  let tree ← observe tree dir
  match tree.resolve dir with
  | .error _ => return tree
  | .ok location =>
    if tree.node? location = some .directory then
      let entries ← (← IO.FS.realPath location.path).readDir
      let names := (entries.map (·.fileName)).toList.filter isResourceName
      names.foldlM (fun tree name => observe tree (Path.join dir name)) tree
    else return tree

/-- Adds a manifest, its libraries, and all files that its sources may mean. -/
partial def observeManifest (search : FileSearch) (tree : FileTree) (seen : List Location)
    (path : String) : IO (FileTree × List Location) := do
  let tree ← observe tree path
  match tree.canonicalize path, Manifest.load tree path with
  | .ok here, .ok manifest =>
    if here ∈ seen then return (tree, seen)
    let dir := here.parent.path
    let files := manifest.sources.filterMap (·.file)
    let candidates := files.flatMap fun file => Path.join dir file :: search.candidates file
    let tree ← candidates.foldlM observe tree
    manifest.libraries.foldlM (fun (tree, seen) library =>
      observeManifest search tree seen (Path.join dir library)) (tree, here :: seen)
  | _, _ => return (tree, seen)

/-- Adds all that a pipeline may look at. -/
def observePipeline (tree : FileTree) (pipeline : Pipeline) : IO FileTree := do
  let tree ← pipeline.config.paths.includeDirs.foldlM observe tree
  let tree ← pipeline.config.paths.resourceDirs.foldlM observeResources tree
  return (← observeManifest pipeline.config.search tree [] pipeline.manifest).1

def start : IO FileTree := do
  observe ⟨(← IO.currentDir).toString, []⟩ "."

/-- A tree with all that the command may look at. -/
def snapshot (env : Environment) (arguments : CommandLine.Arguments) : IO FileTree := do
  let configFile := arguments.config <|> env.configFile.toOption
  let tree ← (configFile.toList ++ arguments.output.toList).foldlM observe (← start)
  match CommandLine.loadConfig tree env arguments.config with
  | (_, .error _) => return tree
  | (_, .ok config) => observePipeline tree ⟨arguments.manifest, config, arguments.options⟩

/-- Writes to the disk what the second tree has and the first has not. -/
def save (before after : FileTree) : IO Unit :=
  after.nodes.forM fun (location, node) => do
    if before.node? location ≠ some node then
      match node with
      | .directory => IO.FS.createDir location.path
      | .file (.text text) => IO.FS.writeFile location.path text
      | .file (.bytes bytes) => IO.FS.writeBinFile location.path ⟨bytes.toArray⟩

/-- The times at which the files in some directories were written. -/
def fileTimes (dirs : List Location) : IO (List (String × IO.FS.SystemTime)) := do
  let files ← dirs.flatMapM fun dir => do
    return (← (← IO.FS.realPath dir.path).walkDir).toList
  files.filterMapM fun file => do
    try
      if ← file.isDir then return none
      else return some (file.toString, (← file.metadata).modified)
    catch _ => return none

/-- A tree with all that a session may look at. -/
def observeSession (session : CommandLine.Session) : IO FileTree := do
  observePipeline (← session.output.toList.foldlM observe (← start)) session.pipeline

def utter : CommandLine.Utterance → IO Unit
  | .code text => do IO.print text; (← IO.getStdout).flush
  | .log line => IO.eprintln line

/-- Tells a session which files have another time than before, again and again. -/
partial def watch (session : CommandLine.Session) (times : List (String × IO.FS.SystemTime)) :
    IO Unit := do
  IO.sleep 500
  let now ← fileTimes session.watcher.watched
  let changed := now.filter fun (file, time) => times.lookup file != some time
  if changed.isEmpty then watch session now
  else
    let before ← observeSession session
    let happenings := changed.map fun (file, _) => (Happening.modify, Path.names file)
    let (after, later, utterances) := session.notice before (← IO.monoMsNow) happenings
    save before after
    utterances.forM utter
    let added := later.watcher.watched.drop session.watcher.watched.length
    watch later (now ++ (← fileTimes added))

/-- Assembles once, and then again after every change. -/
def hold (session : CommandLine.Session) : IO Unit := do
  let times ← fileTimes session.watcher.watched
  let before ← observeSession session
  let (after, session, utterance) := session.rebuild before
  save before after
  utter utterance
  watch session times

def environment : IO Environment := do
  return ⟨← IO.getEnv "SASM_CONFIG_DIR", (← IO.getEnv "HOME").filter (!·.isEmpty)⟩

/-- Runs the command on the disk, and gives its exit code. -/
def run (arguments : List String) : IO UInt32 := do
  let env ← environment
  let before ← match CommandLine.parse arguments with
    | .ok (.assemble arguments) => snapshot env arguments
    | _ => start
  let (after, ending) := CommandLine.run before env arguments
  save before after
  IO.print ending.standardOutput
  ending.errorLine?.forM IO.eprintln
  match ending with
  | .misused e => IO.eprintln ("error: " ++ e.message)
  | .watching session => hold session
  | _ => pure ()
  return ending.exitCode.toUInt32

end Disk

end ShaderAssembly

def main (arguments : List String) : IO UInt32 := do
  try
    ShaderAssembly.Disk.run arguments
  catch e =>
    IO.eprintln ("Error: " ++ toString e)
    return 1

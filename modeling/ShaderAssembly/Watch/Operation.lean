import ShaderAssembly.FileTree.Change
import ShaderAssembly.Watch.Directories
import ShaderAssembly.Watch.Notice

/-!
# File operations under watch

What a watcher is told of a file operation. Writing tells of a modification even if the text is the
same, appending nothing tells nothing, and a new place of a file tells of the old path and of the
new one, each if it lies in a watched directory.
-/

namespace ShaderAssembly

inductive FileOperation where
  | read (path : String)
  | write (path text : String)
  | append (path text : String)
  | remove (path : String)
  | rename (path newPath : String)
  | makeDirectory (path : String)
  deriving DecidableEq, Repr

namespace FileOperation

/-- The tree after an operation, what happened, and where. -/
def perform (tree : FileTree) :
    FileOperation → Except FileError (FileTree × List (Happening × Location))
  | read path => do
    let _ ← tree.readText path
    return (tree, [(.access, ← tree.resolve path)])
  | write path text => do
    let place ← tree.place path
    let after ← tree.write path (.text text)
    let created := (tree.node? place.location).isNone
    return (after, (if created then [(.create, place.location)] else []) ++
      [(.modify, place.location)])
  | append path text => do
    let after ← tree.append path text
    let location ← tree.resolve path
    return (after, if text.isEmpty then [] else [(.modify, location)])
  | remove path => do
    let place ← tree.place path
    return (← tree.remove path, [(.remove, place.location)])
  | rename path newPath => do
    let source ← tree.place path
    let target ← tree.place newPath
    let after ← tree.rename path newPath
    return (after, if source.location = target.location then []
      else [(.modify, source.location), (.modify, target.location)])
  | makeDirectory path => do
    let place ← tree.place path
    return (← tree.makeDirectory path, [(.create, place.location)])

end FileOperation

/-- A watcher: the directories it watches, and its debouncer. -/
structure Watcher where
  watched : List Location
  debouncer : Debouncer

namespace Watcher

/-- Whether a location lies in a watched directory, at any depth. -/
def covers (watcher : Watcher) (location : Location) : Bool :=
  watcher.watched.any fun dir => dir.isPrefixOf location && dir != location

def start (tree : FileTree) (manifest : String) (config : Config) (window : Nat) :
    Except SetupError Watcher :=
  (initiallyWatched tree manifest config).map (⟨·, .fresh window⟩)

/-- The watcher with one more directory, and whether it is a new one. -/
def watch (watcher : Watcher) (tree : FileTree) (dir : String) : Bool × Watcher :=
  let (added, watched) := watchDirectory tree watcher.watched dir
  (added, { watcher with watched })

/-- The paths reported after something happened in a tree, and the watcher after that. -/
def observe (watcher : Watcher) (tree : FileTree) (now : Nat)
    (happenings : List (Happening × Location)) : List Report × Watcher :=
  let notices := (happenings.filter fun (_, location) => watcher.covers location).map
    fun (happening, location) => (now, Notice.event happening [location.path])
  let (reports, debouncer) := watcher.debouncer.receiveAll tree.isDirectory notices
  (reports, { watcher with debouncer })

end Watcher

end ShaderAssembly

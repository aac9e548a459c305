import ShaderAssembly.FileTree.Basic

/-!
# Changing the file tree

Each operation either gives the changed tree or fails and changes nothing, with one exception:
creating a directory together with those above it keeps what it created before it failed. The place
that a path names need not exist yet, only the directory it lies in.
-/

namespace ShaderAssembly

namespace FileTree

/-- The place a path names: a name in an existing directory. -/
structure Place where
  parent : Location
  name : String
  /-- Whether the path ends with a slash. -/
  slash : Bool

def Place.location (place : Place) : Location := place.parent ++ [place.name]

/-- Whether the name of the place is a step and no name. -/
def Place.isStep (place : Place) : Bool := place.name == "." || place.name == ".."

/-- The place that a path names. -/
def place (tree : FileTree) (path : String) : Except FileError Place := do
  checkPath path
  match (Path.names path).getLast? with
  | none => .ok ⟨[], ".", true⟩
  | some last =>
    let here ← tree.walk [] (tree.origin path ++ (Path.names path).dropLast)
    if tree.node? here ≠ some .directory then .error .notADirectory
    else .ok ⟨here, last, Path.endsWithSlash path⟩

/-- What is at a place, if anything. No directory is asked for a name that is too long. -/
def nodeAt (tree : FileTree) (place : Place) : Except FileError (Option Node) :=
  if maxNameSize < place.name.utf8ByteSize then .error .nameTooLong
  else .ok (tree.node? place.location)

def put (tree : FileTree) (location : Location) (node : Node) : FileTree :=
  if (tree.nodes.lookup location).isSome then
    { tree with nodes := tree.nodes.map fun (l, n) => (l, if l = location then node else n) }
  else { tree with nodes := tree.nodes ++ [(location, node)] }

def erase (tree : FileTree) (location : Location) : FileTree :=
  { tree with nodes := tree.nodes.filter (·.1 != location) }

/-- Writes a whole file, which is created if there is none. -/
def write (tree : FileTree) (path : String) (content : Content) : Except FileError FileTree := do
  let place ← tree.place path
  if place.isStep || place.slash then .error .isADirectory
  else match ← tree.nodeAt place with
    | some .directory => .error .isADirectory
    | _ => .ok (tree.put place.location (.file content))

/-- Writes text at the end of an existing file. -/
def append (tree : FileTree) (path : String) (text : String) : Except FileError FileTree := do
  let location ← tree.resolve path
  match tree.node? location with
  | some (.file (.text before)) => .ok (tree.put location (.file (.text (before ++ text))))
  | some (.file (.bytes before)) =>
    .ok (tree.put location (.file (.ofBytes (⟨before.toArray⟩ ++ text.toUTF8))))
  | some .directory => .error .isADirectory
  | none => .error .notFound

def makeDirectory (tree : FileTree) (path : String) : Except FileError FileTree := do
  let place ← tree.place path
  if place.isStep then .error .alreadyExists
  else match ← tree.nodeAt place with
    | some _ => .error .alreadyExists
    | none => .ok (tree.put place.location .directory)

/-- Creates the first directory of the list; if it lies in none, the others are tried first, so the
list goes from a directory up. -/
def makeFirst (tree : FileTree) : List String → FileTree × Option FileError
  | [] => (tree, none)
  | path :: above =>
    match tree.makeDirectory path with
    | .ok made => (made, none)
    | .error .notFound =>
      match tree.makeFirst above with
      | (below, some e) => (below, some e)
      | (below, none) =>
        match below.makeDirectory path with
        | .ok made => (made, none)
        | .error e => (below, if below.isDirectory path then none else some e)
    | .error e => (tree, if tree.isDirectory path then none else some e)

/-- Creates a directory and those above it that are missing. -/
def makeDirectories (tree : FileTree) (path : String) : FileTree × Option FileError :=
  if path.isEmpty then (tree, none) else tree.makeFirst (Path.ancestors path)

def remove (tree : FileTree) (path : String) : Except FileError FileTree := do
  let place ← tree.place path
  if place.isStep then .error .isADirectory
  else match ← tree.nodeAt place with
    | none => .error .notFound
    | some .directory => .error .isADirectory
    | some (.file _) =>
      if place.slash then .error .notADirectory else .ok (tree.erase place.location)

/-- Moves everything at or below a location. -/
def move (tree : FileTree) (source target : Location) : FileTree :=
  let rest := tree.nodes.filter (·.1 != target)
  { tree with nodes := rest.map fun (l, n) =>
      if source.isPrefixOf l then (target ++ l.drop source.length, n) else (l, n) }

/-- Gives a file another place, where there is `there` now. -/
def renameFile (tree : FileTree) (source target : Place) (there : Option Node) :
    Except FileError FileTree :=
  if source.slash || target.slash then .error .notADirectory
  else if there = some .directory then
    .error (if target.location.isPrefixOf source.location then .directoryNotEmpty
      else .isADirectory)
  else if source.location = target.location then .ok tree
  else .ok (tree.move source.location target.location)

/-- Gives a directory another place, where there is `there` now. -/
def renameDirectory (tree : FileTree) (source target : Location) (there : Option Node) :
    Except FileError FileTree :=
  if source = target then .ok tree
  else if source.isPrefixOf target then .error .invalidMove
  else if target.isPrefixOf source then .error .directoryNotEmpty
  else match there with
    | some (.file _) => .error .notADirectory
    | some .directory =>
      if (tree.namesAt target).isEmpty then .ok (tree.move source target)
      else .error .directoryNotEmpty
    | none => .ok (tree.move source target)

/-- Gives a file or directory another place, replacing a file or an empty directory there. Both
places are found before either is looked at, and what is moved is looked at first. -/
def rename (tree : FileTree) (path newPath : String) : Except FileError FileTree := do
  let source ← tree.place path
  let target ← tree.place newPath
  if source.isStep || target.isStep then .error .busy
  else match ← tree.nodeAt source with
    | none => .error .notFound
    | some (.file _) => tree.renameFile source target (← tree.nodeAt target)
    | some .directory =>
      tree.renameDirectory source.location target.location (← tree.nodeAt target)

end FileTree

end ShaderAssembly

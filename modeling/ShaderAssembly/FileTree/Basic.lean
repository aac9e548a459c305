import ShaderAssembly.FileTree.Error
import ShaderAssembly.FileTree.Path

/-!
# The file tree

A file tree is a value: a working directory and the files and directories by their locations. A
path is followed from the root one name at a time, and each step asks that the place reached so far
is a directory; a dot stays there and two dots go up. So whatever a path leads to has only
directories above it, and the location it leads to is its canonical form.
-/

namespace ShaderAssembly

/-- What a file holds: text, or bytes that are no UTF-8 text. -/
inductive Content where
  | text (text : String)
  | bytes (bytes : List UInt8)
  deriving DecidableEq

def Content.ofBytes (bytes : ByteArray) : Content :=
  match String.fromUTF8? bytes with
  | some s => .text s
  | none => .bytes bytes.data.toList

inductive Node where
  | file (content : Content)
  | directory
  deriving DecidableEq

/-- Files and directories by location, and the directory where relative paths start. -/
structure FileTree where
  workingDir : String
  nodes : List (Location × Node)

namespace FileTree

def maxNameSize : Nat := 255

def maxPathSize : Nat := 4095

/-- What is at a location. The root is always a directory. -/
def node? (tree : FileTree) (location : Location) : Option Node :=
  if location = [] then some .directory else tree.nodes.lookup location

/-- Follows the names one by one from a location. -/
def walk (tree : FileTree) (here : Location) : List String → Except FileError Location
  | [] => .ok here
  | name :: rest =>
    match tree.node? here with
    | none => .error .notFound
    | some (.file _) => .error .notADirectory
    | some .directory =>
      if name = "." then tree.walk here rest
      else if name = ".." then tree.walk here.parent rest
      else if maxNameSize < name.utf8ByteSize then .error .nameTooLong
      else match tree.node? (here ++ [name]) with
        | none => .error .notFound
        | some _ => tree.walk (here ++ [name]) rest

def origin (tree : FileTree) (path : String) : List String :=
  if Path.isAbsolute path then [] else Path.steps tree.workingDir

def checkPath (path : String) : Except FileError Unit :=
  if path.toList.contains '\x00' then .error .nullInPath
  else if path.isEmpty then .error .notFound
  else if maxPathSize < path.utf8ByteSize then .error .nameTooLong
  else .ok ()

def resolve (tree : FileTree) (path : String) : Except FileError Location := do
  checkPath path
  tree.walk [] (tree.origin path ++ Path.steps path)

/-- The location a path leads to, if its own path is not too long. -/
def canonicalize (tree : FileTree) (path : String) : Except FileError Location := do
  let location ← tree.resolve path
  if maxPathSize < location.path.utf8ByteSize then .error .nameTooLong else .ok location

def find? (tree : FileTree) (path : String) : Option Node :=
  match tree.resolve path with
  | .ok location => tree.node? location
  | .error _ => none

def contains (tree : FileTree) (path : String) : Bool := (tree.find? path).isSome

def isFile (tree : FileTree) (path : String) : Bool :=
  match tree.find? path with
  | some (.file _) => true
  | _ => false

def isDirectory (tree : FileTree) (path : String) : Bool := tree.find? path == some .directory

def textAt (tree : FileTree) (location : Location) : Except FileError String :=
  match tree.node? location with
  | none => .error .notFound
  | some .directory => .error .isADirectory
  | some (.file (.bytes _)) => .error .notText
  | some (.file (.text text)) => .ok text

def readText (tree : FileTree) (path : String) : Except FileError String :=
  tree.resolve path >>= tree.textAt

/-- The names in the directory at a location, in the order of the tree. -/
def namesAt (tree : FileTree) (location : Location) : List String :=
  let names := tree.nodes.filterMap fun (l, _) =>
    if Location.parent l = location then l.getLast? else none
  names.eraseDups

def list (tree : FileTree) (path : String) : Except FileError (List String) := do
  let location ← tree.resolve path
  match tree.node? location with
  | some .directory => .ok (tree.namesAt location)
  | some (.file _) => .error .notADirectory
  | none => .error .notFound

/-- The locations of the tree, the root aside. -/
def locations (tree : FileTree) : List Location := tree.nodes.map (·.1)

theorem mem_locations_of_node? {tree : FileTree} {location : Location} {node : Node}
    (h : tree.node? location = some node) (hne : location ≠ []) :
    location ∈ tree.locations := by
  simp only [node?, hne, if_false] at h
  simp only [locations, List.mem_map]
  exact ⟨(location, node), List.lookup_eq_some_iff.1 h |>.elim fun l₁ h => by
    obtain ⟨l₂, hl, -⟩ := h; simp [hl], rfl⟩

end FileTree

end ShaderAssembly

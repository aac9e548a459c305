import ShaderAssembly.Text.Split

/-!
# Paths

A path is a text: names between slashes, absolute if it starts with one. Joining two paths is
textual and tidies nothing, so it can be undone by eye in a message. Two paths are *the same name*
if their components agree, which forgets doubled slashes, a slash at the end and a dot inside, but
not a dot at the start and not a step up. A *location* is where a path leads: the names from the
root down.

Since names are texts, all of them are UTF-8. A system may also know names that are not. The text of
a path with such a name has replacement characters in it and leads somewhere else, so what is said
of paths that are kept as texts is said of UTF-8 paths only.
-/

namespace ShaderAssembly

namespace Path

def isAbsolute (path : String) : Bool := path.toList.head? == some '/'

def names (path : String) : List String :=
  ((Text.splitAll '/' path.toList).filter (!·.isEmpty)).map String.ofList

def endsWithSlash (path : String) : Bool := path.toList.getLast? == some '/'

/-- The path of `file` seen from `dir`. An absolute `file` replaces `dir`. -/
def join (dir file : String) : String :=
  if isAbsolute file || dir.isEmpty then file
  else if endsWithSlash dir then dir ++ file
  else dir ++ "/" ++ file

/-- The names to follow. A slash at the end counts as one more dot, since it asks for a
directory. -/
def steps (path : String) : List String :=
  if endsWithSlash path then names path ++ ["."] else names path

/-- What decides whether two paths are the same name. -/
structure Components where
  absolute : Bool
  dotted : Bool
  names : List String
  deriving DecidableEq, Repr

def components (path : String) : Components :=
  { absolute := isAbsolute path
    dotted := !isAbsolute path && (names path).head? == some "."
    names := (names path).filter (· != ".") }

def same (a b : String) : Bool := components a == components b

/-- The path, then the paths of the directories above it as far as it names them, nearest first. -/
def ancestors (path : String) : List String :=
  let c := components path
  let lead := if c.absolute then "/" else if c.dotted then "./" else ""
  path :: ((List.range (c.names.length - 1)).map fun dropped =>
    lead ++ String.intercalate "/" (c.names.take (c.names.length - 1 - dropped)))

/-- The part of a file name after its last dot, unless that dot starts the name. -/
def extension? (name : String) : Option String :=
  if name = ".." then none
  else match (Text.splitAll '.' name.toList).reverse with
    | [] | [_] => none
    | [_, []] => none
    | ext :: _ => some (String.ofList ext)

end Path

/-- The names from the root down to a file or directory. -/
abbrev Location := List String

def Location.path (location : Location) : String := "/" ++ String.intercalate "/" location

/-- The location above; the root is above itself. -/
def Location.parent (location : Location) : Location := location.dropLast

end ShaderAssembly

import Std.Data.HashMap

/-!
# Extensions of a shader

A shader names each extension once, with the mode it wants it in. The list of extensions keeps the
order in which names were first mentioned; mentioning a name again changes its mode and leaves its
place. Beside the entries stands an index from names to places, so that a name is found without a
search.
-/

namespace ShaderAssembly

/-- How a shader uses an extension. -/
inductive ExtensionMode where
  | require
  | enable
  | warn
  | disable
  deriving DecidableEq, Repr, Inhabited

namespace ExtensionMode

def all : List ExtensionMode := [require, enable, warn, disable]

/-- The mode of an extension that is mentioned without one. -/
def standard : ExtensionMode := enable

def keyword : ExtensionMode → String
  | require => "require"
  | enable => "enable"
  | warn => "warn"
  | disable => "disable"

def ofKeyword? (word : String) : Option ExtensionMode := all.find? (·.keyword == word)

theorem ofKeyword?_keyword (mode : ExtensionMode) : ofKeyword? mode.keyword = some mode := by
  cases mode <;> decide

end ExtensionMode

/-- Extensions with their modes, in the order of first mention, and the place of each name. -/
structure ExtensionList where
  entries : Array (String × ExtensionMode)
  index : Std.HashMap String Nat

namespace ExtensionList

def empty : ExtensionList := ⟨#[], ∅⟩

/-- Mentions an extension: a new name goes to the end, a known one gets the new mode. -/
def upsert (list : ExtensionList) (name : String) (mode : ExtensionMode) : ExtensionList :=
  match list.index[name]? with
  | some place => { list with entries := list.entries.modify place fun (n, _) => (n, mode) }
  | none =>
    { entries := list.entries.push (name, mode)
      index := list.index.insert name list.entries.size }

def get? (list : ExtensionList) (name : String) : Option ExtensionMode :=
  list.index[name]?.bind fun place => list.entries[place]?.map (·.2)

def toList (list : ExtensionList) : List (String × ExtensionMode) := list.entries.toList

def upsertAll (list : ExtensionList) (mentions : List (String × ExtensionMode)) : ExtensionList :=
  mentions.foldl (fun l (name, mode) => l.upsert name mode) list

end ExtensionList

end ShaderAssembly

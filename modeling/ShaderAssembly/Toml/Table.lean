import ShaderAssembly.Toml.Value

/-!
# Adding to tables

A key with dots, or a header, names a path through tables. What is missing on the way is created;
what is there must be open to additions. A table in braces is never open. A table with a header of
its own cannot be reached by a key with dots, and a key with dots adds only to tables that such keys
made. A header may be given once for a table, but also after tables below it have had theirs. Every
header of an array of tables adds a table to it, and the last one is where paths go on.
-/

namespace ShaderAssembly.Toml

abbrev Entries := List (String × Value)

namespace Entries

/-- Changes the value of a key that is there. -/
def replace (entries : Entries) (key : String) (value : Value) : Entries :=
  entries.map fun (k, v) => if k = key then (k, value) else (k, v)

/-- Adds a value under a new key. -/
def add (entries : Entries) (key : String) (value : Value) : Option Entries :=
  match entries.lookup key with
  | none => some (entries ++ [(key, value)])
  | some _ => none

/-- Changes the table at the end of a path, whose form and entries the change is given. By a key
with dots, `byKey`, only tables that are open to such keys are passed. -/
def extend (byKey : Bool) (change : TableForm → Entries → Option Entries) :
    List String → TableForm → Entries → Option Entries
  | [], form, entries => change form entries
  | key :: path, _, entries =>
    match entries.lookup key with
    | none => do
      let form := if byKey then .dotted else .implied
      let sub ← extend byKey change path form []
      return entries ++ [(key, .table form sub)]
    | some (.table form sub) =>
      if form = .inline ∨ (byKey ∧ form = .header) then none
      else do
        let sub ← extend byKey change path form sub
        return entries.replace key (.table form sub)
    | some (.array .headers items) =>
      match items.getLast? with
      | some (.table form sub) => do
        let sub ← extend byKey change path form sub
        return entries.replace key (.array .headers (items.dropLast ++ [.table form sub]))
      | _ => none
    | some _ => none

/-- Adds a value under a path of keys. -/
def insert (path : List String) (key : String) (value : Value) (form : TableForm)
    (entries : Entries) : Option Entries :=
  extend true
    (fun form entries => if path.isEmpty ∨ form = .dotted then entries.add key value else none)
    path form entries

def openTable (key : String) (entries : Entries) : Option Entries :=
  match entries.lookup key with
  | none => some (entries ++ [(key, .table .header [])])
  | some (.table .implied sub) => some (entries.replace key (.table .header sub))
  | some _ => none

def openItem (key : String) (entries : Entries) : Option Entries :=
  match entries.lookup key with
  | none => some (entries ++ [(key, .array .headers [.table .header []])])
  | some (.array .headers items) =>
    some (entries.replace key (.array .headers (items ++ [.table .header []])))
  | some _ => none

/-- The entries that pairs of paths and values make, as in braces. -/
def ofPairs (pairs : List ((List String × String) × Value)) : Option Entries :=
  pairs.foldlM (fun entries ((path, key), value) => entries.insert path key value .inline) []

end Entries

end ShaderAssembly.Toml

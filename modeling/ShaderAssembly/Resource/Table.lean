import Std.Data.TreeMap

/-!
# The resource table

A table of texts by label. Registering a label again replaces its text, so every label stands in
the table once; the labels are listed in code point order.
-/

namespace ShaderAssembly

/-- Texts by label. -/
structure ResourceTable where
  entries : Std.TreeMap String String

namespace ResourceTable

def empty : ResourceTable := ⟨∅⟩

def insert (table : ResourceTable) (label text : String) : ResourceTable :=
  ⟨table.entries.insert label text⟩

def get? (table : ResourceTable) (label : String) : Option String := table.entries[label]?

def contains (table : ResourceTable) (label : String) : Bool := table.entries.contains label

/-- The registered labels, in order. -/
def labels (table : ResourceTable) : List String := table.entries.keys

def size (table : ResourceTable) : Nat := table.entries.size

def isEmpty (table : ResourceTable) : Bool := table.entries.isEmpty

def insertAll (table : ResourceTable) (texts : List (String × String)) : ResourceTable :=
  texts.foldl (fun t (label, text) => t.insert label text) table

theorem get?_insert (table : ResourceTable) (label text other : String) :
    (table.insert label text).get? other =
      if label = other then some text else table.get? other := by
  simp [get?, insert, Std.TreeMap.getElem?_insert]

theorem contains_insert_of_ne {table : ResourceTable} {label other : String} (h : label ≠ other)
    (text : String) : (table.insert label text).contains other = table.contains other := by
  simp [contains, insert, Std.TreeMap.contains_insert, h]

theorem size_insert (table : ResourceTable) (label text : String) :
    (table.insert label text).size
      = if table.contains label then table.size else table.size + 1 :=
  Std.TreeMap.size_insert

end ResourceTable

end ShaderAssembly

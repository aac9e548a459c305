import ShaderAssembly.Toml.Value

/-!
# Reading records from TOML values

A record is written as a table, whose unknown keys are ignored, or as an array of its fields in
their order, of which the last ones may be missing and more than enough are ignored. A date counts
as a table without any of the fields. A choice between words is written as a string, or as a table
with that word as its only key and nothing under it.
-/

namespace ShaderAssembly.Toml

/-- The values of a record by field. -/
abbrev Fields := String → Option Value

namespace Value

def text? : Value → Option String
  | .string s => some s
  | _ => none

def boolean? : Value → Option Bool
  | .boolean b => some b
  | _ => none

/-- The items of an array, each of which is read. -/
def list? {α : Type} (read : Value → Option α) : Value → Option (List α)
  | .array _ items => items.mapM read
  | _ => none

/-- The entries of a table, of which each value is read. -/
def dictionary? {α : Type} (read : Value → Option α) : Value → Option (List (String × α))
  | .table _ entries => entries.mapM fun (key, v) => (read v).map (key, ·)
  | _ => none

/-- Whether a value is a table or an array with nothing in it. -/
def isNothing : Value → Bool
  | .table _ entries => entries.isEmpty
  | .array _ items => items.isEmpty
  | _ => false

/-- The word of a choice. -/
def word? : Value → Option String
  | .string s => some s
  | .table _ [(key, v)] => if v.isNothing then some key else none
  | _ => none

/-- The fields of a record with the given field names. -/
def fields? (names : List String) : Value → Option Fields
  | .table _ entries => some fun name => entries.lookup name
  | .array _ items => some fun name => (names.zip items).lookup name
  | .datetime => some fun _ => none
  | _ => none

end Value

namespace Fields

/-- A field that may be missing. -/
def optional {α : Type} (fields : Fields) (name : String) (read : Value → Option α) :
    Option (Option α) :=
  match fields name with
  | none => some none
  | some v => (read v).map some

/-- A field with a value for when it is missing. -/
def withDefault {α : Type} (fields : Fields) (name : String) (default : α)
    (read : Value → Option α) : Option α :=
  (fields.optional name read).map (·.getD default)

/-- A field that may not be missing. -/
def required {α : Type} (fields : Fields) (name : String) (read : Value → Option α) : Option α :=
  fields name >>= read

end Fields

end ShaderAssembly.Toml

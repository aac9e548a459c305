import ShaderAssembly.Toml.Statement

/-!
# Reading a TOML document

The statements are carried out one after another on the table of the document. A header says which
table the keys after it go to. A document that breaks a rule anywhere has no value at all; which
rule it was is not said.
-/

namespace ShaderAssembly.Toml

/-- The table of the document so far, and the path of the last header. -/
structure Progress where
  entries : Entries
  current : List String

/-- Carries out a statement. -/
def Progress.step (progress : Progress) : Statement → Option Progress
  | .table (path, key) => do
    let entries ← progress.entries.extend false (fun _ e => e.openTable key) path .header
    return ⟨entries, path ++ [key]⟩
  | .item (path, key) => do
    let entries ← progress.entries.extend false (fun _ e => e.openItem key) path .header
    return ⟨entries, path ++ [key]⟩
  | .value (path, key) value => do
    let entries ← progress.entries.extend false
      (fun form e => e.insert path key value form) progress.current .header
    return ⟨entries, progress.current⟩

def Progress.run (statements : List Statement) : Option Progress :=
  statements.foldlM Progress.step ⟨[], []⟩

def parse? (text : String) : Option Value := do
  let (statements, _) ← Scanner.document text.toList
  let progress ← Progress.run statements
  return .table .header progress.entries

/-- The message for a document without a value. -/
def faultText : String := "<toml>"

end ShaderAssembly.Toml

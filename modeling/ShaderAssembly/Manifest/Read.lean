import ShaderAssembly.Config.Error
import ShaderAssembly.FileTree.Basic
import ShaderAssembly.Manifest.Basic
import ShaderAssembly.Toml.Fields

/-!
# Reading manifests

The sections of a manifest may all be missing. Only the name of a macro has to be there. Extensions
come from a table and are put in the order of their names, whichever way they were written down.
-/

namespace ShaderAssembly

open Toml

def Side.ofValue? (v : Value) : Option Side := do
  match ← v.word? with
  | "back" => some .back
  | "front" => some .front
  | _ => none

def ExtensionMode.ofValue? (v : Value) : Option ExtensionMode := v.word? >>= ofKeyword?

def MacroValue.ofValue? : Value → Option MacroValue
  | .integer i => some (.integer i)
  | .float x => some (.float x)
  | .boolean b => some (.boolean b)
  | .string s => some (.text s)
  | _ => none

def MacroEntry.ofValue? (v : Value) : Option MacroEntry := do
  let fields ← v.fields? ["name", "value", "location"]
  let name ← fields.required "name" Value.text?
  let value ← fields.withDefault "value" (.text "") MacroValue.ofValue?
  let side ← fields.withDefault "location" .back Side.ofValue?
  return { name, value, side }

def SourceEntry.ofValue? (v : Value) : Option SourceEntry := do
  let fields ← v.fields? ["file", "string", "resource", "location"]
  let file ← fields.optional "file" Value.text?
  let text ← fields.optional "string" Value.text?
  let resource ← fields.optional "resource" Value.text?
  let side ← fields.withDefault "location" .back Side.ofValue?
  return { file, text, resource, side }

/-- Extensions in the order of their names. -/
def sortedByName (extensions : List (String × ExtensionMode)) : List (String × ExtensionMode) :=
  extensions.mergeSort fun a b => a.1 ≤ b.1

namespace Manifest

def ofValue? (v : Value) : Option Manifest := do
  let fields ← v.fields?
    ["version", "pre_added_source", "libraries", "extensions", "macros", "undefs", "sources"]
  let version ← fields.optional "version" Value.text?
  let prelude ← fields.optional "pre_added_source" Value.boolean?
  let libraries ← fields.withDefault "libraries" [] (Value.list? Value.text?)
  let extensions ← fields.withDefault "extensions" [] (Value.dictionary? ExtensionMode.ofValue?)
  let macros ← fields.withDefault "macros" [] (Value.list? MacroEntry.ofValue?)
  let undefines ← fields.withDefault "undefs" [] (Value.list? Value.text?)
  let sources ← fields.withDefault "sources" [] (Value.list? SourceEntry.ofValue?)
  return { version, prelude, libraries, extensions := sortedByName extensions, macros, undefines,
           sources }

def parse? (text : String) : Option Manifest := Toml.parse? text >>= ofValue?

def load (tree : FileTree) (path : String) : Except SetupError Manifest := do
  let text ← (tree.readText path).mapError (.unreadable path)
  match parse? text with
  | some manifest => .ok manifest
  | none => .error (.malformed path)

end Manifest

end ShaderAssembly

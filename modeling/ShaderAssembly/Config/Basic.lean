import ShaderAssembly.Toml.Document
import ShaderAssembly.Toml.Fields

/-!
# The configuration

A configuration holds what manifests leave open, the version and whether the prelude is wanted, and
where files and resources are searched. Whatever is not stated has a fixed default.
-/

namespace ShaderAssembly

/-- What holds for manifests that do not say otherwise. -/
structure General where
  /-- The version of a shader whose manifest states none. -/
  defaultVersion : String := "330"
  prelude : Bool := true
  deriving DecidableEq, Repr

/-- Where files and resources are searched. -/
structure SearchPaths where
  /-- The directories for relative file names, in order. -/
  includeDirs : List String := []
  /-- The directories whose files become resources, in order. -/
  resourceDirs : List String := []
  deriving DecidableEq, Repr

structure Config where
  general : General := {}
  paths : SearchPaths := {}
  deriving DecidableEq, Repr

open Toml

def General.ofValue? (v : Value) : Option General := do
  let fields ← v.fields? ["default_version", "pre_added_source"]
  let defaultVersion ←
    fields.withDefault "default_version" ({} : General).defaultVersion Value.text?
  let prelude ← fields.withDefault "pre_added_source" ({} : General).prelude Value.boolean?
  return { defaultVersion, prelude }

def SearchPaths.ofValue? (v : Value) : Option SearchPaths := do
  let fields ← v.fields? ["include_dirs", "resource_dirs"]
  let includeDirs ← fields.withDefault "include_dirs" [] (Value.list? Value.text?)
  let resourceDirs ← fields.withDefault "resource_dirs" [] (Value.list? Value.text?)
  return { includeDirs, resourceDirs }

def Config.ofValue? (v : Value) : Option Config := do
  let fields ← v.fields? ["general", "paths"]
  let general ← fields.withDefault "general" {} General.ofValue?
  let paths ← fields.withDefault "paths" {} SearchPaths.ofValue?
  return { general, paths }

def Config.parse? (text : String) : Option Config := Toml.parse? text >>= Config.ofValue?

end ShaderAssembly

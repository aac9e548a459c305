import ShaderAssembly.Decimal.Notation
import ShaderAssembly.Shader.Extension
import ShaderAssembly.Shader.Macro

/-!
# Manifests

A manifest describes one shader: its version and prelude, the manifests it builds on, its
extensions, its macros and its sources. The value of a macro keeps its type, so that a float never
turns into an integer on its way into the shader.
-/

namespace ShaderAssembly

inductive MacroValue where
  | integer (value : Int)
  | float (value : Decimal.Binary64)
  | boolean (value : Bool)
  | text (value : String)
  deriving DecidableEq

/-- Floats from a ten-thousandth up to sixteen digits stand around a point; all others take an
exponent. -/
def floatFormat : Decimal.FloatFormat := ⟨-4, 16⟩

/-- The text that a macro is defined as. -/
def MacroValue.emitted : MacroValue → String
  | integer i => Decimal.integerText i
  | float x => Decimal.floatText floatFormat x
  | boolean b => if b then "true" else "false"
  | text s => s

/-- A macro as a manifest lists it. -/
structure MacroEntry where
  name : String
  value : MacroValue := .text ""
  side : Side := .back
  deriving DecidableEq

/-- A source as a manifest lists it. It is good only if it names exactly one thing. -/
structure SourceEntry where
  file : Option String := none
  text : Option String := none
  resource : Option String := none
  side : Side := .back
  deriving DecidableEq, Repr

structure Manifest where
  version : Option String := none
  prelude : Option Bool := none
  /-- The manifests it builds on, as paths from its own directory. -/
  libraries : List String := []
  /-- The extensions, in the order of their names. -/
  extensions : List (String × ExtensionMode) := []
  macros : List MacroEntry := []
  /-- The macros to remove after all others are added. -/
  undefines : List String := []
  sources : List SourceEntry := []
  deriving DecidableEq

end ShaderAssembly

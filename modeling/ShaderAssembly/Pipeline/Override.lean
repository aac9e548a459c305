import ShaderAssembly.Shader.Macro
import ShaderAssembly.Text.Blank
import ShaderAssembly.Text.Split

/-!
# Macro operations from the command line

A definition is given as a name, or as a name and a value with an equals sign between them; the
first equals sign counts. Blanks around a name or a value do not belong to it.
-/

namespace ShaderAssembly

namespace MacroOp

/-- The definition that a text asks for. -/
def ofDefinition (text : String) : MacroOp :=
  match Text.splitFirst '=' text.toList with
  | some (name, value) =>
    define (Text.trim (String.ofList name)) (Text.trim (String.ofList value))
  | none => define (Text.trim text) ""

/-- The removal of the macro that a text names. -/
def ofRemoval (text : String) : MacroOp := undefine (Text.trim text)

end MacroOp

end ShaderAssembly

import ShaderAssembly.Shader.Assembly

/-!
# Several shaders side by side

A workbench holds shaders by name; a name that was not used yet stands for a shader without content.
A step changes one shader, copies one over another, exchanges two, or asks for the code of one. Only
asking for remembered code, `code`, can change what a shader remembers; `assemble` leaves everything
as it is.
-/

namespace ShaderAssembly

abbrev Workbench := String → Shader

inductive Change where
  | clear
  | replaceByText (code : String)
  | setVersion (version : String)
  | addBlock (block : Block) (side : Side)
  | appendBody (other : String)
  | define (name value : String) (side : Side)
  | undefine (name : String)
  | setExtension (name : String) (mode : ExtensionMode)
  | setExtensionsOf (other : String)
  | dropPrelude

inductive Step where
  | change (name : String) (change : Change)
  | copy (source target : String)
  | swap (a b : String)
  | assemble (name : String) (resolver : Resolver)
  | code (name : String) (resolver : Resolver)

namespace Workbench

def empty : Workbench := fun _ => .empty

/-- The workbench with a shader under a name. -/
def put (bench : Workbench) (name : String) (shader : Shader) : Workbench :=
  fun n => if n = name then shader else bench n

/-- The shader under a name after a change. -/
def changed (bench : Workbench) (name : String) : Change → Shader
  | .clear => .empty
  | .replaceByText code => .ofText code
  | .setVersion version => (bench name).setVersion version
  | .addBlock block side => (bench name).addBlock block side
  | .appendBody other => (bench name).appendBody (bench other)
  | .define macroName value side => (bench name).define macroName value side
  | .undefine macroName => (bench name).undefine macroName
  | .setExtension extension mode => (bench name).setExtension extension mode
  | .setExtensionsOf other => (bench name).setExtensionsOf (bench other)
  | .dropPrelude => (bench name).dropPrelude

/-- The workbench after a step, and the answer if the step asks for code. -/
def step (bench : Workbench) : Step → Workbench × Option (Except AssemblyError String)
  | .change name change => (bench.put name (bench.changed name change), none)
  | .copy source target => (bench.put target (bench source), none)
  | .swap a b => ((bench.put a (bench b)).put b (bench a), none)
  | .assemble name resolver => (bench, some ((bench name).assemble resolver))
  | .code name resolver =>
    let (answer, shader) := (bench name).assembledCode resolver
    (bench.put name shader, some answer)

/-- The workbench after some steps, and the answers of those that ask for code. -/
def run (bench : Workbench) : List Step → Workbench × List (Except AssemblyError String)
  | [] => (bench, [])
  | s :: steps =>
    let (next, answer) := bench.step s
    let (last, answers) := run next steps
    (last, answer.toList ++ answers)

end Workbench

end ShaderAssembly

import ShaderAssembly.Config.Resolver
import ShaderAssembly.Manifest.Library
import ShaderAssembly.Shader.Assembly

/-!
# From a manifest to code

A pipeline is a manifest, a configuration and what the user wants changed. Running it sets up the
resolver, builds the shader, changes it and assembles it; the first step that fails says so. Nothing
but the file tree is read and nothing is written.
-/

namespace ShaderAssembly

/-- What the user wants changed in the shader of a manifest. -/
structure BuildOptions where
  version : Option String := none
  noPrelude : Bool := false
  /-- Macro operations after all those of the manifest, in order. -/
  macros : List MacroOp := []
  deriving DecidableEq, Repr

/-- A manifest with all that its assembly depends on, apart from files. -/
structure Pipeline where
  manifest : String
  config : Config
  options : BuildOptions

/-- The step of a pipeline that failed, and why. -/
inductive PipelineError where
  | noResolver (cause : SetupError)
  | notBuilt (manifest : String) (cause : SetupError)
  | notAssembled (manifest : String) (cause : AssemblyError)
  deriving DecidableEq, Repr

/-- What a run gives: the code, and the directories of the manifests it came from. -/
structure Assembly where
  code : String
  dirs : List Location
  deriving DecidableEq, Repr

/-- Adds one macro operation at the back. -/
def Shader.addMacro (shader : Shader) : MacroOp → Shader
  | .define name value => shader.define name value .back
  | .undefine name => shader.undefine name

/-- Makes the changes the user wants. -/
def BuildOptions.apply (options : BuildOptions) (shader : Shader) : Shader :=
  let shader := match options.version with
    | some version => shader.setVersion version
    | none => shader
  let shader := if options.noPrelude then shader.dropPrelude else shader
  options.macros.foldl Shader.addMacro shader

namespace PipelineError

open Text (quoted)

/-- The messages, from the step that failed down to the cause at the bottom. -/
def chain : PipelineError → List String
  | noResolver cause =>
    ["Failed to set up shader resolver", cause.message] ++
      cause.fileError?.toList.map FileError.message
  | notBuilt manifest cause =>
    ["Failed to build shader from " ++ quoted manifest, cause.message] ++
      cause.fileError?.toList.map FileError.message
  | notAssembled manifest cause =>
    ["Failed to assemble " ++ quoted manifest, cause.message] ++
      match cause with
      | .unresolvedFile _ e => [e.message]
      | .unresolvedResource _ => []

end PipelineError

namespace Pipeline

/-- The shader with the changes made, and the directories of its manifests. -/
def trackedShader (pipeline : Pipeline) (tree : FileTree) :
    Except PipelineError (Shader × List Location) :=
  match Manifest.buildTracked tree pipeline.manifest pipeline.config.general with
  | .error e => .error (.notBuilt pipeline.manifest e)
  | .ok (shader, dirs) => .ok (pipeline.options.apply shader, dirs)

def shader (pipeline : Pipeline) (tree : FileTree) : Except PipelineError Shader :=
  (pipeline.trackedShader tree).map (·.1)

def run (pipeline : Pipeline) (tree : FileTree) : Except PipelineError Assembly := do
  let resolver ← (pipeline.config.resolver tree).mapError .noResolver
  let (shader, dirs) ← pipeline.trackedShader tree
  let code ← (shader.assembledCode resolver).1.mapError (.notAssembled pipeline.manifest)
  return { code, dirs }

def assemble (pipeline : Pipeline) (tree : FileTree) : Except PipelineError String :=
  (pipeline.run tree).map Assembly.code

end Pipeline

end ShaderAssembly

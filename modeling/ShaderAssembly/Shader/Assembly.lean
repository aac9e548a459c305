import ShaderAssembly.Shader.Basic
import ShaderAssembly.Shader.Prelude
import ShaderAssembly.Text.Quoted

/-!
# Assembling a shader

The code of a shader is its header, which never fails, and then the text of each block with a line
break after it. The header states the version first, since a compiler wants it there, then brings
the prelude, the extensions and the macro operations. Assembly stops at the first block that cannot
be looked up and gives no code at all then.
-/

namespace ShaderAssembly

namespace AssemblyError

def message : AssemblyError → String
  | unresolvedFile path cause =>
    "Unresolved shader file " ++ Text.quoted path ++ ": " ++ cause.message
  | unresolvedResource label => "Unresolved shader resource: " ++ label

end AssemblyError

namespace Shader

/-- The line that states a version, if there is one. -/
def versionLines (version : String) : List String :=
  if version.isEmpty then [] else ["#version " ++ version]

def extensionDirective (name : String) (mode : ExtensionMode) : String :=
  "#extension " ++ name ++ ": " ++ mode.keyword

/-- Everything before the first block. -/
def header (shader : Shader) : String :=
  Text.ofLines (versionLines shader.version) ++
  (if shader.prelude then preludeText else "") ++
  Text.ofLines (shader.extensions.toList.map fun (name, mode) => extensionDirective name mode) ++
  Text.ofLines (shader.macros.map MacroOp.directive)

def assemble (shader : Shader) (resolver : Resolver) : Except AssemblyError String := do
  let texts ← shader.blocks.mapM (·.resolve resolver)
  return shader.header ++ Text.ofLines texts

/-- The code of a shader, which is assembled only if none is remembered, and the shader that
remembers it. -/
def assembledCode (shader : Shader) (resolver : Resolver) :
    Except AssemblyError String × Shader :=
  match shader.assembled with
  | some code => (.ok code, shader)
  | none =>
    match shader.assemble resolver with
    | .ok code => (.ok code, { shader with assembled := some code })
    | .error e => (.error e, shader)

end Shader

end ShaderAssembly

import ShaderAssembly.Config.Basic
import ShaderAssembly.Config.Error
import ShaderAssembly.FileTree.Basic
import ShaderAssembly.Manifest.Basic
import ShaderAssembly.Shader.Basic

/-!
# Applying a manifest to a shader

The sections of a manifest are added to a shader in a fixed order. Only the sources can be at fault;
the first bad one ends the work, and the shader keeps what it got before. A relative file name that
leads to a file from the directory of the manifest is replaced by the path of that file, so that it
is found there before anywhere else. The shader keeps the text of that path. This is the path itself
only if the path is UTF-8, as all paths are here: beside a manifest in a directory of another name,
the text would no longer lead to the file.
-/

namespace ShaderAssembly

/-- The text under which a source file enters the shader: that of the path of the file beside the
manifest, if there is one. The path is UTF-8, so nothing of it is lost. -/
def anchor (tree : FileTree) (dir file : String) : String :=
  if Path.isAbsolute file then file
  else if tree.isFile (Path.join dir file) then Path.join dir file
  else file

/-- The block a source entry describes. -/
def SourceEntry.block (entry : SourceEntry) : Except ManifestFault Block :=
  match entry.file, entry.text, entry.resource with
  | some file, none, none => .ok (.file file)
  | none, some text, none => .ok (.text text)
  | none, none, some resource => .ok (.resource resource)
  | none, none, none => .error .noSource
  | _, _, _ => .error .severalSources

def Block.anchored (tree : FileTree) (dir : String) : Block → Block
  | .file path => .file (anchor tree dir path)
  | block => block

namespace Manifest

/-- The version that a manifest gives a shader, if it or the defaults give one. -/
def effectiveVersion (manifest : Manifest) (defaults : Option General) : Option String :=
  manifest.version <|> defaults.map General.defaultVersion

/-- Whether the shader keeps its prelude, if the manifest or the defaults say so. -/
def effectivePrelude (manifest : Manifest) (defaults : Option General) : Option Bool :=
  manifest.prelude <|> defaults.map General.prelude

def applyHeader (manifest : Manifest) (shader : Shader) (defaults : Option General) : Shader :=
  let shader := match manifest.effectiveVersion defaults with
    | some version => shader.setVersion version
    | none => shader
  let shader :=
    if manifest.effectivePrelude defaults = some false then shader.dropPrelude else shader
  let shader := manifest.extensions.foldl (fun s (name, mode) => s.setExtension name mode) shader
  let shader := manifest.macros.foldl (fun s m => s.define m.name m.value.emitted m.side) shader
  manifest.undefines.foldl Shader.undefine shader

/-- Adds sources up to the first bad one. -/
def applySources (tree : FileTree) (dir : String) :
    List SourceEntry → Shader → Shader × Option ManifestFault
  | [], shader => (shader, none)
  | entry :: entries, shader =>
    match entry.block with
    | .error fault => (shader, some fault)
    | .ok block =>
      applySources tree dir entries (shader.addBlock (block.anchored tree dir) entry.side)

/-- Adds a manifest to a shader. The defaults are given for the outermost manifest only. -/
def apply (manifest : Manifest) (tree : FileTree) (dir : String) (defaults : Option General)
    (shader : Shader) : Shader × Option ManifestFault :=
  applySources tree dir manifest.sources (manifest.applyHeader shader defaults)

end Manifest

end ShaderAssembly

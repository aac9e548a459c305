import ShaderAssembly.Shader.Block
import ShaderAssembly.Shader.Extension
import ShaderAssembly.Shader.Macro

/-!
# Shaders under construction

A shader is put together section by section: its version, its extensions, its macro operations, its
blocks, and whether it starts with the prelude. It also remembers the code it was last assembled to.
Every change forgets that code, so remembered code always belongs to the present content.
-/

namespace ShaderAssembly

structure Shader where
  /-- The language version; empty if none is stated. -/
  version : String
  extensions : ExtensionList
  macros : List MacroOp
  blocks : List Block
  /-- Whether the code starts with the prelude. -/
  prelude : Bool
  /-- The code of the last assembly, if nothing changed since. -/
  assembled : Option String

namespace Shader

/-- A shader without content, but with the prelude. -/
def empty : Shader := ⟨"", .empty, [], [], true, none⟩

instance : Inhabited Shader := ⟨empty⟩

/-- States the language version; an empty one takes the statement back. -/
def setVersion (shader : Shader) (version : String) : Shader :=
  { shader with version := version, assembled := none }

def addBlock (shader : Shader) (block : Block) (side : Side) : Shader :=
  { shader with blocks := side.add block shader.blocks, assembled := none }

/-- Adds the definition of a macro at one end of the macro operations. -/
def define (shader : Shader) (name value : String) (side : Side) : Shader :=
  { shader with macros := side.add (.define name value) shader.macros, assembled := none }

def undefine (shader : Shader) (name : String) : Shader :=
  { shader with macros := shader.macros ++ [.undefine name], assembled := none }

/-- Adds the blocks and macro operations of another shader at the back. Its version, extensions and
prelude stay out. -/
def appendBody (shader other : Shader) : Shader :=
  { shader with
    blocks := shader.blocks ++ other.blocks
    macros := shader.macros ++ other.macros
    assembled := none }

def setExtension (shader : Shader) (name : String) (mode : ExtensionMode) : Shader :=
  { shader with extensions := shader.extensions.upsert name mode, assembled := none }

/-- Mentions every extension of another shader. -/
def setExtensionsOf (shader other : Shader) : Shader :=
  { shader with
    extensions := shader.extensions.upsertAll other.extensions.toList
    assembled := none }

/-- Leaves the prelude out for good. -/
def dropPrelude (shader : Shader) : Shader :=
  { shader with prelude := false, assembled := none }

def ofText (code : String) : Shader := empty.addBlock (.text code) .back

def extensionMode? (shader : Shader) (name : String) : Option ExtensionMode :=
  shader.extensions.get? name

/-- Whether no section has content. The prelude does not count. -/
def isEmpty (shader : Shader) : Bool :=
  shader.version.isEmpty && shader.extensions.entries.isEmpty && shader.macros.isEmpty &&
    shader.blocks.isEmpty

end Shader

end ShaderAssembly

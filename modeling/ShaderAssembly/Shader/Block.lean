import ShaderAssembly.FileTree.Error

/-!
# Source blocks

The body of a shader is a sequence of blocks: text given as such, the name of a file, or the label
of a resource. A name or a label is only looked up when the shader is assembled, through a resolver
that answers for files and for resources.
-/

namespace ShaderAssembly

inductive Block where
  | file (path : String)
  | text (code : String)
  | resource (label : String)
  deriving DecidableEq, Repr

/-- Where the text behind file names and resource labels comes from. -/
structure Resolver where
  fileText : String → Except FileError String
  resourceText : String → Option String

/-- The cause for which a shader cannot be assembled. -/
inductive AssemblyError where
  | unresolvedFile (path : String) (cause : FileError)
  | unresolvedResource (label : String)
  deriving DecidableEq, Repr

/-- The name or label that could not be looked up. -/
def AssemblyError.reference : AssemblyError → String
  | unresolvedFile path _ => path
  | unresolvedResource label => label

def Block.resolve (resolver : Resolver) : Block → Except AssemblyError String
  | file path => (resolver.fileText path).mapError (.unresolvedFile path)
  | text code => .ok code
  | resource label =>
    match resolver.resourceText label with
    | some code => .ok code
    | none => .error (.unresolvedResource label)

end ShaderAssembly

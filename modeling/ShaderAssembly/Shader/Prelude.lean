import ShaderAssembly.Text.Lines

/-!
# The prelude

Unless it is told not to, every shader starts with a few helpers for bit fields and a function that
does nothing. Labels and names that start with `sasm` are the tool's own.
-/

namespace ShaderAssembly

def preludeLines : List String :=
  ["uint sasm_mask(uint num_bits) \x7b return (uint(1) << num_bits) - uint(1); \x7d",
   "uint sasm_extract_bits(uint bit0, uint num_bits, uint src) \x7b",
   "    return (src >> bit0) & sasm_mask(num_bits);",
   "\x7d",
   "#define SASM_MASK(bit0, num_bits) (sasm_mask(uint(num_bits)) << uint(bit0))",
   "#define SASM_EXTRACT_BITS(bit0, num_bits, src) \\",
   "    sasm_extract_bits(uint(bit0), uint(num_bits), uint(src))",
   "void sasm_do_nothing(void) \x7b\x7d"]

def preludeText : String := Text.ofLines preludeLines

end ShaderAssembly

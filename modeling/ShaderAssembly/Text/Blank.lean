/-!
# Blank characters and trimming

The blanks are the twenty-five characters of the Unicode property `White_Space`. Trimming drops
them at both ends of a text and leaves the inside alone, so a trimmed text neither starts nor ends
with a blank and trimming it again changes nothing.
-/

namespace ShaderAssembly.Text

/-- The characters with the property `White_Space`, in code point order. -/
def blanks : List Char :=
  ['\t', '\n', '\x0b', '\x0c', '\r', ' ', '\u0085', '\u00a0', '\u1680',
   '\u2000', '\u2001', '\u2002', '\u2003', '\u2004', '\u2005', '\u2006', '\u2007', '\u2008',
   '\u2009', '\u200a', '\u2028', '\u2029', '\u202f', '\u205f', '\u3000']

def isBlank (c : Char) : Bool := blanks.contains c

/-- The characters left once the blanks at both ends are gone. -/
def trimChars (cs : List Char) : List Char :=
  ((cs.dropWhile isBlank).reverse.dropWhile isBlank).reverse

def trim (s : String) : String := String.ofList (trimChars s.toList)

end ShaderAssembly.Text

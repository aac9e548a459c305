import ShaderAssembly.Text.Shown

/-!
# Quoted text

Messages name a path in double quotes, so that its ends and every character of it can be seen. A
backslash and a double quote are escaped by a backslash, the null character, the tab and the two
line breaks by their letters, and any other character that cannot be shown by its number in
hexadecimal. All else stands as it is.
-/

namespace ShaderAssembly.Text

/-- The number of a character in lower case hexadecimal, in braces after a backslash and a `u`. -/
def numbered (c : Char) : List Char :=
  '\\' :: 'u' :: '\x7b' :: (Nat.toDigits 16 c.toNat ++ ['\x7d'])

/-- How one character stands inside quotes. -/
def quotedChar (c : Char) : List Char :=
  match c with
  | '\x00' => ['\\', '0']
  | '\t' => ['\\', 't']
  | '\n' => ['\\', 'n']
  | '\r' => ['\\', 'r']
  | '"' => ['\\', '"']
  | '\\' => ['\\', '\\']
  | c => if isShown c then [c] else numbered c

/-- The text in double quotes. -/
def quoted (s : String) : String :=
  String.ofList ('"' :: (s.toList.flatMap quotedChar ++ ['"']))

end ShaderAssembly.Text

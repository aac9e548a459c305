import ShaderAssembly.Toml.Scanner

/-!
# Strings of a TOML document

A string stands in double quotes, with escapes, or in single quotes, as it is; three quotes let it
go over several lines. A text over several lines drops a line break right after its first quotes,
and every line break in it counts as one character. Its last quotes may be preceded by one or two
that belong to the text.
-/

namespace ShaderAssembly.Toml

namespace Scanner

/-- Whether a character may stand for itself in double quotes. -/
def isBasicChar (c : Char) : Bool := isCommentChar c && c != '"' && c != '\\'

/-- Whether a character may stand in single quotes. -/
def isLiteralChar (c : Char) : Bool := isCommentChar c && c != '\''

def isHexDigit (c : Char) : Bool :=
  c.isDigit || ('a' ≤ c && c ≤ 'f') || ('A' ≤ c && c ≤ 'F')

/-- The value of a digit in a base up to sixteen. -/
def digitValue (c : Char) : Nat :=
  if c.isDigit then c.toNat - '0'.toNat
  else if 'a' ≤ c then c.toNat - 'a'.toNat + 10
  else c.toNat - 'A'.toNat + 10

def numberOf (base : Nat) (digits : List Char) : Nat :=
  digits.foldl (fun n c => n * base + digitValue c) 0

def charOfNumber (n : Nat) : Option Char := if n.isValidChar then some (Char.ofNat n) else none

/-- Takes the hexadecimal digits of a character. -/
def numberedChar (length : Nat) : Scanner Char := do
  let digits ← exactly length isHexDigit
  ofOption (charOfNumber (numberOf 16 digits))

def escape : Scanner Char := do
  char '\\'
  let c ← satisfying fun _ => true
  match c with
  | 'b' => return '\x08'
  | 't' => return '\t'
  | 'n' => return '\n'
  | 'f' => return '\x0c'
  | 'r' => return '\r'
  | '"' => return '"'
  | '\\' => return '\\'
  | 'u' => numberedChar 4
  | 'U' => numberedChar 8
  | _ => failure

/-- Takes an escaped line break with all blanks and line breaks around it. -/
def escapedBreak : Scanner Unit := do
  char '\\'
  blanks
  lineBreak
  let _ ← many ((do let _ ← satisfying fun c => c == ' ' || c == '\t') <|> lineBreak)

/-- Takes one or two quotes, if no third one follows. -/
def looseQuotes (quote : Char) : Scanner (List Char) := fun cs =>
  let quotes := cs.takeWhile (· == quote)
  if quotes.length = 1 ∨ quotes.length = 2 then some (quotes, cs.dropWhile (· == quote)) else none

/-- Takes the three quotes at the end of a text, and the one or two before them that belong to
it. -/
def lastQuotes (quote : Char) : Scanner (List Char) := fun cs =>
  let quotes := cs.takeWhile (· == quote)
  if quotes.length < 3 then none
  else
    let extra := min 2 (quotes.length - 3)
    some (List.replicate extra quote, cs.drop (extra + 3))

/-- Takes a line of text in double quotes. -/
def basicText : Scanner (List Char) := do
  char '"'
  let cs ← many (satisfying isBasicChar <|> escape)
  char '"'
  return cs

/-- Takes a line of text in single quotes. -/
def literalText : Scanner (List Char) := do
  char '\''
  let cs ← run isLiteralChar
  char '\''
  return cs

/-- Takes lines of text between threefold quotes, given what may stand there beside quotes. -/
def linesOfText (quote : Char) (piece : Scanner (List Char)) : Scanner (List Char) := do
  chars [quote, quote, quote]
  let _ ← optional lineBreak
  let pieces ← many (piece <|> looseQuotes quote)
  let extra ← lastQuotes quote
  return pieces.flatten ++ extra

/-- Takes lines of text in threefold double quotes. -/
def basicLines : Scanner (List Char) :=
  linesOfText '"' <|
    (do return [← satisfying isBasicChar]) <|> (do lineBreak; return ['\n']) <|>
      (do escapedBreak; return []) <|> (do return [← escape])

/-- Takes lines of text in threefold single quotes. -/
def literalLines : Scanner (List Char) :=
  linesOfText '\'' <|
    (do return [← satisfying isLiteralChar]) <|> (do lineBreak; return ['\n'])

def string : Scanner String :=
  String.ofList <$> (basicLines <|> basicText <|> literalLines <|> literalText)

/-- Takes a string on one line. -/
def lineString : Scanner String := String.ofList <$> (basicText <|> literalText)

end Scanner

end ShaderAssembly.Toml

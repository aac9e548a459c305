import ShaderAssembly.Toml.Datetime
import ShaderAssembly.Toml.Number
import ShaderAssembly.Toml.Table

/-!
# Statements of a TOML document

A document is a sequence of statements, each at the end of which a line ends: a header opens a table
or the next table of an array, and a key is given a value. Values may lie in each other, but not
deeper than a fixed number of levels, which is also what bounds the reading of them.
-/

namespace ShaderAssembly.Toml

/-- A path to a table, and a key in it. -/
abbrev KeyPath := List String × String

inductive Statement where
  | table (target : KeyPath)
  | item (target : KeyPath)
  | value (target : KeyPath) (value : Value)

/-- How many levels of arrays and tables in braces may lie in each other. -/
def maxDepth : Nat := 79

/-- How many parts a key may have. -/
def maxKeyParts : Nat := 79

namespace Scanner

/-- Whether a key without quotes may hold a character. -/
def isBareKeyChar (c : Char) : Bool := c.isAlphanum || c == '_' || c == '-'

def keyPart : Scanner String := lineString <|> String.ofList <$> run1 isBareKeyChar

/-- Takes a key with the blanks around and inside it. -/
def key : Scanner KeyPath := do
  let parts ← separated (do blanks; let part ← keyPart; blanks; return part) (char '.')
  require (parts.length ≤ maxKeyParts)
  let last ← ofOption parts.getLast?
  return (parts.dropLast, last)

def boolean : Scanner Bool :=
  (do chars ['t', 'r', 'u', 'e']; return true) <|>
    (do chars ['f', 'a', 'l', 's', 'e']; return false)

/-- Takes a value that has no parts. -/
def scalar : Scanner Value :=
  .string <$> string <|> (do datetime; return .datetime) <|> .float <$> float <|>
    .integer <$> integer <|> .boolean <$> boolean

def array (item : Scanner Value) : Scanner Value := do
  char '['
  let items ← separated (do space; let v ← item; space; return v) (char ',')
  let _ ← if items.isEmpty then pure none else optional (char ',')
  space
  char ']'
  return .array .inline items

def pair (item : Scanner Value) : Scanner (KeyPath × Value) := do
  let target ← key
  char '='
  blanks
  let v ← item
  return (target, v)

def inlineTable (item : Scanner Value) : Scanner Value := do
  char '\x7b'
  let pairs ← separated (do let p ← pair item; blanks; return p) (char ',')
  blanks
  char '\x7d'
  let entries ← ofOption (Entries.ofPairs pairs)
  return .table .inline entries

/-- Takes a value with at most so many levels in each other. -/
def value : Nat → Scanner Value
  | 0 => scalar
  | depth + 1 => scalar <|> array (value depth) <|> inlineTable (value depth)

def statement : Scanner Statement :=
  (do chars ['[', '[']; let target ← key; chars [']', ']']; lineRest; return .item target) <|>
  (do char '['; let target ← key; char ']'; lineRest; return .table target) <|>
  (do let (target, v) ← pair (value maxDepth); lineRest; return .value target v)

/-- Takes a line with nothing but a comment, or a statement. -/
def line : Scanner (Option Statement) := do
  blanks
  (do lineBreak; return none) <|> (do comment; lineEnd; return none) <|> some <$> statement

def document : Scanner (List Statement) := do
  let _ ← optional (char '\ufeff')
  let lines ← many line
  blanks
  atEnd
  return lines.reduceOption

end Scanner

end ShaderAssembly.Toml

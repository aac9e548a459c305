import ShaderAssembly.Text.Split

/-!
# Scanning

A scanner takes something from the front of a list of characters or fails, and failing takes
nothing. Repetition goes on while the repeated scanner succeeds and takes something, so it always
ends. The small scanners for blanks, line breaks and comments are here as well.
-/

namespace ShaderAssembly.Toml

/-- Takes something from the front of the characters that are left. -/
abbrev Scanner (α : Type) := StateT (List Char) Option α

namespace Scanner

def satisfying (p : Char → Bool) : Scanner Char
  | [] => none
  | c :: rest => if p c then some (c, rest) else none

def char (c : Char) : Scanner Unit := do
  let _ ← satisfying (· == c)

def chars : List Char → Scanner Unit
  | [] => pure ()
  | c :: cs => do char c; chars cs

/-- What repeated scanning takes from `cs`, and what it leaves. -/
def repeated {α : Type} (p : Scanner α) (cs : List Char) : List α × List Char :=
  match p cs with
  | none => ([], cs)
  | some (a, rest) =>
    if rest.length < cs.length then
      let (as, left) := repeated p rest
      (a :: as, left)
    else ([], cs)
termination_by cs.length

def many {α : Type} (p : Scanner α) : Scanner (List α) := fun cs => some (repeated p cs)

/-- Takes all characters of a class. -/
def run (p : Char → Bool) : Scanner (List Char) := fun cs => some (cs.takeWhile p, cs.dropWhile p)

/-- Takes all characters of a class, at least one. -/
def run1 (p : Char → Bool) : Scanner (List Char) := do
  let c ← satisfying p
  let cs ← run p
  return c :: cs

/-- Takes exactly so many characters of a class. -/
def exactly (n : Nat) (p : Char → Bool) : Scanner (List Char) := fun cs =>
  if n ≤ cs.length ∧ (cs.take n).all p then some (cs.take n, cs.drop n) else none

/-- Takes something if it is there. -/
def optional {α : Type} (p : Scanner α) : Scanner (Option α) := (some <$> p) <|> pure none

/-- Takes items with a separator between them, possibly none. -/
def separated {α : Type} (p : Scanner α) (sep : Scanner Unit) : Scanner (List α) :=
  (do
    let first ← p
    let others ← many (do sep; p)
    return first :: others) <|> pure []

/-- Succeeds where nothing is left. -/
def atEnd : Scanner Unit := fun cs => if cs.isEmpty then some ((), []) else none

/-- Keeps a result only if there is one. -/
def ofOption {α : Type} : Option α → Scanner α
  | some a => pure a
  | none => failure

/-- Succeeds if a condition holds. -/
def require (condition : Bool) : Scanner Unit := if condition then pure () else failure

def blanks : Scanner Unit := do
  let _ ← run fun c => c == ' ' || c == '\t'

/-- Takes a line break, of which there are two kinds. -/
def lineBreak : Scanner Unit := char '\n' <|> chars ['\r', '\n']

/-- Whether a comment may hold a character. -/
def isCommentChar (c : Char) : Bool := c == '\t' || (' ' ≤ c && c != '\x7f')

def comment : Scanner Unit := do
  char '#'
  let _ ← run isCommentChar

/-- Takes the end of a line, or finds the end of the document. -/
def lineEnd : Scanner Unit := lineBreak <|> atEnd

/-- Takes what may follow a statement on its line. -/
def lineRest : Scanner Unit := do
  blanks
  let _ ← optional comment
  lineEnd

def space : Scanner Unit := do
  let _ ← many ((do let _ ← satisfying fun c => c == ' ' || c == '\t') <|> lineBreak <|>
    (do comment; lineBreak))

end Scanner

end ShaderAssembly.Toml

import ShaderAssembly.Decimal.Binary64
import ShaderAssembly.Toml.Text

/-!
# Numbers of a TOML document

An integer has 64 bits and is written in base ten with a sign, or in base sixteen, eight or two
without one. A float has a fraction, an exponent or both, or is a named one. A single underscore may
stand between two digits.
-/

namespace ShaderAssembly.Toml

namespace Scanner

/-- The digits at the front, of which each but the first may follow an underscore. -/
def moreDigits (p : Char → Bool) : List Char → List Char × List Char
  | [] => ([], [])
  | '_' :: c :: rest =>
    if p c then
      let (digits, left) := moreDigits p rest
      (c :: digits, left)
    else ([], '_' :: c :: rest)
  | c :: rest =>
    if p c then
      let (digits, left) := moreDigits p rest
      (c :: digits, left)
    else ([], c :: rest)

def digits (p : Char → Bool) : Scanner (List Char) := do
  let first ← satisfying p
  let others ← fun cs => some (moreDigits p cs)
  return first :: others

/-- Takes a sign if there is one, and tells whether it is a minus. -/
def sign : Scanner Bool :=
  (do char '-'; return true) <|> (do char '+'; return false) <|> pure false

/-- Takes the digits of a decimal integer, which do not start with a zero unless it is the only
one. -/
def decimalDigits : Scanner (List Char) :=
  (do char '0'; return ['0']) <|> digits Char.isDigit

/-- The integer if it fits 64 bits. -/
def fitting (i : Int) : Option Int :=
  if -9223372036854775808 ≤ i ∧ i ≤ 9223372036854775807 then some i else none

def basedInteger (letter : Char) (base : Nat) (p : Char → Bool) : Scanner Int := do
  chars ['0', letter]
  let ds ← digits p
  ofOption (fitting (numberOf base ds))

def decimalInteger : Scanner Int := do
  let negative ← sign
  let n := numberOf 10 (← decimalDigits)
  ofOption (fitting (if negative then -(n : Int) else n))

def integer : Scanner Int :=
  basedInteger 'x' 16 isHexDigit <|> basedInteger 'o' 8 (fun c => '0' ≤ c && c ≤ '7') <|>
    basedInteger 'b' 2 (fun c => c == '0' || c == '1') <|> decimalInteger

def fraction : Scanner (List Char) := do
  char '.'
  digits Char.isDigit

def exponent : Scanner Int := do
  let _ ← satisfying fun c => c == 'e' || c == 'E'
  let negative ← sign
  let n := numberOf 10 (← digits Char.isDigit)
  return if negative then -(n : Int) else n

/-- Takes a float written by digits. One above the largest double is refused. -/
def decimalFloat : Scanner Decimal.Binary64 := do
  let negative ← sign
  let whole ← decimalDigits
  let (part, e) ← (do return ([], ← exponent)) <|>
    (do
      let part ← fraction
      let e ← optional exponent
      return (part, e.getD 0))
  let x := Decimal.Binary64.ofDecimal negative (numberOf 10 (whole ++ part)) (e - part.length)
  require (x != .infinite false)
  return x

/-- Takes a float that has a name. -/
def namedFloat : Scanner Decimal.Binary64 := do
  let negative ← sign
  (do chars ['i', 'n', 'f']; return .infinite negative) <|>
    (do chars ['n', 'a', 'n']; return .nan)

def float : Scanner Decimal.Binary64 := decimalFloat <|> namedFloat

end Scanner

end ShaderAssembly.Toml

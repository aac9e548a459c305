import ShaderAssembly.Decimal.Shortest

/-!
# Writing a double as text

A double is written by the digits of its shortest decimal. A format says between which powers of
ten they stand around a decimal point; all other numbers take an exponent. A number around a point
always has a digit on both sides of it, and an exponent follows an `e`, so no double is ever
written like an integer.
-/

namespace ShaderAssembly.Decimal

/-- The powers of ten from which, and below which, numbers are written without an exponent. -/
structure FloatFormat where
  positionalFrom : Int
  positionalBelow : Int

def digitsOf (n : Nat) : List Char := Nat.toDigits 10 n

/-- An integer: a minus if it is negative, then its digits. -/
def integerChars : Int → List Char
  | .ofNat n => digitsOf n
  | .negSucc n => '-' :: digitsOf (n + 1)

def integerText (i : Int) : String := String.ofList (integerChars i)

/-- Digits around a point, the first of them standing for `10 ^ power`. -/
def positional (digits : List Char) (power : Int) : List Char :=
  if power < 0 then
    '0' :: '.' :: (List.replicate (-power - 1).toNat '0' ++ digits)
  else
    let whole := power.toNat + 1
    if digits.length ≤ whole then
      digits ++ List.replicate (whole - digits.length) '0' ++ ['.', '0']
    else digits.take whole ++ '.' :: digits.drop whole

/-- One digit before the point, the others after it, and the power of ten. -/
def scientific (digits : List Char) (power : Int) : List Char :=
  let fraction := digits.drop 1
  digits.take 1 ++ (if fraction.isEmpty then [] else '.' :: fraction) ++ 'e' :: integerChars power

/-- The digits of a number without the zeros at its end, and the power of ten of the first one. -/
def leadingDigits (d : ShortDecimal) : List Char × Int :=
  let digits := digitsOf d.digits
  ((digits.reverse.dropWhile (· == '0')).reverse, d.exponent + digits.length - 1)

/-- A nonnegative finite double. -/
def magnitudeChars (format : FloatFormat) (significand : Nat) (exponent : Int) : List Char :=
  if significand = 0 then ['0', '.', '0']
  else
    let (digits, power) := leadingDigits (shortest significand exponent)
    if format.positionalFrom ≤ power ∧ power < format.positionalBelow then positional digits power
    else scientific digits power

/-- A double. The sign of a number that is none is not written. -/
def floatChars (format : FloatFormat) : Binary64 → List Char
  | .nan => ['N', 'a', 'N']
  | .infinite negative => (if negative then ['-'] else []) ++ ['i', 'n', 'f']
  | .finite negative significand exponent _ =>
    (if negative then ['-'] else []) ++ magnitudeChars format significand exponent

def floatText (format : FloatFormat) (x : Binary64) : String :=
  String.ofList (floatChars format x)

end ShaderAssembly.Decimal

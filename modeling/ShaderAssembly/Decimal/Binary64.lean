/-!
# Double-precision numbers

A finite double is a sign, a significand below `2 ^ 53` and an exponent of two that is at least
`-1074`. A decimal number is read as the double nearest to it, with a tie going to the even
significand; beyond the largest double it reads as infinity. The arithmetic is exact on natural
numbers, so nothing is lost on the way.
-/

namespace ShaderAssembly.Decimal

/-- The least exponent of two. -/
def minExponent : Int := -1074

def maxExponent : Int := 971

/-- Two to the power of 53, above all significands. -/
def significandBound : Nat := 9007199254740992

/-- A significand and an exponent that a double has: the significand fills its 53 bits unless the
exponent is already the least one. -/
def IsCanonical (significand : Nat) (exponent : Int) : Prop :=
  minExponent ≤ exponent ∧ exponent ≤ maxExponent ∧ significand < significandBound ∧
    (exponent = minExponent ∨ significandBound ≤ 2 * significand)

instance (significand : Nat) (exponent : Int) : Decidable (IsCanonical significand exponent) :=
  inferInstanceAs (Decidable (_ ∧ _ ∧ _ ∧ _))

/-- A double-precision number. A finite one has the value `± significand · 2 ^ exponent`. -/
inductive Binary64 where
  | nan
  | infinite (negative : Bool)
  | finite (negative : Bool) (significand : Nat) (exponent : Int)
      (canonical : IsCanonical significand exponent)
  deriving DecidableEq

/-- The quotient rounded to the nearest integer, a tie to the even one. -/
def divNearestEven (num den : Nat) : Nat :=
  let quotient := num / den
  let remainder := num % den
  if 2 * remainder < den then quotient
  else if den < 2 * remainder then quotient + 1
  else quotient + quotient % 2

/-- The significand of `num / den` at an exponent of two, rounded. -/
def significandAt (num den : Nat) (exponent : Int) : Nat :=
  divNearestEven (num * Nat.pow 2 (-exponent).toNat) (den * Nat.pow 2 exponent.toNat)

namespace Binary64

def zero (negative : Bool) : Binary64 := .finite negative 0 minExponent (by decide)

/-- The double nearest to `± num / den`. Comparing lengths in bits gives an exponent at which the
quotient has 53 or 54 bits. The exponent is raised by one when it has 54, and by one more when
rounding makes it longer again. -/
def nearest (negative : Bool) (num den : Nat) : Binary64 :=
  let least := max ((num.log2 : Int) - den.log2 - 53) minExponent
  let exponent :=
    if significandAt num den least < significandBound then least
    else if significandAt num den (least + 1) < significandBound then least + 1
    else least + 2
  if num = 0 then zero negative
  else if h : IsCanonical (significandAt num den exponent) exponent then
    .finite negative (significandAt num den exponent) exponent h
  else .infinite negative

/-- The double nearest to `± digits · 10 ^ exponent`. An exponent so large or so small that the
answer is plain is settled before any power is taken. -/
def ofDecimal (negative : Bool) (digits : Nat) (exponent : Int) : Binary64 :=
  if digits = 0 then zero negative
  else if 400 < exponent then .infinite negative
  else if exponent < -400 - digits.log2 then zero negative
  else nearest negative (digits * Nat.pow 10 exponent.toNat) (Nat.pow 10 (-exponent).toNat)

end Binary64

end ShaderAssembly.Decimal

import ShaderAssembly.Decimal.Binary64

/-!
# The shortest decimal that reads back

A double stands for all reals that round to it, an interval around its value. Its shortest decimal
is the one with the fewest digits inside that interval, and of several the nearest to the value, a
tie going up. On each grid of decimals only the two neighbours of the value matter: if any point of
the grid lies in the interval, so does one of them.
-/

namespace ShaderAssembly.Decimal

/-- A positive decimal number, `digits · 10 ^ exponent`. -/
structure ShortDecimal where
  digits : Nat
  exponent : Int
  deriving DecidableEq

/-- The greatest `p` with `10 ^ p ≤ num / den`. -/
def decimalExponent (num den : Nat) : Int :=
  if den ≤ num then (Nat.toDigits 10 (num / den)).length - 1
  else -(Nat.toDigits 10 ((den - 1) / num)).length

/-- The interval of reals that round to a double, scaled: its ends and the value are numerators
over `den`, and the ends belong to it iff the significand is even. -/
structure RoundingInterval where
  low : Nat
  value : Nat
  high : Nat
  den : Nat
  closed : Bool

/-- The interval around `significand · 2 ^ exponent`. Below a power of two the doubles lie twice as
dense, so there the lower end is a quarter away and not a half. -/
def RoundingInterval.around (significand : Nat) (exponent : Int) : RoundingInterval :=
  let scale := Nat.pow 2 exponent.toNat
  let down := if 2 * significand = significandBound ∧ minExponent < exponent then 1 else 2
  { low := (4 * significand - down) * scale
    value := 4 * significand * scale
    high := (4 * significand + 2) * scale
    den := 4 * Nat.pow 2 (-exponent).toNat
    closed := significand % 2 = 0 }

/-- Whether `digits · 10 ^ exponent` lies in the interval. -/
def RoundingInterval.contains (i : RoundingInterval) (digits : Nat) (exponent : Int) : Bool :=
  let point := digits * Nat.pow 10 exponent.toNat * i.den
  let unit := Nat.pow 10 (-exponent).toNat
  if i.closed then i.low * unit ≤ point && point ≤ i.high * unit
  else i.low * unit < point && point < i.high * unit

/-- The hit on the grid of `10 ^ exponent`, if there is one. -/
def RoundingInterval.hit? (i : RoundingInterval) (exponent : Int) : Option Nat :=
  let num := i.value * Nat.pow 10 (-exponent).toNat
  let den := i.den * Nat.pow 10 exponent.toNat
  let below := num / den
  match i.contains below exponent, i.contains (below + 1) exponent with
  | false, false => none
  | true, false => some below
  | false, true => some (below + 1)
  | true, true => some (if 2 * (num % den) < den then below else below + 1)

/-- The first hit among grids with more and more digits. -/
def RoundingInterval.search (i : RoundingInterval) : Nat → Int → ShortDecimal
  | 0, exponent =>
    ⟨i.value * Nat.pow 10 (-exponent).toNat / (i.den * Nat.pow 10 exponent.toNat), exponent⟩
  | more + 1, exponent =>
    match i.hit? exponent with
    | some digits => ⟨digits, exponent⟩
    | none => i.search more (exponent - 1)

/-- The shortest decimal of a positive double. Seventeen digits always suffice. -/
def shortest (significand : Nat) (exponent : Int) : ShortDecimal :=
  let i := RoundingInterval.around significand exponent
  i.search 17 (decimalExponent i.value i.den)

end ShaderAssembly.Decimal

import Mathlib.Algebra.Order.Field.Power
import Mathlib.Data.Rat.Cast.Order
import Mathlib.Tactic.FieldSimp
import Mathlib.Tactic.Linarith
import Mathlib.Tactic.Positivity
import Mathlib.Tactic.Ring
import ShaderAssembly.Proofs.Decimal.Digits

/-!
# Where a double takes an exponent

Whether a double is written around a point is decided by the first digit of its shortest decimal,
and that decimal is not the double itself. It may lie above it, by less than half a unit, and might
so reach a power of ten that the double does not. Two facts settle when it does. The decimal never
falls below a power of ten that the double reaches, because the grids that are searched hold that
power. And neither bound of the format lies in the upper half of the interval around a double below
it.
-/

namespace ShaderAssembly.Decimal

/-- The value of a finite double without its sign. -/
def magnitude (significand : Nat) (exponent : Int) : ℚ := significand * 2 ^ exponent

def ShortDecimal.value (d : ShortDecimal) : ℚ := d.digits * 10 ^ d.exponent

/-- A power whose exponent is split into a numerator and a denominator. -/
theorem pow_toNat_div_pow_toNat (b : ℚ) (e : Int) :
    b ^ e.toNat / b ^ (-e).toNat = b ^ e := by
  obtain ⟨n, rfl | rfl⟩ := e.eq_nat_or_neg
  · simp
  · simp

/-! ### The power of ten that a quotient reaches -/

theorem pow_decimalExponent_le {num den : Nat} (hnum : 0 < num) (hden : 0 < den) :
    (10 : ℚ) ^ decimalExponent num den ≤ num / den := by
  have hden' : (0 : ℚ) < den := by exact_mod_cast hden
  rw [decimalExponent]
  split
  · rename_i hle
    have hwhole : 10 ^ ((digitsOf (num / den)).length - 1) ≤ num / den :=
      pow_length_digitsOf_le (Nat.div_pos hle hden)
    have hlength := length_digitsOf_pos (num / den)
    have hexponent : ((digitsOf (num / den)).length : Int) - 1
        = ((digitsOf (num / den)).length - 1 : Nat) := by omega
    change (10 : ℚ) ^ (((digitsOf (num / den)).length : Int) - 1) ≤ num / den
    rw [hexponent, zpow_natCast, le_div_iff₀ hden']
    exact_mod_cast (Nat.le_div_iff_mul_le hden).1 hwhole
  · have hbelow : (den - 1) / num < 10 ^ (digitsOf ((den - 1) / num)).length :=
      lt_pow_length_digitsOf _
    rw [zpow_neg, zpow_natCast, inv_le_iff_one_le_mul₀ (by positivity), div_mul_eq_mul_div,
      one_le_div hden']
    have hreach : den - 1 < 10 ^ (digitsOf ((den - 1) / num)).length * num :=
      (Nat.div_lt_iff_lt_mul hnum).1 hbelow
    have hreach : den ≤ num * 10 ^ (digitsOf ((den - 1) / num)).length := by
      rw [Nat.mul_comm]
      omega
    exact_mod_cast hreach

namespace RoundingInterval

/-! ### The neighbours of the value on a grid -/

/-- The last point of the grid that is not above the value. -/
def below (i : RoundingInterval) (exponent : Int) : Nat :=
  i.value * Nat.pow 10 (-exponent).toNat / (i.den * Nat.pow 10 exponent.toNat)

/-- A decimal that is one of the neighbours of the value on its grid, the upper one only if the
interval reaches it. -/
def IsNeighbour (i : RoundingInterval) (d : ShortDecimal) : Prop :=
  d.digits = i.below d.exponent ∨
    d.digits = i.below d.exponent + 1 ∧ d.value ≤ i.high / i.den

variable {i : RoundingInterval}

theorem below_spec (hden : 0 < i.den) (exponent : Int) :
    (i.below exponent : ℚ) * 10 ^ exponent ≤ i.value / i.den ∧
      (i.value : ℚ) / i.den < (i.below exponent + 1) * 10 ^ exponent := by
  have hunit : 0 < i.den * 10 ^ exponent.toNat := by positivity
  have hle : i.below exponent * (i.den * 10 ^ exponent.toNat)
      ≤ i.value * 10 ^ (-exponent).toNat := Nat.div_mul_le_self _ _
  have hlt : i.value * 10 ^ (-exponent).toNat
      < (i.below exponent + 1) * (i.den * 10 ^ exponent.toNat) := by
    rw [Nat.mul_comm (i.below exponent + 1)]
    exact Nat.lt_mul_div_succ _ hunit
  have hden' : (0 : ℚ) < i.den := by exact_mod_cast hden
  rw [← pow_toNat_div_pow_toNat 10 exponent, mul_div_assoc', mul_div_assoc',
    div_le_div_iff₀ (by positivity) hden', div_lt_div_iff₀ hden' (by positivity)]
  constructor
  · calc (i.below exponent : ℚ) * 10 ^ exponent.toNat * i.den
        = i.below exponent * (i.den * 10 ^ exponent.toNat) := by ring
      _ ≤ i.value * 10 ^ (-exponent).toNat := by exact_mod_cast hle
  · calc (i.value : ℚ) * 10 ^ (-exponent).toNat
        < (i.below exponent + 1) * (i.den * 10 ^ exponent.toNat) := by exact_mod_cast hlt
      _ = (i.below exponent + 1) * 10 ^ exponent.toNat * i.den := by ring

theorem value_le_of_contains (hden : 0 < i.den) {digits : Nat} {exponent : Int}
    (h : i.contains digits exponent = true) :
    (ShortDecimal.mk digits exponent).value ≤ i.high / i.den := by
  have hpoint : digits * 10 ^ exponent.toNat * i.den ≤ i.high * 10 ^ (-exponent).toNat := by
    rw [contains] at h
    split at h
    · simp only [Bool.and_eq_true, decide_eq_true_eq] at h
      exact h.2
    · simp only [Bool.and_eq_true, decide_eq_true_eq] at h
      exact h.2.le
  have hden' : (0 : ℚ) < i.den := by exact_mod_cast hden
  rw [ShortDecimal.value, ← pow_toNat_div_pow_toNat 10 exponent,
    mul_div_assoc', div_le_div_iff₀ (by positivity) hden']
  exact_mod_cast hpoint

theorem isNeighbour_of_hit? (hden : 0 < i.den) {exponent : Int} {digits : Nat}
    (h : i.hit? exponent = some digits) : i.IsNeighbour ⟨digits, exponent⟩ := by
  have hupper (habove : i.contains (i.below exponent + 1) exponent = true)
      (hdigits : i.below exponent + 1 = digits) : i.IsNeighbour ⟨digits, exponent⟩ := by
    subst hdigits
    exact .inr ⟨rfl, value_le_of_contains hden habove⟩
  rw [hit?] at h
  split at h
  · cases h
  · exact .inl (Option.some.inj h).symm
  · rename_i habove
    exact hupper habove (Option.some.inj h)
  · rename_i habove
    have h := Option.some.inj h
    split at h
    · exact .inl h.symm
    · exact hupper habove h

/-- The search only goes to finer grids, and what it ends with is a neighbour of the value. -/
theorem search_spec (hden : 0 < i.den) (more : Nat) (exponent : Int) :
    (i.search more exponent).exponent ≤ exponent ∧ i.IsNeighbour (i.search more exponent) := by
  induction more generalizing exponent with
  | zero => exact ⟨le_rfl, .inl rfl⟩
  | succ more ih =>
      rw [search]
      split
      · rename_i digits hhit
        exact ⟨le_rfl, isNeighbour_of_hit? hden hhit⟩
      · obtain ⟨hle, hneighbour⟩ := ih (exponent - 1)
        exact ⟨by omega, hneighbour⟩

/-- A power of ten that the value reaches is a point of every finer grid, so no neighbour falls
below it. -/
theorem IsNeighbour.pow_le (hden : 0 < i.den) {d : ShortDecimal} (h : i.IsNeighbour d) {p : Int}
    (hgrid : d.exponent ≤ p) (hp : (10 : ℚ) ^ p ≤ i.value / i.den) : 10 ^ p ≤ d.value := by
  obtain ⟨k, rfl⟩ := Int.le.dest hgrid
  have hunit : (0 : ℚ) < 10 ^ d.exponent := by positivity
  have hpoint : (10 : ℚ) ^ (d.exponent + k) = (10 ^ k : Nat) * 10 ^ d.exponent := by
    rw [zpow_add₀ (by norm_num), zpow_natCast, mul_comm]
    push_cast
    rfl
  rw [hpoint] at hp ⊢
  have hlt := hp.trans_lt (below_spec hden d.exponent).2
  have hlt : 10 ^ k < i.below d.exponent + 1 := by
    exact_mod_cast lt_of_mul_lt_mul_right hlt hunit.le
  have hle : 10 ^ k ≤ d.digits := by
    rcases h with heq | ⟨heq, -⟩ <;> omega
  exact mul_le_mul_of_nonneg_right (by exact_mod_cast hle) hunit.le

theorem IsNeighbour.le_high (hden : 0 < i.den) {d : ShortDecimal} (h : i.IsNeighbour d)
    (hvalue : i.value ≤ i.high) : d.value ≤ i.high / i.den := by
  rcases h with heq | ⟨-, hle⟩
  · rw [ShortDecimal.value, heq]
    exact (below_spec hden d.exponent).1.trans (by gcongr)
  · exact hle

end RoundingInterval

/-! ### The shortest decimal -/

section Shortest

open RoundingInterval

variable (significand : Nat) (exponent : Int)

theorem around_den_pos : 0 < (around significand exponent).den :=
  Nat.mul_pos (by decide) (Nat.pow_pos (by decide))

theorem around_value_div_den :
    ((around significand exponent).value : ℚ) / (around significand exponent).den
      = magnitude significand exponent := by
  rw [magnitude, ← pow_toNat_div_pow_toNat 2 exponent]
  simp only [around, Nat.pow_eq]
  push_cast
  field_simp

theorem around_high_div_den :
    ((around significand exponent).high : ℚ) / (around significand exponent).den
      = (significand + 1 / 2) * 2 ^ exponent := by
  rw [← pow_toNat_div_pow_toNat 2 exponent]
  simp only [around, Nat.pow_eq]
  push_cast
  field_simp
  ring

theorem around_value_le_high :
    (around significand exponent).value ≤ (around significand exponent).high :=
  Nat.mul_le_mul_right _ (Nat.le_add_right _ _)

/-- The power of ten whose grid is searched first. -/
def firstGrid : Int :=
  decimalExponent (around significand exponent).value (around significand exponent).den

theorem shortest_spec :
    (shortest significand exponent).exponent ≤ firstGrid significand exponent ∧
      (around significand exponent).IsNeighbour (shortest significand exponent) :=
  search_spec (around_den_pos significand exponent) 17 _

variable {significand exponent}

theorem pow_firstGrid_le (hpos : 0 < significand) :
    10 ^ firstGrid significand exponent ≤ magnitude significand exponent := by
  have hvalue : 0 < (around significand exponent).value :=
    Nat.mul_pos (Nat.mul_pos (by decide) hpos) (Nat.pow_pos (by decide))
  rw [← around_value_div_den]
  exact pow_decimalExponent_le hvalue (around_den_pos significand exponent)

theorem shortest_le :
    (shortest significand exponent).value ≤ (significand + 1 / 2) * 2 ^ exponent := by
  rw [← around_high_div_den]
  exact (shortest_spec significand exponent).2.le_high (around_den_pos significand exponent)
    (around_value_le_high significand exponent)

theorem pow_le_shortest (hpos : 0 < significand) {p : Int}
    (hp : 10 ^ p ≤ magnitude significand exponent) :
    10 ^ p ≤ (shortest significand exponent).value := by
  have hden := around_den_pos significand exponent
  obtain ⟨hgrid, hneighbour⟩ := shortest_spec significand exponent
  have hfirst : 10 ^ firstGrid significand exponent ≤ magnitude significand exponent :=
    pow_firstGrid_le hpos
  rw [← around_value_div_den] at hp hfirst
  rcases le_total (shortest significand exponent).exponent p with hfine | hcoarse
  · exact hneighbour.pow_le hden hfine hp
  · -- A power below the grid that was reached gives way to the unit of that grid.
    have hunit := (zpow_le_zpow_right₀ (by norm_num) hgrid).trans hfirst
    calc (10 : ℚ) ^ p ≤ 10 ^ (shortest significand exponent).exponent :=
          zpow_le_zpow_right₀ (by norm_num) hcoarse
      _ ≤ (shortest significand exponent).value := hneighbour.pow_le hden le_rfl hunit

theorem digits_shortest_pos (hpos : 0 < significand) :
    0 < (shortest significand exponent).digits := by
  have hvalue : 0 < (shortest significand exponent).value :=
    (zpow_pos (by norm_num) _).trans_le (pow_le_shortest hpos (pow_firstGrid_le hpos))
  exact_mod_cast pos_of_mul_pos_left hvalue (by positivity)

end Shortest

/-! ### The power of ten of the first digit -/

theorem le_power_iff {d : ShortDecimal} (hpos : 0 < d.digits) (p : Int) :
    p ≤ (leadingDigits d).2 ↔ 10 ^ p ≤ d.value := by
  have hlength := length_digitsOf_pos d.digits
  have hpower : (leadingDigits d).2 = ((digitsOf d.digits).length - 1 : Nat) + d.exponent := by
    rw [leadingDigits]
    omega
  have hunit : (0 : ℚ) < 10 ^ d.exponent := by positivity
  constructor
  · intro hp
    calc (10 : ℚ) ^ p ≤ 10 ^ (leadingDigits d).2 := zpow_le_zpow_right₀ (by norm_num) hp
      _ = 10 ^ ((digitsOf d.digits).length - 1) * 10 ^ d.exponent := by
          rw [hpower, zpow_add₀ (by norm_num), zpow_natCast]
      _ ≤ d.digits * 10 ^ d.exponent :=
          mul_le_mul_of_nonneg_right (by exact_mod_cast pow_length_digitsOf_le hpos) hunit.le
  · intro hp
    by_contra hlt
    have hnext : (digitsOf d.digits).length + d.exponent ≤ p := by omega
    refine absurd hp (not_le.2 ?_)
    calc (d.digits * 10 ^ d.exponent : ℚ)
        < 10 ^ (digitsOf d.digits).length * 10 ^ d.exponent :=
          mul_lt_mul_of_pos_right (by exact_mod_cast lt_pow_length_digitsOf d.digits) hunit
      _ = 10 ^ ((digitsOf d.digits).length + d.exponent : Int) := by
          rw [zpow_add₀ (by norm_num), zpow_natCast]
      _ ≤ 10 ^ p := zpow_le_zpow_right₀ (by norm_num) hnext

variable {significand : Nat} {exponent : Int}

/-- The first digit stands for a power of ten that the double reaches, unless the power lies in the
upper half of the interval around the double. -/
theorem le_power_shortest_iff (hpos : 0 < significand) {p : Int}
    (hapart : magnitude significand exponent < 10 ^ p →
      ((significand : ℚ) + 1 / 2) * 2 ^ exponent < 10 ^ p) :
    p ≤ (leadingDigits (shortest significand exponent)).2 ↔
      10 ^ p ≤ magnitude significand exponent := by
  rw [le_power_iff (digits_shortest_pos hpos)]
  refine ⟨fun hp => ?_, pow_le_shortest hpos⟩
  by_contra hlt
  exact absurd (hp.trans shortest_le) (not_le.2 (hapart (not_le.1 hlt)))

/-! ### Doubles beside a power of ten -/

theorem le_magnitude (h : IsCanonical significand exponent) {least : Int}
    (hleast : minExponent < least) (hle : least ≤ exponent) :
    (4503599627370496 : ℚ) * 2 ^ least ≤ magnitude significand exponent := by
  obtain ⟨-, -, -, hfull⟩ := h
  have hfull : 4503599627370496 ≤ significand := by
    rcases hfull with heq | hfull
    · omega
    · rw [significandBound] at hfull
      omega
  exact mul_le_mul (by exact_mod_cast hfull) (zpow_le_zpow_right₀ (by norm_num) hle)
    (by positivity) (by positivity)

theorem half_above_lt (h : IsCanonical significand exponent) {greatest : Int}
    (hle : exponent ≤ greatest) :
    ((significand : ℚ) + 1 / 2) * 2 ^ exponent < 9007199254740992 * 2 ^ greatest := by
  obtain ⟨-, -, hbound, -⟩ := h
  have hbound : (significand : ℚ) + 1 ≤ 9007199254740992 := by exact_mod_cast hbound
  calc ((significand : ℚ) + 1 / 2) * 2 ^ exponent
      < 9007199254740992 * 2 ^ exponent :=
        mul_lt_mul_of_pos_right (by linarith) (by positivity)
    _ ≤ 9007199254740992 * 2 ^ greatest :=
        mul_le_mul_of_nonneg_left (zpow_le_zpow_right₀ (by norm_num) hle) (by norm_num)

/-- Below this power the doubles are at most two apart, and it is itself a double. -/
theorem half_above_lt_pow_sixteen (h : IsCanonical significand exponent)
    (hlt : magnitude significand exponent < 10 ^ (16 : Int)) :
    ((significand : ℚ) + 1 / 2) * 2 ^ exponent < 10 ^ (16 : Int) := by
  rcases lt_trichotomy exponent 1 with hsmall | rfl | hlarge
  · have hbound := half_above_lt h (show exponent ≤ 0 by omega)
    norm_num at hbound ⊢
    linarith
  · rw [magnitude] at hlt
    norm_num at hlt ⊢
    have hlt : significand * 2 < 10000000000000000 := by exact_mod_cast hlt
    have hle : significand + 1 ≤ 5000000000000000 := by omega
    have hle : (significand : ℚ) + 1 ≤ 5000000000000000 := by exact_mod_cast hle
    linarith
  · have hreached := le_magnitude h (show minExponent < 2 by decide) hlarge
    norm_num at hreached hlt
    linarith

/-- This power is no double, but is nearer to the double above it than to the one below. -/
theorem half_above_lt_pow_neg_four (h : IsCanonical significand exponent)
    (hlt : magnitude significand exponent < 10 ^ (-4 : Int)) :
    ((significand : ℚ) + 1 / 2) * 2 ^ exponent < 10 ^ (-4 : Int) := by
  rcases lt_trichotomy exponent (-66) with hsmall | rfl | hlarge
  · have hbound := half_above_lt h (show exponent ≤ -67 by omega)
    norm_num at hbound ⊢
    linarith
  · rw [magnitude] at hlt
    norm_num at hlt ⊢
    have hlt : (significand : ℚ) * 10000 < 73786976294838206464 := by linarith
    have hlt : significand * 10000 < 73786976294838206464 := by exact_mod_cast hlt
    have hle : significand ≤ 7378697629483820 := by omega
    have hle : (significand : ℚ) ≤ 7378697629483820 := by exact_mod_cast hle
    linarith
  · have hreached := le_magnitude h (show minExponent < -65 by decide)
      (show -65 ≤ exponent by omega)
    norm_num at hreached hlt
    linarith

end ShaderAssembly.Decimal

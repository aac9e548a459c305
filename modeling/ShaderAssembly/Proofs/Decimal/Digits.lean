import ShaderAssembly.Decimal.Notation
import Mathlib.Data.List.Basic
import Mathlib.Tactic.IntervalCases

/-!
# Decimal digits

A number has one list of digits, from which it can be read back. The list is never empty, starts
with a zero only for zero itself, and is as long as the power of ten that the number reaches.
-/

namespace ShaderAssembly.Decimal

def AllDigits (cs : List Char) : Prop := ∀ c ∈ cs, c.isDigit = true

instance (cs : List Char) : Decidable (AllDigits cs) := List.decidableBAll _ cs

theorem AllDigits.append {cs cs' : List Char} (h : AllDigits cs) (h' : AllDigits cs') :
    AllDigits (cs ++ cs') := fun c hc => (List.mem_append.1 hc).elim (h c) (h' c)

theorem allDigits_replicate_zero (n : Nat) : AllDigits (List.replicate n '0') := fun c hc => by
  rw [List.eq_of_mem_replicate hc]
  rfl

theorem AllDigits.take {cs : List Char} (h : AllDigits cs) (n : Nat) : AllDigits (cs.take n) :=
  fun c hc => h c (List.mem_of_mem_take hc)

theorem AllDigits.drop {cs : List Char} (h : AllDigits cs) (n : Nat) : AllDigits (cs.drop n) :=
  fun c hc => h c (List.mem_of_mem_drop hc)

/-- At least one digit, and a zero at the front only if it is all there is. -/
structure IsCanonicalNumeral (cs : List Char) : Prop where
  nonempty : cs ≠ []
  digits : AllDigits cs
  leading : cs.head? = some '0' → cs = ['0']

/-- The number is read back from its digits. -/
theorem ofDigitChars_digitsOf (n : Nat) : Nat.ofDigitChars 10 (digitsOf n) 0 = n :=
  Nat.ofDigitChars_ten_toDigits

theorem digitsOf_injective : Function.Injective digitsOf := by
  intro m n h
  rw [← ofDigitChars_digitsOf m, h, ofDigitChars_digitsOf]

theorem allDigits_digitsOf (n : Nat) : AllDigits (digitsOf n) := fun _ h =>
  Nat.isDigit_of_mem_toDigits (by decide) (by decide) h

theorem digitsOf_ne_nil (n : Nat) : digitsOf n ≠ [] := Nat.toDigits_ne_nil

theorem length_digitsOf_pos (n : Nat) : 0 < (digitsOf n).length :=
  List.length_pos_iff.2 (digitsOf_ne_nil n)

theorem toString_eq_ofList_digitsOf (n : Nat) : toString n = String.ofList (digitsOf n) :=
  Nat.toString_eq_ofList_toDigits

theorem toString_injective : Function.Injective (toString : Nat → String) := by
  intro m n h
  rw [toString_eq_ofList_digitsOf, toString_eq_ofList_digitsOf, String.ofList_inj] at h
  exact digitsOf_injective h

/-! ### The first digit -/

theorem digitsOf_of_lt {n : Nat} (h : n < 10) : digitsOf n = [n.digitChar] :=
  Nat.toDigits_of_lt_base h

theorem digitsOf_of_le {n : Nat} (h : 10 ≤ n) :
    digitsOf n = digitsOf (n / 10) ++ [(n % 10).digitChar] :=
  Nat.toDigits_of_base_le (by decide) h

theorem head?_digitsOf_ne {n : Nat} (hpos : 0 < n) : (digitsOf n).head? ≠ some '0' := by
  induction n using Nat.strong_induction_on with
  | _ n ih =>
      by_cases hsmall : n < 10
      · rw [digitsOf_of_lt hsmall]
        interval_cases n <;> decide
      · have hle : 10 ≤ n := Nat.le_of_not_lt hsmall
        rw [digitsOf_of_le hle, List.head?_append_of_ne_nil _ (digitsOf_ne_nil _)]
        exact ih (n / 10) (Nat.div_lt_self hpos (by decide)) (Nat.div_pos hle (by decide))

theorem isCanonicalNumeral_digitsOf (n : Nat) : IsCanonicalNumeral (digitsOf n) where
  nonempty := digitsOf_ne_nil n
  digits := allDigits_digitsOf n
  leading hzero := by
    rcases Nat.eq_zero_or_pos n with rfl | hpos
    · rfl
    · exact absurd hzero (head?_digitsOf_ne hpos)

/-! ### The number of digits -/

theorem lt_pow_length_digitsOf (n : Nat) : n < 10 ^ (digitsOf n).length :=
  (Nat.length_toDigits_le_iff (by decide) (length_digitsOf_pos n)).1 le_rfl

theorem pow_length_digitsOf_le {n : Nat} (hpos : 0 < n) :
    10 ^ ((digitsOf n).length - 1) ≤ n := by
  by_contra hlt
  have hlt : n < 10 ^ ((digitsOf n).length - 1) := Nat.lt_of_not_le hlt
  have hlength := length_digitsOf_pos n
  rcases Nat.eq_zero_or_pos ((digitsOf n).length - 1) with hone | hmore
  · rw [hone] at hlt
    omega
  · have hshort := (Nat.length_toDigits_le_iff (by decide) hmore).2 hlt
    change (digitsOf n).length ≤ (digitsOf n).length - 1 at hshort
    omega

/-! ### Integers -/

theorem integerChars_eq (i : Int) :
    integerChars i = (if i < 0 then ['-'] else []) ++ digitsOf i.natAbs := by
  cases i with
  | ofNat n => rfl
  | negSucc n =>
      rw [if_pos (Int.negSucc_lt_zero n)]
      rfl

end ShaderAssembly.Decimal

import Mathlib
import ShaderAssembly.Manifest.Read
import ShaderAssembly.Proofs.Decimal.Layouts
import ShaderAssembly.Proofs.Decimal.Magnitude
import ShaderAssembly.Proofs.Manifest.Sections

/-!
# The texts of macro values

A macro that a manifest gives a number enters the shader as a literal of the same type. The text of
an integer is its numeral, which can be read back. The text of a float is never an integer literal,
whatever the float: around a point there is a digit on both sides, all other numbers have an
exponent, and what is no number is a word. Which of the two forms a number takes goes by its value
alone, not by the digits it is shown with.
-/

namespace ShaderAssembly

open Decimal

/-- The doubles that are written around a point. -/
def TakesPoint (significand : Nat) (exponent : Int) : Prop :=
  significand = 0 ∨
    (10 ^ (-4 : Int) ≤ magnitude significand exponent ∧
      magnitude significand exponent < 10 ^ (16 : Int))

theorem between_bounds_iff {significand : Nat} {exponent : Int}
    (h : IsCanonical significand exponent) (hpos : 0 < significand) :
    (floatFormat.positionalFrom ≤ (leadingDigits (shortest significand exponent)).2 ∧
        (leadingDigits (shortest significand exponent)).2 < floatFormat.positionalBelow) ↔
      TakesPoint significand exponent := by
  have hfrom := le_power_shortest_iff hpos (half_above_lt_pow_neg_four h)
  have hbelow := le_power_shortest_iff hpos (half_above_lt_pow_sixteen h)
  rw [TakesPoint, or_iff_right hpos.ne', ← not_le, ← not_le]
  exact and_congr hfrom (not_congr hbelow)

/-- A double goes around a point or takes an exponent as its value says. -/
theorem magnitudeChars_form {significand : Nat} {exponent : Int}
    (h : IsCanonical significand exponent) :
    TakesPoint significand exponent ∧
        IsPositional (magnitudeChars floatFormat significand exponent) ∨
      ¬ TakesPoint significand exponent ∧
        IsScientific (magnitudeChars floatFormat significand exponent) := by
  rcases Nat.eq_zero_or_pos significand with rfl | hpos
  · have hzero : IsPositional (['0'] ++ '.' :: ['0']) :=
      .intro (by decide) (by decide) (by decide) (by decide)
    exact .inl ⟨.inl rfl, hzero⟩
  · have hne : (leadingDigits (shortest significand exponent)).1 ≠ [] :=
      leadingDigits_ne_nil (digits_shortest_pos hpos)
    have hdigits := allDigits_leadingDigits (shortest significand exponent)
    rw [magnitudeChars, if_neg hpos.ne']
    dsimp only
    by_cases hbounds : TakesPoint significand exponent
    · rw [if_pos ((between_bounds_iff h hpos).2 hbounds)]
      exact .inl ⟨hbounds, isPositional_positional hne hdigits _⟩
    · rw [if_neg (mt (between_bounds_iff h hpos).1 hbounds)]
      exact .inr ⟨hbounds, isScientific_scientific hne hdigits _⟩

theorem isUnlikeInteger_magnitudeChars {significand : Nat} {exponent : Int}
    (h : IsCanonical significand exponent) :
    IsUnlikeInteger (magnitudeChars floatFormat significand exponent) := by
  rcases magnitudeChars_form h with ⟨-, hform⟩ | ⟨-, hform⟩
  · exact hform.isUnlikeInteger
  · exact hform.isUnlikeInteger

theorem isUnlikeInteger_floatChars (x : Binary64) : IsUnlikeInteger (floatChars floatFormat x) := by
  cases x with
  | nan =>
      change IsUnlikeInteger ['N', 'a', 'N']
      exact ⟨by decide, 'N', by decide, by decide, by decide⟩
  | infinite negative =>
      have hword : IsUnlikeInteger ['i', 'n', 'f'] :=
        ⟨by decide, 'i', by decide, by decide, by decide⟩
      cases negative with
      | false => exact hword
      | true => exact hword.minus
  | finite negative significand exponent canonical =>
      have hbody := isUnlikeInteger_magnitudeChars canonical
      cases negative with
      | false => exact hbody
      | true => exact hbody.minus

namespace MacroValue

theorem toList_emitted_integer (i : Int) : (integer i).emitted.toList = integerChars i :=
  String.toList_ofList

theorem toList_emitted_float (x : Binary64) :
    (float x).emitted.toList = floatChars floatFormat x := String.toList_ofList

theorem emitted_integer_eq_repr (i : Int) : (integer i).emitted = i.repr := by
  cases i with
  | ofNat n => exact (toString_eq_ofList_digitsOf n).symm
  | negSucc n =>
      have hrepr : (n + 1).repr = String.ofList (digitsOf (n + 1)) :=
        toString_eq_ofList_digitsOf (n + 1)
      have hminus : "-".toList = ['-'] := rfl
      rw [← String.toList_inj, toList_emitted_integer, Int.repr, Nat.succ_eq_add_one, hrepr,
        String.toList_append, hminus, String.toList_ofList]
      rfl

theorem integer_emitted_injective : Function.Injective fun i => (integer i).emitted := by
  intro i j h
  dsimp only at h
  rw [emitted_integer_eq_repr, emitted_integer_eq_repr] at h
  exact Int.repr_injective h

theorem not_isIntegerLiteral_float (x : Binary64) :
    ¬ IsIntegerLiteral (float x).emitted.toList := by
  rw [toList_emitted_float]
  exact (isUnlikeInteger_floatChars x).not_isIntegerLiteral

theorem emitted_integer_ne_float (i : Int) (x : Binary64) :
    (integer i).emitted ≠ (float x).emitted := by
  intro heq
  have hliteral := isIntegerLiteral_integerChars i
  rw [← toList_emitted_integer, heq] at hliteral
  exact not_isIntegerLiteral_float x hliteral

theorem exists_numeral (i : Int) :
    ∃ numeral, (integer i).emitted.toList = (if i < 0 then ['-'] else []) ++ numeral ∧
      IsCanonicalNumeral numeral ∧ Nat.ofDigitChars 10 numeral 0 = i.natAbs ∧
      (integer i).emitted.toInt? = some i := by
  refine ⟨digitsOf i.natAbs, ?_, isCanonicalNumeral_digitsOf _, ofDigitChars_digitsOf _, ?_⟩
  · rw [toList_emitted_integer, integerChars_eq]
  · -- No part of the library has this lemma on its own, so the whole of it is imported here.
    rw [emitted_integer_eq_repr, Int.toInt?_repr]

end MacroValue

/-- What a manifest says of a macro enters the shader. -/
theorem define_mem_macros_apply {manifest : Manifest} {entry : MacroEntry}
    (h : entry ∈ manifest.macros) (tree : FileTree) (dir : String) (defaults : Option General)
    (shader : Shader) :
    .define entry.name entry.value.emitted
      ∈ (manifest.apply tree dir defaults shader).1.macros := by
  have hside : MacroOp.define entry.name entry.value.emitted ∈ manifest.macrosAt entry.side :=
    List.mem_map.2 ⟨entry, List.mem_filter.2 ⟨h, decide_eq_true rfl⟩, rfl⟩
  rw [Manifest.macros_apply]
  cases hplace : entry.side <;> rw [hplace] at hside <;> simp [hside]

namespace MacroValue

/-- **Macro texts keep integers and floats apart.** An integer is a minus if it is negative and then
its digits, without a leading zero, from which it is read back. So no two integers share a text. A
finite float has a point with digits on both sides of it if it is zero or its magnitude is at least
a ten-thousandth and below ten to the power of sixteen, and an exponent otherwise; a float that is
not finite is one of three words. So the text of an integer is always an integer literal, that of a
float never is, and the two are different. These texts are what a manifest hands to a shader. -/
theorem emitted_keeps_type :
    (∀ i : Int, ∃ numeral, (integer i).emitted.toList = (if i < 0 then ['-'] else []) ++ numeral ∧
      IsCanonicalNumeral numeral ∧ Nat.ofDigitChars 10 numeral 0 = i.natAbs ∧
      (integer i).emitted.toInt? = some i) ∧
    (Function.Injective fun i => (integer i).emitted) ∧
    (∀ negative significand exponent canonical, ∃ body,
      (float (.finite negative significand exponent canonical)).emitted.toList
        = (if negative then ['-'] else []) ++ body ∧
      ('.' ∈ body ∨ 'e' ∈ body) ∧
      (TakesPoint significand exponent ∧ IsPositional body ∨
        ¬ TakesPoint significand exponent ∧ IsScientific body)) ∧
    (float .nan).emitted = "NaN" ∧
    (∀ negative, (float (.infinite negative)).emitted = if negative then "-inf" else "inf") ∧
    (∀ i, IsIntegerLiteral (integer i).emitted.toList) ∧
    (∀ x, ¬ IsIntegerLiteral (float x).emitted.toList) ∧
    (∀ i x, (integer i).emitted ≠ (float x).emitted) ∧
    ∀ (manifest : Manifest) (tree : FileTree) (dir : String) (defaults : Option General)
      (shader : Shader), ∀ entry ∈ manifest.macros,
        .define entry.name entry.value.emitted
          ∈ (manifest.apply tree dir defaults shader).1.macros := by
  refine ⟨exists_numeral, integer_emitted_injective, fun negative significand exponent canonical =>
      ⟨magnitudeChars floatFormat significand exponent, toList_emitted_float _, ?_,
        magnitudeChars_form canonical⟩, rfl, fun negative => ?_, fun i => ?_,
    not_isIntegerLiteral_float, emitted_integer_ne_float, fun manifest tree dir defaults shader
      entry hentry => define_mem_macros_apply hentry tree dir defaults shader⟩
  · rcases magnitudeChars_form canonical with ⟨-, hform⟩ | ⟨-, hform⟩
    · exact .inl hform.point_mem
    · exact .inr hform.e_mem
  · cases negative <;> rfl
  · rw [toList_emitted_integer]
    exact isIntegerLiteral_integerChars i

def one : Binary64 := .finite false 4503599627370496 (-52) (by decide)

/-- The least double that takes an exponent for its size. -/
def tenToSixteen : Binary64 := .finite false 5000000000000000 1 (by decide)

def belowTenToSixteen : Binary64 := .finite false 4999999999999999 1 (by decide)

/-- A manifest with the same number in either type. -/
def bothOnes : Manifest :=
  { macros := [⟨"ONE", .float one, .back⟩, ⟨"COUNT", .integer 1, .front⟩] }

def bothOnesText : String :=
  "macros = [\x7bname = 'ONE', value = 1.0\x7d, " ++
  "\x7bname = 'COUNT', value = 1, location = 'front'\x7d]"

theorem bothOnes_keep_type :
    let macros := (bothOnes.apply ⟨"/", []⟩ "/" none (Shader.ofText "code")).1.macros
    Manifest.parse? bothOnesText = some bothOnes ∧
    MacroOp.define "ONE" "1.0" ∈ macros ∧ MacroOp.define "COUNT" "1" ∈ macros ∧
    (float tenToSixteen).emitted = "1e16" ∧
    (float belowTenToSixteen).emitted = "9999999999999998.0" ∧
    (float (.zero true)).emitted = "-0.0" ∧
    (integer 10000000000000000).emitted ≠ (float tenToSixteen).emitted := by
  intro macros
  obtain ⟨-, -, -, -, -, -, -, hdifferent, henters⟩ := emitted_keeps_type
  have hone : (float one).emitted = "1.0" := by decide +kernel
  have hops := henters bothOnes ⟨"/", []⟩ "/" none (Shader.ofText "code")
  refine ⟨by decide +kernel, ?_, ?_, by decide +kernel, by decide +kernel, by decide +kernel,
    hdifferent _ _⟩
  · rw [← hone]
    exact hops ⟨"ONE", .float one, .back⟩ (by decide)
  · exact hops ⟨"COUNT", .integer 1, .front⟩ (by decide)

end MacroValue

end ShaderAssembly

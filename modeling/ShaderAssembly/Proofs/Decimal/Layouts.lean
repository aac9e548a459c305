import Mathlib.Data.List.TakeWhile
import ShaderAssembly.Proofs.Decimal.Digits
import ShaderAssembly.Toml.Text

/-!
# The forms that numbers are written in

Digits around a point and digits with an exponent are forms of their own, told apart from all forms
of an integer literal by single characters. A numeral in base ten or eight has no point and no `e`.
One in base sixteen may have an `e`, but never without an `x`, which no float has. So it is enough
that the digits of a double are never used up: with none left, a point or an exponent might stand
alone.
-/

namespace ShaderAssembly.Decimal

/-- Digits on both sides of a point. -/
inductive IsPositional : List Char → Prop
  | intro {whole fraction : List Char} (whole_ne : whole ≠ []) (fraction_ne : fraction ≠ [])
      (whole_digits : AllDigits whole) (fraction_digits : AllDigits fraction) :
      IsPositional (whole ++ '.' :: fraction)

/-- One digit, more after a point if there are any, and a power of ten after an `e`. -/
inductive IsScientific : List Char → Prop
  | single {first : Char} (first_digit : first.isDigit = true) (power : Int) :
      IsScientific (first :: 'e' :: integerChars power)
  | fraction {first : Char} {others : List Char} (others_ne : others ≠ [])
      (first_digit : first.isDigit = true) (others_digits : AllDigits others) (power : Int) :
      IsScientific (first :: '.' :: (others ++ 'e' :: integerChars power))

/-- The body of an integer literal: a numeral in base ten or eight, or one in base sixteen. -/
def IsIntegerNumeral (cs : List Char) : Prop :=
  (cs ≠ [] ∧ AllDigits cs) ∨
    ∃ x digits, (x = 'x' ∨ x = 'X') ∧ digits ≠ [] ∧
      (∀ c ∈ digits, Toml.Scanner.isHexDigit c = true) ∧ cs = '0' :: x :: digits

/-- An integer literal of a shader, with a sign in front of it if there is one, and with a `u` after
it if it is unsigned. -/
inductive IsIntegerLiteral : List Char → Prop
  | intro {sign numeral suffix : List Char} (sign_mem : sign ∈ [[], ['-'], ['+']])
      (numeral_form : IsIntegerNumeral numeral) (suffix_mem : suffix ∈ [[], ['u'], ['U']]) :
      IsIntegerLiteral (sign ++ numeral ++ suffix)

/-! ### The digits of a double -/

/-- Something is left of the digits of a positive number without the zeros at their end, since the
first of them is not a zero. -/
theorem leadingDigits_ne_nil {d : ShortDecimal} (hpos : 0 < d.digits) :
    (leadingDigits d).1 ≠ [] := by
  intro hnone
  rw [leadingDigits, List.reverse_eq_nil_iff, List.dropWhile_eq_nil_iff] at hnone
  obtain ⟨first, others, hdigits⟩ := List.exists_cons_of_ne_nil (digitsOf_ne_nil d.digits)
  have hfirst : first = '0' := by
    refine beq_iff_eq.1 (hnone first (List.mem_reverse.2 ?_))
    rw [hdigits]
    exact List.mem_cons_self
  refine head?_digitsOf_ne hpos ?_
  rw [hdigits, List.head?_cons, hfirst]

theorem allDigits_leadingDigits (d : ShortDecimal) : AllDigits (leadingDigits d).1 := by
  intro c hc
  rw [leadingDigits, List.mem_reverse] at hc
  exact allDigits_digitsOf d.digits c
    (List.mem_reverse.1 ((List.dropWhile_sublist _).subset hc))

/-! ### The two forms -/

theorem isPositional_positional {digits : List Char} (hne : digits ≠ []) (h : AllDigits digits)
    (power : Int) : IsPositional (positional digits power) := by
  rw [positional]
  split
  · have hfraction := (allDigits_replicate_zero (-power - 1).toNat).append h
    exact @IsPositional.intro ['0'] _ (by decide) (by simp [hne]) (by decide) hfraction
  · dsimp only
    split
    · refine .intro ?_ (by decide) (h.append (allDigits_replicate_zero _)) (by decide)
      simp [hne]
    · rename_i hlong
      refine .intro ?_ ?_ (h.take _) (h.drop _)
      · simp [hne]
      · simp only [ne_eq, List.drop_eq_nil_iff]
        exact hlong

theorem isScientific_scientific {digits : List Char} (hne : digits ≠ []) (h : AllDigits digits)
    (power : Int) : IsScientific (scientific digits power) := by
  obtain ⟨first, others, rfl⟩ := List.exists_cons_of_ne_nil hne
  have hfirst : first.isDigit = true := h first List.mem_cons_self
  cases others with
  | nil => exact .single hfirst power
  | cons second others =>
      have hothers : AllDigits (second :: others) := fun c hc => h c (List.mem_cons_of_mem _ hc)
      have hform := IsScientific.fraction (List.cons_ne_nil _ _) hfirst hothers power
      simpa [scientific] using hform

/-! ### Forms told apart -/

theorem mem_integerChars {i : Int} {c : Char} (h : c ∈ integerChars i) :
    c.isDigit = true ∨ c = '-' := by
  rw [integerChars_eq, List.mem_append] at h
  rcases h with hsign | hdigit
  · split at hsign
    · exact .inr (List.mem_singleton.1 hsign)
    · cases hsign
  · exact .inl (allDigits_digitsOf _ c hdigit)

theorem isIntegerLiteral_integerChars (i : Int) : IsIntegerLiteral (integerChars i) := by
  have hnumeral : IsIntegerNumeral (digitsOf i.natAbs) :=
    .inl ⟨digitsOf_ne_nil _, allDigits_digitsOf _⟩
  have hsign : (if i < 0 then ['-'] else []) ∈ [[], ['-'], ['+']] := by split <;> decide
  have hform : IsIntegerLiteral (_ ++ _ ++ []) := .intro hsign hnumeral (by decide)
  rwa [List.append_nil, ← integerChars_eq] at hform

/-- A text that has a character which no numeral in base ten has, and no `x`. -/
structure IsUnlikeInteger (cs : List Char) : Prop where
  unhexed : 'x' ∉ cs ∧ 'X' ∉ cs
  odd : ∃ c ∈ cs, c.isDigit = false ∧ c ∉ ['-', '+', 'u', 'U']

theorem IsUnlikeInteger.not_isIntegerLiteral {cs : List Char} (h : IsUnlikeInteger cs) :
    ¬ IsIntegerLiteral cs := by
  rintro ⟨hsign, hnumeral | ⟨x, digits, hx, -, -, rfl⟩, hsuffix⟩
  · obtain ⟨c, hc, hnodigit, hother⟩ := h.odd
    simp only [List.mem_cons, List.not_mem_nil, or_false, not_or] at hother hsign hsuffix
    simp only [List.mem_append] at hc
    rcases hc with (hc | hc) | hc
    · rcases hsign with rfl | rfl | rfl <;> simp_all
    · rw [hnumeral.2 c hc] at hnodigit
      cases hnodigit
    · rcases hsuffix with rfl | rfl | rfl <;> simp_all
  · have hmem {sign suffix : List Char} : x ∈ sign ++ '0' :: x :: digits ++ suffix := by simp
    rcases hx with rfl | rfl
    · exact h.unhexed.1 hmem
    · exact h.unhexed.2 hmem

theorem IsUnlikeInteger.minus {cs : List Char} (h : IsUnlikeInteger cs) :
    IsUnlikeInteger ('-' :: cs) where
  unhexed := by simpa using h.unhexed
  odd := by
    obtain ⟨c, hc, hodd⟩ := h.odd
    exact ⟨c, List.mem_cons_of_mem _ hc, hodd⟩

/-- The characters of a finite double, with a point or an `e` among them. -/
theorem isUnlikeInteger_of_mem {cs : List Char}
    (hmem : ∀ c ∈ cs, c.isDigit = true ∨ c ∈ ['.', 'e', '-']) (h : '.' ∈ cs ∨ 'e' ∈ cs) :
    IsUnlikeInteger cs where
  unhexed :=
    ⟨fun hx => (hmem _ hx).elim (by decide) (by decide),
      fun hx => (hmem _ hx).elim (by decide) (by decide)⟩
  odd := by
    rcases h with h | h
    · exact ⟨'.', h, by decide, by decide⟩
    · exact ⟨'e', h, by decide, by decide⟩

theorem IsPositional.point_mem {cs : List Char} (h : IsPositional cs) : '.' ∈ cs := by
  cases h
  simp

theorem IsScientific.e_mem {cs : List Char} (h : IsScientific cs) : 'e' ∈ cs := by
  cases h <;> simp

theorem IsPositional.isUnlikeInteger {cs : List Char} (h : IsPositional cs) :
    IsUnlikeInteger cs := by
  refine isUnlikeInteger_of_mem (fun c hc => ?_) (.inl h.point_mem)
  cases h with
  | intro _ _ hwhole hfraction =>
      rcases List.mem_append.1 hc with hc | hc
      · exact .inl (hwhole c hc)
      · rcases List.mem_cons.1 hc with rfl | hc
        · exact .inr (by decide)
        · exact .inl (hfraction c hc)

theorem mem_exponent {power : Int} {c : Char} (h : c ∈ 'e' :: integerChars power) :
    c.isDigit = true ∨ c ∈ ['.', 'e', '-'] := by
  rcases List.mem_cons.1 h with rfl | h
  · exact .inr (by decide)
  · exact (mem_integerChars h).imp_right fun hminus => by simp [hminus]

theorem IsScientific.isUnlikeInteger {cs : List Char} (h : IsScientific cs) :
    IsUnlikeInteger cs := by
  refine isUnlikeInteger_of_mem (fun c hc => ?_) (.inr h.e_mem)
  cases h with
  | single hfirst power =>
      rcases List.mem_cons.1 hc with rfl | hc
      · exact .inl hfirst
      · exact mem_exponent hc
  | fraction _ hfirst hothers power =>
      rcases List.mem_cons.1 hc with rfl | hc
      · exact .inl hfirst
      · rcases List.mem_cons.1 hc with rfl | hc
        · exact .inr (by decide)
        · rcases List.mem_append.1 hc with hc | hc
          · exact .inl (hothers c hc)
          · exact mem_exponent hc

end ShaderAssembly.Decimal

import ShaderAssembly.Glyph.Order
import ShaderAssembly.Proofs.Decimal.Digits

/-!
# What tells descriptors apart

Equality, order, hash and text are four functions, and each of them decides for itself whether to
look at the size of a descriptor. They agree because all of them ask for the same two things, the
kind and the size that counts. The order compares the one and then the other, so it is a total
order as those of the numbers are.
-/

namespace ShaderAssembly

namespace GlyphKind

/-- The kinds stand in the list of all kinds at their ranks. -/
theorem getElem?_all_rank (kind : GlyphKind) : all[kind.rank]? = some kind := by
  cases kind <;> rfl

theorem rank_injective : Function.Injective rank := by
  intro a b h
  have hread := getElem?_all_rank a
  rw [h, getElem?_all_rank] at hread
  exact (Option.some.inj hread).symm

theorem ofName?_name (kind : GlyphKind) : ofName? kind.name = some kind := by
  cases kind <;> rfl

theorem name_injective : Function.Injective name := by
  intro a b h
  have hread := ofName?_name a
  rw [h, ofName?_name] at hread
  exact (Option.some.inj hread).symm

theorem at_not_mem_name (kind : GlyphKind) : '@' ∉ kind.name.toList := by
  cases kind <;> decide

theorem isScalable_eq_false_iff {kind : GlyphKind} : kind.isScalable = false ↔ kind = coverage := by
  rw [isScalable, bne_eq_false_iff_eq]

end GlyphKind

namespace Glyph

/-- The size that counts, which is zero for all kinds but coverage. -/
def size (glyph : Glyph) : UInt32 := if glyph.kind.isScalable then 0 else glyph.pixelSize

/-- Two descriptors are for the same glyph data. -/
def Alike (a b : Glyph) : Prop := a.kind = b.kind ∧ a.size = b.size

variable {a b c : Glyph}

theorem Alike.refl (a : Glyph) : a.Alike a := ⟨rfl, rfl⟩

theorem Alike.symm (h : a.Alike b) : b.Alike a := ⟨h.1.symm, h.2.symm⟩

theorem Alike.trans (h : a.Alike b) (h' : b.Alike c) : a.Alike c :=
  ⟨h.1.trans h'.1, h.2.trans h'.2⟩

theorem size_of_isScalable (h : a.kind.isScalable = true) : a.size = 0 := if_pos h

theorem size_of_not_isScalable (h : a.kind.isScalable = false) : a.size = a.pixelSize := by
  rw [size, h, if_neg Bool.false_ne_true]

/-! ### Equality, hash and text -/

theorem same_eq_true_iff : a.same b = true ↔ a.Alike b := by
  rw [same, Bool.and_eq_true, beq_iff_eq, Alike]
  refine and_congr_right fun hkind => ?_
  cases hscalable : a.kind.isScalable with
  | true =>
      rw [size_of_isScalable hscalable, size_of_isScalable (hkind ▸ hscalable), Bool.true_or]
      exact iff_of_true rfl rfl
  | false =>
      rw [size_of_not_isScalable hscalable, size_of_not_isScalable (hkind ▸ hscalable),
        Bool.false_or, beq_iff_eq]

theorem hashKey_eq_iff : a.hashKey = b.hashKey ↔ a.Alike b := by
  rw [hashKey, hashKey, Prod.mk.injEq, GlyphKind.rank_injective.eq_iff, Alike]
  refine and_congr_right fun hkind => ?_
  cases hscalable : a.kind.isScalable with
  | true =>
      rw [size_of_isScalable hscalable, size_of_isScalable (hkind ▸ hscalable), ← hkind, hscalable]
      exact iff_of_true rfl rfl
  | false =>
      rw [size_of_not_isScalable hscalable, size_of_not_isScalable (hkind ▸ hscalable), ← hkind,
        hscalable, if_neg Bool.false_ne_true, if_neg Bool.false_ne_true, Option.some.injEq]

theorem text_of_isScalable (h : a.kind.isScalable = true) : a.text = a.kind.name := if_pos h

theorem text_of_not_isScalable (h : a.kind.isScalable = false) :
    a.text = "coverage@" ++ toString a.size.toNat ++ "px" := by
  rw [size_of_not_isScalable h, text, h, if_neg Bool.false_ne_true,
    GlyphKind.isScalable_eq_false_iff.1 h]
  rfl

/-- Only the text of a coverage descriptor has an at sign. -/
theorem at_mem_text_iff : '@' ∈ a.text.toList ↔ a.kind.isScalable = false := by
  cases hscalable : a.kind.isScalable with
  | true =>
      rw [text_of_isScalable hscalable]
      exact iff_of_false (GlyphKind.at_not_mem_name _) (by decide)
  | false =>
      rw [text_of_not_isScalable hscalable, String.toList_append, String.toList_append]
      exact iff_of_true (List.mem_append_left _ (List.mem_append_left _ (by decide))) rfl

theorem text_eq_iff : a.text = b.text ↔ a.Alike b := by
  constructor
  · intro h
    have hscalable : a.kind.isScalable = b.kind.isScalable := by
      have hiff := at_mem_text_iff (a := a)
      rw [h, at_mem_text_iff] at hiff
      cases ha : a.kind.isScalable <;> cases hb : b.kind.isScalable <;> simp_all
    cases ha : a.kind.isScalable with
    | true =>
        have hb := hscalable.symm.trans ha
        rw [text_of_isScalable ha, text_of_isScalable hb] at h
        exact ⟨GlyphKind.name_injective h,
          (size_of_isScalable ha).trans (size_of_isScalable hb).symm⟩
    | false =>
        have hb := hscalable.symm.trans ha
        rw [text_of_not_isScalable ha, text_of_not_isScalable hb] at h
        rw [String.append_left_inj, String.append_right_inj] at h
        refine ⟨?_, UInt32.toNat_inj.1 (Decimal.toString_injective h)⟩
        rw [GlyphKind.isScalable_eq_false_iff.1 ha, GlyphKind.isScalable_eq_false_iff.1 hb]
  · rintro ⟨hkind, hsize⟩
    cases ha : a.kind.isScalable with
    | true => rw [text_of_isScalable ha, text_of_isScalable (hkind ▸ ha), hkind]
    | false => rw [text_of_not_isScalable ha, text_of_not_isScalable (hkind ▸ ha), hsize]

/-! ### The order -/

/-- Descriptors are compared by kind and then by size. -/
theorem order_eq_compareLex :
    order = compareLex (compareOn fun glyph => glyph.kind.rank) (compareOn size) := by
  funext a b
  rw [order, compareLex, compareOn, compareOn]
  by_cases hkind : a.kind = b.kind
  · cases hscalable : a.kind.isScalable with
    | true =>
        rw [size_of_isScalable hscalable, size_of_isScalable (hkind ▸ hscalable), if_pos rfl]
        rfl
    | false =>
        rw [size_of_not_isScalable hscalable, size_of_not_isScalable (hkind ▸ hscalable),
          if_neg Bool.false_ne_true]
  · have hne : compare a.kind.rank b.kind.rank ≠ .eq := by
      rwa [ne_eq, Std.LawfulEqCmp.compare_eq_iff_eq, GlyphKind.rank_injective.eq_iff]
    cases hrank : compare a.kind.rank b.kind.rank with
    | lt => rfl
    | gt => rfl
    | eq => exact absurd hrank hne

instance : Std.TransCmp order := order_eq_compareLex ▸ inferInstance

theorem order_eq_eq_iff : order a b = .eq ↔ a.Alike b := by
  rw [order_eq_compareLex, compareLex, Ordering.then_eq_eq, compareOn, compareOn,
    Std.LawfulEqCmp.compare_eq_iff_eq, Std.LawfulEqCmp.compare_eq_iff_eq,
    GlyphKind.rank_injective.eq_iff, Alike]

end Glyph

end ShaderAssembly

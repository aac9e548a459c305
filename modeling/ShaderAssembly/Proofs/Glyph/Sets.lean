import Mathlib.Data.List.Destutter
import ShaderAssembly.Proofs.Glyph.Keys

/-!
# Sets of descriptors

A set that is kept in order and a set that is kept by hashes hold the same descriptors, of those
that are alike the first one that came. For both this is shown item by item: an item like one in
the set changes nothing, any other joins the set. A stable sort leaves alike descriptors in the
order in which they came, so what is left of it without adjacent repetitions is this set too, and
in the order of the first one.
-/

namespace ShaderAssembly

namespace Glyph

variable {a b g x : Glyph} {glyphs set set' : List Glyph}

/-! ### The first of those that are alike -/

/-- The set holds one of those that are alike in the list, the first one. -/
structure Collects (glyphs set : List Glyph) : Prop where
  distinct : set.Pairwise fun a b => ¬ a.Alike b
  firsts : ∀ g, g ∈ set ↔ glyphs.find? (·.same g) = some g

theorem alike_of_find? (h : glyphs.find? (·.same x) = some g) : g ∈ glyphs ∧ g.Alike x := by
  have hsame := List.find?_some h
  exact ⟨List.mem_of_find?_eq_some h, same_eq_true_iff.1 hsame⟩

theorem find?_cons_eq_some_iff :
    (x :: glyphs).find? (·.same g) = some g ↔
      g = x ∨ ¬ x.Alike g ∧ glyphs.find? (·.same g) = some g := by
  rw [List.find?_cons]
  cases hsame : x.same g with
  | true =>
      have halike := same_eq_true_iff.1 hsame
      rw [Option.some.injEq, eq_comm, or_iff_left (fun h => h.1 halike)]
  | false =>
      have hne : ¬ x.Alike g := by rw [← same_eq_true_iff, hsame]; exact Bool.false_ne_true
      have hother : g ≠ x := by
        rintro rfl
        exact hne (.refl g)
      rw [or_iff_right hother, and_iff_right hne]

theorem find?_congr (h : a.Alike b) : glyphs.find? (·.same a) = glyphs.find? (·.same b) := by
  have hsame : (fun g : Glyph => g.same a) = fun g => g.same b := by
    funext g
    rw [Bool.eq_iff_iff, same_eq_true_iff, same_eq_true_iff]
    exact ⟨fun hg => hg.trans h, fun hg => hg.trans h.symm⟩
  rw [hsame]

namespace Collects

theorem nil : Collects [] [] := ⟨.nil, fun g => by simp⟩

/-- What is not new to the list is not new to the set. -/
theorem exists_alike_iff (h : Collects glyphs set) :
    (∃ g ∈ set, g.Alike x) ↔ ∃ g ∈ glyphs, g.Alike x := by
  constructor
  · rintro ⟨g, hg, halike⟩
    exact ⟨g, (alike_of_find? ((h.firsts g).1 hg)).1, halike⟩
  · rintro ⟨g, hg, halike⟩
    have hsome : (glyphs.find? (·.same x)).isSome = true :=
      List.find?_isSome.2 ⟨g, hg, same_eq_true_iff.2 halike⟩
    obtain ⟨first, hfirst⟩ := Option.isSome_iff_exists.1 hsome
    have hlike := (alike_of_find? hfirst).2
    exact ⟨first, (h.firsts first).2 ((find?_congr hlike).trans hfirst), hlike⟩

/-- An item like one that is there changes nothing. -/
theorem keep (h : Collects glyphs set) (hold : ∃ g ∈ set, g.Alike x) :
    Collects (glyphs ++ [x]) set := by
  refine ⟨h.distinct, fun g => ?_⟩
  rw [h.firsts, List.find?_append]
  cases hfind : glyphs.find? (·.same g) with
  | some first => rw [Option.some_or]
  | none =>
      rw [Option.none_or]
      refine iff_of_false (by simp) fun hlast => ?_
      obtain ⟨hmem, halike⟩ := alike_of_find? hlast
      obtain rfl := List.mem_singleton.1 hmem
      obtain ⟨old, hold, hlike⟩ := h.exists_alike_iff.1 hold
      exact List.find?_eq_none.1 hfind old hold (same_eq_true_iff.2 hlike)

/-- Any other item joins the set, wherever it is put. -/
theorem add (h : Collects glyphs set) (hnew : ¬ ∃ g ∈ set, g.Alike x)
    (hset : set'.Perm (x :: set)) : Collects (glyphs ++ [x]) set' := by
  have hsymm : ∀ {a b : Glyph}, ¬ a.Alike b → ¬ b.Alike a := fun hne h => hne h.symm
  refine ⟨?_, fun g => ?_⟩
  · rw [hset.pairwise_iff hsymm, List.pairwise_cons]
    exact ⟨fun g hg halike => hnew ⟨g, hg, halike.symm⟩, h.distinct⟩
  · rw [hset.mem_iff, List.mem_cons, h.firsts, List.find?_append]
    rw [h.exists_alike_iff] at hnew
    cases hfind : glyphs.find? (·.same g) with
    | some first =>
        rw [Option.some_or, or_iff_right_iff_imp]
        rintro rfl
        obtain ⟨hmem, halike⟩ := alike_of_find? hfind
        exact absurd ⟨first, hmem, halike⟩ hnew
    | none =>
        rw [Option.none_or, find?_cons_eq_some_iff, List.find?_nil]
        simp

theorem nodup (h : Collects glyphs set) : set.Nodup := by
  refine h.distinct.imp ?_
  rintro a _ hne rfl
  exact hne (.refl a)

theorem perm (h : Collects glyphs set) (h' : Collects glyphs set') : set.Perm set' := by
  rw [List.perm_ext_iff_of_nodup h.nodup h'.nodup]
  intro g
  rw [h.firsts, h'.firsts]

/-- In order there is only one such set. -/
theorem eq_of_ordered (h : Collects glyphs set) (h' : Collects glyphs set')
    (hordered : set.Pairwise (order · · = .lt)) (hordered' : set'.Pairwise (order · · = .lt)) :
    set = set' := by
  refine (h.perm h').eq_of_pairwise (fun a b _ _ hlt hgt => ?_) hordered hordered'
  exact absurd hgt (Std.OrientedCmp.not_lt_of_lt hlt)

end Collects

/-! ### The set in order -/

theorem mem_insertOrdered (h : g ∈ insertOrdered x set) : g = x ∨ g ∈ set := by
  induction set with
  | nil => exact .inl (List.mem_singleton.1 h)
  | cons first rest ih =>
      rw [insertOrdered] at h
      split at h
      · exact List.mem_cons.1 h
      · exact .inr h
      · rcases List.mem_cons.1 h with rfl | h
        · exact .inr List.mem_cons_self
        · exact (ih h).imp_right (List.mem_cons_of_mem _)

theorem ordered_insertOrdered (x : Glyph) (h : set.Pairwise (order · · = .lt)) :
    (insertOrdered x set).Pairwise (order · · = .lt) := by
  induction set with
  | nil => exact List.pairwise_singleton _ _
  | cons first rest ih =>
      obtain ⟨hfirst, hrest⟩ := List.pairwise_cons.1 h
      rw [insertOrdered]
      split
      · rename_i hlt
        refine List.pairwise_cons.2 ⟨fun g hg => ?_, h⟩
        rcases List.mem_cons.1 hg with rfl | hg
        · exact hlt
        · exact Std.TransCmp.lt_trans hlt (hfirst g hg)
      · exact h
      · rename_i hgt
        refine List.pairwise_cons.2 ⟨fun g hg => ?_, ih hrest⟩
        rcases mem_insertOrdered hg with rfl | hg
        · exact Std.OrientedCmp.gt_iff_lt.1 hgt
        · exact hfirst g hg

theorem insertOrdered_of_exists (h : set.Pairwise (order · · = .lt))
    (hold : ∃ g ∈ set, g.Alike x) : insertOrdered x set = set := by
  induction set with
  | nil => simp at hold
  | cons first rest ih =>
      obtain ⟨hfirst, hrest⟩ := List.pairwise_cons.1 h
      obtain ⟨g, hg, halike⟩ := hold
      have heq : order x g = .eq := order_eq_eq_iff.2 halike.symm
      rw [insertOrdered]
      rcases List.mem_cons.1 hg with rfl | hg
      · rw [heq]
      · have hgt : order x first = .gt := by
          rw [Std.OrientedCmp.gt_iff_lt]
          exact Std.TransCmp.lt_of_lt_of_eq (hfirst g hg) (Std.OrientedCmp.eq_symm heq)
        rw [hgt]
        exact congrArg _ (ih hrest ⟨g, hg, halike⟩)

theorem insertOrdered_perm (hnew : ¬ ∃ g ∈ set, g.Alike x) :
    (insertOrdered x set).Perm (x :: set) := by
  induction set with
  | nil => exact .refl _
  | cons first rest ih =>
      rw [insertOrdered]
      split
      · exact .refl _
      · rename_i heq
        exact absurd ⟨first, List.mem_cons_self, (order_eq_eq_iff.1 heq).symm⟩ hnew
      · have hrest : ¬ ∃ g ∈ rest, g.Alike x := fun ⟨g, hg, halike⟩ =>
          hnew ⟨g, List.mem_cons_of_mem _ hg, halike⟩
        exact ((ih hrest).cons first).trans (.swap x first rest)

theorem orderedSet_concat (glyphs : List Glyph) (x : Glyph) :
    orderedSet (glyphs ++ [x]) = insertOrdered x (orderedSet glyphs) := by
  rw [orderedSet, List.foldl_append]
  rfl

theorem ordered_orderedSet (glyphs : List Glyph) :
    (orderedSet glyphs).Pairwise (order · · = .lt) := by
  induction glyphs using List.reverseRecOn with
  | nil => exact .nil
  | append_singleton glyphs x ih =>
      rw [orderedSet_concat]
      exact ordered_insertOrdered x ih

theorem collects_orderedSet (glyphs : List Glyph) : Collects glyphs (orderedSet glyphs) := by
  induction glyphs using List.reverseRecOn with
  | nil => exact .nil
  | append_singleton glyphs x ih =>
      rw [orderedSet_concat]
      by_cases hold : ∃ g ∈ orderedSet glyphs, g.Alike x
      · rw [insertOrdered_of_exists (ordered_orderedSet glyphs) hold]
        exact ih.keep hold
      · exact ih.add hold (insertOrdered_perm hold)

/-! ### The set by hashes -/

theorem any_hashed_iff : (set.any fun g => g.hashKey == x.hashKey && g.same x) = true ↔
    ∃ g ∈ set, g.Alike x := by
  rw [List.any_eq_true]
  refine exists_congr fun g => and_congr_right fun _ => ?_
  rw [Bool.and_eq_true, beq_iff_eq, hashKey_eq_iff, same_eq_true_iff, and_self]

theorem collects_hashedSet (glyphs : List Glyph) : Collects glyphs (hashedSet glyphs) := by
  induction glyphs using List.reverseRecOn with
  | nil => exact .nil
  | append_singleton glyphs x ih =>
      rw [hashedSet, List.foldl_append, List.foldl_cons, List.foldl_nil, ← hashedSet]
      split
      · rename_i hold
        exact ih.keep (any_hashed_iff.1 hold)
      · rename_i hnew
        exact ih.add (mt any_hashed_iff.2 hnew) (List.perm_append_singleton x _)

/-! ### The sorted list -/

theorem isLE_trans_order (a b c : Glyph) :
    (order a b).isLE = true → (order b c).isLE = true → (order a c).isLE = true :=
  Std.TransCmp.isLE_trans

theorem isLE_total_order (a b : Glyph) : ((order a b).isLE || (order b a).isLE) = true := by
  have hswap : order b a = (order a b).swap := Std.OrientedCmp.eq_swap
  rw [hswap]
  cases order a b <;> rfl

theorem ordered_sorted (glyphs : List Glyph) :
    (sorted glyphs).Pairwise fun a b => (order a b).isLE = true :=
  List.pairwise_mergeSort isLE_trans_order isLE_total_order glyphs

/-- Sorting keeps the order of those that are alike, so the first one stays the first. -/
theorem find?_sorted (glyphs : List Glyph) (g : Glyph) :
    (sorted glyphs).find? (·.same g) = glyphs.find? (·.same g) := by
  induction glyphs with
  | nil => rw [sorted, List.mergeSort_nil]
  | cons first rest ih =>
      obtain ⟨before, after, hsorted, hrest, hbefore⟩ :=
        List.mergeSort_cons isLE_trans_order isLE_total_order first rest
      rw [sorted, hrest] at ih
      rw [sorted, hsorted, List.find?_cons, ← ih, List.find?_append, List.find?_append,
        List.find?_cons]
      cases hsame : first.same g with
      | false => rfl
      | true =>
          have hnone : before.find? (·.same g) = Option.none := by
            rw [List.find?_eq_none]
            intro b hb hlike
            have heq : order first b = .eq := order_eq_eq_iff.2
              ((same_eq_true_iff.1 hsame).trans (same_eq_true_iff.1 hlike).symm)
            have hgt := hbefore b hb
            rw [heq] at hgt
            contradiction
          rw [hnone, Option.none_or]

/-- Sorted descriptors, of which each is dropped that is equal to the one kept before it. -/
def withoutRepeats (glyphs : List Glyph) : List Glyph :=
  (sorted glyphs).destutter fun a b => ¬ a.same b = true

section Destutter

variable {first second : Glyph} {rest : List Glyph}

theorem lt_of_isLE_of_not_same (h : (order a b).isLE = true) (hne : ¬ a.same b = true) :
    order a b = .lt := by
  rw [same_eq_true_iff, ← order_eq_eq_iff] at hne
  exact (Ordering.isLE_iff_eq_lt_or_eq_eq.1 h).resolve_right hne

/-- Behind a descriptor that is kept after another one, all are above the other one. -/
theorem lt_of_mem_of_not_same
    (h : (first :: second :: rest).Pairwise fun a b => (order a b).isLE = true)
    (hne : ¬ first.same second = true) (hg : g ∈ second :: rest) : order first g = .lt := by
  obtain ⟨hfirst, hrest⟩ := List.pairwise_cons.1 h
  have hlt := lt_of_isLE_of_not_same (hfirst second List.mem_cons_self) hne
  rcases List.mem_cons.1 hg with rfl | hg
  · exact hlt
  · exact Std.TransCmp.lt_of_lt_of_isLE hlt ((List.pairwise_cons.1 hrest).1 g hg)

theorem pairwise_skip {R : Glyph → Glyph → Prop} (h : (first :: second :: rest).Pairwise R) :
    (first :: rest).Pairwise R :=
  h.sublist (List.Sublist.cons_cons first (List.sublist_cons_self second rest))

theorem ordered_destutter' (h : (first :: rest).Pairwise fun a b => (order a b).isLE = true) :
    (rest.destutter' (fun a b => ¬ a.same b = true) first).Pairwise (order · · = .lt) := by
  induction rest generalizing first with
  | nil => exact List.pairwise_singleton _ _
  | cons second rest ih =>
      by_cases hsame : first.same second = true
      · rw [List.destutter'_cons_neg _ (not_not.2 hsame)]
        exact ih (pairwise_skip h)
      · rw [List.destutter'_cons_pos _ hsame, List.pairwise_cons]
        exact ⟨fun g hg =>
            lt_of_mem_of_not_same h hsame ((List.destutter'_sublist _ _ _).subset hg),
          ih (List.pairwise_cons.1 h).2⟩

theorem mem_destutter'_iff (h : (first :: rest).Pairwise fun a b => (order a b).isLE = true) :
    g ∈ rest.destutter' (fun a b => ¬ a.same b = true) first ↔
      (first :: rest).find? (·.same g) = some g := by
  induction rest generalizing first with
  | nil =>
      rw [List.destutter'_nil, List.mem_singleton, find?_cons_eq_some_iff, List.find?_nil]
      simp
  | cons second rest ih =>
      by_cases hsame : first.same second = true
      · rw [List.destutter'_cons_neg _ (not_not.2 hsame), ih (pairwise_skip h),
          find?_cons_eq_some_iff, find?_cons_eq_some_iff, find?_cons_eq_some_iff]
        refine or_congr_right (and_congr_right fun hne => ?_)
        have hsecond : ¬ second.Alike g := fun halike =>
          hne ((same_eq_true_iff.1 hsame).trans halike)
        have hother : g ≠ second := by
          rintro rfl
          exact hsecond (.refl g)
        rw [or_iff_right hother, and_iff_right hsecond]
      · rw [List.destutter'_cons_pos _ hsame, List.mem_cons, ih (List.pairwise_cons.1 h).2,
          find?_cons_eq_some_iff (x := first)]
        refine or_congr_right ?_
        rw [iff_and_self]
        intro hfind halike
        have hlt := lt_of_mem_of_not_same h hsame (List.mem_of_find?_eq_some hfind)
        rw [order_eq_eq_iff.2 halike] at hlt
        contradiction

end Destutter

theorem ordered_withoutRepeats (glyphs : List Glyph) :
    (withoutRepeats glyphs).Pairwise (order · · = .lt) := by
  have hsorted := ordered_sorted glyphs
  rw [withoutRepeats]
  cases hglyphs : sorted glyphs with
  | nil => exact .nil
  | cons first rest =>
      rw [hglyphs] at hsorted
      exact ordered_destutter' hsorted

theorem collects_withoutRepeats (glyphs : List Glyph) :
    Collects glyphs (withoutRepeats glyphs) := by
  refine ⟨(ordered_withoutRepeats glyphs).imp fun hlt halike => ?_, fun g => ?_⟩
  · rw [order_eq_eq_iff.2 halike] at hlt
    contradiction
  · have hsorted := ordered_sorted glyphs
    rw [← find?_sorted, withoutRepeats]
    cases hglyphs : sorted glyphs with
    | nil => simp
    | cons first rest =>
        rw [hglyphs] at hsorted
        exact mem_destutter'_iff hsorted

/-- **Four views of one key.** Comparing descriptors is a total order, up to equality. Two
descriptors come out equal under the order if and only if they are equal, have the same data hashed
and have the same text, and the order leaves no two descriptors uncompared. So for every list of
descriptors the set in order is the stably sorted list without adjacent repetitions, and it is as
large as the set by hashes. -/
theorem keys_agree :
    (∀ a, order a a = .eq) ∧
    (∀ a b, (order a b).isLE = true → (order b a).isLE = true → a.same b = true) ∧
    (∀ a b c, (order a b).isLE = true → (order b c).isLE = true → (order a c).isLE = true) ∧
    (∀ a b, order b a = (order a b).swap) ∧
    (∀ a b, (order a b).isLE = true ∨ (order b a).isLE = true) ∧
    (∀ a b, (order a b = .eq ↔ a.same b = true) ∧ (order a b = .eq ↔ a.hashKey = b.hashKey) ∧
      (order a b = .eq ↔ a.text = b.text)) ∧
    (∀ a b, partialOrder a b = some (order a b)) ∧
    ∀ glyphs, orderedSet glyphs = withoutRepeats glyphs ∧
      (orderedSet glyphs).length = (hashedSet glyphs).length := by
  refine ⟨fun _ => Std.ReflCmp.compare_self, fun a b hab hba => ?_, isLE_trans_order,
    fun _ _ => Std.OrientedCmp.eq_swap, fun a b => ?_, fun a b => ?_, fun _ _ => rfl,
    fun glyphs => ⟨?_, ?_⟩⟩
  · exact same_eq_true_iff.2 (order_eq_eq_iff.1 (Std.OrientedCmp.isLE_antisymm hab hba))
  · exact Bool.or_eq_true_iff.1 (isLE_total_order a b)
  · rw [order_eq_eq_iff, same_eq_true_iff, hashKey_eq_iff, text_eq_iff]
    exact ⟨Iff.rfl, Iff.rfl, Iff.rfl⟩
  · exact (collects_orderedSet glyphs).eq_of_ordered (collects_withoutRepeats glyphs)
      (ordered_orderedSet glyphs) (ordered_withoutRepeats glyphs)
  · exact ((collects_orderedSet glyphs).perm (collects_hashedSet glyphs)).length_eq

/-- Coverage at two sizes, a scalable kind and the default, three of them mentioned again. -/
def mentionedAgain : List Glyph :=
  [coverage 24, none, ⟨.curvePair, 0⟩, coverage 7, coverage 24, none, ⟨.curvePair, 0⟩]

theorem mentionedAgain_keys_agree :
    (order (coverage 7) ⟨.curvePair, 0⟩).isLE = true ∧ (order ⟨.curvePair, 0⟩ none).isLE = true ∧
    (order (coverage 7) none).isLE = true ∧
    orderedSet mentionedAgain = [coverage 7, coverage 24, ⟨.curvePair, 0⟩, none] ∧
    withoutRepeats mentionedAgain = [coverage 7, coverage 24, ⟨.curvePair, 0⟩, none] ∧
    (hashedSet mentionedAgain).length = 4 := by
  obtain ⟨-, -, htrans, -, -, -, -, hsets⟩ := keys_agree
  have hset : orderedSet mentionedAgain = [coverage 7, coverage 24, ⟨.curvePair, 0⟩, none] := rfl
  obtain ⟨hsorted, hsize⟩ := hsets mentionedAgain
  refine ⟨rfl, rfl, htrans _ ⟨.curvePair, 0⟩ _ rfl rfl, hset, ?_, ?_⟩
  · rw [← hsorted, hset]
  · rw [← hsize, hset]
    rfl

end Glyph

end ShaderAssembly

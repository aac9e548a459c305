import Mathlib.Data.List.Induction
import Mathlib.Data.List.Nodup

/-!
# First occurrences

A list without its repetitions has each item once, where it first stands. It can be had at once or
item by item: adding only what is not there yet, over and over, gives the same list in the end.
-/

namespace ShaderAssembly

variable {α : Type} [BEq α] [LawfulBEq α]

theorem eraseDups_concat (xs : List α) (x : α) :
    (xs ++ [x]).eraseDups = if x ∈ xs then xs.eraseDups else xs.eraseDups ++ [x] := by
  rw [List.eraseDups_append]
  split <;> rename_i hmem <;> simp [List.removeAll, hmem, List.eraseDups_cons]

omit [LawfulBEq α] in
theorem head?_eraseDups (xs : List α) : xs.eraseDups.head? = xs.head? := by
  cases xs with
  | nil => rfl
  | cons x xs => rw [List.eraseDups_cons, List.head?_cons, List.head?_cons]

theorem nodup_eraseDups (xs : List α) : xs.eraseDups.Nodup := by
  induction xs using List.reverseRecOn with
  | nil => exact List.nodup_nil
  | append_singleton xs x ih =>
      rw [eraseDups_concat]
      split
      · exact ih
      · rename_i hmem
        rw [← List.concat_eq_append]
        exact ih.concat (mt List.mem_eraseDups.1 hmem)

/-- What a list repeats may be dropped before it is put after another one. -/
theorem eraseDups_append_eraseDups (xs ys : List α) :
    (xs ++ ys.eraseDups).eraseDups = (xs ++ ys).eraseDups := by
  induction ys using List.reverseRecOn with
  | nil => rfl
  | append_singleton ys y ih =>
      rw [← List.append_assoc, eraseDups_concat, eraseDups_concat]
      by_cases hmem : y ∈ ys
      · rw [if_pos hmem, if_pos (List.mem_append_right xs hmem), ih]
      · have hiff : y ∈ xs ++ ys.eraseDups ↔ y ∈ xs ++ ys := by
          rw [List.mem_append, List.mem_append, List.mem_eraseDups]
        rw [if_neg hmem, ← List.append_assoc, eraseDups_concat, ih]
        exact if_congr hiff rfl rfl

theorem eraseDups_append_of_subset {xs ys : List α} (h : ys ⊆ xs) :
    (xs ++ ys).eraseDups = xs.eraseDups := by
  have hnone : ys.removeAll xs = [] := by
    rw [List.removeAll, List.filter_eq_nil_iff]
    intro y hy
    simp [h hy]
  rw [List.eraseDups_append, hnone, List.eraseDups_nil, List.append_nil]

/-- Items that are added one by one, unless they are there, end up at their first occurrences. -/
theorem foldl_add_new_eq_eraseDups (items : List α) :
    items.foldl (fun xs x => if x ∈ xs then xs else xs ++ [x]) [] = items.eraseDups := by
  induction items using List.reverseRecOn with
  | nil => rfl
  | append_singleton items x ih =>
      rw [List.foldl_append, ih, eraseDups_concat]
      exact if_congr List.mem_eraseDups rfl rfl

end ShaderAssembly

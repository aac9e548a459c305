import Mathlib.Data.List.DropRight
import ShaderAssembly.Text.Blank

/-!
# Trimmed texts

A text is trimmed if it neither starts nor ends with a blank. Trimming always gives such a text and
leaves one alone that is trimmed already. Blanks around a text make no difference to it, so what is
inside them can be had back however it was padded.
-/

namespace ShaderAssembly.Text

/-- The text neither starts nor ends with a blank. -/
structure Trimmed (s : String) : Prop where
  first : ∀ c, s.toList.head? = some c → isBlank c = false
  last : ∀ c, s.toList.getLast? = some c → isBlank c = false

/-- The text holds nothing but blanks. -/
def AllBlank (s : String) : Prop := ∀ c ∈ s.toList, isBlank c = true

instance (s : String) : Decidable (AllBlank s) := List.decidableBAll _ s.toList

variable {cs before after : List Char}

theorem trimChars_eq_rdropWhile (cs : List Char) :
    trimChars cs = (cs.dropWhile isBlank).rdropWhile isBlank := rfl

/-! ### What trimming gives -/

theorem head?_trimChars {c : Char} (h : (trimChars cs).head? = some c) : isBlank c = false := by
  rw [trimChars_eq_rdropWhile] at h
  obtain ⟨rest, hrest⟩ := List.rdropWhile_prefix isBlank (cs.dropWhile isBlank)
  have hhead : (cs.dropWhile isBlank).head? = some c := by
    rw [← hrest, List.head?_append, h, Option.some_or]
  have hnot := List.head?_dropWhile_not isBlank cs
  rw [hhead] at hnot
  exact hnot

theorem getLast?_trimChars {c : Char} (h : (trimChars cs).getLast? = some c) :
    isBlank c = false := by
  rw [trimChars_eq_rdropWhile] at h
  have hne : (cs.dropWhile isBlank).rdropWhile isBlank ≠ [] := by
    intro hnil
    rw [hnil] at h
    contradiction
  obtain rfl := (List.getLast_eq_iff_getLast?_eq_some hne).2 h
  exact Bool.eq_false_iff.2 (List.rdropWhile_last_not isBlank _ hne)

theorem trimmed_trim (s : String) : Trimmed (trim s) := by
  rw [trim]
  refine ⟨fun c h => ?_, fun c h => ?_⟩
  · rw [String.toList_ofList] at h
    exact head?_trimChars h
  · rw [String.toList_ofList] at h
    exact getLast?_trimChars h

/-- Trimming adds nothing. -/
theorem mem_of_mem_trim {s : String} {c : Char} (h : c ∈ (trim s).toList) : c ∈ s.toList := by
  rw [trim, String.toList_ofList, trimChars_eq_rdropWhile] at h
  exact (List.dropWhile_suffix isBlank).subset ((List.rdropWhile_prefix isBlank _).subset h)

/-! ### What trimming leaves alone -/

theorem dropWhile_of_head? (h : ∀ c, cs.head? = some c → isBlank c = false) :
    cs.dropWhile isBlank = cs := by
  cases cs with
  | nil => rfl
  | cons c rest => rw [List.dropWhile_cons, h c rfl, if_neg Bool.false_ne_true]

theorem rdropWhile_of_getLast? (h : ∀ c, cs.getLast? = some c → isBlank c = false) :
    cs.rdropWhile isBlank = cs := by
  rw [List.rdropWhile_eq_self_iff]
  intro hne
  rw [h _ (List.getLast?_eq_some_getLast hne)]
  exact Bool.false_ne_true

theorem trim_of_trimmed {s : String} (h : Trimmed s) : trim s = s := by
  rw [trim, trimChars_eq_rdropWhile, dropWhile_of_head? h.first, rdropWhile_of_getLast? h.last,
    String.ofList_toList]

theorem trimmed_iff {s : String} : Trimmed s ↔ trim s = s :=
  ⟨trim_of_trimmed, fun h => h ▸ trimmed_trim s⟩

instance (s : String) : Decidable (Trimmed s) := decidable_of_iff _ trimmed_iff.symm

theorem rdropWhile_append_blanks (hafter : ∀ c ∈ after, isBlank c = true) :
    (cs ++ after).rdropWhile isBlank = cs.rdropWhile isBlank := by
  have hreverse : ∀ c ∈ after.reverse, isBlank c = true := fun c hc =>
    hafter c (List.mem_reverse.1 hc)
  rw [List.rdropWhile, List.reverse_append, List.dropWhile_append_of_pos hreverse, List.rdropWhile]

theorem trimChars_padded (hbefore : ∀ c ∈ before, isBlank c = true)
    (hafter : ∀ c ∈ after, isBlank c = true) :
    trimChars (before ++ cs ++ after) = trimChars cs := by
  rw [List.append_assoc, trimChars_eq_rdropWhile, trimChars_eq_rdropWhile,
    List.dropWhile_append_of_pos hbefore, List.dropWhile_append]
  split
  · rename_i hempty
    rw [List.isEmpty_iff.1 hempty, List.dropWhile_eq_nil_iff.2 hafter]
  · exact rdropWhile_append_blanks hafter

/-- Blanks around a text make no difference. -/
theorem trim_padded {s w w' : String} (h : AllBlank w) (h' : AllBlank w') :
    trim (w ++ s ++ w') = trim s := by
  rw [trim, String.toList_append, String.toList_append, trimChars_padded h h', trim]

end ShaderAssembly.Text

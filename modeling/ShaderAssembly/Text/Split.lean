/-!
# Splitting a text at a separator

A text is cut at one separator character, either at every place where it stands or at the first
one only. The pieces hold no separator, and joining them with it gives the text back.
-/

namespace ShaderAssembly.Text

/-- The pieces of `cs` between the separators, one more than there are separators. -/
def splitAll (sep : Char) : List Char → List (List Char)
  | [] => [[]]
  | c :: rest =>
    if c = sep then [] :: splitAll sep rest
    else match splitAll sep rest with
      | [] => [[c]]
      | piece :: pieces => (c :: piece) :: pieces

/-- What stands before and after the first separator, if there is one. -/
def splitFirst (sep : Char) : List Char → Option (List Char × List Char)
  | [] => none
  | c :: rest =>
    if c = sep then some ([], rest)
    else (splitFirst sep rest).map fun (before, after) => (c :: before, after)

/-- The pieces with the separator between them again. -/
def joinAll (sep : Char) : List (List Char) → List Char
  | [] => []
  | [piece] => piece
  | piece :: pieces => piece ++ sep :: joinAll sep pieces

theorem splitAll_ne_nil (sep : Char) (cs : List Char) : splitAll sep cs ≠ [] := by
  cases cs with
  | nil => simp [splitAll]
  | cons c rest => simp only [splitAll]; split <;> (try split) <;> simp

theorem joinAll_cons_cons (sep c : Char) (piece : List Char) (pieces : List (List Char)) :
    joinAll sep ((c :: piece) :: pieces) = c :: joinAll sep (piece :: pieces) := by
  cases pieces <;> simp [joinAll]

/-- Splitting loses nothing. -/
theorem joinAll_splitAll (sep : Char) (cs : List Char) : joinAll sep (splitAll sep cs) = cs := by
  induction cs with
  | nil => rfl
  | cons c rest ih =>
    have hne := splitAll_ne_nil sep rest
    simp only [splitAll]
    split
    next h =>
      cases hs : splitAll sep rest with
      | nil => exact absurd hs hne
      | cons piece pieces => rw [hs] at ih; simp [joinAll, ih, h]
    next h =>
      cases hs : splitAll sep rest with
      | nil => exact absurd hs hne
      | cons piece pieces => rw [hs] at ih; simp [joinAll_cons_cons, ih]

/-- No piece holds a separator. -/
theorem not_mem_of_mem_splitAll {sep : Char} {cs piece : List Char}
    (h : piece ∈ splitAll sep cs) : sep ∉ piece := by
  induction cs generalizing piece with
  | nil => simp [splitAll] at h; simp [h]
  | cons c rest ih =>
    simp only [splitAll] at h
    split at h
    next => rcases List.mem_cons.1 h with rfl | h; · simp
            · exact ih h
    next hc =>
      split at h
      next => simp at h; subst h; simpa using fun e => hc e.symm
      next p ps hs =>
        rcases List.mem_cons.1 h with rfl | h
        · have := @ih p (by simp [hs])
          simp only [List.mem_cons, not_or]; exact ⟨fun e => hc e.symm, this⟩
        · exact ih (by simp [hs, h])

theorem splitFirst_of_not_mem {sep : Char} {cs : List Char} (h : sep ∉ cs) :
    splitFirst sep cs = none := by
  induction cs with
  | nil => rfl
  | cons c cs ih =>
      rw [List.mem_cons, not_or] at h
      rw [splitFirst, if_neg (Ne.symm h.1), ih h.2, Option.map_none]

theorem splitFirst_append_cons {sep : Char} {before : List Char} (h : sep ∉ before)
    (after : List Char) : splitFirst sep (before ++ sep :: after) = some (before, after) := by
  induction before with
  | nil => rw [List.nil_append, splitFirst, if_pos rfl]
  | cons c before ih =>
      rw [List.mem_cons, not_or] at h
      rw [List.cons_append, splitFirst, if_neg (Ne.symm h.1), ih h.2, Option.map_some]

end ShaderAssembly.Text

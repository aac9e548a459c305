import ShaderAssembly.Shader.Basic

/-!
# Adding at both ends

A list that grows at both ends ends up with what came to the front first, in reverse, then what it
had, then what came to the back. Every sequence of a shader that additions of either side build up
is read off from this one equation.
-/

namespace ShaderAssembly

variable {α β : Type}

/-- Additions at either end leave three segments, of which only the first is reversed. -/
theorem foldl_add_eq (item : β → α) (side : β → Side) (additions : List β) (xs : List α) :
    additions.foldl (fun xs b => (side b).add (item b) xs) xs
      = ((additions.filter (side · = .front)).map item).reverse ++ xs
        ++ (additions.filter (side · = .back)).map item := by
  induction additions generalizing xs with
  | nil => simp
  | cons b additions ih =>
      rw [List.foldl_cons, ih]
      cases hside : side b with
      | front => simp [Side.add, hside]
      | back => simp [Side.add, hside]

/-- The same, where each step may add any number of items at either end. -/
theorem foldl_both_ends {γ : Type} {view : α → List γ} {step : α → β → α} {front back : β → List γ}
    (hstep : ∀ a b, view (step a b) = (front b).reverse ++ view a ++ back b) (items : List β)
    (start : α) :
    view (items.foldl step start)
      = (items.flatMap front).reverse ++ view start ++ items.flatMap back := by
  induction items generalizing start with
  | nil => simp
  | cons b items ih =>
      rw [List.foldl_cons, ih, hstep, List.flatMap_cons, List.flatMap_cons, List.reverse_append]
      simp only [List.append_assoc]

theorem foldl_at_back {γ : Type} {view : α → List γ} {step : α → β → α} {back : β → List γ}
    (hstep : ∀ a b, view (step a b) = view a ++ back b) (items : List β) (start : α) :
    view (items.foldl step start) = view start ++ items.flatMap back := by
  have hboth : ∀ a b, view (step a b) = ([] : List γ).reverse ++ view a ++ back b := hstep
  have hnone : items.flatMap (fun _ => ([] : List γ)) = [] :=
    List.flatMap_eq_nil_iff.2 fun _ _ => rfl
  rw [foldl_both_ends hboth, hnone, List.reverse_nil, List.nil_append]

/-- What no step of a fold changes, the fold does not change. -/
theorem foldl_unchanged {γ : Type} (view : α → γ) (step : α → β → α)
    (hstep : ∀ a b, view (step a b) = view a) (items : List β) (start : α) :
    view (items.foldl step start) = view start := by
  induction items generalizing start with
  | nil => rfl
  | cons b items ih => rw [List.foldl_cons, ih, hstep]

end ShaderAssembly

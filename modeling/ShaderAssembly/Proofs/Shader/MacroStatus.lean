import ShaderAssembly.Proofs.Shader.Remembered

/-!
# What a macro name stands for

Macro operations are never merged, so what a name stands for is decided by the last operation on it.
A sequence that is put behind another one therefore decides every name that it mentions, and leaves
the others to the first. All that is ever added to a shader is such a sequence: a definition at the
front stands before everything else and decides a name only if nothing does, while all other
operations stand behind. So a name that was removed stays removed until an operation on it, or a
shader that has one, is added at the back.
-/

namespace ShaderAssembly

namespace MacroOp

/-- The last operation on a name, if there is one. -/
def lastOn? (name : String) (ops : List MacroOp) : Option MacroOp :=
  ops.reverse.find? (·.name == name)

theorem lastOn?_append (name : String) (ops more : List MacroOp) :
    lastOn? name (ops ++ more) = (lastOn? name more).or (lastOn? name ops) := by
  rw [lastOn?, List.reverse_append, List.find?_append]
  rfl

theorem lastOn?_reverse (name : String) (ops : List MacroOp) :
    lastOn? name ops.reverse = ops.find? (·.name == name) := by
  rw [lastOn?, List.reverse_reverse]

theorem lastOn?_flatMap {α : Type} (name : String) (ops : α → List MacroOp) (items : List α) :
    lastOn? name (items.flatMap ops)
      = items.reverse.findSome? fun item => lastOn? name (ops item) := by
  rw [lastOn?, List.reverse_flatMap, List.find?_flatMap]
  rfl

theorem lastOn?_singleton (name : String) (op : MacroOp) :
    lastOn? name [op] = if op.name = name then some op else none := by
  rw [lastOn?, List.reverse_singleton, List.find?_singleton]
  exact if_congr beq_iff_eq rfl rfl

theorem lastOn?_eq_none_iff {name : String} {ops : List MacroOp} :
    lastOn? name ops = none ↔ ∀ op ∈ ops, op.name ≠ name := by
  simp [lastOn?, List.find?_eq_none]

end MacroOp

/-- What a name stands for. -/
inductive MacroStatus where
  | unmentioned
  | undefined
  | defined (value : String)
  deriving DecidableEq, Repr

/-- What an operation makes of its name. -/
def MacroOp.status : MacroOp → MacroStatus
  | define _ value => .defined value
  | undefine _ => .undefined

/-- What a name stands for after some operations: what the last one on it has made of it. -/
def MacroStatus.after (name : String) (ops : List MacroOp) : MacroStatus :=
  (MacroOp.lastOn? name ops).elim .unmentioned MacroOp.status

namespace Shader

def status (shader : Shader) (name : String) : MacroStatus := .after name shader.macros

/-- Some operation of the shader is on the name. -/
def Mentions (shader : Shader) (name : String) : Prop := ∃ op ∈ shader.macros, op.name = name

instance (shader : Shader) (name : String) : Decidable (shader.Mentions name) :=
  inferInstanceAs (Decidable (∃ op ∈ shader.macros, op.name = name))

end Shader

/-! ### Operations behind operations -/

/-- What stands behind decides the names that it mentions, and no others. -/
theorem MacroStatus.after_append (name : String) (ops more : List MacroOp) :
    after name (ops ++ more)
      = if ∃ op ∈ more, op.name = name then after name more else after name ops := by
  rw [after, MacroOp.lastOn?_append]
  split
  · rename_i hmore
    cases hlast : MacroOp.lastOn? name more with
    | some op => rw [Option.some_or, after, hlast]
    | none =>
        obtain ⟨op, hop, hname⟩ := hmore
        exact absurd hname (MacroOp.lastOn?_eq_none_iff.1 hlast op hop)
  · rename_i hmore
    have hnone : MacroOp.lastOn? name more = none :=
      MacroOp.lastOn?_eq_none_iff.2 fun op hop hname => hmore ⟨op, hop, hname⟩
    rw [hnone, Option.none_or, after]

theorem MacroStatus.after_concat (name : String) (ops : List MacroOp) (op : MacroOp) :
    after name (ops ++ [op]) = if name = op.name then op.status else after name ops := by
  have hlast : op.name = name → after name [op] = op.status := fun hname => by
    rw [after, MacroOp.lastOn?_singleton, if_pos hname, Option.elim_some]
  rw [after_append]
  refine if_ctx_congr ?_ (fun hname => hlast hname.symm) fun _ => rfl
  simp [eq_comm]

namespace Shader

theorem status_define_back (shader : Shader) (name value asked : String) :
    (shader.define name value .back).status asked
      = if asked = name then .defined value else shader.status asked :=
  MacroStatus.after_concat asked shader.macros (.define name value)

theorem status_undefine (shader : Shader) (name asked : String) :
    (shader.undefine name).status asked
      = if asked = name then .undefined else shader.status asked :=
  MacroStatus.after_concat asked shader.macros (.undefine name)

theorem status_appendBody (shader other : Shader) (asked : String) :
    (shader.appendBody other).status asked
      = if other.Mentions asked then other.status asked else shader.status asked :=
  MacroStatus.after_append asked shader.macros other.macros

theorem status_eq_unmentioned_iff {shader : Shader} {name : String} :
    shader.status name = .unmentioned ↔ ¬ shader.Mentions name := by
  rw [status, MacroStatus.after]
  cases hlast : MacroOp.lastOn? name shader.macros with
  | none =>
      rw [Option.elim_none, eq_self, true_iff]
      rintro ⟨op, hop, hname⟩
      exact MacroOp.lastOn?_eq_none_iff.1 hlast op hop hname
  | some op =>
      have hmentions : shader.Mentions name := by
        by_contra hnot
        rw [MacroOp.lastOn?_eq_none_iff.2 fun op hop hname => hnot ⟨op, hop, hname⟩] at hlast
        contradiction
      rw [Option.elim_some, iff_false_right (not_not_intro hmentions)]
      cases op <;> exact MacroStatus.noConfusion

/-- A definition at the front decides its name only if nothing else does. -/
theorem status_define_front (shader : Shader) (name value asked : String) :
    (shader.define name value .front).status asked
      = if asked = name ∧ ¬ shader.Mentions name then .defined value else shader.status asked := by
  have hfront : (shader.define name value .front).status asked
      = if shader.Mentions asked then shader.status asked
        else MacroStatus.after asked ([] ++ [.define name value]) :=
    MacroStatus.after_append asked [.define name value] shader.macros
  rw [hfront, MacroStatus.after_concat]
  by_cases hmentions : shader.Mentions asked
  · rw [if_pos hmentions, if_neg]
    rintro ⟨rfl, hnot⟩
    exact hnot hmentions
  · rw [if_neg hmentions, status_eq_unmentioned_iff.2 hmentions]
    refine if_ctx_congr ?_ (fun _ => rfl) fun _ => rfl
    constructor
    · rintro rfl
      exact ⟨rfl, hmentions⟩
    · exact fun h => h.1

end Shader

/-! ### Steps at a workbench -/

namespace Step

/-- The name under which a shader stands after the step. Only an exchange moves shaders. -/
def follow (name : String) : Step → String
  | .swap a b => if name = a then b else if name = b then a else name
  | _ => name

/-- The step puts another shader under the name. -/
def replaces (name : String) : Step → Bool
  | .change place .clear => place == name
  | .change place (.replaceByText _) => place == name
  | .copy source target => target == name && source != name
  | _ => false

/-- The step defines the macro at the back of the shader under the name, or merges a shader into it
that mentions the macro. -/
def redefines (bench : Workbench) (name macroName : String) : Step → Bool
  | .change place (.define defined _ .back) => place == name && defined == macroName
  | .change place (.appendBody other) => place == name && decide ((bench other).Mentions macroName)
  | _ => false

end Step

namespace Workbench

variable {bench : Workbench} {name macroName : String}

/-- None of the steps, one after another, puts another shader in the place of the one that stands
under the name at first, nor redefines the macro in it. -/
def spares : Workbench → String → String → List Step → Bool
  | _, _, _, [] => true
  | bench, name, macroName, s :: steps =>
    !s.replaces name && !s.redefines bench name macroName &&
      spares (bench.step s).1 (s.follow name) macroName steps

theorem spares_cons_eq_true_iff {s : Step} {steps : List Step} :
    spares bench name macroName (s :: steps) = true ↔
      s.replaces name = false ∧ s.redefines bench name macroName = false ∧
        spares (bench.step s).1 (s.follow name) macroName steps = true := by
  simp [spares, and_assoc]

/-- A change that spares the macro leaves it undefined. -/
theorem status_changed_of_undefined (h : (bench name).status macroName = .undefined)
    {change : Change} (hplace : (Step.change name change).replaces name = false)
    (hspared : (Step.change name change).redefines bench name macroName = false) :
    (bench.changed name change).status macroName = .undefined := by
  have hmentions : (bench name).Mentions macroName := by
    by_contra hnot
    rw [Shader.status_eq_unmentioned_iff.2 hnot] at h
    contradiction
  cases change with
  | clear | replaceByText => simp [Step.replaces] at hplace
  | setVersion | addBlock | setExtension | setExtensionsOf | dropPrelude => exact h
  | appendBody other =>
      have hother : ¬ (bench other).Mentions macroName := by simpa [Step.redefines] using hspared
      rw [changed, Shader.status_appendBody, if_neg hother, h]
  | undefine other => rw [changed, Shader.status_undefine, h, ite_self]
  | define other value side =>
      cases side with
      | front =>
          rw [changed, Shader.status_define_front, if_neg, h]
          rintro ⟨rfl, hnot⟩
          exact hnot hmentions
      | back =>
          have hother : other ≠ macroName := by simpa [Step.redefines] using hspared
          rw [changed, Shader.status_define_back, if_neg hother.symm, h]

theorem status_step_of_undefined (h : (bench name).status macroName = .undefined) {s : Step}
    (hplace : s.replaces name = false) (hspared : s.redefines bench name macroName = false) :
    ((bench.step s).1 (s.follow name)).status macroName = .undefined := by
  cases s with
  | assemble => exact h
  | change place change =>
      change (bench.put place _ name).status macroName = _
      by_cases hname : name = place
      · subst hname
        rw [put_same]
        exact status_changed_of_undefined h hplace hspared
      · rwa [put_other hname]
  | copy source target =>
      change (bench.put target _ name).status macroName = _
      by_cases hname : name = target
      · have hsource : source = name := by simpa [Step.replaces, hname] using hplace
        rwa [hname, put_same, hsource]
      · rwa [put_other hname]
  | swap a b =>
      change ((bench.put a _).put b _ ((Step.swap a b).follow name)).status macroName = _
      rw [Step.follow]
      by_cases ha : name = a
      · rwa [if_pos ha, put_same, ← ha]
      · rw [if_neg ha]
        by_cases hb : name = b
        · rwa [if_pos hb, put_other (fun hab => ha (hb.trans hab.symm)), put_same, ← hb]
        · rwa [if_neg hb, put_other hb, put_other ha]
  | code place resolver =>
      change (bench.put place ((bench place).assembledCode resolver).2 name).status macroName = _
      by_cases hname : name = place
      · subst hname
        rwa [put_same, Shader.status, Shader.assembledCode_unchanged Shader.macros fun _ _ => rfl]
      · rwa [put_other hname]

theorem status_run_of_undefined (h : (bench name).status macroName = .undefined)
    {steps : List Step} (hspared : spares bench name macroName steps = true) :
    ((bench.run steps).1 (steps.foldl Step.follow name)).status macroName = .undefined := by
  induction steps generalizing bench name with
  | nil => exact h
  | cons s steps ih =>
      obtain ⟨hplace, hstep, hrest⟩ := spares_cons_eq_true_iff.1 hspared
      exact ih (status_step_of_undefined h hplace hstep) hrest

/-- **Front definitions are defaults, and removals stick.** A definition at the front decides its
name only if the shader does not mention it. A definition at the back, a removal and a merge decide
the names that they mention. All other names are left alone. So after a removal, a name stays
undefined, wherever the shader is moved, until it is defined at the back or a shader that mentions
it is merged. -/
theorem front_defines_yield_and_removals_stick :
    (∀ (shader : Shader) (name value asked : String),
      (shader.define name value .front).status asked
        = if asked = name ∧ shader.status name = .unmentioned then .defined value
          else shader.status asked) ∧
    (∀ (shader : Shader) (name value asked : String),
      (shader.define name value .back).status asked
        = if asked = name then .defined value else shader.status asked) ∧
    (∀ (shader : Shader) (name asked : String),
      (shader.undefine name).status asked
        = if asked = name then .undefined else shader.status asked) ∧
    (∀ (shader other : Shader) (asked : String),
      (shader.appendBody other).status asked
        = if other.Mentions asked then other.status asked else shader.status asked) ∧
    ∀ (bench : Workbench) (name macroName : String) (steps : List Step),
      let removed := (bench.step (.change name (.undefine macroName))).1
      spares removed name macroName steps = true →
        ((removed.run steps).1 (steps.foldl Step.follow name)).status macroName = .undefined := by
  refine ⟨fun shader name value asked => ?_, Shader.status_define_back, Shader.status_undefine,
    Shader.status_appendBody, fun bench name macroName steps hspared => ?_⟩
  · rw [Shader.status_define_front]
    exact if_congr (and_congr_right' Shader.status_eq_unmentioned_iff.symm) rfl rfl
  · refine status_run_of_undefined ?_ hspared
    change (bench.put name _ name).status macroName = _
    rw [put_same, changed, Shader.status_undefine, if_pos rfl]

/-- Front definitions of a removed macro, a move of the shader, and a merge of another one. -/
def movedAndMerged : List Step :=
  [.change "p" (.define "A" "1" .front), .change "q" (.define "B" "2" .back), .swap "p" "q",
   .change "q" (.appendBody "p"), .code "q" nowhere, .change "q" (.define "A" "3" .front)]

def defining : Workbench := start fun _ => none

theorem movedAndMerged_keeps_removed :
    let removed := (defining.step (.change "p" (.undefine "A"))).1
    spares removed "p" "A" movedAndMerged = true ∧
    movedAndMerged.foldl Step.follow "p" = "q" ∧
    ((removed.run movedAndMerged).1 "q").status "A" = .undefined ∧
    ((removed.run movedAndMerged).1 "q").status "B" = .defined "2" := by
  intro removed
  have hspared : spares removed "p" "A" movedAndMerged = true := by decide +kernel
  obtain ⟨-, -, -, -, hrun⟩ := front_defines_yield_and_removals_stick
  exact ⟨hspared, rfl, hrun _ "p" "A" movedAndMerged hspared, by decide +kernel⟩

end Workbench

end ShaderAssembly

import Mathlib.Data.Set.Insert
import ShaderAssembly.Shader.Workbench

/-!
# What shaders remember

A shader may remember code that was assembled with another resolver than the one at hand, but never
code of another content: what it remembers is what one of the resolvers asked so far still makes of
it. That is an invariant of every step at a workbench. A change forgets, and so needs nothing of the
shader it changes; a copy and a swap move a shader as a whole; and only asking for remembered code
adds a resolver. If a single resolver is ever asked, remembered code is what assembling afresh would
give, and no answer shows that anything was remembered.
-/

namespace ShaderAssembly

namespace Shader

/-- What the shader remembers is what some of the resolvers make of its present content. -/
def Current (asked : Set Resolver) (shader : Shader) : Prop :=
  ∀ code, shader.assembled = some code →
    ∃ resolver ∈ asked, shader.assemble resolver = .ok code

variable {asked more : Set Resolver} {shader : Shader}

theorem current_of_forgotten (asked : Set Resolver) (h : shader.assembled = none) :
    shader.Current asked := by
  intro code hcode
  rw [h] at hcode
  contradiction

theorem Current.mono (h : shader.Current asked) (hsub : asked ⊆ more) : shader.Current more := by
  intro code hcode
  obtain ⟨resolver, hasked, hassemble⟩ := h code hcode
  exact ⟨resolver, hsub hasked, hassemble⟩

/-- Asking for code changes nothing but what is remembered. -/
theorem assembledCode_unchanged {γ : Type} (view : Shader → γ)
    (hview : ∀ shader code, view { shader with assembled := code } = view shader)
    (shader : Shader) (resolver : Resolver) :
    view (shader.assembledCode resolver).2 = view shader := by
  rw [assembledCode]
  split
  · rfl
  · split
    · exact hview shader _
    · rfl

theorem Current.assembledCode (h : shader.Current asked) (resolver : Resolver) :
    (shader.assembledCode resolver).2.Current (insert resolver asked) := by
  rw [Shader.assembledCode]
  cases hassembled : shader.assembled with
  | some code => exact h.mono (Set.subset_insert resolver asked)
  | none =>
      cases hassemble : shader.assemble resolver with
      | error e => exact current_of_forgotten _ hassembled
      | ok code =>
          intro code' hcode'
          obtain rfl : code = code' := Option.some.inj hcode'
          exact ⟨resolver, Set.mem_insert resolver asked, hassemble⟩

theorem Current.assembledCode_eq (h : shader.Current asked) {resolver : Resolver}
    (honly : asked ⊆ {resolver}) :
    (shader.assembledCode resolver).1 = shader.assemble resolver := by
  rw [Shader.assembledCode]
  cases hassembled : shader.assembled with
  | some code =>
      obtain ⟨resolver', hasked, hassemble⟩ := h code hassembled
      obtain rfl : resolver' = resolver := honly hasked
      exact hassemble.symm
  | none => cases hassemble : shader.assemble resolver <;> rfl

end Shader

namespace Workbench

def asked (steps : List Step) : Set Resolver := {resolver | ∃ name, Step.code name resolver ∈ steps}

def Current (asked : Set Resolver) (bench : Workbench) : Prop :=
  ∀ name, (bench name).Current asked

/-- The workbench on which some shaders start with a text and all others without content. -/
def start (texts : String → Option String) : Workbench :=
  fun name => (texts name).elim .empty .ofText

variable {known : Set Resolver} {bench : Workbench}

theorem current_start (texts : String → Option String) : (start texts).Current ∅ := by
  intro name
  refine Shader.current_of_forgotten ∅ ?_
  rw [start]
  cases texts name <;> rfl

/-- Whatever changes a shader makes it forget. -/
theorem assembled_changed (bench : Workbench) (name : String) (change : Change) :
    (bench.changed name change).assembled = none := by
  cases change <;> rfl

theorem put_same (bench : Workbench) (name : String) (shader : Shader) :
    bench.put name shader name = shader := if_pos rfl

theorem put_other {name place : String} (h : name ≠ place) (bench : Workbench) (shader : Shader) :
    bench.put place shader name = bench name := if_neg h

/-- What holds of all shaders and of one that is put among them holds of all again. -/
theorem forall_put {property : Shader → Prop} (h : ∀ name, property (bench name)) {shader : Shader}
    (hshader : property shader) (place : String) :
    ∀ name, property (bench.put place shader name) := by
  intro name
  by_cases hname : name = place
  · rwa [hname, put_same]
  · rw [put_other hname]
    exact h name

theorem Current.put (h : bench.Current known) {shader : Shader} (hshader : shader.Current known)
    (name : String) : (bench.put name shader).Current known := forall_put h hshader name

theorem Current.mono {more : Set Resolver} (h : bench.Current known) (hsub : known ⊆ more) :
    bench.Current more := fun name => (h name).mono hsub

theorem Current.step (h : bench.Current known) (s : Step) :
    (bench.step s).1.Current (known ∪ asked [s]) := by
  have hknown : bench.Current (known ∪ asked [s]) := h.mono Set.subset_union_left
  cases s with
  | change name change =>
      exact hknown.put (Shader.current_of_forgotten _ (assembled_changed bench name change)) name
  | copy source target => exact hknown.put (hknown source) target
  | swap a b => exact (hknown.put (hknown b) a).put (hknown a) b
  | assemble name resolver => exact hknown
  | code name resolver =>
      have hasked : insert resolver known ⊆ known ∪ asked [.code name resolver] := by
        refine Set.insert_subset (.inr ⟨name, List.mem_singleton_self _⟩) Set.subset_union_left
      exact hknown.put (((h name).assembledCode resolver).mono hasked) name

theorem asked_cons (s : Step) (steps : List Step) :
    asked (s :: steps) = asked [s] ∪ asked steps := by
  ext resolver
  simp only [asked, Set.mem_union, Set.mem_ofPred_eq, List.mem_cons, List.not_mem_nil, or_false,
    exists_or]

theorem Current.run (h : bench.Current known) (steps : List Step) :
    (bench.run steps).1.Current (known ∪ asked steps) := by
  induction steps generalizing bench known with
  | nil => exact h.mono Set.subset_union_left
  | cons s steps ih =>
      rw [asked_cons, ← Set.union_assoc]
      exact ih (h.step s)

theorem asked_subset_of_append {before rest steps : List Step} (h : steps = before ++ rest) :
    asked before ⊆ asked steps := by
  rintro resolver ⟨name, hmem⟩
  exact ⟨name, h ▸ List.mem_append_left rest hmem⟩

/-- **Remembered code is current.** After any steps, what a shader remembers is what some resolver
asked on the way makes of its present content. So if all ask the same resolver, each answer is what
assembling afresh would give at that point. -/
theorem run_remembers_current (texts : String → Option String) (steps : List Step) :
    (∀ name code, (((start texts).run steps).1 name).assembled = some code →
      ∃ resolver, (∃ asking, Step.code asking resolver ∈ steps) ∧
        (((start texts).run steps).1 name).assemble resolver = .ok code) ∧
    ∀ resolver, (∀ asking other, Step.code asking other ∈ steps → other = resolver) →
      ∀ before name rest, steps = before ++ .code name resolver :: rest →
        (((start texts).run before).1.step (.code name resolver)).2
          = some ((((start texts).run before).1 name).assemble resolver) := by
  have hrun (steps : List Step) : ((start texts).run steps).1.Current (asked steps) := by
    have h := (current_start texts).run steps
    rwa [Set.empty_union] at h
  refine ⟨fun name code hcode => ?_, fun resolver hsame before name rest hsplit => ?_⟩
  · obtain ⟨resolver, hasked, hassemble⟩ := hrun steps name code hcode
    exact ⟨resolver, hasked, hassemble⟩
  · have honly : asked before ⊆ {resolver} := by
      rintro other hother
      obtain ⟨asking, hmem⟩ := asked_subset_of_append hsplit hother
      exact hsame asking other hmem
    exact congrArg some ((hrun before name).assembledCode_eq honly)

def nowhere : Resolver := ⟨fun _ => .error .notFound, fun _ => none⟩

def passedOn : List Step := [.code "a" nowhere, .copy "a" "b", .swap "b" "c"]

theorem passedOn_remembers_current :
    (∃ code, (((start fun _ => some "x").run passedOn).1 "c").assembled = some code ∧
      ∃ resolver, (∃ asking, Step.code asking resolver ∈ passedOn) ∧
        (((start fun _ => some "x").run passedOn).1 "c").assemble resolver = .ok code) ∧
    (((start fun _ => some "x").run passedOn).1.step (.code "c" nowhere)).2
      = some ((((start fun _ => some "x").run passedOn).1 "c").assemble nowhere) := by
  constructor
  · have hcode : (((start fun _ => some "x").run passedOn).1 "c").assembled = some _ := rfl
    exact ⟨_, hcode, (run_remembers_current _ passedOn).1 "c" _ hcode⟩
  · refine (run_remembers_current _ (passedOn ++ [.code "c" nowhere])).2 nowhere ?_ passedOn "c" []
      rfl
    intro asking other hmem
    have hother : asking = "a" ∧ other = nowhere ∨ asking = "c" ∧ other = nowhere := by
      simpa [passedOn] using hmem
    rcases hother with ⟨-, hother⟩ | ⟨-, hother⟩ <;> exact hother

end Workbench

end ShaderAssembly

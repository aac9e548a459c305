import ShaderAssembly.Pipeline.Basic
import ShaderAssembly.Proofs.Library.Sources
import ShaderAssembly.Proofs.Shader.Ends
import ShaderAssembly.Proofs.Shader.Resolution

/-!
# The shader of a pipeline

What the user wants changed comes last and touches the header only: the version, the prelude, and
macro operations after all those of the manifests. So the shader of a pipeline is the one its
library tree describes, with a new header and the same blocks.
-/

namespace ShaderAssembly

namespace BuildOptions

def applyOpening (options : BuildOptions) (shader : Shader) : Shader :=
  let shader := match options.version with
    | some version => shader.setVersion version
    | none => shader
  if options.noPrelude then shader.dropPrelude else shader

theorem apply_eq (options : BuildOptions) (shader : Shader) :
    options.apply shader = options.macros.foldl Shader.addMacro (options.applyOpening shader) := rfl

theorem applyOpening_unchanged {γ : Type} (view : Shader → γ)
    (hversion : ∀ shader version, view (Shader.setVersion shader version) = view shader)
    (hprelude : ∀ shader, view (Shader.dropPrelude shader) = view shader) (options : BuildOptions)
    (shader : Shader) : view (options.applyOpening shader) = view shader := by
  simp only [applyOpening]
  split <;> split <;> simp only [hversion, hprelude]

theorem version_applyOpening (options : BuildOptions) (shader : Shader) :
    (options.applyOpening shader).version = options.version.getD shader.version := by
  simp only [applyOpening]
  cases options.version <;> split <;> rfl

theorem prelude_applyOpening (options : BuildOptions) (shader : Shader) :
    (options.applyOpening shader).prelude = (shader.prelude && !options.noPrelude) := by
  simp only [applyOpening]
  cases options.noPrelude <;> cases options.version <;>
    simp [Shader.setVersion, Shader.dropPrelude]

theorem macros_addMacro (shader : Shader) (op : MacroOp) :
    (shader.addMacro op).macros = shader.macros ++ [op] := by
  cases op <;> rfl

theorem macros_foldl_addMacro (ops : List MacroOp) (shader : Shader) :
    (ops.foldl Shader.addMacro shader).macros = shader.macros ++ ops := by
  induction ops generalizing shader with
  | nil => simp
  | cons op ops ih =>
      rw [List.foldl_cons, ih, macros_addMacro, List.append_assoc, List.singleton_append]

theorem macros_apply (options : BuildOptions) (shader : Shader) :
    (options.apply shader).macros = shader.macros ++ options.macros := by
  rw [apply_eq, macros_foldl_addMacro,
    applyOpening_unchanged Shader.macros (fun _ _ => rfl) fun _ => rfl]

/-- What macro operations leave alone is as the opening leaves it. -/
theorem apply_unchanged {γ : Type} (view : Shader → γ)
    (hview : ∀ shader op, view (Shader.addMacro shader op) = view shader) (options : BuildOptions)
    (shader : Shader) : view (options.apply shader) = view (options.applyOpening shader) := by
  rw [apply_eq, foldl_unchanged view Shader.addMacro hview]

theorem blocks_apply (options : BuildOptions) (shader : Shader) :
    (options.apply shader).blocks = shader.blocks := by
  rw [apply_unchanged Shader.blocks fun _ op => by cases op <;> rfl,
    applyOpening_unchanged Shader.blocks (fun _ _ => rfl) fun _ => rfl]

theorem extensions_apply (options : BuildOptions) (shader : Shader) :
    (options.apply shader).extensions = shader.extensions := by
  rw [apply_unchanged Shader.extensions fun _ op => by cases op <;> rfl,
    applyOpening_unchanged Shader.extensions (fun _ _ => rfl) fun _ => rfl]

theorem version_apply (options : BuildOptions) (shader : Shader) :
    (options.apply shader).version = options.version.getD shader.version := by
  rw [apply_unchanged Shader.version fun _ op => by cases op <;> rfl, version_applyOpening]

theorem prelude_apply (options : BuildOptions) (shader : Shader) :
    (options.apply shader).prelude = (shader.prelude && !options.noPrelude) := by
  rw [apply_unchanged Shader.prelude fun _ op => by cases op <;> rfl, prelude_applyOpening]

theorem assembled_apply (options : BuildOptions) {shader : Shader}
    (h : shader.assembled = none) : (options.apply shader).assembled = none := by
  rw [apply_eq]
  refine Manifest.assembled_foldl _ (fun _ op => by cases op <;> rfl) _ ?_
  simp only [applyOpening]
  split <;> split <;> first | rfl | exact h

end BuildOptions

namespace Pipeline

variable {tree : FileTree} {pipeline : Pipeline} {shader : Shader}

/-- The shader of a pipeline is the one that is built, changed as the user wants. -/
theorem shader_eq_ok_iff_built :
    pipeline.shader tree = .ok shader ↔
      ∃ built dirs, Manifest.buildTracked tree pipeline.manifest pipeline.config.general
          = .ok (built, dirs) ∧ pipeline.options.apply built = shader := by
  rw [Pipeline.shader, trackedShader]
  cases Manifest.buildTracked tree pipeline.manifest pipeline.config.general with
  | error e => simp [Except.map]
  | ok built =>
      obtain ⟨built, dirs⟩ := built
      simp [Except.map]

theorem shader_eq_ok_iff :
    pipeline.shader tree = .ok shader ↔
      ∃ library : LibraryTree, library.Unfolds tree ∧ library.Faultless ∧
        tree.canonicalize pipeline.manifest = .ok library.root ∧
        shader = pipeline.options.apply (library.shader tree (some pipeline.config.general)) := by
  rw [shader_eq_ok_iff_built]
  constructor
  · rintro ⟨built, dirs, hbuilt, rfl⟩
    obtain ⟨library, hunfolds, hfaultless, hroot, rfl, -⟩ :=
      Manifest.buildTracked_eq_ok_iff.1 hbuilt
    exact ⟨library, hunfolds, hfaultless, hroot, rfl⟩
  · rintro ⟨library, hunfolds, hfaultless, hroot, rfl⟩
    exact ⟨_, _, Manifest.buildTracked_eq_ok_iff.2
      ⟨library, hunfolds, hfaultless, hroot, rfl, rfl⟩, rfl⟩

/-- A run stage by stage. The shader has been built and changed, so it remembers no code. -/
theorem run_eq (pipeline : Pipeline) (tree : FileTree) :
    pipeline.run tree =
      match pipeline.config.resolver tree with
      | .error cause => .error (.noResolver cause)
      | .ok resolver =>
        match Manifest.buildTracked tree pipeline.manifest pipeline.config.general with
        | .error cause => .error (.notBuilt pipeline.manifest cause)
        | .ok (built, dirs) =>
          match (pipeline.options.apply built).assemble resolver with
          | .error cause => .error (.notAssembled pipeline.manifest cause)
          | .ok code => .ok ⟨code, dirs⟩ := by
  rw [run, trackedShader]
  cases pipeline.config.resolver tree with
  | error cause => rfl
  | ok resolver =>
      cases hbuilt : Manifest.buildTracked tree pipeline.manifest pipeline.config.general with
      | error cause => rfl
      | ok built =>
          obtain ⟨library, -, -, -, hshader, -⟩ := Manifest.buildTracked_eq_ok_iff.1 hbuilt
          have hforgotten : (pipeline.options.apply built.1).assembled = none :=
            pipeline.options.assembled_apply (hshader ▸ library.assembled_shader tree _)
          simp only [Except.mapError, bind, Except.bind,
            Shader.assembledCode_of_forgotten hforgotten]
          cases (pipeline.options.apply built.1).assemble resolver <;> rfl

end Pipeline

end ShaderAssembly

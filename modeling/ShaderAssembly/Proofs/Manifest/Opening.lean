import ShaderAssembly.Proofs.Manifest.Sections

/-!
# The opening of a shader

The version and the prelude open a shader. A manifest states them by itself or takes them from the
defaults, and all else that it does neither reads nor writes them. So leaving the opening out of a
manifest and of a shader makes no difference to the rest, nor to whether the manifest is at fault.
-/

namespace ShaderAssembly

/-- The shader as if it had no version, had its prelude and remembered no code. -/
def Shader.withoutOpening (shader : Shader) : Shader :=
  { shader with version := "", prelude := true, assembled := none }

theorem Shader.eq_of_withoutOpening_eq {shader shader' : Shader}
    (h : shader'.withoutOpening = shader.withoutOpening)
    (hassembled : shader'.assembled = shader.assembled) :
    shader' = { shader with version := shader'.version, prelude := shader'.prelude } := by
  obtain ⟨version, extensions, macros, blocks, prelude, assembled⟩ := shader
  obtain ⟨version', extensions', macros', blocks', prelude', assembled'⟩ := shader'
  simp only [withoutOpening, mk.injEq, and_true, true_and] at h hassembled
  obtain ⟨rfl, rfl, rfl⟩ := h
  rw [hassembled]

namespace Manifest

/-- The manifest as if it stated neither a version nor whether the prelude is wanted. -/
def withoutOpening (manifest : Manifest) : Manifest :=
  { manifest with version := none, prelude := none }

variable {tree : FileTree} {dir : String}

/-! ### What the opening does not reach -/

theorem withoutOpening_applyHeader (manifest : Manifest) (shader : Shader)
    (defaults : Option General) :
    (manifest.applyHeader shader defaults).withoutOpening
      = manifest.withoutOpening.applyHeader shader.withoutOpening none := by
  have hfold {β : Type} (step : Shader → β → Shader)
      (hstep : ∀ s item, step s.withoutOpening item = (step s item).withoutOpening)
      (items : List β) (s : Shader) :
      (items.foldl step s).withoutOpening = items.foldl step s.withoutOpening :=
    (List.foldl_hom Shader.withoutOpening hstep).symm
  rw [applyHeader_eq, applyHeader_eq, hfold Shader.undefine fun _ _ => rfl,
    hfold (fun s (m : MacroEntry) => s.define m.name m.value.emitted m.side) fun _ _ => rfl,
    hfold extend fun _ _ => rfl,
    applyOpening_unchanged Shader.withoutOpening (fun _ _ => rfl) fun _ => rfl]
  rfl

theorem withoutOpening_applySources (entries : List SourceEntry) (shader : Shader) :
    Prod.map Shader.withoutOpening id (applySources tree dir entries shader)
      = applySources tree dir entries shader.withoutOpening := by
  induction entries generalizing shader with
  | nil => rfl
  | cons entry entries ih =>
      cases hblock : entry.block with
      | error fault => simp [applySources, hblock]
      | ok block =>
          simp only [applySources, hblock, ih]
          rfl

theorem withoutOpening_apply (manifest : Manifest) (defaults : Option General) (shader : Shader) :
    Prod.map Shader.withoutOpening id (manifest.apply tree dir defaults shader)
      = manifest.withoutOpening.apply tree dir none shader.withoutOpening := by
  rw [apply, withoutOpening_applySources, withoutOpening_applyHeader]
  rfl

/-! ### The opening itself -/

theorem version_apply (manifest : Manifest) (defaults : Option General) (shader : Shader) :
    (manifest.apply tree dir defaults shader).1.version
      = (manifest.effectiveVersion defaults).getD shader.version := by
  rw [apply, applySources_unchanged Shader.version fun _ _ _ => rfl,
    applyHeader_unchanged Shader.version (fun _ _ => rfl) (fun _ _ _ _ => rfl) fun _ _ => rfl]
  simp only [applyOpening]
  cases manifest.effectiveVersion defaults <;> split <;> rfl

/-- No manifest brings a prelude back. -/
theorem prelude_apply (manifest : Manifest) (defaults : Option General) (shader : Shader) :
    (manifest.apply tree dir defaults shader).1.prelude
      = (shader.prelude && (manifest.effectivePrelude defaults).getD true) := by
  rw [apply, applySources_unchanged Shader.prelude fun _ _ _ => rfl,
    applyHeader_unchanged Shader.prelude (fun _ _ => rfl) (fun _ _ _ _ => rfl) fun _ _ => rfl]
  simp only [applyOpening]
  cases manifest.effectivePrelude defaults with
  | none => cases manifest.effectiveVersion defaults <;> simp [Shader.setVersion]
  | some wanted =>
      cases wanted <;> cases manifest.effectiveVersion defaults <;>
        simp [Shader.setVersion, Shader.dropPrelude]

end Manifest

end ShaderAssembly

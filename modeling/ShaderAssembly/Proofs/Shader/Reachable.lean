import ShaderAssembly.Proofs.Shader.Extensions
import ShaderAssembly.Proofs.Shader.Remembered

/-!
# Shaders that come up

A shader comes up if it stands on some workbench after some steps. Not every value of the type does:
an index of extensions could lead anywhere. But the list of a shader that comes up always records a
history of mentions, since every step mentions more extensions, takes over the record of another
shader, or leaves the extensions alone.
-/

namespace ShaderAssembly

/-- The shader stands on some workbench after some steps. -/
def Shader.Reachable (shader : Shader) : Prop :=
  ∃ texts steps name, ((Workbench.start texts).run steps).1 name = shader

/-- The extensions of the shader record some history. -/
def Shader.HasHistory (shader : Shader) : Prop :=
  ∃ mentions, shader.extensions.Records mentions

namespace Shader

variable {shader other : Shader}

theorem hasHistory_empty : empty.HasHistory := ⟨[], ExtensionList.records_empty⟩

theorem HasHistory.setExtension (h : shader.HasHistory) (name : String) (mode : ExtensionMode) :
    (shader.setExtension name mode).HasHistory := by
  obtain ⟨mentions, hmentions⟩ := h
  exact ⟨_, hmentions.upsert name mode⟩

theorem HasHistory.setExtensionsOf (h : shader.HasHistory) (hother : other.HasHistory) :
    (shader.setExtensionsOf other).HasHistory := by
  obtain ⟨mentions, hmentions⟩ := h
  obtain ⟨more, hmore⟩ := hother
  exact ⟨_, hmentions.merge hmore⟩

end Shader

namespace Workbench

variable {bench : Workbench}

def HasHistory (bench : Workbench) : Prop := ∀ name, (bench name).HasHistory

theorem hasHistory_start (texts : String → Option String) : (start texts).HasHistory := by
  intro name
  rw [start]
  cases texts name with
  | none => exact Shader.hasHistory_empty
  | some code => exact Shader.hasHistory_empty

theorem HasHistory.put (h : bench.HasHistory) {shader : Shader} (hshader : shader.HasHistory)
    (name : String) : (bench.put name shader).HasHistory := forall_put h hshader name

theorem HasHistory.changed (h : bench.HasHistory) (name : String) (change : Change) :
    (bench.changed name change).HasHistory := by
  cases change with
  | clear | replaceByText => exact Shader.hasHistory_empty
  | setExtension extension mode => exact (h name).setExtension extension mode
  | setExtensionsOf other => exact (h name).setExtensionsOf (h other)
  | setVersion | addBlock | appendBody | define | undefine | dropPrelude => exact h name

theorem HasHistory.step (h : bench.HasHistory) (s : Step) : (bench.step s).1.HasHistory := by
  cases s with
  | change name change => exact h.put (h.changed name change) name
  | copy source target => exact h.put (h source) target
  | swap a b => exact (h.put (h b) a).put (h a) b
  | assemble name resolver => exact h
  | code name resolver =>
      obtain ⟨mentions, hmentions⟩ := h name
      have hsame : ((bench name).assembledCode resolver).2.extensions = (bench name).extensions :=
        Shader.assembledCode_unchanged Shader.extensions (fun _ _ => rfl) _ _
      exact h.put ⟨mentions, hsame.symm ▸ hmentions⟩ name

theorem HasHistory.run (h : bench.HasHistory) (steps : List Step) :
    (bench.run steps).1.HasHistory := by
  induction steps generalizing bench with
  | nil => exact h
  | cons s steps ih => exact ih (h.step s)

end Workbench

theorem Shader.Reachable.hasHistory {shader : Shader} (h : shader.Reachable) :
    shader.HasHistory := by
  obtain ⟨texts, steps, name, rfl⟩ := h
  exact (Workbench.hasHistory_start texts).run steps name

end ShaderAssembly

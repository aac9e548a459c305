import ShaderAssembly.Proofs.Config.Created

/-!
# Asking for the configuration again

Where there is a configuration file, it is read and left alone. Where there is none, it is written
first, and what is written reads back as the defaults. Either way there is a file by then from which
the configuration is read that was given, so to ask again gives it again and changes nothing. What
is written is new where the path of the file has no step up. With a step up, the path may go through
a directory that is created on the way, and so may lead to a file that was there all the time.
-/

namespace ShaderAssembly

namespace Config

variable {tree after : FileTree} {env : Environment} {dir file : String} {config : Config}

theorem contains_of_readText {text : String} (h : tree.readText file = .ok text) :
    tree.contains file = true := by
  obtain ⟨place, content, hplace, hnode⟩ :=
    FileTree.isFile_eq_true_iff.1 (FileTree.isFile_of_readText h)
  rw [FileTree.contains, FileTree.find?, hplace]
  simp only [hnode, Option.isSome_some]

theorem exists_configDirectory (h : env.configFile = .ok file) :
    ∃ dir, env.configDirectory = .ok dir := by
  rw [Environment.configFile] at h
  cases hdir : env.configDirectory with
  | error e =>
      rw [hdir] at h
      contradiction
  | ok dir => exact ⟨dir, rfl⟩

theorem load_of_contains (hfile : env.configFile = .ok file) (h : tree.contains file = true) :
    load tree env = (tree, loadFrom tree file) := by
  simp only [load, hfile, h, if_true]

theorem write_of_createIn (h : createIn tree dir file = (after, .ok ())) :
    (tree.makeDirectories dir).1.write file (.text defaultText) = .ok after := by
  rw [createIn] at h
  split at h
  · simp at h
  · rename_i made hmade
    rw [hmade]
    split at h
    · simp at h
    · rename_i written hwritten
      rw [hwritten, (Prod.mk.inj h).1]

theorem loadFrom_of_write {made : FileTree}
    (h : made.write file (.text defaultText) = .ok after) : loadFrom after file = .ok {} :=
  loadFrom_of_parse? (FileTree.writtenTo_of_write h).readText parse?_defaultText

/-- Where the file is missing, a configuration is had only after the defaults were written, and it
is the one with the defaults. -/
theorem eq_default_of_load (hdir : env.configDirectory = .ok dir)
    (hfile : env.configFile = .ok file)
    (hmissing : tree.contains file = false) (h : load tree env = (after, .ok config)) :
    config = {} ∧ (tree.makeDirectories dir).1.write file (.text defaultText) = .ok after := by
  simp only [load, createDefault, hdir, hfile, hmissing, Bool.false_eq_true, if_false] at h
  split at h
  · simp at h
  · rename_i created hcreated
    obtain ⟨rfl, hload⟩ := Prod.mk.inj h
    have hwrite := write_of_createIn hcreated
    rw [loadFrom_of_write hwrite] at hload
    exact ⟨(Except.ok.inj hload).symm, hwrite⟩

/-- A configuration is had from a file that is there. -/
theorem loadFrom_of_load (hfile : env.configFile = .ok file)
    (h : load tree env = (after, .ok config)) :
    after.contains file = true ∧ loadFrom after file = .ok config := by
  cases hcontains : tree.contains file with
  | true =>
      rw [load_of_contains hfile hcontains] at h
      obtain ⟨rfl, hload⟩ := Prod.mk.inj h
      exact ⟨hcontains, hload⟩
  | false =>
      obtain ⟨dir, hdir⟩ := exists_configDirectory hfile
      obtain ⟨rfl, hwrite⟩ := eq_default_of_load hdir hfile hcontains h
      exact ⟨contains_of_readText (FileTree.writtenTo_of_write hwrite).readText,
        loadFrom_of_write hwrite⟩

theorem exists_configFile_of_load (h : load tree env = (after, .ok config)) :
    ∃ file, env.configFile = .ok file := by
  cases hfile : env.configFile with
  | error e =>
      rw [load, hfile] at h
      simp at h
  | ok file => exact ⟨file, rfl⟩

theorem load_again (h : load tree env = (after, .ok config)) :
    load after env = (after, .ok config) := by
  obtain ⟨file, hfile⟩ := exists_configFile_of_load h
  obtain ⟨hcontains, hload⟩ := loadFrom_of_load hfile h
  rw [load_of_contains hfile hcontains, hload]

/-- **Asking for the configuration.** Where there is a configuration file, nothing changes, whether
it can be read or not. Where there is none and a configuration is given, it is the one with the
defaults; there is a file with these now, and directories on the way to it may be new. Nothing else
changes, and if nothing was where the file is now, as is the case whenever its path has no step up,
nothing is lost. Once a configuration was given, asking again gives the same one and changes
nothing. -/
theorem load_settles (htree : tree.Proper) (env : Environment) :
    (∀ file, env.configFile = .ok file → tree.contains file = true →
      (load tree env).1 = tree) ∧
    (∀ dir file after config, env.configDirectory = .ok dir → env.configFile = .ok file →
      tree.contains file = false → load tree env = (after, .ok config) →
        config = {} ∧ ∃ here, Added tree dir file here after ∧
          ((∀ path, tree.resolve path ≠ .ok here) → tree.KeptIn after)) ∧
    ∀ after config, load tree env = (after, .ok config) → load after env = (after, .ok config) := by
  refine ⟨fun file hfile hcontains => ?_, fun dir file after config hdir hfile hmissing h => ?_,
    fun after config h => load_again h⟩
  · rw [load_of_contains hfile hcontains]
  · obtain ⟨hdefault, hwrite⟩ := eq_default_of_load hdir hfile hmissing h
    obtain ⟨here, hadded⟩ := exists_added htree hmissing hwrite
    exact ⟨hdefault, here, hadded, hadded.keptIn htree⟩

/-- A home directory that is still missing, beside a file that has nothing to do with it. -/
def homeless : FileTree :=
  ⟨"/work", [(["work"], .directory), (["work", "a.glsl"], .file (.text "a"))]⟩

def homed : FileTree :=
  ⟨"/work",
    [(["work"], .directory), (["work", "a.glsl"], .file (.text "a")), (["home"], .directory),
     (["home", "user"], .directory), (["home", "user", ".sasm"], .directory),
     (["home", "user", ".sasm", "config.toml"], .file (.text defaultText))]⟩

theorem load_homeless_settles :
    load homeless ⟨none, some "/home/user"⟩ = (homed, .ok {}) ∧
    load homed ⟨none, some "/home/user"⟩ = (homed, .ok {}) ∧ homeless.KeptIn homed := by
  have hload : load homeless ⟨none, some "/home/user"⟩ = (homed, .ok {}) :=
    load_of_missing rfl rfl (by decide +kernel) rfl rfl
  obtain ⟨-, hmissing, hagain⟩ :=
    load_settles (show homeless.Proper by decide +kernel) ⟨none, some "/home/user"⟩
  obtain ⟨-, here, hadded, hkept⟩ := hmissing _ _ _ _ rfl rfl (by decide +kernel) hload
  exact ⟨hload, hagain _ _ hload, hkept (hadded.fresh (by decide +kernel))⟩

/-- The configuration lies in a directory that is there, and its path goes through one that is
not. -/
def roundabout : FileTree :=
  ⟨"/",
    [(["kept"], .directory),
     (["kept", "config.toml"], .file (.text "[general]\ndefault_version = '450'\n"))]⟩

/-- The file counts as missing, and it is written over. -/
theorem load_roundabout_overwrites :
    roundabout.Proper ∧ roundabout.contains "new/../kept/config.toml" = false ∧
    roundabout.readText "kept/config.toml" = .ok "[general]\ndefault_version = '450'\n" ∧
    (load roundabout ⟨some "new/../kept", none⟩).2 = .ok {} ∧
    (load roundabout ⟨some "new/../kept", none⟩).1.readText "kept/config.toml"
      = .ok defaultText := by
  have hload : load roundabout ⟨some "new/../kept", none⟩
      = (⟨"/", [(["kept"], .directory), (["kept", "config.toml"], .file (.text defaultText)),
          (["new"], .directory)]⟩, .ok {}) :=
    load_of_missing rfl rfl (by decide +kernel) rfl rfl
  rw [hload]
  exact ⟨by decide +kernel, by decide +kernel, by decide +kernel, rfl, by decide +kernel⟩

end Config

end ShaderAssembly

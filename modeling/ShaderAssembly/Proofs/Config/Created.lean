import ShaderAssembly.Config.File
import ShaderAssembly.Proofs.FileTree.Growth

/-!
# What asking for the configuration changes

Where there is a configuration file, asking for the configuration changes nothing. Where there is
none, the directories on the way to it may be new, and the file, which holds the defaults. Nothing
else changes. The file is missing if its path leads nowhere when it is asked for, that is before any
directory is created. So a path that steps up out of a directory which is still to be created may
find a file only afterwards, and that one is written over; with a path without a step up all that
was there is kept.
-/

namespace ShaderAssembly

namespace Config

variable {tree made after : FileTree} {env : Environment} {dir file : String}

/-- What may have changed once the configuration was asked for. -/
structure Created (tree : FileTree) (env : Environment) (after : FileTree) : Prop where
  /-- With a file, nothing. -/
  present : ∀ file, env.configFile = .ok file → tree.contains file = true → after = tree
  /-- Without one, there may be new directories on the way to it, and the file itself. -/
  nodes : ∀ here, after.node? here = tree.node? here ∨
    ∃ dir file, env.configDirectory = .ok dir ∧ env.configFile = .ok file ∧
      (tree.node? here = none ∧ after.node? here = some .directory ∧
          (∃ above ∈ Path.ancestors dir, after.resolve above = .ok here) ∨
        after.node? here = some (.file (.text defaultText)) ∧ after.resolve file = .ok here)
  /-- All that paths led to is kept, if the path of the file has no step up. -/
  kept : (∀ file, env.configFile = .ok file → tree.Straight file) → tree.KeptIn after

theorem Created.refl (tree : FileTree) (env : Environment) : Created tree env tree :=
  ⟨fun _ _ _ => rfl, fun _ => .inl rfl, fun _ => .refl tree⟩

theorem createIn_cases (tree : FileTree) (dir file : String) :
    (createIn tree dir file).1 = (tree.makeDirectories dir).1 ∨
      (tree.makeDirectories dir).1.write file (.text defaultText)
        = .ok (createIn tree dir file).1 := by
  rw [createIn]
  split
  · rename_i made e hmade
    rw [hmade]
    exact .inl rfl
  · rename_i made hmade
    rw [hmade]
    split
    · exact .inl rfl
    · rename_i written hwritten
      exact .inr hwritten

/-- Asking for the configuration changes nothing, or the file is missing and is created. -/
theorem load_cases (tree : FileTree) (env : Environment) :
    (load tree env).1 = tree ∨
      ∃ dir file, env.configDirectory = .ok dir ∧ env.configFile = .ok file ∧
        tree.contains file = false ∧ (load tree env).1 = (createIn tree dir file).1 := by
  cases hdir : env.configDirectory with
  | error e =>
      have hfile : env.configFile = .error e := by rw [Environment.configFile, hdir]; rfl
      left
      rw [load, hfile]
  | ok dir =>
      obtain ⟨file, hfile⟩ : ∃ file, env.configFile = .ok file := by
        rw [Environment.configFile, hdir]
        exact ⟨_, rfl⟩
      cases hcontains : tree.contains file with
      | true =>
          left
          simp only [load, hfile, hcontains, if_true]
      | false =>
          refine .inr ⟨dir, file, rfl, hfile, hcontains, ?_⟩
          have hcreate : createDefault tree env = createIn tree dir file := by
            simp only [createDefault, hdir, hfile]
          simp only [load, hfile, hcontains, hcreate, Bool.false_eq_true, if_false]
          split
          · rename_i created e hcreated
            rw [hcreated]
          · rename_i created hcreated
            rw [hcreated]

/-- The file with the defaults states the defaults. -/
theorem parse?_defaultText : parse? defaultText = some {} := by
  rw [parse?, Toml.parse?, defaultText, Text.toList_ofLines]
  decide +kernel

theorem loadFrom_of_parse? {text : String} {config : Config} (h : tree.readText file = .ok text)
    (hparse : parse? text = some config) : loadFrom tree file = .ok config := by
  rw [loadFrom, h]
  simp only [Except.mapError, bind, Except.bind, hparse]

/-- Where the file is missing and can be created, the configuration is the one with the defaults. -/
theorem load_of_missing (hdir : env.configDirectory = .ok dir) (hfile : env.configFile = .ok file)
    (hmissing : tree.contains file = false) (hmade : tree.makeDirectories dir = (made, none))
    (hwrite : made.write file (.text defaultText) = .ok after) :
    load tree env = (after, .ok {}) := by
  have hcreate : createDefault tree env = (after, .ok ()) := by
    simp only [createDefault, hdir, hfile, createIn, hmade, hwrite]
  have hread : after.readText file = .ok defaultText :=
    (FileTree.writtenTo_of_write hwrite).readText
  simp only [load, hfile, hmissing, hcreate, Bool.false_eq_true, if_false,
    loadFrom_of_parse? hread parse?_defaultText]

/-- What there is once the defaults were written to a file that was missing. -/
structure Added (tree : FileTree) (dir file : String) (here : Location) (after : FileTree) :
    Prop where
  leads : after.resolve file = .ok here
  holds : after.node? here = some (.file (.text defaultText))
  /-- Elsewhere, directories on the way to the file may be new. -/
  others : ∀ there, there ≠ here → after.node? there = tree.node? there ∨
    tree.node? there = none ∧ after.node? there = some .directory ∧
      ∃ above ∈ Path.ancestors dir, after.resolve above = .ok there
  resolve : ∀ path there, tree.resolve path = .ok there → after.resolve path = .ok there
  /-- The file is new, if its path has no step up. -/
  fresh : tree.Straight file → ∀ path, tree.resolve path ≠ .ok here

theorem exists_added (htree : tree.Proper) (hmissing : tree.contains file = false)
    (hwrite : (tree.makeDirectories dir).1.write file (.text defaultText) = .ok after) :
    ∃ here, Added tree dir file here after := by
  have hmade := FileTree.addsDirectories_makeDirectories htree dir
  obtain ⟨place, hplace, hslash, hsize, hnode, rfl⟩ := FileTree.exists_of_write hwrite
  have hne := place.location_ne_nil
  have hwritten := FileTree.writtenTo_of_write hwrite
  refine ⟨place.location, FileTree.resolve_of_write hplace hslash hsize hnode _, ?_,
    fun there hthere => ?_, fun path there hpath => ?_, fun hstraight => ?_⟩
  · rw [FileTree.node?_put hne, if_pos rfl]
  · rw [FileTree.node?_put hne, if_neg hthere]
    refine (hmade.nodes there).imp_right fun ⟨hnone, hnew, above, habove, hleads⟩ => ?_
    exact ⟨hnone, hnew, above, habove, hwritten.resolve above there hleads⟩
  · exact hwritten.resolve path there (hmade.kept.resolve path there hpath)
  · exact FileTree.resolve_ne_of_straight htree hmade.workingDir hstraight hmissing hplace hslash

/-- If nothing was where the file is now, nothing is lost. -/
theorem Added.keptIn {here : Location} (h : Added tree dir file here after) (htree : tree.Proper)
    (hnew : ∀ path, tree.resolve path ≠ .ok here) : tree.KeptIn after := by
  refine ⟨h.resolve, fun path there hpath => ?_⟩
  have hother : there ≠ here := by
    rintro rfl
    exact hnew path hpath
  rcases h.others there hother with hsame | ⟨hnone, -⟩
  · exact hsame
  · obtain ⟨node, hsome⟩ := htree.exists_node hpath
    rw [hnone] at hsome
    contradiction

theorem created_createIn (htree : tree.Proper) (hdir : env.configDirectory = .ok dir)
    (hfile : env.configFile = .ok file) (hmissing : tree.contains file = false) :
    Created tree env (createIn tree dir file).1 := by
  have hpresent : ∀ file', env.configFile = .ok file' → tree.contains file' = true →
      (createIn tree dir file).1 = tree := by
    intro file' hfile' hcontains
    obtain rfl : file = file' := Except.ok.inj (hfile.symm.trans hfile')
    rw [hmissing] at hcontains
    contradiction
  rcases createIn_cases tree dir file with heq | hwrite
  · have hmade := FileTree.addsDirectories_makeDirectories htree dir
    rw [heq] at hpresent ⊢
    refine ⟨hpresent, fun here => ?_, fun _ => hmade.kept⟩
    exact (hmade.nodes here).imp_right fun hnew => ⟨dir, file, hdir, hfile, .inl hnew⟩
  · obtain ⟨place, hadded⟩ := exists_added htree hmissing hwrite
    refine ⟨hpresent, fun here => ?_, fun hstraight => ?_⟩
    · by_cases hhere : here = place
      · rw [hhere]
        exact .inr ⟨dir, file, hdir, hfile, .inr ⟨hadded.holds, hadded.leads⟩⟩
      · exact (hadded.others here hhere).imp_right fun hnew => ⟨dir, file, hdir, hfile, .inl hnew⟩
    · exact hadded.keptIn htree (hadded.fresh (hstraight file hfile))

theorem created_load (htree : tree.Proper) (env : Environment) :
    Created tree env (load tree env).1 := by
  rcases load_cases tree env with heq | ⟨dir, file, hdir, hfile, hmissing, heq⟩
  · rw [heq]
    exact .refl tree env
  · rw [heq]
    exact created_createIn htree hdir hfile hmissing

theorem proper_load (htree : tree.Proper) (env : Environment) : (load tree env).1.Proper := by
  rcases load_cases tree env with heq | ⟨dir, file, -, -, -, heq⟩
  · rw [heq]
    exact htree
  · rw [heq]
    rcases createIn_cases tree dir file with heq | hwrite
    · rw [heq]
      exact htree.makeDirectories dir
    · exact (htree.makeDirectories dir).write hwrite

end Config

end ShaderAssembly

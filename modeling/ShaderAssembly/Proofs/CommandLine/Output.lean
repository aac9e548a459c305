import ShaderAssembly.CommandLine.Run
import ShaderAssembly.Proofs.CommandLine.Session
import ShaderAssembly.Proofs.Config.Created
import ShaderAssembly.Proofs.Pipeline.SourceFiles

/-!
# What a command writes

A command reads its configuration, computes all of its code and writes then. So a command that fails
has written nothing, apart from the configuration with the defaults where there was none; and one
that succeeds has written the whole code, to its standard output or to one file, and this code comes
from the files as they were before, even if the output takes the place of one of them. A command
that is to watch makes sure first that there is an output file, and never empties one.
-/

namespace ShaderAssembly

theorem Pipeline.exists_error_of_canonicalize {tree : FileTree} {pipeline : Pipeline}
    {e : FileError} (h : tree.canonicalize pipeline.manifest = .error e) :
    ∃ error, pipeline.run tree = .error error := by
  cases hrun : pipeline.run tree with
  | error error => exact ⟨error, rfl⟩
  | ok assembly =>
      obtain ⟨library, hbuilds⟩ := exists_buildsFrom hrun
      have hroot := hbuilds.root
      rw [h] at hroot
      contradiction

namespace CommandLine

/-- The pipeline of a command with a configuration. -/
def Arguments.pipeline (arguments : Arguments) (config : Config) : Pipeline :=
  ⟨arguments.manifest, config, arguments.options⟩

variable {tree prepared after : FileTree} {env : Environment} {args : List String}
  {arguments : Arguments} {pipeline : Pipeline} {config : Config} {assembly : Assembly}

/-! ### The output -/

theorem assembleOnce_of_error {e : PipelineError} (h : pipeline.run tree = .error e)
    (output : Option String) :
    assembleOnce tree pipeline output = (tree, .failed (e.chain.headD "")) := by
  rw [assembleOnce, emit_of_error h]

theorem assembleOnce_none (h : pipeline.run tree = .ok assembly) :
    assembleOnce tree pipeline none = (tree, .done assembly.code) := by
  rw [assembleOnce, emit_none h]

theorem assembleOnce_some_of_ok {path : String} (h : pipeline.run tree = .ok assembly)
    (hwrite : tree.write path (.text assembly.code) = .ok after) :
    assembleOnce tree pipeline (some path) = (after, .done "") := by
  rw [assembleOnce, emit_some_of_ok h hwrite]

theorem assembleOnce_some_of_error {path : String} {e : FileError}
    (h : pipeline.run tree = .ok assembly)
    (hwrite : tree.write path (.text assembly.code) = .error e) :
    assembleOnce tree pipeline (some path)
      = (tree, .failed ("Failed to write " ++ Text.quoted path)) := by
  rw [assembleOnce, emit_some_of_error h hwrite]
  rfl

/-- Before anything is watched, an output file is created if it is missing, and that is all. -/
theorem startWatching_cases (tree : FileTree) (pipeline : Pipeline) (output : Option String) :
    (startWatching tree pipeline output).1 = tree ∨
      ∃ path, output = some path ∧ tree.contains path = false ∧
        tree.write path (.text "") = .ok (startWatching tree pipeline output).1 := by
  -- What comes after the output file is there says how it ends and leaves the tree alone, whether
  -- there is anything to watch or not.
  cases output with
  | none =>
      left
      simp only [startWatching]
      split <;> rfl
  | some path =>
      cases hcontains : tree.contains path with
      | true =>
          left
          simp only [startWatching, hcontains, if_true]
          split <;> rfl
      | false =>
          cases hwrite : tree.write path (.text "") with
          | error e =>
              left
              simp only [startWatching, hcontains, hwrite, Bool.false_eq_true, if_false]
          | ok after =>
              have hafter : (startWatching tree pipeline (some path)).1 = after := by
                simp only [startWatching, hcontains, hwrite, Bool.false_eq_true, if_false]
                split <;> rfl
              rw [hafter]
              exact .inr ⟨path, rfl, hcontains, hwrite⟩

theorem keptIn_startWatching (htree : tree.Proper) (pipeline : Pipeline) (output : Option String) :
    tree.KeptIn (startWatching tree pipeline output).1 := by
  rcases startWatching_cases tree pipeline output with heq | ⟨path, -, hmissing, hwrite⟩
  · rw [heq]
    exact .refl tree
  · exact FileTree.keptIn_of_write htree hmissing hwrite

/-! ### The command -/

theorem loadConfig_some (tree : FileTree) (env : Environment) (path : String) :
    (loadConfig tree env (some path)).1 = tree := by
  rw [loadConfig]
  split <;> rfl

theorem loadConfig_none (tree : FileTree) (env : Environment) :
    ∃ config, loadConfig tree env none = ((Config.load tree env).1, .ok config) := by
  rw [loadConfig]
  split
  · rename_i after config h
    exact ⟨config, by rw [h]⟩
  · rename_i after e h
    exact ⟨{}, by rw [h]⟩

/-- What reading the configuration comes to. -/
structure Configured (tree : FileTree) (env : Environment) (config : Option String)
    (prepared : FileTree) (loaded : Except String Config) : Prop where
  /-- A file that is named is read, and nothing changes. -/
  named : ∀ path, config = some path → prepared = tree
  /-- Otherwise there is always a configuration, and the one with the defaults may be new. -/
  unnamed : config = none → Config.Created tree env prepared ∧ ∃ config, loaded = .ok config

theorem configured_loadConfig (htree : tree.Proper) (env : Environment) (config : Option String) :
    Configured tree env config (loadConfig tree env config).1 (loadConfig tree env config).2 := by
  cases config with
  | some path => exact ⟨fun _ _ => loadConfig_some tree env path, fun h => by contradiction⟩
  | none =>
      obtain ⟨config, hload⟩ := loadConfig_none tree env
      rw [hload]
      exact ⟨fun _ h => by contradiction, fun _ => ⟨Config.created_load htree env, config, rfl⟩⟩

theorem proper_loadConfig (htree : tree.Proper) (env : Environment) (config : Option String) :
    (loadConfig tree env config).1.Proper := by
  cases config with
  | some path => rwa [loadConfig_some]
  | none =>
      obtain ⟨config, hload⟩ := loadConfig_none tree env
      rw [hload]
      exact Config.proper_load htree env

theorem Configured.keptIn {named : Option String} {loaded : Except String Config}
    (h : Configured tree env named prepared loaded)
    (hstraight : named = none → ∀ file, env.configFile = .ok file → tree.Straight file) :
    tree.KeptIn prepared := by
  cases named with
  | some path =>
      rw [h.named path rfl]
      exact .refl tree
  | none => exact (h.unnamed rfl).1.kept (hstraight rfl)

theorem loadConfig_of_load (h : Config.load tree env = (after, .ok config)) :
    loadConfig tree env none = (after, .ok config) := by
  rw [loadConfig, h]

theorem assemble_of_error {message : String}
    (h : loadConfig tree env arguments.config = (prepared, .error message)) :
    assemble tree env arguments = (prepared, .failed message) := by
  rw [assemble, h]

theorem assemble_once (h : loadConfig tree env arguments.config = (prepared, .ok config))
    (hwatch : arguments.watch = false) :
    assemble tree env arguments
      = assembleOnce prepared (arguments.pipeline config) arguments.output := by
  rw [assemble, h]
  exact if_neg (by simp [hwatch])

theorem assemble_watching (h : loadConfig tree env arguments.config = (prepared, .ok config))
    (hwatch : arguments.watch = true) :
    assemble tree env arguments
      = startWatching prepared (arguments.pipeline config) arguments.output := by
  rw [assemble, h]
  exact if_pos hwatch

theorem run_of_parse (h : parse args = .ok (.assemble arguments)) (tree : FileTree)
    (env : Environment) : run tree env args = assemble tree env arguments := by
  rw [run, h]

/-- A command that assembles once writes all of its code, or nothing. -/
structure AllOrNothing (prepared : FileTree) (loaded : Except String Config)
    (arguments : Arguments) (result : FileTree × Ending) : Prop where
  /-- It succeeds if it has a configuration, its pipeline gives code and the output file, if one is
  asked for, can be written. -/
  succeeds : result.2.exitCode = 0 ↔ ∃ config assembly, loaded = .ok config ∧
    (arguments.pipeline config).run prepared = .ok assembly ∧
    ∀ path, arguments.output = some path →
      ∃ after, prepared.write path (.text assembly.code) = .ok after
  nothing : result.2.exitCode ≠ 0 → result.1 = prepared ∧ result.2.standardOutput = ""
  all : ∀ config assembly, loaded = .ok config →
    (arguments.pipeline config).run prepared = .ok assembly → result.2.exitCode = 0 →
    (arguments.output = none → result.2.standardOutput = assembly.code ∧ result.1 = prepared) ∧
    ∀ path, arguments.output = some path →
      result.2.standardOutput = "" ∧ prepared.WrittenTo path assembly.code result.1

namespace AllOrNothing

variable {loaded : Except String Config}

/-- Failing is right if something is missing. -/
theorem of_failed {message : String}
    (h : ∀ config assembly, loaded = .ok config →
      (arguments.pipeline config).run prepared = .ok assembly →
      ∃ path e, arguments.output = some path ∧
        prepared.write path (.text assembly.code) = .error e) :
    AllOrNothing prepared loaded arguments (prepared, .failed message) where
  succeeds := by
    refine ⟨fun hzero => absurd hzero Nat.one_ne_zero, ?_⟩
    intro ⟨config, assembly, hconfig, hrun, hwritable⟩
    obtain ⟨path, e, hpath, hwrite⟩ := h config assembly hconfig hrun
    obtain ⟨after, hafter⟩ := hwritable path hpath
    rw [hwrite] at hafter
    contradiction
  nothing _ := ⟨rfl, rfl⟩
  all _ _ _ _ hzero := absurd hzero Nat.one_ne_zero

/-- Being done is right if the code is in its place. -/
theorem of_done {output : String} (hrun : (arguments.pipeline config).run prepared = .ok assembly)
    (hprinted : arguments.output = none → output = assembly.code ∧ after = prepared)
    (hwritten : ∀ path, arguments.output = some path →
      output = "" ∧ prepared.write path (.text assembly.code) = .ok after) :
    AllOrNothing prepared (.ok config) arguments (after, .done output) where
  succeeds := by
    refine ⟨fun _ => ⟨config, assembly, rfl, hrun, fun path hpath => ?_⟩, fun _ => rfl⟩
    exact ⟨after, (hwritten path hpath).2⟩
  nothing hfailed := absurd rfl hfailed
  all config' assembly' hconfig hrun' _ := by
    obtain rfl := Except.ok.inj hconfig
    obtain rfl := Except.ok.inj (hrun.symm.trans hrun')
    refine ⟨hprinted, fun path hpath => ?_⟩
    obtain ⟨houtput, hwrite⟩ := hwritten path hpath
    exact ⟨houtput, FileTree.writtenTo_of_write hwrite⟩

end AllOrNothing

theorem allOrNothing_assembleOnce (prepared : FileTree) (config : Config)
    (arguments : Arguments) :
    AllOrNothing prepared (.ok config) arguments
      (assembleOnce prepared (arguments.pipeline config) arguments.output) := by
  cases hrun : (arguments.pipeline config).run prepared with
  | error e =>
      rw [assembleOnce_of_error hrun]
      refine .of_failed fun config' assembly hconfig hrun' => ?_
      obtain rfl := Except.ok.inj hconfig
      rw [hrun] at hrun'
      contradiction
  | ok assembly =>
      cases houtput : arguments.output with
      | none =>
          rw [assembleOnce_none hrun]
          refine .of_done hrun (fun _ => ⟨rfl, rfl⟩) fun path hpath => ?_
          rw [houtput] at hpath
          contradiction
      | some path =>
          cases hwrite : prepared.write path (.text assembly.code) with
          | error e =>
              rw [assembleOnce_some_of_error hrun hwrite]
              refine .of_failed fun config' assembly' hconfig hrun' => ?_
              obtain rfl := Except.ok.inj hconfig
              obtain rfl := Except.ok.inj (hrun.symm.trans hrun')
              exact ⟨path, e, houtput, hwrite⟩
          | ok after =>
              rw [assembleOnce_some_of_ok hrun hwrite]
              refine .of_done hrun (fun hnone => ?_) fun path' hpath => ?_
              · rw [houtput] at hnone
                contradiction
              · obtain rfl := Option.some.inj (houtput.symm.trans hpath)
                exact ⟨rfl, hwrite⟩

/-- **What a command writes.** A command that does not assemble leaves all files alone. Any other
reads its configuration first. This changes nothing if a configuration file is named; otherwise the
file with the defaults may be new, and directories on the way to it. From then on, a command that
assembles once writes all of its code or nothing. A command that is to watch, be it that it fails
or that it starts, keeps all that is there by then, and all that was there before unless the path
of the configuration has a step up. -/
theorem run_writes_all_or_nothing (htree : tree.Proper) (env : Environment) (args : List String) :
    ((∀ arguments, parse args ≠ .ok (.assemble arguments)) → (run tree env args).1 = tree) ∧
    ∀ arguments, parse args = .ok (.assemble arguments) →
      ∃ prepared loaded, loadConfig tree env arguments.config = (prepared, loaded) ∧
        Configured tree env arguments.config prepared loaded ∧
        (arguments.watch = false → AllOrNothing prepared loaded arguments (run tree env args)) ∧
        (arguments.watch = true → prepared.KeptIn (run tree env args).1 ∧
          ((arguments.config = none → ∀ file, env.configFile = .ok file → tree.Straight file) →
            tree.KeptIn (run tree env args).1)) := by
  refine ⟨fun hother => ?_, fun arguments hargs => ?_⟩
  · rw [run]
    split
    · rfl
    · rfl
    · rfl
    · rename_i arguments hargs
      exact absurd hargs (hother arguments)
  · have hconfigured := configured_loadConfig htree env arguments.config
    have hproper := proper_loadConfig htree env arguments.config
    rcases hload : loadConfig tree env arguments.config with ⟨prepared, loaded⟩
    rw [hload] at hconfigured hproper
    rw [run_of_parse hargs]
    refine ⟨prepared, loaded, rfl, hconfigured, fun hwatch => ?_, fun hwatch => ?_⟩
    · cases loaded with
      | error message =>
          rw [assemble_of_error hload]
          exact .of_failed fun config assembly hconfig => by contradiction
      | ok config =>
          rw [assemble_once hload hwatch]
          exact allOrNothing_assembleOnce prepared config arguments
    · have hkept : prepared.KeptIn (assemble tree env arguments).1 := by
        cases loaded with
        | error message =>
            rw [assemble_of_error hload]
            exact .refl prepared
        | ok config =>
            rw [assemble_watching hload hwatch]
            exact keptIn_startWatching hproper _ _
      exact ⟨hkept, fun hstraight => (hconfigured.keptIn hstraight).trans hkept⟩

theorem inOrder_nil : inOrder {} {} = [] := by
  rw [inOrder, List.map_nil, List.map_nil, List.zip_nil_left, List.append_nil, List.mergeSort_nil,
    List.map_nil]

/-- A manifest with one source, which the command is asked to write over. -/
def sourceIsOutput : FileTree :=
  ⟨"/",
    [(["m.toml"], .file (.text "sources = [\x7bfile = 'a.glsl'\x7d]")),
     (["a.glsl"], .file (.text "a"))]⟩

def sourceIsOutputPrepared : FileTree :=
  { sourceIsOutput with nodes := sourceIsOutput.nodes ++
    [(["conf"], .directory), (["conf", "config.toml"], .file (.text Config.defaultText))] }

/-- The configuration is created and the source is replaced by the code that holds its text. -/
theorem run_sourceIsOutput_writes :
    ∃ assembly, (Pipeline.mk "m.toml" {} {}).run sourceIsOutputPrepared = .ok assembly ∧
      (run sourceIsOutput ⟨some "conf", none⟩ ["m.toml", "-o", "a.glsl"]).1.readText "a.glsl"
        = .ok assembly.code ∧
      (run sourceIsOutput ⟨some "conf", none⟩ ["m.toml", "-o", "a.glsl"]).2.standardOutput
        = "" := by
  have hload : loadConfig sourceIsOutput ⟨some "conf", none⟩ none
      = (sourceIsOutputPrepared, .ok {}) :=
    loadConfig_of_load (Config.load_of_missing rfl rfl (by decide +kernel) rfl rfl)
  have hbuilds : (Pipeline.mk "m.toml" {} {}).BuildsFrom sourceIsOutputPrepared
      (.node ["m.toml"] { sources := [{ file := some "a.glsl" }] } []) :=
    ⟨.leaf (by decide +kernel) rfl, LibraryTree.faultless_leaf (by decide), by decide +kernel⟩
  obtain ⟨assembly, hrun⟩ : ∃ assembly,
      (Pipeline.mk "m.toml" {} {}).run sourceIsOutputPrepared = .ok assembly := by
    refine ⟨_, Pipeline.run_eq_ok_iff.2 ⟨_, _, ["a"], hbuilds, rfl, ?_, rfl⟩⟩
    rw [LibraryTree.sources, LibraryTree.layout_node]
    exact .cons (by decide +kernel) .nil
  have hargs : parse ["m.toml", "-o", "a.glsl"]
      = .ok (.assemble ⟨"m.toml", some "a.glsl", none, false, {}⟩) := by
    have hread : parse ["m.toml", "-o", "a.glsl"] = Collected.finish
        { manifest := some "m.toml", output := some "a.glsl", place := 2 } := rfl
    rw [hread, Collected.finish, inOrder_nil]
  obtain ⟨prepared, loaded, hloaded, -, honce, -⟩ :=
    (run_writes_all_or_nothing (show sourceIsOutput.Proper by decide +kernel) ⟨some "conf", none⟩
      ["m.toml", "-o", "a.glsl"]).2 _ hargs
  obtain ⟨rfl, rfl⟩ := Prod.mk.inj (hload.symm.trans hloaded)
  have hwrite : ∃ after, sourceIsOutputPrepared.write "a.glsl" (.text assembly.code) = .ok after :=
    ⟨_, rfl⟩
  have hzero := (honce rfl).succeeds.2 ⟨{}, assembly, rfl, hrun, fun path hpath => by
    obtain rfl := Option.some.inj hpath
    exact hwrite⟩
  obtain ⟨hout, hwritten⟩ := ((honce rfl).all {} assembly rfl hrun hzero).2 "a.glsl" rfl
  exact ⟨assembly, hrun, hwritten.readText, hout⟩

/-- The configuration lies in a directory that is there, but its path takes a detour through one
that is missing. -/
def detour : FileTree :=
  ⟨"/",
    [(["cfg"], .directory),
     (["cfg", "config.toml"], .file (.text "[general]\ndefault_version = '450'\n"))]⟩

def detourPrepared : FileTree :=
  ⟨"/",
    [(["cfg"], .directory), (["cfg", "config.toml"], .file (.text Config.defaultText)),
     (["new"], .directory)]⟩

def missingManifest (watch : Bool) : Arguments := ⟨"missing.toml", none, none, watch, {}⟩

/-- The command fails and has written over the configuration, whether it is to watch or not. -/
theorem run_detour_overwrites :
    detour.Proper ∧ detour.readText "cfg/config.toml" = .ok "[general]\ndefault_version = '450'\n" ∧
    ∀ args ∈ [["missing.toml"], ["--watch", "missing.toml"]],
      (∃ message, (run detour ⟨some "new/../cfg", none⟩ args).2 = .failed message) ∧
      (run detour ⟨some "new/../cfg", none⟩ args).1.readText "cfg/config.toml"
        = .ok Config.defaultText := by
  have hload (watch : Bool) :
      loadConfig detour ⟨some "new/../cfg", none⟩ (missingManifest watch).config
        = (detourPrepared, .ok {}) :=
    loadConfig_of_load (Config.load_of_missing rfl rfl (by decide +kernel) rfl rfl)
  have hmissing : detourPrepared.canonicalize "missing.toml" = .error .notFound := by
    decide +kernel
  have hread : detourPrepared.readText "cfg/config.toml" = .ok Config.defaultText := by
    decide +kernel
  have hparse (watch : Bool) : Collected.finish
      { manifest := some "missing.toml", watch := watch, place := 1 }
        = .ok (.assemble (missingManifest watch)) := by
    rw [Collected.finish, inOrder_nil]
    rfl
  have honce : parse ["missing.toml"] = .ok (.assemble (missingManifest false)) := hparse false
  have hwatching : parse ["--watch", "missing.toml"] = .ok (.assemble (missingManifest true)) :=
    hparse true
  refine ⟨by decide +kernel, by decide +kernel, ?_⟩
  simp only [List.forall_mem_cons]
  refine ⟨?_, ?_, fun _ h => absurd h List.not_mem_nil⟩
  · obtain ⟨e, hrun⟩ : ∃ e, ((missingManifest false).pipeline {}).run detourPrepared = .error e :=
      Pipeline.exists_error_of_canonicalize hmissing
    rw [run_of_parse honce, assemble_once (hload false) rfl, assembleOnce_of_error hrun]
    exact ⟨⟨_, rfl⟩, hread⟩
  · have hstart : startWatching detourPrepared ((missingManifest true).pipeline {}) none
        = (detourPrepared, .failed (SetupError.unreadable "missing.toml" .notFound).message) := by
      have hinitial : Session.start detourPrepared ⟨"missing.toml", {}, {}⟩ none
          = .error (.unreadable "missing.toml" .notFound) := by
        rw [Session.start, Watcher.start, initiallyWatched, Manifest.directories, hmissing]
        rfl
      simp only [startWatching, Arguments.pipeline, missingManifest, hinitial]
    rw [run_of_parse hwatching, assemble_watching (hload true) rfl,
      show (missingManifest true).output = none from rfl, hstart]
    exact ⟨⟨_, rfl⟩, hread⟩

end CommandLine

end ShaderAssembly

import ShaderAssembly.Proofs.Library.Opening
import ShaderAssembly.Proofs.Pipeline.Shader
import ShaderAssembly.Proofs.Shader.Resolution

/-!
# The stages of a run

A run goes through three stages, each with errors of its own: the resolver, the shader of the
manifest, and the look-ups. The first stage that fails is the one that is reported, and the last one
fails at the first block without a text. If none fails, the code can be said from what each stage
gives: what the user wants comes before what the manifest on top states, and that before the
configuration.
-/

namespace ShaderAssembly

namespace Pipeline

/-- The version that the code states, if it is not empty. -/
def statedVersion (pipeline : Pipeline) (manifest : Manifest) : String :=
  pipeline.options.version.getD (manifest.version.getD pipeline.config.general.defaultVersion)

def keepsPrelude (pipeline : Pipeline) (manifest : Manifest) : Bool :=
  !pipeline.options.noPrelude && manifest.prelude.getD pipeline.config.general.prelude

/-- The code of a run, from the manifest on top, the shader that is built from it, and the texts of
its blocks. -/
def codeOf (pipeline : Pipeline) (manifest : Manifest) (built : Shader) (texts : List String) :
    String :=
  (if pipeline.statedVersion manifest = "" then ""
    else "#version " ++ pipeline.statedVersion manifest ++ "\n") ++
  (if pipeline.keepsPrelude manifest then preludeText else "") ++
  Text.ofLines (built.extensions.toList.map fun (name, mode) =>
    "#extension " ++ name ++ ": " ++ mode.keyword) ++
  Text.ofLines (built.macros.map MacroOp.directive) ++
  Text.ofLines (pipeline.options.macros.map MacroOp.directive) ++
  Text.ofLines texts

/-- What a run gives. A stage takes part only if those before it succeed. -/
inductive Outcome (pipeline : Pipeline) (tree : FileTree) :
    Except PipelineError Assembly → Prop where
  | noResolver {cause : SetupError} (setUp : pipeline.config.resolver tree = .error cause) :
      Outcome pipeline tree (.error (.noResolver cause))
  | notBuilt {resolver : Resolver} {cause : SetupError}
      (setUp : pipeline.config.resolver tree = .ok resolver)
      (build : Manifest.buildTracked tree pipeline.manifest pipeline.config.general
        = .error cause) :
      Outcome pipeline tree (.error (.notBuilt pipeline.manifest cause))
  | notAssembled {resolver : Resolver} {shader : Shader} {before after : List Block}
      {block : Block} {cause : AssemblyError}
      (setUp : pipeline.config.resolver tree = .ok resolver)
      (change : pipeline.shader tree = .ok shader)
      (blocks : shader.blocks = before ++ block :: after)
      (earlier : ∀ block ∈ before, ∃ text, block.resolve resolver = .ok text)
      (failed : block.resolve resolver = .error cause) :
      Outcome pipeline tree (.error (.notAssembled pipeline.manifest cause))
  | assembled {resolver : Resolver} {built : Shader} {dirs : List Location} {manifest : Manifest}
      {texts : List String} (setUp : pipeline.config.resolver tree = .ok resolver)
      (build : Manifest.buildTracked tree pipeline.manifest pipeline.config.general
        = .ok (built, dirs))
      (load : Manifest.load tree pipeline.manifest = .ok manifest)
      (found : List.Forall₂ (fun block text => Block.resolve resolver block = .ok text)
        built.blocks texts) :
      Outcome pipeline tree (.ok ⟨pipeline.codeOf manifest built texts, dirs⟩)

variable {pipeline : Pipeline} {tree : FileTree}

theorem header_apply_eq_codeOf {built : Shader} {dirs : List Location} {manifest : Manifest}
    (hbuilt : Manifest.buildTracked tree pipeline.manifest pipeline.config.general
      = .ok (built, dirs))
    (hload : Manifest.load tree pipeline.manifest = .ok manifest) (texts : List String) :
    (pipeline.options.apply built).header ++ Text.ofLines texts
      = pipeline.codeOf manifest built texts := by
  obtain ⟨-, manifest', -, hload', hversion, hprelude, -⟩ := Manifest.opening_of_buildTracked hbuilt
  obtain rfl : manifest' = manifest := Except.ok.inj (hload'.symm.trans hload)
  have hstated : (pipeline.options.apply built).version = pipeline.statedVersion manifest' := by
    rw [BuildOptions.version_apply, hversion, statedVersion]
  have hkept : (pipeline.options.apply built).prelude = pipeline.keepsPrelude manifest' := by
    rw [BuildOptions.prelude_apply, hprelude, keepsPrelude, Bool.and_comm]
  have hlines : Text.ofLines (Shader.versionLines (pipeline.statedVersion manifest'))
      = if pipeline.statedVersion manifest' = "" then ""
        else "#version " ++ pipeline.statedVersion manifest' ++ "\n" := by
    rw [Shader.versionLines]
    by_cases hempty : pipeline.statedVersion manifest' = "" <;>
      simp [hempty, Text.ofLines]
  rw [Shader.header, hstated, hkept, hlines, BuildOptions.extensions_apply,
    BuildOptions.macros_apply, List.map_append, Text.ofLines_append, codeOf]
  simp only [String.append_assoc, Shader.extensionDirective]

theorem outcome_run (pipeline : Pipeline) (tree : FileTree) :
    pipeline.Outcome tree (pipeline.run tree) := by
  rw [run_eq]
  split
  case h_1 cause hresolver => exact .noResolver hresolver
  case h_2 resolver hresolver =>
    split
    case h_1 cause hbuilt => exact .notBuilt hresolver hbuilt
    case h_2 built dirs hbuilt =>
      split
      case h_1 cause hassembled =>
        obtain ⟨before, block, after, hblocks, hbefore, hfailed⟩ :=
          Shader.assemble_eq_error_iff.1 hassembled
        exact .notAssembled hresolver (shader_eq_ok_iff_built.2 ⟨built, dirs, hbuilt, rfl⟩) hblocks
          hbefore hfailed
      case h_2 code hassembled =>
        obtain ⟨texts, htexts, rfl⟩ := Shader.assemble_eq_ok_iff.1 hassembled
        obtain ⟨-, manifest, -, hload, -⟩ := Manifest.opening_of_buildTracked hbuilt
        rw [header_apply_eq_codeOf hbuilt hload]
        rw [BuildOptions.blocks_apply] at htexts
        exact .assembled hresolver hbuilt hload htexts

theorem Outcome.run_eq {result : Except PipelineError Assembly} (h : pipeline.Outcome tree result) :
    pipeline.run tree = result := by
  rw [Pipeline.run_eq]
  cases h with
  | noResolver setUp => rw [setUp]
  | notBuilt setUp build => simp only [setUp, build]
  | notAssembled setUp change blocks earlier failed =>
      obtain ⟨built, dirs, hbuilt, rfl⟩ := shader_eq_ok_iff_built.1 change
      simp only [setUp, hbuilt, Shader.assemble_eq_error_of_first blocks earlier failed]
  | assembled setUp build load found =>
      have hcode := Shader.assemble_eq_ok_iff.2
        ⟨_, (pipeline.options.blocks_apply _).symm ▸ found, rfl⟩
      simp only [setUp, build, hcode, header_apply_eq_codeOf build load]

/-- **What a run gives.** A run has one outcome: the error of the first stage that fails, where the
look-ups fail at the first block without a text, or the code in all its parts. So it succeeds
exactly if every stage does. Its shader assembles to the same code or the same error, and its
directories are those of the build. -/
theorem run_eq_iff_outcome (pipeline : Pipeline) (tree : FileTree) :
    (∀ result, pipeline.run tree = result ↔ pipeline.Outcome tree result) ∧
    ((∃ assembly, pipeline.run tree = .ok assembly) ↔
      ∃ resolver built shader, pipeline.config.resolver tree = .ok resolver ∧
        Manifest.buildTracked tree pipeline.manifest pipeline.config.general = .ok built ∧
        pipeline.shader tree = .ok shader ∧
        ∀ block ∈ shader.blocks, ∃ text, block.resolve resolver = .ok text) ∧
    ∀ resolver built dirs, pipeline.config.resolver tree = .ok resolver →
      Manifest.buildTracked tree pipeline.manifest pipeline.config.general = .ok (built, dirs) →
      ∃ shader, pipeline.shader tree = .ok shader ∧
        pipeline.assemble tree
          = (shader.assemble resolver).mapError (.notAssembled pipeline.manifest) ∧
        pipeline.run tree = (pipeline.assemble tree).map fun code => ⟨code, dirs⟩ := by
  refine ⟨fun result => ⟨?_, Outcome.run_eq⟩, ⟨?_, ?_⟩, ?_⟩
  · rintro rfl
    exact outcome_run pipeline tree
  · rintro ⟨assembly, hrun⟩
    have houtcome := outcome_run pipeline tree
    rw [hrun] at houtcome
    obtain _ | _ | _ | ⟨hresolver, hbuilt, hload, htexts⟩ := houtcome
    refine ⟨_, _, _, hresolver, hbuilt, shader_eq_ok_iff_built.2 ⟨_, _, hbuilt, rfl⟩, ?_⟩
    intro block hblock
    rw [BuildOptions.blocks_apply] at hblock
    exact exists_of_mem_of_forall₂ htexts hblock
  · rintro ⟨resolver, built, shader, hresolver, hbuilt, hshader, hblocks⟩
    obtain ⟨built, dirs, hbuilt, rfl⟩ := shader_eq_ok_iff_built.1 hshader
    cases hassembled : (pipeline.options.apply built).assemble resolver with
    | ok code =>
        refine ⟨⟨code, dirs⟩, ?_⟩
        simp only [run_eq, hresolver, hbuilt, hassembled]
    | error cause =>
        obtain ⟨before, block, after, hsplit, -, hfailed⟩ :=
          Shader.assemble_eq_error_iff.1 hassembled
        obtain ⟨text, htext⟩ := hblocks block (hsplit ▸ List.mem_append_right _ List.mem_cons_self)
        rw [hfailed] at htext
        contradiction
  · intro resolver built dirs hresolver hbuilt
    refine ⟨_, shader_eq_ok_iff_built.2 ⟨built, dirs, hbuilt, rfl⟩, ?_⟩
    simp only [assemble, run_eq, hresolver, hbuilt]
    cases (pipeline.options.apply built).assemble resolver with
    | ok code => exact ⟨rfl, rfl⟩
    | error cause => exact ⟨rfl, rfl⟩

/-- A manifest that leaves its version open, with a library that states one. -/
def versionInLibrary : FileTree :=
  ⟨"/", [
    (["m.toml"], .file (.text (Text.ofLines
      ["pre_added_source = false", "libraries = ['l.toml']", "sources = [\x7bstring = 'body'\x7d]",
       "[extensions]", "E = 'warn'", "[[macros]]", "name = 'B'"]))),
    (["l.toml"], .file (.text (Text.ofLines
      ["version = '450'", "[[macros]]", "name = 'A'", "value = 1"])))]⟩

def removingA : Pipeline :=
  ⟨"m.toml", { general := { defaultVersion := "100" } }, { macros := [.undefine "A"] }⟩

def definesA : LibraryTree :=
  .node ["l.toml"] { version := some "450", macros := [⟨"A", .integer 1, .back⟩] } []

def definesB : LibraryTree :=
  .node ["m.toml"]
    { prelude := some false, libraries := ["l.toml"], extensions := [("E", .warn)]
      macros := [⟨"B", .text "", .back⟩], sources := [{ text := some "body" }] } [definesA]

def codeRemovingA : String :=
  "#version 100\n#extension E: warn\n#define A 1\n#define B\n#undef A\nbody\n"

theorem run_removingA_outcome :
    removingA.run versionInLibrary = .ok ⟨codeRemovingA, [[]]⟩ ∧
    ∃ resolver shader, removingA.config.resolver versionInLibrary = .ok resolver ∧
      removingA.shader versionInLibrary = .ok shader ∧
      (shader.assemble resolver).mapError (PipelineError.notAssembled "m.toml")
        = .ok codeRemovingA := by
  have hinner : definesA.Unfolds versionInLibrary := .leaf (by decide +kernel) rfl
  have houter : definesB.Unfolds versionInLibrary :=
    .node (by decide +kernel) (by decide +kernel) (by simpa using hinner)
  have hinnerGood : definesA.Faultless := LibraryTree.faultless_leaf (by decide)
  have hgood : definesB.Faultless :=
    LibraryTree.faultless_node.2 ⟨by decide, by simpa using hinnerGood⟩
  have hpath : versionInLibrary.canonicalize "m.toml" = .ok ["m.toml"] := by decide +kernel
  have hload : Manifest.load versionInLibrary "m.toml" = .ok definesB.manifest :=
    (Manifest.load_eq_ok_iff hpath _).2 houter.read
  have hvisit : definesB.visit [] = [[]] := by
    simp only [definesB, definesA, LibraryTree.visit_node, List.foldl_cons, List.foldl_nil]
    rfl
  have hbuilt : Manifest.buildTracked versionInLibrary "m.toml" removingA.config.general
      = .ok (definesB.shader versionInLibrary (some removingA.config.general), [[]]) :=
    Manifest.buildTracked_eq_ok_iff.2 ⟨definesB, houter, hgood, hpath, rfl, hvisit.symm⟩
  have hresolver : removingA.config.resolver versionInLibrary = .ok _ := rfl
  have hblocks : (definesB.shader versionInLibrary (some removingA.config.general)).blocks
      = [.text "body"] := by
    rw [LibraryTree.blocks_shader hgood, definesB, definesA, LibraryTree.sources,
      LibraryTree.layout_node]
    simp only [List.flatMap_cons, List.flatMap_nil, LibraryTree.layout_node]
    rfl
  have hmacros : (definesB.shader versionInLibrary (some removingA.config.general)).macros
      = [.define "A" "1", .define "B" ""] := by
    rw [(Manifest.layered_macros versionInLibrary).shader_eq hgood, definesB, definesA,
      LibraryTree.layout_node]
    simp only [List.flatMap_cons, List.flatMap_nil, LibraryTree.layout_node]
    rfl
  have hextensions : (definesB.shader versionInLibrary
      (some removingA.config.general)).extensions.toList = [("E", .warn)] := by
    have hlibrary : (definesA.libraryShader versionInLibrary).extensions = .empty := by
      rw [← LibraryTree.shader_none, LibraryTree.shader, Manifest.extensions_apply]
      rfl
    rw [LibraryTree.shader, Manifest.extensions_apply]
    simp [definesB, LibraryTree.libraries, LibraryTree.manifest, Shader.merge,
      Shader.setExtensionsOf, Shader.appendBody, hlibrary, ExtensionList.upsertAll,
      ExtensionList.upsert, ExtensionList.empty, ExtensionList.toList, Shader.empty]
  have hcode : removingA.codeOf definesB.manifest
      (definesB.shader versionInLibrary (some removingA.config.general)) ["body"]
        = codeRemovingA := by
    rw [codeOf, hmacros, hextensions]
    decide +kernel
  obtain ⟨houtcome, -, hagree⟩ := run_eq_iff_outcome removingA versionInLibrary
  have hrun : removingA.run versionInLibrary = .ok ⟨codeRemovingA, [[]]⟩ := by
    rw [houtcome, ← hcode]
    exact .assembled hresolver hbuilt hload (hblocks ▸ .cons rfl .nil)
  obtain ⟨shader, hshader, hassemble, -⟩ := hagree _ _ _ hresolver hbuilt
  have hcode : removingA.assemble versionInLibrary = .ok codeRemovingA := by
    rw [assemble, hrun]
    rfl
  exact ⟨hrun, _, shader, hresolver, hshader, hassemble.symm.trans hcode⟩

end Pipeline

end ShaderAssembly

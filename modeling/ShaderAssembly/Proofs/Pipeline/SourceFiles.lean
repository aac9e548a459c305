import ShaderAssembly.Proofs.Library.Sources
import ShaderAssembly.Proofs.Lookup.Choice
import ShaderAssembly.Proofs.Pipeline.Shader
import ShaderAssembly.Proofs.Shader.Resolution
import ShaderAssembly.Text.Lines

/-!
# Which files a run reads

A run emits a text for each source of its library tree, in the order of the sources. For a source
that names a file, this is the text of the file that is meant by that name in a manifest at its
place: beside the manifest that lists it, which for a library is another place than for the manifest
on top, then in the include directories, then where the run takes place. A name that means no file
ends the run, unless something before it did.
-/

namespace ShaderAssembly

namespace Pipeline

variable {pipeline : Pipeline} {tree : FileTree} {library : LibraryTree}

/-- The library tree from which the shader of the pipeline is built. -/
structure BuildsFrom (pipeline : Pipeline) (tree : FileTree) (library : LibraryTree) : Prop where
  unfolds : library.Unfolds tree
  faultless : library.Faultless
  root : tree.canonicalize pipeline.manifest = .ok library.root

/-- The shader of the library tree with the changes that the user wants. -/
def changedShader (pipeline : Pipeline) (tree : FileTree) (library : LibraryTree) : Shader :=
  pipeline.options.apply (library.shader tree (some pipeline.config.general))

/-- The text behind a source, given the resources. -/
def sourceText (pipeline : Pipeline) (tree : FileTree) (table : ResourceTable)
    (source : Location × Block) : Except AssemblyError String :=
  source.2.listedText pipeline.config.search tree table source.1.parent.path

theorem BuildsFrom.buildTracked_eq (h : pipeline.BuildsFrom tree library) :
    Manifest.buildTracked tree pipeline.manifest pipeline.config.general
      = .ok (library.shader tree (some pipeline.config.general), library.visit []) :=
  Manifest.buildTracked_eq_ok_iff.2 ⟨library, h.unfolds, h.faultless, h.root, rfl, rfl⟩

theorem BuildsFrom.blocks_changedShader (h : pipeline.BuildsFrom tree library) :
    (pipeline.changedShader tree library).blocks
      = library.sources.map fun source => source.2.anchored tree source.1.parent.path := by
  rw [changedShader, BuildOptions.blocks_apply, LibraryTree.blocks_shader h.faultless]

theorem BuildsFrom.assemble_eq_ok_iff (h : pipeline.BuildsFrom tree library)
    {table : ResourceTable} {code : String} :
    (pipeline.changedShader tree library).assemble
        (.ofFilesAndTable pipeline.config.search tree table) = .ok code
      ↔ ∃ texts, List.Forall₂ (fun source text => pipeline.sourceText tree table source = .ok text)
          library.sources texts ∧
        code = (pipeline.changedShader tree library).header ++ Text.ofLines texts := by
  rw [Shader.assemble_eq_ok_iff, h.blocks_changedShader]
  simp only [List.forall₂_map_left_iff, Block.resolve_anchored]
  rfl

theorem BuildsFrom.assemble_eq_error_of_first (h : pipeline.BuildsFrom tree library)
    {table : ResourceTable} {before after : List (Location × Block)} {source : Location × Block}
    {e : AssemblyError} (hsources : library.sources = before ++ source :: after)
    (hbefore : ∀ earlier ∈ before, ∃ text, pipeline.sourceText tree table earlier = .ok text)
    (hsource : pipeline.sourceText tree table source = .error e) :
    (pipeline.changedShader tree library).assemble
      (.ofFilesAndTable pipeline.config.search tree table) = .error e := by
  have hblocks := h.blocks_changedShader
  rw [hsources, List.map_append, List.map_cons] at hblocks
  refine Shader.assemble_eq_error_of_first hblocks ?_ ?_
  · intro earlier hearlier
    obtain ⟨listed, hlisted, rfl⟩ := List.mem_map.1 hearlier
    rw [Block.resolve_anchored]
    exact hbefore listed hlisted
  · rw [Block.resolve_anchored]
    exact hsource

/-! ### The run -/

theorem BuildsFrom.run_eq (h : pipeline.BuildsFrom tree library) :
    pipeline.run tree
      = match pipeline.config.resources tree with
        | .error cause => .error (.noResolver cause)
        | .ok table =>
          match (pipeline.changedShader tree library).assemble
              (.ofFilesAndTable pipeline.config.search tree table) with
          | .error cause => .error (.notAssembled pipeline.manifest cause)
          | .ok code => .ok ⟨code, library.visit []⟩ := by
  rw [Pipeline.run_eq, Config.resolver, h.buildTracked_eq]
  cases pipeline.config.resources tree <;> rfl

theorem exists_buildsFrom {assembly : Assembly} (h : pipeline.run tree = .ok assembly) :
    ∃ library, pipeline.BuildsFrom tree library := by
  rw [run_eq] at h
  split at h
  · contradiction
  · split at h
    · contradiction
    · rename_i built dirs hbuilt
      obtain ⟨library, hunfolds, hfaultless, hroot, -⟩ := Manifest.buildTracked_eq_ok_iff.1 hbuilt
      exact ⟨library, hunfolds, hfaultless, hroot⟩

theorem run_eq_ok_iff {assembly : Assembly} :
    pipeline.run tree = .ok assembly ↔
      ∃ library table texts, pipeline.BuildsFrom tree library ∧
        pipeline.config.resources tree = .ok table ∧
        List.Forall₂ (fun source text => pipeline.sourceText tree table source = .ok text)
          library.sources texts ∧
        assembly = ⟨(pipeline.changedShader tree library).header ++ Text.ofLines texts,
          library.visit []⟩ := by
  constructor
  · intro hrun
    obtain ⟨library, hbuilds⟩ := exists_buildsFrom hrun
    rw [hbuilds.run_eq] at hrun
    split at hrun
    · contradiction
    · rename_i table htable
      split at hrun
      · contradiction
      · rename_i code hcode
        obtain ⟨texts, htexts, rfl⟩ := hbuilds.assemble_eq_ok_iff.1 hcode
        exact ⟨library, table, texts, hbuilds, htable, htexts, (Except.ok.inj hrun).symm⟩
  · rintro ⟨library, table, texts, hbuilds, htable, htexts, rfl⟩
    rw [hbuilds.run_eq, htable]
    simp only [hbuilds.assemble_eq_ok_iff.2 ⟨texts, htexts, rfl⟩]

/-- **Which files a run reads.** A run that succeeds emits a text for each source, and for a source
that names a file this is the text of the first choice that is a file: an absolute name itself, or
else what lies beside the manifest that lists it, then in the include directories, then where the
run takes place. All source entries of all manifests that are reached are among the sources. A name
without such a choice ends the run, unless an earlier step or an earlier source does, and the name
is reported as it was written. All this is said of manifests in directories whose paths are UTF-8,
as they are in a file tree: a shader keeps the path of the file beside a manifest as a text, and the
text of any other path does not lead to the file. -/
theorem run_reads_chosen_files (pipeline : Pipeline) (tree : FileTree) :
    (∀ assembly, pipeline.run tree = .ok assembly →
      ∃ library texts, pipeline.BuildsFrom tree library ∧
        assembly.code
          = (pipeline.changedShader tree library).header ++ Text.ofLines texts ∧
        List.Forall₂ (fun source text => ∀ file, source.2 = .file file →
          ∃ found, pipeline.config.search.choose? tree source.1.parent.path file = some found ∧
            tree.readText found = .ok text) library.sources texts) ∧
    ∀ library, pipeline.BuildsFrom tree library →
      (∀ here, Relation.ReflTransGen tree.LibraryEdge library.root here →
        ∀ manifest, tree.manifestAt? here = some manifest →
          ∀ entry ∈ manifest.sources, ∀ block, entry.block = .ok block →
            (here, block) ∈ library.sources) ∧
      ∀ before here file after, library.sources = before ++ (here, .file file) :: after →
        pipeline.config.search.choose? tree here.parent.path file = none →
        (∀ table, pipeline.config.resources tree = .ok table →
          ∀ earlier ∈ before, ∃ text, pipeline.sourceText tree table earlier = .ok text) →
        pipeline.run tree
          = match pipeline.config.resources tree with
            | .error cause => .error (.noResolver cause)
            | .ok _ => .error (.notAssembled pipeline.manifest (.unresolvedFile file
                (.notLocated file pipeline.config.paths.includeDirs.length))) := by
  refine ⟨fun assembly hrun => ?_, fun library hbuilds => ⟨?_, ?_⟩⟩
  · obtain ⟨library, table, texts, hbuilds, -, htexts, rfl⟩ := run_eq_ok_iff.1 hrun
    refine ⟨library, texts, hbuilds, rfl, htexts.imp fun source text htext file hfile => ?_⟩
    rw [sourceText, hfile, Block.listedText] at htext
    cases hchoice : pipeline.config.search.choose? tree source.1.parent.path file with
    | none => simp [hchoice] at htext
    | some found =>
        refine ⟨found, rfl, ?_⟩
        cases hread : tree.readText found with
        | error e => simp [hchoice, hread, Except.mapError] at htext
        | ok text' => simpa [hchoice, hread, Except.mapError] using htext
  · intro here hreach manifest hread entry hentry block hblock
    exact hbuilds.unfolds.mem_sources hreach hread hentry hblock
  · intro before here file after hsources hchoice hbefore
    rw [hbuilds.run_eq]
    cases htable : pipeline.config.resources tree with
    | error cause => rfl
    | ok table =>
        have hsource : pipeline.sourceText tree table (here, .file file)
            = .error (.unresolvedFile file
              (.notLocated file pipeline.config.paths.includeDirs.length)) := by
          simp only [sourceText, Block.listedText, hchoice]
          rfl
        simp only [hbuilds.assemble_eq_error_of_first hsources (hbefore table htable) hsource]

/-- Two manifests that name the same file, which is there in three places. -/
def fileInThreePlaces : FileTree :=
  ⟨"/", [
    (["m.toml"], .file (.text (Text.ofLines
      ["libraries = ['lib/l.toml']",
       "sources = [\x7bfile = 'a.glsl'\x7d, \x7bfile = 'b.glsl'\x7d]"]))),
    (["a.glsl"], .file (.text "top a")),
    (["lib"], .directory),
    (["lib", "l.toml"], .file (.text "sources = [\x7bfile = 'a.glsl'\x7d]")),
    (["lib", "a.glsl"], .file (.text "lib a")),
    (["inc"], .directory),
    (["inc", "a.glsl"], .file (.text "inc a")),
    (["inc", "b.glsl"], .file (.text "inc b")),
    (["n.toml"], .file (.text "sources = [\x7bfile = 'c.glsl'\x7d]"))]⟩

def searchingInc (manifest : String) : Pipeline :=
  ⟨manifest, { paths := { includeDirs := ["inc"] } }, {}⟩

def namesA : LibraryTree := .node ["lib", "l.toml"] { sources := [{ file := some "a.glsl" }] } []

def namesAB : LibraryTree :=
  .node ["m.toml"]
    { libraries := ["lib/l.toml"]
      sources := [{ file := some "a.glsl" }, { file := some "b.glsl" }] } [namesA]

def namesC : LibraryTree := .node ["n.toml"] { sources := [{ file := some "c.glsl" }] } []

theorem run_fileInThreePlaces_reads :
    (∃ assembly, (searchingInc "m.toml").run fileInThreePlaces = .ok assembly ∧
      assembly.code = ((searchingInc "m.toml").changedShader fileInThreePlaces namesAB).header
        ++ Text.ofLines ["lib a", "top a", "inc b"]) ∧
    (searchingInc "n.toml").run fileInThreePlaces
      = .error (.notAssembled "n.toml" (.unresolvedFile "c.glsl" (.notLocated "c.glsl" 1))) := by
  have hinner : namesA.Unfolds fileInThreePlaces := .leaf (by decide +kernel) rfl
  have hgood : namesA.Faultless := LibraryTree.faultless_leaf (by decide)
  have houter : (searchingInc "m.toml").BuildsFrom fileInThreePlaces namesAB :=
    ⟨.node (by decide +kernel) (by decide +kernel) (by simpa using hinner),
      LibraryTree.faultless_node.2 ⟨by decide, by simpa using hgood⟩, by decide +kernel⟩
  have hmissing : (searchingInc "n.toml").BuildsFrom fileInThreePlaces namesC :=
    ⟨.leaf (by decide +kernel) rfl, LibraryTree.faultless_leaf (by decide), by decide +kernel⟩
  have hsources : namesAB.sources
      = [(["lib", "l.toml"], .file "a.glsl"), (["m.toml"], .file "a.glsl"),
        (["m.toml"], .file "b.glsl")] := by
    simp only [namesAB, namesA, LibraryTree.sources, LibraryTree.layout_node, List.flatMap_cons,
      List.flatMap_nil]
    rfl
  obtain ⟨assembly, hrun⟩ : ∃ assembly, (searchingInc "m.toml").run fileInThreePlaces
      = .ok assembly :=
    ⟨_, run_eq_ok_iff.2 ⟨namesAB, _, ["lib a", "top a", "inc b"], houter, rfl, by
      rw [hsources]
      exact .cons (by decide +kernel) (.cons (by decide +kernel) (.cons (by decide +kernel) .nil)),
      rfl⟩⟩
  refine ⟨⟨assembly, hrun, ?_⟩, ?_⟩
  · obtain ⟨library, texts, hbuilds, hcode, htexts⟩ :=
      (run_reads_chosen_files (searchingInc "m.toml") fileInThreePlaces).1 _ hrun
    obtain rfl : library = namesAB := hbuilds.unfolds.unique houter.unfolds
      (Except.ok.inj (hbuilds.root.symm.trans houter.root))
    have hread (expected : String) {here : Location} {file text : String}
        (h : ∃ found, (searchingInc "m.toml").config.search.choose? fileInThreePlaces
          here.parent.path file = some found ∧ fileInThreePlaces.readText found = .ok text)
        (hexpected : ((searchingInc "m.toml").config.search.choose? fileInThreePlaces
          here.parent.path file).map fileInThreePlaces.readText = some (.ok expected)) :
        text = expected := by
      obtain ⟨found, hchoice, hfound⟩ := h
      rw [hchoice, Option.map_some, hfound] at hexpected
      exact Except.ok.inj (Option.some.inj hexpected)
    rw [hsources] at htexts
    obtain _ | ⟨hfirst, _ | ⟨hsecond, _ | ⟨hthird, _ | _⟩⟩⟩ := htexts
    rw [hcode, hread "lib a" (hfirst _ rfl) (by decide +kernel),
      hread "top a" (hsecond _ rfl) (by decide +kernel),
      hread "inc b" (hthird _ rfl) (by decide +kernel)]
  · have hsources : namesC.sources = [] ++ (["n.toml"], .file "c.glsl") :: [] := by
      simp only [namesC, LibraryTree.sources, LibraryTree.layout_node]
      rfl
    have hmissed := ((run_reads_chosen_files (searchingInc "n.toml") fileInThreePlaces).2 namesC
      hmissing).2 [] ["n.toml"] "c.glsl" [] hsources (by decide +kernel) (fun _ _ _ hmem =>
        absurd hmem List.not_mem_nil)
    exact hmissed

end Pipeline

end ShaderAssembly

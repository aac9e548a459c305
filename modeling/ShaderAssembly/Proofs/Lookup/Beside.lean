import ShaderAssembly.Proofs.FileTree.Walk
import ShaderAssembly.Proofs.Lookup.Choice
import ShaderAssembly.Proofs.Manifest.Sections
import ShaderAssembly.Proofs.Shader.Resolution

/-!
# A file beside a manifest, found again

A file that lies beside a manifest enters the shader as the path of that file, seen from the
directory that the manifest is applied in. When the shader is assembled, this path is searched like
any other. If the directory was given by an absolute path, nothing else can be found. But if it was
given by a relative one, the path is relative too, and an include directory in which there happens
to be such a file wins over the directory of the manifest.
-/

namespace ShaderAssembly

namespace FileSearch

variable {search : FileSearch} {tree : FileTree} {path : String}

/-- The file that is read under the path of a file. A relative path is searched in the include
directories first. -/
def foundAgain (search : FileSearch) (tree : FileTree) (path : String) : String :=
  if Path.isAbsolute path then path
  else ((search.includeDirs.map (Path.join · path)).find? tree.isFile).getD path

theorem locate_eq_foundAgain (h : tree.isFile path = true) :
    search.locate tree path = some (search.foundAgain tree path) := by
  rw [locate, candidates, foundAgain]
  split
  · exact List.find?_cons_of_pos h
  · rw [List.find?_append]
    cases (search.includeDirs.map (Path.join · path)).find? tree.isFile with
    | some found => rfl
    | none => exact List.find?_cons_of_pos h

theorem fileText_of_isFile (h : tree.isFile path = true) :
    search.fileText tree path = tree.readText (search.foundAgain tree path) := by
  rw [fileText, locate_eq_foundAgain h]

theorem foundAgain_of_isAbsolute (h : Path.isAbsolute path = true) :
    search.foundAgain tree path = path := if_pos h

theorem foundAgain_of_not_included
    (h : ∀ dir ∈ search.includeDirs, tree.isFile (Path.join dir path) = false) :
    search.foundAgain tree path = path := by
  have hnone : (search.includeDirs.map (Path.join · path)).find? tree.isFile = none := by
    rw [List.find?_eq_none, List.forall_mem_map]
    intro dir hdir
    simp [h dir hdir]
  rw [foundAgain, hnone, Option.getD_none, ite_self]

end FileSearch

namespace Manifest

variable {tree : FileTree} {dir : String} {entry : SourceEntry} {block : Block}

/-! ### The block of a source entry -/

/-- The blocks ahead of the block of an entry, where these entries are applied before and after
it. -/
def blocksAhead (tree : FileTree) (dir : String) (shader : Shader)
    (earlier later : List SourceEntry) : Side → List Block
  | .front => (blocksOf tree dir .front later).reverse
  | .back => (blocksOf tree dir .front (earlier ++ later)).reverse ++ shader.blocks
      ++ blocksOf tree dir .back earlier

/-- The blocks behind it. -/
def blocksBehind (tree : FileTree) (dir : String) (shader : Shader)
    (earlier later : List SourceEntry) : Side → List Block
  | .front => (blocksOf tree dir .front earlier).reverse ++ shader.blocks
      ++ blocksOf tree dir .back (earlier ++ later)
  | .back => blocksOf tree dir .back later

/-- Each entry before the first bad one has its block at its own place. -/
theorem blocks_apply_around {manifest : Manifest} {earlier later : List SourceEntry}
    (hsources : manifest.sources = earlier ++ entry :: later)
    (hgood : ∀ other ∈ earlier, other.namesOne) (hblock : entry.block = .ok block)
    (defaults : Option General) (shader : Shader) :
    (manifest.apply tree dir defaults shader).1.blocks
      = blocksAhead tree dir shader earlier (later.takeWhile (·.namesOne)) entry.side
        ++ block.anchored tree dir
          :: blocksBehind tree dir shader earlier (later.takeWhile (·.namesOne)) entry.side := by
  have hentry : entry.namesOne := entry.exists_block_iff_namesOne.1 ⟨block, hblock⟩
  have happlied : manifest.sources.takeWhile (·.namesOne)
      = earlier ++ entry :: later.takeWhile (·.namesOne) := by
    rw [hsources, List.takeWhile_append_of_pos hgood, List.takeWhile_cons_of_pos hentry]
  rw [apply, blocks_applySources, blocks_applyHeader, happlied]
  simp only [blocksOf_append, blocksOf_cons hblock]
  cases entry.side with
  | front => simp [blocksAhead, blocksBehind, blocksOf_append]
  | back => simp [blocksAhead, blocksBehind, blocksOf_append]

end Manifest

/-! ### What is read for it -/

theorem anchor_of_isFile {tree : FileTree} {dir file : String}
    (hfile : Path.isAbsolute file = false) (hbeside : tree.isFile (Path.join dir file) = true) :
    anchor tree dir file = Path.join dir file := by
  rw [anchor, if_neg (Bool.eq_false_iff.1 hfile), if_pos hbeside]

theorem Block.resolve_file_eq_ok_iff {search : FileSearch} {tree : FileTree} {path text : String}
    (h : tree.isFile path = true) :
    (Block.file path).resolve (.ofFiles search tree) = .ok text
      ↔ tree.readText (search.foundAgain tree path) = .ok text := by
  have hresolved : (Block.file path).resolve (.ofFiles search tree)
      = (search.fileText tree path).mapError (.unresolvedFile path) := rfl
  rw [hresolved, FileSearch.fileText_of_isFile h]
  cases tree.readText (search.foundAgain tree path) <;> simp [Except.mapError]

namespace Manifest

/-- **A file beside the manifest.** A relative file name that leads to a text from the directory of
the manifest enters the shader as the path of that file. An assembly reads what is found under this
path in its place, and that is the text of the file if the directory is given by an absolute path,
or if no include directory has a file under this path. The path of the directory is UTF-8 here; of
any other the shader would keep a text under which the file is not found again. -/
theorem apply_reads_beside_unless_included {manifest : Manifest} {tree : FileTree}
    {dir file text : String} {entry : SourceEntry} {earlier later : List SourceEntry}
    (hsources : manifest.sources = earlier ++ entry :: later)
    (hgood : ∀ other ∈ earlier, other.namesOne) (hblock : entry.block = .ok (.file file))
    (hfile : Path.isAbsolute file = false) (htext : tree.readText (Path.join dir file) = .ok text)
    (defaults : Option General) (shader : Shader) (search : FileSearch) :
    let applied := (manifest.apply tree dir defaults shader).1
    let path := Path.join dir file
    let ahead := blocksAhead tree dir shader earlier (later.takeWhile (·.namesOne)) entry.side
    let behind := blocksBehind tree dir shader earlier (later.takeWhile (·.namesOne)) entry.side
    applied.blocks = ahead ++ .file path :: behind ∧
    (∀ code, applied.assemble (.ofFiles search tree) = .ok code ↔
      ∃ before read after,
        List.Forall₂ (fun block text => block.resolve (.ofFiles search tree) = .ok text)
          ahead before ∧
        tree.readText (search.foundAgain tree path) = .ok read ∧
        List.Forall₂ (fun block text => block.resolve (.ofFiles search tree) = .ok text)
          behind after ∧
        code = applied.header ++ Text.ofLines (before ++ read :: after)) ∧
    (Path.isAbsolute dir = true ∨
        (∀ included ∈ search.includeDirs, tree.isFile (Path.join included path) = false) →
      ∀ read, tree.readText (search.foundAgain tree path) = .ok read ↔ read = text) := by
  intro applied path ahead behind
  have hbeside : tree.isFile path = true := FileTree.isFile_of_readText htext
  have hblocks : applied.blocks = ahead ++ .file path :: behind := by
    have hanchored : (Block.file file).anchored tree dir = .file path :=
      congrArg Block.file (anchor_of_isFile hfile hbeside)
    rw [← hanchored]
    exact blocks_apply_around hsources hgood hblock defaults shader
  refine ⟨hblocks, fun code => ?_, fun hkept read => ?_⟩
  · simp only [Shader.assemble_eq_ok_iff_around hblocks, Block.resolve_file_eq_ok_iff hbeside]
  · have hfound : search.foundAgain tree path = path := by
      rcases hkept with habsolute | hnone
      · exact FileSearch.foundAgain_of_isAbsolute (Path.isAbsolute_join habsolute file)
      · exact FileSearch.foundAgain_of_not_included hnone
    rw [hfound, htext, Except.ok.injEq, eq_comm]

/-- One file beside the manifest, and one of the same name in a directory. -/
def besideAndIncluded : FileTree :=
  ⟨"/", [(["a.glsl"], .file (.text "beside")), (["inc"], .directory),
    (["inc", "a.glsl"], .file (.text "included"))]⟩

def listsA : Manifest := { prelude := some false, sources := [{ file := some "a.glsl" }] }

theorem apply_listsA_reads_beside :
    besideAndIncluded.isFile (Path.join "/inc" "a.glsl") = true ∧
    (listsA.apply besideAndIncluded "/" none .empty).1.assemble
      (.ofFiles ⟨["inc", "/inc"]⟩ besideAndIncluded) = .ok "beside\n" := by
  have hsources : listsA.sources = [] ++ { file := some "a.glsl" } :: [] := rfl
  have htext : besideAndIncluded.readText (Path.join "/" "a.glsl") = .ok "beside" := by
    decide +kernel
  obtain ⟨-, hcode, hread⟩ := apply_reads_beside_unless_included hsources
    (List.forall_mem_nil _) rfl rfl htext none .empty ⟨["inc", "/inc"]⟩
  refine ⟨by decide +kernel, (hcode _).2 ⟨[], "beside", [], .nil, ?_, .nil, by decide +kernel⟩⟩
  exact (hread (.inl rfl) "beside").2 rfl

/-- Seen from the directory `.`, the path of the file beside the manifest is relative, and the
include directory wins. -/
theorem apply_listsA_reads_included :
    besideAndIncluded.readText (Path.join "." "a.glsl") = .ok "beside" ∧
    (listsA.apply besideAndIncluded "." none .empty).1.assemble
      (.ofFiles ⟨["inc"]⟩ besideAndIncluded) = .ok "included\n" := by
  decide +kernel

end Manifest

end ShaderAssembly

import Mathlib.Data.List.TakeWhile
import ShaderAssembly.Manifest.Apply
import ShaderAssembly.Proofs.Shader.Ends

/-!
# What a manifest adds, section by section

A manifest acts on each section of a shader by itself. Its macros and its sources are additions at
either end of a sequence, so applying it puts its front entries, in reverse, before all that the
shader had and its back entries after. Only the sources can be at fault, and only what stands
before the first bad one is added.
-/

namespace ShaderAssembly

def MacroEntry.op (entry : MacroEntry) : MacroOp := .define entry.name entry.value.emitted

namespace SourceEntry

/-- Whether the entry names exactly one of a file, a text and a resource. -/
def namesOne (entry : SourceEntry) : Bool :=
  [entry.file, entry.text, entry.resource].countP Option.isSome == 1

/-- The block that the entry adds when its manifest lies in the directory `dir`. -/
def placedBlock? (tree : FileTree) (dir : String) (entry : SourceEntry) : Option Block :=
  entry.block.toOption.map (·.anchored tree dir)

theorem exists_block_iff_namesOne (entry : SourceEntry) :
    (∃ block, entry.block = .ok block) ↔ entry.namesOne := by
  obtain ⟨file, text, resource, side⟩ := entry
  cases file <;> cases text <;> cases resource <;> simp [block, namesOne]

theorem placedBlock?_of_block {entry : SourceEntry} {block : Block} (h : entry.block = .ok block)
    (tree : FileTree) (dir : String) :
    entry.placedBlock? tree dir = some (block.anchored tree dir) := by
  simp [placedBlock?, h, Except.toOption]

end SourceEntry

namespace Manifest

def macrosAt (manifest : Manifest) (side : Side) : List MacroOp :=
  (manifest.macros.filter (·.side = side)).map MacroEntry.op

def removals (manifest : Manifest) : List MacroOp := manifest.undefines.map .undefine

def blocksOf (tree : FileTree) (dir : String) (side : Side) (entries : List SourceEntry) :
    List Block :=
  (entries.filter (·.side = side)).filterMap (·.placedBlock? tree dir)

def blocksAt (manifest : Manifest) (tree : FileTree) (dir : String) (side : Side) : List Block :=
  blocksOf tree dir side manifest.sources

theorem blocksOf_append (tree : FileTree) (dir : String) (side : Side)
    (entries more : List SourceEntry) :
    blocksOf tree dir side (entries ++ more)
      = blocksOf tree dir side entries ++ blocksOf tree dir side more := by
  rw [blocksOf, List.filter_append, List.filterMap_append, blocksOf, blocksOf]

theorem blocksOf_cons {tree : FileTree} {dir : String} {entry : SourceEntry} {block : Block}
    (hblock : entry.block = .ok block) (side : Side) (entries : List SourceEntry) :
    blocksOf tree dir side (entry :: entries)
      = if entry.side = side then block.anchored tree dir :: blocksOf tree dir side entries
        else blocksOf tree dir side entries := by
  have hplaced := SourceEntry.placedBlock?_of_block hblock tree dir
  by_cases hside : entry.side = side
  · rw [if_pos hside, blocksOf, List.filter_cons_of_pos (by simpa using hside),
      List.filterMap_cons_some hplaced, blocksOf]
  · rw [if_neg hside, blocksOf, List.filter_cons_of_neg (by simpa using hside), blocksOf]

/-! ### The header -/

def applyOpening (manifest : Manifest) (shader : Shader) (defaults : Option General) : Shader :=
  let shader := match manifest.effectiveVersion defaults with
    | some version => shader.setVersion version
    | none => shader
  if manifest.effectivePrelude defaults = some false then shader.dropPrelude else shader

def extend (shader : Shader) : String × ExtensionMode → Shader
  | (name, mode) => shader.setExtension name mode

theorem applyHeader_eq (manifest : Manifest) (shader : Shader) (defaults : Option General) :
    manifest.applyHeader shader defaults
      = manifest.undefines.foldl Shader.undefine
        (manifest.macros.foldl (fun s m => s.define m.name m.value.emitted m.side)
          (manifest.extensions.foldl extend (manifest.applyOpening shader defaults))) := rfl

theorem applyOpening_unchanged {γ : Type} (view : Shader → γ)
    (hversion : ∀ shader version, view (Shader.setVersion shader version) = view shader)
    (hprelude : ∀ shader, view (Shader.dropPrelude shader) = view shader) (manifest : Manifest)
    (shader : Shader) (defaults : Option General) :
    view (manifest.applyOpening shader defaults) = view shader := by
  simp only [applyOpening]
  split <;> split <;> simp only [hversion, hprelude]

/-- What extensions and macro operations leave alone is as the opening leaves it. -/
theorem applyHeader_unchanged {γ : Type} (view : Shader → γ)
    (hextend : ∀ shader mention, view (extend shader mention) = view shader)
    (hdefine : ∀ shader name value side, view (shader.define name value side) = view shader)
    (hundefine : ∀ shader name, view (shader.undefine name) = view shader)
    (manifest : Manifest) (shader : Shader) (defaults : Option General) :
    view (manifest.applyHeader shader defaults) = view (manifest.applyOpening shader defaults) := by
  rw [applyHeader_eq, foldl_unchanged view Shader.undefine hundefine,
    foldl_unchanged view _ fun s (m : MacroEntry) => hdefine s m.name m.value.emitted m.side,
    foldl_unchanged view extend hextend]

theorem macros_foldl_undefine (names : List String) (shader : Shader) :
    (names.foldl Shader.undefine shader).macros = shader.macros ++ names.map .undefine := by
  induction names generalizing shader with
  | nil => simp
  | cons name names ih => simp [ih, Shader.undefine]

theorem macros_applyHeader (manifest : Manifest) (shader : Shader) (defaults : Option General) :
    (manifest.applyHeader shader defaults).macros
      = (manifest.macrosAt .front).reverse ++ shader.macros ++ manifest.macrosAt .back
        ++ manifest.removals := by
  have hmacros (entries : List MacroEntry) (s : Shader) :
      (entries.foldl (fun s m => s.define m.name m.value.emitted m.side) s).macros
        = entries.foldl (fun ops m => m.side.add m.op ops) s.macros :=
    (List.foldl_hom Shader.macros (fun _ _ => rfl)).symm
  rw [applyHeader_eq, macros_foldl_undefine, hmacros, foldl_add_eq,
    foldl_unchanged Shader.macros extend fun _ _ => rfl,
    applyOpening_unchanged Shader.macros (fun _ _ => rfl) fun _ => rfl]
  rfl

theorem blocks_applyHeader (manifest : Manifest) (shader : Shader) (defaults : Option General) :
    (manifest.applyHeader shader defaults).blocks = shader.blocks := by
  rw [applyHeader_unchanged Shader.blocks (fun _ _ => rfl) (fun _ _ _ _ => rfl) fun _ _ => rfl,
    applyOpening_unchanged Shader.blocks (fun _ _ => rfl) fun _ => rfl]

theorem extensions_applyHeader (manifest : Manifest) (shader : Shader)
    (defaults : Option General) :
    (manifest.applyHeader shader defaults).extensions
      = shader.extensions.upsertAll manifest.extensions := by
  have hextend (mentions : List (String × ExtensionMode)) (s : Shader) :
      (mentions.foldl extend s).extensions = s.extensions.upsertAll mentions :=
    (List.foldl_hom Shader.extensions (fun _ _ => rfl)).symm
  rw [applyHeader_eq, foldl_unchanged Shader.extensions Shader.undefine fun _ _ => rfl,
    foldl_unchanged Shader.extensions
      (fun s (m : MacroEntry) => s.define m.name m.value.emitted m.side) fun _ _ => rfl,
    hextend, applyOpening_unchanged Shader.extensions (fun _ _ => rfl) fun _ => rfl]

/-! ### The sources -/

variable {tree : FileTree} {dir : String}

theorem applySources_fault_eq_none_iff (entries : List SourceEntry) (shader : Shader) :
    (applySources tree dir entries shader).2 = none ↔ ∀ entry ∈ entries, entry.namesOne := by
  induction entries generalizing shader with
  | nil => simp [applySources]
  | cons entry entries ih =>
      rw [List.forall_mem_cons, ← SourceEntry.exists_block_iff_namesOne]
      cases hblock : entry.block with
      | error fault => simp [applySources, hblock]
      | ok block => simp [applySources, hblock, ih]

theorem fault_of_applySources {entries : List SourceEntry} {shader : Shader} {fault : ManifestFault}
    (h : (applySources tree dir entries shader).2 = some fault) :
    fault = .noSource ∨ fault = .severalSources := by
  induction entries generalizing shader with
  | nil => simp [applySources] at h
  | cons entry entries ih =>
      cases hblock : entry.block with
      | ok block =>
          rw [applySources, hblock] at h
          exact ih h
      | error found =>
          obtain rfl : found = fault := by simpa [applySources, hblock] using h
          unfold SourceEntry.block at hblock
          split at hblock <;> simp_all

/-- Adding sources changes nothing but the blocks. -/
theorem applySources_unchanged {γ : Type} (view : Shader → γ)
    (hview : ∀ shader block side, view (shader.addBlock block side) = view shader)
    (entries : List SourceEntry) (shader : Shader) :
    view (applySources tree dir entries shader).1 = view shader := by
  induction entries generalizing shader with
  | nil => rfl
  | cons entry entries ih =>
      cases hblock : entry.block with
      | error fault => simp [applySources, hblock]
      | ok block => simp only [applySources, hblock, ih, hview]

/-- The sources before the first bad one are added, each at its own side. -/
theorem blocks_applySources (entries : List SourceEntry) (shader : Shader) :
    (applySources tree dir entries shader).1.blocks
      = (blocksOf tree dir .front (entries.takeWhile (·.namesOne))).reverse ++ shader.blocks
        ++ blocksOf tree dir .back (entries.takeWhile (·.namesOne)) := by
  induction entries generalizing shader with
  | nil => simp [applySources, blocksOf]
  | cons entry entries ih =>
      cases hblock : entry.block with
      | error fault =>
          have hbad : ¬ entry.namesOne := by
            rw [← SourceEntry.exists_block_iff_namesOne, hblock]
            simp
          simp [applySources, hblock, hbad, blocksOf]
      | ok block =>
          have hgood : entry.namesOne := entry.exists_block_iff_namesOne.1 ⟨block, hblock⟩
          rw [List.takeWhile_cons_of_pos hgood, blocksOf_cons hblock, blocksOf_cons hblock]
          simp only [applySources, hblock, ih]
          cases entry.side with
          | front => simp [Shader.addBlock, Side.add]
          | back => simp [Shader.addBlock, Side.add]

/-! ### The whole manifest -/

/-- A manifest asks a file tree only whether paths lead to files. -/
theorem apply_congr {tree' : FileTree} (h : tree'.isFile = tree.isFile) (manifest : Manifest)
    (dir : String) (defaults : Option General) (shader : Shader) :
    manifest.apply tree' dir defaults shader = manifest.apply tree dir defaults shader := by
  have hanchored : Block.anchored tree' = Block.anchored tree := by
    funext dir block
    cases block with
    | file path => simp only [Block.anchored, anchor, h]
    | _ => rfl
  have hsources (entries : List SourceEntry) (shader : Shader) :
      applySources tree' dir entries shader = applySources tree dir entries shader := by
    induction entries generalizing shader with
    | nil => rfl
    | cons entry entries ih => simp only [applySources, hanchored, ih]
  exact hsources manifest.sources _

theorem apply_fault_eq_none_iff (manifest : Manifest) (defaults : Option General)
    (shader : Shader) :
    (manifest.apply tree dir defaults shader).2 = none
      ↔ ∀ entry ∈ manifest.sources, entry.namesOne :=
  applySources_fault_eq_none_iff _ _

theorem fault_of_apply {manifest : Manifest} {defaults : Option General} {shader : Shader}
    {fault : ManifestFault} (h : (manifest.apply tree dir defaults shader).2 = some fault) :
    fault = .noSource ∨ fault = .severalSources :=
  fault_of_applySources h

theorem macros_apply (manifest : Manifest) (defaults : Option General) (shader : Shader) :
    (manifest.apply tree dir defaults shader).1.macros
      = (manifest.macrosAt .front).reverse ++ shader.macros ++ manifest.macrosAt .back
        ++ manifest.removals := by
  rw [apply, applySources_unchanged Shader.macros fun _ _ _ => rfl, macros_applyHeader]

theorem extensions_apply (manifest : Manifest) (defaults : Option General) (shader : Shader) :
    (manifest.apply tree dir defaults shader).1.extensions
      = shader.extensions.upsertAll manifest.extensions := by
  rw [apply, applySources_unchanged Shader.extensions fun _ _ _ => rfl, extensions_applyHeader]

theorem blocks_apply (manifest : Manifest) (defaults : Option General) (shader : Shader)
    (hgood : ∀ entry ∈ manifest.sources, entry.namesOne) :
    (manifest.apply tree dir defaults shader).1.blocks
      = (manifest.blocksAt tree dir .front).reverse ++ shader.blocks
        ++ manifest.blocksAt tree dir .back := by
  rw [apply, blocks_applySources, blocks_applyHeader, List.takeWhile_eq_self_iff.2 hgood]
  rfl

end Manifest

end ShaderAssembly

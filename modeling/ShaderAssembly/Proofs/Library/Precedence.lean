import ShaderAssembly.Proofs.Library.Layout
import ShaderAssembly.Proofs.Pipeline.Shader
import ShaderAssembly.Proofs.Shader.MacroStatus

/-!
# Which operation decides a macro

What a macro name means in the end is decided by the last operation on it, and the layout of a
shader says where that one comes from. Read from the end, a shader holds what the user adds, then
for each manifest its removals, its back definitions, its libraries from the last to the first, and
its front definitions. Front definitions are laid out in reverse, so among them the one listed first
is the last in the shader: they are defaults, and the first default counts.
-/

namespace ShaderAssembly

namespace Manifest

/-- The removal of a name, if the manifest lists it. -/
def removal? (manifest : Manifest) (name : String) : Option MacroOp :=
  if name ∈ manifest.undefines then some (.undefine name) else none

/-- The definition of a name that the manifest lists last among those at the back. -/
def lastBack? (manifest : Manifest) (name : String) : Option MacroOp :=
  (manifest.macros.reverse.find? fun entry => entry.side = .back ∧ entry.name = name).map
    MacroEntry.op

/-- The definition of a name that the manifest lists first among those at the front. -/
def firstFront? (manifest : Manifest) (name : String) : Option MacroOp :=
  (manifest.macros.find? fun entry => entry.side = .front ∧ entry.name = name).map MacroEntry.op

theorem lastOn?_removals (manifest : Manifest) (name : String) :
    MacroOp.lastOn? name manifest.removals = manifest.removal? name := by
  rw [removal?]
  cases hlast : MacroOp.lastOn? name manifest.removals with
  | some op =>
      have hmem := List.mem_reverse.1 (List.mem_of_find?_eq_some hlast)
      obtain ⟨other, hother, rfl⟩ := List.mem_map.1 hmem
      obtain rfl : other = name := by simpa [MacroOp.name] using List.find?_some hlast
      rw [if_pos hother]
  | none =>
      rw [if_neg]
      intro hmem
      have hop : MacroOp.undefine name ∈ manifest.removals.reverse :=
        List.mem_reverse.2 (List.mem_map_of_mem hmem)
      exact List.find?_eq_none.1 hlast _ hop (beq_self_eq_true name)

/-- Finding a definition by its name is finding its entry. -/
theorem find?_map_op (entries : List MacroEntry) (side : Side) (name : String) :
    ((entries.filter (·.side = side)).map MacroEntry.op).find? (·.name == name)
      = (entries.find? fun entry => entry.side = side ∧ entry.name = name).map MacroEntry.op := by
  rw [List.find?_map, List.find?_filter]
  refine congrArg (Option.map MacroEntry.op) (congrArg (entries.find? ·) ?_)
  funext entry
  simp [MacroEntry.op, MacroOp.name, Bool.decide_and]

theorem lastOn?_macrosAt_back (manifest : Manifest) (name : String) :
    MacroOp.lastOn? name (manifest.macrosAt .back) = manifest.lastBack? name := by
  rw [MacroOp.lastOn?, macrosAt, ← List.map_reverse, ← List.filter_reverse, find?_map_op, lastBack?]

theorem lastOn?_macrosAt_front (manifest : Manifest) (name : String) :
    MacroOp.lastOn? name (manifest.macrosAt .front).reverse = manifest.firstFront? name := by
  rw [MacroOp.lastOn?_reverse, macrosAt, find?_map_op, firstFront?]

end Manifest

namespace LibraryTree

/-- The operation that decides a name, by the first of these that mentions it: the removals of the
manifest, its back definitions from the last, its libraries from the last, each by this same rule,
and its front definitions from the first. -/
def decision? (name : String) : LibraryTree → Option MacroOp :=
  fold fun _ manifest below =>
    (manifest.removal? name).or <| (manifest.lastBack? name).or <|
      (below.reverse.findSome? id).or (manifest.firstFront? name)

theorem decision?_node (name : String) (here : Location) (manifest : Manifest)
    (libraries : List LibraryTree) :
    (node here manifest libraries).decision? name
      = ((manifest.removal? name).or <| (manifest.lastBack? name).or <|
        (libraries.reverse.findSome? (decision? name)).or (manifest.firstFront? name)) := by
  rw [decision?, fold_node, ← List.map_reverse, List.findSome?_map]
  rfl

/-- The rule decides what the layout ends with. -/
theorem lastOn?_layout (name : String) (library : LibraryTree) :
    MacroOp.lastOn? name (library.layout (fun _ manifest => manifest.macrosAt .front)
        fun _ manifest => manifest.macrosAt .back ++ manifest.removals)
      = library.decision? name := by
  induction library with
  | node here manifest libraries ih =>
      rw [layout_node, decision?_node, MacroOp.lastOn?_append, MacroOp.lastOn?_append,
        MacroOp.lastOn?_append, MacroOp.lastOn?_flatMap, Manifest.lastOn?_removals,
        Manifest.lastOn?_macrosAt_back, Manifest.lastOn?_macrosAt_front, Option.or_assoc]
      rw [← List.head?_filterMap, List.filterMap_congr fun library hlibrary =>
        ih library (List.mem_reverse.1 hlibrary), List.head?_filterMap]

end LibraryTree

namespace Pipeline

/-- **Which operation decides a macro.** The last operation on a name, and so whether the name is
defined in the end and as what, comes from the first of these that mentions it: what the user adds,
from the last; the removals of the manifest; its back definitions, from the last; its libraries,
from the last, each by the same rule; its front definitions, from the first. -/
theorem shader_macro_decided {tree : FileTree} {pipeline : Pipeline} {shader : Shader}
    (h : pipeline.shader tree = .ok shader) :
    ∃ library : LibraryTree, library.Unfolds tree ∧
      tree.canonicalize pipeline.manifest = .ok library.root ∧
      ∀ name, MacroOp.lastOn? name shader.macros
        = ((MacroOp.lastOn? name pipeline.options.macros).or <|
          (library.manifest.removal? name).or <| (library.manifest.lastBack? name).or <|
            (library.libraries.reverse.findSome? (·.decision? name)).or
              (library.manifest.firstFront? name)) := by
  obtain ⟨library, hunfolds, hfaultless, hroot, rfl⟩ := shader_eq_ok_iff.1 h
  refine ⟨library, hunfolds, hroot, fun name => ?_⟩
  rw [BuildOptions.macros_apply, MacroOp.lastOn?_append,
    (Manifest.layered_macros tree).shader_eq hfaultless, LibraryTree.lastOn?_layout]
  obtain ⟨here, manifest, libraries⟩ := library
  rw [LibraryTree.decision?_node]
  rfl

def layeredMacros : FileTree :=
  ⟨"/", [
    (["m.toml"], .file (.text (Text.ofLines
      ["libraries = ['l.toml']", "undefs = ['A']",
       "[[macros]]", "name = 'B'", "value = '1'", "location = 'front'",
       "[[macros]]", "name = 'B'", "location = 'front'",
       "[[macros]]", "name = 'C'"]))),
    (["l.toml"], .file (.text (Text.ofLines
      ["[[macros]]", "name = 'A'", "[[macros]]", "name = 'C'",
       "[[macros]]", "name = 'D'", "location = 'front'"])))]⟩

def definesACD : LibraryTree :=
  .node ["l.toml"]
    { macros := [⟨"A", .text "", .back⟩, ⟨"C", .text "", .back⟩, ⟨"D", .text "", .front⟩] } []

def removesA : LibraryTree :=
  .node ["m.toml"]
    { libraries := ["l.toml"]
      macros := [⟨"B", .text "1", .front⟩, ⟨"B", .text "", .front⟩, ⟨"C", .text "", .back⟩]
      undefines := ["A"] } [definesACD]

def takingCBack : Pipeline := ⟨"m.toml", {}, { macros := [.define "C" "2", .undefine "C"] }⟩

theorem layeredMacros_decided :
    ∃ shader, takingCBack.shader layeredMacros = .ok shader ∧
      MacroOp.lastOn? "A" shader.macros = some (.undefine "A") ∧
      MacroOp.lastOn? "B" shader.macros = some (.define "B" "1") ∧
      MacroOp.lastOn? "C" shader.macros = some (.undefine "C") ∧
      MacroOp.lastOn? "D" shader.macros = some (.define "D" "") := by
  have hinner : definesACD.Unfolds layeredMacros := .leaf (by decide +kernel) rfl
  have houter : removesA.Unfolds layeredMacros :=
    .node (by decide +kernel) (by decide +kernel) (by simpa using hinner)
  have hgood : definesACD.Faultless := LibraryTree.faultless_leaf (by decide)
  have hshader : takingCBack.shader layeredMacros = .ok _ :=
    shader_eq_ok_iff.2 ⟨removesA, houter,
      LibraryTree.faultless_node.2 ⟨by decide, by simpa using hgood⟩, by decide +kernel, rfl⟩
  obtain ⟨library, hunfolds, hroot, hdecided⟩ := shader_macro_decided hshader
  obtain rfl : library = removesA := hunfolds.unique houter
    (Except.ok.inj (hroot.symm.trans (by decide +kernel)))
  have hlibrary (name : String) : removesA.libraries.reverse.findSome? (·.decision? name)
      = ((definesACD.manifest.removal? name).or <| (definesACD.manifest.lastBack? name).or <|
        definesACD.manifest.firstFront? name) := by
    rw [show removesA.libraries.reverse = [definesACD] from rfl, List.findSome?_singleton,
      definesACD, LibraryTree.decision?_node]
    rfl
  refine ⟨_, hshader, ?_, ?_, ?_, ?_⟩ <;> rw [hdecided, hlibrary] <;> rfl

end Pipeline

end ShaderAssembly

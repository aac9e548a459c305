import Mathlib.Data.Fintype.Card
import Mathlib.Data.Set.Finite.Basic
import ShaderAssembly.Proofs.Library.Build
import ShaderAssembly.Proofs.Library.Cycle

/-!
# Which manifests can be built

A build asks nothing but this of the graph below a manifest: whatever can be reached is usable and
lies on no cycle. One direction reads the graph off the library tree of a build. The other makes the
tree by recursion along the edges, which ends because only finitely many manifests are reached and
none of them reaches itself. Nothing asks that the graph is a tree: a library may be reached in many
ways.
-/

namespace ShaderAssembly

open Relation (ReflTransGen TransGen)

namespace FileTree

/-- Whatever can be reached from a location is usable and lies on no cycle of the graph. -/
def AllUsable (tree : FileTree) (top : Location) : Prop :=
  ∀ here, ReflTransGen tree.LibraryEdge top here →
    (∃ manifest, tree.Usable here manifest) ∧ ¬ TransGen tree.LibraryEdge here here

variable {tree : FileTree} {top : Location}

theorem AllUsable.wellFounded (h : tree.AllUsable top) :
    WellFounded fun a b : {here // ReflTransGen tree.LibraryEdge top here} =>
      TransGen tree.LibraryEdge b.1 a.1 := by
  have hfinite : Finite {here // ReflTransGen tree.LibraryEdge top here} := by
    refine Set.Finite.subset tree.manifestLocations.finite_toSet fun here hreach => ?_
    obtain ⟨⟨manifest, husable⟩, -⟩ := h here hreach
    exact mem_manifestLocations.2 ⟨manifest, husable.read⟩
  have htrans : IsTrans {here // ReflTransGen tree.LibraryEdge top here}
      fun a b => TransGen tree.LibraryEdge b.1 a.1 := ⟨fun _ _ _ hab hbc => hbc.trans hab⟩
  have hirrefl : Std.Irrefl fun a b : {here // ReflTransGen tree.LibraryEdge top here} =>
      TransGen tree.LibraryEdge b.1 a.1 := ⟨fun a => (h a.1 a.2).2⟩
  exact Finite.wellFounded_of_trans_of_irrefl _

end FileTree

namespace LibraryTree

variable {tree : FileTree} {top : Location}

instance : Inhabited LibraryTree := ⟨.node [] {} []⟩

theorem exists_unfolds (h : tree.AllUsable top) :
    ∃ library : LibraryTree, library.Unfolds tree ∧ library.root = top := by
  suffices hall : ∀ here : {here // ReflTransGen tree.LibraryEdge top here},
      ∃ library : LibraryTree, library.Unfolds tree ∧ library.root = here.1 from
    hall ⟨top, .refl⟩
  intro here
  induction here using h.wellFounded.induction with
  | h here ih =>
      obtain ⟨here, hreach⟩ := here
      obtain ⟨⟨manifest, husable⟩, -⟩ := h here hreach
      have hlibrary : ∀ path ∈ manifest.libraries, ∃ library : LibraryTree,
          library.Unfolds tree ∧
            tree.canonicalize (FileTree.libraryPath here path) = .ok library.root := by
        intro path hpath
        obtain ⟨target, htarget⟩ := husable.libraries path hpath
        have hedge : tree.LibraryEdge here target := ⟨manifest, husable.read, path, hpath, htarget⟩
        obtain ⟨library, hunfolds, rfl⟩ := ih ⟨target, hreach.tail hedge⟩ (.single hedge)
        exact ⟨library, hunfolds, htarget⟩
      choose! libraryOf hunfolds hroot using hlibrary
      refine ⟨.node here manifest (manifest.libraries.map libraryOf), ?_, rfl⟩
      refine .node husable.read ?_ ?_
      · rw [List.map_map]
        exact List.map_congr_left hroot
      · intro library hmem
        obtain ⟨path, hpath, rfl⟩ := List.mem_map.1 hmem
        exact hunfolds path hpath

theorem Unfolds.faultless {library : LibraryTree} (hunfolds : library.Unfolds tree)
    (h : tree.AllUsable library.root) : library.Faultless := by
  intro node hnode
  have hreach := hunfolds.reflTransGen_of_mem (List.mem_map_of_mem hnode)
  obtain ⟨⟨manifest, husable⟩, -⟩ := h node.1 hreach
  obtain rfl : manifest = node.2 :=
    Option.some.inj (husable.read.symm.trans (hunfolds.read_of_mem hnode))
  exact husable.sources

theorem Unfolds.usable_root {library : LibraryTree} (hunfolds : library.Unfolds tree)
    (hfaultless : library.Faultless) : tree.Usable library.root library.manifest := by
  refine ⟨hunfolds.read, ?_, hfaultless _ library.root_mem_nodes⟩
  cases hunfolds with
  | @node here manifest libraries read roots below =>
      intro path hpath
      have hmem : tree.canonicalize (FileTree.libraryPath here path)
          ∈ libraries.map fun library => .ok library.root := by
        rw [← roots]
        exact List.mem_map_of_mem hpath
      obtain ⟨library, -, hroot⟩ := List.mem_map.1 hmem
      exact ⟨library.root, hroot.symm⟩

theorem Unfolds.allUsable {library : LibraryTree} (hunfolds : library.Unfolds tree)
    (hfaultless : library.Faultless) : tree.AllUsable library.root := by
  intro here hreach
  obtain ⟨inner, hinner, rfl, hnodes⟩ := hunfolds.exists_of_reflTransGen hreach
  refine ⟨⟨inner.manifest, hinner.usable_root ?_⟩, hinner.not_transGen_root⟩
  exact fun node hnode => hfaultless node (hnodes hnode)

end LibraryTree

namespace Manifest

/-- **What can be built.** A build succeeds exactly if its path leads to a location from which only
usable manifests are reached, none of them on a cycle. What is refused as a cycle is one: a library
that is merely reached in several ways never is. -/
theorem buildTracked_succeeds_iff_allUsable (tree : FileTree) (path : String) (general : General) :
    ((∃ built, buildTracked tree path general = .ok built) ↔
      ∃ top, tree.canonicalize path = .ok top ∧ tree.AllUsable top) ∧
    ∀ place chain again,
      buildTracked tree path general = .error (.invalidManifest place (.libraryCycle chain again)) →
      ∃ top, tree.canonicalize path = .ok top ∧
        ReflTransGen tree.LibraryEdge top again ∧ TransGen tree.LibraryEdge again again := by
  refine ⟨⟨?_, ?_⟩, ?_⟩
  · rintro ⟨⟨shader, dirs⟩, hbuilt⟩
    obtain ⟨library, hunfolds, hfaultless, hpath, -, -⟩ := buildTracked_eq_ok_iff.1 hbuilt
    exact ⟨library.root, hpath, hunfolds.allUsable hfaultless⟩
  · rintro ⟨top, hpath, husable⟩
    obtain ⟨library, hunfolds, rfl⟩ := LibraryTree.exists_unfolds husable
    exact ⟨(library.shader tree (some general), library.visit []), buildTracked_eq_ok_iff.2
      ⟨library, hunfolds, hunfolds.faultless husable, hpath, rfl, rfl⟩⟩
  · intro place chain again hcycle
    obtain ⟨top, hpath, hclosed⟩ := closedChain_of_buildBelow (linked_nil path) hcycle
    exact ⟨top, hpath, hclosed.transGen_start.to_reflTransGen, hclosed.transGen_again⟩

def listsItself : FileTree := ⟨"/", [(["m.toml"], .file (.text "libraries = ['m.toml']"))]⟩

theorem buildTracked_listsItself_refused :
    (∃ place chain again, buildTracked listsItself "m.toml" {}
      = .error (.invalidManifest place (.libraryCycle chain again))) ∧
    ∃ again, TransGen listsItself.LibraryEdge again again := by
  have hpath : listsItself.canonicalize "m.toml" = .ok ["m.toml"] := by decide +kernel
  have hload : load listsItself "m.toml" = .ok { libraries := ["m.toml"] } :=
    (load_eq_ok_iff hpath _).2 (by decide +kernel)
  have hagain : listsItself.canonicalize (Path.join (Location.path []) "m.toml")
      = .ok ["m.toml"] := by decide +kernel
  have hcycle : buildTracked listsItself "m.toml" {}
      = .error (.invalidManifest (Path.join (Location.path []) "m.toml")
        (.libraryCycle [["m.toml"]] ["m.toml"])) := by
    rw [buildTracked, buildBelow_of_load hpath List.not_mem_nil hload, mergeLibraries]
    rw [List.nil_append, show Location.parent ["m.toml"] = [] from rfl,
      buildBelow_of_mem_chain hagain (List.mem_singleton_self _)]
  obtain ⟨top, -, -, hcircle⟩ :=
    (buildTracked_succeeds_iff_allUsable listsItself "m.toml" {}).2 _ _ _ hcycle
  exact ⟨⟨_, _, _, hcycle⟩, _, hcircle⟩

end Manifest

end ShaderAssembly

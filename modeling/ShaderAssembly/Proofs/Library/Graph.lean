import Mathlib.Data.Finset.Dedup
import Mathlib.Data.Finset.Filter
import Mathlib.Logic.Relation
import ShaderAssembly.Manifest.Library
import ShaderAssembly.Proofs.Manifest.Sections

/-!
# The graph of libraries

A file tree makes a graph of its manifests: the nodes are locations, and an edge leads from a
manifest to where a path in its list of libraries leads. The graph knows nothing of how a shader is
built. It is finite, because a manifest is a file of the tree.
-/

namespace ShaderAssembly

namespace FileTree

/-- The manifest that stands at a location, if what stands there can be read as one. -/
def manifestAt? (tree : FileTree) (here : Location) : Option Manifest :=
  match tree.textAt here with
  | .ok text => Manifest.parse? text
  | .error _ => none

def libraryPath (here : Location) (library : String) : String :=
  Path.join here.parent.path library

/-- The manifest at `source` lists a library that leads to `target`. -/
def LibraryEdge (tree : FileTree) (source target : Location) : Prop :=
  ∃ manifest, tree.manifestAt? source = some manifest ∧
    ∃ library ∈ manifest.libraries, tree.canonicalize (libraryPath source library) = .ok target

/-- The manifest at a location is there, all its libraries lead somewhere, and each of its source
entries names exactly one thing. -/
structure Usable (tree : FileTree) (here : Location) (manifest : Manifest) : Prop where
  read : tree.manifestAt? here = some manifest
  libraries : ∀ library ∈ manifest.libraries,
    ∃ target, tree.canonicalize (libraryPath here library) = .ok target
  sources : ∀ entry ∈ manifest.sources, entry.namesOne

def manifestLocations (tree : FileTree) : Finset Location :=
  tree.locations.toFinset.filter fun here => (tree.manifestAt? here).isSome

variable {tree : FileTree} {here : Location} {manifest : Manifest}

theorem exists_file_of_manifestAt? (h : tree.manifestAt? here = some manifest) :
    ∃ content, tree.node? here = some (.file content) := by
  unfold manifestAt? textAt at h
  cases hnode : tree.node? here with
  | none => simp [hnode] at h
  | some node =>
      cases node with
      | directory => simp [hnode] at h
      | file content => exact ⟨content, rfl⟩

theorem mem_locations_of_manifestAt? (h : tree.manifestAt? here = some manifest) :
    here ∈ tree.locations := by
  obtain ⟨content, hnode⟩ := exists_file_of_manifestAt? h
  refine mem_locations_of_node? hnode ?_
  rintro rfl
  simp [node?] at hnode

theorem mem_manifestLocations :
    here ∈ tree.manifestLocations ↔ ∃ manifest, tree.manifestAt? here = some manifest := by
  rw [manifestLocations, Finset.mem_filter, List.mem_toFinset, Option.isSome_iff_exists]
  constructor
  · exact fun h => h.2
  · rintro ⟨manifest, h⟩
    exact ⟨mem_locations_of_manifestAt? h, manifest, h⟩

end FileTree

/-- Reading a manifest by a path is reading the one at the location where the path leads. -/
theorem Manifest.load_eq_ok_iff {tree : FileTree} {path : String} {here : Location}
    (hpath : tree.canonicalize path = .ok here) (manifest : Manifest) :
    Manifest.load tree path = .ok manifest ↔ tree.manifestAt? here = some manifest := by
  have hresolve := FileTree.resolve_of_canonicalize hpath
  have hread : tree.readText path = tree.textAt here := by
    rw [FileTree.readText, hresolve]
    rfl
  unfold load FileTree.manifestAt?
  rw [hread]
  cases tree.textAt here with
  | error e => simp [Except.mapError, bind, Except.bind]
  | ok text =>
      cases hparse : parse? text with
      | none => simp [Except.mapError, bind, Except.bind, hparse]
      | some read => simp [Except.mapError, bind, Except.bind, hparse]

end ShaderAssembly

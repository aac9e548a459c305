import ShaderAssembly.Proofs.Library.Build
import ShaderAssembly.Proofs.Library.Routes
import ShaderAssembly.Proofs.Lists.FirstOccurrences
import ShaderAssembly.Text.Lines

/-!
# The directories of a build

A build keeps the directory of every manifest that it meets, unless it has it already. It meets the
manifests in the order of a depth-first walk along the library paths, and it meets a shared library
again on each path that leads there. What it has in the end can be said without the walk: take the
library paths in lexicographic order, see where each one leads, and keep each directory at its first
occurrence.
-/

namespace ShaderAssembly

open Relation (ReflTransGen)

namespace LibraryTree

variable {tree : FileTree} {library : LibraryTree}

/-- The directories met are those of all manifests, at their first occurrences. -/
theorem visit_nil_eq_eraseDups (library : LibraryTree) :
    library.visit [] = (library.locations.map Location.parent).eraseDups := by
  rw [← foldl_add_new_eq_eraseDups, List.foldl_map]
  rfl

theorem head?_visit_nil (library : LibraryTree) :
    (library.visit []).head? = some library.root.parent := by
  obtain ⟨here, manifest, libraries⟩ := library
  rw [visit_nil_eq_eraseDups, head?_eraseDups, locations_node]
  rfl

theorem Unfolds.mem_visit_nil_iff (h : library.Unfolds tree) {dir : Location} :
    dir ∈ library.visit [] ↔
      ∃ here, ReflTransGen tree.LibraryEdge library.root here ∧ here.parent = dir := by
  simp only [mem_visit, List.not_mem_nil, false_or, h.mem_locations_iff]

theorem Unfolds.mem_map_fst_routes_iff (h : library.Unfolds tree) {route : List Nat} :
    route ∈ library.routes.map (·.1) ↔ ∃ here, tree.follow library.root route = some here := by
  simp only [← h.mem_routes_iff, List.mem_map]
  constructor
  · rintro ⟨⟨route, here⟩, hmem, rfl⟩
    exact ⟨here, hmem⟩
  · rintro ⟨here, hmem⟩
    exact ⟨(route, here), hmem, rfl⟩

/-- The locations of a tree are where the listed library paths lead. -/
theorem Unfolds.filterMap_follow_routes (h : library.Unfolds tree) :
    (library.routes.map (·.1)).filterMap (tree.follow library.root) = library.locations := by
  have hfollow : ∀ route ∈ library.routes, tree.follow library.root route.1 = some route.2 :=
    fun route hroute => h.mem_routes_iff.1 hroute
  rw [List.filterMap_map, ← map_snd_routes, ← List.filterMap_eq_map]
  exact List.filterMap_congr hfollow

end LibraryTree

namespace Manifest

variable {tree : FileTree} {path : String} {general : General} {shader : Shader}
  {dirs : List Location}

/-- **Which directories a build reports.** The library paths from the manifest on top, in the order
of a depth-first walk, lead to manifests, and the directories of these are reported, each where it
first occurs. So none is reported twice, the first one is that of the manifest on top, and the
others are those of all manifests that can be reached, however many paths lead there. -/
theorem buildTracked_reports_directories
    (h : buildTracked tree path general = .ok (shader, dirs)) :
    ∃ (top : Location) (routes : List (List Nat)), tree.canonicalize path = .ok top ∧
      (∀ route, route ∈ routes ↔ ∃ here, tree.follow top route = some here) ∧
      routes.Pairwise (· < ·) ∧
      dirs = ((routes.filterMap (tree.follow top)).map Location.parent).eraseDups ∧
      dirs.Nodup ∧ dirs.head? = some top.parent ∧
      ∀ dir, dir ∈ dirs ↔ ∃ here, ReflTransGen tree.LibraryEdge top here ∧ here.parent = dir := by
  obtain ⟨library, hunfolds, -, hpath, -, rfl⟩ := buildTracked_eq_ok_iff.1 h
  refine ⟨library.root, library.routes.map (·.1), hpath, fun route =>
    hunfolds.mem_map_fst_routes_iff, library.sorted_map_fst_routes, ?_, ?_,
    library.head?_visit_nil, fun dir => hunfolds.mem_visit_nil_iff⟩
  · rw [hunfolds.filterMap_follow_routes, library.visit_nil_eq_eraseDups]
  · rw [library.visit_nil_eq_eraseDups]
    exact nodup_eraseDups _

/-- Two libraries that build on a third one, of which the first lies beside the manifest on top. -/
def sharedLibrary : FileTree :=
  ⟨"/", [
    (["m.toml"], .file (.text "libraries = ['a.toml', 'b/b.toml']")),
    (["a.toml"], .file (.text "libraries = ['c/c.toml']")),
    (["b"], .directory),
    (["b", "b.toml"], .file (.text "libraries = ['../c/c.toml', '../c/d.toml']")),
    (["c"], .directory),
    (["c", "c.toml"], .file (.text "")),
    (["c", "d.toml"], .file (.text ""))]⟩

def leafC : LibraryTree := .node ["c", "c.toml"] {} []

def leafD : LibraryTree := .node ["c", "d.toml"] {} []

def listsC : LibraryTree := .node ["a.toml"] { libraries := ["c/c.toml"] } [leafC]

def listsCD : LibraryTree :=
  .node ["b", "b.toml"] { libraries := ["../c/c.toml", "../c/d.toml"] } [leafC, leafD]

def listsAB : LibraryTree :=
  .node ["m.toml"] { libraries := ["a.toml", "b/b.toml"] } [listsC, listsCD]

theorem buildTracked_sharedLibrary_reports :
    ∃ (shader : Shader) (routes : List (List Nat)),
      buildTracked sharedLibrary "m.toml" {} = .ok (shader, [[], ["c"], ["b"]]) ∧
      (∀ route, route ∈ routes ↔ ∃ here, sharedLibrary.follow ["m.toml"] route = some here) ∧
      routes.Pairwise (· < ·) ∧
      [[], ["c"], ["b"]]
        = ((routes.filterMap (sharedLibrary.follow ["m.toml"])).map Location.parent).eraseDups := by
  have hleafC : leafC.Unfolds sharedLibrary := .leaf (by decide +kernel) rfl
  have hleafD : leafD.Unfolds sharedLibrary := .leaf (by decide +kernel) rfl
  have hlistsC : listsC.Unfolds sharedLibrary :=
    .node (by decide +kernel) (by decide +kernel) (by simpa using hleafC)
  have hlistsCD : listsCD.Unfolds sharedLibrary :=
    .node (by decide +kernel) (by decide +kernel) (by simpa using ⟨hleafC, hleafD⟩)
  have hwhole : listsAB.Unfolds sharedLibrary :=
    .node (by decide +kernel) (by decide +kernel) (by simpa using ⟨hlistsC, hlistsCD⟩)
  have hgoodC : leafC.Faultless := LibraryTree.faultless_leaf (by decide)
  have hgoodD : leafD.Faultless := LibraryTree.faultless_leaf (by decide)
  have hgood : listsC.Faultless ∧ listsCD.Faultless :=
    ⟨LibraryTree.faultless_node.2 ⟨by decide, by simpa using hgoodC⟩,
      LibraryTree.faultless_node.2 ⟨by decide, by simpa using ⟨hgoodC, hgoodD⟩⟩⟩
  have hroot : sharedLibrary.canonicalize "m.toml" = .ok ["m.toml"] := by decide +kernel
  have hvisit : listsAB.visit [] = [[], ["c"], ["b"]] := by
    simp only [listsAB, listsC, listsCD, leafC, leafD, LibraryTree.visit_node, List.foldl_cons,
      List.foldl_nil]
    rfl
  have hbuilt : buildTracked sharedLibrary "m.toml" {} = .ok (_, [[], ["c"], ["b"]]) :=
    buildTracked_eq_ok_iff.2 ⟨listsAB, hwhole,
      LibraryTree.faultless_node.2 ⟨by decide, by simpa using hgood⟩, hroot, rfl, hvisit.symm⟩
  obtain ⟨top, routes, htop, hroutes, hsorted, hdirs, -⟩ := buildTracked_reports_directories hbuilt
  obtain rfl : ["m.toml"] = top := Except.ok.inj (hroot.symm.trans htop)
  exact ⟨_, routes, hbuilt, hroutes, hsorted, hdirs⟩

end Manifest

end ShaderAssembly

import Mathlib.Data.Set.Card
import ShaderAssembly.Proofs.Library.Tree

/-!
# Library paths

A library path goes down from a manifest: at each step it takes the library that stands at some
place of the list. Listing a library twice gives two paths to it, and so do two ways around a
diamond. A library tree has one node for each library path from its root, so the number of paths to
a manifest is how often its location occurs in the tree.
-/

namespace ShaderAssembly

namespace FileTree

/-- Where a library path leads from a manifest, given by a place in the list of libraries for each
step. -/
def follow (tree : FileTree) : Location → List Nat → Option Location
  | here, [] => some here
  | here, place :: route => do
    let manifest ← tree.manifestAt? here
    let library ← manifest.libraries[place]?
    let next ← (tree.canonicalize (libraryPath here library)).toOption
    tree.follow next route

def routes (tree : FileTree) (top here : Location) : Set (List Nat) :=
  {route | tree.follow top route = some here}

end FileTree

namespace LibraryTree

/-- The paths of several branches, after the place of the branch, from some place on. -/
def fork : Nat → List (List (List Nat × Location)) → List (List Nat × Location)
  | _, [] => []
  | place, routes :: rest =>
    routes.map (fun route => (place :: route.1, route.2)) ++ fork (place + 1) rest

/-- The library paths from the root, each with the location to which it leads. -/
def routes : LibraryTree → List (List Nat × Location) :=
  fold fun here _ below => ([], here) :: fork 0 below

theorem routes_node (here : Location) (manifest : Manifest) (libraries : List LibraryTree) :
    (node here manifest libraries).routes = ([], here) :: fork 0 (libraries.map routes) := by
  rw [routes, fold_node]

/-! ### The listed paths are those that can be followed -/

theorem mem_fork {first : Nat} {branches : List (List (List Nat × Location))} {route : List Nat}
    {here : Location} :
    (route, here) ∈ fork first branches ↔
      ∃ place rest, route = (first + place) :: rest ∧
        ∃ branch, branches[place]? = some branch ∧ (rest, here) ∈ branch := by
  induction branches generalizing first with
  | nil => simp [fork]
  | cons branch branches ih =>
      rw [fork, List.mem_append, ih, List.mem_map]
      constructor
      · rintro (⟨⟨rest, here'⟩, hmem, heq⟩ | ⟨place, rest, rfl, found, hfound, hmem⟩)
        · obtain ⟨rfl, rfl⟩ := Prod.mk.inj heq
          exact ⟨0, rest, rfl, branch, rfl, hmem⟩
        · exact ⟨place + 1, rest, by rw [Nat.add_assoc, Nat.add_comm 1], found, hfound, hmem⟩
      · rintro ⟨place, rest, rfl, found, hfound, hmem⟩
        cases place with
        | zero =>
            obtain rfl : branch = found := Option.some.inj hfound
            exact .inl ⟨(rest, here), hmem, rfl⟩
        | succ place =>
            refine .inr ⟨place, rest, by rw [Nat.add_assoc, Nat.add_comm 1], found, ?_, hmem⟩
            simpa using hfound

variable {tree : FileTree}

theorem Unfolds.exists_library_at_iff {here : Location} {manifest : Manifest}
    {libraries : List LibraryTree} (h : (LibraryTree.node here manifest libraries).Unfolds tree)
    (place : Nat) (next : Location) :
    (∃ library, manifest.libraries[place]? = some library ∧
        tree.canonicalize (FileTree.libraryPath here library) = .ok next)
      ↔ ∃ library, libraries[place]? = some library ∧ library.root = next := by
  cases h with
  | node _ roots _ =>
      have hplace := congrArg (fun targets => targets[place]?) roots
      simp only [List.getElem?_map] at hplace
      constructor
      · rintro ⟨path, hpath, htarget⟩
        rw [hpath, Option.map_some, htarget] at hplace
        obtain ⟨library, hlibrary, hroot⟩ := Option.map_eq_some_iff.1 hplace.symm
        exact ⟨library, hlibrary, Except.ok.inj hroot⟩
      · rintro ⟨library, hlibrary, rfl⟩
        rw [hlibrary, Option.map_some] at hplace
        exact Option.map_eq_some_iff.1 hplace

theorem follow_cons_eq_some_iff {here target : Location} {place : Nat} {route : List Nat} :
    tree.follow here (place :: route) = some target ↔
      ∃ manifest, tree.manifestAt? here = some manifest ∧ ∃ next,
        (∃ library, manifest.libraries[place]? = some library ∧
          tree.canonicalize (FileTree.libraryPath here library) = .ok next) ∧
        tree.follow next route = some target := by
  have htoOption (path : String) (next : Location) :
      (tree.canonicalize path).toOption = some next ↔ tree.canonicalize path = .ok next := by
    cases tree.canonicalize path <;> simp [Except.toOption]
  simp only [FileTree.follow, bind, Option.bind_eq_some_iff, htoOption]
  constructor
  · rintro ⟨manifest, hread, library, hlibrary, next, hnext, hfollow⟩
    exact ⟨manifest, hread, next, ⟨library, hlibrary, hnext⟩, hfollow⟩
  · rintro ⟨manifest, hread, next, ⟨library, hlibrary, hnext⟩, hfollow⟩
    exact ⟨manifest, hread, library, hlibrary, next, hnext, hfollow⟩

theorem Unfolds.mem_routes_iff {library : LibraryTree} (h : library.Unfolds tree)
    {route : List Nat} {target : Location} :
    (route, target) ∈ library.routes ↔ tree.follow library.root route = some target := by
  induction h generalizing route with
  | @node here manifest libraries read roots below ih =>
      have hwhole : (LibraryTree.node here manifest libraries).Unfolds tree :=
        .node read roots below
      rw [routes_node, List.mem_cons, mem_fork]
      cases route with
      | nil => simp [FileTree.follow, root, eq_comm]
      | cons place route =>
          rw [root, follow_cons_eq_some_iff, read]
          constructor
          · rintro (heq | ⟨place', route', heq, branch, hbranch, hmem⟩)
            · simp at heq
            · obtain ⟨rfl, rfl⟩ := List.cons.inj heq
              rw [Nat.zero_add] at *
              rw [List.getElem?_map, Option.map_eq_some_iff] at hbranch
              obtain ⟨library, hlibrary, rfl⟩ := hbranch
              have hfollow := (ih library (List.mem_of_getElem? hlibrary)).1 hmem
              exact ⟨manifest, rfl, library.root,
                (hwhole.exists_library_at_iff place' _).2 ⟨library, hlibrary, rfl⟩, hfollow⟩
          · rintro ⟨manifest', hmanifest, next, hnext, hfollow⟩
            obtain rfl := Option.some.inj hmanifest
            obtain ⟨library, hlibrary, rfl⟩ := (hwhole.exists_library_at_iff place next).1 hnext
            refine .inr ⟨place, route, by rw [Nat.zero_add], library.routes, ?_, ?_⟩
            · rw [List.getElem?_map, hlibrary, Option.map_some]
            · exact (ih library (List.mem_of_getElem? hlibrary)).2 hfollow

/-! ### Each path is listed once, in depth-first order -/

theorem map_snd_fork (first : Nat) (branches : List (List (List Nat × Location))) :
    (fork first branches).map (·.2) = branches.flatMap (·.map (·.2)) := by
  induction branches generalizing first with
  | nil => rfl
  | cons branch branches ih =>
      rw [fork, List.map_append, ih, List.map_map, List.flatMap_cons]
      rfl

theorem map_snd_routes (library : LibraryTree) : library.routes.map (·.2) = library.locations := by
  induction library with
  | node here manifest libraries ih =>
      rw [routes_node, locations_node, List.map_cons, map_snd_fork, List.flatMap_map]
      rw [List.flatMap_def, List.flatMap_def, List.map_congr_left ih]

theorem sorted_map_fst_fork (first : Nat) {branches : List (List (List Nat × Location))}
    (h : ∀ branch ∈ branches, (branch.map (·.1)).Pairwise (· < ·)) :
    ((fork first branches).map (·.1)).Pairwise (· < ·) := by
  induction branches generalizing first with
  | nil => exact List.Pairwise.nil
  | cons branch branches ih =>
      rw [List.forall_mem_cons] at h
      rw [fork, List.map_append, List.map_map, List.pairwise_append]
      refine ⟨?_, ih (first + 1) h.2, ?_⟩
      · have hbelow : (branch.map (·.1)).Pairwise fun a b => first :: a < first :: b :=
          h.1.imp fun hlt => List.cons_lt_cons_iff.2 (.inr ⟨rfl, hlt⟩)
        rw [List.pairwise_map] at hbelow
        exact List.pairwise_map.2 hbelow
      · intro route hleft other hright
        obtain ⟨⟨rest, here⟩, -, rfl⟩ := List.mem_map.1 hleft
        obtain ⟨⟨other, here'⟩, hmem, rfl⟩ := List.mem_map.1 hright
        obtain ⟨place, rest', rfl, -⟩ := mem_fork.1 hmem
        exact List.cons_lt_cons_iff.2 (.inl (by omega))

/-- The library paths are listed in lexicographic order, which is the order of a depth-first walk:
a path comes before all that go on from it, and these before all that branch off later. -/
theorem sorted_map_fst_routes (library : LibraryTree) :
    (library.routes.map (·.1)).Pairwise (· < ·) := by
  induction library with
  | node here manifest libraries ih =>
      rw [routes_node, List.map_cons, List.pairwise_cons]
      constructor
      · intro route hroute
        obtain ⟨⟨route, here'⟩, hmem, rfl⟩ := List.mem_map.1 hroute
        obtain ⟨place, rest, rfl, -⟩ := mem_fork.1 hmem
        exact List.nil_lt_cons _ _
      · refine sorted_map_fst_fork 0 fun branch hbranch => ?_
        obtain ⟨library, hlibrary, rfl⟩ := List.mem_map.1 hbranch
        exact ih library hlibrary

end LibraryTree

end ShaderAssembly

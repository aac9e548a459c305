import ShaderAssembly.Manifest.Apply
import ShaderAssembly.Manifest.Read

/-!
# Building a shader from a tree of manifests

A manifest builds on libraries, which are manifests of their own. Each library is built first, in
the order listed, and its body and extensions are merged into the shader before the manifest itself
is applied. A library that is listed twice is built twice; only a manifest that is already being
built, somewhere above, is refused.

The manifests being built form a chain of different files of the tree. So the number of files that
are not on the chain gets smaller with every step down, and the walk ends whatever the libraries
say.
-/

namespace ShaderAssembly

namespace FileTree

/-- The number of locations that are not on a chain. -/
def countOff (tree : FileTree) (chain : List Location) : Nat :=
  tree.locations.countP fun l => !chain.contains l

theorem countOff_append_lt {tree : FileTree} {chain : List Location} {here : Location}
    (hmem : here ∈ tree.locations) (hoff : here ∉ chain) :
    tree.countOff (chain ++ [here]) < tree.countOff chain := by
  unfold countOff
  generalize tree.locations = ls at hmem
  induction ls with
  | nil => simp at hmem
  | cons l ls ih =>
    have hle : ls.countP (fun l => !(chain ++ [here]).contains l) ≤
        ls.countP (fun l => !chain.contains l) :=
      List.countP_mono_left fun x _ hx => by simp_all
    by_cases hl : l = here
    · subst hl
      rw [List.countP_cons_of_neg (by simp), List.countP_cons_of_pos (by simpa using hoff)]
      omega
    · have := ih (by simpa [Ne.symm hl] using hmem)
      by_cases hc : l ∈ chain
      · rw [List.countP_cons_of_neg (by simp [hc]), List.countP_cons_of_neg (by simp [hc])]
        exact this
      · rw [List.countP_cons_of_pos (by simp [hc, hl]), List.countP_cons_of_pos (by simp [hc])]
        omega

/-- What a path leads to has a canonical form, which is where it leads. -/
theorem resolve_of_canonicalize {tree : FileTree} {path : String} {here : Location}
    (h : tree.canonicalize path = .ok here) : tree.resolve path = .ok here := by
  unfold canonicalize at h
  cases hr : tree.resolve path with
  | error e => simp [hr, bind, Except.bind] at h
  | ok l =>
    simp only [hr, bind, Except.bind] at h
    split at h
    · cases h
    · exact h

/-- A path to a readable file leads to a location of the tree. -/
theorem mem_locations_of_readText {tree : FileTree} {path text : String} {here : Location}
    (hr : tree.resolve path = .ok here) (ht : tree.readText path = .ok text) :
    here ∈ tree.locations := by
  simp only [readText, hr, bind, Except.bind, textAt] at ht
  cases hn : tree.node? here with
  | none => simp [hn] at ht
  | some node =>
    refine mem_locations_of_node? hn fun h0 => ?_
    simp only [node?, h0, if_true, Option.some.injEq] at hn
    subst hn
    simp [node?, h0] at ht

end FileTree

namespace Manifest

theorem readText_of_load {tree : FileTree} {path : String} {manifest : Manifest}
    (h : load tree path = .ok manifest) : ∃ text, tree.readText path = .ok text := by
  unfold load at h
  cases ht : tree.readText path with
  | error e =>
    rw [ht] at h
    cases h
  | ok text => exact ⟨text, rfl⟩

/-- The directories with one more, unless it is among them. -/
def withDirectory (dirs : List Location) (dir : Location) : List Location :=
  if dir ∈ dirs then dirs else dirs ++ [dir]

mutual

/-- Builds the manifest at a path, below a chain of manifests that are being built. Beside the
shader it gives the directories of all manifests met so far. -/
def buildBelow (tree : FileTree) (chain : List Location) (dirs : List Location)
    (defaults : Option General) (path : String) : Except SetupError (Shader × List Location) :=
  match _hc : tree.canonicalize path with
  | .error e => .error (.unreadable path e)
  | .ok here =>
    if _hoff : here ∈ chain then .error (.invalidManifest path (.libraryCycle chain here))
    else match _hl : load tree path with
      | .error e => .error e
      | .ok manifest =>
        match mergeLibraries tree (chain ++ [here]) here.parent manifest.libraries
            (withDirectory dirs here.parent) .empty with
        | .error e => .error e
        | .ok (shader, dirs) =>
          match manifest.apply tree here.parent.path defaults shader with
          | (_, some fault) => .error (.invalidManifest path fault)
          | (shader, none) => .ok (shader, dirs)
termination_by (tree.countOff chain, 0)
decreasing_by
  obtain ⟨text, ht⟩ := readText_of_load _hl
  exact Prod.Lex.left _ _ (FileTree.countOff_append_lt
    (FileTree.mem_locations_of_readText (FileTree.resolve_of_canonicalize _hc) ht) _hoff)

/-- Builds libraries one after another and merges each into a shader. -/
def mergeLibraries (tree : FileTree) (chain : List Location) (dir : Location)
    (libraries : List String) (dirs : List Location) (shader : Shader) :
    Except SetupError (Shader × List Location) :=
  match libraries with
  | [] => .ok (shader, dirs)
  | library :: rest =>
    match buildBelow tree chain dirs none (Path.join dir.path library) with
    | .error e => .error e
    | .ok (built, dirs) =>
      mergeLibraries tree chain dir rest dirs ((shader.appendBody built).setExtensionsOf built)
termination_by (tree.countOff chain, libraries.length + 1)

end

/-- Builds the shader of a manifest. Beside it stand the directories of the manifest and of all
libraries it needs, in the order in which they are met. -/
def buildTracked (tree : FileTree) (path : String) (general : General) :
    Except SetupError (Shader × List Location) :=
  buildBelow tree [] [] (some general) path

def build (tree : FileTree) (path : String) (general : General) : Except SetupError Shader :=
  (buildTracked tree path general).map (·.1)

end Manifest

end ShaderAssembly

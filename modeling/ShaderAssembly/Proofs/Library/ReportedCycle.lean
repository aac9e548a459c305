import ShaderAssembly.Proofs.Library.Cycle
import ShaderAssembly.Proofs.Library.Walk

/-!
# What the report of a cycle shows

A cycle is reported from what stands on the stack at that moment, after any number of libraries have
come and gone. Two things make the report true. Every frame is there for a manifest of the tree, and
the next path that is asked for is one that the innermost of these manifests lists; each step of the
walk keeps this. And a nested build that succeeds leaves the stack as it was, so nothing stays
behind of a finished library. It could not be on the reported chain anyway: from there the cycle is
reached, and what reaches a cycle is never built.
-/

namespace ShaderAssembly

/-- The frame is there for a manifest of the tree, and its pending libraries are among those that
this manifest lists. -/
structure Frame.Lists (tree : FileTree) (frame : Frame) : Prop where
  read : tree.manifestAt? frame.here = some frame.manifest
  pending : frame.pending ⊆ frame.manifest.libraries

namespace Walk

variable {tree : FileTree} {frames : List Frame}

/-- The innermost manifest, if there is one, lists the path. -/
def AskedBy (frames : List Frame) (path : String) : Prop :=
  ∀ frame ∈ frames.head?, ∃ library ∈ frame.manifest.libraries,
    path = FileTree.libraryPath frame.here library

/-- If the error reports a cycle, it reports the stack, and a path that leads back to it. -/
def Reports (tree : FileTree) (frames : List Frame) : SetupError → Prop
  | .invalidManifest place (.libraryCycle chain again) =>
    chain = chainOf frames ∧ again ∈ chain ∧ AskedBy frames place ∧
      tree.canonicalize place = .ok again
  | _ => True

/-- All frames are there for manifests of the tree, and what is asked for or reported is in accord
with them. -/
def Grounded (tree : FileTree) : Walk → Prop
  | enter frames _ _ path => (∀ other ∈ frames, other.Lists tree) ∧ AskedBy frames path
  | resume frame frames _ => frame.Lists tree ∧ ∀ other ∈ frames, other.Lists tree
  | leave frames _ _ => ∀ other ∈ frames, other.Lists tree
  | failed frames e => (∀ other ∈ frames, other.Lists tree) ∧ Reports tree frames e

/-! ### One step -/

theorem reports_of_load {path : String} {e : SetupError} (h : Manifest.load tree path = .error e) :
    Reports tree frames e := by
  cases e with
  | invalidManifest place fault => exact absurd h Manifest.load_ne_invalidManifest
  | _ => exact trivial

theorem reports_of_apply {manifest : Manifest} {dir path : String} {defaults : Option General}
    {shader applied : Shader} {fault : ManifestFault}
    (h : manifest.apply tree dir defaults shader = (applied, some fault)) :
    Reports tree frames (.invalidManifest path fault) := by
  rcases Manifest.fault_of_apply (congrArg Prod.snd h) with rfl | rfl <;> exact trivial

theorem grounded_start (path : String) (general : General) :
    (start path general).Grounded tree :=
  ⟨fun _ hmem => absurd hmem List.not_mem_nil, fun _ hmem => absurd hmem (by simp)⟩

theorem Grounded.step {walk next : Walk} (h : walk.Grounded tree)
    (hstep : walk.step tree = some next) : next.Grounded tree := by
  cases walk with
  | enter frames dirs defaults path =>
      obtain ⟨hlists, hasked⟩ := h
      cases hpath : tree.canonicalize path with
      | error e =>
          obtain rfl : _ = next := by simpa only [Walk.step, hpath, Option.some.injEq] using hstep
          exact ⟨hlists, trivial⟩
      | ok here =>
          by_cases hmem : here ∈ chainOf frames
          · rw [step_enter_of_mem hpath hmem] at hstep
            obtain rfl := Option.some.inj hstep
            exact ⟨hlists, rfl, hmem, hasked, hpath⟩
          · cases hload : Manifest.load tree path with
            | error e =>
                rw [step_enter_of_error hpath hmem hload] at hstep
                obtain rfl := Option.some.inj hstep
                exact ⟨hlists, reports_of_load hload⟩
            | ok manifest =>
                rw [step_enter hpath hmem hload] at hstep
                obtain rfl := Option.some.inj hstep
                have hread := (Manifest.load_eq_ok_iff hpath manifest).1 hload
                exact ⟨⟨hread, List.Subset.refl manifest.libraries⟩, hlists⟩
  | resume frame frames dirs =>
      obtain ⟨hframe, hlists⟩ := h
      cases hpending : frame.pending with
      | cons library rest =>
          obtain rfl : _ = next := by
            simpa only [Walk.step, hpending, Option.some.injEq] using hstep
          obtain ⟨hlibrary, hrest⟩ := List.cons_subset.1 (hpending ▸ hframe.pending)
          refine ⟨List.forall_mem_cons.2 ⟨⟨hframe.read, hrest⟩, hlists⟩, fun first hfirst => ?_⟩
          obtain rfl := Option.some.inj hfirst
          exact ⟨library, hlibrary, rfl⟩
      | nil =>
          simp only [Walk.step, hpending] at hstep
          split at hstep
          · rename_i happly
            obtain rfl := Option.some.inj hstep
            exact ⟨List.forall_mem_cons.2 ⟨hframe, hlists⟩, reports_of_apply happly⟩
          · obtain rfl := Option.some.inj hstep
            exact hlists
  | leave frames dirs shader =>
      cases frames with
      | nil => simp [Walk.step] at hstep
      | cons frame frames =>
          obtain rfl := Option.some.inj hstep
          obtain ⟨hframe, hlists⟩ := List.forall_mem_cons.1 h
          exact ⟨⟨hframe.read, hframe.pending⟩, hlists⟩
  | failed => simp [Walk.step] at hstep

theorem grounded_after (path : String) (general : General) (steps : Nat) :
    (after tree path general steps).Grounded tree :=
  holds_after (grounded_start path general) (fun _ _ => Grounded.step) steps

/-! ### Nested builds -/

/-- A nested build that succeeds hands back the stack that it was given. -/
theorem enter_reaches_leave {dirs dirs' : List Location} {defaults : Option General}
    {path : String} {built : Shader}
    (h : Manifest.buildBelow tree (chainOf frames) dirs defaults path = .ok (built, dirs')) :
    Reaches tree (.enter frames dirs defaults path) (.leave frames dirs' built) := by
  obtain ⟨last, hreaches, hlast⟩ := buildBelow_reaches frames dirs defaults path
  rw [h] at hlast
  exact hlast ▸ hreaches

/-- A build that fails stops with its error. -/
theorem exists_after_eq_failed {path : String} {general : General} {e : SetupError}
    (h : Manifest.buildTracked tree path general = .error e) :
    ∃ steps frames, after tree path general steps = .failed frames e := by
  obtain ⟨last, ⟨steps, hsteps⟩, hlast⟩ := start_reaches_outcome path general
  rw [h] at hlast
  refine ⟨steps, ?_⟩
  rw [after, hsteps]
  cases last with
  | enter | resume => simp [outcome?] at hlast
  | leave frames => cases frames <;> simp [outcome?] at hlast
  | failed frames found => exact ⟨frames, by simpa [outcome?] using hlast⟩

theorem exists_of_chainOf_ne_nil (h : chainOf frames ≠ []) :
    ∃ frame below, frames = frame :: below ∧ (chainOf frames).getLast? = some frame.here := by
  cases frames with
  | nil => exact absurd rfl h
  | cons frame below =>
      refine ⟨frame, below, rfl, ?_⟩
      rw [chainOf_cons, List.getLast?_concat]

end Walk

namespace Manifest

variable {tree : FileTree}

/-- What an error shows that reports a cycle. The path of the error is that of the library with
which the cycle closes, as it is seen from the manifest that lists it. -/
structure ShowsCycle (tree : FileTree) (top : Location) (chain : List Location) (again : Location)
    (place : String) : Prop where
  from_top : chain.head? = some top
  linked : (chain ++ [again]).IsChain tree.LibraryEdge
  nodup : chain.Nodup
  again_mem : again ∈ chain
  listed : ∃ last manifest library, chain.getLast? = some last ∧
    tree.manifestAt? last = some manifest ∧ library ∈ manifest.libraries ∧
    place = FileTree.libraryPath last library ∧ tree.canonicalize place = .ok again

/-- What is on the chain of a reported cycle is never built, below whatever other manifests. -/
theorem ClosedChain.not_built {start chain : List Location} {again here : Location}
    (h : ClosedChain tree start chain again) (hmem : here ∈ chain) {path : String}
    (hpath : tree.canonicalize path = .ok here) (above dirs : List Location)
    (defaults : Option General) (built : Shader × List Location) :
    buildBelow tree above dirs defaults path ≠ .ok built := by
  intro hbuilt
  obtain ⟨library, hunfolds, -, hroot, -, -⟩ := describedBuild_of_buildBelow hbuilt
  obtain rfl : here = library.root := Except.ok.inj (hpath.symm.trans hroot)
  obtain ⟨inner, hinner, rfl, -, -⟩ :=
    hunfolds.exists_of_transGen (transGen_of_isChain_append h.linked hmem)
  exact hinner.not_transGen_root h.transGen_again

/-- **A reported cycle is real.** When a build fails with a cycle, the error shows a path of the
graph from the manifest at the top that comes back to itself, and the message is this path. It is
what stands on the stack when the build fails. A nested build that succeeds takes from the stack
whatever it has put there, and its manifest is not on the reported path. -/
theorem reported_cycle_closes_path {path place : String} {general : General}
    {chain : List Location} {again : Location}
    (h : buildTracked tree path general
      = .error (.invalidManifest place (.libraryCycle chain again))) :
    (∃ top, tree.canonicalize path = .ok top ∧ ShowsCycle tree top chain again place) ∧
    (ManifestFault.libraryCycle chain again).message
      = "library cycle: "
        ++ String.intercalate " -> " (chain.map Location.path ++ [again.path]) ∧
    (∃ steps frames, Walk.after tree path general steps
        = .failed frames (.invalidManifest place (.libraryCycle chain again)) ∧
      Walk.chainOf frames = chain) ∧
    ∀ start frames dirs defaults nested,
      Walk.after tree path general start = .enter frames dirs defaults nested →
      ∀ built dirs',
        buildBelow tree (Walk.chainOf frames) dirs defaults nested = .ok (built, dirs') →
        (∃ more, Walk.after tree path general (start + more) = .leave frames dirs' built) ∧
        ∃ here ∉ chain, tree.canonicalize nested = .ok here := by
  obtain ⟨top, hpath, hclosed⟩ := closedChain_of_buildBelow (linked_nil path) h
  obtain ⟨steps, frames, hfailed⟩ := Walk.exists_after_eq_failed h
  have hgrounded : Walk.Grounded tree _ := Walk.grounded_after path general steps
  have hsound : Walk.Sound tree _ := Walk.sound_after path general steps
  rw [hfailed] at hgrounded hsound
  obtain ⟨hlists, rfl, hmem, hasked, hplace⟩ := hgrounded
  refine ⟨⟨top, hpath, hclosed.head?_eq, hclosed.linked, hsound.nodup, hmem, ?_⟩, ?_,
    ⟨steps, frames, hfailed, rfl⟩, ?_⟩
  · obtain ⟨frame, below, rfl, hlast⟩ :=
      Walk.exists_of_chainOf_ne_nil (List.ne_nil_of_mem hmem)
    obtain ⟨library, hlibrary, rfl⟩ := hasked frame rfl
    exact ⟨frame.here, frame.manifest, library, hlast, (hlists frame List.mem_cons_self).read,
      hlibrary, rfl, hplace⟩
  · rw [ManifestFault.message, List.map_append, List.map_singleton]
  · intro start frames dirs defaults nested hstart built dirs' hbuilt
    constructor
    · obtain ⟨more, hmore⟩ := Walk.enter_reaches_leave hbuilt
      exact ⟨more, by rw [Walk.after_add, hstart, hmore]⟩
    · obtain ⟨library, -, -, hroot, -, -⟩ := describedBuild_of_buildBelow hbuilt
      exact ⟨library.root, fun hon => hclosed.not_built hon hroot _ _ _ _ hbuilt, hroot⟩

/-- The first library is finished when the second one turns out to list itself. -/
def listsFinishedAndCyclic : FileTree :=
  ⟨"/", [(["m.toml"], .file (.text "libraries = ['a.toml', 'b.toml']")),
    (["a.toml"], .file (.text "")), (["b.toml"], .file (.text "libraries = ['b.toml']"))]⟩

theorem buildTracked_listsFinishedAndCyclic_refused :
    buildTracked listsFinishedAndCyclic "m.toml" {} = .error (.invalidManifest "/b.toml"
      (.libraryCycle [["m.toml"], ["b.toml"]] ["b.toml"])) ∧
    ShowsCycle listsFinishedAndCyclic ["m.toml"] [["m.toml"], ["b.toml"]] ["b.toml"] "/b.toml" := by
  have hm : listsFinishedAndCyclic.canonicalize "m.toml" = .ok ["m.toml"] := by decide +kernel
  have ha : listsFinishedAndCyclic.canonicalize "/a.toml" = .ok ["a.toml"] := by decide +kernel
  have hb : listsFinishedAndCyclic.canonicalize "/b.toml" = .ok ["b.toml"] := by decide +kernel
  have hloadM : load listsFinishedAndCyclic "m.toml" = .ok { libraries := ["a.toml", "b.toml"] } :=
    (load_eq_ok_iff hm _).2 (by decide +kernel)
  have hloadA : load listsFinishedAndCyclic "/a.toml" = .ok {} :=
    (load_eq_ok_iff ha _).2 (by decide +kernel)
  have hloadB : load listsFinishedAndCyclic "/b.toml" = .ok { libraries := ["b.toml"] } :=
    (load_eq_ok_iff hb _).2 (by decide +kernel)
  have hfirst : Path.join (Location.path []) "a.toml" = "/a.toml" := by decide +kernel
  have hsecond : Path.join (Location.path []) "b.toml" = "/b.toml" := by decide +kernel
  have hfinished : buildBelow listsFinishedAndCyclic [["m.toml"]] [[]] none "/a.toml"
      = .ok (.empty, [[]]) := by
    rw [buildBelow_of_load ha (by decide) hloadA, mergeLibraries]
    rfl
  have hcycle : buildTracked listsFinishedAndCyclic "m.toml" {} = .error (.invalidManifest "/b.toml"
      (.libraryCycle [["m.toml"], ["b.toml"]] ["b.toml"])) := by
    rw [buildTracked, buildBelow_of_load hm List.not_mem_nil hloadM, List.nil_append,
      show Location.parent ["m.toml"] = [] from rfl, show withDirectory [] [] = [[]] from rfl,
      mergeLibraries, hfirst, hfinished]
    dsimp only
    rw [mergeLibraries, hsecond, buildBelow_of_load hb (by decide) hloadB, mergeLibraries,
      show Location.parent ["b.toml"] = [] from rfl, hsecond,
      buildBelow_of_mem_chain hb (by decide)]
    rfl
  obtain ⟨⟨top, htop, hshows⟩, -⟩ := reported_cycle_closes_path hcycle
  obtain rfl : ["m.toml"] = top := Except.ok.inj (hm.symm.trans htop)
  exact ⟨hcycle, hshows⟩

end Manifest

end ShaderAssembly

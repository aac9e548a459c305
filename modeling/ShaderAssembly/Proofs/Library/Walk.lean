import Mathlib.Data.Finset.Card
import Mathlib.Logic.Function.Iterate
import ShaderAssembly.Proofs.Library.Build

/-!
# The walk, moment by moment

A build is a recursion, and what it holds while it goes on cannot be seen from what it gives. Here
it is taken apart into moments: a manifest is entered, goes on with its libraries one by one, and is
left when it is built. The manifests in progress stand on a stack of frames, so every moment shows
the chain and how deep the recursion is. The two sides are tied by `buildBelow_reaches`: from every
moment at which a manifest is entered, the walk comes to the moment that hands back what the
recursion gives for it.

What bounds the walk is the chain. Its manifests are files of the tree and all different, since a
manifest is looked up on the chain, by its canonical location, before it is read and put there.
-/

namespace ShaderAssembly

/-- A manifest whose libraries are being merged. -/
structure Frame where
  /-- The path by which the manifest was asked for. -/
  path : String
  here : Location
  manifest : Manifest
  defaults : Option General
  /-- The libraries that are still to be built. -/
  pending : List String
  shader : Shader

def Frame.opened (path : String) (here : Location) (manifest : Manifest)
    (defaults : Option General) : Frame :=
  ⟨path, here, manifest, defaults, manifest.libraries, .empty⟩

def Frame.merged (frame : Frame) (shader : Shader) : Frame :=
  { frame with pending := [], shader := shader }

/-- A moment of a build. The frames are those of the manifests in progress, the innermost first. -/
inductive Walk where
  | enter (frames : List Frame) (dirs : List Location) (defaults : Option General) (path : String)
  /-- The innermost manifest goes on with its libraries, or is applied if there are no more. -/
  | resume (frame : Frame) (frames : List Frame) (dirs : List Location)
  /-- A manifest is built and its frame is gone. -/
  | leave (frames : List Frame) (dirs : List Location) (shader : Shader)
  | failed (frames : List Frame) (error : SetupError)

namespace Walk

def chainOf (frames : List Frame) : List Location := (frames.map Frame.here).reverse

def step (tree : FileTree) : Walk → Option Walk
  | enter frames dirs defaults path =>
    match tree.canonicalize path with
    | .error e => some (.failed frames (.unreadable path e))
    | .ok here =>
      if (chainOf frames).contains here then
        some (.failed frames (.invalidManifest path (.libraryCycle (chainOf frames) here)))
      else match Manifest.load tree path with
        | .error e => some (.failed frames e)
        | .ok manifest =>
          some (.resume (.opened path here manifest defaults) frames
            (Manifest.withDirectory dirs here.parent))
  | resume frame frames dirs =>
    match frame.pending with
    | library :: rest =>
      some (.enter ({ frame with pending := rest } :: frames) dirs none
        (FileTree.libraryPath frame.here library))
    | [] =>
      match frame.manifest.apply tree frame.here.parent.path frame.defaults frame.shader with
      | (_, some fault) => some (.failed (frame :: frames) (.invalidManifest frame.path fault))
      | (shader, none) => some (.leave frames dirs shader)
  | leave (frame :: frames) dirs built =>
    some (.resume { frame with shader := frame.shader.merge built } frames dirs)
  | leave [] _ _ => none
  | failed _ _ => none

/-- The next moment; a build that is over stays as it is. -/
def advance (tree : FileTree) (walk : Walk) : Walk := (walk.step tree).getD walk

def start (path : String) (general : General) : Walk := .enter [] [] (some general) path

def after (tree : FileTree) (path : String) (general : General) (steps : Nat) : Walk :=
  (advance tree)^[steps] (start path general)

def outcome? : Walk → Option (Except SetupError (Shader × List Location))
  | leave [] dirs shader => some (.ok (shader, dirs))
  | failed _ e => some (.error e)
  | _ => none

def chain : Walk → List Location
  | enter frames _ _ _ => chainOf frames
  | resume frame frames _ => chainOf (frame :: frames)
  | leave frames _ _ => chainOf frames
  | failed frames _ => chainOf frames

/-- How many manifests have been asked for and not yet been left. -/
def depth : Walk → Nat
  | enter frames _ _ _ => frames.length + 1
  | resume _ frames _ => frames.length + 1
  | leave frames _ _ => frames.length
  | failed frames _ => frames.length

variable {tree : FileTree}

/-! ### From one moment to a later one -/

def Reaches (tree : FileTree) (first last : Walk) : Prop := ∃ n, (advance tree)^[n] first = last

theorem Reaches.refl (walk : Walk) : Reaches tree walk walk := ⟨0, rfl⟩

theorem Reaches.trans {first middle last : Walk} (h : Reaches tree first middle)
    (h' : Reaches tree middle last) : Reaches tree first last := by
  obtain ⟨n, rfl⟩ := h
  obtain ⟨m, rfl⟩ := h'
  exact ⟨m + n, Function.iterate_add_apply ..⟩

theorem Reaches.of_step {first next last : Walk} (hstep : first.step tree = some next)
    (h : Reaches tree next last) : Reaches tree first last := by
  refine .trans ⟨1, ?_⟩ h
  rw [Function.iterate_one, advance, hstep, Option.getD_some]

theorem chainOf_cons (frame : Frame) (frames : List Frame) :
    chainOf (frame :: frames) = chainOf frames ++ [frame.here] := by
  rw [chainOf, List.map_cons, List.reverse_cons, chainOf]

section Enter

variable {frames : List Frame} {dirs : List Location} {defaults : Option General} {path : String}
  {here : Location}

theorem step_enter_of_mem (hpath : tree.canonicalize path = .ok here)
    (hmem : here ∈ chainOf frames) :
    (enter frames dirs defaults path).step tree
      = some (.failed frames (.invalidManifest path (.libraryCycle (chainOf frames) here))) := by
  simp only [step, hpath, if_pos (List.contains_iff_mem.2 hmem)]

theorem step_enter_of_error {e : SetupError} (hpath : tree.canonicalize path = .ok here)
    (hoff : here ∉ chainOf frames) (hload : Manifest.load tree path = .error e) :
    (enter frames dirs defaults path).step tree = some (.failed frames e) := by
  simp only [step, hpath, if_neg (mt List.contains_iff_mem.1 hoff), hload]

theorem step_enter {manifest : Manifest} (hpath : tree.canonicalize path = .ok here)
    (hoff : here ∉ chainOf frames) (hload : Manifest.load tree path = .ok manifest) :
    (enter frames dirs defaults path).step tree
      = some (.resume (.opened path here manifest defaults) frames
          (Manifest.withDirectory dirs here.parent)) := by
  simp only [step, hpath, if_neg (mt List.contains_iff_mem.1 hoff), hload]

end Enter

/-! ### The walk follows the recursion -/

/-- The moment that hands a result back to the manifests in progress. -/
def HandsBack (frames : List Frame) (result : Except SetupError (Shader × List Location))
    (walk : Walk) : Prop :=
  match result with
  | .ok (shader, dirs) => walk = .leave frames dirs shader
  | .error e => ∃ left, walk = .failed left e

/-- The moment at which all libraries of a frame are merged, or one of them has failed. -/
def HasMerged (frame : Frame) (frames : List Frame)
    (result : Except SetupError (Shader × List Location)) (walk : Walk) : Prop :=
  match result with
  | .ok (shader, dirs) => walk = .resume (frame.merged shader) frames dirs
  | .error e => ∃ left, walk = .failed left e

theorem buildBelow_reaches (frames : List Frame) (dirs : List Location) (defaults : Option General)
    (path : String) :
    ∃ last, Reaches tree (.enter frames dirs defaults path) last ∧
      HandsBack frames (Manifest.buildBelow tree (chainOf frames) dirs defaults path) last := by
  refine Manifest.buildBelow.induct_unfolding tree
    (fun chain dirs defaults path result => ∀ frames, chainOf frames = chain →
      ∃ last, Reaches tree (.enter frames dirs defaults path) last ∧ HandsBack frames result last)
    (fun chain dir paths dirs shader result => ∀ frame frames, chainOf (frame :: frames) = chain →
      frame.here.parent = dir → frame.pending = paths → frame.shader = shader →
      ∃ last, Reaches tree (.resume frame frames dirs) last ∧ HasMerged frame frames result last)
    ?unreadable ?cycle ?malformed ?badLibrary ?fault ?built ?noLibrary ?badFirst ?first
    (chainOf frames) dirs defaults path frames rfl
  case unreadable =>
    intro _ dirs defaults path e hpath frames _
    refine ⟨.failed frames (.unreadable path e), .of_step ?_ (.refl _), frames, rfl⟩
    simp only [step, hpath]
  case cycle =>
    rintro _ dirs defaults path here hpath hmem frames rfl
    exact ⟨.failed frames (.invalidManifest path (.libraryCycle (chainOf frames) here)),
      .of_step (step_enter_of_mem hpath hmem) (.refl _), frames, rfl⟩
  case malformed =>
    rintro _ dirs defaults path here hpath hoff e hload frames rfl
    exact ⟨.failed frames e, .of_step (step_enter_of_error hpath hoff hload) (.refl _), frames, rfl⟩
  case badLibrary =>
    rintro _ dirs defaults path here hpath hoff manifest hload e hmerge ih frames rfl
    obtain ⟨last, hreaches, hlast⟩ := ih (.opened path here manifest defaults) frames
      (chainOf_cons _ _) rfl rfl rfl
    rw [hmerge] at hlast
    exact ⟨last, .of_step (step_enter hpath hoff hload) hreaches, hlast⟩
  case fault =>
    rintro _ dirs defaults path here hpath hoff manifest hload shader dirs' hmerge _ fault happly ih
      frames rfl
    obtain ⟨last, hreaches, hlast⟩ := ih (.opened path here manifest defaults) frames
      (chainOf_cons _ _) rfl rfl rfl
    rw [hmerge] at hlast
    subst hlast
    have hlast : (resume ((Frame.opened path here manifest defaults).merged shader) frames
        dirs').step tree
          = some (.failed ((Frame.opened path here manifest defaults).merged shader :: frames)
            (.invalidManifest path fault)) := by
      simp only [step, Frame.opened, Frame.merged, happly]
    exact ⟨_, .of_step (step_enter hpath hoff hload) (hreaches.trans (.of_step hlast (.refl _))),
      _, rfl⟩
  case built =>
    rintro _ dirs defaults path here hpath hoff manifest hload shader dirs' hmerge shader' happly ih
      frames rfl
    obtain ⟨last, hreaches, hlast⟩ := ih (.opened path here manifest defaults) frames
      (chainOf_cons _ _) rfl rfl rfl
    rw [hmerge] at hlast
    subst hlast
    have hlast : (resume ((Frame.opened path here manifest defaults).merged shader) frames
        dirs').step tree = some (.leave frames dirs' shader') := by
      simp only [step, Frame.opened, Frame.merged, happly]
    exact ⟨_, .of_step (step_enter hpath hoff hload) (hreaches.trans (.of_step hlast (.refl _))),
      rfl⟩
  case noLibrary =>
    rintro _ dir dirs shader frame frames - - hpending rfl
    refine ⟨.resume frame frames dirs, .refl _, ?_⟩
    rw [HasMerged, Frame.merged, ← hpending]
  case badFirst =>
    rintro _ dir dirs shader library rest e hbuild ih frame frames rfl rfl hpending rfl
    obtain ⟨last, hreaches, hlast⟩ := ih ({ frame with pending := rest } :: frames) rfl
    rw [hbuild] at hlast
    refine ⟨last, .of_step ?_ hreaches, hlast⟩
    simp only [step, hpending]
    rfl
  case first =>
    rintro _ dir dirs shader library rest built dirs' hbuild ihFirst ihRest frame frames rfl rfl
      hpending rfl
    obtain ⟨last, hreaches, hlast⟩ := ihFirst ({ frame with pending := rest } :: frames) rfl
    rw [hbuild] at hlast
    subst hlast
    obtain ⟨last, hreaches', hlast⟩ := ihRest
      { frame with pending := rest, shader := frame.shader.merge built } frames rfl rfl rfl rfl
    refine ⟨last, .of_step ?_ (hreaches.trans (.of_step ?_ hreaches')), hlast⟩
    · simp only [step, hpending]
      rfl
    · rfl

theorem start_reaches_outcome (path : String) (general : General) :
    ∃ last, Reaches tree (start path general) last ∧
      last.outcome? = some (Manifest.buildTracked tree path general) := by
  obtain ⟨last, hreaches, hlast⟩ := buildBelow_reaches [] [] (some general) path
  refine ⟨last, hreaches, ?_⟩
  change HandsBack [] (Manifest.buildTracked tree path general) last at hlast
  cases hbuilt : Manifest.buildTracked tree path general with
  | ok built =>
      rw [hbuilt] at hlast
      subst hlast
      rfl
  | error e =>
      rw [hbuilt] at hlast
      obtain ⟨left, rfl⟩ := hlast
      rfl

theorem advance_eq_self_of_outcome {walk : Walk}
    {result : Except SetupError (Shader × List Location)}
    (h : walk.outcome? = some result) : walk.advance tree = walk := by
  cases walk with
  | enter | resume => simp [outcome?] at h
  | failed => rfl
  | leave frames =>
      cases frames with
      | nil => rfl
      | cons => simp [outcome?] at h

theorem after_add (path : String) (general : General) (steps more : Nat) :
    after tree path general (steps + more)
      = (advance tree)^[more] (after tree path general steps) := by
  rw [after, after, Nat.add_comm, Function.iterate_add_apply]

/-- What holds at the start and is kept by each step holds at every moment. -/
theorem holds_after {property : Walk → Prop} {path : String} {general : General}
    (hstart : property (start path general))
    (hstep : ∀ walk next, property walk → walk.step tree = some next → property next)
    (steps : Nat) : property (after tree path general steps) := by
  induction steps with
  | zero => exact hstart
  | succ steps ih =>
      rw [after, Function.iterate_succ_apply', Walk.advance]
      cases hnext : Walk.step tree _ with
      | none => exact ih
      | some next => exact hstep _ next ih hnext

/-! ### What the chain holds -/

/-- A step leaves the chain alone, puts one more manifest on it, which is read from a file and was
not there before, or takes the last one off. -/
theorem chain_step {walk next : Walk} (h : walk.step tree = some next) :
    next.chain = walk.chain ∨
    (∃ here ∉ walk.chain, (∃ path, tree.canonicalize path = .ok here) ∧
      here ∈ tree.manifestLocations ∧ next.chain = walk.chain ++ [here]) ∨
    ∃ here, walk.chain = next.chain ++ [here] := by
  cases walk with
  | enter frames dirs defaults path =>
      cases hpath : tree.canonicalize path with
      | error e =>
          obtain rfl : _ = next := by simpa only [step, hpath, Option.some.injEq] using h
          exact .inl rfl
      | ok here =>
          by_cases hmem : here ∈ chainOf frames
          · rw [step_enter_of_mem hpath hmem] at h
            obtain rfl := Option.some.inj h
            exact .inl rfl
          · cases hload : Manifest.load tree path with
            | error e =>
                rw [step_enter_of_error hpath hmem hload] at h
                obtain rfl := Option.some.inj h
                exact .inl rfl
            | ok manifest =>
                rw [step_enter hpath hmem hload] at h
                obtain rfl := Option.some.inj h
                have hread := (Manifest.load_eq_ok_iff hpath manifest).1 hload
                exact .inr (.inl ⟨here, hmem, ⟨path, hpath⟩,
                  FileTree.mem_manifestLocations.2 ⟨manifest, hread⟩, chainOf_cons _ _⟩)
  | resume frame frames dirs =>
      cases hpending : frame.pending with
      | cons library rest =>
          obtain rfl : _ = next := by simpa only [step, hpending, Option.some.injEq] using h
          exact .inl rfl
      | nil =>
          simp only [step, hpending] at h
          split at h
          · obtain rfl := Option.some.inj h
            exact .inl rfl
          · obtain rfl := Option.some.inj h
            exact .inr (.inr ⟨frame.here, chainOf_cons frame frames⟩)
  | leave frames dirs shader =>
      cases frames with
      | nil => simp [step] at h
      | cons frame frames =>
          obtain rfl := Option.some.inj h
          exact .inl rfl
  | failed => simp [step] at h

/-- The manifests on the chain are all different, and each is a file to which a path led. -/
structure Sound (tree : FileTree) (walk : Walk) : Prop where
  nodup : walk.chain.Nodup
  found : ∀ here ∈ walk.chain,
    (∃ path, tree.canonicalize path = .ok here) ∧ here ∈ tree.manifestLocations

theorem sound_start (path : String) (general : General) : (start path general).Sound tree :=
  ⟨List.nodup_nil, by simp [start, chain, chainOf]⟩

theorem Sound.step {walk next : Walk} (h : walk.Sound tree) (hstep : walk.step tree = some next) :
    next.Sound tree := by
  obtain ⟨hnodup, hfound⟩ := h
  rcases chain_step hstep with hsame | ⟨here, hoff, hpath, hmem, hgrown⟩ | ⟨here, hshrunk⟩
  · exact ⟨hsame ▸ hnodup, hsame ▸ hfound⟩
  · constructor
    · rw [hgrown, ← List.concat_eq_append]
      exact hnodup.concat hoff
    · rw [hgrown]
      intro other hother
      rcases List.mem_append.1 hother with hother | hother
      · exact hfound other hother
      · obtain rfl := List.mem_singleton.1 hother
        exact ⟨hpath, hmem⟩
  · rw [hshrunk] at hnodup hfound
    exact ⟨hnodup.of_append_left, fun other hother => hfound other (List.mem_append_left _ hother)⟩

theorem sound_after (path : String) (general : General) (steps : Nat) :
    (after tree path general steps).Sound tree :=
  holds_after (sound_start path general) (fun _ _ => Sound.step) steps

theorem Sound.length_le {walk : Walk} (h : walk.Sound tree) :
    walk.chain.length ≤ tree.manifestLocations.card := by
  rw [← List.toFinset_card_of_nodup h.nodup]
  exact Finset.card_le_card fun here hmem => (h.found here (List.mem_toFinset.1 hmem)).2

theorem depth_le (walk : Walk) : walk.depth ≤ walk.chain.length + 1 := by
  cases walk <;> simp [depth, chain, chainOf]

/-- **A build ends.** Whatever the libraries say, the walk comes to an end after some steps, with
the success or the error that the recursion gives. At every moment the manifests in progress are
different files that paths led to, so the recursion is never deeper than there are manifests, by
more than one. -/
theorem after_ends_with_bounded_chain (tree : FileTree) (path : String) (general : General) :
    (∃ steps, ∀ more, (after tree path general (steps + more)).outcome?
      = some (Manifest.buildTracked tree path general)) ∧
    ∀ steps, (after tree path general steps).chain.Nodup ∧
      (∀ here ∈ (after tree path general steps).chain,
        (∃ found, tree.canonicalize found = .ok here) ∧
          ∃ content, tree.node? here = some (.file content)) ∧
      (after tree path general steps).depth ≤ tree.manifestLocations.card + 1 := by
  constructor
  · obtain ⟨last, ⟨steps, hsteps⟩, hlast⟩ := start_reaches_outcome path general
    refine ⟨steps, fun more => ?_⟩
    rw [after, Nat.add_comm, Function.iterate_add_apply, hsteps,
      Function.iterate_fixed (advance_eq_self_of_outcome hlast), hlast]
  · intro steps
    have hsound : Sound tree _ := sound_after path general steps
    refine ⟨hsound.nodup, ?_, (depth_le _).trans (Nat.add_le_add_right hsound.length_le 1)⟩
    intro here hmem
    obtain ⟨hpath, hmanifest⟩ := hsound.found here hmem
    obtain ⟨manifest, hread⟩ := FileTree.mem_manifestLocations.1 hmanifest
    exact ⟨hpath, FileTree.exists_file_of_manifestAt? hread⟩

end Walk

end ShaderAssembly

import ShaderAssembly.Proofs.FileTree.Proper

/-!
# What is kept

A tree is kept in another one if each path that leads somewhere still leads there and finds there
what it found. Creating directories keeps a tree, because they are created where nothing is.
Writing a file keeps it if the file was missing. In one tree a path tells whether it is missing.
But where directories are created after the question and before the writing, the answer may be out
of date: a path that goes into a missing directory and up again leads nowhere at first, and later
it leads to a file that was there all the time. A path without a step up cannot do so.
-/

namespace ShaderAssembly

namespace FileTree

variable {tree made after : FileTree} {path file : String} {location here there : Location}
  {names : List String} {last : String} {place : Place}

theorem Standing.exists_node (h : tree.Standing here) : ∃ node, tree.node? here = some node := by
  rcases List.eq_nil_or_concat' here with rfl | ⟨above, name, rfl⟩
  · exact ⟨.directory, rfl⟩
  · obtain ⟨place, hplace, hlast⟩ := walk_append_eq_ok_iff.1 h.walks
    have hname := h.plain name (List.mem_append_right _ (List.mem_singleton_self name))
    obtain ⟨-, ⟨hdot, -⟩ | ⟨hup, -⟩ | ⟨-, -, -, hnode, hthere⟩⟩ := walk_cons_eq_ok_iff.1 hlast
    · exact absurd hdot hname.notHere
    · exact absurd hup hname.notUp
    · rwa [Except.ok.inj hthere] at hnode

theorem Proper.exists_node (h : tree.Proper) (hpath : tree.resolve path = .ok here) :
    ∃ node, tree.node? here = some node :=
  (h.standing hpath).exists_node

theorem resolve_put (hne : location ≠ []) (hnode : tree.node? location ≠ some .directory)
    (node : Node) (h : tree.resolve path = .ok here) :
    (tree.put location node).resolve path = .ok here := by
  obtain ⟨hcheck, hwalk⟩ := resolve_eq_ok_iff.1 h
  refine resolve_eq_ok_iff.2 ⟨hcheck, ?_⟩
  rw [origin, workingDir_put]
  exact walk_put hne hnode node hwalk

/-- Each path that leads somewhere still leads there and finds there what it found. -/
structure KeptIn (tree after : FileTree) : Prop where
  resolve : ∀ path here, tree.resolve path = .ok here → after.resolve path = .ok here
  node : ∀ path here, tree.resolve path = .ok here → after.node? here = tree.node? here

namespace KeptIn

theorem refl (tree : FileTree) : tree.KeptIn tree := ⟨fun _ _ h => h, fun _ _ _ => rfl⟩

theorem trans (h : tree.KeptIn made) (h' : made.KeptIn after) : tree.KeptIn after := by
  refine ⟨fun path here hpath => h'.resolve path here (h.resolve path here hpath),
    fun path here hpath => ?_⟩
  rw [h'.node path here (h.resolve path here hpath), h.node path here hpath]

/-- A node may be put where no path leads. -/
theorem put (h : tree.KeptIn made) (hne : location ≠ [])
    (hnode : made.node? location ≠ some .directory)
    (hnew : ∀ path, tree.resolve path ≠ .ok location) (node : Node) :
    tree.KeptIn (made.put location node) := by
  refine ⟨fun path here hpath => resolve_put hne hnode node (h.resolve path here hpath),
    fun path here hpath => ?_⟩
  have hother : here ≠ location := by
    rintro rfl
    exact hnew path hpath
  rw [node?_put hne, if_neg hother, h.node path here hpath]

end KeptIn

/-! ### New directories -/

/-- There are new directories where some of the paths lead, and nothing else changes. -/
structure AddsDirectories (tree : FileTree) (paths : List String) (after : FileTree) : Prop where
  workingDir : after.workingDir = tree.workingDir
  kept : tree.KeptIn after
  nodes : ∀ here, after.node? here = tree.node? here ∨
    tree.node? here = none ∧ after.node? here = some .directory ∧
      ∃ path ∈ paths, after.resolve path = .ok here

namespace AddsDirectories

variable {paths first second : List String}

theorem refl (tree : FileTree) (paths : List String) : tree.AddsDirectories paths tree :=
  ⟨rfl, .refl tree, fun _ => .inl rfl⟩

theorem trans (h : tree.AddsDirectories first made) (h' : made.AddsDirectories second after)
    (hfirst : first ⊆ paths) (hsecond : second ⊆ paths) : tree.AddsDirectories paths after := by
  refine ⟨h'.workingDir.trans h.workingDir, h.kept.trans h'.kept, fun here => ?_⟩
  rcases h'.nodes here with hsame | ⟨hnone, hnew, path, hpath, hleads⟩
  · rw [hsame]
    rcases h.nodes here with hsame | ⟨hnone, hnew, path, hpath, hleads⟩
    · exact .inl hsame
    · exact .inr ⟨hnone, hnew, path, hfirst hpath, h'.kept.resolve path here hleads⟩
  · rcases h.nodes here with hsame | ⟨-, hnew, -⟩
    · exact .inr ⟨hsame ▸ hnone, hnew, path, hsecond hpath, hleads⟩
    · rw [hnone] at hnew
      contradiction

end AddsDirectories

theorem addsDirectories_of_makeDirectory (htree : tree.Proper)
    (h : tree.makeDirectory path = .ok after) : tree.AddsDirectories [path] after := by
  obtain ⟨place, hplace, hsize, hnone, rfl⟩ := exists_of_makeDirectory h
  have hne := place.location_ne_nil
  have hnode : tree.node? place.location ≠ some .directory := by simp [hnone]
  have hmade : (tree.put place.location .directory).node? place.location = some .directory := by
    rw [node?_put hne, if_pos rfl]
  refine ⟨workingDir_put _ _ _, (KeptIn.refl tree).put hne hnode (fun path hpath => ?_) _,
    fun here => ?_⟩
  · obtain ⟨node, hsome⟩ := htree.exists_node hpath
    rw [hnone] at hsome
    contradiction
  · by_cases hhere : here = place.location
    · subst hhere
      exact .inr ⟨hnone, hmade, path, List.mem_singleton_self path,
        (hplace.put hnode .directory).resolve hsize ⟨_, hmade, fun _ => rfl⟩⟩
    · rw [node?_put hne, if_neg hhere]
      exact .inl rfl

/-- What creating the first directory of a list comes to: it is created at once, or after the
others, or not at all. -/
theorem makeFirst_cons_cases (tree : FileTree) (path : String) (above : List String) :
    (tree.makeFirst (path :: above)).1 = tree ∨
      tree.makeDirectory path = .ok (tree.makeFirst (path :: above)).1 ∨
      (tree.makeFirst (path :: above)).1 = (tree.makeFirst above).1 ∨
      (tree.makeFirst above).1.makeDirectory path = .ok (tree.makeFirst (path :: above)).1 := by
  rw [makeFirst]
  split
  · rename_i made hmade
    exact .inr (.inl hmade)
  · split
    · rename_i below e hbelow
      rw [hbelow]
      exact .inr (.inr (.inl rfl))
    · rename_i below hbelow
      rw [hbelow]
      split
      · rename_i made hmade
        exact .inr (.inr (.inr hmade))
      · exact .inr (.inr (.inl rfl))
  · exact .inl rfl

theorem Proper.makeFirst (h : tree.Proper) (paths : List String) :
    (tree.makeFirst paths).1.Proper := by
  induction paths with
  | nil => exact h
  | cons path above ih =>
      rcases makeFirst_cons_cases tree path above with heq | hmake | heq | hmake
      · rw [heq]
        exact h
      · exact h.makeDirectory hmake
      · rw [heq]
        exact ih
      · exact ih.makeDirectory hmake

theorem addsDirectories_makeFirst (htree : tree.Proper) (paths : List String) :
    tree.AddsDirectories paths (tree.makeFirst paths).1 := by
  induction paths with
  | nil => exact .refl tree []
  | cons path above ih =>
      have hpath : [path] ⊆ path :: above := by simp
      have habove : above ⊆ path :: above := List.subset_cons_self path above
      rcases makeFirst_cons_cases tree path above with heq | hmake | heq | hmake
      · rw [heq]
        exact .refl tree _
      · exact (AddsDirectories.refl tree []).trans (addsDirectories_of_makeDirectory htree hmake)
          (List.nil_subset _) hpath
      · rw [heq]
        exact ih.trans (.refl _ []) habove (List.nil_subset _)
      · exact ih.trans (addsDirectories_of_makeDirectory (htree.makeFirst above) hmake) habove hpath

theorem addsDirectories_makeDirectories (htree : tree.Proper) (dir : String) :
    tree.AddsDirectories (Path.ancestors dir) (tree.makeDirectories dir).1 := by
  rw [makeDirectories]
  split
  · exact .refl tree _
  · exact addsDirectories_makeFirst htree _

theorem Proper.makeDirectories (h : tree.Proper) (dir : String) :
    (tree.makeDirectories dir).1.Proper := by
  rw [FileTree.makeDirectories]
  split
  · exact h
  · exact h.makeFirst _

/-! ### A written file -/

/-- The path leads to a file with that text, and nothing else changes. -/
structure WrittenTo (tree : FileTree) (path text : String) (after : FileTree) : Prop where
  readText : after.readText path = .ok text
  others : ∀ here, after.resolve path ≠ .ok here → after.node? here = tree.node? here
  resolve : ∀ other here, tree.resolve other = .ok here → after.resolve other = .ok here

/-- Where a file is written, its path leads afterwards. -/
theorem resolve_of_write (hplace : tree.Names path place) (hslash : place.slash = false)
    (hsize : place.name.utf8ByteSize ≤ maxNameSize)
    (hnode : tree.node? place.location ≠ some .directory) (content : Content) :
    (tree.put place.location (.file content)).resolve path = .ok place.location := by
  refine (hplace.put hnode _).resolve hsize ⟨.file content, ?_, ?_⟩
  · rw [node?_put place.location_ne_nil, if_pos rfl]
  · rw [hslash]
    exact fun h => absurd h Bool.false_ne_true

theorem writtenTo_of_write {text : String} (h : tree.write path (.text text) = .ok after) :
    tree.WrittenTo path text after := by
  obtain ⟨place, hplace, hslash, hsize, hnode, rfl⟩ := exists_of_write h
  have hne := place.location_ne_nil
  have hleads := resolve_of_write hplace hslash hsize hnode (.text text)
  refine ⟨bind_eq_ok_iff.2 ⟨_, hleads, ?_⟩, fun here hhere => ?_,
    fun other here hother => resolve_put hne hnode _ hother⟩
  · rw [textAt, node?_put hne, if_pos rfl]
  · rw [node?_put hne, if_neg]
    rintro rfl
    exact hhere hleads

/-- Writing a file that is missing loses nothing. -/
theorem keptIn_of_write (htree : tree.Proper) {content : Content}
    (hmissing : tree.contains path = false) (h : tree.write path content = .ok after) :
    tree.KeptIn after := by
  obtain ⟨place, hplace, hslash, hsize, hnode, rfl⟩ := exists_of_write h
  refine (KeptIn.refl tree).put place.location_ne_nil hnode (fun other hother => ?_) _
  obtain ⟨node, hsome⟩ := htree.exists_node hother
  have hpath := hplace.resolve hsize ⟨node, hsome, fun h => absurd (hslash.symm.trans h) (by simp)⟩
  rw [contains, find?, hpath] at hmissing
  simp [hsome] at hmissing

/-! ### Paths without a step up -/

/-- Neither the path nor the one where it starts has a step up. -/
def Straight (tree : FileTree) (path : String) : Prop :=
  ".." ∉ tree.origin path ++ Path.names path

instance (tree : FileTree) (path : String) : Decidable (tree.Straight path) :=
  inferInstanceAs (Decidable (¬ _))

/-- Dots on the way to a name change nothing. -/
theorem walk_of_walk_filter (hup : ".." ∉ names)
    (h : tree.walk here (names.filter (· ≠ ".") ++ [last]) = .ok there) :
    tree.walk here (names ++ [last]) = .ok there := by
  induction names generalizing here with
  | nil => exact h
  | cons name names ih =>
      rw [List.mem_cons, not_or] at hup
      by_cases hdot : name = "."
      · rw [List.filter_cons_of_neg (by simpa using hdot)] at h
        obtain ⟨first, rest, hfirst⟩ :=
          List.exists_cons_of_ne_nil (List.append_ne_nil_of_right_ne_nil
            (names.filter (· ≠ ".")) (List.cons_ne_nil last []))
        have hhere : tree.node? here = some .directory := by
          rw [hfirst] at h
          exact (walk_cons_eq_ok_iff.1 h).1
        exact walk_cons_eq_ok_iff.2 ⟨hhere, .inl ⟨hdot, ih hup.2 h⟩⟩
      · rw [List.filter_cons_of_pos (by simpa using hdot), List.cons_append] at h
        obtain ⟨hhere, ⟨hdot', -⟩ | ⟨hup', -⟩ | ⟨-, hnotUp, hsize, hnode, hnext⟩⟩ :=
          walk_cons_eq_ok_iff.1 h
        · exact absurd hdot' hdot
        · exact absurd hup'.symm hup.1
        · exact walk_cons_eq_ok_iff.2
            ⟨hhere, .inr (.inr ⟨hdot, hnotUp, hsize, hnode, ih hup.2 hnext⟩)⟩

/-- A straight path that found nothing names, in a tree with more directories, a place where no
path led. -/
theorem resolve_ne_of_straight (htree : tree.Proper) (hdir : made.workingDir = tree.workingDir)
    (hstraight : tree.Straight file) (hmissing : tree.contains file = false)
    (hplace : made.Names file place) (hslash : place.slash = false) (path : String) :
    tree.resolve path ≠ .ok place.location := by
  intro hpath
  have hstanding := htree.standing hpath
  obtain ⟨names, hnames, hwalk⟩ := hplace.walk
  have hup : ".." ∉ tree.origin file ++ names := by
    rw [Straight, hnames, ← List.append_assoc, List.mem_append, not_or] at hstraight
    exact hstraight.1
  have horigin : made.origin file = tree.origin file := by
    rw [origin, hdir, origin]
  rw [horigin] at hwalk
  have hparent : place.parent = (tree.origin file ++ names).filter (· ≠ ".") :=
    eq_append_filter_of_walk hup hwalk
  have hthere : tree.walk [] (tree.origin file ++ names ++ [place.name]) = .ok place.location := by
    refine walk_of_walk_filter hup ?_
    rw [← hparent]
    exact hstanding.walks
  have hfile : tree.resolve file = .ok place.location := by
    refine resolve_eq_ok_iff.2 ⟨hplace.check, ?_⟩
    rw [Path.steps, ← hplace.slash, hslash, if_neg Bool.false_ne_true, hnames, ← List.append_assoc]
    exact hthere
  obtain ⟨node, hnode⟩ := hstanding.exists_node
  rw [contains, find?, hfile] at hmissing
  simp [hnode] at hmissing

end FileTree

end ShaderAssembly

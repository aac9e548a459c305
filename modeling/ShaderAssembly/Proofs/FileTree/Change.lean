import ShaderAssembly.FileTree.Change
import ShaderAssembly.Proofs.FileTree.Walk

/-!
# What an operation does

A path names a place: all its names but the last lead to a directory, and the last one is the name
in there. Writing a file and creating a directory put one node there, and they succeed only if
nothing is lost but the file that was there. A node that is put where no directory was leaves
everything on the way of a walk as it was, so whatever could be reached can still be.
-/

namespace ShaderAssembly

namespace FileTree

variable {tree after : FileTree} {path : String} {location here there : Location} {node : Node}
  {names : List String}

/-! ### One node -/

theorem node?_of_ne_nil (h : location ≠ []) (tree : FileTree) :
    tree.node? location = tree.nodes.lookup location := by
  rw [node?, if_neg h]

theorem lookup_map_put (nodes : List (Location × Node)) (location : Location) (node : Node)
    (there : Location) :
    (nodes.map fun (l, n) => (l, if l = location then node else n)).lookup there
      = if there = location then (nodes.lookup there).map fun _ => node
        else nodes.lookup there := by
  induction nodes with
  | nil => simp
  | cons entry nodes ih =>
      obtain ⟨l, n⟩ := entry
      rw [List.map_cons, List.lookup_cons, List.lookup_cons, ih]
      by_cases hl : there = l
      · subst hl
        simp only [beq_self_eq_true, Option.map_some]
        split <;> rfl
      · rw [beq_eq_false_iff_ne.2 hl]

/-- What is put at a location is there, and nothing else changes. -/
theorem node?_put (hne : location ≠ []) (tree : FileTree) (node : Node) (there : Location) :
    (tree.put location node).node? there = if there = location then some node
      else tree.node? there := by
  by_cases hthere : there = []
  · subst hthere
    rw [if_neg hne.symm]
    rfl
  · rw [node?_of_ne_nil hthere, node?_of_ne_nil hthere, put]
    split
    · rename_i hsome
      rw [lookup_map_put]
      split
      · rename_i heq
        obtain ⟨old, hold⟩ := Option.isSome_iff_exists.1 hsome
        rw [heq, hold, Option.map_some]
      · rfl
    · rename_i hnone
      rw [List.lookup_append]
      by_cases heq : there = location
      · rw [if_pos heq, heq, Option.not_isSome_iff_eq_none.1 hnone, List.lookup_cons_self,
          Option.none_or]
      · rw [if_neg heq, List.lookup_cons, beq_eq_false_iff_ne.2 heq, List.lookup_nil,
          Option.or_none]

theorem workingDir_put (tree : FileTree) (location : Location) (node : Node) :
    (tree.put location node).workingDir = tree.workingDir := by
  rw [put]
  split <;> rfl

/-- No walk goes through what is no directory, so it does not matter what is put there. -/
theorem walk_put (hne : location ≠ []) (hnode : tree.node? location ≠ some .directory)
    (node : Node) (h : tree.walk here names = .ok there) :
    (tree.put location node).walk here names = .ok there := by
  induction names generalizing here with
  | nil => exact h
  | cons name names ih =>
      obtain ⟨hhere, hstep⟩ := walk_cons_eq_ok_iff.1 h
      have hother : here ≠ location := by
        rintro rfl
        exact hnode hhere
      refine walk_cons_eq_ok_iff.2 ⟨by rw [node?_put hne, if_neg hother, hhere], ?_⟩
      rcases hstep with ⟨hdot, hnext⟩ | ⟨hup, hnext⟩ | ⟨hdot, hup, hsize, ⟨next, hthere⟩, hnext⟩
      · exact .inl ⟨hdot, ih hnext⟩
      · exact .inr (.inl ⟨hup, ih hnext⟩)
      · refine .inr (.inr ⟨hdot, hup, hsize, ?_, ih hnext⟩)
        rw [node?_put hne]
        split
        · exact ⟨node, rfl⟩
        · exact ⟨next, hthere⟩

/-! ### Places -/

theorem Place.location_ne_nil (place : Place) : place.location ≠ [] := by
  simp [Place.location]

/-- What a path names, in a tree: a name that is no step, where its names but the last lead. -/
structure Names (tree : FileTree) (path : String) (place : Place) : Prop where
  check : checkPath path = .ok ()
  name : place.name ≠ "." ∧ place.name ≠ ".."
  slash : place.slash = Path.endsWithSlash path
  directory : tree.node? place.parent = some .directory
  walk : ∃ names, Path.names path = names ++ [place.name] ∧
    tree.walk [] (tree.origin path ++ names) = .ok place.parent

variable {place : Place}

theorem names_of_place (h : tree.place path = .ok place) (hstep : place.isStep = false) :
    tree.Names path place := by
  rw [FileTree.place, bind_eq_ok_iff] at h
  obtain ⟨⟨⟩, hcheck, h⟩ := h
  cases hlast : (Path.names path).getLast? with
  | none =>
      rw [hlast] at h
      obtain rfl := Except.ok.inj h
      contradiction
  | some last =>
      rw [hlast] at h
      obtain ⟨here, hwalk, h⟩ := bind_eq_ok_iff.1 h
      obtain ⟨hdirectory, h⟩ := ite_error_eq_ok_iff.1 h
      obtain rfl := Except.ok.inj h
      rw [Place.isStep, Bool.or_eq_false_iff, beq_eq_false_iff_ne, beq_eq_false_iff_ne] at hstep
      obtain ⟨names, hnames⟩ := List.getLast?_eq_some_iff.1 hlast
      refine ⟨hcheck, hstep, rfl, not_not.1 hdirectory, names, hnames, ?_⟩
      rw [hnames, List.dropLast_concat] at hwalk
      exact hwalk

theorem nodeAt_eq_ok_iff {found : Option Node} :
    tree.nodeAt place = .ok found ↔
      place.name.utf8ByteSize ≤ maxNameSize ∧ tree.node? place.location = found := by
  rw [nodeAt, ite_error_eq_ok_iff, Nat.not_lt, Except.ok.injEq]

/-- Writing a file puts it at the place that its path names, where no directory is. -/
theorem exists_of_write {content : Content} (h : tree.write path content = .ok after) :
    ∃ place, tree.Names path place ∧ place.slash = false ∧
      place.name.utf8ByteSize ≤ maxNameSize ∧ tree.node? place.location ≠ some .directory ∧
      after = tree.put place.location (.file content) := by
  rw [write, bind_eq_ok_iff] at h
  obtain ⟨place, hplace, h⟩ := h
  obtain ⟨hguard, h⟩ := ite_error_eq_ok_iff.1 h
  rw [Bool.or_eq_true, not_or, Bool.not_eq_true, Bool.not_eq_true] at hguard
  obtain ⟨found, hfound, h⟩ := bind_eq_ok_iff.1 h
  obtain ⟨hsize, rfl⟩ := nodeAt_eq_ok_iff.1 hfound
  split at h
  · contradiction
  · rename_i hnode
    exact ⟨place, names_of_place hplace hguard.1, hguard.2, hsize, hnode,
      (Except.ok.inj h).symm⟩

/-- Creating a directory puts it at the place that its path names, where nothing is. -/
theorem exists_of_makeDirectory (h : tree.makeDirectory path = .ok after) :
    ∃ place, tree.Names path place ∧ place.name.utf8ByteSize ≤ maxNameSize ∧
      tree.node? place.location = none ∧ after = tree.put place.location .directory := by
  rw [makeDirectory, bind_eq_ok_iff] at h
  obtain ⟨place, hplace, h⟩ := h
  obtain ⟨hstep, h⟩ := ite_error_eq_ok_iff.1 h
  obtain ⟨found, hfound, h⟩ := bind_eq_ok_iff.1 h
  obtain ⟨hsize, rfl⟩ := nodeAt_eq_ok_iff.1 hfound
  split at h
  · contradiction
  · rename_i hnode
    exact ⟨place, names_of_place hplace (Bool.eq_false_iff.2 hstep), hsize, hnode,
      (Except.ok.inj h).symm⟩

/-- A path leads to the place that it names, if something is there, and a directory if the path
ends with a slash. -/
theorem Names.resolve (h : tree.Names path place) (hsize : place.name.utf8ByteSize ≤ maxNameSize)
    (hnode : ∃ node, tree.node? place.location = some node ∧
      (place.slash = true → node = .directory)) : tree.resolve path = .ok place.location := by
  obtain ⟨names, hnames, hwalk⟩ := h.walk
  obtain ⟨node, hnode, hslash⟩ := hnode
  have hlast : tree.walk [] (tree.origin path ++ Path.names path) = .ok place.location := by
    rw [hnames, ← List.append_assoc, walk_append_eq_ok_iff]
    exact ⟨place.parent, hwalk, walk_cons_eq_ok_iff.2
      ⟨h.directory, .inr (.inr ⟨h.name.1, h.name.2, hsize, ⟨node, hnode⟩, rfl⟩)⟩⟩
  refine resolve_eq_ok_iff.2 ⟨h.check, ?_⟩
  rw [Path.steps]
  split
  · rename_i hends
    rw [← List.append_assoc, walk_append_eq_ok_iff]
    rw [hslash (h.slash.trans hends)] at hnode
    exact ⟨place.location, hlast, walk_cons_eq_ok_iff.2 ⟨hnode, .inl ⟨rfl, rfl⟩⟩⟩
  · exact hlast

/-- The path still names the place after something is put there. -/
theorem Names.put (h : tree.Names path place)
    (hnode : tree.node? place.location ≠ some .directory) (node : Node) :
    (tree.put place.location node).Names path place := by
  obtain ⟨names, hnames, hwalk⟩ := h.walk
  have hne := place.location_ne_nil
  have hother : place.parent ≠ place.location := by simp [Place.location]
  refine ⟨h.check, h.name, h.slash, ?_, names, hnames, ?_⟩
  · rw [node?_put hne, if_neg hother, h.directory]
  · rw [origin, workingDir_put]
    exact walk_put hne hnode node hwalk

end FileTree

end ShaderAssembly

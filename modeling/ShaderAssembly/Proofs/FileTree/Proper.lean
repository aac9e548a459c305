import ShaderAssembly.Proofs.FileTree.Change

/-!
# Proper trees

A file system holds only names that a directory can hold. A tree that is given as a value need not,
but once it is proper in this sense it stays so, whatever operations are performed on it.
-/

namespace ShaderAssembly

namespace FileTree

/-- The names in a tree are names that directories can hold. -/
structure Proper (tree : FileTree) : Prop where
  names : ∀ location ∈ tree.locations, ∀ name ∈ location, Path.Plain name
  workingDir : '\x00' ∉ tree.workingDir.toList

instance (tree : FileTree) : Decidable tree.Proper :=
  decidable_of_iff
    ((∀ location ∈ tree.locations, ∀ name ∈ location, Path.Plain name) ∧
      '\x00' ∉ tree.workingDir.toList)
    ⟨fun ⟨hnames, hdir⟩ => ⟨hnames, hdir⟩, fun h => ⟨h.names, h.workingDir⟩⟩

variable {tree after : FileTree} {path : String} {location : Location}

theorem Proper.standing (h : tree.Proper) (hpath : tree.resolve path = .ok location) :
    tree.Standing location :=
  standing_of_resolve h.workingDir hpath

theorem Proper.plain_of_mem_namesAt (h : tree.Proper) {name : String}
    (hname : name ∈ tree.namesAt location) : Path.Plain name := by
  rw [namesAt, List.mem_eraseDups, List.mem_filterMap] at hname
  obtain ⟨node, hnode, hlast⟩ := hname
  obtain ⟨-, hlast⟩ := Option.ite_none_right_eq_some.1 hlast
  exact h.names node.1 (List.mem_map_of_mem hnode) name (List.mem_of_getLast? hlast)

/-- The directory of what a path names is reached by its own names. -/
theorem Proper.standing_parent (h : tree.Proper) {place : Place} (hplace : tree.Names path place) :
    tree.Standing place.parent := by
  obtain ⟨names, hnames, hwalk⟩ := hplace.walk
  have hnull := (checkPath_eq_ok_iff.1 hplace.check).1
  refine standing_of_walk_origin h.workingDir (fun name hname hdot hup => ?_) hwalk
  refine Path.plain_of_mem_names hnull ?_ hdot hup
  rw [hnames]
  exact List.mem_append_left _ hname

theorem Names.plain {place : Place} (h : tree.Names path place) : Path.Plain place.name := by
  obtain ⟨names, hnames, -⟩ := h.walk
  have hnull := (checkPath_eq_ok_iff.1 h.check).1
  refine Path.plain_of_mem_names hnull ?_ h.name.1 h.name.2
  rw [hnames]
  exact List.mem_append_right _ (List.mem_singleton_self _)

theorem Proper.plain_of_names (h : tree.Proper) {place : Place} (hplace : tree.Names path place) :
    ∀ name ∈ place.location, Path.Plain name := by
  rw [Place.location, List.forall_mem_append, List.forall_mem_singleton]
  exact ⟨(h.standing_parent hplace).plain, hplace.plain⟩

/-! ### What operations keep -/

theorem Proper.put (h : tree.Proper) (hlocation : ∀ name ∈ location, Path.Plain name)
    (node : Node) : (tree.put location node).Proper := by
  rw [FileTree.put]
  split
  · refine ⟨fun there hthere => ?_, h.workingDir⟩
    rw [locations, List.map_map] at hthere
    exact h.names there hthere
  · refine ⟨fun there hthere => ?_, h.workingDir⟩
    rw [locations, List.map_append, List.mem_append, List.map_singleton, List.mem_singleton]
      at hthere
    rcases hthere with hthere | rfl
    · exact h.names there hthere
    · exact hlocation

theorem Proper.erase (h : tree.Proper) (location : Location) : (tree.erase location).Proper := by
  refine ⟨fun there hthere => h.names there ?_, h.workingDir⟩
  exact (List.filter_sublist.map Prod.fst).subset hthere

theorem Proper.move (h : tree.Proper) (source : Location) {target : Location}
    (htarget : ∀ name ∈ target, Path.Plain name) : (tree.move source target).Proper := by
  refine ⟨fun there hthere => ?_, h.workingDir⟩
  obtain ⟨node, hnode, rfl⟩ := List.mem_map.1 hthere
  obtain ⟨⟨before, content⟩, hbefore, rfl⟩ := List.mem_map.1 hnode
  have hplain := h.names before (List.mem_map_of_mem (List.mem_filter.1 hbefore).1)
  dsimp only
  split
  · exact List.forall_mem_append.2 ⟨htarget, fun name hname =>
      hplain name (List.mem_of_mem_drop hname)⟩
  · exact hplain

theorem Proper.write (h : tree.Proper) {content : Content}
    (hafter : tree.write path content = .ok after) : after.Proper := by
  obtain ⟨place, hplace, -, -, -, rfl⟩ := exists_of_write hafter
  exact h.put (h.plain_of_names hplace) _

theorem Proper.append (h : tree.Proper) {text : String}
    (hafter : tree.append path text = .ok after) : after.Proper := by
  rw [FileTree.append, bind_eq_ok_iff] at hafter
  obtain ⟨location, hlocation, hafter⟩ := hafter
  have hput := h.put (h.standing hlocation).plain
  split at hafter
  · obtain rfl := Except.ok.inj hafter
    exact hput _
  · obtain rfl := Except.ok.inj hafter
    exact hput _
  · contradiction
  · contradiction

theorem Proper.makeDirectory (h : tree.Proper) (hafter : tree.makeDirectory path = .ok after) :
    after.Proper := by
  obtain ⟨place, hplace, -, -, rfl⟩ := exists_of_makeDirectory hafter
  exact h.put (h.plain_of_names hplace) _

theorem Proper.remove (h : tree.Proper) (hafter : tree.remove path = .ok after) :
    after.Proper := by
  rw [FileTree.remove, bind_eq_ok_iff] at hafter
  obtain ⟨place, -, hafter⟩ := hafter
  obtain ⟨-, hafter⟩ := ite_error_eq_ok_iff.1 hafter
  obtain ⟨there, -, hafter⟩ := bind_eq_ok_iff.1 hafter
  split at hafter
  · contradiction
  · contradiction
  · obtain ⟨-, hafter⟩ := ite_error_eq_ok_iff.1 hafter
    obtain rfl := Except.ok.inj hafter
    exact h.erase _

/-- A file that gets another place is moved there, unless it is there already. -/
theorem eq_or_eq_of_renameFile {source target : Place} {there : Option Node}
    (h : tree.renameFile source target there = .ok after) :
    after = tree ∨ after = tree.move source.location target.location := by
  rw [FileTree.renameFile, ite_error_eq_ok_iff, ite_error_eq_ok_iff] at h
  obtain ⟨-, -, h⟩ := h
  split at h
  · exact .inl (Except.ok.inj h).symm
  · exact .inr (Except.ok.inj h).symm

theorem eq_or_eq_of_renameDirectory {source target : Location} {there : Option Node}
    (h : tree.renameDirectory source target there = .ok after) :
    after = tree ∨ after = tree.move source target := by
  unfold FileTree.renameDirectory at h
  split at h
  · exact .inl (Except.ok.inj h).symm
  · right
    obtain ⟨-, h⟩ := ite_error_eq_ok_iff.1 h
    obtain ⟨-, h⟩ := ite_error_eq_ok_iff.1 h
    split at h
    · contradiction
    · split at h
      · exact (Except.ok.inj h).symm
      · contradiction
    · exact (Except.ok.inj h).symm

theorem Proper.rename (h : tree.Proper) {newPath : String}
    (hafter : tree.rename path newPath = .ok after) : after.Proper := by
  rw [FileTree.rename, bind_eq_ok_iff] at hafter
  obtain ⟨source, -, hafter⟩ := hafter
  obtain ⟨target, htarget, hafter⟩ := bind_eq_ok_iff.1 hafter
  obtain ⟨hstep, hafter⟩ := ite_error_eq_ok_iff.1 hafter
  rw [Bool.or_eq_true, not_or, Bool.not_eq_true, Bool.not_eq_true] at hstep
  have hmove := h.move source.location (h.plain_of_names (names_of_place htarget hstep.2))
  obtain ⟨there, -, hafter⟩ := bind_eq_ok_iff.1 hafter
  have hcases : after = tree ∨ after = tree.move source.location target.location := by
    split at hafter
    · contradiction
    · obtain ⟨replaced, -, hafter⟩ := bind_eq_ok_iff.1 hafter
      exact eq_or_eq_of_renameFile hafter
    · obtain ⟨replaced, -, hafter⟩ := bind_eq_ok_iff.1 hafter
      exact eq_or_eq_of_renameDirectory hafter
  rcases hcases with rfl | rfl
  · exact h
  · exact hmove

end FileTree

end ShaderAssembly

import ShaderAssembly.FileTree.Basic
import ShaderAssembly.Proofs.FileTree.Names

/-!
# Where paths lead

Following names one by one never leaves the file tree: wherever a path leads, the names on the way
are names that directories hold, and the path of that place leads there again. A path that is seen
from a directory and steps up no more often than it stepped down before leads to a place in that
directory; any other path may lead anywhere.
-/

namespace ShaderAssembly

namespace Path

/-- Following the names, from so many steps below a place, never leads above that place. -/
def staysInside : Nat → List String → Bool
  | _, [] => true
  | depth, name :: names =>
    if name = "." then staysInside depth names
    else if name = ".." then 0 < depth && staysInside (depth - 1) names
    else staysInside (depth + 1) names

theorem staysInside_append_dots {names dots : List String} (hdots : ∀ name ∈ dots, name = ".")
    (depth : Nat) : staysInside depth (names ++ dots) = staysInside depth names := by
  induction names generalizing depth with
  | nil =>
      rw [List.nil_append]
      induction dots with
      | nil => rfl
      | cons name dots ih =>
          obtain ⟨rfl, hrest⟩ := List.forall_mem_cons.1 hdots
          exact ih hrest
  | cons name names ih =>
      rw [List.cons_append, staysInside, staysInside, ih, ih, ih]

theorem names_ne_nil {file : String} (hne : file ≠ "") (hfile : isAbsolute file = false) :
    names file ≠ [] := by
  rw [isAbsolute] at hfile
  cases hlist : file.toList with
  | nil => exact absurd (String.toList_eq_nil_iff.1 hlist) hne
  | cons c cs =>
      have hc : c ≠ '/' := by
        rintro rfl
        simp [hlist] at hfile
      rw [names_eq, hlist, Text.splitAll, if_neg hc]
      cases Text.splitAll '/' cs <;> simp

theorem endsWithSlash_append_slash (dir : String) : endsWithSlash (dir ++ "/") = true := by
  simp [endsWithSlash, String.toList_append]

theorem exists_join_eq_append {dir file : String} (hdir : dir.isEmpty = false)
    (hfile : isAbsolute file = false) : ∃ rest, join dir file = dir ++ rest := by
  rw [join, hdir, hfile, Bool.or_self, if_neg Bool.false_ne_true]
  split
  · exact ⟨file, rfl⟩
  · exact ⟨"/" ++ file, String.append_assoc⟩

/-- What a joined path adds to the names of its directory, which is a step at least. -/
theorem exists_steps_join {dir file : String} (hdir : dir.isEmpty = false)
    (hfile : isAbsolute file = false) :
    ∃ dots, (∀ name ∈ dots, name = ".") ∧
      steps (join dir file) = names dir ++ (names file ++ dots) ∧ names file ++ dots ≠ [] := by
  rw [steps, names_join hdir hfile]
  split
  · exact ⟨["."], by simp, by rw [List.append_assoc], by simp⟩
  · rename_i hslash
    refine ⟨[], by simp, by rw [List.append_nil], ?_⟩
    rw [List.append_nil]
    refine names_ne_nil ?_ hfile
    rintro rfl
    rw [join, hdir, hfile, Bool.or_self, if_neg Bool.false_ne_true, String.append_empty,
      String.append_empty] at hslash
    split at hslash
    · rename_i hends
      exact hslash hends
    · exact hslash (endsWithSlash_append_slash dir)

end Path

/-- Two steps in a row succeed if both do. -/
theorem bind_eq_ok_iff {α β ε : Type} {first : Except ε α} {next : α → Except ε β} {b : β} :
    first >>= next = .ok b ↔ ∃ a, first = .ok a ∧ next a = .ok b := by
  cases first <;> simp [bind, Except.bind]

/-- A step behind a guard succeeds if the guard lets it pass and it does. -/
theorem ite_error_eq_ok_iff {α ε : Type} {c : Prop} [Decidable c] {e : ε} {step : Except ε α}
    {a : α} : (if c then .error e else step) = .ok a ↔ ¬c ∧ step = .ok a := by
  split <;> simp [*]

namespace FileTree

variable {tree : FileTree} {here there place : Location} {name : String} {names more : List String}

/-- What one step of a walk does. -/
theorem walk_cons_eq_ok_iff :
    tree.walk here (name :: names) = .ok there ↔
      tree.node? here = some .directory ∧
        (name = "." ∧ tree.walk here names = .ok there ∨
          name = ".." ∧ tree.walk here.parent names = .ok there ∨
          name ≠ "." ∧ name ≠ ".." ∧ name.utf8ByteSize ≤ maxNameSize ∧
            (∃ node, tree.node? (here ++ [name]) = some node) ∧
            tree.walk (here ++ [name]) names = .ok there) := by
  rw [walk]
  cases hhere : tree.node? here with
  | none => simp
  | some node =>
      cases node with
      | file content => simp
      | directory =>
          by_cases hdot : name = "."
          · subst hdot
            simp
          · by_cases hup : name = ".."
            · subst hup
              simp
            · by_cases hsize : maxNameSize < name.utf8ByteSize
              · simp [hdot, hup, hsize, Nat.not_le.2 hsize]
              · cases hnext : tree.node? (here ++ [name]) with
                | none => simp [hdot, hup, hsize]
                | some node => simp [hdot, hup, hsize, Nat.not_lt.1 hsize]

theorem walk_append_eq_ok_iff :
    tree.walk here (names ++ more) = .ok there ↔
      ∃ place, tree.walk here names = .ok place ∧ tree.walk place more = .ok there := by
  induction names generalizing here with
  | nil => simp [walk]
  | cons name names ih =>
      simp only [List.cons_append, walk_cons_eq_ok_iff, ih]
      constructor
      · rintro ⟨hhere, ⟨hdot, place, hplace, hthere⟩ | ⟨hup, place, hplace, hthere⟩ |
          ⟨hdot, hup, hsize, hnode, place, hplace, hthere⟩⟩
        · exact ⟨place, ⟨hhere, .inl ⟨hdot, hplace⟩⟩, hthere⟩
        · exact ⟨place, ⟨hhere, .inr (.inl ⟨hup, hplace⟩)⟩, hthere⟩
        · exact ⟨place, ⟨hhere, .inr (.inr ⟨hdot, hup, hsize, hnode, hplace⟩)⟩, hthere⟩
      · rintro ⟨place, ⟨hhere, ⟨hdot, hplace⟩ | ⟨hup, hplace⟩ |
          ⟨hdot, hup, hsize, hnode, hplace⟩⟩, hthere⟩
        · exact ⟨hhere, .inl ⟨hdot, place, hplace, hthere⟩⟩
        · exact ⟨hhere, .inr (.inl ⟨hup, place, hplace, hthere⟩)⟩
        · exact ⟨hhere, .inr (.inr ⟨hdot, hup, hsize, hnode, place, hplace, hthere⟩)⟩

/-- Without a step up, a walk arrives where its names say. -/
theorem eq_append_filter_of_walk (hup : ".." ∉ names) (h : tree.walk here names = .ok there) :
    there = here ++ names.filter (· ≠ ".") := by
  induction names generalizing here with
  | nil =>
      obtain rfl : here = there := Except.ok.inj h
      rw [List.filter_nil, List.append_nil]
  | cons name names ih =>
      rw [List.mem_cons, not_or] at hup
      obtain ⟨-, ⟨rfl, hnext⟩ | ⟨rfl, -⟩ | ⟨hdot, -, -, -, hnext⟩⟩ := walk_cons_eq_ok_iff.1 h
      · rw [List.filter_cons_of_neg (by simp)]
        exact ih hup.2 hnext
      · exact absurd rfl hup.1
      · rw [ih hup.2 hnext, List.filter_cons_of_pos (by simpa using hdot), List.append_assoc,
          List.singleton_append]

/-- A walk along names that are no steps arrives below them. -/
theorem eq_append_of_walk (hnames : ∀ name ∈ names, Path.Plain name)
    (h : tree.walk here names = .ok there) : there = here ++ names := by
  have hup : ".." ∉ names := fun hmem => (hnames ".." hmem).notUp rfl
  have hall : names.filter (· ≠ ".") = names :=
    List.filter_eq_self.2 fun name hname => by simpa using (hnames name hname).notHere
  rw [eq_append_filter_of_walk hup h, hall]

/-- A walk that does not go above a place stays in it. -/
theorem isPrefix_of_walk {base below : Location}
    (hinside : Path.staysInside below.length names = true)
    (h : tree.walk (base ++ below) names = .ok there) : base <+: there := by
  induction names generalizing below with
  | nil =>
      obtain rfl : base ++ below = there := Except.ok.inj h
      exact List.prefix_append base below
  | cons name names ih =>
      rw [Path.staysInside] at hinside
      obtain ⟨-, ⟨rfl, hnext⟩ | ⟨rfl, hnext⟩ | ⟨hdot, hup, -, -, hnext⟩⟩ :=
        walk_cons_eq_ok_iff.1 h
      · exact ih hinside hnext
      · rw [if_neg (by decide), if_pos rfl, Bool.and_eq_true, decide_eq_true_eq] at hinside
        rcases List.eq_nil_or_concat' below with rfl | ⟨above, last, rfl⟩
        · exact absurd hinside.1 (Nat.lt_irrefl 0)
        · rw [Location.parent, ← List.append_assoc, List.dropLast_concat] at hnext
          exact ih (by simpa using hinside.2) hnext
      · rw [if_neg hdot, if_neg hup] at hinside
        rw [List.append_assoc] at hnext
        exact ih (by simpa using hinside) hnext

/-! ### Places under their own paths -/

/-- The place is reached by its own names, which are no steps. -/
structure Standing (tree : FileTree) (here : Location) : Prop where
  walks : tree.walk [] here = .ok here
  plain : ∀ name ∈ here, Path.Plain name

theorem standing_root : tree.Standing [] := ⟨rfl, by simp⟩

theorem Standing.parent (h : tree.Standing here) : tree.Standing here.parent := by
  rcases List.eq_nil_or_concat' here with rfl | ⟨above, name, rfl⟩
  · exact h
  · rw [Location.parent, List.dropLast_concat]
    have habove : ∀ name ∈ above, Path.Plain name := fun name hname =>
      h.plain name (List.mem_append_left _ hname)
    obtain ⟨place, hplace, -⟩ := walk_append_eq_ok_iff.1 h.walks
    refine ⟨?_, habove⟩
    rw [hplace, eq_append_of_walk habove hplace, List.nil_append]

theorem Standing.directory_parent (h : tree.Standing here) (hne : here ≠ []) :
    tree.node? here.parent = some .directory := by
  rcases List.eq_nil_or_concat' here with rfl | ⟨above, name, rfl⟩
  · exact absurd rfl hne
  · obtain ⟨place, hplace, hlast⟩ := walk_append_eq_ok_iff.1 h.walks
    have hparent := h.parent
    rw [Location.parent, List.dropLast_concat] at hparent ⊢
    obtain rfl := Except.ok.inj (hplace.symm.trans hparent.walks)
    exact (walk_cons_eq_ok_iff.1 hlast).1

theorem Standing.concat (h : tree.Standing here) (hhere : tree.node? here = some .directory)
    (hname : Path.Plain name) (hsize : name.utf8ByteSize ≤ maxNameSize)
    (hnode : ∃ node, tree.node? (here ++ [name]) = some node) : tree.Standing (here ++ [name]) := by
  have hstep : tree.walk here [name] = .ok (here ++ [name]) :=
    walk_cons_eq_ok_iff.2 ⟨hhere, .inr (.inr ⟨hname.notHere, hname.notUp, hsize, hnode, rfl⟩)⟩
  refine ⟨walk_append_eq_ok_iff.2 ⟨here, h.walks, hstep⟩, ?_⟩
  exact List.forall_mem_append.2 ⟨h.plain, List.forall_mem_singleton.2 hname⟩

theorem Standing.walk (h : tree.Standing here)
    (hnames : ∀ name ∈ names, name ≠ "." → name ≠ ".." → Path.Plain name)
    (hwalk : tree.walk here names = .ok there) : tree.Standing there := by
  induction names generalizing here with
  | nil =>
      obtain rfl : here = there := Except.ok.inj hwalk
      exact h
  | cons name names ih =>
      obtain ⟨hname, hrest⟩ := List.forall_mem_cons.1 hnames
      obtain ⟨hhere, ⟨-, hnext⟩ | ⟨-, hnext⟩ | ⟨hdot, hup, hsize, hnode, hnext⟩⟩ :=
        walk_cons_eq_ok_iff.1 hwalk
      · exact ih h hrest hnext
      · exact ih h.parent hrest hnext
      · exact ih (h.concat hhere (hname hdot hup) hsize hnode) hrest hnext

/-! ### Paths -/

theorem checkPath_eq_ok_iff {path : String} :
    checkPath path = .ok () ↔
      '\x00' ∉ path.toList ∧ path.isEmpty = false ∧ path.utf8ByteSize ≤ maxPathSize := by
  simp [checkPath, ite_error_eq_ok_iff]

theorem checkPath_of_join {dir file : String} (hdir : dir.isEmpty = false)
    (hfile : Path.isAbsolute file = false) (h : checkPath (Path.join dir file) = .ok ()) :
    checkPath dir = .ok () := by
  obtain ⟨rest, hjoin⟩ := Path.exists_join_eq_append hdir hfile
  rw [hjoin, checkPath_eq_ok_iff, String.toList_append, List.mem_append, not_or,
    String.utf8ByteSize_append] at h
  exact checkPath_eq_ok_iff.2 ⟨h.1.1, hdir, Nat.le_trans (Nat.le_add_right _ _) h.2.2⟩

theorem resolve_eq_ok_iff {path : String} :
    tree.resolve path = .ok here ↔
      checkPath path = .ok () ∧ tree.walk [] (tree.origin path ++ Path.steps path) = .ok here := by
  rw [resolve, bind_eq_ok_iff]
  exact ⟨fun ⟨(), h⟩ => h, fun h => ⟨(), h⟩⟩

theorem canonicalize_eq_ok_iff {path : String} :
    tree.canonicalize path = .ok here ↔
      tree.resolve path = .ok here ∧ here.path.utf8ByteSize ≤ maxPathSize := by
  simp only [canonicalize, bind_eq_ok_iff, ite_error_eq_ok_iff, Nat.not_lt, Except.ok.injEq]
  constructor
  · rintro ⟨location, hlocation, hsize, rfl⟩
    exact ⟨hlocation, hsize⟩
  · rintro ⟨hhere, hsize⟩
    exact ⟨here, hhere, hsize, rfl⟩

theorem isFile_eq_true_iff {path : String} :
    tree.isFile path = true ↔
      ∃ place content, tree.resolve path = .ok place ∧ tree.node? place = some (.file content) := by
  rw [isFile, find?]
  cases tree.resolve path with
  | error e => simp
  | ok place =>
      cases hnode : tree.node? place with
      | none => simp [hnode]
      | some node => cases node <;> simp [hnode]

theorem isFile_of_readText {path text : String}
    (h : tree.readText path = .ok text) : tree.isFile path = true := by
  obtain ⟨place, hplace, htext⟩ := bind_eq_ok_iff.1 h
  rw [isFile_eq_true_iff]
  rw [textAt] at htext
  split at htext
  · contradiction
  · contradiction
  · contradiction
  · rename_i content hnode
    exact ⟨place, _, hplace, hnode⟩

theorem isDirectory_eq_true_iff {path : String} :
    tree.isDirectory path = true ↔
      ∃ place, tree.resolve path = .ok place ∧ tree.node? place = some .directory := by
  rw [isDirectory, find?]
  cases tree.resolve path with
  | error e => simp
  | ok place => simp

theorem list_eq_ok_iff {path : String} :
    tree.list path = .ok names ↔
      ∃ place, tree.resolve path = .ok place ∧ tree.node? place = some .directory ∧
        tree.namesAt place = names := by
  rw [list, bind_eq_ok_iff]
  refine exists_congr fun place => and_congr_right fun _ => ?_
  cases hnode : tree.node? place with
  | none => simp
  | some node => cases node <;> simp

theorem exists_error_of_not_isDirectory {path : String} (h : tree.isDirectory path = false) :
    ∃ e, tree.list path = .error e := by
  cases hlist : tree.list path with
  | error e => exact ⟨e, rfl⟩
  | ok names =>
      obtain ⟨place, hplace, hnode, -⟩ := list_eq_ok_iff.1 hlist
      rw [isDirectory_eq_true_iff.2 ⟨place, hplace, hnode⟩] at h
      contradiction

theorem plain_of_mem_steps {path : String} (hnull : '\x00' ∉ path.toList)
    (h : name ∈ Path.steps path) (hdot : name ≠ ".") (hup : name ≠ "..") : Path.Plain name := by
  refine Path.plain_of_mem_names hnull ?_ hdot hup
  rw [Path.steps] at h
  split at h
  · rcases List.mem_append.1 h with h | h
    · exact h
    · exact absurd (List.mem_singleton.1 h) hdot
  · exact h

/-- Where names lead from the start of a path stands there under its own names. -/
theorem standing_of_walk_origin (hdir : '\x00' ∉ tree.workingDir.toList) {path : String}
    (hnames : ∀ name ∈ names, name ≠ "." → name ≠ ".." → Path.Plain name)
    (h : tree.walk [] (tree.origin path ++ names) = .ok here) : tree.Standing here := by
  refine standing_root.walk (fun name hname hdot hup => ?_) h
  rcases List.mem_append.1 hname with hname | hname
  · rw [origin] at hname
    split at hname
    · exact absurd hname List.not_mem_nil
    · exact plain_of_mem_steps hdir hname hdot hup
  · exact hnames name hname hdot hup

theorem standing_of_resolve (hdir : '\x00' ∉ tree.workingDir.toList) {path : String}
    (h : tree.resolve path = .ok here) : tree.Standing here := by
  obtain ⟨hcheck, hwalk⟩ := resolve_eq_ok_iff.1 h
  have hnull := (checkPath_eq_ok_iff.1 hcheck).1
  exact standing_of_walk_origin hdir (fun name hname hdot hup =>
    plain_of_mem_steps hnull hname hdot hup) hwalk

theorem Standing.walk_steps_path (h : tree.Standing here)
    (hdir : tree.node? here = some .directory) :
    tree.walk [] (Path.steps here.path) = .ok here := by
  rw [Path.steps, Location.names_path h.plain]
  split
  · exact walk_append_eq_ok_iff.2
      ⟨here, h.walks, walk_cons_eq_ok_iff.2 ⟨hdir, .inl ⟨rfl, rfl⟩⟩⟩
  · exact h.walks

theorem Standing.canonicalize_path (h : tree.Standing here)
    (hdir : tree.node? here = some .directory) (hsize : here.path.utf8ByteSize ≤ maxPathSize) :
    tree.canonicalize here.path = .ok here := by
  have hcheck : checkPath here.path = .ok () :=
    checkPath_eq_ok_iff.2 ⟨Location.null_not_mem_path h.plain, here.isEmpty_path, hsize⟩
  refine canonicalize_eq_ok_iff.2 ⟨resolve_eq_ok_iff.2 ⟨hcheck, ?_⟩, hsize⟩
  rw [origin, if_pos here.isAbsolute_path, List.nil_append]
  exact h.walk_steps_path hdir

/-- The steps of a path are its names, apart from a last dot. -/
theorem walk_names_of_resolve {path : String} (h : tree.resolve path = .ok here) :
    tree.walk [] (tree.origin path ++ Path.names path) = .ok here := by
  have hwalk := (resolve_eq_ok_iff.1 h).2
  rw [Path.steps] at hwalk
  split at hwalk
  · rw [← List.append_assoc] at hwalk
    obtain ⟨place, hplace, hdot⟩ := walk_append_eq_ok_iff.1 hwalk
    obtain ⟨-, ⟨-, hstay⟩ | ⟨hup, -⟩ | ⟨hdot, -⟩⟩ := walk_cons_eq_ok_iff.1 hdot
    · rwa [← Except.ok.inj hstay]
    · exact absurd hup (by decide)
    · exact absurd rfl hdot
  · exact hwalk

/-- A joined path leads on from where the names of its directory lead. -/
theorem exists_walks_of_resolve_join {dir file : String} (hempty : dir.isEmpty = false)
    (hfile : Path.isAbsolute file = false) (h : tree.resolve (Path.join dir file) = .ok there) :
    ∃ place dots, tree.walk [] (tree.origin dir ++ Path.names dir) = .ok place ∧
      (∀ name ∈ dots, name = ".") ∧ Path.names file ++ dots ≠ [] ∧
      tree.walk place (Path.names file ++ dots) = .ok there := by
  obtain ⟨dots, hdots, hsteps, hne⟩ := Path.exists_steps_join hempty hfile
  have horigin : tree.origin (Path.join dir file) = tree.origin dir := by
    rw [origin, Path.isAbsolute_join_eq hempty hfile, origin]
  have hwalk := (resolve_eq_ok_iff.1 h).2
  rw [horigin, hsteps, ← List.append_assoc] at hwalk
  obtain ⟨place, hplace, hrest⟩ := walk_append_eq_ok_iff.1 hwalk
  exact ⟨place, dots, hplace, hdots, hne, hrest⟩

/-- A path seen from a directory leads on from where the directory is. -/
theorem exists_walk_of_resolve_join {dir file : String} (hfile : Path.isAbsolute file = false)
    (hdir : tree.resolve dir = .ok place) (h : tree.resolve (Path.join dir file) = .ok there) :
    ∃ dots, (∀ name ∈ dots, name = ".") ∧ Path.names file ++ dots ≠ [] ∧
      tree.walk place (Path.names file ++ dots) = .ok there := by
  have hempty := (checkPath_eq_ok_iff.1 (resolve_eq_ok_iff.1 hdir).1).2.1
  obtain ⟨middle, dots, hmiddle, hdots, hne, hrest⟩ := exists_walks_of_resolve_join hempty hfile h
  obtain rfl : middle = place := Except.ok.inj (hmiddle.symm.trans (walk_names_of_resolve hdir))
  exact ⟨dots, hdots, hne, hrest⟩

theorem directory_of_walk (hne : names ≠ []) (h : tree.walk here names = .ok there) :
    tree.node? here = some .directory := by
  obtain ⟨first, rest, rfl⟩ := List.exists_cons_of_ne_nil hne
  exact (walk_cons_eq_ok_iff.1 h).1

/-- Only from a directory is anything seen. -/
theorem isDirectory_of_resolve_join {dir file : String} (hempty : dir.isEmpty = false)
    (hfile : Path.isAbsolute file = false) (h : tree.resolve (Path.join dir file) = .ok there) :
    tree.isDirectory dir = true := by
  obtain ⟨place, dots, hplace, -, hne, hrest⟩ := exists_walks_of_resolve_join hempty hfile h
  have hcheck := checkPath_of_join hempty hfile (resolve_eq_ok_iff.1 h).1
  have hnode : tree.node? place = some .directory := directory_of_walk hne hrest
  refine isDirectory_eq_true_iff.2 ⟨place, resolve_eq_ok_iff.2 ⟨hcheck, ?_⟩, hnode⟩
  rw [Path.steps]
  split
  · rw [← List.append_assoc]
    exact walk_append_eq_ok_iff.2
      ⟨place, hplace, walk_cons_eq_ok_iff.2 ⟨hnode, .inl ⟨rfl, rfl⟩⟩⟩
  · exact hplace

/-- What is seen from a directory by a path that does not leave it lies in the directory. -/
theorem isPrefix_of_resolve_join {dir file : String} (hfile : Path.isAbsolute file = false)
    (hinside : Path.staysInside 0 (Path.names file) = true) (hdir : tree.resolve dir = .ok place)
    (h : tree.resolve (Path.join dir file) = .ok there) :
    tree.node? place = some .directory ∧ place <+: there := by
  obtain ⟨dots, hdots, hne, hwalk⟩ := exists_walk_of_resolve_join hfile hdir h
  refine ⟨directory_of_walk hne hwalk, ?_⟩
  rw [← Path.staysInside_append_dots hdots] at hinside
  rw [← List.append_nil place] at hwalk
  exact isPrefix_of_walk (by exact hinside) hwalk

end FileTree

end ShaderAssembly

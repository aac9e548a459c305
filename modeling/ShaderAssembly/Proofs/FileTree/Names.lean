import Mathlib.Data.List.Basic
import ShaderAssembly.FileTree.Path

/-!
# Names in paths

Joining two paths puts their names one after another, whatever slashes stand between and around
them. The path of a location has the names of the location, provided that they are names which a
directory can hold.
-/

namespace ShaderAssembly

namespace Text

theorem splitAll_append_cons (sep : Char) (before after : List Char) :
    splitAll sep (before ++ sep :: after) = splitAll sep before ++ splitAll sep after := by
  induction before with
  | nil => simp [splitAll]
  | cons c before ih =>
      rw [List.cons_append, splitAll, splitAll, ih]
      split
      · rfl
      · cases hsplit : splitAll sep before with
        | nil => exact absurd hsplit (splitAll_ne_nil sep before)
        | cons piece pieces => rfl

theorem splitAll_of_not_mem {sep : Char} {cs : List Char} (h : sep ∉ cs) :
    splitAll sep cs = [cs] := by
  induction cs with
  | nil => rfl
  | cons c cs ih =>
      rw [List.mem_cons, not_or] at h
      rw [splitAll, if_neg (Ne.symm h.1), ih h.2]

theorem mem_of_mem_splitAll {sep c : Char} {cs piece : List Char} (hpiece : piece ∈ splitAll sep cs)
    (hc : c ∈ piece) : c ∈ cs := by
  induction cs generalizing piece with
  | nil =>
      obtain rfl : piece = [] := by simpa [splitAll] using hpiece
      exact absurd hc List.not_mem_nil
  | cons first cs ih =>
      rw [splitAll] at hpiece
      split at hpiece
      · rcases List.mem_cons.1 hpiece with rfl | hpiece
        · exact absurd hc List.not_mem_nil
        · exact List.mem_cons_of_mem _ (ih hpiece hc)
      · split at hpiece
        · obtain rfl := List.mem_singleton.1 hpiece
          exact List.mem_cons.2 (.inl (List.mem_singleton.1 hc))
        · rename_i piece' pieces hsplit
          rcases List.mem_cons.1 hpiece with rfl | hpiece
          · rcases List.mem_cons.1 hc with rfl | hc
            · exact List.mem_cons_self
            · exact List.mem_cons_of_mem _ (ih (by simp [hsplit]) hc)
          · exact List.mem_cons_of_mem _ (ih (by simp [hsplit, hpiece]) hc)

end Text

namespace Path

/-- A name that a directory can hold. -/
structure Plain (name : String) : Prop where
  nonempty : name ≠ ""
  noSlash : '/' ∉ name.toList
  noNull : '\x00' ∉ name.toList
  notHere : name ≠ "."
  notUp : name ≠ ".."

instance (name : String) : Decidable (Plain name) :=
  decidable_of_iff
    (name ≠ "" ∧ '/' ∉ name.toList ∧ '\x00' ∉ name.toList ∧ name ≠ "." ∧ name ≠ "..")
    ⟨fun ⟨hne, hslash, hnull, hhere, hup⟩ => ⟨hne, hslash, hnull, hhere, hup⟩,
      fun h => ⟨h.nonempty, h.noSlash, h.noNull, h.notHere, h.notUp⟩⟩

theorem names_eq (path : String) :
    names path = ((Text.splitAll '/' path.toList).filter (!·.isEmpty)).map String.ofList := rfl

theorem names_append_slash (dir file : String) :
    names (dir ++ "/" ++ file) = names dir ++ names file := by
  have hlist : (dir ++ "/" ++ file).toList = dir.toList ++ '/' :: file.toList := by
    simp [String.toList_append]
  rw [names_eq, names_eq, names_eq, hlist, Text.splitAll_append_cons, List.filter_append,
    List.map_append]

theorem names_empty : names "" = [] := rfl

/-- A path that ends with a slash has the names of what stands before it. -/
theorem exists_of_endsWithSlash {path : String} (h : endsWithSlash path = true) :
    ∃ before, path = before ++ "/" := by
  rw [endsWithSlash, beq_iff_eq, List.getLast?_eq_some_iff] at h
  obtain ⟨before, hbefore⟩ := h
  refine ⟨String.ofList before, String.toList_inj.1 ?_⟩
  rw [hbefore, String.toList_append, String.toList_ofList]
  rfl

theorem names_join {dir file : String} (hdir : dir.isEmpty = false)
    (hfile : isAbsolute file = false) : names (join dir file) = names dir ++ names file := by
  rw [join, hdir, hfile, Bool.or_self, if_neg Bool.false_ne_true]
  split
  · rename_i hslash
    obtain ⟨before, rfl⟩ := exists_of_endsWithSlash hslash
    have hbefore : names (before ++ "/") = names before := by
      rw [← String.append_empty (s := before ++ "/"), names_append_slash, names_empty,
        List.append_nil]
    rw [names_append_slash, hbefore]
  · exact names_append_slash dir file

theorem isAbsolute_append_eq {dir : String} (hdir : dir.isEmpty = false) (rest : String) :
    isAbsolute (dir ++ rest) = isAbsolute dir := by
  rw [isAbsolute, isAbsolute, String.toList_append]
  cases hlist : dir.toList with
  | nil => simp [String.toList_eq_nil_iff.1 hlist] at hdir
  | cons c cs => rfl

theorem isAbsolute_join_eq {dir file : String} (hdir : dir.isEmpty = false)
    (hfile : isAbsolute file = false) : isAbsolute (join dir file) = isAbsolute dir := by
  rw [join, hdir, hfile, Bool.or_self, if_neg Bool.false_ne_true]
  split
  · exact isAbsolute_append_eq hdir file
  · rw [String.append_assoc]
    exact isAbsolute_append_eq hdir _

theorem isAbsolute_join {dir : String} (h : isAbsolute dir = true) (file : String) :
    isAbsolute (join dir file) = true := by
  have hdir : dir.isEmpty = false := by
    rw [Bool.eq_false_iff]
    intro hempty
    rw [String.isEmpty_iff.1 hempty] at h
    contradiction
  cases hfile : isAbsolute file with
  | false => rw [isAbsolute_join_eq hdir hfile, h]
  | true => rw [join, hfile, Bool.true_or, if_pos rfl, hfile]

theorem names_of_plain {name : String} (h : Plain name) : names name = [name] := by
  have hne : name.toList ≠ [] := fun hnil => h.nonempty (String.toList_eq_nil_iff.1 hnil)
  rw [names_eq, Text.splitAll_of_not_mem h.noSlash, List.filter_cons_of_pos (by simpa using hne),
    List.filter_nil, List.map_singleton, String.ofList_toList]

theorem exists_of_mem_names {path name : String} (h : name ∈ names path) :
    name ≠ "" ∧ '/' ∉ name.toList ∧ ∀ c ∈ name.toList, c ∈ path.toList := by
  rw [names_eq, List.mem_map] at h
  obtain ⟨piece, hpiece, rfl⟩ := h
  obtain ⟨hsplit, hne⟩ := List.mem_filter.1 hpiece
  rw [String.toList_ofList]
  refine ⟨fun hempty => ?_, Text.not_mem_of_mem_splitAll hsplit, fun c hc =>
    Text.mem_of_mem_splitAll hsplit hc⟩
  have hnil : piece = [] := by
    rw [← String.toList_ofList (l := piece), hempty]
    rfl
  simp [hnil] at hne

/-- A name of a path that holds no null character is a step or a name for a directory. -/
theorem plain_of_mem_names {path name : String} (hnull : '\x00' ∉ path.toList)
    (h : name ∈ names path) (hhere : name ≠ ".") (hup : name ≠ "..") : Plain name := by
  obtain ⟨hne, hslash, hchars⟩ := exists_of_mem_names h
  exact ⟨hne, hslash, fun hnul => hnull (hchars _ hnul), hhere, hup⟩

/-! ### Extensions -/

theorem extension?_of_not_mem {name : String} (h : '.' ∉ name.toList) : extension? name = none := by
  rw [extension?]
  split
  · rfl
  · rw [Text.splitAll_of_not_mem h]
    rfl

/-- The extension is what stands after the last dot. -/
theorem extension?_of_last_dot {name : String} {stem after : List Char}
    (hname : name.toList = stem ++ '.' :: after) (hlast : '.' ∉ after) (hup : name ≠ "..") :
    extension? name = if stem = [] then none else some (String.ofList after) := by
  rw [extension?, if_neg hup, hname, Text.splitAll_append_cons, Text.splitAll_of_not_mem hlast,
    List.reverse_append, List.reverse_singleton, List.singleton_append]
  by_cases hstem : stem = []
  · subst hstem
    rfl
  · rw [if_neg hstem]
    cases hrest : (Text.splitAll '.' stem).reverse with
    | nil => exact absurd (List.reverse_eq_nil_iff.1 hrest) (Text.splitAll_ne_nil '.' stem)
    | cons piece pieces =>
        have hjoined := Text.joinAll_splitAll '.' stem
        rw [← List.reverse_reverse (Text.splitAll '.' stem), hrest] at hjoined
        cases piece with
        | cons c piece => rfl
        | nil =>
            cases pieces with
            | cons other pieces => rfl
            | nil => exact absurd hjoined.symm hstem

theorem extension?_eq_some_iff {name ext : String} (hup : name ≠ "..") :
    extension? name = some ext ↔
      ∃ stem, stem ≠ "" ∧ name = stem ++ "." ++ ext ∧ '.' ∉ ext.toList := by
  constructor
  · intro h
    have hdot : '.' ∈ name.toList := by
      by_contra hdot
      rw [extension?_of_not_mem hdot] at h
      contradiction
    -- The first dot from the back is the last one.
    obtain ⟨after, stem, hsplit, hlast⟩ := List.eq_append_cons_of_mem (List.mem_reverse.2 hdot)
    have hname : name.toList = stem.reverse ++ '.' :: after.reverse := by
      rw [← List.reverse_reverse name.toList, hsplit]
      simp
    rw [extension?_of_last_dot hname (by simpa using hlast) hup] at h
    obtain ⟨hstem, h⟩ := Option.ite_none_left_eq_some.1 h
    obtain rfl : String.ofList after.reverse = ext := Option.some.inj h
    refine ⟨String.ofList stem.reverse, by simpa using hstem, String.toList_inj.1 ?_, ?_⟩
    · simp [hname]
    · simpa using hlast
  · rintro ⟨stem, hstem, rfl, hlast⟩
    have hname : (stem ++ "." ++ ext).toList = stem.toList ++ '.' :: ext.toList := by simp
    rw [extension?_of_last_dot hname hlast hup, if_neg (by simpa using hstem),
      String.ofList_toList]

end Path

/-! ### The path of a location -/

namespace Location

theorem names_path {location : Location} (h : ∀ name ∈ location, Path.Plain name) :
    Path.names location.path = location := by
  have hintercalate (names : List String) (hnames : ∀ name ∈ names, Path.Plain name) :
      Path.names (String.intercalate "/" names) = names := by
    induction names with
    | nil => rfl
    | cons name names ih =>
        obtain ⟨hname, hrest⟩ := List.forall_mem_cons.1 hnames
        cases names with
        | nil => rw [String.intercalate_singleton, Path.names_of_plain hname]
        | cons next names =>
            rw [String.intercalate_cons_cons, Path.names_append_slash, Path.names_of_plain hname,
              ih hrest, List.singleton_append]
  have hpath : location.path = "" ++ "/" ++ String.intercalate "/" location := by
    rw [String.empty_append]
    rfl
  rw [hpath, Path.names_append_slash, Path.names_empty, List.nil_append, hintercalate location h]

theorem isAbsolute_path (location : Location) : Path.isAbsolute location.path = true := by
  rw [path, Path.isAbsolute_append_eq (by decide)]
  rfl

theorem isEmpty_path (location : Location) : location.path.isEmpty = false := by
  rw [Bool.eq_false_iff]
  intro hempty
  have hlist := congrArg String.toList (String.isEmpty_iff.1 hempty)
  simp [path, String.toList_append] at hlist

theorem null_not_mem_path {location : Location} (h : ∀ name ∈ location, Path.Plain name) :
    '\x00' ∉ location.path.toList := by
  have hintercalate (names : List String) (hnames : ∀ name ∈ names, Path.Plain name) :
      '\x00' ∉ (String.intercalate "/" names).toList := by
    induction names with
    | nil => simp
    | cons name names ih =>
        obtain ⟨hname, hrest⟩ := List.forall_mem_cons.1 hnames
        cases names with
        | nil =>
            rw [String.intercalate_singleton]
            exact hname.noNull
        | cons next names =>
            rw [String.intercalate_cons_cons, String.toList_append, String.toList_append,
              List.mem_append, List.mem_append, not_or, not_or]
            exact ⟨⟨hname.noNull, by decide⟩, ih hrest⟩
  rw [path, String.toList_append, List.mem_append, not_or]
  exact ⟨by decide, hintercalate location h⟩

theorem utf8ByteSize_path_concat_ge (above : Location) (name : String) :
    above.path.utf8ByteSize + name.utf8ByteSize ≤ (path (above ++ [name])).utf8ByteSize := by
  rw [path, path, String.utf8ByteSize_append, String.utf8ByteSize_append, Nat.add_assoc]
  refine Nat.add_le_add_left ?_ _
  by_cases habove : above = []
  · refine Nat.le_of_eq ?_
    rw [habove, String.intercalate_nil, String.utf8ByteSize_empty, Nat.zero_add, List.nil_append,
      String.intercalate_singleton]
  · rw [String.intercalate_append_of_ne_nil habove (by simp), String.utf8ByteSize_append,
      String.utf8ByteSize_append, String.intercalate_singleton]
    omega

theorem utf8ByteSize_path_parent_le (location : Location) :
    location.parent.path.utf8ByteSize ≤ location.path.utf8ByteSize := by
  rcases List.eq_nil_or_concat' location with rfl | ⟨above, name, rfl⟩
  · exact Nat.le_refl _
  · rw [parent, List.dropLast_concat]
    exact Nat.le_trans (Nat.le_add_right _ _) (utf8ByteSize_path_concat_ge above name)

end Location

end ShaderAssembly

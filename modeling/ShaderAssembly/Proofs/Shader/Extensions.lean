import ShaderAssembly.Proofs.Lists.FirstOccurrences
import ShaderAssembly.Shader.Basic

/-!
# What a list of extensions records

A list of extensions is read as the record of a history of mentions: every name that was mentioned
stands in it once, at the place of its first mention and in the mode of its last. One mention more
keeps such a record, and so does taking over another record as a whole, although that one has
already forgotten which modes were overridden: what it forgot decides neither a place nor a mode.
-/

namespace ShaderAssembly

namespace ExtensionList

def names (list : ExtensionList) : List String := list.toList.map (·.1)

/-- The index leads from each name to its place, and from nothing else. -/
def Indexed (list : ExtensionList) : Prop :=
  ∀ (name : String) (place : Nat),
    list.index[name]? = some place ↔ list.names[place]? = some name

/-- Each name mentioned stands in the list once, where it was first mentioned and in the mode it was
last mentioned with. -/
structure Records (list : ExtensionList) (mentions : List (String × ExtensionMode)) : Prop where
  indexed : list.Indexed
  names : list.names = (mentions.map (·.1)).eraseDups
  modes : ∀ entry ∈ list.toList, mentions.reverse.lookup entry.1 = some entry.2

variable {list other : ExtensionList} {mentions more : List (String × ExtensionMode)}

theorem records_empty : empty.Records [] where
  indexed _ _ := by simp [empty, ExtensionList.names, toList]
  names := rfl
  modes _ h := absurd h List.not_mem_nil

/-! ### One mention -/

theorem toList_upsert_known {name : String} {place : Nat} (h : list.index[name]? = some place)
    (mode : ExtensionMode) :
    (list.upsert name mode).toList = list.toList.modify place fun entry => (entry.1, mode) := by
  simp only [upsert, h, toList, Array.toList_modify]

theorem toList_upsert_new {name : String} (h : list.index[name]? = none) (mode : ExtensionMode) :
    (list.upsert name mode).toList = list.toList ++ [(name, mode)] := by
  simp only [upsert, h, toList, Array.toList_push]

theorem names_upsert_known {name : String} {place : Nat} (h : list.index[name]? = some place)
    (mode : ExtensionMode) : (list.upsert name mode).names = list.names := by
  rw [names, toList_upsert_known h, names]
  refine List.ext_getElem? fun other => ?_
  rw [List.getElem?_map, List.getElem?_map, List.getElem?_modify]
  split <;> simp [Function.comp_def]

theorem names_upsert_new {name : String} (h : list.index[name]? = none) (mode : ExtensionMode) :
    (list.upsert name mode).names = list.names ++ [name] := by
  simp [names, toList_upsert_new h]

theorem getElem?_concat_eq_some_iff {names : List String} {name other : String} {place : Nat} :
    (names ++ [name])[place]? = some other
      ↔ names[place]? = some other ∨ (name = other ∧ place = names.length) := by
  rcases Nat.lt_trichotomy place names.length with hlt | rfl | hgt
  · rw [List.getElem?_append_left hlt]
    simp [Nat.ne_of_lt hlt]
  · simp
  · rw [List.getElem?_eq_none (by simp; omega), List.getElem?_eq_none (Nat.le_of_lt hgt)]
    simp [Nat.ne_of_gt hgt]

theorem Indexed.upsert (h : list.Indexed) (name : String) (mode : ExtensionMode) :
    (list.upsert name mode).Indexed := by
  intro other place
  cases hplace : list.index[name]? with
  | some known =>
      rw [names_upsert_known hplace, ← h]
      simp only [ExtensionList.upsert, hplace]
  | none =>
      have hindex : (list.upsert name mode).index[other]?
          = if name = other then some list.names.length else list.index[other]? := by
        simp [ExtensionList.upsert, hplace, Std.HashMap.getElem?_insert, names, toList]
      rw [hindex, names_upsert_new hplace, getElem?_concat_eq_some_iff, ← h]
      by_cases hsame : name = other
      · subst hsame
        simp [hplace, eq_comm]
      · simp [hsame]

theorem Indexed.mem_names_iff (h : list.Indexed) {name : String} :
    name ∈ list.names ↔ ∃ place, list.index[name]? = some place := by
  rw [List.mem_iff_getElem?]
  exact exists_congr fun place => (h name place).symm

theorem Indexed.names_upsert (h : list.Indexed) (name : String) (mode : ExtensionMode) :
    (list.upsert name mode).names
      = if name ∈ list.names then list.names else list.names ++ [name] := by
  cases hplace : list.index[name]? with
  | some place => rw [if_pos (h.mem_names_iff.2 ⟨place, hplace⟩), names_upsert_known hplace]
  | none => rw [if_neg (by simp [h.mem_names_iff, hplace]), names_upsert_new hplace]

/-- A mention leaves the entries of all other names as they are. -/
theorem Indexed.mem_toList_upsert (h : list.Indexed) {name : String} {mode : ExtensionMode}
    {entry : String × ExtensionMode} (hmem : entry ∈ (list.upsert name mode).toList) :
    entry = (name, mode) ∨ (entry ∈ list.toList ∧ entry.1 ≠ name) := by
  cases hplace : list.index[name]? with
  | some place =>
      rw [toList_upsert_known hplace] at hmem
      obtain ⟨found, hfound⟩ := List.mem_iff_getElem?.1 hmem
      rw [List.getElem?_modify] at hfound
      obtain ⟨known, hknown, rfl⟩ := Option.map_eq_some_iff.1 hfound
      have hindex : list.index[known.1]? = some found :=
        (h known.1 found).2 (by rw [names, List.getElem?_map, hknown, Option.map_some])
      by_cases hsame : known.1 = name
      · obtain rfl : place = found := Option.some.inj (hplace.symm.trans (hsame ▸ hindex))
        exact .inl (by rw [if_pos rfl, hsame])
      · have hname : list.names[found]? = some known.1 := (h known.1 found).1 hindex
        rw [if_neg]
        · exact .inr ⟨List.mem_of_getElem? hknown, hsame⟩
        · rintro rfl
          exact hsame (Option.some.inj (hname.symm.trans ((h name place).1 hplace)))
  | none =>
      rw [toList_upsert_new hplace, List.mem_append, List.mem_singleton] at hmem
      rcases hmem with hmem | rfl
      · refine .inr ⟨hmem, ?_⟩
        rintro rfl
        obtain ⟨place, hfound⟩ := h.mem_names_iff.1 (List.mem_map_of_mem hmem)
        rw [hplace] at hfound
        contradiction
      · exact .inl rfl

/-! ### Histories -/

theorem Records.upsert (h : list.Records mentions) (name : String) (mode : ExtensionMode) :
    (list.upsert name mode).Records (mentions ++ [(name, mode)]) := by
  refine ⟨h.indexed.upsert name mode, ?_, fun entry hentry => ?_⟩
  · rw [h.indexed.names_upsert, List.map_append, List.map_singleton, eraseDups_concat, ← h.names]
    exact if_congr (by rw [h.names, List.mem_eraseDups]) rfl rfl
  · rw [List.reverse_append, List.reverse_singleton, List.singleton_append, List.lookup_cons]
    rcases h.indexed.mem_toList_upsert hentry with rfl | ⟨hentry, hne⟩
    · rw [beq_self_eq_true]
    · rw [beq_eq_false_iff_ne.2 hne]
      exact h.modes entry hentry

theorem Records.upsertAll (h : list.Records mentions) (more : List (String × ExtensionMode)) :
    (list.upsertAll more).Records (mentions ++ more) := by
  rw [ExtensionList.upsertAll]
  induction more generalizing list mentions with
  | nil => rwa [List.append_nil]
  | cons mention more ih =>
      have hnext := ih (h.upsert mention.1 mention.2)
      rwa [List.append_assoc, List.singleton_append] at hnext

theorem lookup_eq_none_iff_not_mem {entries : List (String × ExtensionMode)} {name : String} :
    entries.lookup name = none ↔ name ∉ entries.map (·.1) := by
  rw [List.lookup_eq_none_iff, List.mem_map]
  constructor
  · rintro h ⟨entry, hentry, rfl⟩
    exact absurd (beq_self_eq_true entry.1) (by simpa using h entry hentry)
  · intro h entry hentry
    rw [bne_iff_ne]
    rintro rfl
    exact h ⟨entry, hentry, rfl⟩

theorem mem_of_lookup_eq_some {entries : List (String × ExtensionMode)} {name : String}
    {mode : ExtensionMode} (h : entries.lookup name = some mode) : (name, mode) ∈ entries := by
  obtain ⟨before, after, rfl, -⟩ := List.lookup_eq_some_iff.1 h
  exact List.mem_append_right before List.mem_cons_self

theorem lookup_eq_some_of_mem {entries : List (String × ExtensionMode)}
    (hnames : (entries.map (·.1)).Nodup) {entry : String × ExtensionMode} (h : entry ∈ entries) :
    entries.lookup entry.1 = some entry.2 := by
  induction entries with
  | nil => exact absurd h List.not_mem_nil
  | cons first entries ih =>
      rw [List.map_cons, List.nodup_cons] at hnames
      rcases List.mem_cons.1 h with rfl | hmem
      · exact List.lookup_cons_self
      · have hne : entry.1 ≠ first.1 := fun heq =>
          hnames.1 (heq ▸ List.mem_map_of_mem hmem)
        rw [List.lookup_cons, beq_eq_false_iff_ne.2 hne]
        exact ih hnames.2 hmem

/-- Where names are distinct, what is found under a name does not depend on the order. -/
theorem lookup_eq_of_perm {entries entries' : List (String × ExtensionMode)}
    (hnames : (entries.map (·.1)).Nodup) (hperm : entries'.Perm entries) (name : String) :
    entries'.lookup name = entries.lookup name := by
  cases hmode : entries'.lookup name with
  | some mode =>
      exact (lookup_eq_some_of_mem hnames (hperm.mem_iff.1 (mem_of_lookup_eq_some hmode))).symm
  | none =>
      rw [lookup_eq_none_iff_not_mem, (hperm.map _).mem_iff] at hmode
      exact (lookup_eq_none_iff_not_mem.2 hmode).symm

theorem Records.nodup_names (h : list.Records mentions) : list.names.Nodup := by
  rw [h.names]
  exact nodup_eraseDups _

/-- What a record holds under a name is the mode the name was last mentioned with. -/
theorem Records.lookup_toList (h : list.Records mentions) (name : String) :
    list.toList.lookup name = mentions.reverse.lookup name := by
  cases hmode : list.toList.lookup name with
  | some mode => exact (h.modes _ (mem_of_lookup_eq_some hmode)).symm
  | none =>
      have hnames : name ∉ list.names := lookup_eq_none_iff_not_mem.1 hmode
      rw [h.names, List.mem_eraseDups] at hnames
      rw [eq_comm, lookup_eq_none_iff_not_mem, List.map_reverse, List.mem_reverse]
      exact hnames

/-- A record taken over as a whole adds its history. -/
theorem Records.merge (h : list.Records mentions) (hother : other.Records more) :
    (list.upsertAll other.toList).Records (mentions ++ more) := by
  have hall := h.upsertAll other.toList
  refine ⟨hall.indexed, ?_, fun entry hentry => ?_⟩
  · rw [hall.names, List.map_append, List.map_append, ← eraseDups_append_eraseDups _ (more.map _),
      ← hother.names]
    rfl
  · rw [← hall.modes entry hentry, List.reverse_append, List.reverse_append, List.lookup_append,
      List.lookup_append, lookup_eq_of_perm hother.nodup_names (List.reverse_perm _),
      hother.lookup_toList]

/-- What mentions settle on: each name where it was first mentioned, in the mode it was last
mentioned with. -/
def settled (mentions : List (String × ExtensionMode)) : List (String × ExtensionMode) :=
  (mentions.map (·.1)).eraseDups.filterMap fun name =>
    (mentions.reverse.lookup name).map (name, ·)

/-- A record is decided by the history that it records. -/
theorem Records.toList_eq (h : list.Records mentions) : list.toList = settled mentions := by
  have hentries : list.toList.filterMap
      (fun entry => (mentions.reverse.lookup entry.1).map (entry.1, ·)) = list.toList := by
    refine (List.filterMap_congr fun entry hentry => ?_).trans List.filterMap_some
    rw [h.modes entry hentry, Option.map_some]
  rw [settled, ← h.names, ExtensionList.names, List.filterMap_map]
  exact hentries.symm

theorem Records.toList_eq_toList (h : list.Records mentions) (hother : other.Records mentions) :
    other.toList = list.toList := hother.toList_eq.trans h.toList_eq.symm

/-- The end of a history may be gone through once more. -/
theorem Records.toList_eq_of_repeated (h : list.Records (mentions ++ more))
    (hother : other.Records (mentions ++ more ++ more)) : other.toList = list.toList := by
  have hnames : ((mentions ++ more ++ more).map (·.1)).eraseDups
      = ((mentions ++ more).map (·.1)).eraseDups := by
    rw [List.map_append]
    refine eraseDups_append_of_subset ?_
    rw [List.map_append]
    exact List.subset_append_right _ _
  have hmodes (name : String) : (mentions ++ more ++ more).reverse.lookup name
      = (mentions ++ more).reverse.lookup name := by
    rw [List.reverse_append, List.lookup_append, List.reverse_append, List.lookup_append,
      ← Option.or_assoc, Option.or_self]
  simp only [h.toList_eq, hother.toList_eq, settled, hnames, hmodes]

theorem Indexed.get?_eq (h : list.Indexed) {name : String} {place : Nat}
    (hplace : list.index[name]? = some place) :
    ∃ entry ∈ list.toList, entry.1 = name ∧ list.get? name = some entry.2 := by
  have hname := (h name place).1 hplace
  rw [names, List.getElem?_map, Option.map_eq_some_iff] at hname
  obtain ⟨entry, hentry, rfl⟩ := hname
  refine ⟨entry, List.mem_of_getElem? hentry, rfl, ?_⟩
  rw [toList, Array.getElem?_toList] at hentry
  rw [get?, hplace, Option.bind_some, hentry, Option.map_some]

/-- A name is found in the mode it was last mentioned with. -/
theorem Records.get?_eq (h : list.Records mentions) (name : String) :
    list.get? name = mentions.reverse.lookup name := by
  cases hplace : list.index[name]? with
  | some place =>
      obtain ⟨entry, hentry, rfl, hmode⟩ := h.indexed.get?_eq hplace
      rw [hmode, h.modes entry hentry]
  | none =>
      have hnames : name ∉ list.names := by simp [h.indexed.mem_names_iff, hplace]
      rw [get?, hplace, Option.bind_none, ← h.lookup_toList, eq_comm, lookup_eq_none_iff_not_mem]
      exact hnames

end ExtensionList

end ShaderAssembly

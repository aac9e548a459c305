import Mathlib.Data.List.Forall2
import Mathlib.Data.List.Perm.Basic
import Mathlib.Data.List.Sort
import ShaderAssembly.Manifest.Read
import ShaderAssembly.Proofs.Text.ByteOrder
import ShaderAssembly.Proofs.Toml.Keys

/-!
# The order of extensions in a manifest

The table of extensions in a manifest holds each name once, so sorting it by name leaves no choice:
there is one arrangement in the strict order of bytes, and each way of writing the same entries down
is read as this one. This rests on the keys being distinct. A sort that keeps equal names in place
would otherwise show in which order they were written.
-/

namespace ShaderAssembly

/-- The names are in the strict order of their bytes. -/
def ByteSorted (extensions : List (String × ExtensionMode)) : Prop :=
  extensions.Pairwise fun a b => Text.bytes a.1 < Text.bytes b.1

theorem ByteSorted.nodup_names {extensions : List (String × ExtensionMode)}
    (h : ByteSorted extensions) : (extensions.map (·.1)).Nodup := by
  refine List.pairwise_map.2 (h.imp fun hlt heq => ?_)
  rw [heq] at hlt
  exact List.lt_irrefl _ hlt

theorem sortedByName_perm (extensions : List (String × ExtensionMode)) :
    (sortedByName extensions).Perm extensions := List.mergeSort_perm _ _

theorem byteSorted_sortedByName {extensions : List (String × ExtensionMode)}
    (hkeys : (extensions.map (·.1)).Nodup) : ByteSorted (sortedByName extensions) := by
  have hsorted : (sortedByName extensions).Pairwise fun a b => decide (a.1 ≤ b.1) = true := by
    refine List.pairwise_mergeSort (fun a b c hab hbc => ?_) (fun a b => ?_) extensions
    · exact decide_eq_true (le_trans (of_decide_eq_true hab) (of_decide_eq_true hbc))
    · simpa using le_total a.1 b.1
  have hdistinct : (sortedByName extensions).Pairwise fun a b => a.1 ≠ b.1 :=
    List.pairwise_map.1 (((sortedByName_perm extensions).map _).nodup_iff.2 hkeys)
  exact hsorted.imp₂ (fun a b hle hne =>
    Text.bytes_lt_of_lt (lt_of_le_of_ne (of_decide_eq_true hle) hne)) hdistinct

/-- There is one way to put entries in the strict order of bytes. -/
theorem ByteSorted.eq_of_perm {extensions other : List (String × ExtensionMode)}
    (h : ByteSorted extensions) (hother : ByteSorted other) (hperm : extensions.Perm other) :
    extensions = other :=
  hperm.eq_of_pairwise (fun _ _ _ _ hlt hgt => absurd hgt (List.lt_asymm hlt)) h hother

theorem sortedByName_eq_of_perm {extensions other : List (String × ExtensionMode)}
    (hkeys : (extensions.map (·.1)).Nodup) (hperm : extensions.Perm other) :
    sortedByName extensions = sortedByName other :=
  (byteSorted_sortedByName hkeys).eq_of_perm
    (byteSorted_sortedByName ((hperm.map _).nodup_iff.1 hkeys))
    ((sortedByName_perm extensions).trans (hperm.trans (sortedByName_perm other).symm))

/-! ### Reading a dictionary -/

theorem mapM_eq_some_iff {α β : Type} {f : α → Option β} {xs : List α} {ys : List β} :
    xs.mapM f = some ys ↔ List.Forall₂ (fun x y => f x = some y) xs ys := by
  induction xs generalizing ys with
  | nil => simp [eq_comm]
  | cons x xs ih =>
      rw [List.mapM_cons, List.forall₂_cons_left_iff]
      simp only [Option.bind_eq_bind, Option.bind_eq_some_iff, Option.pure_def, Option.some.injEq,
        ih]
      constructor
      · rintro ⟨y, hy, ys, hys, rfl⟩
        exact ⟨y, ys, hy, hys, rfl⟩
      · rintro ⟨y, ys, hy, hys, rfl⟩
        exact ⟨y, hy, ys, hys, rfl⟩

theorem exists_perm_mapM {α β : Type} {f : α → Option β} {xs xs' : List α} {ys : List β}
    (hperm : xs'.Perm xs) (h : xs.mapM f = some ys) :
    ∃ ys', xs'.mapM f = some ys' ∧ ys'.Perm ys := by
  obtain ⟨ys', hys', hys⟩ := List.perm_comp_forall₂ hperm (mapM_eq_some_iff.1 h)
  exact ⟨ys', mapM_eq_some_iff.2 hys', hys⟩

open Toml

theorem map_fst_of_dictionary? {α : Type} {read : Value → Option α} {form : TableForm}
    {entries : Entries} {dictionary : List (String × α)}
    (h : (Value.table form entries).dictionary? read = some dictionary) :
    dictionary.map (·.1) = entries.map (·.1) := by
  rw [← List.forall₂_eq_eq_eq, List.forall₂_map_left_iff, List.forall₂_map_right_iff]
  refine (List.Forall₂.imp (fun entry read hread => ?_) (mapM_eq_some_iff.1 h)).flip
  obtain ⟨value, -, rfl⟩ := Option.map_eq_some_iff.1 hread
  rfl

theorem sortedByName_dictionary?_eq_of_perm {form form' : TableForm} {entries entries' : Entries}
    (hkeys : (entries.map (·.1)).Nodup) (hperm : entries'.Perm entries) :
    ((Value.table form' entries').dictionary? ExtensionMode.ofValue?).map sortedByName
      = ((Value.table form entries).dictionary? ExtensionMode.ofValue?).map sortedByName := by
  cases hread : (Value.table form entries).dictionary? ExtensionMode.ofValue? with
  | some extensions =>
      obtain ⟨extensions', hread', hextensions⟩ := exists_perm_mapM hperm hread
      have hnames : (extensions.map (·.1)).Nodup := by rwa [map_fst_of_dictionary? hread]
      have hdictionary : (Value.table form' entries').dictionary? ExtensionMode.ofValue?
          = some extensions' := hread'
      rw [hdictionary, Option.map_some, Option.map_some,
        sortedByName_eq_of_perm hnames hextensions.symm]
  | none =>
      cases hread' : (Value.table form' entries').dictionary? ExtensionMode.ofValue? with
      | none => rfl
      | some extensions' =>
          obtain ⟨extensions, hsome, -⟩ := exists_perm_mapM hperm.symm hread'
          exact absurd (hread.symm.trans hsome) (by simp)

namespace Manifest

/-- The extensions that a table of a manifest holds, in the order in which their keys stand. -/
def extensionsField (entries : Entries) : Option (List (String × ExtensionMode)) :=
  Fields.withDefault (fun name => entries.lookup name) "extensions" []
    (Value.dictionary? ExtensionMode.ofValue?)

/-- The extensions of a manifest in the order in which its text has them. -/
def writtenExtensions? (text : String) : Option (List (String × ExtensionMode)) :=
  (documentEntries? text).bind extensionsField

/-- Two texts are equal, or are documents that differ at most in the order in which the keys of
their tables of extensions are written. -/
def SameButKeyOrder (text text' : String) : Prop :=
  text' = text ∨ ∃ entries entries', documentEntries? text = some entries ∧
    documentEntries? text' = some entries' ∧
    (∀ name, name ≠ "extensions" → entries'.lookup name = entries.lookup name) ∧
    ∃ form inner form' inner', entries.lookup "extensions" = some (.table form inner) ∧
      entries'.lookup "extensions" = some (.table form' inner') ∧ inner'.Perm inner

theorem parse?_eq_bind (text : String) :
    parse? text
      = (documentEntries? text).bind fun entries => ofValue? (.table .header entries) := by
  rw [parse?, parse?_eq_map]
  cases documentEntries? text <;> rfl

theorem nodup_extensionsField {entries : Entries} (hkeyed : entries.Keyed)
    {written : List (String × ExtensionMode)} (h : extensionsField entries = some written) :
    (written.map (·.1)).Nodup := by
  rw [extensionsField, Fields.withDefault, Fields.optional] at h
  cases hlookup : entries.lookup "extensions" with
  | none =>
      rw [hlookup] at h
      obtain rfl : [] = written := Option.some.inj h
      exact List.nodup_nil
  | some value =>
      obtain ⟨read, hread, rfl⟩ := Option.map_eq_some_iff.1 (hlookup ▸ h)
      obtain ⟨extensions, hextensions, rfl⟩ := Option.map_eq_some_iff.1 hread
      cases value with
      | table form inner =>
          rw [Option.getD_some, map_fst_of_dictionary? hextensions]
          exact (Entries.keyed_table_iff.1 (hkeyed.of_lookup hlookup)).keys
      | _ => simp [Value.dictionary?] at hextensions

/-- The extensions of a manifest are those that its text has, in the strict order of bytes. -/
theorem extensions_of_parse? {text : String} {manifest : Manifest}
    (h : parse? text = some manifest) :
    ∃ written, writtenExtensions? text = some written ∧ manifest.extensions.Perm written ∧
      ByteSorted manifest.extensions := by
  rw [parse?_eq_bind] at h
  obtain ⟨entries, hentries, h⟩ := Option.bind_eq_some_iff.1 h
  simp only [ofValue?, Value.fields?, Option.bind_eq_bind, Option.bind_some,
    Option.bind_eq_some_iff] at h
  obtain ⟨version, -, prelude, -, libraries, -, written, hwritten, macros, -, undefines, -, sources,
    -, h⟩ := h
  obtain rfl := Option.some.inj h
  have hkeys := nodup_extensionsField (keyed_of_documentEntries? hentries) hwritten
  refine ⟨written, ?_, sortedByName_perm written, byteSorted_sortedByName hkeys⟩
  rw [writtenExtensions?, hentries]
  exact hwritten

/-- A manifest depends on its table of extensions only through the sorted extensions. -/
theorem ofValue?_eq_of_fields {form : TableForm} {entries entries' : Entries}
    (hother : ∀ name, name ≠ "extensions" → entries'.lookup name = entries.lookup name)
    (hextensions : (extensionsField entries').map sortedByName
      = (extensionsField entries).map sortedByName) :
    ofValue? (.table form entries') = ofValue? (.table form entries) := by
  have hfield {α : Type} (read : Value → Option α) (name : String) (hname : name ≠ "extensions") :
      Fields.optional (fun name => entries'.lookup name) name read
        = Fields.optional (fun name => entries.lookup name) name read := by
    simp only [Fields.optional, hother name hname]
  have hdefault {α : Type} (read : Value → Option α) (default : α) (name : String)
      (hname : name ≠ "extensions") :
      Fields.withDefault (fun name => entries'.lookup name) name default read
        = Fields.withDefault (fun name => entries.lookup name) name default read := by
    rw [Fields.withDefault, hfield read name hname, Fields.withDefault]
  simp only [ofValue?, Value.fields?, Option.bind_eq_bind, Option.bind_some]
  rw [hfield _ "version" (by decide), hfield _ "pre_added_source" (by decide),
    hdefault _ _ "libraries" (by decide), hdefault _ _ "macros" (by decide),
    hdefault _ _ "undefs" (by decide), hdefault _ _ "sources" (by decide)]
  cases hnew : extensionsField entries' with
  | none =>
      cases hold : extensionsField entries with
      | none =>
          rw [extensionsField] at hnew hold
          rw [hnew, hold]
      | some extensions => simp [hnew, hold] at hextensions
  | some extensions' =>
      cases hold : extensionsField entries with
      | none => simp [hnew, hold] at hextensions
      | some extensions =>
          have hsorted : sortedByName extensions' = sortedByName extensions := by
            simpa [hnew, hold] using hextensions
          rw [extensionsField] at hnew hold
          simp only [hnew, hold, Option.bind_some, hsorted]

/-- The order in which the keys of a table of extensions are written makes no difference. -/
theorem parse?_eq_of_sameButKeyOrder {text text' : String} (h : SameButKeyOrder text text') :
    parse? text' = parse? text := by
  rcases h with rfl | ⟨entries, entries', hold, hnew, hother, form, inner, form', inner', hinner,
    hinner', hperm⟩
  · rfl
  · have hkeyed := Entries.keyed_table_iff.1
      ((keyed_of_documentEntries? hold).of_lookup hinner)
    have hdictionary :
        ((Value.table form' inner').dictionary? ExtensionMode.ofValue?).map sortedByName
          = ((Value.table form inner).dictionary? ExtensionMode.ofValue?).map sortedByName :=
      sortedByName_dictionary?_eq_of_perm hkeyed.keys hperm
    rw [parse?_eq_bind, parse?_eq_bind, hold, hnew, Option.bind_some, Option.bind_some]
    refine ofValue?_eq_of_fields hother ?_
    simpa [extensionsField, Fields.withDefault, Fields.optional, hinner, hinner'] using hdictionary

end Manifest

end ShaderAssembly

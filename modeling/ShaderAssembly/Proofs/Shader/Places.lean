import Mathlib.Logic.Function.Basic
import ShaderAssembly.Proofs.Shader.Extensions
import ShaderAssembly.Proofs.Shader.Remembered

/-!
# Entries and index in step

A list of extensions holds each name twice: in its entries, and in the index that tells its place.
The index is followed without a look whether there is an entry, so the two must never come apart.
Nothing but mentions ever changes a list, and a mention changes both sides alike: a known name keeps
its place, and a new one goes behind all others. A copied shader takes along what was mentioned in
it, and taking over the extensions of a shader is to mention what its list has settled on. So on a
workbench, whatever happened there, each list is what the mentions noted for its shader make of the
empty one.
-/

namespace ShaderAssembly

namespace ExtensionList

/-- The names in the entries are distinct, the index has exactly these names, and it leads from each
to its place. -/
structure InStep (list : ExtensionList) : Prop where
  distinct : list.names.Nodup
  keys : ∀ name, name ∈ list.index ↔ name ∈ list.names
  places : ∀ (place : Nat) (name : String),
    list.names[place]? = some name → list.index[name]? = some place

/-- The list is in step, and answers as the mentions say that were made in it. -/
structure Keeps (list : ExtensionList) (mentions : List (String × ExtensionMode)) : Prop
    extends list.InStep where
  /-- Where the index leads, there is an entry, that of the name. -/
  reads : ∀ (name : String) (place : Nat), list.index[name]? = some place →
    ∃ h : place < list.entries.size, list.entries[place].1 = name
  found : ∀ name, list.get? name = mentions.reverse.lookup name
  order : list.names = (mentions.map (·.1)).eraseDups
  listed : list.toList = settled mentions

variable {list : ExtensionList} {mentions : List (String × ExtensionMode)}

theorem Indexed.nodup_names (h : list.Indexed) : list.names.Nodup := by
  rw [List.nodup_iff_getElem?_ne_getElem?]
  intro i j hij hj hsame
  obtain ⟨name, hname⟩ : ∃ name, list.names[j]? = some name := ⟨_, List.getElem?_eq_getElem hj⟩
  have hfirst : list.index[name]? = some i := (h name i).2 (hsame.trans hname)
  have hsecond : list.index[name]? = some j := (h name j).2 hname
  have heq : i = j := Option.some.inj (hfirst.symm.trans hsecond)
  omega

/-- To be in step is to be inverse to each other. -/
theorem inStep_iff_indexed : list.InStep ↔ list.Indexed := by
  constructor
  · intro h name place
    -- The first clause is not needed here, for it follows from the other two.
    constructor
    · intro hplace
      have hindex : name ∈ list.index := by
        rw [Std.HashMap.mem_iff_isSome_getElem?, hplace, Option.isSome_some]
      obtain ⟨other, hother⟩ := List.mem_iff_getElem?.1 ((h.keys name).1 hindex)
      obtain rfl : place = other :=
        Option.some.inj (hplace.symm.trans (h.places other name hother))
      exact hother
    · exact h.places place name
  · intro h
    refine ⟨h.nodup_names, fun name => ?_, fun place name hname => (h name place).2 hname⟩
    rw [Std.HashMap.mem_iff_isSome_getElem?, Option.isSome_iff_exists, h.mem_names_iff]

theorem Indexed.exists_entry (h : list.Indexed) {name : String} {place : Nat}
    (hplace : list.index[name]? = some place) :
    ∃ h : place < list.entries.size, list.entries[place].1 = name := by
  have hname := (h name place).1 hplace
  rw [names, toList, List.getElem?_map, Array.getElem?_toList, Option.map_eq_some_iff] at hname
  obtain ⟨entry, hentry, rfl⟩ := hname
  obtain ⟨hlt, rfl⟩ := Array.getElem?_eq_some_iff.1 hentry
  exact ⟨hlt, rfl⟩

theorem Records.keeps (h : list.Records mentions) : list.Keeps mentions where
  toInStep := inStep_iff_indexed.2 h.indexed
  reads _ _ hplace := h.indexed.exists_entry hplace
  found := h.get?_eq
  order := h.names
  listed := h.toList_eq

theorem upsertAll_append (list : ExtensionList) (mentions more : List (String × ExtensionMode)) :
    list.upsertAll (mentions ++ more) = (list.upsertAll mentions).upsertAll more :=
  List.foldl_append

theorem keeps_upsertAll (mentions : List (String × ExtensionMode)) :
    (empty.upsertAll mentions).Keeps mentions :=
  (records_empty.upsertAll mentions).keeps

end ExtensionList

/-! ### Many lists -/

namespace Workbench

/-- What was mentioned in each shader, one mention after the other. -/
abbrev Journal := String → List (String × ExtensionMode)

namespace Journal

def empty : Journal := fun _ => []

/-- What was mentioned in a shader once it is changed. -/
def changed (journal : Journal) (name : String) : Change → List (String × ExtensionMode)
  | .clear => []
  | .replaceByText _ => []
  | .setExtension extension mode => journal name ++ [(extension, mode)]
  | .setExtensionsOf other => journal name ++ ExtensionList.settled (journal other)
  | _ => journal name

/-- The journal after a step. A shader that is copied or moved takes along what was mentioned. -/
def step (journal : Journal) : Step → Journal
  | .change name change => Function.update journal name (journal.changed name change)
  | .copy source target => Function.update journal target (journal source)
  | .swap a b => Function.update (Function.update journal a (journal b)) b (journal a)
  | .assemble _ _ => journal
  | .code _ _ => journal

def run (journal : Journal) (steps : List Step) : Journal := steps.foldl step journal

end Journal

/-- Each list is what the mentions in its shader make of the empty one. -/
def Follows (bench : Workbench) (journal : Journal) : Prop :=
  ∀ name, (bench name).extensions = ExtensionList.empty.upsertAll (journal name)

variable {bench : Workbench} {journal : Journal}

theorem follows_start (texts : String → Option String) : (start texts).Follows .empty := by
  intro name
  rw [start]
  cases texts name <;> rfl

theorem Follows.put (h : bench.Follows journal) {shader : Shader}
    {mentions : List (String × ExtensionMode)}
    (hshader : shader.extensions = ExtensionList.empty.upsertAll mentions) (name : String) :
    (bench.put name shader).Follows (Function.update journal name mentions) := by
  intro other
  by_cases hother : other = name
  · rw [hother, put_same, Function.update_self, hshader]
  · rw [put_other hother, Function.update_of_ne hother, h other]

theorem Follows.toList_eq (h : bench.Follows journal) (name : String) :
    (bench name).extensions.toList = ExtensionList.settled (journal name) := by
  rw [h name]
  exact (ExtensionList.keeps_upsertAll (journal name)).listed

theorem Follows.extensions_changed (h : bench.Follows journal) (name : String) (change : Change) :
    (bench.changed name change).extensions
      = ExtensionList.empty.upsertAll (journal.changed name change) := by
  cases change with
  | clear | replaceByText => rfl
  | setExtension extension mode =>
      rw [Journal.changed, ExtensionList.upsertAll_append, ← h name]
      rfl
  | setExtensionsOf other =>
      rw [Journal.changed, ExtensionList.upsertAll_append, ← h name, ← h.toList_eq other]
      rfl
  | setVersion | addBlock | appendBody | define | undefine | dropPrelude => exact h name

theorem Follows.step (h : bench.Follows journal) (s : Step) :
    (bench.step s).1.Follows (journal.step s) := by
  cases s with
  | change name change => exact h.put (h.extensions_changed name change) name
  | copy source target => exact h.put (h source) target
  | swap a b => exact (h.put (h b) a).put (h a) b
  | assemble name resolver => exact h
  | code name resolver =>
      -- Code may be remembered now, but nothing was mentioned.
      have hsame : ((bench name).assembledCode resolver).2.extensions = (bench name).extensions :=
        Shader.assembledCode_unchanged Shader.extensions (fun _ _ => rfl) _ _
      have hput := h.put (hsame.trans (h name)) name
      rwa [Function.update_eq_self] at hput

theorem Follows.run (h : bench.Follows journal) (steps : List Step) :
    (bench.run steps).1.Follows (journal.run steps) := by
  induction steps generalizing bench journal with
  | nil => exact h
  | cons s steps ih => exact ih (h.step s)

/-- **Entries and index stay in step.** Whatever is mentioned in a list, one extension after the
other: its names are distinct, the index has exactly these names and leads from each to its place,
and so there is an entry wherever it leads, that of the name. A name is found in the mode it was
last mentioned with, and not at all if it was never mentioned; the names come in the order of their
first mentions. That holds of all shaders of a workbench at any time. The mentions that count are
those made in the shader itself, also by taking over what another one lists, and those that it took
along when it was copied or moved. -/
theorem lists_stay_in_step :
    (∀ mentions, (ExtensionList.empty.upsertAll mentions).Keeps mentions) ∧
    ∀ (texts : String → Option String) (steps : List Step) (name : String),
      (((start texts).run steps).1 name).extensions
        = ExtensionList.empty.upsertAll (Journal.empty.run steps name) ∧
      (((start texts).run steps).1 name).extensions.Keeps (Journal.empty.run steps name) := by
  refine ⟨ExtensionList.keeps_upsertAll, fun texts steps name => ?_⟩
  have hlist := (follows_start texts).run steps name
  refine ⟨hlist, ?_⟩
  rw [hlist]
  exact ExtensionList.keeps_upsertAll _

/-- Mentions that override others, a copy that goes on, a shader that takes over the extensions of
the copy, and a move. -/
def takingOver : List Step :=
  [.change "p" (.setExtension "A" .enable), .change "p" (.setExtension "B" .warn),
   .change "p" (.setExtension "A" .disable), .copy "p" "q",
   .change "q" (.setExtension "C" .require), .change "r" (.setExtension "B" .require),
   .change "r" (.setExtensionsOf "q"), .change "p" .clear, .swap "r" "p"]

theorem takingOver_stays_in_step :
    let list := (((start fun _ => none).run takingOver).1 "p").extensions
    list.names = ["B", "A", "C"] ∧
    list.index["C"]? = some 2 ∧
    list.get? "A" = some .disable ∧
    list.get? "B" = some .warn ∧
    list.get? "D" = none := by
  intro list
  obtain ⟨-, hlists⟩ := lists_stay_in_step
  obtain ⟨-, hkeeps⟩ := hlists (fun _ => none) takingOver "p"
  have hjournal : Journal.empty.run takingOver "p"
      = [("B", .require), ("A", .disable), ("B", .warn), ("C", .require)] := by decide
  rw [hjournal] at hkeeps
  have hnames : list.names = ["B", "A", "C"] := hkeeps.order
  have hplace : list.index["C"]? = some 2 := hkeeps.places 2 "C" (by rw [hnames]; rfl)
  exact ⟨hnames, hplace, hkeeps.found "A", hkeeps.found "B", hkeeps.found "D"⟩

end Workbench

end ShaderAssembly

import Mathlib.Data.List.Chain
import ShaderAssembly.Proofs.Library.Graph

/-!
# Chains of manifests in progress

The manifests in progress, taken together with the one that is looked at next, always form a path
of the graph: a library is only looked at from the manifest that lists it, and that manifest stands
at the end of the chain. So when the next one is already on the chain, the path has closed, and what
is reported is a cycle of the graph.
-/

namespace ShaderAssembly

theorem transGen_of_isChain_append {α : Type} {edge : α → α → Prop} {chain : List α} {last : α}
    (h : (chain ++ [last]).IsChain edge) {a : α} (hmem : a ∈ chain) :
    Relation.TransGen edge a last := by
  have hpairs := List.isChain_iff_pairwise.1 (h.imp fun _ _ => Relation.TransGen.single)
  exact (List.pairwise_append.1 hpairs).2.2 a hmem last (List.mem_singleton_self last)

namespace Manifest

variable {tree : FileTree}

/-- The chain followed by where the path leads is a path of the graph. -/
def Linked (tree : FileTree) (chain : List Location) (path : String) : Prop :=
  ∀ here, tree.canonicalize path = .ok here → (chain ++ [here]).IsChain tree.LibraryEdge

theorem linked_nil (path : String) : Linked tree [] path :=
  fun here _ => List.isChain_singleton here

theorem Linked.library {chain : List Location} {path : String} {here : Location}
    {manifest : Manifest} (hlinked : Linked tree chain path)
    (hpath : tree.canonicalize path = .ok here) (hread : tree.manifestAt? here = some manifest)
    {library : String} (hmem : library ∈ manifest.libraries) :
    Linked tree (chain ++ [here]) (FileTree.libraryPath here library) := by
  intro target htarget
  refine List.isChain_append.2 ⟨hlinked here hpath, List.isChain_singleton target, ?_⟩
  intro last hlast first hfirst
  obtain rfl : here = last := by simpa using hlast
  obtain rfl : target = first := by simpa using hfirst
  exact ⟨manifest, hread, library, hmem, htarget⟩

/-- A reported chain that goes on from a given one and closes to a cycle of the graph. -/
structure ClosedChain (tree : FileTree) (start chain : List Location) (again : Location) :
    Prop where
  goes_on : start <+: chain ++ [again]
  again_mem : again ∈ chain
  linked : (chain ++ [again]).IsChain tree.LibraryEdge

theorem ClosedChain.shorten {start chain : List Location} {here again : Location}
    (h : ClosedChain tree (start ++ [here]) chain again) : ClosedChain tree start chain again :=
  ⟨(List.prefix_append start [here]).trans h.goes_on, h.again_mem, h.linked⟩

theorem ClosedChain.transGen_again {start chain : List Location} {again : Location}
    (h : ClosedChain tree start chain again) : Relation.TransGen tree.LibraryEdge again again :=
  transGen_of_isChain_append h.linked h.again_mem

theorem ClosedChain.head?_eq {start : Location} {chain : List Location} {again : Location}
    (h : ClosedChain tree [start] chain again) : chain.head? = some start := by
  cases chain with
  | nil => exact absurd h.again_mem List.not_mem_nil
  | cons first chain =>
      obtain rfl : start = first := (List.cons_prefix_cons.1 h.goes_on).1
      rfl

theorem ClosedChain.transGen_start {start : Location} {chain : List Location} {again : Location}
    (h : ClosedChain tree [start] chain again) : Relation.TransGen tree.LibraryEdge start again :=
  transGen_of_isChain_append h.linked (List.mem_of_mem_head? (h.head?_eq ▸ rfl))

theorem load_ne_invalidManifest {path place : String} {fault : ManifestFault} :
    load tree path ≠ .error (.invalidManifest place fault) := by
  unfold load
  cases tree.readText path with
  | error e => simp [Except.mapError, bind, Except.bind]
  | ok text => cases hparse : parse? text <;> simp [Except.mapError, bind, Except.bind, hparse]

/-- What is reported as a cycle is one, and the build came to it along the graph. -/
theorem closedChain_of_buildBelow {chain dirs : List Location} {defaults : Option General}
    {path place : String} {reported : List Location} {again : Location}
    (hlinked : Linked tree chain path)
    (h : buildBelow tree chain dirs defaults path
      = .error (.invalidManifest place (.libraryCycle reported again))) :
    ∃ here, tree.canonicalize path = .ok here ∧
      ClosedChain tree (chain ++ [here]) reported again := by
  refine buildBelow.induct_unfolding tree
    (fun chain _ _ path result => Linked tree chain path →
      result = .error (.invalidManifest place (.libraryCycle reported again)) →
      ∃ here, tree.canonicalize path = .ok here ∧
        ClosedChain tree (chain ++ [here]) reported again)
    (fun chain dir paths _ _ result =>
      (∀ path ∈ paths, Linked tree chain (Path.join dir.path path)) →
      result = .error (.invalidManifest place (.libraryCycle reported again)) →
      ClosedChain tree chain reported again)
    ?unreadable ?cycle ?malformed ?badLibrary ?fault ?built ?noLibrary ?badFirst ?first
    chain dirs defaults path hlinked h
  case unreadable =>
    intro _ _ _ path e _ _ hresult
    exact absurd (Except.error.inj hresult) (by simp)
  case built | noLibrary => intros; contradiction
  case cycle =>
    intro chain _ _ path here hpath hmem hlinked hresult
    obtain ⟨rfl, rfl, rfl⟩ : path = place ∧ chain = reported ∧ here = again := by
      simpa using hresult
    exact ⟨here, hpath, List.prefix_rfl, hmem, hlinked here hpath⟩
  case malformed =>
    intro chain _ _ path here _ _ e hload _ hresult
    obtain rfl : e = _ := Except.error.inj hresult
    exact absurd hload load_ne_invalidManifest
  case badLibrary =>
    intro chain _ _ path here hpath _ manifest hload e hmerge ih hlinked hresult
    have hread := (load_eq_ok_iff hpath manifest).1 hload
    refine ⟨here, hpath, ih (fun library hlibrary => hlinked.library hpath hread hlibrary) ?_⟩
    exact hmerge.trans hresult
  case fault =>
    intro chain _ _ path here _ _ manifest _ merged _ _ shader fault happly _ _ hresult
    obtain ⟨-, rfl⟩ : path = place ∧ fault = .libraryCycle reported again := by
      simpa using hresult
    rcases fault_of_apply (congrArg Prod.snd happly) with h | h <;> contradiction
  case badFirst =>
    intro chain dir _ _ library rest e hbuild ih hlinked hresult
    obtain ⟨here, _, hclosed⟩ := ih (hlinked library (by simp)) (hbuild.trans hresult)
    exact hclosed.shorten
  case first =>
    intro chain dir _ _ library rest _ _ _ _ ih hlinked hresult
    exact ih (fun path hpath => hlinked path (List.mem_cons_of_mem _ hpath)) hresult

end Manifest

end ShaderAssembly

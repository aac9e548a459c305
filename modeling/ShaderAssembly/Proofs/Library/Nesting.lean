import ShaderAssembly.Proofs.Library.Extensions
import ShaderAssembly.Proofs.Manifest.Opening
import ShaderAssembly.Proofs.Shader.Reachable

/-!
# Nested libraries

Merging shaders is associative, and a shader without content changes nothing. Blocks and macro
operations are put one after another, so for them this is plain. Extensions are merged into a list
that has forgotten its own history; but such a list is decided by the history that it records, and
histories are put one after another too. So it makes no difference whether libraries are listed by
a manifest itself or by a library that does nothing but list them.
-/

namespace ShaderAssembly

/-- Both lists record one and the same history. -/
def ExtensionList.SameHistory (list other : ExtensionList) : Prop :=
  ∃ mentions, list.Records mentions ∧ other.Records mentions

theorem ExtensionList.SameHistory.toList_eq {list other : ExtensionList}
    (h : list.SameHistory other) : other.toList = list.toList := by
  obtain ⟨mentions, hlist, hother⟩ := h
  exact hlist.toList_eq_toList hother

namespace Shader

/-- The shaders agree in all sections; what they remember may differ. -/
structure SameContent (shader other : Shader) : Prop where
  version : other.version = shader.version
  prelude : other.prelude = shader.prelude
  extensions : other.extensions.toList = shader.extensions.toList
  macros : other.macros = shader.macros
  blocks : other.blocks = shader.blocks

variable {shader other : Shader} {shaders : List Shader}

/-- Shaders with the same content are the same program. -/
theorem SameContent.assemble_eq (h : shader.SameContent other) (resolver : Resolver) :
    other.assemble resolver = shader.assemble resolver := by
  rw [assemble, assemble, header, header, h.version, h.prelude, h.extensions, h.macros, h.blocks]

/-! ### Merging one after another -/

theorem version_foldl_merge (shaders : List Shader) (shader : Shader) :
    (shaders.foldl merge shader).version = shader.version :=
  foldl_unchanged Shader.version merge (fun _ _ => rfl) shaders shader

theorem prelude_foldl_merge (shaders : List Shader) (shader : Shader) :
    (shaders.foldl merge shader).prelude = shader.prelude :=
  foldl_unchanged Shader.prelude merge (fun _ _ => rfl) shaders shader

/-- Merging shaders adds one history, whatever they are merged into. -/
theorem exists_mentions_foldl_merge (h : ∀ other ∈ shaders, other.HasHistory) :
    ∃ more, ∀ shader mentions, shader.extensions.Records mentions →
      (shaders.foldl merge shader).extensions.Records (mentions ++ more) := by
  induction shaders with
  | nil => exact ⟨[], fun shader mentions hshader => by rwa [List.append_nil]⟩
  | cons first shaders ih =>
      obtain ⟨⟨own, hown⟩, hrest⟩ := List.forall_mem_cons.1 h
      obtain ⟨more, hmore⟩ := ih hrest
      refine ⟨own ++ more, fun shader mentions hshader => ?_⟩
      rw [List.foldl_cons, ← List.append_assoc]
      exact hmore _ _ (hshader.merge hown)

theorem sameContent_merge_assoc {p q r : Shader} (hp : p.HasHistory) (hq : q.HasHistory)
    (hr : r.HasHistory) : ((p.merge q).merge r).SameContent (p.merge (q.merge r)) := by
  obtain ⟨first, hfirst⟩ := hp
  obtain ⟨second, hsecond⟩ := hq
  obtain ⟨third, hthird⟩ := hr
  have hflat : ((p.merge q).merge r).extensions.Records (first ++ second ++ third) :=
    (hfirst.merge hsecond).merge hthird
  have hnested : (p.merge (q.merge r)).extensions.Records (first ++ (second ++ third)) :=
    hfirst.merge (hsecond.merge hthird)
  rw [← List.append_assoc] at hnested
  exact {
    version := rfl
    prelude := rfl
    extensions := hflat.toList_eq_toList hnested
    macros := (List.append_assoc p.macros q.macros r.macros).symm
    blocks := (List.append_assoc p.blocks q.blocks r.blocks).symm }

theorem sameContent_merge_empty (p : Shader) : p.SameContent (p.merge empty) where
  version := rfl
  prelude := rfl
  extensions := rfl
  macros := List.append_nil p.macros
  blocks := List.append_nil p.blocks

theorem toList_empty_merge {q : Shader} (hq : q.HasHistory) :
    (empty.merge q).extensions.toList = q.extensions.toList := by
  obtain ⟨mentions, hmentions⟩ := hq
  exact hmentions.toList_eq_toList (ExtensionList.records_empty.merge hmentions)

/-- Extensions that were just mentioned may be mentioned again. -/
theorem toList_setExtensionsOf_twice {p q : Shader} (hp : p.HasHistory) (hq : q.HasHistory) :
    ((p.setExtensionsOf q).setExtensionsOf q).extensions.toList
      = (p.setExtensionsOf q).extensions.toList := by
  obtain ⟨mentions, hmentions⟩ := hp
  obtain ⟨more, hmore⟩ := hq
  exact (hmentions.merge hmore).toList_eq_of_repeated ((hmentions.merge hmore).merge hmore)

theorem toList_setExtensionsOf_self {p : Shader} (hp : p.HasHistory) :
    (p.setExtensionsOf p).extensions.toList = p.extensions.toList := by
  obtain ⟨mentions, hmentions⟩ := hp
  have honce : p.extensions.Records ([] ++ mentions) := hmentions
  exact honce.toList_eq_of_repeated (honce.merge hmentions)

/-! ### Shaders merged into one before they are merged -/

variable {before inner after : List Shader}

theorem sameHistory_foldl_merge_nested (hshader : shader.HasHistory)
    (hbefore : ∀ other ∈ before, other.HasHistory) (hinner : ∀ other ∈ inner, other.HasHistory)
    (hafter : ∀ other ∈ after, other.HasHistory) :
    ((before ++ inner ++ after).foldl merge shader).extensions.SameHistory
      ((before ++ inner.foldl merge empty :: after).foldl merge shader).extensions := by
  obtain ⟨mentions, hmentions⟩ := hshader
  obtain ⟨first, hfirst⟩ := exists_mentions_foldl_merge hbefore
  obtain ⟨second, hsecond⟩ := exists_mentions_foldl_merge hinner
  obtain ⟨third, hthird⟩ := exists_mentions_foldl_merge hafter
  have hnested : (inner.foldl merge empty).extensions.Records second :=
    hsecond empty [] ExtensionList.records_empty
  refine ⟨mentions ++ first ++ second ++ third, ?_, ?_⟩
  · rw [List.foldl_append, List.foldl_append]
    exact hthird _ _ (hsecond _ _ (hfirst _ _ hmentions))
  · rw [List.foldl_append, List.foldl_cons]
    exact hthird _ _ ((hfirst _ _ hmentions).merge hnested)

theorem sameContent_foldl_merge_nested (hshader : shader.HasHistory)
    (hbefore : ∀ other ∈ before, other.HasHistory) (hinner : ∀ other ∈ inner, other.HasHistory)
    (hafter : ∀ other ∈ after, other.HasHistory) :
    ((before ++ inner ++ after).foldl merge shader).SameContent
      ((before ++ inner.foldl merge empty :: after).foldl merge shader) := by
  have hpart {α : Type} (part : Shader → List α)
      (hmerge : ∀ shader other, part (merge shader other) = part shader ++ part other)
      (hempty : part empty = []) :
      part ((before ++ inner.foldl merge empty :: after).foldl merge shader)
        = part ((before ++ inner ++ after).foldl merge shader) := by
    rw [foldl_at_back hmerge, foldl_at_back hmerge, List.flatMap_append, List.flatMap_append,
      List.flatMap_append, List.flatMap_cons, foldl_at_back hmerge, hempty, List.nil_append,
      List.append_assoc]
  exact {
    version := by rw [version_foldl_merge, version_foldl_merge]
    prelude := by rw [prelude_foldl_merge, prelude_foldl_merge]
    extensions := (sameHistory_foldl_merge_nested hshader hbefore hinner hafter).toList_eq
    macros := hpart Shader.macros (fun _ _ => rfl) rfl
    blocks := hpart Shader.blocks (fun _ _ => rfl) rfl }

end Shader

/-- A manifest adds the same to shaders with the same content. -/
theorem Manifest.sameContent_apply {shader other : Shader} (h : shader.SameContent other)
    (hextensions : shader.extensions.SameHistory other.extensions) (manifest : Manifest)
    (tree : FileTree) (dir : String) (defaults : Option General) :
    (manifest.apply tree dir defaults shader).1.SameContent
      (manifest.apply tree dir defaults other).1 := by
  obtain ⟨mentions, hshader, hother⟩ := hextensions
  exact {
    version := by rw [version_apply, version_apply, h.version]
    prelude := by rw [prelude_apply, prelude_apply, h.prelude]
    extensions := by
      rw [extensions_apply, extensions_apply]
      exact (hshader.upsertAll manifest.extensions).toList_eq_toList
        (hother.upsertAll manifest.extensions)
    macros := by rw [macros_apply, macros_apply, h.macros]
    blocks := by
      rw [apply, apply, blocks_applySources, blocks_applySources, blocks_applyHeader,
        blocks_applyHeader, h.blocks] }

namespace LibraryTree

variable {tree : FileTree}

theorem hasHistory_libraryShader (library : LibraryTree) :
    (library.libraryShader tree).HasHistory := by
  rw [← shader_none]
  exact ⟨_, library.records_shader none⟩

/-- A library that does nothing but list libraries is these libraries, merged. -/
theorem libraryShader_listing (here : Location) (paths : List String)
    (libraries : List LibraryTree) :
    (node here { libraries := paths } libraries).libraryShader tree
      = (libraries.map (libraryShader tree)).foldl Shader.merge .empty := by
  rw [libraryShader, fold_node]
  rfl

/-- Libraries may be listed by the manifest itself or by a library that only lists them. -/
theorem sameContent_shader_nested (tree : FileTree) (defaults : Option General)
    (here inside : Location) (manifest : Manifest) (flat nested paths : List String)
    (before inner after : List LibraryTree) :
    ((node here { manifest with libraries := flat } (before ++ inner ++ after)).shader
        tree defaults).SameContent
      ((node here { manifest with libraries := nested }
        (before ++ node inside { libraries := paths } inner :: after)).shader tree defaults) := by
  have hhistory (libraries : List LibraryTree) :
      ∀ other ∈ libraries.map (libraryShader tree), other.HasHistory := by
    intro other hother
    obtain ⟨library, -, rfl⟩ := List.mem_map.1 hother
    exact library.hasHistory_libraryShader
  have hmerged := Shader.sameContent_foldl_merge_nested Shader.hasHistory_empty (hhistory before)
    (hhistory inner) (hhistory after)
  have hextensions := Shader.sameHistory_foldl_merge_nested Shader.hasHistory_empty
    (hhistory before) (hhistory inner) (hhistory after)
  rw [← libraryShader_listing inside paths, ← List.map_cons, ← List.map_append, ← List.map_append,
    ← List.map_append] at hmerged hextensions
  exact Manifest.sameContent_apply hmerged hextensions manifest tree here.parent.path defaults

end LibraryTree

namespace Shader

/-- **Merging is associative and has a unit.** Both ways of merging three shaders give the same
sections and so the same code, nothing is changed by a shader without content, and what is merged
into such a shader is taken over as it is. Mentioning the extensions of a shader a second time, or
its own, changes nothing. So libraries may be nested or listed flat. -/
theorem merge_associative_with_unit {p q r : Shader} (hp : p.Reachable) (hq : q.Reachable)
    (hr : r.Reachable) :
    ((p.merge q).merge r).SameContent (p.merge (q.merge r)) ∧
    (∀ resolver, (p.merge (q.merge r)).assemble resolver
      = ((p.merge q).merge r).assemble resolver) ∧
    p.SameContent (p.merge empty) ∧
    ((empty.merge q).extensions.toList = q.extensions.toList ∧
      (empty.merge q).macros = q.macros ∧ (empty.merge q).blocks = q.blocks) ∧
    ((p.setExtensionsOf q).setExtensionsOf q).extensions.toList
      = (p.setExtensionsOf q).extensions.toList ∧
    (p.setExtensionsOf p).extensions.toList = p.extensions.toList ∧
    ∀ tree defaults here inside (manifest : Manifest) flat nested paths
        (before inner after : List LibraryTree),
      (LibraryTree.shader tree defaults
        (.node here { manifest with libraries := flat } (before ++ inner ++ after))).SameContent
      (LibraryTree.shader tree defaults
        (.node here { manifest with libraries := nested }
          (before ++ .node inside { libraries := paths } inner :: after))) := by
  have hassoc := sameContent_merge_assoc hp.hasHistory hq.hasHistory hr.hasHistory
  exact ⟨hassoc, hassoc.assemble_eq, sameContent_merge_empty p,
    ⟨toList_empty_merge hq.hasHistory, List.nil_append _, List.nil_append _⟩,
    toList_setExtensionsOf_twice hp.hasHistory hq.hasHistory,
    toList_setExtensionsOf_self hp.hasHistory, LibraryTree.sameContent_shader_nested⟩

/-- Three shaders, each of which shares an extension with either of the others. -/
def overlapping : List Step :=
  [.change "p" (.setExtension "A" .enable), .change "p" (.setExtension "B" .warn),
   .change "q" (.setExtension "B" .require), .change "q" (.setExtension "C" .enable),
   .change "r" (.setExtension "C" .warn), .change "r" (.setExtension "A" .disable),
   .change "p" (.undefine "M"), .change "q" (.define "M" "1" .front),
   .change "r" (.addBlock (.text "r") .back)]

def overlap (name : String) : Shader :=
  ((Workbench.start fun _ => none).run overlapping).1 name

theorem reachable_overlap (name : String) : (overlap name).Reachable :=
  ⟨fun _ => none, overlapping, name, rfl⟩

theorem merge_overlapping_associative :
    (overlap "p").Reachable ∧ (overlap "q").Reachable ∧ (overlap "r").Reachable ∧
    ((overlap "p").merge ((overlap "q").merge (overlap "r"))).extensions.toList
      = [("A", .disable), ("B", .require), ("C", .warn)] ∧
    ((overlap "p").merge ((overlap "q").merge (overlap "r"))).macros
      = [.undefine "M", .define "M" "1"] := by
  obtain ⟨hassoc, -⟩ := merge_associative_with_unit (reachable_overlap "p") (reachable_overlap "q")
    (reachable_overlap "r")
  have hp : (overlap "p").extensions.Records [("A", .enable), ("B", .warn)] :=
    (ExtensionList.records_empty.upsert "A" .enable).upsert "B" .warn
  have hq : (overlap "q").extensions.Records [("B", .require), ("C", .enable)] :=
    (ExtensionList.records_empty.upsert "B" .require).upsert "C" .enable
  have hr : (overlap "r").extensions.Records [("C", .warn), ("A", .disable)] :=
    (ExtensionList.records_empty.upsert "C" .warn).upsert "A" .disable
  refine ⟨reachable_overlap "p", reachable_overlap "q", reachable_overlap "r", ?_, ?_⟩
  · rw [hassoc.extensions]
    exact ((hp.merge hq).merge hr).toList_eq.trans (by decide)
  · rw [hassoc.macros]
    rfl

end Shader

end ShaderAssembly

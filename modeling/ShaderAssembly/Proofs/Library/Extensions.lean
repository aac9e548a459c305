import Mathlib
import ShaderAssembly.Proofs.Library.KeyOrder
import ShaderAssembly.Proofs.Shader.Extensions
import ShaderAssembly.Text.Lines

/-!
# The extensions of a library tree

A library tree mentions extensions in the order in which its manifests are applied: those of its
libraries first, then its own, sorted by name. The shader of the tree records this history, although
it never sees it: what reaches it of a library is the record that the shader of that library keeps.

So the place of a name is decided by the first mention of it anywhere below, and its mode by the
last one. The last mention is that of the manifest itself, if it has one, or else that of the last
library that has one.
-/

namespace ShaderAssembly

namespace LibraryTree

/-- The manifests of a tree, each after those of its libraries. -/
def upward : LibraryTree → List Manifest :=
  fold fun _ manifest below => below.flatten ++ [manifest]

/-- All mentions of extensions in a tree, in order and with repetitions. -/
def mentions (library : LibraryTree) : List (String × ExtensionMode) :=
  library.upward.flatMap Manifest.extensions

/-- The mode of a name: the one that the manifest gives, or else the one that the last library
gives by this same rule. -/
def mode? (name : String) : LibraryTree → Option ExtensionMode :=
  fold fun _ manifest below => (manifest.extensions.lookup name).or (below.reverse.findSome? id)

theorem mentions_node (here : Location) (manifest : Manifest) (libraries : List LibraryTree) :
    (node here manifest libraries).mentions
      = libraries.flatMap mentions ++ manifest.extensions := by
  rw [mentions, upward, fold_node, List.flatMap_append, List.flatMap_singleton, ← List.flatMap_def,
    List.flatMap_assoc]
  rfl

theorem mode?_node (name : String) (here : Location) (manifest : Manifest)
    (libraries : List LibraryTree) :
    (node here manifest libraries).mode? name
      = (manifest.extensions.lookup name).or (libraries.reverse.findSome? (mode? name)) := by
  rw [mode?, fold_node, ← List.map_reverse, List.findSome?_map]
  rfl

/-! ### What a shader records -/

variable {tree : FileTree}

theorem records_foldl_merge {libraries : List LibraryTree}
    (hbelow : ∀ library ∈ libraries,
      (library.libraryShader tree).extensions.Records library.mentions)
    {shader : Shader} {before : List (String × ExtensionMode)}
    (h : shader.extensions.Records before) :
    ((libraries.map (libraryShader tree)).foldl Shader.merge shader).extensions.Records
      (before ++ libraries.flatMap mentions) := by
  induction libraries generalizing shader before with
  | nil => simpa using h
  | cons library libraries ih =>
      obtain ⟨hfirst, hrest⟩ := List.forall_mem_cons.1 hbelow
      rw [List.map_cons, List.foldl_cons, List.flatMap_cons, ← List.append_assoc]
      exact ih hrest (h.merge hfirst)

/-- A shader records all mentions of extensions in its library tree. -/
theorem records_shader (library : LibraryTree) (defaults : Option General) :
    (library.shader tree defaults).extensions.Records library.mentions := by
  induction library generalizing defaults with
  | node here manifest libraries ih =>
      have hbelow : ∀ library ∈ libraries,
          (library.libraryShader tree).extensions.Records library.mentions := by
        intro library hlibrary
        rw [← shader_none]
        exact ih library hlibrary none
      have hstart : Shader.empty.extensions.Records [] := ExtensionList.records_empty
      rw [shader, Manifest.extensions_apply, mentions_node]
      exact (records_foldl_merge hbelow hstart).upsertAll manifest.extensions

theorem lookup_flatMap {α : Type} (name : String) (entries : α → List (String × ExtensionMode))
    (items : List α) :
    (items.flatMap entries).lookup name
      = items.findSome? fun item => (entries item).lookup name := by
  induction items with
  | nil => rfl
  | cons item items ih =>
      rw [List.flatMap_cons, List.lookup_append, ih, List.findSome?_cons]
      cases (entries item).lookup name <;> rfl

/-- The last mention of a name has the mode that the rule gives. -/
theorem lookup_reverse_mentions {library : LibraryTree}
    (hnames : ∀ node ∈ library.nodes, (node.2.extensions.map (·.1)).Nodup) (name : String) :
    library.mentions.reverse.lookup name = library.mode? name := by
  induction library with
  | node here manifest libraries ih =>
      rw [nodes_node, List.forall_mem_cons] at hnames
      rw [mentions_node, mode?_node, List.reverse_append, List.lookup_append, List.reverse_flatMap,
        lookup_flatMap, ExtensionList.lookup_eq_of_perm hnames.1 (List.reverse_perm _)]
      congr 1
      rw [← List.head?_filterMap, ← List.head?_filterMap]
      refine congrArg List.head? (List.filterMap_congr fun library hlibrary => ?_)
      have hmem := List.mem_reverse.1 hlibrary
      exact ih library hmem fun node hnode =>
        hnames.2 node (List.mem_flatMap.2 ⟨library, hmem, hnode⟩)

end LibraryTree

namespace Manifest

variable {tree : FileTree}

theorem extensions_of_manifestAt? {here : Location} {manifest : Manifest}
    (h : tree.manifestAt? here = some manifest) :
    ∃ text written, tree.textAt here = .ok text ∧ writtenExtensions? text = some written ∧
      manifest.extensions.Perm written ∧ ByteSorted manifest.extensions := by
  rw [FileTree.manifestAt?] at h
  cases htext : tree.textAt here with
  | error e => simp [htext] at h
  | ok text =>
      rw [htext] at h
      obtain ⟨written, hwritten, hperm, hsorted⟩ := extensions_of_parse? h
      exact ⟨text, written, rfl, hwritten, hperm, hsorted⟩

/-- **Which extensions a shader has.** Its manifests mention their extensions one after another,
libraries first, each in the strict order of the bytes of their names. The shader has every name
once, where it is first mentioned, in the mode of its last mention: that of the manifest, or else
that of its last library to give one. In which order the keys of a table are written makes no
difference. -/
theorem build_records_extensions {path : String} {general : General} {shader : Shader}
    (h : build tree path general = .ok shader) :
    ∃ library : LibraryTree, library.Unfolds tree ∧ tree.canonicalize path = .ok library.root ∧
      (∀ node ∈ library.nodes, ∃ text written, tree.textAt node.1 = .ok text ∧
        writtenExtensions? text = some written ∧ node.2.extensions.Perm written ∧
        ByteSorted node.2.extensions) ∧
      shader.extensions.names = (library.mentions.map (·.1)).eraseDups ∧
      shader.extensions.names.Nodup ∧
      (∀ entry ∈ shader.extensions.toList,
        library.mentions.reverse.lookup entry.1 = some entry.2) ∧
      (∀ name, shader.extensionMode? name = library.mode? name) ∧
      ∀ tree', tree.SameButKeyOrder tree' → build tree' path general = .ok shader := by
  obtain ⟨library, hunfolds, -, hroot, rfl⟩ := build_eq_ok_iff.1 h
  have hrecords : (library.shader tree (some general)).extensions.Records library.mentions :=
    library.records_shader (some general)
  have hread := fun node (hnode : node ∈ library.nodes) =>
    extensions_of_manifestAt? (hunfolds.read_of_mem hnode)
  refine ⟨library, hunfolds, hroot, hread, hrecords.names, hrecords.nodup_names, hrecords.modes,
    fun name => ?_, fun tree' hsame => hsame.buildsAlike.build h⟩
  rw [Shader.extensionMode?, hrecords.get?_eq, LibraryTree.lookup_reverse_mentions]
  intro node hnode
  obtain ⟨text, written, -, -, -, hsorted⟩ := hread node hnode
  exact hsorted.nodup_names

/-- Two libraries and a manifest that mention three extensions, given the text of the manifest. -/
def overriddenModes (text : String) : FileTree :=
  ⟨"/", [
    (["m.toml"], .file (.text text)),
    (["a.toml"], .file (.text (Text.ofLines
      ["[extensions]", "GL_C = 'enable'", "GL_A = 'disable'"]))),
    (["b.toml"], .file (.text (Text.ofLines ["[extensions]", "GL_C = 'warn'"])))]⟩

def warnThenRequire : String :=
  Text.ofLines
    ["libraries = ['a.toml', 'b.toml']", "[extensions]", "GL_B = 'warn'", "GL_A = 'require'"]

def requireThenWarn : String :=
  Text.ofLines
    ["libraries = ['a.toml', 'b.toml']", "[extensions]", "GL_A = 'require'", "GL_B = 'warn'"]

theorem sameButKeyOrder_warnThenRequire : SameButKeyOrder warnThenRequire requireThenWarn := by
  -- Equality of TOML values is not decided, so the entries are evaluated by `cbv`. It takes the
  -- equations of what a scanner uses from where they are, which is all over the library.
  refine .inr ⟨
    [("libraries", .array .inline [.string "a.toml", .string "b.toml"]),
      ("extensions", .table .header [("GL_B", .string "warn"), ("GL_A", .string "require")])],
    [("libraries", .array .inline [.string "a.toml", .string "b.toml"]),
      ("extensions", .table .header [("GL_A", .string "require"), ("GL_B", .string "warn")])],
    by cbv, by cbv, fun name hname => ?_, _, _, _, _, rfl, rfl, .swap _ _ []⟩
  simp only [List.lookup_cons, beq_eq_false_iff_ne.2 hname]

theorem sameButKeyOrder_overriddenModes :
    (overriddenModes warnThenRequire).SameButKeyOrder (overriddenModes requireThenWarn) where
  workingDir := rfl
  nodes here := by
    by_cases hhere : here = ["m.toml"]
    · subst hhere
      exact .inr ⟨_, _, rfl, rfl, sameButKeyOrder_warnThenRequire⟩
    · left
      simp only [FileTree.node?, overriddenModes, List.lookup_cons, beq_eq_false_iff_ne.2 hhere]

def disablesA : LibraryTree :=
  .node ["a.toml"] { extensions := [("GL_A", .disable), ("GL_C", .enable)] } []

def warnsC : LibraryTree := .node ["b.toml"] { extensions := [("GL_C", .warn)] } []

def requiresA : LibraryTree :=
  .node ["m.toml"]
    { libraries := ["a.toml", "b.toml"]
      extensions := [("GL_A", .require), ("GL_B", .warn)] } [disablesA, warnsC]

theorem build_overriddenModes_records :
    ∃ shader, build (overriddenModes warnThenRequire) "m.toml" {} = .ok shader ∧
      shader.extensions.names = ["GL_A", "GL_C", "GL_B"] ∧
      shader.extensionMode? "GL_A" = some .require ∧
      shader.extensionMode? "GL_B" = some .warn ∧
      shader.extensionMode? "GL_C" = some .warn ∧
      build (overriddenModes requireThenWarn) "m.toml" {} = .ok shader := by
  have hfirst : disablesA.Unfolds (overriddenModes warnThenRequire) := .leaf (by cbv) rfl
  have hsecond : warnsC.Unfolds (overriddenModes warnThenRequire) := .leaf (by cbv) rfl
  have hwhole : requiresA.Unfolds (overriddenModes warnThenRequire) :=
    .node (by cbv) (by decide +kernel) (by simpa using ⟨hfirst, hsecond⟩)
  have hgood : disablesA.Faultless ∧ warnsC.Faultless :=
    ⟨LibraryTree.faultless_leaf (by decide), LibraryTree.faultless_leaf (by decide)⟩
  have hbuilt : build (overriddenModes warnThenRequire) "m.toml" {} = .ok _ :=
    build_eq_ok_iff.2 ⟨requiresA, hwhole,
      LibraryTree.faultless_node.2 ⟨by decide, by simpa using hgood⟩, by decide +kernel, rfl⟩
  obtain ⟨library, hunfolds, hroot, -, hnames, -, -, hmode, hreordered⟩ :=
    build_records_extensions hbuilt
  obtain rfl : library = requiresA := hunfolds.unique hwhole
    (Except.ok.inj (hroot.symm.trans (by decide +kernel)))
  have hmentions : requiresA.mentions = [("GL_A", .disable), ("GL_C", .enable), ("GL_C", .warn),
      ("GL_A", .require), ("GL_B", .warn)] := by
    simp [requiresA, disablesA, warnsC, LibraryTree.mentions_node]
  refine ⟨_, hbuilt, ?_, ?_, ?_, ?_, hreordered _ sameButKeyOrder_overriddenModes⟩
  · rw [hnames, hmentions]
    decide
  all_goals
    rw [hmode]
    simp [requiresA, disablesA, warnsC, LibraryTree.mode?_node, List.lookup_cons]

end Manifest

end ShaderAssembly

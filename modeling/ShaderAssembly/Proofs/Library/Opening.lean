import ShaderAssembly.Proofs.FileTree.Alike
import ShaderAssembly.Proofs.Library.Sources
import ShaderAssembly.Proofs.Manifest.Opening

/-!
# How far versions and preludes reach

A library is applied to a shader like any manifest, so its shader gets a version and may lose its
prelude. Merging then takes over the body and the extensions only. Neither the way through the
libraries nor an error asks for an opening, so two builds whose manifests differ in nothing but
openings go along the same way and give the same, except for the opening of the manifest on top. By
the same argument the defaults, which that manifest alone is given, reach nothing else.
-/

namespace ShaderAssembly

section Results

variable {α β ε : Type} {f : α → β} {x y : Except ε α}

theorem eq_error_of_map_eq (h : x.map f = y.map f) {e : ε} (hy : y = .error e) : x = .error e := by
  cases x <;> simp_all [Except.map]

theorem exists_eq_ok_of_map_eq (h : x.map f = y.map f) {a : α} (hy : y = .ok a) :
    ∃ b, x = .ok b ∧ f b = f a := by
  cases x <;> simp_all [Except.map]

end Results

/-- Both texts are manifests that differ at most in their openings, or neither is a manifest. -/
def Manifest.SameButOpening (text text' : String) : Prop :=
  (parse? text').map withoutOpening = (parse? text).map withoutOpening

namespace FileTree

/-- The two trees are the same, apart from the openings of manifests. -/
structure SameButOpenings (tree tree' : FileTree) : Prop where
  workingDir : tree'.workingDir = tree.workingDir
  nodes : ∀ here, tree'.node? here = tree.node? here ∨
    ∃ text text', tree.node? here = some (.file (.text text)) ∧
      tree'.node? here = some (.file (.text text')) ∧ Manifest.SameButOpening text text'

/-- The two trees are the same, apart from the openings of manifests other than the one that a path
leads to. -/
structure SameButOtherOpenings (tree tree' : FileTree) (path : String) : Prop
    extends tree.SameButOpenings tree' where
  top : ∀ here, tree.canonicalize path = .ok here → tree'.node? here = tree.node? here

variable {tree tree' : FileTree}

theorem SameButOpenings.refl (tree : FileTree) : tree.SameButOpenings tree :=
  ⟨rfl, fun _ => .inl rfl⟩

theorem SameButOpenings.sameFiles (h : tree.SameButOpenings tree') : tree.SameFiles tree' where
  workingDir := h.workingDir
  nodes here := (h.nodes here).imp_right fun ⟨_, _, hnode, hnode', _⟩ => ⟨_, _, hnode, hnode'⟩

theorem SameButOpenings.load (h : tree.SameButOpenings tree') (path : String) :
    (Manifest.load tree' path).map Manifest.withoutOpening
      = (Manifest.load tree path).map Manifest.withoutOpening := by
  rw [Manifest.load, Manifest.load, readText, readText, h.sameFiles.resolve]
  cases tree.resolve path with
  | error e => rfl
  | ok here =>
      rcases h.nodes here with hnode | ⟨text, text', hnode, hnode', hsame⟩
      · simp only [bind, Except.bind, textAt, hnode]
      · simp only [bind, Except.bind, textAt, hnode, hnode', Except.mapError]
        rw [Manifest.SameButOpening] at hsame
        cases hread : Manifest.parse? text <;> cases hread' : Manifest.parse? text' <;>
          simp_all [Except.map]

theorem SameButOpenings.exists_load (h : tree.SameButOpenings tree') {path : String}
    {manifest : Manifest} (hload : Manifest.load tree path = .ok manifest) :
    ∃ manifest', Manifest.load tree' path = .ok manifest' ∧
      manifest'.libraries = manifest.libraries ∧
      manifest'.withoutOpening = manifest.withoutOpening := by
  obtain ⟨manifest', hload', hsame⟩ := exists_eq_ok_of_map_eq (h.load path) hload
  refine ⟨manifest', hload', ?_, hsame⟩
  change manifest'.withoutOpening.libraries = manifest.withoutOpening.libraries
  rw [hsame]

theorem SameButOtherOpenings.load {path : String} (h : tree.SameButOtherOpenings tree' path)
    {manifest : Manifest} {here : Location} (hpath : tree.canonicalize path = .ok here)
    (hload : Manifest.load tree path = .ok manifest) :
    Manifest.load tree' path = .ok manifest := by
  have hpath' : tree'.canonicalize path = .ok here := h.sameFiles.canonicalize ▸ hpath
  rw [Manifest.load_eq_ok_iff hpath] at hload
  rwa [Manifest.load_eq_ok_iff hpath', manifestAt?, textAt, h.top here hpath]

end FileTree

namespace Manifest

variable {tree tree' : FileTree}

/-- What a build gives, apart from the opening of its shader. -/
def unopened (result : Except SetupError (Shader × List Location)) :
    Except SetupError (Shader × List Location) :=
  result.map (Prod.map Shader.withoutOpening id)

theorem unopened_conclude (path : String) (dirs : List Location)
    (applied : Shader × Option ManifestFault) :
    unopened (conclude path dirs applied)
      = conclude path dirs (Prod.map Shader.withoutOpening id applied) := by
  obtain ⟨shader, fault⟩ := applied
  cases fault <;> rfl

/-- Merging takes nothing from the opening of the other shader. -/
theorem merge_eq_of_withoutOpening_eq {built built' : Shader}
    (h : built'.withoutOpening = built.withoutOpening) (shader : Shader) :
    shader.merge built' = shader.merge built := by
  change shader.merge built'.withoutOpening = shader.merge built.withoutOpening
  rw [h]

/-- Past the libraries, a manifest and its counterpart act alike on all but the opening. -/
theorem unopened_buildBelow_of_merged (h : tree.SameButOpenings tree')
    {chain dirs dirs₁ : List Location} {path : String} {here : Location} {manifest : Manifest}
    {merged : Shader} (hpath : tree.canonicalize path = .ok here) (hoff : here ∉ chain)
    (hload : load tree path = .ok manifest)
    (hmerge : mergeLibraries tree' (chain ++ [here]) here.parent manifest.libraries
      (withDirectory dirs here.parent) .empty = .ok (merged, dirs₁))
    (defaults defaults' : Option General) {applied : Shader × Option ManifestFault}
    (happly : manifest.apply tree here.parent.path defaults merged = applied) :
    unopened (buildBelow tree' chain dirs defaults' path)
      = unopened (conclude path dirs₁ applied) := by
  obtain ⟨manifest', hload', hlibraries, hsame⟩ := h.exists_load hload
  rw [buildBelow_eq_of_merged (h.sameFiles.canonicalize ▸ hpath) hoff hload' (hlibraries ▸ hmerge),
    unopened_conclude, unopened_conclude, ← happly, withoutOpening_apply, withoutOpening_apply,
    apply_congr h.sameFiles.isFile, hsame]

theorem buildBelow_sameButOpenings (h : tree.SameButOpenings tree') (chain dirs : List Location)
    (defaults defaults' : Option General) (path : String) :
    unopened (buildBelow tree' chain dirs defaults' path)
      = unopened (buildBelow tree chain dirs defaults path) := by
  refine buildBelow.induct_unfolding tree
    (fun chain dirs _ path result => ∀ defaults',
      unopened (buildBelow tree' chain dirs defaults' path) = unopened result)
    (fun chain dir paths dirs shader result =>
      mergeLibraries tree' chain dir paths dirs shader = result)
    ?unreadable ?cycle ?malformed ?badLibrary ?fault ?built ?noLibrary ?badFirst ?first
    chain dirs defaults path defaults'
  case unreadable =>
    intro chain dirs defaults path e hpath defaults'
    rw [buildBelow_eq, h.sameFiles.canonicalize, hpath]
  case cycle =>
    intro chain dirs defaults path here hpath hon defaults'
    rw [buildBelow_of_mem_chain (h.sameFiles.canonicalize ▸ hpath) hon]
  case malformed =>
    intro chain dirs defaults path here hpath hoff e hload defaults'
    have hload' : load tree' path = .error e := eq_error_of_map_eq (h.load path) hload
    rw [buildBelow_eq, h.sameFiles.canonicalize, hpath]
    simp only [if_neg hoff, hload']
  case badLibrary =>
    intro chain dirs defaults path here hpath hoff manifest hload e hmerge ih defaults'
    obtain ⟨manifest', hload', hlibraries, -⟩ := h.exists_load hload
    rw [buildBelow_of_load (h.sameFiles.canonicalize ▸ hpath) hoff hload', hlibraries, ih, hmerge]
  case fault =>
    intro chain dirs defaults path here hpath hoff manifest hload merged dirs₁ hmerge shader fault
      happly ih defaults'
    exact unopened_buildBelow_of_merged h hpath hoff hload (ih.trans hmerge) defaults defaults'
      happly
  case built =>
    intro chain dirs defaults path here hpath hoff manifest hload merged dirs₁ hmerge shader
      happly ih defaults'
    exact unopened_buildBelow_of_merged h hpath hoff hload (ih.trans hmerge) defaults defaults'
      happly
  case noLibrary =>
    intro chain dir dirs shader
    rw [mergeLibraries]
  case badFirst =>
    intro chain dir dirs shader path rest e hbuilt ih
    rw [mergeLibraries, eq_error_of_map_eq (ih none) hbuilt]
  case first =>
    intro chain dir dirs shader path rest built dirs₁ hbuilt ihFirst ihRest
    obtain ⟨⟨built', dirs'⟩, hbuilt', hsame⟩ := exists_eq_ok_of_map_eq (ihFirst none) hbuilt
    obtain ⟨hopening, rfl⟩ : built'.withoutOpening = built.withoutOpening ∧ dirs' = dirs₁ := by
      simpa using hsame
    rw [mergeLibraries, hbuilt', ← ihRest]
    exact congrArg (mergeLibraries tree' chain dir rest dirs')
      (merge_eq_of_withoutOpening_eq hopening shader)

/-! ### The manifest on top -/

variable {path : String} {general : General} {shader : Shader} {dirs : List Location}

theorem opening_of_buildTracked (h : buildTracked tree path general = .ok (shader, dirs)) :
    ∃ here manifest, tree.canonicalize path = .ok here ∧ load tree path = .ok manifest ∧
      shader.version = manifest.version.getD general.defaultVersion ∧
      shader.prelude = manifest.prelude.getD general.prelude ∧ shader.assembled = none := by
  obtain ⟨library, hunfolds, -, hpath, rfl, -⟩ := buildTracked_eq_ok_iff.1 h
  refine ⟨library.root, library.manifest, hpath, (load_eq_ok_iff hpath _).2 hunfolds.read, ?_, ?_,
    library.assembled_shader tree _⟩
  · rw [LibraryTree.shader, version_apply]
    cases hversion : library.manifest.version <;> simp [effectiveVersion, hversion]
  · rw [LibraryTree.shader, prelude_apply,
      foldl_unchanged Shader.prelude Shader.merge fun _ _ => rfl]
    cases hprelude : library.manifest.prelude <;> simp [effectivePrelude, hprelude, Shader.empty]

/-- With the same manifest on top, two builds differ only in what that manifest leaves open. -/
theorem buildTracked_of_sameButOpenings (h : tree.SameButOpenings tree')
    (hbuilt : buildTracked tree path general = .ok (shader, dirs)) {manifest : Manifest}
    (hload : load tree' path = .ok manifest) (general' : General) :
    buildTracked tree' path general' = .ok
      ({ shader with
          version := manifest.version.getD general'.defaultVersion
          prelude := manifest.prelude.getD general'.prelude }, dirs) := by
  have hsame := buildBelow_sameButOpenings h [] [] (some general) (some general') path
  obtain ⟨⟨shader', dirs'⟩, hbuilt', heq⟩ := exists_eq_ok_of_map_eq hsame hbuilt
  obtain ⟨hclosed, rfl⟩ : shader'.withoutOpening = shader.withoutOpening ∧ dirs' = dirs := by
    simpa using heq
  obtain ⟨-, -, -, -, -, -, hforgotten⟩ := opening_of_buildTracked hbuilt
  obtain ⟨-, manifest', -, hload', hversion, hprelude, hforgotten'⟩ :=
    opening_of_buildTracked hbuilt'
  obtain rfl : manifest' = manifest := Except.ok.inj (hload'.symm.trans hload)
  rw [buildTracked, hbuilt', ← hversion, ← hprelude]
  exact congrArg (fun shader => Except.ok (shader, dirs'))
    (Shader.eq_of_withoutOpening_eq hclosed (hforgotten'.trans hforgotten.symm))

/-- **How far openings reach.** Versions and preludes of libraries make no difference at all: the
build gives the same shader and directories, or the same error. The defaults fill in the version
and the prelude that the manifest on top leaves open; nothing else depends on them. -/
theorem buildTracked_confines_openings (tree : FileTree) (path : String) (general : General) :
    (∀ tree', tree.SameButOtherOpenings tree' path →
      buildTracked tree' path general = buildTracked tree path general) ∧
    ∀ general',
      (∀ e, buildTracked tree path general = .error e →
        buildTracked tree path general' = .error e) ∧
      ∀ shader dirs, buildTracked tree path general = .ok (shader, dirs) →
        ∃ manifest, load tree path = .ok manifest ∧
          buildTracked tree path general' = .ok
            ({ shader with
                version := if manifest.version.isSome then shader.version
                  else general'.defaultVersion
                prelude := if manifest.prelude.isSome then shader.prelude else general'.prelude },
              dirs) := by
  constructor
  · intro tree' hsame
    cases hbuilt : buildTracked tree path general with
    | error e =>
        exact eq_error_of_map_eq (buildBelow_sameButOpenings hsame.toSameButOpenings [] [] _ _ path)
          hbuilt
    | ok built =>
        obtain ⟨here, manifest, hpath, hload, hversion, hprelude, -⟩ :=
          opening_of_buildTracked hbuilt
        rw [buildTracked_of_sameButOpenings hsame.toSameButOpenings hbuilt (hsame.load hpath hload)
          general, ← hversion, ← hprelude]
  · intro general'
    refine ⟨fun e hfailed => ?_, fun shader dirs hbuilt => ?_⟩
    · exact eq_error_of_map_eq (buildBelow_sameButOpenings (.refl tree) [] [] _ _ path) hfailed
    · obtain ⟨here, manifest, -, hload, hversion, hprelude, -⟩ := opening_of_buildTracked hbuilt
      refine ⟨manifest, hload, ?_⟩
      rw [buildTracked_of_sameButOpenings (.refl tree) hbuilt hload, hversion, hprelude]
      cases manifest.version <;> cases manifest.prelude <;> rfl

/-- A manifest that states a version, with a library of the given text. -/
def buildsOn (library : String) : FileTree :=
  ⟨"/", [
    (["m.toml"], .file (.text "version = '330'\nlibraries = ['l.toml']")),
    (["l.toml"], .file (.text library))]⟩

def removesOnly : String := "undefs = ['A']"

def opensAndRemoves : String := "version = '450'\npre_added_source = false\nundefs = ['A']"

def removesOnlyLeaf : LibraryTree := .node ["l.toml"] { undefines := ["A"] } []

def buildsOnRemovesOnly : LibraryTree :=
  .node ["m.toml"] { version := some "330", libraries := ["l.toml"] } [removesOnlyLeaf]

theorem sameButOtherOpenings_buildsOn :
    (buildsOn removesOnly).SameButOtherOpenings (buildsOn opensAndRemoves) "m.toml" where
  workingDir := rfl
  nodes here := by
    by_cases hhere : here = ["l.toml"]
    · subst hhere
      refine .inr ⟨removesOnly, opensAndRemoves, rfl, rfl, ?_⟩
      unfold SameButOpening
      decide +kernel
    · have hne : (here == ["l.toml"]) = false := beq_eq_false_iff_ne.2 hhere
      refine .inl ?_
      simp only [FileTree.node?, buildsOn, List.lookup_cons, hne]
  top here hpath := by
    have htop : (buildsOn removesOnly).canonicalize "m.toml" = .ok ["m.toml"] := by decide +kernel
    obtain rfl : ["m.toml"] = here := Except.ok.inj (htop.symm.trans hpath)
    rfl

theorem buildTracked_opensAndRemoves_confined :
    ∃ shader dirs, shader.macros = [.undefine "A"] ∧
      buildTracked (buildsOn removesOnly) "m.toml" {} = .ok (shader, dirs) ∧
      buildTracked (buildsOn opensAndRemoves) "m.toml" {} = .ok (shader, dirs) ∧
      buildTracked (buildsOn removesOnly) "m.toml" { defaultVersion := "100", prelude := false }
        = .ok ({ shader with prelude := false }, dirs) := by
  have hleaf : removesOnlyLeaf.Unfolds (buildsOn removesOnly) := .leaf (by decide +kernel) rfl
  have hwhole : buildsOnRemovesOnly.Unfolds (buildsOn removesOnly) :=
    .node (by decide +kernel) (by decide +kernel) (by simpa using hleaf)
  have hleafGood : removesOnlyLeaf.Faultless := LibraryTree.faultless_leaf (by decide)
  have hgood : buildsOnRemovesOnly.Faultless :=
    LibraryTree.faultless_node.2 ⟨by decide, by simpa using hleafGood⟩
  have hpath : (buildsOn removesOnly).canonicalize "m.toml" = .ok ["m.toml"] := by decide +kernel
  have hbuilt : buildTracked (buildsOn removesOnly) "m.toml" {} = .ok (_, _) :=
    buildTracked_eq_ok_iff.2 ⟨buildsOnRemovesOnly, hwhole, hgood, hpath, rfl, rfl⟩
  obtain ⟨hother, hdefaults⟩ := buildTracked_confines_openings (buildsOn removesOnly) "m.toml" {}
  obtain ⟨manifest, hload, hbuilt'⟩ :=
    (hdefaults { defaultVersion := "100", prelude := false }).2 _ _ hbuilt
  obtain rfl : buildsOnRemovesOnly.manifest = manifest :=
    Option.some.inj (hwhole.read.symm.trans ((load_eq_ok_iff hpath manifest).1 hload))
  refine ⟨_, _, ?_, hbuilt, (hother _ sameButOtherOpenings_buildsOn).trans hbuilt, hbuilt'⟩
  rw [(layered_macros (buildsOn removesOnly)).shader_eq hgood, buildsOnRemovesOnly, removesOnlyLeaf,
    LibraryTree.layout_node]
  simp only [List.flatMap_cons, List.flatMap_nil, LibraryTree.layout_node]
  rfl

end Manifest

end ShaderAssembly

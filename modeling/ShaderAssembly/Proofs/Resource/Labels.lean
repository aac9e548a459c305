import ShaderAssembly.Proofs.FileTree.Proper
import ShaderAssembly.Proofs.Resource.Registered
import ShaderAssembly.Proofs.Shader.Resolution

/-!
# What a label stands for

The table of a configuration is filled by two loops of overwriting insertions, over the directories
and over the names in each. A directory may list its names in any order, and it makes no difference:
a name in a directory is that of one file, so what is inserted under it is overwritten by another
text only in a later directory. The bundled texts are safe, for their labels have a slash, and no
name in a directory has one.
-/

namespace ShaderAssembly

theorem isResourceName_iff {name : String} :
    isResourceName name = true ↔ ∃ stem, stem ≠ "" ∧ name = stem ++ ".glsl" := by
  have hup (stem : String) : stem ++ ".glsl" ≠ ".." := by
    intro h
    have hlength := congrArg (fun name : String => name.toList.length) h
    simp at hlength
  rw [isResourceName, beq_iff_eq]
  by_cases hname : name = ".."
  · subst hname
    simp [Path.extension?, Ne.symm (hup _)]
  · rw [Path.extension?_eq_some_iff hname]
    simp [String.append_assoc]

theorem find?_reverse_cons {α : Type} (p : α → Bool) (x : α) (xs : List α) :
    (x :: xs).reverse.find? p = (xs.reverse.find? p).or (if p x then some x else none) := by
  rw [List.reverse_cons, List.find?_append, List.find?_singleton]

namespace FileTree

/-- The names in a directory, and none if there is no such directory. -/
def listed (tree : FileTree) (dir : String) : List String := (tree.list dir).toOption.getD []

/-- A directory has a file under a name that is a stem with the ending `.glsl`. -/
structure HoldsResource (tree : FileTree) (dir name : String) : Prop where
  listed : name ∈ tree.listed dir
  file : tree.isFile (Path.join dir name) = true
  named : ∃ stem, stem ≠ "" ∧ name = stem ++ ".glsl"

/-- A directory has such a file that is no UTF-8 text. -/
def HoldsNonText (tree : FileTree) (dir : String) : Prop :=
  ∃ name, tree.HoldsResource dir name ∧ tree.readText (Path.join dir name) = .error .notText

variable {tree : FileTree} {dir path : String} {names : List String}

theorem holdsResource_iff {name : String} :
    tree.HoldsResource dir name ↔ name ∈ tree.listed dir ∧ tree.isResource dir name = true := by
  rw [isResource, Bool.and_eq_true, isResourceName_iff]
  constructor
  · rintro ⟨hlisted, hfile, hnamed⟩
    exact ⟨hlisted, hfile, hnamed⟩
  · rintro ⟨hlisted, hfile, hnamed⟩
    exact ⟨hlisted, hfile, hnamed⟩

instance (tree : FileTree) (dir name : String) : Decidable (tree.HoldsResource dir name) :=
  decidable_of_iff _ holdsResource_iff.symm

instance (tree : FileTree) (dir : String) : Decidable (tree.HoldsNonText dir) :=
  decidable_of_iff
    (∃ name ∈ tree.listed dir,
      tree.HoldsResource dir name ∧ tree.readText (Path.join dir name) = .error .notText)
    ⟨fun ⟨name, _, h⟩ => ⟨name, h⟩, fun ⟨name, h⟩ => ⟨name, h.1.listed, h⟩⟩

theorem listed_of_list (h : tree.list dir = .ok names) : tree.listed dir = names := by
  rw [listed, h]
  rfl

/-- In whichever order a directory lists its names, they tell which resources it holds. -/
theorem holdsResource_iff_of_list {order : List String} (hlist : tree.list dir = .ok names)
    (horder : order.Perm names) (name : String) :
    tree.HoldsResource dir name ↔ name ∈ order ∧ tree.isResource dir name = true := by
  rw [holdsResource_iff, listed_of_list hlist, horder.mem_iff]

theorem listed_of_not_isDirectory (h : tree.isDirectory dir = false) : tree.listed dir = [] := by
  obtain ⟨e, hlist⟩ := exists_error_of_not_isDirectory h
  rw [listed, hlist]
  rfl

/-- What keeps a file from being read is that it is no text. -/
theorem eq_notText_of_isFile {e : FileError} (hfile : tree.isFile path = true)
    (hread : tree.readText path = .error e) : e = .notText := by
  obtain ⟨place, content, hplace, hnode⟩ := isFile_eq_true_iff.1 hfile
  rw [readText, hplace] at hread
  simp only [bind, Except.bind, textAt, hnode] at hread
  cases content with
  | text text => contradiction
  | bytes bytes => exact (Except.error.inj hread).symm

end FileTree

namespace ResourceTable

variable {tree : FileTree} {dir : String} {table loaded : ResourceTable} {names : List String}

theorem error_of_loadNames {e : FileError} (h : (loadNames tree dir names table).2 = .error e) :
    ∃ name ∈ names, tree.isResource dir name = true ∧
      tree.readText (Path.join dir name) = .error e := by
  induction names generalizing table with
  | nil => cases h
  | cons name names ih =>
      rw [loadNames_cons] at h
      split at h
      · rename_i hkept
        split at h
        · rename_i e' hread
          obtain rfl : e' = e := Except.error.inj h
          exact ⟨name, List.mem_cons_self, hkept, hread⟩
        · rename_i text hread
          have hrest : (loadNames tree dir names (table.insert name text)).2 = .error e := by
            cases hrest : (loadNames tree dir names (table.insert name text)).2 <;>
              simp_all [Except.map]
          obtain ⟨other, hother, hfound⟩ := ih hrest
          exact ⟨other, List.mem_cons_of_mem _ hother, hfound⟩
      · obtain ⟨other, hother, hfound⟩ := ih h
        exact ⟨other, List.mem_cons_of_mem _ hother, hfound⟩

theorem readable_of_loadNames {count : Nat}
    (h : loadNames tree dir names table = (loaded, .ok count)) {name : String}
    (hname : name ∈ names) (hkept : tree.isResource dir name = true) :
    ∃ text, tree.readText (Path.join dir name) = .ok text := by
  obtain ⟨entries, hentries, -, -⟩ := loadNames_eq_ok_iff.1 h
  have hfile : ⟨dir, name⟩ ∈ (names.filter (tree.isResource dir)).map (ResourceFile.mk dir) :=
    List.mem_map_of_mem (List.mem_filter.2 ⟨hname, hkept⟩)
  obtain ⟨entry, -, hread⟩ := exists_of_mem_of_forall₂ hentries hfile
  exact ⟨entry.2, hread⟩

/-- Whatever keeps a directory from being registered is a file in it that is no text. -/
theorem holdsNonText_of_loadNames {order : List String} {e : FileError}
    (hlist : tree.list dir = .ok names) (horder : order.Perm names)
    (h : (loadNames tree dir order table).2 = .error e) :
    e = .notText ∧ tree.HoldsNonText dir := by
  obtain ⟨name, hname, hkept, hread⟩ := error_of_loadNames h
  have hholds := (FileTree.holdsResource_iff_of_list hlist horder name).2 ⟨hname, hkept⟩
  obtain rfl := FileTree.eq_notText_of_isFile hholds.file hread
  exact ⟨rfl, name, hholds, hread⟩

theorem not_holdsNonText_of_loadNames {order : List String} {count : Nat}
    (hlist : tree.list dir = .ok names) (horder : order.Perm names)
    (h : loadNames tree dir order table = (loaded, .ok count)) : ¬ tree.HoldsNonText dir := by
  rintro ⟨name, hholds, hread⟩
  obtain ⟨hmem, hkept⟩ := (FileTree.holdsResource_iff_of_list hlist horder name).1 hholds
  obtain ⟨text, htext⟩ := readable_of_loadNames h hmem hkept
  rw [hread] at htext
  contradiction

/-- Each label has the text of the file of that name, in whichever order the names come. -/
theorem get?_of_loadNames {count : Nat}
    (h : loadNames tree dir names table = (loaded, .ok count)) (label : String) :
    (loaded.get? label).map Except.ok
      = if label ∈ names ∧ tree.isResource dir label = true
        then some (tree.readText (Path.join dir label)) else (table.get? label).map Except.ok := by
  induction names generalizing table count with
  | nil =>
      obtain ⟨rfl, -⟩ : table = loaded ∧ 0 = count := by simpa [loadNames_nil] using h
      simp
  | cons name names ih =>
      rw [loadNames_cons] at h
      split at h
      · rename_i hkept
        split at h
        · simp at h
        · rename_i text hread
          obtain ⟨more, hrest⟩ : ∃ more,
              loadNames tree dir names (table.insert name text) = (loaded, .ok more) := by
            cases hrest : loadNames tree dir names (table.insert name text) with
            | mk after result => cases result <;> simp_all [Except.map]
          rw [ih hrest, get?_insert]
          by_cases hlabel : name = label
          · subst hlabel
            simp [hkept, hread]
          · simp [hlabel, Ne.symm hlabel]
      · rename_i hkept
        rw [ih h]
        by_cases hlabel : label = name
        · subst hlabel
          simp [hkept]
        · simp [hlabel]

theorem get?_bundled_of_mem {resource : BundledResource} (h : resource ∈ bundledResources) :
    bundled.get? resource.label = some resource.text := by
  simp only [bundledResources, List.mem_cons, List.not_mem_nil, or_false] at h
  simp only [bundled, bundledResources, List.foldl_cons, List.foldl_nil, get?_insert]
  rcases h with rfl | rfl | rfl <;> rfl

theorem get?_bundled_eq_none {label : String}
    (h : ∀ resource ∈ bundledResources, resource.label ≠ label) : bundled.get? label = none := by
  have hempty : empty.get? label = none := by simp [empty, get?]
  simp only [bundledResources, List.forall_mem_cons] at h
  obtain ⟨hcolor, hfullscreen, hmath, -⟩ := h
  simp only [bundled, bundledResources, List.foldl_cons, List.foldl_nil, get?_insert, if_neg hcolor,
    if_neg hfullscreen, if_neg hmath, hempty]

end ResourceTable

namespace Config

/-- What the directories may add to a table, each listing its names in any order. -/
inductive Gathers (tree : FileTree) :
    List String → ResourceTable → Except SetupError ResourceTable → Prop where
  | done {table : ResourceTable} : Gathers tree [] table (.ok table)
  | skip {dir : String} {dirs : List String} {table : ResourceTable}
      {result : Except SetupError ResourceTable} (noDirectory : tree.isDirectory dir = false)
      (rest : Gathers tree dirs table result) : Gathers tree (dir :: dirs) table result
  | fail {dir : String} {dirs names order : List String} {table loaded : ResourceTable}
      {e : FileError} (list : tree.list dir = .ok names) (enumerated : order.Perm names)
      (load : ResourceTable.loadNames tree dir order table = (loaded, .error e)) :
      Gathers tree (dir :: dirs) table (.error (.unreadable dir e))
  | load {dir : String} {dirs names order : List String} {table loaded : ResourceTable}
      {count : Nat} {result : Except SetupError ResourceTable}
      (list : tree.list dir = .ok names) (enumerated : order.Perm names)
      (load : ResourceTable.loadNames tree dir order table = (loaded, .ok count))
      (rest : Gathers tree dirs loaded result) : Gathers tree (dir :: dirs) table result

/-- What setting up the resolver may give, each directory listing its names in any order. -/
def MayResolve (config : Config) (tree : FileTree) (result : Except SetupError Resolver) : Prop :=
  ∃ gathered, Gathers tree config.paths.resourceDirs .bundled gathered ∧
    gathered.map (.ofFilesAndTable config.search tree) = result

variable {tree : FileTree} {dirs : List String} {table : ResourceTable}
  {result : Except SetupError ResourceTable}

theorem gathers_addDirectories (tree : FileTree) (dirs : List String) (table : ResourceTable) :
    Gathers tree dirs table (addDirectories tree dirs table) := by
  induction dirs generalizing table with
  | nil => exact .done
  | cons dir dirs ih =>
      rw [addDirectories]
      cases hdir : tree.isDirectory dir with
      | false => exact .skip hdir (ih table)
      | true =>
          obtain ⟨place, hplace, hnode⟩ := FileTree.isDirectory_eq_true_iff.1 hdir
          have hlist := FileTree.list_eq_ok_iff.2 ⟨place, hplace, hnode, rfl⟩
          have hload : table.loadDirectory tree dir
              = ResourceTable.loadNames tree dir (tree.namesAt place) table := by
            rw [ResourceTable.loadDirectory, hlist]
          rw [if_pos rfl, hload]
          cases hnames : ResourceTable.loadNames tree dir (tree.namesAt place) table with
          | mk loaded result =>
              cases result with
              | error e => exact .fail hlist (.refl _) hnames
              | ok count => exact .load hlist (.refl _) hnames (ih loaded)

/-- Whichever way the directories list their names, the first one with a file that is no text is
reported, and otherwise the last one that has a label decides it. -/
theorem Gathers.decides (h : Gathers tree dirs table result) :
    (∀ dir, dirs.find? tree.HoldsNonText = some dir → result = .error (.unreadable dir .notText)) ∧
    (dirs.find? tree.HoldsNonText = none → ∃ loaded, result = .ok loaded ∧ ∀ label,
      (loaded.get? label).map Except.ok
        = ((dirs.reverse.find? (tree.HoldsResource · label)).map fun dir =>
            tree.readText (Path.join dir label)).or ((table.get? label).map Except.ok)) := by
  induction h with
  | done => simp
  | @skip dir dirs table result noDirectory rest ih =>
      have hlisted := FileTree.listed_of_not_isDirectory noDirectory
      have hnone (label : String) : ¬ tree.HoldsResource dir label := fun hholds =>
        List.not_mem_nil (hlisted ▸ hholds.listed)
      have htexts : ¬ tree.HoldsNonText dir := fun ⟨name, hholds, _⟩ => hnone name hholds
      rw [List.find?_cons_of_neg (by simpa using htexts)]
      simpa [find?_reverse_cons, hnone] using ih
  | @fail dir dirs names order table loaded e list enumerated load =>
      obtain ⟨rfl, hnonText⟩ :=
        ResourceTable.holdsNonText_of_loadNames list enumerated (congrArg Prod.snd load)
      rw [List.find?_cons_of_pos (by simpa using hnonText)]
      simp
  | @load dir dirs names order table loaded count result list enumerated load rest ih =>
      have hholds := FileTree.holdsResource_iff_of_list list enumerated
      have htexts := ResourceTable.not_holdsNonText_of_loadNames list enumerated load
      rw [List.find?_cons_of_neg (by simpa using htexts)]
      refine ⟨ih.1, fun hfirst => ?_⟩
      obtain ⟨gathered, rfl, htable⟩ := ih.2 hfirst
      refine ⟨gathered, rfl, fun label => ?_⟩
      rw [htable, ResourceTable.get?_of_loadNames load, find?_reverse_cons]
      simp only [← hholds]
      by_cases hlabel : tree.HoldsResource dir label <;> simp [hlabel]

/-- A name in a directory has no slash, so it is no label of a bundled text. -/
theorem not_holdsResource_of_bundled (htree : tree.Proper) {resource : BundledResource}
    (hbundled : resource ∈ bundledResources) (dir : String) :
    ¬ tree.HoldsResource dir resource.label := by
  intro hholds
  have hslash : ∀ resource ∈ bundledResources, '/' ∈ resource.label.toList := by decide
  have hlisted := hholds.listed
  rw [FileTree.listed] at hlisted
  cases hlist : tree.list dir with
  | error e => simp [hlist, Except.toOption] at hlisted
  | ok names =>
      obtain ⟨place, -, -, rfl⟩ := FileTree.list_eq_ok_iff.1 hlist
      rw [hlist] at hlisted
      exact (htree.plain_of_mem_namesAt hlisted).noSlash (hslash resource hbundled)

/-- The text of a label that is not bundled, in the last directory that has it. -/
def lastText? (tree : FileTree) (dirs : List String) (label : String) :
    Option (Except FileError String) :=
  (dirs.reverse.find? (tree.HoldsResource · label)).map fun dir =>
    tree.readText (Path.join dir label)

/-- What the resolver is like once it is set up. -/
structure Serves (config : Config) (tree : FileTree) (resolver : Resolver) : Prop where
  files : resolver.fileText = config.search.fileText tree
  bundled : ∀ resource ∈ bundledResources, resolver.resourceText resource.label = some resource.text
  listed : ∀ label, (∀ resource ∈ bundledResources, resource.label ≠ label) →
    (resolver.resourceText label).map Except.ok = lastText? tree config.paths.resourceDirs label

theorem MayResolve.decides {config : Config} {result : Except SetupError Resolver}
    (h : config.MayResolve tree result) (htree : tree.Proper) :
    (∀ dir, config.paths.resourceDirs.find? tree.HoldsNonText = some dir →
      result = .error (.unreadable dir .notText)) ∧
    (config.paths.resourceDirs.find? tree.HoldsNonText = none →
      ∃ resolver, result = .ok resolver ∧ config.Serves tree resolver) := by
  obtain ⟨gathered, hgathered, rfl⟩ := h
  refine ⟨fun dir hfirst => ?_, fun hfirst => ?_⟩
  · rw [hgathered.decides.1 dir hfirst]
    rfl
  · obtain ⟨loaded, rfl, htable⟩ := hgathered.decides.2 hfirst
    refine ⟨_, rfl, rfl, fun resource hresource => ?_, fun label hlabel => ?_⟩
    · have hnone : config.paths.resourceDirs.reverse.find?
          (fun dir => tree.HoldsResource dir resource.label) = none := by
        simp [not_holdsResource_of_bundled htree hresource]
      have htext := htable resource.label
      rw [hnone, ResourceTable.get?_bundled_of_mem hresource] at htext
      exact Option.map_injective (fun _ _ => Except.ok.inj) htext
    · have htext := htable label
      rw [ResourceTable.get?_bundled_eq_none hlabel, Option.map_none, Option.or_none] at htext
      exact htext

theorem Serves.unique {config : Config} {resolver resolver' : Resolver}
    (h : config.Serves tree resolver) (h' : config.Serves tree resolver') :
    resolver = resolver' := by
  have hfiles : resolver.fileText = resolver'.fileText := h.files.trans h'.files.symm
  have hresources : resolver.resourceText = resolver'.resourceText := by
    funext label
    by_cases hbundled : ∃ resource ∈ bundledResources, resource.label = label
    · obtain ⟨resource, hresource, rfl⟩ := hbundled
      rw [h.bundled resource hresource, h'.bundled resource hresource]
    · have hlabel : ∀ resource ∈ bundledResources, resource.label ≠ label := by simpa using hbundled
      exact Option.map_injective (fun _ _ => Except.ok.inj)
        ((h.listed label hlabel).trans (h'.listed label hlabel).symm)
  cases resolver
  cases resolver'
  simp only [Resolver.mk.injEq]
  exact ⟨hfiles, hresources⟩

theorem mayResolve_resolver (config : Config) (tree : FileTree) :
    config.MayResolve tree (config.resolver tree) :=
  ⟨_, gathers_addDirectories tree _ _, rfl⟩

theorem MayResolve.eq_resolver {config : Config} {result : Except SetupError Resolver}
    (h : config.MayResolve tree result) (htree : tree.Proper) : result = config.resolver tree := by
  obtain ⟨hfailed, hserved⟩ := h.decides htree
  obtain ⟨hfailed', hserved'⟩ := (mayResolve_resolver config tree).decides htree
  cases hfirst : config.paths.resourceDirs.find? tree.HoldsNonText with
  | some dir => rw [hfailed dir hfirst, hfailed' dir hfirst]
  | none =>
      obtain ⟨resolver, rfl, hserves⟩ := hserved hfirst
      obtain ⟨resolver', hresolver', hserves'⟩ := hserved' hfirst
      rw [hresolver', hserves.unique hserves']

/-- The configuration without the resource directories that are none. -/
def onlyDirectories (config : Config) (tree : FileTree) : Config :=
  { config with paths :=
    { config.paths with resourceDirs := config.paths.resourceDirs.filter tree.isDirectory } }

theorem addDirectories_filter (tree : FileTree) (dirs : List String) (table : ResourceTable) :
    addDirectories tree (dirs.filter tree.isDirectory) table = addDirectories tree dirs table := by
  induction dirs generalizing table with
  | nil => rfl
  | cons dir dirs ih =>
      cases hdir : tree.isDirectory dir with
      | false => simp [addDirectories, hdir, ih]
      | true => simp [addDirectories, hdir, ih]

/-- **What a label stands for.** In whichever order directories list their names, setting up the
resolver gives the same. It fails exactly if some resource directory has a file that would be a
resource but is no text, and the first such directory is reported. Otherwise a bundled label has its
bundled text, whatever the directories have, and any other label has the text of the file of that
name in the last directory that has one. What is no directory makes no difference. -/
theorem resolver_serves_labels {tree : FileTree} (htree : tree.Proper) (config : Config) :
    (∀ result, config.MayResolve tree result ↔ result = config.resolver tree) ∧
    ((∃ cause, config.resolver tree = .error cause) ↔
      ∃ dir ∈ config.paths.resourceDirs, tree.HoldsNonText dir) ∧
    (∀ dir, config.paths.resourceDirs.find? tree.HoldsNonText = some dir →
      config.resolver tree = .error (.unreadable dir .notText)) ∧
    (config.paths.resourceDirs.find? tree.HoldsNonText = none →
      ∃ resolver, config.resolver tree = .ok resolver ∧ config.Serves tree resolver) ∧
    (config.onlyDirectories tree).resolver tree = config.resolver tree := by
  obtain ⟨hfailed, hserved⟩ := (mayResolve_resolver config tree).decides htree
  refine ⟨fun result => ⟨fun h => h.eq_resolver htree, ?_⟩, ?_, hfailed, hserved, ?_⟩
  · rintro rfl
    exact mayResolve_resolver config tree
  · cases hfirst : config.paths.resourceDirs.find? tree.HoldsNonText with
    | some dir =>
        have hnonText : tree.HoldsNonText dir := by simpa using List.find?_some hfirst
        exact ⟨fun _ => ⟨dir, List.mem_of_find?_eq_some hfirst, hnonText⟩,
          fun _ => ⟨_, hfailed dir hfirst⟩⟩
    | none =>
        obtain ⟨resolver, hresolver, -⟩ := hserved hfirst
        have htexts : ∀ dir ∈ config.paths.resourceDirs, ¬ tree.HoldsNonText dir := by
          simpa using hfirst
        simpa [hresolver] using htexts
  · exact congrArg (Except.map (Resolver.ofFilesAndTable config.search tree))
      (addDirectories_filter tree config.paths.resourceDirs .bundled)

/-- Directories that share names, and one with a file that is no text. -/
def sharedNames : FileTree :=
  ⟨"/", [
    (["first"], .directory),
    (["first", "b.glsl"], .file (.text "only")),
    (["first", "a.glsl"], .file (.text "first")),
    (["second"], .directory),
    (["second", "a.glsl"], .file (.text "second")),
    (["second", ".glsl"], .file (.bytes [255])),
    (["spoilt"], .directory),
    (["spoilt", "c.glsl"], .file (.bytes [255]))]⟩

def takingFrom (dirs : List String) : Config := { paths := { resourceDirs := dirs } }

theorem sharedNames_resolver_serves :
    (takingFrom ["first", "spoilt", "second"]).resolver sharedNames
      = .error (.unreadable "spoilt" .notText) ∧
    ∃ resolver, (takingFrom ["first", "gone", "second"]).resolver sharedNames = .ok resolver ∧
      resolver.resourceText "a.glsl" = some "second" ∧
      resolver.resourceText "b.glsl" = some "only" ∧
      resolver.resourceText ".glsl" = none ∧
      resolver.resourceText "sasm/math.glsl" = some mathResource.text := by
  have htree : sharedNames.Proper := by decide +kernel
  obtain ⟨-, -, hfailed, -⟩ :=
    resolver_serves_labels htree (takingFrom ["first", "spoilt", "second"])
  obtain ⟨-, -, -, hserved, -⟩ :=
    resolver_serves_labels htree (takingFrom ["first", "gone", "second"])
  obtain ⟨resolver, hresolver, hserves⟩ := hserved (by decide +kernel)
  have htext (label : String) (text : Option String)
      (hlabel : ∀ resource ∈ bundledResources, resource.label ≠ label)
      (hlast : lastText? sharedNames ["first", "gone", "second"] label = text.map .ok) :
      resolver.resourceText label = text :=
    Option.map_injective (fun _ _ => Except.ok.inj) ((hserves.listed label hlabel).trans hlast)
  refine ⟨hfailed "spoilt" (by decide +kernel), resolver, hresolver, ?_, ?_, ?_, ?_⟩
  · exact htext "a.glsl" (some "second") (by decide) (by decide +kernel)
  · exact htext "b.glsl" (some "only") (by decide) (by decide +kernel)
  · exact htext ".glsl" none (by decide) (by decide +kernel)
  · exact hserves.bundled mathResource (by simp [bundledResources])

end Config

end ShaderAssembly

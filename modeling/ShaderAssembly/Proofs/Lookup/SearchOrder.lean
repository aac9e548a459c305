import ShaderAssembly.Lookup.FileSearch
import ShaderAssembly.Proofs.FileTree.Walk

/-!
# The order of a search

A search takes the first candidate that is a file, and the last candidate is the path as it stands.
A directory that is added comes just before that one, so it can take over what was found where the
path stands, or nowhere, but nothing that was found in a directory. It takes over nothing at all if
it is in the list already, or if it is no directory: nothing is seen from what is no directory. The
one exception to this is the empty path, from which a path is seen as it stands.
-/

namespace ShaderAssembly

namespace FileSearch

/-- The path is the first one in the list that leads to a file. -/
def FirstFile (tree : FileTree) (paths : List String) (found : String) : Prop :=
  ∃ before after, paths = before ++ found :: after ∧ tree.isFile found = true ∧
    ∀ other ∈ before, tree.isFile other = false

variable {search : FileSearch} {tree : FileTree} {dir path : String}

theorem find?_isFile_eq_some_iff {paths : List String} {found : String} :
    paths.find? tree.isFile = some found ↔ FirstFile tree paths found := by
  rw [List.find?_eq_some_iff_append, FirstFile]
  simp only [Bool.not_eq_true']
  constructor
  · rintro ⟨hfile, before, after, hpaths, hbefore⟩
    exact ⟨before, after, hpaths, hfile, hbefore⟩
  · rintro ⟨before, after, hpaths, hfile, hbefore⟩
    exact ⟨hfile, before, after, hpaths, hbefore⟩

theorem find?_isFile_eq_none_iff {paths : List String} :
    paths.find? tree.isFile = none ↔ ∀ other ∈ paths, tree.isFile other = false := by
  simp only [List.find?_eq_none, Bool.not_eq_true]

theorem locate_of_absolute (h : Path.isAbsolute path = true) :
    search.locate tree path = if tree.isFile path then some path else none := by
  rw [locate, candidates, if_pos h, List.find?_singleton]

theorem locate_of_relative (h : Path.isAbsolute path = false) :
    search.locate tree path
      = (search.includeDirs.map (Path.join · path) ++ [path]).find? tree.isFile := by
  rw [locate, candidates, if_neg (Bool.eq_false_iff.1 h)]

/-- A relative path is searched in the include directories, and then where it stands. -/
theorem locate_eq_or (h : Path.isAbsolute path = false) :
    search.locate tree path
      = ((search.includeDirs.map (Path.join · path)).find? tree.isFile).or
          (if tree.isFile path then some path else none) := by
  rw [locate_of_relative h, List.find?_append, List.find?_singleton]

/-- A relative path leads to a file in the directory, and in none that is searched before it. -/
structure TakenOver (search : FileSearch) (tree : FileTree) (dir path : String) : Prop where
  relative : Path.isAbsolute path = false
  missed : ∀ included ∈ search.includeDirs, tree.isFile (Path.join included path) = false
  found : tree.isFile (Path.join dir path) = true

theorem locate_addDirectory_eq_or (h : Path.isAbsolute path = false) :
    (search.addDirectory dir).locate tree path
      = (((search.includeDirs.map (Path.join · path)).find? tree.isFile).or
          (if tree.isFile (Path.join dir path) then some (Path.join dir path) else none)).or
          (if tree.isFile path then some path else none) := by
  rw [locate_eq_or h, addDirectory, List.map_append, List.map_singleton, List.find?_append,
    List.find?_singleton]

theorem locate_addDirectory_of_takenOver (h : search.TakenOver tree dir path) :
    (search.addDirectory dir).locate tree path = some (Path.join dir path) := by
  rw [locate_addDirectory_eq_or h.relative, if_pos h.found,
    find?_isFile_eq_none_iff.2 (List.forall_mem_map.2 h.missed), Option.none_or, Option.some_or]

theorem locate_addDirectory_of_not_takenOver (h : ¬ search.TakenOver tree dir path) :
    (search.addDirectory dir).locate tree path = search.locate tree path := by
  cases hpath : Path.isAbsolute path with
  | true => rw [locate_of_absolute hpath, locate_of_absolute hpath]
  | false =>
      rw [locate_addDirectory_eq_or hpath, locate_eq_or hpath]
      cases hincluded : (search.includeDirs.map (Path.join · path)).find? tree.isFile with
      | some found => rw [Option.some_or]
      | none =>
          have hmissed := List.forall_mem_map.1 (find?_isFile_eq_none_iff.1 hincluded)
          rw [if_neg fun hfound => h ⟨hpath, hmissed, hfound⟩, Option.or_none]

/-- Nothing relative is seen from what is no directory, except from the empty path. -/
theorem join_eq_of_isFile_join (hdir : tree.isDirectory dir = false)
    (hpath : Path.isAbsolute path = false) (h : tree.isFile (Path.join dir path) = true) :
    Path.join dir path = path := by
  obtain ⟨place, content, hplace, -⟩ := FileTree.isFile_eq_true_iff.1 h
  cases hempty : dir.isEmpty with
  | true => rw [Path.join, hempty, Bool.or_true, if_pos rfl]
  | false =>
      rw [FileTree.isDirectory_of_resolve_join hempty hpath hplace] at hdir
      contradiction

theorem locate_addDirectory_of_known_or_missing
    (h : dir ∈ search.includeDirs ∨ tree.isDirectory dir = false) :
    (search.addDirectory dir).locate tree path = search.locate tree path := by
  by_cases htaken : search.TakenOver tree dir path
  · rcases h with hknown | hmissing
    · exact absurd htaken.found (Bool.eq_false_iff.1 (htaken.missed dir hknown))
    · -- The empty path takes over a file where it stands, and so by the same path.
      have hjoin := join_eq_of_isFile_join hmissing htaken.relative htaken.found
      have hfile : tree.isFile path = true := hjoin ▸ htaken.found
      rw [locate_addDirectory_of_takenOver htaken, hjoin, locate_eq_or htaken.relative,
        if_pos hfile, find?_isFile_eq_none_iff.2 (List.forall_mem_map.2 htaken.missed),
        Option.none_or]
  · exact locate_addDirectory_of_not_takenOver htaken

/-- **The order of a search.** An absolute path means itself; a relative one means the first file
among its places in the include directories, in order, and where it stands. The text asked for is
the one of that file. One more directory changes only what is a file in it and in no directory
before, never loses a file, and changes nothing if it is listed already or is no directory. -/
theorem locate_first_file_stably (search : FileSearch) (tree : FileTree) (path : String) :
    (Path.isAbsolute path = true →
      search.locate tree path = if tree.isFile path then some path else none) ∧
    (Path.isAbsolute path = false →
      (∀ found, search.locate tree path = some found ↔
        FirstFile tree (search.includeDirs.map (Path.join · path) ++ [path]) found) ∧
      (search.locate tree path = none ↔
        (∀ dir ∈ search.includeDirs, tree.isFile (Path.join dir path) = false) ∧
          tree.isFile path = false)) ∧
    (search.locate tree path = none →
      search.fileText tree path = .error (.notLocated path search.includeDirs.length)) ∧
    (∀ found, search.locate tree path = some found →
      search.fileText tree path = tree.readText found) ∧
    ∀ dir,
      ((search.addDirectory dir).locate tree path ≠ search.locate tree path →
        search.TakenOver tree dir path ∧
          (search.addDirectory dir).locate tree path = some (Path.join dir path)) ∧
      (∀ found, search.locate tree path = some found →
        ∃ found', (search.addDirectory dir).locate tree path = some found') ∧
      (dir ∈ search.includeDirs ∨ tree.isDirectory dir = false →
        (search.addDirectory dir).locate tree path = search.locate tree path) := by
  refine ⟨locate_of_absolute, fun hpath => ⟨fun found => ?_, ?_⟩, fun hnone => ?_,
    fun found hfound => ?_, fun dir => ⟨fun hchanged => ?_, fun found hfound => ?_,
      locate_addDirectory_of_known_or_missing⟩⟩
  · rw [locate_of_relative hpath, find?_isFile_eq_some_iff]
  · rw [locate_of_relative hpath, find?_isFile_eq_none_iff, List.forall_mem_append,
      List.forall_mem_map, List.forall_mem_singleton]
  · rw [fileText, hnone]
  · rw [fileText, hfound]
  · by_cases htaken : search.TakenOver tree dir path
    · exact ⟨htaken, locate_addDirectory_of_takenOver htaken⟩
    · exact absurd (locate_addDirectory_of_not_takenOver htaken) hchanged
  · by_cases htaken : search.TakenOver tree dir path
    · exact ⟨_, locate_addDirectory_of_takenOver htaken⟩
    · exact ⟨found, (locate_addDirectory_of_not_takenOver htaken).trans hfound⟩

/-- A directory of the name of a file stands before the directory that holds the file. -/
def namedLikeFile : FileTree :=
  ⟨"/", [(["x"], .file (.text "here")), (["a"], .directory), (["a", "x"], .directory),
    (["b"], .directory), (["b", "x"], .file (.text "b"))]⟩

theorem locate_namedLikeFile :
    FirstFile namedLikeFile ["a/x", "b/x", "x"] "b/x" ∧
    FileSearch.fileText ⟨["a", "b"]⟩ namedLikeFile "x" = .ok "b" ∧
    (FileSearch.addDirectory ⟨["a"]⟩ "b").locate namedLikeFile "x"
      ≠ FileSearch.locate ⟨["a"]⟩ namedLikeFile "x" ∧
    namedLikeFile.isFile "a/x" = false ∧
    (FileSearch.addDirectory ⟨["a"]⟩ "missing").locate namedLikeFile "x"
      = FileSearch.locate ⟨["a"]⟩ namedLikeFile "x" := by
  obtain ⟨-, hrelative, -, htext, -⟩ := locate_first_file_stably ⟨["a", "b"]⟩ namedLikeFile "x"
  obtain ⟨-, -, -, -, hadded⟩ := locate_first_file_stably ⟨["a"]⟩ namedLikeFile "x"
  have hfound : FileSearch.locate ⟨["a", "b"]⟩ namedLikeFile "x" = some "b/x" := by decide +kernel
  have hchanged : (FileSearch.addDirectory ⟨["a"]⟩ "b").locate namedLikeFile "x"
      ≠ FileSearch.locate ⟨["a"]⟩ namedLikeFile "x" := by decide +kernel
  refine ⟨((hrelative (by decide)).1 "b/x").1 hfound, ?_, hchanged, ?_, ?_⟩
  · rw [htext "b/x" hfound]
    decide +kernel
  · exact ((hadded "b").1 hchanged).1.missed "a" (List.mem_singleton_self _)
  · exact (hadded "missing").2.2 (.inr (by decide +kernel))

end FileSearch

end ShaderAssembly

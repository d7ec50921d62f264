import ClassLocator.Proofs.ClassPath.Packing
import ClassLocator.Proofs.FileSystem.Naming

/-!
# Where matches in a directory are

A match in a directory has the path of its file as its location, and the rest of this path behind
the root as its package. The path of the file has come about entry by entry, by texts that are read
again at each step, and the root may be spelled in any way: it may be relative, lead through parents
or begin with two slashes. The rest can nevertheless always be cut off, and joined to the root it
gives the location. So neither the package nor the location of one match of a root is that of
another.

## Main definitions

* `Match.IsNamedBelow`: how the location and the package of a match in a directory belong together.
* `IsWalkByNames`: the walk of a directory by the names that lead to the files.

## Main statements

* `directoryMatches_named`: the locations and packages of all matches of one root.
-/

namespace ClassLocator

/-- The package of the match is the path that leads from the root to its location, and the last name
on it holds the query. -/
structure Match.IsNamedBelow (root : Path) (query : Query) (found : Match) : Prop where
  relative : (Path.parse found.package).anchor = .here
  names_ne_nil : (Path.parse found.package).names ≠ []
  holds_query : Text.occursIn query.shortName (Path.parse found.package).name = true
  cut : (Path.parse found.location).relativeTo? root = some (Path.parse found.package)
  joined : (root.join found.package).text = found.location

variable {root : Path} {query : Query} {sourceMode : Bool}

/-! ## One file -/

section

variable {names : List Text}

theorem parse_relativeName (hne : names ≠ []) (hproper : Path.AreNames names) :
    Path.parse (relativeName root (root.append names)) = ⟨.here, names⟩ := by
  rw [relativeName_append root hne, Path.parse_text (Path.isNormal_of_names hproper .here)]

theorem parse_location (hroot : root.IsNormal) (hproper : Path.AreNames names) :
    Path.parse (root.append names).text = root.append names :=
  Path.parse_text (hroot.append hproper)

theorem fileMatch_named (hroot : root.IsNormal) (hne : names ≠ [])
    (hproper : Path.AreNames names)
    (hquery : Text.occursIn query.shortName (names.getLastD []) = true) (content : Content) :
    (fileMatch root sourceMode ⟨root.append names, content⟩).IsNamedBelow root query := by
  have hpackage : Path.parse (relativeName root (root.append names)) = ⟨.here, names⟩ :=
    parse_relativeName hne hproper
  have hlocation := parse_location hroot hproper
  constructor
  case relative => simp only [fileMatch, hpackage]
  case names_ne_nil => simpa only [fileMatch, hpackage] using hne
  case holds_query => simpa only [fileMatch, hpackage, Path.name] using hquery
  case cut => simp only [fileMatch, hpackage, hlocation, Path.relativeTo?_append]
  case joined => rw [fileMatch, relativeName_append root hne, Path.join_text hproper]

end

/-! ## The files of a directory -/

variable {fs : FileSystem} {entries : Entries}

/-- Names of paths lead from the root to the files of the walk, and the files are in their order. -/
structure IsWalkByNames (fs : FileSystem) (root : Path) (entries : Entries) : Prop where
  walk : fs.walk root = filesBelow root entries
  sorted : entries.items.Pairwise fun file other => NamesBefore file.1 other.1
  names_ne_nil : ∀ file ∈ entries.items, file.1 ≠ []
  proper : ∀ file ∈ entries.items, Path.AreNames file.1

theorem exists_isWalkByNames (hproper : fs.NamesProper) (hapart : fs.NamesApart)
    (hdirectory : fs.isDirectory root = .ok true) : ∃ entries, IsWalkByNames fs root entries := by
  obtain ⟨hnul, access, children, hnode⟩ := FileSystem.node?_of_isDirectory hdirectory
  have hwalk := FileSystem.walk_eq_files (FileSystem.exists?_of_node? hnul hnode) hnode
  obtain ⟨entries, hfiles, horder⟩ := Node.files_inOrder _ true root (hapart.of_node? hnode)
  have hholds : ∀ file ∈ entries.items,
      (Node.directory access children).HoldsFile true file.1 file.2 := fun file hmem =>
    ((horder.mem_items _ _).1 hmem).1
  refine ⟨entries, hwalk.trans hfiles, horder.sorted, ?_, ?_⟩
  · exact fun file hmem => (hholds file hmem).names_ne_nil
  · intro file hmem
    obtain ⟨_, _, _, hreach, -⟩ := hholds file hmem
    exact Node.NamesProper.areNames (FileSystem.Everywhere.of_node? hproper hnode) hreach

namespace IsWalkByNames

theorem path_of_mem (h : IsWalkByNames fs root entries) (hroot : root.IsNormal) {file : FoundFile}
    (hmem : file ∈ (fs.walk root).items) :
    ∃ names, names ≠ [] ∧ file.path = names.foldl Path.entry root ∧
      file.path.relativeTo? root = some ⟨.here, names⟩ := by
  rw [h.walk] at hmem
  obtain ⟨⟨names, content⟩, hentry, rfl⟩ := List.mem_map.1 hmem
  exact ⟨names, h.names_ne_nil _ hentry, (Path.foldl_entry hroot (h.proper _ hentry)).symm,
    Path.relativeTo?_append root names⟩

theorem named_of_mem (h : IsWalkByNames fs root entries) (hroot : root.IsNormal) {found : Match}
    (hmem : found ∈ (directoryMatches fs root query sourceMode).items) :
    found.IsNamedBelow root query := by
  rw [items_directoryMatches h.walk h.names_ne_nil] at hmem
  obtain ⟨file, hfile, rfl⟩ := List.mem_map.1 hmem
  obtain ⟨hentry, hquery⟩ := List.mem_filter.1 hfile
  exact fileMatch_named hroot (h.names_ne_nil file hentry) (h.proper file hentry) hquery _

/-- What the names of a file can be read from is not the same in two matches. -/
theorem nodup_map_of_read (h : IsWalkByNames fs root entries) {key : Match → Text}
    (read : Text → List Text)
    (hread : ∀ file ∈ entries.items,
      read (key (fileMatch root sourceMode ⟨root.append file.1, file.2⟩)) = file.1) :
    ((directoryMatches fs root query sourceMode).items.map key).Nodup := by
  rw [items_directoryMatches h.walk h.names_ne_nil, List.map_map]
  generalize hkept : entries.items.filter _ = files
  have hsublist : files.Sublist entries.items := hkept ▸ List.filter_sublist
  have hnames : (files.map (·.1)).Nodup := by
    refine List.pairwise_map.2 ((h.sorted.sublist hsublist).imp fun hbefore heq => ?_)
    exact NamesBefore.not_self _ (heq ▸ hbefore)
  have hback : files.map (read ∘ key ∘ fun file =>
      fileMatch root sourceMode ⟨root.append file.1, file.2⟩) = files.map (·.1) :=
    List.map_congr_left fun file hmem => hread file (hsublist.subset hmem)
  refine List.Nodup.of_map read ?_
  rw [List.map_map, hback]
  exact hnames

theorem nodup_package (h : IsWalkByNames fs root entries) :
    ((directoryMatches fs root query sourceMode).items.map (·.package)).Nodup :=
  h.nodup_map_of_read (fun package => (Path.parse package).names) fun file hmem =>
    congrArg Path.names (parse_relativeName (h.names_ne_nil file hmem) (h.proper file hmem))

theorem nodup_location (h : IsWalkByNames fs root entries) (hroot : root.IsNormal) :
    ((directoryMatches fs root query sourceMode).items.map (·.location)).Nodup := by
  let below (place : Path) : List Text := place.names.drop root.names.length
  refine h.nodup_map_of_read (fun location => below (Path.parse location)) fun file hmem => ?_
  exact (congrArg below (parse_location hroot (h.proper file hmem))).trans List.drop_left

end IsWalkByNames

/-! ## A file as the root -/

theorem walk_of_isFile (hfile : fs.isFile root = .ok true) :
    ∃ content, fs.walk root = .ofList [⟨root, content⟩] := by
  obtain ⟨hnul, node, hnode, hregular⟩ := FileSystem.node?_of_holds hfile
  cases node with
  | file content executable =>
    refine ⟨content, ?_⟩
    rw [FileSystem.walk, FileSystem.exists?_of_node? hnul hnode, hnode]
  | directory access children => cases hregular
  | link target => cases hregular
  | pipe => cases hregular

theorem directoryMatches_of_isFile (hfile : fs.isFile root = .ok true) :
    directoryMatches fs root query sourceMode = .empty ∨
      ∃ found, directoryMatches fs root query sourceMode = .ofList [found] ∧
        found.location = root.text ∧ found.package = [] := by
  obtain ⟨content, hwalk⟩ := walk_of_isFile hfile
  by_cases hname : Text.occursIn query.shortName root.name = true
  · refine .inr ⟨fileMatch root sourceMode ⟨root, content⟩, ?_, rfl, if_pos rfl⟩
    simp [directoryMatches, hwalk, Feed.filterMap, Feed.ofList, fileMatch?, hname]
  · refine .inl ?_
    simp [directoryMatches, hwalk, Feed.filterMap, Feed.ofList, Feed.empty, fileMatch?, hname]

/-! ## The matches of a root -/

/-- However the path of a root is spelled, each file of a directory is reached from it entry by
entry, and its path can be cut off behind the root. Each match has the rest as its package and can
be located by it, so that no two matches have one package or one location. A file as the root is
itself the only match, if any, and is located by the root alone. -/
theorem directoryMatches_named {fs : FileSystem} (hproper : fs.NamesProper)
    (hapart : fs.NamesApart) (spelling : Text) (query : Query) (sourceMode : Bool) :
    let root := Path.parse spelling
    let found := directoryMatches fs root query sourceMode
    (fs.isDirectory root = .ok true →
      (∀ file ∈ (fs.walk root).items, ∃ names, names ≠ [] ∧
        file.path = names.foldl Path.entry root ∧
        file.path.relativeTo? root = some ⟨.here, names⟩) ∧
      (∀ each ∈ found.items, each.IsNamedBelow root query) ∧
      (found.items.map (·.package)).Nodup ∧ (found.items.map (·.location)).Nodup) ∧
    (fs.isFile root = .ok true →
      found.failure = none ∧ found.items.length ≤ 1 ∧
      ∀ each ∈ found.items, each.location = root.text ∧ each.package = []) := by
  intro root found
  have hroot : root.IsNormal := Path.isNormal_parse spelling
  constructor
  · intro hdirectory
    obtain ⟨entries, hwalk⟩ := exists_isWalkByNames hproper hapart hdirectory
    exact ⟨fun file hmem => hwalk.path_of_mem hroot hmem,
      fun each hmem => hwalk.named_of_mem hroot hmem, hwalk.nodup_package,
      hwalk.nodup_location hroot⟩
  · intro hfile
    have hfound : found = .empty ∨ ∃ only, found = .ofList [only] ∧
        only.location = root.text ∧ only.package = [] := directoryMatches_of_isFile hfile
    rcases hfound with hnone | ⟨only, hone, hlocation, hpackage⟩
    · rw [hnone]
      exact ⟨rfl, Nat.zero_le 1, fun each hmem => absurd hmem List.not_mem_nil⟩
    · rw [hone]
      refine ⟨rfl, Nat.le_refl 1, fun each hmem => ?_⟩
      rw [List.mem_singleton.1 hmem]
      exact ⟨hlocation, hpackage⟩

/-- In the working directory, `/src`, the file `a/Foo.class`. -/
def FileSystem.sourceTree : FileSystem :=
  FileSystem.insert { top := [], workingDirectory := ["src".toList] }
    ["src".toList, ['a'], "Foo.class".toList] (.file { bytes := [1] } false)

theorem FileSystem.sourceTree_namesProper : sourceTree.NamesProper :=
  (NamesProper.empty _).insert (by decide) (.of_isDirectory_eq_false rfl)

theorem FileSystem.sourceTree_namesApart : sourceTree.NamesApart :=
  (NamesApart.empty _).insert _ (.file _ _)

theorem FileSystem.walk_sourceTree :
    sourceTree.walk (.parse "..//./src/".toList) =
      .ofList [⟨.parse "../src/a/Foo.class".toList, { bytes := [1] }⟩] := by
  let inner := Node.directory {} [("Foo.class".toList, .file { bytes := [1] } false)]
  have hfiles : sourceTree.walk (.parse "..//./src/".toList) =
      (Node.directory {} [(['a'], inner)]).files true (.parse "..//./src/".toList) :=
    walk_eq_files rfl rfl
  rw [hfiles]
  simp only [inner, Node.files, Node.branches, List.mergeSort_singleton]
  rfl

theorem directoryMatches_named_through_parent :
    FileSystem.sourceTree.NamesProper ∧ FileSystem.sourceTree.NamesApart ∧
      FileSystem.sourceTree.isDirectory (.parse "..//./src/".toList) = .ok true ∧
      FileSystem.sourceTree.isFile (.parse "//src/a/Foo.class".toList) = .ok true ∧
      (∃ found : Match, found.location = "../src/a/Foo.class".toList ∧
        found.package = "a/Foo.class".toList ∧
        found.IsNamedBelow (.parse "..//./src/".toList) ⟨"Foo".toList⟩) ∧
      ∀ found ∈ (directoryMatches FileSystem.sourceTree (.parse "//src/a/Foo.class".toList)
        ⟨"Foo".toList⟩ false).items, found.location = "//src/a/Foo.class".toList ∧
          found.package = [] := by
  have hproper := FileSystem.sourceTree_namesProper
  have hapart := FileSystem.sourceTree_namesApart
  have hdirectory : FileSystem.sourceTree.isDirectory (.parse "..//./src/".toList) = .ok true := by
    rfl
  have hfile : FileSystem.sourceTree.isFile (.parse "//src/a/Foo.class".toList) = .ok true := by rfl
  have hbelow := (directoryMatches_named hproper hapart "..//./src/".toList ⟨"Foo".toList⟩
    false).1 hdirectory
  have hroot := (directoryMatches_named hproper hapart "//src/a/Foo.class".toList ⟨"Foo".toList⟩
    false).2 hfile
  refine ⟨hproper, hapart, hdirectory, hfile, ?_, fun found hmem => hroot.2.2 found hmem⟩
  refine ⟨_, ?_, ?_, hbelow.2.1 (fileMatch (.parse "..//./src/".toList) false
    ⟨.parse "../src/a/Foo.class".toList, { bytes := [1] }⟩) ?_⟩
  · rfl
  · rfl
  · rw [directoryMatches, FileSystem.walk_sourceTree]
    exact List.mem_singleton.2 rfl

end ClassLocator

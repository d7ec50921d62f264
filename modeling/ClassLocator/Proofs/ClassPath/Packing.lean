import ClassLocator.Proofs.ClassPath.Directory
import ClassLocator.Proofs.Text.Replace
import ClassLocator.Report
import Mathlib.Data.List.Forall2

/-!
# Packing a directory

In a directory the query is looked for in the names of the files, in an archive in the names of the
members, which are whole paths, and there the extension has to be found as well. So an archive of
the files of a directory, each under its path below this directory, has a match for every file that
is a match and has the extension in its name.

Files are read by their paths and where they lie, members are not. A file can lie so deep that its
path is too long, and there are files that may not be read, as they are themselves or because of a
directory above them. They can be listed and packed, but not be read.

## Main definitions

* `Archive.Packs`: the members of an archive are these files.
* `listedFiles`: the files of a directory that have the query and the extension in their names.
* `FoundFile.PackedAs`: a file whose match in a directory has this match in an archive.

## Main statements

* `Listing.files_below`: a walk gives files below its root.
* `listedMatches_packed`: the matches in a directory among those in an archive of it.
-/

namespace ClassLocator

open scoped List

/-! ## Files below a directory -/

/-- What is true of the files of all children is true of the files of a listing. -/
theorem Listing.files_below {listing : Listing}
    (h : ∀ child ∈ listing.children,
      (child.2.files listing.isSearchable (listing.place.child child.1)).Only
        (fun file => ∃ rest, file.path = (listing.place.child child.1).append rest)
        fun _ => True) :
    listing.files.Only (fun file => ∃ names, names ≠ [] ∧ file.path = listing.place.append names)
      fun _ => True := by
  refine .join fun feed hmem => ?_
  obtain ⟨child, hchild, rfl⟩ := List.mem_map.1 hmem
  refine (h child hchild).imp ?_ fun _ _ => trivial
  rintro file ⟨rest, hrest⟩
  exact ⟨child.1 :: rest, List.cons_ne_nil _ _, hrest.trans (Path.child_append ..)⟩

/-- The files of a tree are named by paths that begin with the one of the tree. -/
theorem Node.files_below (node : Node) (isOpen : Bool) (place : Path) :
    (node.files isOpen place).Only (fun file => ∃ names, file.path = place.append names)
      fun _ => True := by
  induction node using Node.inductOn generalizing isOpen place with
  | file content executable =>
    refine .ofList (List.forall_mem_singleton.2 ⟨[], ?_⟩)
    exact (Path.append_nil place).symm
  | link target => exact .empty
  | pipe => exact .empty
  | directory access children ih =>
    rw [Node.files_directory, Listing.of]
    cases access.listingRefusal isOpen place with
    | some errno => exact .fail trivial
    | none =>
      refine (Listing.files_below ?_).imp (fun file hfile => ?_) fun _ _ => trivial
      · rintro ⟨name, child⟩ hmem
        exact ih name child (List.mem_mergeSort.1 hmem) access.isSearchable (place.child name)
      · obtain ⟨names, -, hnames⟩ := hfile
        exact ⟨names, hnames⟩

theorem FileSystem.walk_below {fs : FileSystem} {root : Path}
    (hdirectory : fs.isDirectory root = .ok true) :
    ∀ file ∈ (fs.walk root).items, ∃ names, names ≠ [] ∧ file.path = root.append names := by
  obtain ⟨hnul, access, children, hnode⟩ := node?_of_isDirectory hdirectory
  rw [walk_eq_files (exists?_of_node? hnul hnode) hnode, Node.files_directory, Listing.of]
  cases access.listingRefusal true root with
  | some errno => exact fun _ hmem => absurd hmem List.not_mem_nil
  | none => exact (Listing.files_below fun child _ => child.2.files_below _ _).items

/-! ## Names below a directory -/

section

variable {names : List Text} {root : Path}

theorem relativeName_append (root : Path) (hne : names ≠ []) :
    relativeName root (root.append names) = (⟨.here, names⟩ : Path).text := by
  have hroot : root.append names ≠ root := by
    intro h
    have hnames : root.names ++ names = root.names := congrArg Path.names h
    exact hne (List.append_right_eq_self.1 hnames)
  rw [relativeName, if_neg hroot, Path.relativeTo?_append]

theorem getLastD_isSuffix_intercalate (names : List Text) :
    names.getLastD [] <:+ ['/'].intercalate names := by
  induction names with
  | nil => exact List.nil_suffix
  | cons first rest ih =>
    cases rest with
    | nil => simp
    | cons second others =>
      rw [List.intercalate_cons_cons]
      exact ih.trans (List.suffix_append ..)

/-- The text of a path ends with its last name. -/
theorem getLastD_isSuffix_text (names : List Text) :
    names.getLastD [] <:+ (⟨.here, names⟩ : Path).text := by
  have hsuffix := getLastD_isSuffix_intercalate names
  unfold Path.text
  simp only [Anchor.text, List.nil_append]
  cases hwritten : ['/'].intercalate names with
  | nil =>
    rw [hwritten] at hsuffix
    rw [List.suffix_nil.1 hsuffix]
    exact List.nil_suffix
  | cons c rest =>
    rw [hwritten] at hsuffix
    exact hsuffix

theorem name_isSuffix_relativeName (root : Path) (hne : names ≠ []) :
    (root.append names).name <:+ relativeName root (root.append names) := by
  rw [relativeName_append root hne, Path.name_append root hne]
  exact getLastD_isSuffix_text names

end

/-! ## Matches that are packed -/

/-- The members of the archive are the files, in this order: each is named by the path of its file
below the root, and unpacks to what the file holds. -/
def Archive.Packs (archive : Archive) (root : Path) (files : List FoundFile) : Prop :=
  List.Forall₂ (fun member file =>
    member.name = relativeName root file.path ∧ archive.content member = .ok file.content.bytes)
    archive.members files

/-- The file is a match, and has the extension in its name. -/
def FoundFile.isListed (query : Query) (sourceMode : Bool) (file : FoundFile) : Bool :=
  Text.occursIn query.shortName file.path.name &&
    Text.occursIn (Query.extension sourceMode) file.path.name

/-- The files of a directory whose matches have the extension in the names of their files. -/
def listedFiles (fs : FileSystem) (root : Path) (query : Query) (sourceMode : Bool) :
    List FoundFile :=
  (fs.walk root).items.filter (FoundFile.isListed query sourceMode)

/-- The match for this file in a directory has this match in an archive: it is shown in the same
way, and both sources are the bytes of the file unless its path is too long to open it or it may not
be read. -/
structure FoundFile.PackedAs (root : Path) (sourceMode : Bool) (file : FoundFile)
    (packed : Match) : Prop where
  package : packed.package = (fileMatch root sourceMode file).package
  packageLine : ∀ {σ : Type} (reporter : Reporter σ),
    reporter.packageLine? packed = reporter.packageLine? (fileMatch root sourceMode file)
  packedSource : sourceMode = true → packed.source = some (.ok file.content.bytes)
  source : sourceMode = true → (fileMatch root sourceMode file).source =
    some (if FileSystem.isTooLong file.path.text then
        .error (.system .nameTooLong (some file.path.text))
      else if file.content.isReadable then .ok file.content.bytes
      else .error (.system .accessDenied (some file.path.text)))

section

variable {root container : Path} {query : Query} {sourceMode : Bool} {file : FoundFile}
  {archive : Archive}

theorem FoundFile.isListed_iff :
    file.isListed query sourceMode = true ↔ Text.occursIn query.shortName file.path.name = true ∧
      Text.occursIn (Query.extension sourceMode) file.path.name = true :=
  Bool.and_eq_true_iff

/-- The matches for files that are listed are among those for all files. -/
theorem map_fileMatch_sublist (root : Path) (query : Query) (sourceMode : Bool)
    (files : List FoundFile) :
    (files.filter (FoundFile.isListed query sourceMode)).map (fileMatch root sourceMode) <+
      files.filterMap (fileMatch? root query sourceMode) := by
  induction files with
  | nil => exact .slnil
  | cons file rest ih =>
    by_cases hlisted : file.isListed query sourceMode = true
    · have hmatch : fileMatch? root query sourceMode file =
          some (fileMatch root sourceMode file) :=
        if_pos (FoundFile.isListed_iff.1 hlisted).1
      rw [List.filter_cons_of_pos hlisted, List.map_cons, List.filterMap_cons_some hmatch]
      exact ih.cons_cons _
    · rw [List.filter_cons_of_neg hlisted]
      exact ih.trans ((List.sublist_cons_self file rest).filterMap _)

/-- A query without dots is looked for as it is, in a name and in whatever ends with this name. -/
theorem selects_of_isSuffix {name memberName : Text} (hdotless : '.' ∉ query.shortName)
    (hquery : Text.occursIn query.shortName name = true)
    (hextension : Text.occursIn (Query.extension sourceMode) name = true)
    (hsuffix : name <:+ memberName) : query.selects sourceMode memberName = true := by
  have hlonger {needle : Text} (hneedle : Text.occursIn needle name = true) :
      Text.occursIn needle memberName = true :=
    Text.occursIn_iff.2 ((Text.occursIn_iff.1 hneedle).trans hsuffix.isInfix)
  have hform : query.slashForm = query.shortName := Text.replaceChar_of_notMem hdotless
  rw [Query.selects, hform, hlonger hquery, hlonger hextension]
  rfl

theorem packedAs_memberMatch {member : Archive.Member} {first : Bool}
    (hextension : Text.occursIn (Query.extension sourceMode) file.path.name = true)
    (hname : member.name = relativeName root file.path)
    (hcontent : archive.content member = .ok file.content.bytes) :
    file.PackedAs root sourceMode (memberMatch archive container sourceMode first member) where
  package := hname
  packageLine reporter := by
    simp only [Reporter.packageLine?, memberMatch, fileMatch, hname]
  packedSource := by
    rintro rfl
    simp [memberMatch, hcontent]
  source := by
    rintro rfl
    have hsource : Text.occursIn sourceExtension file.path.name = true := hextension
    simp [fileMatch, hsource, FoundFile.read]

theorem memberMatches_packed (hdotless : '.' ∉ query.shortName) {members : List Archive.Member}
    {files : List FoundFile}
    (hpacks : List.Forall₂ (fun member file =>
      member.name = relativeName root file.path ∧ archive.content member = .ok file.content.bytes)
      members files)
    (hbelow : ∀ file ∈ files, ∃ names, names ≠ [] ∧ file.path = root.append names)
    (first : Bool) :
    List.SublistForall₂ (FoundFile.PackedAs root sourceMode)
      (files.filter (FoundFile.isListed query sourceMode))
      (memberMatches archive container query sourceMode first members) := by
  induction hpacks generalizing first with
  | nil => exact .nil
  | @cons member file members files hmember _ ih =>
    obtain ⟨hname, hcontent⟩ := hmember
    obtain ⟨⟨names, hne, hpath⟩, hrest⟩ := List.forall_mem_cons.1 hbelow
    by_cases hlisted : file.isListed query sourceMode = true
    · obtain ⟨hquery, hextension⟩ := FoundFile.isListed_iff.1 hlisted
      have hsuffix : file.path.name <:+ member.name := by
        rw [hname, hpath]
        exact name_isSuffix_relativeName root hne
      have hselects := selects_of_isSuffix hdotless hquery hextension hsuffix
      rw [List.filter_cons_of_pos hlisted, memberMatches, if_pos hselects]
      exact .cons (packedAs_memberMatch hextension hname hcontent) (ih hrest false)
    · -- The archive may have a match for it nevertheless.
      rw [List.filter_cons_of_neg hlisted]
      unfold memberMatches
      split
      · exact .cons_right (ih hrest false)
      · exact ih hrest first

theorem map_package_sublist {listed : List FoundFile} {archived : List Match}
    (h : List.SublistForall₂ (FoundFile.PackedAs root sourceMode) listed archived) :
    (listed.map (fileMatch root sourceMode)).map Match.package <+ archived.map Match.package := by
  induction h with
  | nil => exact List.nil_sublist _
  | cons hpacked _ ih =>
    rw [List.map_cons, List.map_cons, List.map_cons, hpacked.package]
    exact ih.cons_cons _
  | cons_right _ ih => exact ih.cons _

end

/-- An archive of the files of a directory, in the order of its walk, has for each match in the
directory that has the extension in the name of its file a match of the same name and with the same
line for the package, in the same order. In source mode both sources are the bytes of the file,
unless its path is too long to open it or it may not be read; the member can be read then, too. -/
theorem listedMatches_packed {fs jars : FileSystem} {root container : Path} {archive : Archive}
    (hdirectory : fs.isDirectory root = .ok true)
    (harchive : jars.read container >>= Archive.ofFile jars.unpackers = .ok archive)
    (hpacks : archive.Packs root (fs.walk root).items) {query : Query}
    (hdotless : '.' ∉ query.shortName) (sourceMode : Bool) :
    let files := listedFiles fs root query sourceMode
    let listed := files.map (fileMatch root sourceMode)
    let archived := archiveMatches jars container query sourceMode
    listed <+ (directoryMatches fs root query sourceMode).items ∧
      archived.failure = none ∧
      listed.map Match.package <+ archived.items.map Match.package ∧
      List.SublistForall₂ (FoundFile.PackedAs root sourceMode) files archived.items := by
  intro files listed archived
  have harchived : archived =
      .ofList (memberMatches archive container query sourceMode true archive.members) := by
    simp only [archived, archiveMatches, harchive]
  have hpacked : List.SublistForall₂ (FoundFile.PackedAs root sourceMode) files archived.items := by
    rw [harchived]
    exact memberMatches_packed hdotless hpacks (FileSystem.walk_below hdirectory) true
  refine ⟨map_fileMatch_sublist _ _ _ _, ?_, map_package_sublist hpacked, hpacked⟩
  rw [harchived]
  rfl

/-- An archive with one member, a source of one letter, which is stored as it is. -/
def letterBytes : Bytes :=
  let name := Utf8.encode "a/Foo.java".toList
  let summary :=
    List.replicate 8 0 ++ [0x28, 0x0B, 0xBD, 0x4D, 1, 0, 0, 0, 1, 0, 0, 0, 10, 0, 0, 0]
  [0x50, 0x4B, 3, 4, 20, 0] ++ summary ++ name ++ [0x46] ++
    [0x50, 0x4B, 1, 2, 20, 0, 20, 0] ++ summary ++ List.replicate 14 0 ++ name ++
    [0x50, 0x4B, 5, 6, 0, 0, 0, 0, 1, 0, 1, 0, 56, 0, 0, 0, 41, 0, 0, 0, 0, 0]

def letterArchive : Archive where
  file := letterBytes
  members := [⟨"a/Foo.java".toList, 0, 0, 0x4DBD0B28, 1, 1, 0, 0, 41⟩]

theorem ofFile_letterBytes : Archive.ofFile {} letterBytes = .ok letterArchive := by
  with_unfolding_all rfl

/-- The archive has just the file in its place in the directory. -/
theorem letterArchive_packs (isReadable : Bool) {root : Path} {files : List FoundFile}
    (h : files = [⟨root.append ["a".toList, "Foo.java".toList], ⟨[0x46], isReadable⟩⟩]) :
    letterArchive.Packs root files := by
  subst h
  refine .cons ⟨?_, by with_unfolding_all rfl⟩ .nil
  change "a/Foo.java".toList = relativeName root (root.append ["a".toList, "Foo.java".toList])
  rw [relativeName_append root (List.cons_ne_nil _ _)]
  rfl

/-- The archive, and a directory with the source, which may be read or not. -/
def letterFiles (directory : Text) (isReadable : Bool := true) : FileSystem where
  top := [("x.jar".toList, .file { bytes := letterBytes } false), (directory, .directory {}
    [("a".toList, .directory {} [("Foo.java".toList, .file ⟨[0x46], isReadable⟩ false)])])]
  workingDirectory := []

theorem read_letterFiles (directory : Text) (isReadable : Bool) :
    (letterFiles directory isReadable).read (.parse "x.jar".toList) >>= Archive.ofFile {} =
      .ok letterArchive := by
  have hread : (letterFiles directory isReadable).read (.parse "x.jar".toList) =
      .ok letterBytes := by rfl
  rw [hread]
  exact ofFile_letterBytes

theorem listedMatches_packed_letter :
    let fs := letterFiles "src".toList
    let root : Path := .parse "src".toList
    let container : Path := .parse "x.jar".toList
    let query : Query := ⟨"Foo".toList⟩
    fs.isDirectory root = .ok true ∧
      fs.read container >>= Archive.ofFile fs.unpackers = .ok letterArchive ∧
      letterArchive.Packs root (fs.walk root).items ∧ '.' ∉ query.shortName ∧
      List.SublistForall₂ (FoundFile.PackedAs root true) (listedFiles fs root query true)
        (archiveMatches fs container query true).items ∧
      ((listedFiles fs root query true).map (fileMatch root true)).map Match.package =
        ["a/Foo.java".toList] := by
  intro fs root container query
  have hdirectory : fs.isDirectory root = .ok true := by rfl
  have hpacks : letterArchive.Packs root (fs.walk root).items :=
    letterArchive_packs true (by decide +kernel)
  have hdotless : '.' ∉ query.shortName := by decide
  obtain ⟨-, -, -, hpacked⟩ :=
    listedMatches_packed hdirectory (read_letterFiles _ _) hpacks hdotless true
  exact ⟨hdirectory, read_letterFiles _ _, hpacks, hdotless, hpacked, by decide +kernel⟩

/-- A name of as many bytes as names of four-byte characters may have. -/
def wideName : Text := List.replicate 63 '😀'

/-- To a directory and out of it again, many times: there is room for no more than two characters
behind this path. -/
def windingRoot : Path :=
  ⟨.here, (List.replicate 15 [wideName, "..".toList]).flatten ++ [wideName]⟩

/-- The source of a match as it can be read. -/
def Match.readable (found : Match) : Option (Option Bytes) := found.source.map Except.toOption

/-- The directories can be listed and `x.jar` packs the only file in them, but its source can be
read from there alone. -/
structure LosesSource (fs : FileSystem) (root : Path) : Prop where
  isDirectory : (fs.isDirectory root).toOption = some true
  archive : fs.read (.parse "x.jar".toList) >>= Archive.ofFile fs.unpackers = .ok letterArchive
  packs : letterArchive.Packs root (fs.walk root).items
  listable : (fs.walk root).failure = none
  listed : ((listedFiles fs root ⟨"Foo".toList⟩ true).map (fileMatch root true)).map
    Match.readable = [some none]
  packed : (archiveMatches fs (.parse "x.jar".toList) ⟨"Foo".toList⟩ true).items.map
    Match.readable = [some (some [0x46])]

/-- A file whose path is too long, and one that may not be read. -/
theorem listedMatches_unreadable :
    LosesSource (letterFiles wideName) windingRoot ∧
      LosesSource (letterFiles "src".toList false) (.parse "src".toList) where
  left :=
    { isDirectory := by decide +kernel
      archive := read_letterFiles _ _
      packs := letterArchive_packs true (by decide +kernel)
      listable := by decide +kernel
      listed := by decide +kernel
      packed := by decide +kernel }
  right :=
    { isDirectory := by decide +kernel
      archive := read_letterFiles _ _
      packs := letterArchive_packs false (by decide +kernel)
      listable := by decide +kernel
      listed := by decide +kernel
      packed := by decide +kernel }

end ClassLocator

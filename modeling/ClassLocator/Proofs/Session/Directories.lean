import ClassLocator.Proofs.ClassPath.Directory
import ClassLocator.Proofs.FileSystem.Spelling
import ClassLocator.Proofs.Search.Stream
import ClassLocator.Proofs.Session.Units

/-!
# Directories on the class path

Whether an element is a jar is told from its text alone: one that holds `.jar` anywhere is opened
as an archive, even if a directory is there. All other directories are searched as trees, and so is
the directory of the JDK sources, unless it has the text of an element that is taken for a jar.

## Main definitions

* `ClassPath.SearchesTree`: the tree below a path is searched for one of the elements.

## Main statements

* `ClassPath.directory_mem_elements_iff`, `ClassPath.jar_mem_elements_iff`: the elements for a path.
* `ClassPath.searchesTree_iff_of_named`: which directories are searched as trees.
-/

namespace ClassLocator

namespace Element

variable {fs : FileSystem} {query : Query} {display : Display} {path : Path}

/-- It does not matter in which spelling of a path the mark is looked for. -/
theorem occursIn_jarMark_parse (text : Text) :
    Text.occursIn jarMark (Path.parse text).text = Text.occursIn jarMark text :=
  Path.occursIn_text_parse (by decide) (by decide) (by decide) text

/-- The archive of the sources is marked as a jar as well. -/
theorem occursIn_jarMark_sourceArchive (h : Text.occursIn jarMark path.text = true) :
    Text.occursIn jarMark (sourceArchive path).text = true := by
  rw [sourceArchive, occursIn_jarMark_parse, Text.occursIn_iff]
  rw [Text.occursIn_iff] at h
  have hnew : jarMark <:+: "-sources.jar".toList := ⟨"-sources".toList, [], by decide⟩
  exact hnew.trans (Text.isInfix_replace (by decide) h)

/-- A directory that is taken for a jar cannot be read as an archive. -/
theorem hits_jar_of_isDirectory (hdirectory : fs.isDirectory path = .ok true)
    (hclasses : display.sourceMode = false) :
    ∃ errno : Errno, (errno = .isDirectory ∨ errno = .accessDenied) ∧
      (Element.jar path).hits fs query display =
        .fail (.archiveScan path (.system errno (some path.text))) := by
  obtain ⟨hnul, access, children, hnode⟩ := FileSystem.node?_of_isDirectory hdirectory
  have hread : fs.read path = .error
      (.system (if access.isReadable then .isDirectory else .accessDenied) (some path.text)) := by
    simp [FileSystem.read, hnul, hnode]
  refine ⟨if access.isReadable then .isDirectory else .accessDenied, ite_eq_or_eq .., ?_⟩
  simp only [hits, container, hclasses, Bool.false_eq_true, if_false,
    FileSystem.exists?_of_isDirectory hdirectory, hitsIn, archiveMatches, hread]
  rfl

theorem hits_directory_of_isDirectory (hdirectory : fs.isDirectory path = .ok true) :
    (Element.directory path).hits fs query display =
      (directoryMatches fs path query display.sourceMode).mapFailure (directoryFault path) := by
  simp only [hits, container, FileSystem.exists?_of_isDirectory hdirectory, hitsIn]

end Element

namespace ClassPath

variable {fs : FileSystem} {query : Query} {display : Display} {runtime : Feed Fault Match}
  {texts : List Text} {jdkSource : Option Path} {path : Path}

/-! ## The elements for a path -/

theorem ofText_eq_jar_iff {text : Text} :
    Element.ofText text = .jar path ↔
      Path.parse text = path ∧ Text.occursIn Element.jarMark path.text = true := by
  unfold Element.ofText
  split
  case isTrue hmark =>
    rw [← Element.occursIn_jarMark_parse] at hmark
    constructor
    · rintro ⟨⟩
      exact ⟨rfl, hmark⟩
    · rintro ⟨rfl, -⟩
      rfl
  case isFalse hmark =>
    rw [← Element.occursIn_jarMark_parse] at hmark
    refine iff_of_false nofun ?_
    rintro ⟨rfl, h⟩
    exact hmark h

theorem ofText_eq_directory_iff {text : Text} :
    Element.ofText text = .directory path ↔
      Path.parse text = path ∧ Text.occursIn Element.jarMark path.text = false := by
  unfold Element.ofText
  split
  case isTrue hmark =>
    rw [← Element.occursIn_jarMark_parse] at hmark
    refine iff_of_false nofun ?_
    rintro ⟨rfl, h⟩
    exact absurd hmark (by simp [h])
  case isFalse hmark =>
    rw [← Element.occursIn_jarMark_parse, Bool.not_eq_true] at hmark
    constructor
    · rintro ⟨⟩
      exact ⟨rfl, hmark⟩
    · rintro ⟨rfl, -⟩
      rfl

theorem mem_elements_iff {element : Element} :
    element ∈ elements texts jdkSource ↔
      (∃ text ∈ texts, Element.ofText text = element) ∨
        ∃ source, jdkSource = some source ∧ source.text ∉ texts ∧ element = .directory source := by
  unfold elements
  rw [List.mem_append, List.mem_map]
  refine or_congr (by simp [mem_unseen]) ?_
  cases jdkSource with
  | none => simp
  | some source => by_cases hmem : source.text ∈ texts <;> simp [hmem]

theorem jar_mem_elements_iff :
    .jar path ∈ elements texts jdkSource ↔
      Text.occursIn Element.jarMark path.text = true ∧ ∃ text ∈ texts, Path.parse text = path := by
  simp only [mem_elements_iff, ofText_eq_jar_iff]
  constructor
  · rintro (⟨text, hmem, hparse, hmark⟩ | ⟨source, -, -, ⟨⟩⟩)
    exact ⟨hmark, text, hmem, hparse⟩
  · rintro ⟨hmark, text, hmem, hparse⟩
    exact .inl ⟨text, hmem, hparse, hmark⟩

theorem directory_mem_elements_iff :
    .directory path ∈ elements texts jdkSource ↔
      (Text.occursIn Element.jarMark path.text = false ∧ ∃ text ∈ texts, Path.parse text = path) ∨
        jdkSource = some path ∧ path.text ∉ texts := by
  simp only [mem_elements_iff, ofText_eq_directory_iff]
  constructor
  · rintro (⟨text, hmem, hparse, hmark⟩ | ⟨source, hsource, hnot, ⟨⟩⟩)
    · exact .inl ⟨hmark, text, hmem, hparse⟩
    · exact .inr ⟨hsource, hnot⟩
  · rintro (⟨hmark, text, hmem, hparse⟩ | ⟨hsource, hnot⟩)
    · exact .inl ⟨text, hmem, hparse, hmark⟩
    · exact .inr ⟨path, hsource, hnot, rfl⟩

/-- A JDK source directory that has been looked for is what its own text names. -/
theorem parse_text_of_resolveSource {root : Text}
    (h : Options.resolveSource fs (.parse root) = .ok path) : Path.parse path.text = path := by
  obtain ⟨-, -, rfl⟩ := Options.resolveSource_eq_ok_iff.1 h
  exact Path.parse_text ((Path.isNormal_parse root).child (by decide) (by decide))

theorem isDirectory_of_resolveSource {root : Path}
    (h : Options.resolveSource fs root = .ok path) : fs.isDirectory path = .ok true := by
  obtain ⟨-, hdirectory, rfl⟩ := Options.resolveSource_eq_ok_iff.1 h
  exact hdirectory

/-! ## Trees that are searched -/

/-- The tree below the path is searched for one of the elements: its matches come in the stream
behind those of the elements before. -/
def SearchesTree (fs : FileSystem) (query : Query) (display : Display)
    (runtime : Feed Fault Match) (elements : List Element) (path : Path) : Prop :=
  ∃ earlier later, elements = earlier ++ .directory path :: later ∧
    matchStream fs query display runtime elements =
      ((matchStream fs query display runtime earlier).followedBy
        ((directoryMatches fs path query display.sourceMode).mapFailure
          (directoryFault path))).followedBy
        (.join (later.map (Element.hits fs query display)))

theorem searchesTree_iff_mem {elements : List Element} (hsearched : display.runtimeOnly = false)
    (hdirectory : fs.isDirectory path = .ok true) :
    SearchesTree fs query display runtime elements path ↔ .directory path ∈ elements := by
  constructor
  · rintro ⟨earlier, later, rfl, -⟩
    simp
  · intro hmem
    obtain ⟨earlier, later, rfl⟩ := List.append_of_mem hmem
    refine ⟨earlier, later, rfl, ?_⟩
    simp only [matchStream, hsearched, Bool.false_eq_true, if_false, List.map_append,
      List.map_cons, Feed.join_append, Feed.join_cons,
      Element.hits_directory_of_isDirectory hdirectory, Feed.followedBy_assoc]

/-- A directory that an element names, or that holds the sources of a JDK, is searched as a tree
unless `.jar` is part of its text, and then it is no archive that is opened for any element. The
directory of the JDK sources is searched in any case if no element has its text. But a directory
with `.jar` in its text is taken for a jar where an element names it: outside source mode the scan
fails, since a directory is nothing that can be read as a file, if it may be read at all. -/
theorem searchesTree_iff_of_named (query : Query) (display : Display) (runtime : Feed Fault Match)
    (hsearched : display.runtimeOnly = false)
    (hvalid : ∀ source ∈ jdkSource, ∃ root, Options.resolveSource fs (.parse root) = .ok source)
    (hnamed : (∃ text ∈ texts, Path.parse text = path) ∧ fs.isDirectory path = .ok true ∨
      jdkSource = some path) :
    (SearchesTree fs query display runtime (elements texts jdkSource) path ↔
        Text.occursIn Element.jarMark path.text = false ∨
          jdkSource = some path ∧ path.text ∉ texts) ∧
      (Text.occursIn Element.jarMark path.text = false →
        ∀ jar, .jar jar ∈ elements texts jdkSource →
          (Element.jar jar).container display.sourceMode ≠ path) ∧
      (Text.occursIn Element.jarMark path.text = true → (∃ text ∈ texts, Path.parse text = path) →
        .jar path ∈ elements texts jdkSource ∧
          (display.sourceMode = false →
            ∃ errno : Errno, (errno = .isDirectory ∨ errno = .accessDenied) ∧
              (Element.jar path).hits fs query display =
                .fail (.archiveScan path (.system errno (some path.text))))) := by
  have hdirectory : fs.isDirectory path = .ok true := by
    rcases hnamed with ⟨-, hdirectory⟩ | hsource
    · exact hdirectory
    · obtain ⟨root, hroot⟩ := hvalid path hsource
      exact isDirectory_of_resolveSource hroot
  refine ⟨?_, ?_, ?_⟩
  · rw [searchesTree_iff_mem hsearched hdirectory, directory_mem_elements_iff]
    refine or_congr_left' fun hnot => and_iff_left_of_imp fun _ => ?_
    rcases hnamed with ⟨htexts, -⟩ | hsource
    · exact htexts
    -- The directory of the JDK sources is left to an element with its text, which names it too.
    · obtain ⟨root, hroot⟩ := hvalid path hsource
      have hmem : path.text ∈ texts := Classical.byContradiction fun h => hnot ⟨hsource, h⟩
      exact ⟨path.text, hmem, parse_text_of_resolveSource hroot⟩
  · intro hmark jar hmem hcontainer
    obtain ⟨hjar, -⟩ := jar_mem_elements_iff.1 hmem
    have hmarked : Text.occursIn Element.jarMark path.text = true := by
      rw [← hcontainer, Element.container]
      split
      · exact Element.occursIn_jarMark_sourceArchive hjar
      · exact hjar
    rw [hmark] at hmarked
    cases hmarked
  · intro hmark htexts
    exact ⟨jar_mem_elements_iff.2 ⟨hmark, htexts⟩, Element.hits_jar_of_isDirectory hdirectory⟩

/-- A root of a JDK with sources, in the working directory and under this name. -/
def rootNamed (name : Text) : FileSystem :=
  let source := Node.directory {} [("Foo.java".toList, .file { bytes := [] } false)]
  { top := [(name, .directory {} [("src".toList, source)])], workingDirectory := [] }

/-- An element has the text of the directory of the JDK sources, and it is searched as a tree. -/
theorem searchesTree_iff_of_named_jdk :
    Options.resolveSource (rootNamed "jdk") (.parse "jdk".toList) = .ok (.parse "jdk/src".toList) ∧
      SearchesTree (rootNamed "jdk") ⟨"Foo"⟩ {} .empty
        (elements ["jdk/src".toList] (some (.parse "jdk/src".toList)))
        (.parse "jdk/src".toList) := by
  have hroot : Options.resolveSource (rootNamed "jdk") (.parse "jdk".toList) =
      .ok (.parse "jdk/src".toList) := by rfl
  refine ⟨hroot, (searchesTree_iff_of_named ⟨"Foo"⟩ {} .empty rfl ?_ (.inr rfl)).1.2
    (.inl (by decide))⟩
  rintro _ ⟨⟩
  exact ⟨_, hroot⟩

/-- The same with a root that is called like a jar: the search fails there, and the directory is
never searched. -/
theorem not_searchesTree_of_marked_root :
    Options.resolveSource (rootNamed "x.jar") (.parse "x.jar".toList) =
        .ok (.parse "x.jar/src".toList) ∧
      ¬ SearchesTree (rootNamed "x.jar") ⟨"Foo"⟩ {} .empty
        (elements ["x.jar/src".toList] (some (.parse "x.jar/src".toList)))
        (.parse "x.jar/src".toList) ∧
      matchStream (rootNamed "x.jar") ⟨"Foo"⟩ {} .empty
          (elements ["x.jar/src".toList] (some (.parse "x.jar/src".toList))) =
        .fail (.archiveScan (.parse "x.jar/src".toList)
          (.system .isDirectory (some "x.jar/src".toList))) := by
  refine ⟨by rfl, ?_, by rfl⟩
  rw [searchesTree_iff_mem rfl (by rfl)]
  decide

end ClassPath

end ClassLocator

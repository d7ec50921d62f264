import ClassLocator.Proofs.FileSystem.Traversal
import ClassLocator.Proofs.Search.Stream
import ClassLocator.Report

/-!
# Where matches come from

Every match that a search hands over is a class of the runtime, or stands for a file or for the
member of an archive in one of the elements. From this it is known how its fields go together: what
a report relies on without asking is so for every one of them.

Outside source mode a search goes by names alone. Two file systems in which the elements lead to
the same names give the same search, whatever their files hold, and a report does not look at the
source of a match.

## Main definitions

* `Element.Finds`: the matches that an element gives, with the names that they are found by.
* `Match.IsCoherent`: how the fields of a match go together.
* `Element.SameNames`: two file systems in which an element leads to the same names.

## Main statements

* `Element.scan_of_sameNames`: outside source mode contents do not matter.
* `search_hands_over`: what is true of all matches that are handed over.
-/

namespace ClassLocator

/-! ## The matches of an element -/

/-- The element gives this match: for a file in its tree, or for a member of its archive, and this
is the name that the query has been looked for in. -/
inductive Element.Finds (fs : FileSystem) (query : Query) (sourceMode : Bool) :
    Element → Text → Match → Prop
  | file {root : Path} {file : FoundFile} : file ∈ (fs.walk root).items →
      query.shortName <:+: file.path.name →
      Finds fs query sourceMode (.directory root) file.path.name (fileMatch root sourceMode file)
  | member {jar container : Path} {archive : Archive} {member : Archive.Member} {first : Bool} :
      container = (Element.jar jar).container sourceMode →
      (fs.read container >>= Archive.ofFile fs.unpackers) = .ok archive → member ∈ archive.members →
      query.selects sourceMode member.name = true →
      Finds fs query sourceMode (.jar jar) member.name
        (memberMatch archive container sourceMode first member)

namespace Element

variable {fs : FileSystem} {query : Query} {display : Display} {sourceMode : Bool}
  {element : Element} {name : Text} {found : Match}

theorem finds_of_mem_directoryMatches {root : Path}
    (h : found ∈ (directoryMatches fs root query sourceMode).items) :
    ∃ name, Finds fs query sourceMode (.directory root) name found := by
  obtain ⟨file, hmem, hmatch⟩ := List.mem_filterMap.1 h
  unfold fileMatch? at hmatch
  split at hmatch
  case isTrue hname =>
    cases hmatch
    exact ⟨_, .file hmem (Text.occursIn_iff.1 hname)⟩
  case isFalse => cases hmatch

theorem exists_of_mem_memberMatches {archive : Archive} {container : Path} {first : Bool}
    {members : List Archive.Member}
    (h : found ∈ memberMatches archive container query sourceMode first members) :
    ∃ member ∈ members, query.selects sourceMode member.name = true ∧
      ∃ first, found = memberMatch archive container sourceMode first member := by
  induction members generalizing first with
  | nil => exact absurd h List.not_mem_nil
  | cons member rest ih =>
    unfold memberMatches at h
    split at h
    case isTrue hselects =>
      rcases List.mem_cons.1 h with rfl | h
      · exact ⟨member, List.mem_cons_self, hselects, first, rfl⟩
      · obtain ⟨other, hmem, hother⟩ := ih h
        exact ⟨other, List.mem_cons_of_mem member hmem, hother⟩
    case isFalse =>
      obtain ⟨other, hmem, hother⟩ := ih h
      exact ⟨other, List.mem_cons_of_mem member hmem, hother⟩

theorem finds_of_mem_archiveMatches {jar container : Path}
    (hcontainer : container = (Element.jar jar).container sourceMode)
    (h : found ∈ (archiveMatches fs container query sourceMode).items) :
    ∃ name, Finds fs query sourceMode (.jar jar) name found := by
  unfold archiveMatches at h
  split at h
  case h_1 archive hread =>
    obtain ⟨member, hmem, hselects, first, rfl⟩ := exists_of_mem_memberMatches h
    exact ⟨_, .member hcontainer hread hmem hselects⟩
  case h_2 => cases h

/-- An element gives no other matches. -/
theorem finds_of_mem_hits (h : found ∈ (element.hits fs query display).items) :
    ∃ name, element.Finds fs query display.sourceMode name found := by
  unfold hits at h
  dsimp only at h
  split at h
  case h_1 =>
    cases element with
    | directory root => exact finds_of_mem_directoryMatches h
    | jar jar => exact finds_of_mem_archiveMatches rfl h
  case h_2 => cases h
  case h_3 => cases h

end Element

/-! ## Fields that go together -/

/-- Only a member of an archive has the name of one, and this is its package; only such a match
may come after another one in the same container. -/
structure Match.IsCoherent (found : Match) : Prop where
  memberName : found.memberName = if found.kind = .archive then some found.package else none
  first : found.firstInContainer = false → found.kind = .archive

theorem LoadedClass.toMatch_isCoherent (loaded : LoadedClass) : loaded.toMatch.IsCoherent where
  memberName := rfl
  first := nofun

namespace Element.Finds

variable {fs : FileSystem} {query : Query} {sourceMode : Bool} {element : Element} {name : Text}
  {found : Match}

theorem isCoherent (h : element.Finds fs query sourceMode name found) : found.IsCoherent := by
  cases h with
  | file => exact ⟨rfl, nofun⟩
  | member => exact ⟨rfl, fun _ => rfl⟩

theorem kind_ne_runtime (h : element.Finds fs query sourceMode name found) :
    found.kind ≠ .runtime := by
  cases h with
  | file => nofun
  | member => nofun

/-- Only in source mode there is a source, and only for what has the name of one. -/
theorem of_source (h : element.Finds fs query sourceMode name found)
    (hsource : found.source ≠ none) : sourceMode = true ∧ sourceExtension <:+: name := by
  cases h with
  | @file root file =>
    have hboth : (sourceMode && Text.occursIn sourceExtension file.path.name) = true := by
      refine Classical.byContradiction fun hnot => hsource ?_
      exact if_neg hnot
    obtain ⟨hmode, hname⟩ := Bool.and_eq_true_iff.1 hboth
    exact ⟨hmode, Text.occursIn_iff.1 hname⟩
  | @member jar container archive member first hcontainer hread hmem hselects =>
    have hmode : sourceMode = true := by
      refine Classical.byContradiction fun hnot => hsource ?_
      exact if_neg hnot
    subst hmode
    obtain ⟨-, hname⟩ := Bool.and_eq_true_iff.1 hselects
    exact ⟨rfl, Text.occursIn_iff.1 hname⟩

end Element.Finds

/-- The disassembler can be asked for a coherent match, whatever is displayed. -/
theorem Match.IsCoherent.exists_disassembly {σ : Type} {found : Match} (h : found.IsCoherent)
    (reporter : Reporter σ) : ∃ request, reporter.disassembly found = .ok request := by
  have hname := h.memberName
  unfold Reporter.disassembly
  cases hkind : found.kind with
  | archive =>
    rw [hkind, if_pos rfl] at hname
    rw [hname]
    exact ⟨_, rfl⟩
  | runtime => exact ⟨_, rfl⟩
  | directory => exact ⟨_, rfl⟩

/-! ## Searches by name -/

/-- The names of the members, in the order of the directory. -/
def Archive.names (archive : Archive) : List Text := archive.members.map Member.name

/-- In both file systems the element is there or is not, and leads to the same names: to files with
the same paths, or to an archive whose members have the same names. -/
def Element.SameNames (fs other : FileSystem) : Element → Prop
  | .directory root =>
    other.exists? root = fs.exists? root ∧
      (other.walk root).map FoundFile.path = (fs.walk root).map FoundFile.path
  | .jar path =>
    other.exists? path = fs.exists? path ∧
      (other.read path >>= Archive.ofFile other.unpackers).map Archive.names =
        (fs.read path >>= Archive.ofFile fs.unpackers).map Archive.names

section

variable {fs other : FileSystem} {query : Query} {display : Display} {element : Element}

theorem directoryMatches_of_paths (root : Path) (query : Query)
    (h : (other.walk root).map FoundFile.path = (fs.walk root).map FoundFile.path) :
    directoryMatches other root query false = directoryMatches fs root query false := by
  have hpaths (fs : FileSystem) : directoryMatches fs root query false =
      ((fs.walk root).map FoundFile.path).filterMap fun path =>
        fileMatch? root query false ⟨path, { bytes := [] }⟩ := by
    refine Feed.ext ?_ rfl
    simp only [directoryMatches, Feed.items_filterMap, Feed.items_map, List.filterMap_map]
    rfl
  rw [hpaths, hpaths, h]

/-- Of archives only the names of their members count. -/
theorem memberMatches_of_names {archive counterpart : Archive} (container : Path) (query : Query)
    {members others : List Archive.Member}
    (h : others.map Archive.Member.name = members.map Archive.Member.name) (first : Bool) :
    memberMatches counterpart container query false first others =
      memberMatches archive container query false first members := by
  induction members generalizing others first with
  | nil =>
    rw [List.map_nil, List.map_eq_nil_iff] at h
    rw [h]
    rfl
  | cons member rest ih =>
    obtain ⟨same, later, rfl, hname, hrest⟩ := List.map_eq_cons_iff.1 h
    unfold memberMatches
    rw [hname, ih hrest, ih hrest]
    simp only [memberMatch, hname]
    rfl

theorem archiveMatches_of_names (container : Path) (query : Query)
    (h : (other.read container >>= Archive.ofFile other.unpackers).map Archive.names =
      (fs.read container >>= Archive.ofFile fs.unpackers).map Archive.names) :
    archiveMatches other container query false = archiveMatches fs container query false := by
  unfold archiveMatches
  cases hread : fs.read container >>= Archive.ofFile fs.unpackers with
  | error cause =>
    cases hother : other.read container >>= Archive.ofFile other.unpackers with
    | error _ =>
      rw [hread, hother] at h
      cases h
      rfl
    | ok _ =>
      rw [hread, hother] at h
      cases h
  | ok archive =>
    cases hother : other.read container >>= Archive.ofFile other.unpackers with
    | error _ =>
      rw [hread, hother] at h
      cases h
    | ok counterpart =>
      rw [hread, hother] at h
      have hnames : counterpart.names = archive.names := Except.ok.inj h
      exact congrArg Feed.ofList (memberMatches_of_names container query hnames true)

/-- Outside source mode the scan of an element goes by names alone. -/
theorem Element.scan_of_sameNames (hmode : display.sourceMode = false)
    (h : element.SameNames fs other) :
    element.scan other query display = element.scan fs query display := by
  cases element with
  | directory root =>
    simp only [scan, scanDirectory, ifExists, hmode, h.1, directoryMatches_of_paths root query h.2]
  | jar path =>
    simp only [scan, scanJar, scanArchive, ifExists, hmode, h.1, Bool.false_eq_true, if_false,
      archiveMatches_of_names path query h.2]

theorem eventStream_of_sameNames {runtime : Feed Fault Event} {elements : List Element}
    (hmode : display.sourceMode = false) (h : ∀ element ∈ elements, element.SameNames fs other) :
    eventStream other query display runtime elements =
      eventStream fs query display runtime elements := by
  have hscans : elements.map (Element.scan other query display) =
      elements.map (Element.scan fs query display) :=
    List.map_congr_left fun element hmem => Element.scan_of_sameNames hmode (h element hmem)
  rw [eventStream, eventStream, hscans]

end

/-- Outside source mode a report does not look at the source. -/
theorem Reporter.report_of_source {σ : Type} (reporter : Reporter σ)
    (hmode : reporter.display.sourceMode = false) (found : Match)
    (source : Option (Except Cause Bytes)) :
    reporter.report { found with source } = reporter.report found := by
  unfold report writeSource
  rw [hmode]
  rfl

/-! ## Searches -/

variable {σ : Type} {fs : FileSystem} {query : Query} {display : Display}
  {runtime : Feed Fault Event} {elements : List Element} {found : Match}

theorem mem_matchStream {runtime : Feed Fault Match}
    (h : found ∈ (matchStream fs query display runtime elements).items) :
    found ∈ runtime.items ∨ ∃ element ∈ elements, ∃ name,
      element.Finds fs query display.sourceMode name found := by
  have honly : (matchStream fs query display runtime elements).Only
      (fun found => found ∈ runtime.items ∨ ∃ element ∈ elements, ∃ name,
        element.Finds fs query display.sourceMode name found) fun _ => True := by
    refine Feed.Only.followedBy ⟨fun _ => .inl, fun _ _ => trivial⟩ ?_
    split
    · exact .empty
    · refine .join fun feed hmem => ?_
      obtain ⟨element, helement, rfl⟩ := List.mem_map.1 hmem
      exact ⟨fun found hfound => .inr ⟨element, helement, Element.finds_of_mem_hits hfound⟩,
        fun _ _ => trivial⟩
  exact honly.items found h

/-- The matches that a search hands over to a callback. -/
def received (callback : Match → Action σ Flow) (fs : FileSystem) (query : Query)
    (display : Display) (runtime : Feed Fault Event) (elements : List Element) (state : σ) :
    List Match :=
  ((search (.recording callback) fs query display runtime elements).runFrom (state, [])).2.2

/-- A search hands over nothing but the matches of its stream. -/
theorem mem_matchStream_of_mem_received {callback : Match → Action σ Flow} {state : σ}
    (h : found ∈ received callback fs query display runtime elements state) :
    found ∈ (matchStream fs query display (runtime.filterMap Event.match?) elements).items := by
  obtain ⟨taken, answer, after, hbegins, hdelivers, -, hrun⟩ :=
    search_delivers fs query display runtime elements (.recording callback) (state, [])
  rw [received, hrun, hdelivers.answers.2, List.nil_append] at h
  rw [← filterMap_eventStream]
  exact (hbegins.filterMap _).subset h

theorem mem_received (hruntime : ∀ found, .hit found ∈ runtime.items →
      ∃ loaded : LoadedClass, found = loaded.toMatch)
    {callback : Match → Action σ Flow} {state : σ}
    (h : found ∈ received callback fs query display runtime elements state) :
    (∃ loaded : LoadedClass, found = loaded.toMatch) ∨ ∃ element ∈ elements, ∃ name,
      element.Finds fs query display.sourceMode name found := by
  rcases mem_matchStream (mem_matchStream_of_mem_received h) with hloaded | hfinds
  · obtain ⟨event, hevent, hmatch⟩ := List.mem_filterMap.1 hloaded
    cases event with
    | notice given => cases hmatch
    | hit other =>
      cases hmatch
      exact .inl (hruntime _ hevent)
  · exact .inr hfinds

/-- Whatever a callback answers, each match that it is handed is coherent, so that every reporter
can ask its disassembler for it, and has a source only in source mode, and only as a file or a
member whose name holds the extension of sources. Outside source mode no match has a source, it
makes no difference to the search what the files hold, and a report does not look at sources. -/
theorem search_hands_over (fs : FileSystem) (query : Query) (display : Display)
    {runtime : Feed Fault Event} (hruntime : ∀ found, .hit found ∈ runtime.items →
      ∃ loaded : LoadedClass, found = loaded.toMatch)
    (elements : List Element) (callback : Match → Action σ Flow) (state : σ) :
    (∀ found ∈ received callback fs query display runtime elements state,
      found.IsCoherent ∧
      (found.source ≠ none → display.sourceMode = true ∧ found.kind ≠ .runtime ∧
        ∃ element ∈ elements, ∃ name, element.Finds fs query display.sourceMode name found ∧
          sourceExtension <:+: name) ∧
      ∀ (τ : Type) (reporter : Reporter τ), ∃ request, reporter.disassembly found = .ok request) ∧
    (display.sourceMode = false →
      (∀ found ∈ received callback fs query display runtime elements state,
        found.source = none) ∧
      ∀ other, (∀ element ∈ elements, element.SameNames fs other) →
        search (.recording callback) other query display runtime elements =
          search (.recording callback) fs query display runtime elements) ∧
    ∀ (τ : Type) (reporter : Reporter τ), reporter.display.sourceMode = false →
      ∀ (found : Match) source, reporter.report { found with source } = reporter.report found := by
  have hsource : ∀ found ∈ received callback fs query display runtime elements state,
      found.source ≠ none → display.sourceMode = true ∧ found.kind ≠ .runtime ∧
        ∃ element ∈ elements, ∃ name, element.Finds fs query display.sourceMode name found ∧
          sourceExtension <:+: name := by
    intro found hmem hsome
    rcases mem_received hruntime hmem with ⟨loaded, rfl⟩ | ⟨element, helement, name, hfinds⟩
    · exact absurd rfl hsome
    · obtain ⟨hmode, hname⟩ := hfinds.of_source hsome
      exact ⟨hmode, hfinds.kind_ne_runtime, element, helement, name, hfinds, hname⟩
  refine ⟨fun found hmem => ?_, fun hmode => ⟨fun found hmem => ?_, fun other hnames => ?_⟩,
    fun τ reporter hmode found source => reporter.report_of_source hmode found source⟩
  · have hcoherent : found.IsCoherent := by
      rcases mem_received hruntime hmem with ⟨loaded, rfl⟩ | ⟨element, -, name, hfinds⟩
      · exact loaded.toMatch_isCoherent
      · exact hfinds.isCoherent
    exact ⟨hcoherent, hsource found hmem, fun τ reporter => hcoherent.exists_disassembly reporter⟩
  · refine Classical.byContradiction fun hsome => ?_
    rw [(hsource found hmem hsome).1] at hmode
    cases hmode
  · rw [search_eq, search_eq, eventStream_of_sameNames hmode hnames]

/-- A directory with a class file that holds these bytes. -/
def mapFile (bytes : Bytes) : FileSystem :=
  { workingDirectory := []
    top := [("a".toList, .directory {} [("Map.class".toList, .file { bytes } false)])] }

theorem walk_mapFile (bytes : Bytes) :
    (mapFile bytes).walk (.parse "a".toList) =
      .ofList [⟨.parse "a/Map.class".toList, { bytes }⟩] := by
  have hfiles : (mapFile bytes).walk (.parse "a".toList) =
      (Node.directory {} [("Map.class".toList, .file { bytes } false)]).files true
        (.parse "a".toList) := FileSystem.walk_eq_files rfl rfl
  rw [hfiles]
  simp only [Node.files, Node.branches, List.mergeSort_singleton]
  rfl

/-- A search that goes on to its end. -/
def mapsReceived (bytes : Bytes) : List Match :=
  received (fun _ => pure .continue) (mapFile bytes) ⟨"Map".toList⟩ {}
    (catalogFeed [] [⟨"java.util.Map".toList, "jrt:/java.base/java/util/Map.class".toList⟩])
    [.directory (.parse "a".toList)] ()

theorem search_hands_over_maps :
    (∀ element ∈ [Element.directory (.parse "a".toList)],
        element.SameNames (mapFile [1]) (mapFile [2])) ∧
      mapsReceived [1] = mapsReceived [2] ∧
      (mapsReceived [1]).map Match.package = ["java.util.Map".toList, "Map.class".toList] ∧
      ∀ found ∈ mapsReceived [1], found.IsCoherent ∧ found.source = none := by
  have hruntime : ∀ found, .hit found ∈ (catalogFeed []
      [⟨"java.util.Map".toList, "jrt:/java.base/java/util/Map.class".toList⟩]).items →
      ∃ loaded : LoadedClass, found = loaded.toMatch := by
    intro found hmem
    cases List.mem_singleton.1 hmem
    exact ⟨_, rfl⟩
  have hnames : ∀ element ∈ [Element.directory (.parse "a".toList)],
      element.SameNames (mapFile [1]) (mapFile [2]) := by
    intro element hmem
    cases List.mem_singleton.1 hmem
    exact ⟨by rfl, by rw [walk_mapFile, walk_mapFile]; rfl⟩
  have hover := search_hands_over (mapFile [1]) ⟨"Map".toList⟩ {} hruntime
    [.directory (.parse "a".toList)] (fun _ => pure .continue) ()
  have hnone := hover.2.1 rfl
  refine ⟨hnames, ?_, by decide +kernel,
    fun found hmem => ⟨(hover.1 found hmem).1, hnone.1 found hmem⟩⟩
  rw [mapsReceived, mapsReceived, received, received, hnone.2 (mapFile [2]) hnames]

end ClassLocator

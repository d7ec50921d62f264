import ClassLocator.Proofs.ClassPath.Members
import ClassLocator.Proofs.ClassPath.Packing
import ClassLocator.Proofs.Session.Commands
import ClassLocator.Proofs.Session.Setup

/-!
# Lines of paths

A report names the place of its match if the match is marked for that. In a run that shows paths
and whose reports let the search go on, the lines of the paths are those of the marked matches, so
each archive is named once however many matches it has.

## Main definitions

* `Transcript.pathLines`: the lines of paths that a run has printed.

## Main statements

* `Session.Renders.pathLines`: the lines that events leave.
* `Session.pathLines_of_run`: the marks in an archive, and the number of lines in a run.
-/

namespace ClassLocator

/-- How a line of a path begins. -/
def pathMark : Text := "Path: "

/-- The line of a path, if the piece is one. -/
def Piece.pathLine? : Piece → Option Text
  | .report text => if pathMark.isPrefixOf text then some text else none
  | _ => none

def Transcript.pathLines (transcript : Transcript) : List Text :=
  transcript.filterMap Piece.pathLine?

@[simp] theorem Transcript.pathLines_append (transcript others : Transcript) :
    Transcript.pathLines (transcript ++ others) =
      Transcript.pathLines transcript ++ Transcript.pathLines others :=
  List.filterMap_append

namespace Session

variable {host : Host} {display : Display} {setup : Setup} {found : Match} {pieces : Transcript}

/-! ## Lines of a report -/

/-- The line of a package is no line of a path, even if it stands alone. -/
theorem pathLines_headPieces :
    (headPieces host display setup found).pathLines =
      ((reporter host display setup).pathLine? found).toList := by
  have hpath : Transcript.pathLines
      (((reporter host display setup).pathLine? found).toList.map .report) =
        ((reporter host display setup).pathLine? found).toList := by
    unfold Reporter.pathLine?
    split <;> rfl
  have hpackage : Transcript.pathLines
      (((reporter host display setup).packageLine? found).toList.map .report) = [] := by
    unfold Reporter.packageLine?
    cases hindent : (reporter host display setup).display.showPath with
    | false => split <;> rfl
    | true => split <;> rfl
  rw [headPieces, Transcript.pathLines_append, hpath, hpackage, List.append_nil]

theorem Lists.pathLines (h : Lists host display setup found pieces) : pieces.pathLines = [] := by
  cases h with
  | unwanted => rfl
  | ran => rfl

theorem Reports.pathLines (h : Reports host display setup found (.ok .continue) pieces) :
    pieces.pathLines = ((reporter host display setup).pathLine? found).toList := by
  cases h with
  | sourceless hlists =>
    rw [Transcript.pathLines_append, hlists.pathLines, pathLines_headPieces, List.append_nil]

/-- Events that were gone through leave the lines of their matches. -/
theorem Renders.pathLines {events : List Event}
    (h : Renders host display setup events pieces) :
    pieces.pathLines = (matchesOf events).filterMap (reporter host display setup).pathLine? := by
  induction h with
  | nil => rfl
  | notice _ ih => exact ih
  | @hit found rest block pieces hreports _ ih =>
    have hmatches : matchesOf (.hit found :: rest) = found :: matchesOf rest := rfl
    rw [Transcript.pathLines_append, hreports.pathLines, ih, hmatches]
    cases hline : (reporter host display setup).pathLine? found with
    | none => exact (List.filterMap_cons_none hline).symm
    | some line => exact (List.filterMap_cons_some hline).symm

/-- If paths are shown there is a line for each match that is marked. -/
theorem length_filterMap_pathLine? (hshow : display.showPath = true) (items : List Match) :
    (items.filterMap (reporter host display setup).pathLine?).length =
      items.countP (·.firstInContainer) := by
  rw [List.length_filterMap_eq_countP]
  refine List.countP_congr fun found _ => ?_
  simp only [Reporter.pathLine?, reporter, hshow, Bool.true_and]
  cases found.firstInContainer <;> rfl

/-! ## Lines of a run -/

variable {request : Request} {options : Options}

theorem pathLines_searchWith {result : Except Fault Outcome} {transcript : Transcript}
    (hrun : (searchAction host options setup).runFrom [] = (result, transcript)) :
    (searchWith host options setup).transcript.pathLines = transcript.pathLines := by
  rcases result with fault | outcome
  · cases hreported : fault.isReported with
    | false =>
      unfold searchWith
      rw [hrun]
      simp only [hreported]
      rfl
    | true =>
      rw [searchWith_reported hrun hreported, Transcript.pathLines_append]
      exact List.append_nil _
  · rw [searchWith_ok hrun]

/-- The report behind which a search comes to its end is among those of the matches that are handed
over. -/
theorem answer_of_continues {earlier rest : List Event} {last : Transcript}
    {answer : Except Fault Flow} (hrenders : Renders host display setup earlier pieces)
    (hreports : Reports host display setup found answer last)
    (hcontinues : ∀ each ∈ handedOver (answerTo host display setup)
        (matchesOf (earlier ++ .hit found :: rest)),
      answerTo host display setup each = .ok .continue) :
    answer = .ok .continue := by
  refine Classical.byContradiction fun hne => hne ?_
  rw [(commands_of_last hrenders hreports hne).1] at hcontinues
  rw [hreports.answer_eq]
  exact hcontinues found (by simp [matchesOf, Event.match?])

/-- A search whose reports all go on goes through all its events. -/
theorem Searches.renders {stream : Feed Fault Event} {result : Except Fault Outcome}
    {transcript : Transcript} (h : Searches host display setup stream result transcript)
    (hcontinues : ∀ found ∈ handedOver (answerTo host display setup) (matchesOf stream.items),
      answerTo host display setup found = .ok .continue) :
    Renders host display setup stream.items transcript := by
  cases h with
  | exhausted hrenders => exact hrenders
  | brokenOff hrenders => exact hrenders
  | stopped hitems hrenders hreports =>
    rw [hitems] at hcontinues
    cases answer_of_continues hrenders hreports hcontinues
  | failed hitems hrenders hreports =>
    rw [hitems] at hcontinues
    cases answer_of_continues hrenders hreports hcontinues

/-- The lines of a run whose reports all go on. -/
theorem pathLines_of_continues (hsetup : Session.setup host request options = .ok setup)
    (hcontinues : ∀ found ∈ handed host options setup,
      answerTo host options.display setup found = .ok .continue) :
    (searchWith host options setup).transcript.pathLines =
      (matchesOf (stream host options setup).items).filterMap
        (reporter host options.display setup).pathLine? := by
  have hsound := (stream_only hsetup).items
  obtain ⟨result, transcript, hrun, hsearches⟩ := searchAction_searches hsound
  rw [handed_eq hsound] at hcontinues
  rw [pathLines_searchWith hrun]
  exact (hsearches.renders hcontinues).pathLines

/-- The matches of the runtime are of its kind, and all of them are marked. -/
theorem mem_runtime (hsetup : Session.setup host request options = .ok setup) :
    ∀ found ∈ (setup.runtime.filterMap Event.match?).items,
      found.kind = .runtime ∧ found.firstInContainer = true := by
  intro found hmem
  obtain ⟨event, hevent, hfound⟩ := List.mem_filterMap.1 hmem
  have hloaded := (setup_only hsetup).items event hevent
  cases event with
  | notice given => cases hfound
  | hit other =>
    cases hfound
    obtain ⟨loaded, rfl⟩ := hloaded
    exact ⟨rfl, rfl⟩

/-- In an archive that can be read there is one match for each member whose name holds the query
and the extension, in the order of the members; each is made of its own member, whatever other
members have the same name, and just the first one is marked. So a run that shows paths and whose
reports all go on prints as many lines of paths as there are matches of the runtime and of
directories, and archives that have a match. -/
theorem pathLines_of_run :
    (∀ (fs : FileSystem) (container : Path) (archive : Archive),
      fs.read container >>= Archive.ofFile fs.unpackers = .ok archive →
      ∀ (query : Query) (sourceMode : Bool),
        let found := archiveMatches fs container query sourceMode
        found.failure = none ∧
          List.Forall₂ (Match.Shows archive container sourceMode)
            (archive.members.filter fun member =>
              query.slashForm <:+: member.name ∧ Query.extension sourceMode <:+: member.name)
            found.items ∧
          ∀ (i : Nat) (hi : i < found.items.length),
            (found.items[i]).firstInContainer = true ↔ i = 0) ∧
    ∀ (host : Host) (request : Request) (options : Options) (setup : Setup),
      Options.parse host.files request.arguments = .ok options →
      Session.setup host request options = .ok setup → options.display.showPath = true →
      (∀ found ∈ handed host options setup, ∀ before,
        (((reporter host options.display setup).report found).runFrom before).1 =
          .ok .continue) →
      let query : Query := ⟨options.className⟩
      let runtime := setup.runtime.filterMap Event.match?
      let items := (matchStream host.files query options.display runtime setup.elements).items
      (Session.run host request).transcript.pathLines.length =
        items.countP (·.kind = .runtime) + items.countP (·.kind = .directory) +
          (reached host.files query options.display runtime setup.elements).countP
            (Element.isMatchingArchive host.files query options.display) := by
  refine ⟨fun fs container archive harchive query sourceMode =>
    archiveMatches_members harchive query sourceMode, ?_⟩
  intro host request options setup hparsed hsetup hshow hcontinues query runtime items
  have hanswers : ∀ found ∈ handed host options setup,
      answerTo host options.display setup found = .ok .continue := by
    intro found hmem
    have hsound := isSound_of_mem_handed (stream_only hsetup).items found hmem
    rw [← report_answers hsound []]
    exact hcontinues found hmem []
  have hitems : matchesOf (stream host options setup).items = items :=
    congrArg Feed.items (filterMap_stream host options setup)
  rw [run_eq_searchWith hparsed hsetup, pathLines_of_continues hsetup hanswers, hitems,
    length_filterMap_pathLine? hshow]
  exact countP_firstInContainer_matches _ _ _ (mem_runtime hsetup) setup.elements

/-- Where neither sources nor members are wanted all reports go on. -/
theorem continues_of_plain (hsetup : Session.setup host request options = .ok setup)
    (hmode : options.display.sourceMode = false) (hlists : options.display.listsMethods = false) :
    ∀ found ∈ handed host options setup, ∀ before,
      (((reporter host options.display setup).report found).runFrom before).1 =
        .ok .continue := by
  intro found hmem before
  have hsound := isSound_of_mem_handed (stream_only hsetup).items found hmem
  rw [report_answers hsound before]
  rw [hmode] at hsound
  simp only [answerTo, hlists, Match.answer, hsound.source_eq_none]

/-- An archive with two members of the same name, which holds both extensions. Each of them is a
letter, and they are not the same. -/
def twinBytes : Bytes :=
  let name := Utf8.encode "Foo.java.class".toList
  let summary (checksum : Bytes) :=
    List.replicate 8 0 ++ checksum ++ [1, 0, 0, 0, 1, 0, 0, 0, 14, 0, 0, 0]
  let first := summary [0x28, 0x0B, 0xBD, 0x4D]
  let second := summary [0xBE, 0x3B, 0xBA, 0x3A]
  [0x50, 0x4B, 3, 4, 20, 0] ++ first ++ name ++ [0x46] ++
    [0x50, 0x4B, 3, 4, 20, 0] ++ second ++ name ++ [0x47] ++
    [0x50, 0x4B, 1, 2, 20, 0, 20, 0] ++ first ++ List.replicate 14 0 ++ name ++
    [0x50, 0x4B, 1, 2, 20, 0, 20, 0] ++ second ++ List.replicate 10 0 ++ [45, 0, 0, 0] ++ name ++
    [0x50, 0x4B, 5, 6, 0, 0, 0, 0, 2, 0, 2, 0, 120, 0, 0, 0, 90, 0, 0, 0, 0, 0]

/-- A class in a directory, and the archive. -/
def twinFiles : List (Text × Node) :=
  [("x.jar".toList, .file { bytes := twinBytes } false),
    ("api".toList, .directory {} [("Foo.class".toList, .file { bytes := [] } false)])]

/-- Both are on the class path. -/
def twinHost : Host := .ofClassPath "api:x.jar".toList twinFiles

def twinRequest : Request where
  arguments := ["Foo".toList]
  loadedClasses := some [⟨"a.Foo".toList, "jrt:/m/a/Foo.class".toList⟩]

def twinOptions : Options := ⟨"Foo".toList, {}, none⟩

def twinSetup : Setup where
  runtime := .ofList [.hit (LoadedClass.toMatch ⟨"a.Foo".toList, "jrt:/m/a/Foo.class".toList⟩)]
  elements := [.directory (.parse "api".toList), .jar (.parse "x.jar".toList)]
  disassembler := ["javap".toList]
  highlightSource := false

theorem read_twinHost :
    ∃ archive,
      twinHost.files.read (.parse "x.jar".toList) >>= Archive.ofFile twinHost.files.unpackers =
        .ok archive ∧
      archive.members.map (·.name) = List.replicate 2 "Foo.java.class".toList := by
  have hread : twinHost.files.read (.parse "x.jar".toList) = .ok twinBytes := by rfl
  have hnames : (Archive.ofFile twinHost.files.unpackers twinBytes).toOption.map
      (·.members.map (·.name)) = some (List.replicate 2 "Foo.java.class".toList) := by
    decide +kernel
  simp only [hread, bind, Except.bind]
  cases harchive : Archive.ofFile twinHost.files.unpackers twinBytes with
  | error cause =>
    rw [harchive] at hnames
    cases hnames
  | ok archive =>
    rw [harchive] at hnames
    exact ⟨archive, rfl, Option.some.inj hnames⟩

/-- Both members of the archive are matches, but the archive is named once. -/
theorem pathLines_of_run_twins :
    let container : Path := .parse "x.jar".toList
    let found := archiveMatches twinHost.files container ⟨"Foo".toList⟩ true
    (∃ archive,
      twinHost.files.read container >>= Archive.ofFile twinHost.files.unpackers = .ok archive ∧
      archive.members.map (·.name) = List.replicate 2 "Foo.java.class".toList ∧
      List.Forall₂ (Match.Shows archive container true)
        (archive.members.filter fun member =>
          "Foo".toList <:+: member.name ∧ sourceExtension <:+: member.name) found.items) ∧
      found.items.map Match.readable = [some (some [0x46]), some (some [0x47])] ∧
      Options.parse twinHost.files twinRequest.arguments = .ok twinOptions ∧
      Session.setup twinHost twinRequest twinOptions = .ok twinSetup ∧
      (∀ found ∈ handed twinHost twinOptions twinSetup, ∀ before,
        (((reporter twinHost twinOptions.display twinSetup).report found).runFrom before).1 =
          .ok .continue) ∧
      (handed twinHost twinOptions twinSetup).length = 4 ∧
      (Session.run twinHost twinRequest).transcript.pathLines.length = 3 := by
  intro container found
  obtain ⟨harchives, hruns⟩ := pathLines_of_run
  have hparsed : Options.parse twinHost.files twinRequest.arguments = .ok twinOptions := by rfl
  have hsetup : Session.setup twinHost twinRequest twinOptions = .ok twinSetup := by rfl
  have hcontinues := continues_of_plain hsetup rfl rfl
  obtain ⟨archive, hread, hnames⟩ := read_twinHost
  obtain ⟨-, hshows, -⟩ := harchives _ _ _ hread ⟨"Foo".toList⟩ true
  refine ⟨⟨archive, hread, hnames, hshows⟩, ?_, hparsed, hsetup, hcontinues, ?_, ?_⟩
  · decide +kernel
  · decide +kernel
  · refine (hruns _ _ _ _ hparsed hsetup rfl hcontinues).trans ?_
    decide +kernel

end Session

end ClassLocator

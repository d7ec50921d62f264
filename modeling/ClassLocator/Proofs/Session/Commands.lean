import ClassLocator.Proofs.Runtime.QualifiedName
import ClassLocator.Proofs.Session.Arguments
import ClassLocator.Proofs.Session.Output
import ClassLocator.Proofs.Session.Presentation

/-!
# The commands of a run

A run starts at most one command to list the image of its runtime, and then, if members are to be
listed, one command for each match that it hands to its reporter, in the order of the search. What
breaks a run off is visible in its commands only in so far as no further match is handed over.

## Main definitions

* `Session.handed`: the matches that a run hands to its reporter.
* `Match.identifier`: what the disassembler is asked for.
* `Event.commands`: the commands that an event leads to.

## Main statements

* `Session.Searches.commands`: a search starts the commands of the events that it goes through.
* `Session.commands_of_run`: all commands of a run.
-/

namespace ClassLocator

/-! ## The command for a match -/

namespace Match

/-- What the disassembler is asked for: a member of an archive by the name of its class, any other
match by its location. -/
def identifier (found : Match) : Text :=
  if found.kind = .archive then ClassName.identifier found.package else found.location

theorem command_eq {sourceMode : Bool} {found : Match} (hsound : found.IsSound sourceMode)
    (display : Display) (tool : List Text) :
    found.command display tool =
      tool ++ (if display.showPrivateMethods = true then ["-p".toList] else []) ++
        (if found.kind = .archive then ["-classpath".toList, found.location] else []) ++
        [found.identifier] := by
  by_cases hkind : found.kind = .archive
  · simp [command, identifier, hkind, hsound.archive hkind]
  · simp [command, identifier, hkind, hsound.elsewhere hkind]

/-- The commands that a report of the match leads to. -/
def commands (display : Display) (tool : List Text) (found : Match) : List (List Text) :=
  if display.listsMethods = true then [found.command display tool] else []

theorem flatMap_commands (display : Display) (tool : List Text) (items : List Match) :
    items.flatMap (·.commands display tool) =
      if display.listsMethods = true then items.map (·.command display tool) else [] := by
  by_cases hlists : display.listsMethods = true
  · simp only [commands, if_pos hlists]
    exact List.map_eq_flatMap.symm
  · simp [commands, hlists]

end Match

/-- A class in plain packages is known by the name of its member up to the extension. -/
theorem ClassName.identifier_of_names {names : List Text} {className : Text}
    (hplain : ∀ name ∈ names ++ [className], '.' ∉ name) :
    ClassName.identifier (['/'].intercalate (names ++ [className ++ classExtension])) =
      ['/'].intercalate (names ++ [className]) := by
  have hdotless : '.' ∉ ['/'].intercalate (names ++ [className]) :=
    Text.notMem_intercalate (by decide) hplain
  have hextension : classExtension = '.' :: "class".toList := rfl
  rw [ClassName.intercalate_append_extension, ClassName.identifier, hextension,
    Text.replace_append_of_notMem hdotless]
  have hnone : Text.replace ('.' :: "class".toList) [] ('.' :: ("class".toList ++ [])) = [] :=
    Text.replace_mark _
  rw [List.append_nil] at hnone
  rw [hnone, List.append_nil]

/-! ## The commands of events -/

/-- The commands that an event leads to: the one that it tells of, or the one for a match. -/
def Event.commands (display : Display) (tool : List Text) : Event → List (List Text)
  | .notice given => given.command?.toList
  | .hit found => found.commands display tool

theorem Event.IsScanned.started?_eq_none {sourceMode : Bool} {event : Event}
    (h : event.IsScanned sourceMode) : event.started? = none := by
  rcases event with ⟨entry | command⟩ | found
  · rfl
  · exact h.elim
  · rfl

section

variable {display : Display} {tool : List Text}

/-- Where the events tell of no command, there are those for the matches only. -/
theorem flatMap_commands_of_quiet {events : List Event}
    (h : ∀ event ∈ events, event.started? = none) :
    events.flatMap (Event.commands display tool) =
      (matchesOf events).flatMap (·.commands display tool) := by
  induction events with
  | nil => rfl
  | cons event rest ih =>
    obtain ⟨hevent, hrest⟩ := List.forall_mem_cons.1 h
    cases event with
    | notice given =>
      have hnone : given.command? = none := hevent
      rw [List.flatMap_cons, ih hrest, Event.commands, hnone]
      rfl
    | hit found =>
      rw [List.flatMap_cons, ih hrest]
      rfl

theorem flatMap_commands_notices (noted : List Notice) :
    (noted.map Event.notice).flatMap (Event.commands display tool) =
      noted.filterMap Notice.command? := by
  induction noted with
  | nil => rfl
  | cons given rest ih =>
    rw [List.map_cons, List.flatMap_cons, ih, Event.commands]
    cases h : given.command? with
    | none => simp [h]
    | some command => simp [h]

/-- A beginning of events whose notices on commands come first. -/
theorem commands_of_isPrefix {taken rest : List Event} {noted : List Notice}
    (htaken : taken <+: noted.map .notice ++ rest)
    (hquiet : ∀ event ∈ rest, event.started? = none) :
    ∃ listing, listing <+: noted.filterMap Notice.command? ∧
      taken.flatMap (Event.commands display tool) =
        listing ++ (matchesOf taken).flatMap (·.commands display tool) := by
  rcases List.prefix_or_prefix_of_prefix htaken (List.prefix_append ..) with hwithin | ⟨more, rfl⟩
  · -- Only notices have been taken, and possibly not all of them.
    obtain ⟨first, hfirst, rfl⟩ : ∃ first, first <+: noted ∧ taken = first.map .notice := by
      obtain ⟨others, hothers⟩ := hwithin
      obtain ⟨first, last, rfl, rfl, -⟩ := List.map_eq_append_iff.1 hothers.symm
      exact ⟨first, List.prefix_append first last, rfl⟩
    refine ⟨first.filterMap Notice.command?, hfirst.filterMap _, ?_⟩
    rw [flatMap_commands_notices, matchesOf, filterMap_map_notice]
    exact (List.append_nil _).symm
  · have hmore : more <+: rest := (List.prefix_append_right_inj _).1 htaken
    refine ⟨_, List.prefix_rfl, ?_⟩
    rw [List.flatMap_append, flatMap_commands_notices,
      flatMap_commands_of_quiet fun event hmem => hquiet event (hmore.subset hmem), matchesOf,
      matchesOf, List.filterMap_append, filterMap_map_notice, List.nil_append]

end

/-- Less than a listing command is none. -/
theorem Catalog.IsListing.of_isPrefix {host : Host} {javaHome : Option Path}
    {commands first : List (List Text)} (h : IsListing host javaHome commands)
    (hfirst : first <+: commands) : IsListing host javaHome first := by
  rcases h with rfl | ⟨home, tool, hhome, htool, rfl⟩
  · exact .inl (List.prefix_nil.1 hfirst)
  · cases first with
    | nil => exact .inl rfl
    | cons command others =>
      obtain ⟨rfl, hothers⟩ := List.cons_prefix_cons.1 hfirst
      rw [List.prefix_nil.1 hothers]
      exact .inr ⟨home, tool, hhome, htool, rfl⟩

namespace Session

variable {host : Host} {display : Display} {setup : Setup} {found : Match} {pieces : Transcript}

/-! ## Answers of the reporter -/

/-- What a report answers. A disassembler that is wanted and cannot be started is a fault, else the
source decides. -/
def answerTo (host : Host) (display : Display) (setup : Setup) (found : Match) :
    Except Fault Flow :=
  match display.listsMethods, host.disassembly (found.command display setup.disassembler) with
  | true, .refused errno =>
    let word := (found.command display setup.disassembler).headD []
    .error (.disassembler word (.system errno (some word)))
  | _, _ => found.answer

theorem Lists.answerTo_eq (h : Lists host display setup found pieces) :
    answerTo host display setup found = found.answer := by
  cases h with
  | unwanted hlists => simp only [answerTo, hlists]
  | ran hlists hchild => simp only [answerTo, hlists, hchild]

theorem Reports.answer_eq {answer : Except Fault Flow}
    (h : Reports host display setup found answer pieces) :
    answer = answerTo host display setup found := by
  cases h with
  | notStarted hlists hchild => simp only [answerTo, hlists, hchild]
  | notRead hlists hsource => simp only [hlists.answerTo_eq, Match.answer, hsource]
  | read hlists hsource => simp only [hlists.answerTo_eq, Match.answer, hsource]
  | sourceless hlists hsource => simp only [hlists.answerTo_eq, Match.answer, hsource]

theorem report_answers (hsound : found.IsSound display.sourceMode) :
    Follows (answerTo host display setup) (reporter host display setup).report found := by
  obtain ⟨answer, pieces, hreports, happends⟩ := report_appends host setup hsound
  intro transcript
  rw [happends transcript]
  exact hreports.answer_eq

/-- A match after which the search goes on has not been refused by the disassembler. -/
theorem disassembly_of_answerTo {errno : Errno} (hlists : display.listsMethods = true)
    (hanswer : answerTo host display setup found = .ok .continue) :
    host.disassembly (found.command display setup.disassembler) ≠ .refused errno := by
  intro hrefused
  simp only [answerTo, hlists, hrefused] at hanswer
  cases hanswer

/-! ## Matches that are handed over -/

/-- The matches that a run hands to its reporter, in order. -/
def handed (host : Host) (options : Options) (setup : Setup) : List Match :=
  ((search (.recording (reporter host options.display setup).report) host.files
    ⟨options.className⟩ options.display setup.runtime setup.elements).runFrom ([], [])).2.2

theorem isSound_of_mem_matchesOf {events : List Event} {sourceMode : Bool}
    (h : ∀ event ∈ events, event.IsSound sourceMode) :
    ∀ found ∈ matchesOf events, found.IsSound sourceMode := by
  intro found hmem
  obtain ⟨event, hevent, hfound⟩ := List.mem_filterMap.1 hmem
  exact (h event hevent).match_isSound hfound

theorem handed_eq {options : Options}
    (hsound : ∀ event ∈ (stream host options setup).items,
      event.IsSound options.display.sourceMode) :
    handed host options setup =
      handedOver (answerTo host options.display setup)
        (matchesOf (stream host options setup).items) := by
  have hfollows : ∀ found ∈ matchesOf (stream host options setup).items,
      Follows (answerTo host options.display setup)
        (reporter host options.display setup).report found :=
    fun found hmem => report_answers (isSound_of_mem_matchesOf hsound found hmem)
  obtain ⟨after, hsearch⟩ := search_recording_of_follows rfl hfollows []
  unfold handed
  rw [hsearch]
  rfl

theorem isSound_of_mem_handed {options : Options}
    (hsound : ∀ event ∈ (stream host options setup).items,
      event.IsSound options.display.sourceMode) :
    ∀ found ∈ handed host options setup, found.IsSound options.display.sourceMode := by
  intro found hmem
  rw [handed_eq hsound] at hmem
  exact isSound_of_mem_matchesOf hsound found ((isPrefix_handedOver _ _).subset hmem)

/-! ## Commands of a search -/

theorem commands_headPieces : (headPieces host display setup found).commands = [] := by
  rw [headPieces, Transcript.commands_append, Transcript.commands_reports,
    Transcript.commands_reports, List.append_nil]

theorem commands_attempt (command : List Text) : (attempt command).commands = [command] := rfl

theorem Lists.commands (h : Lists host display setup found pieces) :
    pieces.commands = found.commands display setup.disassembler := by
  cases h with
  | unwanted hlists =>
    rw [Match.commands, hlists]
    rfl
  | ran hlists =>
    rw [Transcript.commands_append, commands_attempt, Match.commands, hlists]
    rfl

/-- A report starts the command for its match, whatever it answers. -/
theorem Reports.commands {answer : Except Fault Flow}
    (h : Reports host display setup found answer pieces) :
    pieces.commands = found.commands display setup.disassembler := by
  cases h with
  | notStarted hlists hchild =>
    rw [Transcript.commands_append, commands_headPieces, commands_attempt, Match.commands, hlists]
    rfl
  | notRead hlists =>
    rw [Transcript.commands_append, commands_headPieces, hlists.commands, List.nil_append]
  | read hlists =>
    rw [Transcript.commands_append, Transcript.commands_append, commands_headPieces,
      hlists.commands]
    exact List.append_nil _
  | sourceless hlists =>
    rw [Transcript.commands_append, commands_headPieces, hlists.commands, List.nil_append]

theorem Renders.commands {events : List Event} (h : Renders host display setup events pieces) :
    pieces.commands = events.flatMap (Event.commands display setup.disassembler) := by
  induction h with
  | nil => rfl
  | @notice given rest pieces _ ih =>
    rw [← List.singleton_append, Transcript.commands_append, ih, List.flatMap_cons]
    cases given with
    | record entry => rfl
    | started command => rfl
  | hit hreports _ ih =>
    rw [Transcript.commands_append, hreports.commands, ih, List.flatMap_cons]
    rfl

/-- After all matches that were gone through the search went on. -/
theorem Renders.answers {events : List Event} (h : Renders host display setup events pieces) :
    ∀ found ∈ matchesOf events, answerTo host display setup found = .ok .continue := by
  induction h with
  | nil => exact fun _ hmem => absurd hmem List.not_mem_nil
  | notice _ ih => exact ih
  | hit hreports _ ih => exact List.forall_mem_cons.2 ⟨hreports.answer_eq.symm, ih⟩

/-- The commands up to a report that ends the search. -/
theorem commands_of_last {earlier rest : List Event} {last : Transcript}
    {answer : Except Fault Flow} (hrenders : Renders host display setup earlier pieces)
    (hreports : Reports host display setup found answer last) (hne : answer ≠ .ok .continue) :
    handedOver (answerTo host display setup) (matchesOf (earlier ++ .hit found :: rest)) =
        matchesOf (earlier ++ [.hit found]) ∧
      (pieces ++ last).commands =
        (earlier ++ [Event.hit found]).flatMap (Event.commands display setup.disassembler) := by
  have hlast : answerTo host display setup found ≠ .ok .continue := by
    rw [← hreports.answer_eq]
    exact hne
  constructor
  · have hmatches : matchesOf (earlier ++ .hit found :: rest) =
        matchesOf earlier ++ found :: matchesOf rest := List.filterMap_append
    have htaken : matchesOf (earlier ++ [.hit found]) = matchesOf earlier ++ [found] :=
      List.filterMap_append
    rw [hmatches, htaken, handedOver_append hrenders.answers, handedOver_cons_of_ne hlast]
  · rw [Transcript.commands_append, hrenders.commands, hreports.commands, List.flatMap_append,
      List.flatMap_singleton]
    rfl

/-- A search starts the commands of the events that it goes through, and it goes through the matches
that it hands over. -/
theorem Searches.commands {stream : Feed Fault Event} {result : Except Fault Outcome}
    {transcript : Transcript} (h : Searches host display setup stream result transcript) :
    ∃ taken, taken <+: stream.items ∧
      handedOver (answerTo host display setup) (matchesOf stream.items) = matchesOf taken ∧
      transcript.commands = taken.flatMap (Event.commands display setup.disassembler) := by
  cases h with
  | exhausted hrenders _ =>
    exact ⟨_, List.prefix_rfl, handedOver_eq_self hrenders.answers, hrenders.commands⟩
  | brokenOff hrenders _ =>
    exact ⟨_, List.prefix_rfl, handedOver_eq_self hrenders.answers, hrenders.commands⟩
  | @stopped earlier rest found _ _ hitems hrenders hreports =>
    rw [hitems]
    exact ⟨earlier ++ [.hit found], ⟨rest, (List.append_cons ..).symm⟩,
      commands_of_last hrenders hreports nofun⟩
  | @failed earlier rest found _ _ _ hitems hrenders hreports =>
    rw [hitems]
    exact ⟨earlier ++ [.hit found], ⟨rest, (List.append_cons ..).symm⟩,
      commands_of_last hrenders hreports nofun⟩

/-! ## Commands of a run -/

variable {request : Request} {options : Options}

/-- The catalog of a run gives its notices first, and one of them may be on the command that lists
the image. -/
theorem setup_listing (h : Session.setup host request options = .ok setup)
    (hcatalog : request.loadedClasses = none) :
    ∃ settings noted classes,
      Settings.ofDocument host.environment request.document = .ok settings ∧
      setup.runtime.items = (catalogFeed noted classes).items ∧
      Catalog.IsListing host (settings.resolveJavaHome host)
        (noted.filterMap Notice.command?) := by
  obtain ⟨settings, hsettings, h⟩ := exists_of_bind_ok h
  obtain ⟨texts, -, h⟩ := exists_of_bind_ok h
  obtain ⟨tool, -, h⟩ := exists_of_bind_ok h
  cases h
  obtain ⟨noted, classes, hitems, hlisting⟩ :=
    Catalog.items_resolve host ⟨options.className⟩ (settings.resolveJavaHome host)
  refine ⟨settings, noted, classes, hsettings, ?_, hlisting⟩
  simp only [hcatalog]
  exact hitems

/-- Behind the notices of the catalog no event tells of a command. -/
theorem stream_listing (host : Host) (options : Options) {noted : List Notice}
    {classes : List LoadedClass}
    (h : setup.runtime.items = (catalogFeed noted classes).items) :
    ∃ rest, (stream host options setup).items = noted.map .notice ++ rest ∧
      ∀ event ∈ rest, event.started? = none := by
  obtain ⟨scanned, hscanned, hitems⟩ := Feed.items_followedBy setup.runtime
    (if options.display.runtimeOnly then .empty else .join (setup.elements.map
      (Element.scan host.files ⟨options.className⟩ options.display)))
  refine ⟨classes.map (fun found : LoadedClass => .hit found.toMatch) ++ scanned, ?_, ?_⟩
  · rw [stream, eventStream, hitems, h]
    exact List.append_assoc ..
  · intro event hmem
    rcases List.mem_append.1 hmem with hmem | hmem
    · obtain ⟨loaded, -, rfl⟩ := List.mem_map.1 hmem
      rfl
    · exact ((scans_only host.files ⟨options.className⟩ options.display setup.elements).items event
        (hscanned.subset hmem)).started?_eq_none

theorem commands_searchWith {result : Except Fault Outcome} {transcript : Transcript}
    (hrun : (searchAction host options setup).runFrom [] = (result, transcript)) :
    (searchWith host options setup).commands = transcript.commands := by
  rcases result with fault | outcome
  · cases hreported : fault.isReported with
    | false =>
      unfold searchWith
      rw [hrun]
      simp only [hreported]
      rfl
    | true =>
      rw [searchWith_reported hrun hreported]
      exact commands_complaint ..
  · rw [searchWith_ok hrun]
    rfl

/-- A run that does not come to its search starts no command. -/
theorem commands_of_unsearched
    (hnone : ∀ options setup, Options.parse host.files request.arguments = .ok options →
      Session.setup host request options ≠ .ok setup) :
    (Session.run host request).commands = [] := by
  unfold Session.run
  cases hparsed : Options.parse host.files request.arguments with
  | error fault => cases fault <;> rfl
  | ok options =>
    cases hsetup : Session.setup host request options with
    | error cause =>
      simp only [hsetup]
      rfl
    | ok setup => exact absurd hsetup (hnone options setup hparsed)

/-- The commands of a search are those of the catalog and then those for the matches. -/
theorem commands_of_search (hsetup : Session.setup host request options = .ok setup)
    (hcatalog : request.loadedClasses = none) :
    ∃ settings listing, Settings.ofDocument host.environment request.document = .ok settings ∧
      Catalog.IsListing host (settings.resolveJavaHome host) listing ∧
      (searchWith host options setup).commands =
        listing ++ (handed host options setup).flatMap
          (·.commands options.display setup.disassembler) := by
  obtain ⟨settings, noted, classes, hsettings, hruntime, hlisting⟩ := setup_listing hsetup hcatalog
  obtain ⟨rest, hitems, hquiet⟩ := stream_listing host options hruntime
  have hsound := (stream_only hsetup).items
  obtain ⟨result, transcript, hrun, hsearches⟩ := searchAction_searches hsound
  obtain ⟨taken, htaken, hhanded, hcommands⟩ := hsearches.commands
  rw [hitems] at htaken
  obtain ⟨listing, hfirst, hsplit⟩ := commands_of_isPrefix htaken hquiet
  refine ⟨settings, listing, hsettings, hlisting.of_isPrefix hfirst, ?_⟩
  rw [commands_searchWith hrun, hcommands, hsplit, handed_eq hsound, hhanded]

/-- A run starts at most one command to list the image of its runtime, and then those that list
members. There is one of these for each match that is handed over, in order, if the arguments ask
for members at all; it asks for private members if the arguments do, and it names the archive of a
match in an archive. Only the last of them may be one that cannot be started.

A member of an archive that plain names lead to is asked for by its name without the extension. -/
theorem commands_of_run (host : Host) (request : Request)
    (hcatalog : request.loadedClasses = none) :
    let flags := Flag.given request.arguments
    ((∀ options setup, Options.parse host.files request.arguments = .ok options →
        Session.setup host request options ≠ .ok setup) →
      (Session.run host request).commands = []) ∧
    (∀ options setup, Options.parse host.files request.arguments = .ok options →
      Session.setup host request options = .ok setup →
      ∃ settings listing listings,
        Settings.ofDocument host.environment request.document = .ok settings ∧
        Catalog.IsListing host (settings.resolveJavaHome host) listing ∧
        (Session.run host request).commands = listing ++ listings ∧
        listings = (if .methods ∈ flags ∨ .privateMethods ∈ flags then
          (handed host options setup).map fun found =>
            setup.disassembler ++ (if .privateMethods ∈ flags then ["-p".toList] else []) ++
              (if found.kind = .archive then ["-classpath".toList, found.location] else []) ++
              [found.identifier]
          else []) ∧
        ∀ command ∈ listings.dropLast, ∀ errno, host.disassembly command ≠ .refused errno) ∧
    ∀ names className, (∀ name ∈ names ++ [className], '.' ∉ name) →
      ClassName.identifier (['/'].intercalate (names ++ [className ++ classExtension])) =
        ['/'].intercalate (names ++ [className]) := by
  intro flags
  refine ⟨commands_of_unsearched, fun options setup hparsed hsetup => ?_,
    fun names className => ClassName.identifier_of_names⟩
  have hdisplay := Options.parse_display hparsed
  have hmethods := Flag.listsMethods_foldl_set flags
  have hprivate := Flag.showPrivateMethods_foldl_set flags
  rw [← hdisplay] at hmethods hprivate
  obtain ⟨settings, listing, hsettings, hlisting, hcommands⟩ := commands_of_search hsetup hcatalog
  rw [run_eq_searchWith hparsed hsetup]
  rw [Match.flatMap_commands] at hcommands
  refine ⟨settings, listing, _, hsettings, hlisting, hcommands, ?_, ?_⟩
  · have hshape : ∀ found ∈ handed host options setup,
        found.command options.display setup.disassembler = _ := fun found hmem =>
      Match.command_eq (isSound_of_mem_handed (stream_only hsetup).items found hmem) _ _
    rw [List.map_congr_left hshape]
    simp only [hmethods, hprivate]
  · intro command hmem errno
    by_cases hlists : options.display.listsMethods = true
    · rw [if_pos hlists, ← List.map_dropLast] at hmem
      obtain ⟨found, hfound, rfl⟩ := List.mem_map.1 hmem
      rw [handed_eq (stream_only hsetup).items] at hfound
      exact disassembly_of_answerTo hlists (answerTo_of_mem_dropLast hfound)
    · rw [if_neg hlists] at hmem
      cases hmem

/-- A host with a JDK and with two directories of classes, whose commands do what is said. -/
def jdkHost (listing : Child Bytes) (disassembly : List Text → Child Text) : Host where
  files := { workingDirectory := [], top := [("jdk".toList, .directory {}
      [("bin".toList, .directory {} [("jimage".toList, .file { bytes := [] } true)]),
        ("lib".toList, .directory {} [("modules".toList, .file { bytes := [] } false)])]),
    ("api".toList, .directory {} [("Foo.class".toList, .file { bytes := [] } false)]),
    ("app".toList, .directory {} [("Foo.class".toList, .file { bytes := [] } false)])] }
  environment := { bindings := [("JAVA_HOME".toList, "/jdk".toList),
    ("CLASSPATH".toList, "api:app".toList)] }
  listing _ := listing
  disassembly

def privateRequest : Request where
  arguments := ["-mp".toList, "Foo".toList]

def privateOptions : Options := ⟨"Foo".toList, { showPrivateMethods := true }, none⟩

/-- The image lists no class, and the disassembler can be started for the first class only. -/
def partlyListedHost : Host :=
  jdkHost (.ran [] 0 []) fun command =>
    if command = ["javap".toList, "-p".toList, "api/Foo.class".toList] then .ran [] 0 []
    else .refused .noEntry

def imageCommand : List Text := ["/jdk/bin/jimage".toList, "list".toList, "/jdk/lib/modules".toList]

theorem commands_of_run_private :
    privateRequest.loadedClasses = none ∧
      (∃ settings listing listings,
        Settings.ofDocument partlyListedHost.environment none = .ok settings ∧
        Catalog.IsListing partlyListedHost (settings.resolveJavaHome partlyListedHost) listing ∧
        (Session.run partlyListedHost privateRequest).commands = listing ++ listings ∧
        ∀ command ∈ listings.dropLast, ∀ errno,
          partlyListedHost.disassembly command ≠ .refused errno) ∧
      (Session.run partlyListedHost privateRequest).commands = [imageCommand,
        ["javap".toList, "-p".toList, "api/Foo.class".toList],
        ["javap".toList, "-p".toList, "app/Foo.class".toList]] ∧
      (Session.run partlyListedHost privateRequest).ending = .exit 1 := by
  have hparsed : Options.parse partlyListedHost.files privateRequest.arguments =
    .ok privateOptions := by rfl
  obtain ⟨-, hrun, -⟩ := commands_of_run partlyListedHost privateRequest rfl
  cases hsetup : Session.setup partlyListedHost privateRequest privateOptions with
  | error cause =>
    have hnone : (Session.setup partlyListedHost privateRequest privateOptions).toBool = true := by
      decide +kernel
    rw [hsetup] at hnone
    cases hnone
  | ok setup =>
    obtain ⟨settings, listing, listings, hsettings, hlisting, hcommands, -, hstarted⟩ :=
      hrun privateOptions setup hparsed hsetup
    refine ⟨rfl, ⟨settings, listing, listings, hsettings, hlisting, hcommands, hstarted⟩, ?_, ?_⟩
    · decide +kernel
    · decide +kernel

/-- The tool of the JDK cannot be started, so no class of the runtime is found; the search goes on
with the class path. -/
theorem commands_beyond_listing :
    let host := jdkHost (.refused .accessDenied) fun _ => .ran [] 0 []
    host.listing imageCommand = .refused .accessDenied ∧
      (Session.run host privateRequest).commands = [imageCommand,
        ["javap".toList, "-p".toList, "api/Foo.class".toList],
        ["javap".toList, "-p".toList, "app/Foo.class".toList]] ∧
      (Session.run host privateRequest).ending = .exit 0 := by
  refine ⟨rfl, ?_, ?_⟩
  · decide +kernel
  · decide +kernel

end Session

end ClassLocator

import ClassLocator.Proofs.Diagnostics.Routing
import ClassLocator.Proofs.Search.Stream
import ClassLocator.Proofs.Session.Arguments
import ClassLocator.Proofs.Session.Rendering

/-!
# The output of a run

A run that ends well has written the blocks of its matches and nothing else, up to the first match
with a source, whose source then comes last. A run whose search fails has written the blocks of
the matches before, and of the match at which it failed what stands in its block before the step
that failed; the fault is told on standard error, below the warnings.

## Main definitions

* `Match.untilSource`: matches up to the first one with a source.

## Main statements

* `Session.output_of_exit_zero`: the output of a run that ends well.
* `Session.run_of_fault`: the outputs of a run whose search fails.
-/

namespace ClassLocator

/-! ## Matches up to a source -/

/-- The matches up to and with the first one that has a source. -/
def Match.untilSource : List Match → List Match
  | [] => []
  | found :: rest => if found.source.isSome then [found] else found :: Match.untilSource rest

theorem Match.untilSource_eq_self {items : List Match}
    (h : ∀ found ∈ items, found.source = none) : Match.untilSource items = items := by
  induction items with
  | nil => rfl
  | cons found rest ih =>
    obtain ⟨hfound, hrest⟩ := List.forall_mem_cons.1 h
    rw [Match.untilSource, hfound, ih hrest]
    rfl

theorem Match.untilSource_append {before after : List Match} {found : Match}
    (h : ∀ earlier ∈ before, earlier.source = none) (hfound : found.source.isSome) :
    Match.untilSource (before ++ found :: after) = before ++ [found] := by
  induction before with
  | nil => rw [List.nil_append, Match.untilSource, if_pos hfound, List.nil_append]
  | cons first rest ih =>
    obtain ⟨hfirst, hrest⟩ := List.forall_mem_cons.1 h
    rw [List.cons_append, Match.untilSource, hfirst, ih hrest]
    rfl

namespace Session

variable {host : Host} {request : Request} {options : Options} {setup : Setup}

/-! ## What a run searches -/

/-- What the runtime gives to a run are its own classes. -/
theorem setup_only (h : Session.setup host request options = .ok setup) :
    setup.runtime.Only Event.IsLoaded Fault.IsScan := by
  obtain ⟨settings, -, h⟩ := exists_of_bind_ok h
  obtain ⟨texts, -, h⟩ := exists_of_bind_ok h
  obtain ⟨tool, -, h⟩ := exists_of_bind_ok h
  cases h
  cases request.loadedClasses with
  | none => exact (Catalog.resolve_only ..).mapFailure fun _ _ => trivial
  | some classes =>
    refine .ofList fun event hmem => ?_
    obtain ⟨loaded, -, rfl⟩ := List.mem_map.1 hmem
    exact ⟨loaded, rfl⟩

theorem stream_only (h : Session.setup host request options = .ok setup) :
    (stream host options setup).Only (Event.IsSound options.display.sourceMode) Fault.IsScan :=
  eventStream_only host.files ⟨options.className⟩ options.display (setup_only h) setup.elements

theorem run_eq_searchWith (hparsed : Options.parse host.files request.arguments = .ok options)
    (hsetup : Session.setup host request options = .ok setup) :
    Session.run host request = searchWith host options setup := by
  simp only [Session.run, hparsed, hsetup]

/-- Without debugging no record goes to standard output. -/
theorem outputOf_record (record : Record) :
    Transcript.outputOf (.configure false {}) (.notice (.record record)) = [] := by
  simp only [Transcript.outputOf, Logger.sinks_configure, Logger.targets, Bool.false_and,
    Bool.false_eq_true, if_false]
  split <;> rfl

theorem shown_eq_output (transcript : Transcript) :
    transcript.shown (.configure false {}) = transcript.output (.configure false {}) := by
  induction transcript with
  | nil => rfl
  | cons piece rest ih =>
    have hpiece : Transcript.shown (.configure false {}) [piece] =
        Transcript.outputOf (.configure false {}) piece := by
      rcases piece with ⟨record | command⟩ | text | ⟨text, errors⟩ | text
      · simp only [Transcript.shown, Transcript.output, outputOf_record, List.filter_cons]
        split <;> simp [outputOf_record]
      · rfl
      · exact List.append_nil text
      · exact List.append_nil text
      · rfl
    rw [← List.singleton_append, Transcript.shown_append, ih, hpiece]
    rfl

/-! ## Endings -/

section

variable {transcript : Transcript}

theorem searchWith_ok {outcome : Outcome}
    (hrun : (searchAction host options setup).runFrom [] = (.ok outcome, transcript)) :
    searchWith host options setup =
      ⟨transcript, .exit 0, .configure options.display.debug {}⟩ := by
  simp only [searchWith, hrun]

theorem searchWith_reported {fault : Fault}
    (hrun : (searchAction host options setup).runFrom [] = (.error fault, transcript))
    (hreported : fault.isReported = true) :
    searchWith host options setup =
      ⟨transcript ++ [.complaint (faultComplaint options.display.debug fault)], .exit 1,
        .configure options.display.debug {}⟩ := by
  simp only [searchWith, hrun, hreported, if_true, Transcript.add]

theorem ofUnreported_ne_exit (fault : Fault) (code : Nat) :
    Ending.ofUnreported fault ≠ .exit code := by
  unfold Ending.ofUnreported
  split <;> exact nofun

/-- A search that fails does not end well. -/
theorem searchWith_error {fault : Fault}
    (hrun : (searchAction host options setup).runFrom [] = (.error fault, transcript)) :
    (searchWith host options setup).ending ≠ .exit 0 := by
  simp only [searchWith, hrun]
  split
  · exact nofun
  · exact ofUnreported_ne_exit fault 0

end

/-! ## Runs that end well -/

/-- The matches among the events of a run are its stream of matches. -/
theorem filterMap_stream (host : Host) (options : Options) (setup : Setup) :
    (stream host options setup).filterMap Event.match? =
      matchStream host.files ⟨options.className⟩ options.display
        (setup.runtime.filterMap Event.match?) setup.elements :=
  filterMap_eventStream ..

/-- A run that ends well, without debugging and not at a terminal, writes the blocks of its matches
in the order of the search, up to the first match with a source. This source is the end of the
output, and it is the only one. -/
theorem output_of_exit_zero (hparsed : Options.parse host.files request.arguments = .ok options)
    (hdebug : options.display.debug = false) (hterminal : host.isTerminal = false)
    (hexit : (Session.run host request).ending = .exit 0) :
    ∃ setup, Session.setup host request options = .ok setup ∧
      let found := matchStream host.files ⟨options.className⟩ options.display
        (setup.runtime.filterMap Event.match?) setup.elements
      let output := (Session.run host request).output
      output = (Match.untilSource found.items).flatMap
        (·.block options.display setup.disassembler host) ∧
      (found.items = [] → output = []) ∧
      ((found.failure = none ∧ ∀ each ∈ found.items, each.source = none) ∨
        ∃ before last after bytes, found.items = before ++ last :: after ∧
          (∀ each ∈ before, each.source = none) ∧ last.source = some (.ok bytes) ∧
          output = before.flatMap (·.block options.display setup.disassembler host) ++
            last.pathText options.display ++ last.packageText options.display ++
            last.listing options.display setup.disassembler host ++
            Text.normalLines (SourceText.decode bytes)) := by
  cases hsetup : Session.setup host request options with
  | error cause =>
    simp only [Session.run, hparsed, hsetup] at hexit
    cases hexit
  | ok setup =>
    refine ⟨setup, rfl, ?_⟩
    rw [run_eq_searchWith hparsed hsetup] at hexit ⊢
    have hsound := (stream_only hsetup).items
    obtain ⟨result, transcript, hrun, hsearches⟩ := searchAction_searches hsound
    rw [← filterMap_stream]
    rcases result with fault | outcome
    · exact absurd hexit (searchWith_error hrun)
    rw [searchWith_ok hrun, hdebug]
    have hshown := hsearches.shown_ok hsound hterminal false
    rw [shown_eq_output] at hshown
    rcases hshown with ⟨hfailure, hsource, houtput⟩ |
      ⟨before, last, after, bytes, hmatches, hsource, hbytes, houtput⟩
    · have huntil := Match.untilSource_eq_self hsource
      refine ⟨?_, fun hnone => ?_, .inl ⟨hfailure, hsource⟩⟩
      · exact houtput.trans (congrArg _ huntil.symm)
      · exact houtput.trans (congrArg _ hnone)
    · have huntil : Match.untilSource (matchesOf (stream host options setup).items) =
          before ++ [last] := by
        rw [hmatches]
        exact Match.untilSource_append hsource (by rw [hbytes]; rfl)
      refine ⟨?_, fun hnone => ?_, .inr ⟨before, last, after, bytes, hmatches, hsource, hbytes, ?_⟩⟩
      · change _ = (Match.untilSource (matchesOf _)).flatMap _
        rw [huntil, List.flatMap_append, List.flatMap_singleton]
        exact houtput
      · cases (List.append_eq_nil_iff.1 (hmatches.symm.trans hnone)).2
      · refine houtput.trans ?_
        rw [Match.block, Match.sourceText, hbytes]
        simp only [List.append_assoc]

/-- A host without files and without a search path. -/
def bareHost (disassembly : List Text → Child Text) : Host where
  files := { top := [], workingDirectory := [] }
  environment := { bindings := [("PATH".toList, [])] }
  listing _ := .refused .noEntry
  disassembly

/-- The members of two classes are wanted. -/
def membersRequest : Request where
  arguments := ["-rt".toList, "-m".toList, "Foo".toList]
  loadedClasses := some [⟨"a.Foo".toList, "jrt:/m/a/Foo.class".toList⟩,
    ⟨"b.Foo".toList, "jrt:/m/b/Foo.class".toList⟩]

def membersOptions : Options :=
  ⟨"Foo".toList, { showMethods := true, runtimeOnly := true }, none⟩

def listingHost : Host := bareHost fun _ => .ran "class Foo".toList 0 []

/-- The disassembler can be started for the first of the two classes only. -/
def refusingHost : Host := bareHost fun command =>
  if command = ["javap".toList, "jrt:/m/a/Foo.class".toList] then .ran "class Foo".toList 0 []
  else .refused .noEntry

theorem output_of_exit_zero_members :
    Options.parse listingHost.files membersRequest.arguments = .ok membersOptions ∧
      (Session.run listingHost membersRequest).ending = .exit 0 ∧
      ∃ setup, Session.setup listingHost membersRequest membersOptions = .ok setup ∧
        (Session.run listingHost membersRequest).output = (Match.untilSource
          (matchStream listingHost.files ⟨membersOptions.className⟩ membersOptions.display
            (setup.runtime.filterMap Event.match?) setup.elements).items).flatMap
          (·.block membersOptions.display setup.disassembler listingHost) := by
  have hparsed : Options.parse listingHost.files membersRequest.arguments =
    .ok membersOptions := by rfl
  have hexit : (Session.run listingHost membersRequest).ending = .exit 0 := by rfl
  obtain ⟨setup, hsetup, houtput, -, -⟩ := output_of_exit_zero hparsed rfl rfl hexit
  exact ⟨hparsed, hexit, setup, hsetup, houtput⟩

/-! ## Runs whose search fails -/

theorem faultComplaint_eq (debug : Bool) (fault : Fault) :
    faultComplaint debug fault =
      "jcf: " ++ fault.message ++ ['\n'] ++
        (if debug = true then "<traceback>\n".toList else []) := by
  have hmark : traceMark ++ ['\n'] = "<traceback>\n".toList := rfl
  rw [faultComplaint, hmark]
  rfl

theorem errors_complaint (logger : Logger) (transcript : Transcript) (text : Text) :
    Transcript.errors logger (transcript ++ [.complaint text]) =
      Transcript.errors logger transcript ++ text := by
  rw [Transcript.errors_append]
  exact congrArg _ (List.append_nil text)

theorem shown_complaint (logger : Logger) (transcript : Transcript) (text : Text) :
    Transcript.shown logger (transcript ++ [.complaint text]) =
      Transcript.shown logger transcript := by
  rw [Transcript.shown_append]
  exact List.append_nil _

theorem commands_complaint (transcript : Transcript) (text : Text) :
    Transcript.commands (transcript ++ [.complaint text]) = Transcript.commands transcript := by
  rw [Transcript.commands_append]
  exact List.append_nil _

/-- Of the faults of a scan those are reported that name what could not be scanned. -/
theorem scan_of_isReported {fault : Fault} (h : fault.IsScan)
    (hreported : fault.isReported = true) :
    ∃ path cause, fault = .directoryScan path cause ∨ fault = .archiveScan path cause := by
  cases fault with
  | directoryScan path cause => exact ⟨path, cause, .inl rfl⟩
  | archiveScan path cause => exact ⟨path, cause, .inr rfl⟩
  | bare => cases hreported
  | usage => cases h
  | disassembler => cases h
  | source => cases h

/-- A search that fails with a fault that is reported ends the run with exit code 1. -/
theorem run_of_fault {fault : Fault}
    (hparsed : Options.parse host.files request.arguments = .ok options)
    (hsetup : Session.setup host request options = .ok setup)
    (hraised : ((searchAction host options setup).runFrom []).1 = .error fault)
    (hreported : fault.isReported = true) :
    (Session.run host request).ending = .exit 1 ∧
    ∃ before after part, (stream host options setup).items = before ++ after ∧
      (∀ found ∈ matchesOf before, found.source = none) ∧
      (Session.run host request).errors =
        warningLines before ++ "jcf: " ++ fault.message ++ ['\n'] ++
          (if options.display.debug = true then "<traceback>\n".toList else []) ∧
      Transcript.shown (Session.run host request).logger (Session.run host request).transcript =
        (matchesOf before).flatMap (·.block options.display setup.disassembler host) ++ part ∧
      ((after = [] ∧ part = [] ∧ (stream host options setup).failure = some fault ∧
          ∃ path cause, fault = .directoryScan path cause ∨ fault = .archiveScan path cause) ∨
        ∃ found rest, after = .hit found :: rest ∧
          ((∃ errno, options.display.listsMethods = true ∧
              host.disassembly (found.command options.display setup.disassembler) =
                .refused errno ∧
              fault = .disassembler
                ((found.command options.display setup.disassembler).headD [])
                (.system errno
                  (some ((found.command options.display setup.disassembler).headD []))) ∧
              part = found.pathText options.display ++ found.packageText options.display) ∨
            ∃ cause, found.source = some (.error cause) ∧
              fault = .source found.sourceName cause ∧
              part = found.pathText options.display ++ found.packageText options.display ++
                found.listing options.display setup.disassembler host)) := by
  have honly := stream_only hsetup
  obtain ⟨result, transcript, hrun, hsearches⟩ := searchAction_searches honly.items
  rw [hrun] at hraised
  cases hraised
  rw [run_eq_searchWith hparsed hsetup, searchWith_reported hrun hreported]
  refine ⟨rfl, ?_⟩
  cases hsearches with
  | brokenOff hrenders hfailure =>
    refine ⟨(stream host options setup).items, [], [], (List.append_nil _).symm, hrenders.source,
      ?_, ?_, .inl ⟨rfl, rfl, hfailure, ?_⟩⟩
    · rw [Session.errors, errors_complaint, hrenders.errors _ honly.items, faultComplaint_eq]
      simp only [List.append_assoc]
    · rw [shown_complaint, hrenders.shown _ honly.items, List.append_nil]
    · exact scan_of_isReported (honly.failure fault hfailure) hreported
  | @failed earlier rest found _ pieces last hitems hrenders hreports =>
    have hsound : ∀ event ∈ earlier, event.IsSound options.display.sourceMode :=
      fun event hmem => honly.items event (hitems ▸ List.mem_append_left _ hmem)
    refine ⟨earlier, .hit found :: rest, last.shown (.configure options.display.debug {}), hitems,
      hrenders.source, ?_, ?_, .inr ⟨found, rest, rfl, ?_⟩⟩
    · rw [Session.errors, errors_complaint, Transcript.errors_append, hrenders.errors _ hsound,
        hreports.errors_eq_nil, List.append_nil, faultComplaint_eq]
      simp only [List.append_assoc]
    · rw [shown_complaint, Transcript.shown_append, hrenders.shown _ hsound]
    · exact hreports.shown_error _ hreported

/-- What the search of `membersRequest` goes through. -/
def membersSetup : Setup where
  runtime := .ofList [.hit (LoadedClass.toMatch ⟨"a.Foo".toList, "jrt:/m/a/Foo.class".toList⟩),
    .hit (LoadedClass.toMatch ⟨"b.Foo".toList, "jrt:/m/b/Foo.class".toList⟩)]
  elements := [.directory (.parse ".".toList)]
  disassembler := ["javap".toList]
  highlightSource := false

/-- What it fails with where there is no disassembler. -/
def membersFault : Fault := .disassembler "javap".toList (.system .noEntry (some "javap".toList))

theorem run_of_fault_members :
    Options.parse refusingHost.files membersRequest.arguments = .ok membersOptions ∧
      Session.setup refusingHost membersRequest membersOptions = .ok membersSetup ∧
      ((searchAction refusingHost membersOptions membersSetup).runFrom []).1 =
        .error membersFault ∧
      membersFault.isReported = true ∧
      (Session.run refusingHost membersRequest).ending = .exit 1 := by
  have hraised : ((searchAction refusingHost membersOptions membersSetup).runFrom []).1 =
    .error membersFault := by rfl
  exact ⟨rfl, rfl, hraised, rfl, (run_of_fault rfl rfl hraised rfl).1⟩

end Session

end ClassLocator

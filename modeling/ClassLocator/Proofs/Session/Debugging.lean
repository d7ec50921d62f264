import ClassLocator.Proofs.Session.Arguments
import ClassLocator.Proofs.Session.Output

/-!
# Debugging

A run that is debugged does what the same run does otherwise; it only lets more of it be seen. On
standard output there are the records for debugging as well, each where it was given, and on
standard error the trace of a fault that is reported.

All records of a run are either for debugging or warnings, which is why nothing else depends on
how the logger is configured.

## Main definitions

* `Piece.IsPlain`: a piece that is no record of another level.
* `Session.debugged`: the request with debugging in front of its arguments.

## Main statements

* `Session.Searches.isPlain`: a search leaves plain pieces only.
* `Session.run_debugged`: what debugging adds to a run.
-/

namespace ClassLocator

/-! ## Plain pieces -/

/-- A record for debugging, a warning, or no record at all. -/
def Piece.IsPlain : Piece → Prop
  | .notice given => given.IsPlain
  | _ => True

/-- All pieces are plain. -/
def Transcript.IsPlain (transcript : Transcript) : Prop := ∀ piece ∈ transcript, piece.IsPlain

namespace Transcript.IsPlain

variable {transcript others : Transcript}

theorem nil : IsPlain [] := fun _ hmem => absurd hmem List.not_mem_nil

theorem cons {piece : Piece} (hpiece : piece.IsPlain) (h : IsPlain transcript) :
    IsPlain (piece :: transcript) :=
  List.forall_mem_cons.2 ⟨hpiece, h⟩

theorem append (h : IsPlain transcript) (hothers : IsPlain others) :
    IsPlain (transcript ++ others) :=
  List.forall_mem_append.2 ⟨h, hothers⟩

theorem reports (texts : List Text) : IsPlain (texts.map .report) := by
  intro piece hmem
  obtain ⟨text, -, rfl⟩ := List.mem_map.1 hmem
  trivial

end Transcript.IsPlain

/-- A plain piece that is not for debugging is shown in the same way with debugging and without. -/
theorem Piece.outputOf_of_isPlain {piece : Piece} (h : piece.IsPlain)
    (hdebug : piece.isDebug = false) :
    Transcript.outputOf (.configure true {}) piece =
      Transcript.outputOf (.configure false {}) piece := by
  rcases piece with ⟨⟨level, message⟩ | command⟩ | text | text | text
  · rcases h with rfl | rfl
    · cases hdebug
    · rfl
  · rfl
  · rfl
  · rfl
  · rfl

theorem Piece.errorsOf_of_isPlain {piece : Piece} (h : piece.IsPlain) :
    Transcript.errorsOf (.configure true {}) piece =
      Transcript.errorsOf (.configure false {}) piece := by
  rcases piece with ⟨⟨level, message⟩ | command⟩ | text | text | text
  · rcases h with rfl | rfl
    · rfl
    · rfl
  · rfl
  · rfl
  · rfl
  · rfl

namespace Transcript.IsPlain

variable {transcript : Transcript}

/-- Without its records for debugging a debugged transcript shows what it shows otherwise. -/
theorem shown_eq (h : transcript.IsPlain) :
    transcript.shown (.configure true {}) = transcript.output (.configure false {}) := by
  rw [← Session.shown_eq_output]
  refine congrArg List.flatten (List.map_congr_left fun piece hmem => ?_)
  obtain ⟨hpiece, hdebug⟩ := List.mem_filter.1 hmem
  exact Piece.outputOf_of_isPlain (h piece hpiece) (by simpa using hdebug)

theorem errors_eq (h : transcript.IsPlain) :
    transcript.errors (.configure true {}) = transcript.errors (.configure false {}) :=
  congrArg List.flatten (List.map_congr_left fun piece hmem =>
    Piece.errorsOf_of_isPlain (h piece hmem))

end Transcript.IsPlain

namespace Session

variable {host : Host} {display : Display} {setup : Setup} {found : Match} {pieces : Transcript}

/-! ## Plain searches -/

theorem isPlain_headPieces : (headPieces host display setup found).IsPlain :=
  .append (.reports _) (.reports _)

theorem isPlain_attempt (command : List Text) : (attempt command).IsPlain :=
  .cons (Notice.isPlain_debug _) (.cons trivial .nil)

theorem Lists.isPlain (h : Lists host display setup found pieces) : pieces.IsPlain := by
  cases h with
  | unwanted => exact .nil
  | ran => exact .append (isPlain_attempt _) (.cons trivial .nil)

theorem Reports.isPlain {answer : Except Fault Flow}
    (h : Reports host display setup found answer pieces) : pieces.IsPlain := by
  cases h with
  | notStarted => exact .append isPlain_headPieces (isPlain_attempt _)
  | notRead hlists => exact .append isPlain_headPieces hlists.isPlain
  | read hlists =>
    exact .append (.append isPlain_headPieces hlists.isPlain) (.cons trivial .nil)
  | sourceless hlists => exact .append isPlain_headPieces hlists.isPlain

theorem Renders.isPlain {events : List Event} (h : Renders host display setup events pieces)
    (hsound : ∀ event ∈ events, event.IsSound display.sourceMode) : pieces.IsPlain := by
  induction h with
  | nil => exact .nil
  | notice _ ih =>
    obtain ⟨hgiven, hrest⟩ := List.forall_mem_cons.1 hsound
    exact .cons hgiven (ih hrest)
  | hit hreports _ ih =>
    obtain ⟨-, hrest⟩ := List.forall_mem_cons.1 hsound
    exact .append hreports.isPlain (ih hrest)

theorem Searches.isPlain {stream : Feed Fault Event} {result : Except Fault Outcome}
    {transcript : Transcript} (h : Searches host display setup stream result transcript)
    (hsound : ∀ event ∈ stream.items, event.IsSound display.sourceMode) :
    transcript.IsPlain := by
  have hearlier {earlier rest : List Event} {event : Event}
      (hitems : stream.items = earlier ++ event :: rest) :
      ∀ event ∈ earlier, event.IsSound display.sourceMode :=
    fun event hmem => hsound event (hitems ▸ List.mem_append_left _ hmem)
  cases h with
  | exhausted hrenders _ => exact hrenders.isPlain hsound
  | brokenOff hrenders _ => exact hrenders.isPlain hsound
  | stopped hitems hrenders hreports =>
    exact .append (hrenders.isPlain (hearlier hitems)) hreports.isPlain
  | failed hitems hrenders hreports =>
    exact .append (hrenders.isPlain (hearlier hitems)) hreports.isPlain

/-! ## Two runs -/

/-- The request with the flag for debugging in front of its arguments. -/
def debugged (request : Request) : Request :=
  { request with arguments := "-debug".toList :: request.arguments }

variable {request : Request} {options : Options}

theorem parse_debugged (fs : FileSystem) (request : Request) :
    Options.parse fs (debugged request).arguments =
      (Options.parse fs request.arguments).map (Options.add .debug) := by
  have hflag : Flag.ofArgument? "-debug".toList = some .debug := by decide
  exact Options.parse_flag_cons hflag nofun nofun request.arguments

/-- Debugging does not change what is searched and what is reported. -/
theorem searchAction_debugged (host : Host) (options : Options) (setup : Setup) :
    searchAction host (options.add .debug) setup = searchAction host options setup := rfl

theorem setup_debugged (host : Host) (request : Request) (options : Options) :
    Session.setup host (debugged request) (options.add .debug) =
      Session.setup host request options := rfl

/-- What is to be the same of a run and of the run that is debugged. -/
structure SameButDebugging (plain debugged : Session) : Prop where
  ending : debugged.ending = plain.ending
  commands : debugged.commands = plain.commands
  output : plain.output = debugged.transcript.shown debugged.logger
  /-- Only the trace of a fault that has been reported may come on top. -/
  errors : debugged.errors = plain.errors ∨
    ∃ earlier fault, plain.errors = earlier ++ "jcf: " ++ Fault.message fault ++ ['\n'] ∧
      debugged.errors = plain.errors ++ "<traceback>\n".toList

/-- A transcript of plain pieces is the same but for debugging, however the run ends. -/
theorem SameButDebugging.of_isPlain {transcript : Transcript} (h : transcript.IsPlain)
    (ending : Ending) :
    SameButDebugging ⟨transcript, ending, .configure false {}⟩
      ⟨transcript, ending, .configure true {}⟩ where
  ending := rfl
  commands := rfl
  output := h.shown_eq.symm
  errors := .inl h.errors_eq

/-- The complaint on a fault comes last, in a debugged run with a trace. -/
theorem SameButDebugging.of_fault {transcript : Transcript} (h : transcript.IsPlain)
    (fault : Fault) :
    SameButDebugging
      ⟨transcript ++ [.complaint (faultComplaint false fault)], .exit 1, .configure false {}⟩
      ⟨transcript ++ [.complaint (faultComplaint true fault)], .exit 1, .configure true {}⟩ where
  ending := rfl
  commands := (commands_complaint ..).trans (commands_complaint ..).symm
  output := by
    rw [Session.output, ← shown_eq_output, shown_complaint, shown_complaint, h.shown_eq,
      shown_eq_output]
  errors := by
    refine .inr ⟨transcript.errors (.configure false {}), fault, ?_, ?_⟩
    · rw [Session.errors, errors_complaint, faultComplaint_eq]
      simp
    · rw [Session.errors, Session.errors, errors_complaint, errors_complaint, h.errors_eq,
        faultComplaint_eq, faultComplaint_eq]
      simp

theorem searchWith_debugged (hsetup : Session.setup host request options = .ok setup)
    (hdebug : options.display.debug = false) :
    SameButDebugging (searchWith host options setup)
      (searchWith host (options.add .debug) setup) := by
  have hsound := (stream_only hsetup).items
  obtain ⟨result, transcript, hrun, hsearches⟩ := searchAction_searches hsound
  have hplain := hsearches.isPlain hsound
  have hrun' : (searchAction host (options.add .debug) setup).runFrom [] = (result, transcript) :=
    (congrArg (Action.runFrom []) (searchAction_debugged host options setup)).trans hrun
  rcases result with fault | outcome
  · cases hreported : fault.isReported with
    | false =>
      simp only [searchWith, hrun, hrun', hreported, hdebug]
      exact .of_isPlain hplain _
    | true =>
      rw [searchWith_reported hrun hreported, searchWith_reported hrun' hreported, hdebug]
      exact .of_fault hplain fault
  · rw [searchWith_ok hrun, searchWith_ok hrun', hdebug]
    exact .of_isPlain hplain _

/-- A run whose arguments do not ask for debugging does the same with the flag for debugging in
front of them. -/
theorem run_debugged (host : Host) (request : Request)
    (hdebug : .debug ∉ Flag.given request.arguments) :
    SameButDebugging (Session.run host request) (Session.run host (debugged request)) := by
  have hparsed := parse_debugged host.files request
  unfold Session.run
  rw [hparsed]
  cases hplain : Options.parse host.files request.arguments with
  | error fault =>
    -- The logger of such a run is not configured, and no search is made.
    cases fault
    all_goals exact ⟨rfl, rfl, rfl, .inl rfl⟩
  | ok options =>
    have hoptions : options.display.debug = false := by
      rw [Options.parse_display hplain]
      exact Bool.eq_false_iff.2 (mt (Flag.debug_foldl_set _).1 hdebug)
    simp only [Except.map, setup_debugged]
    cases hsetup : Session.setup host request options with
    | error cause =>
      rw [hoptions]
      exact .of_isPlain .nil _
    | ok setup => exact searchWith_debugged hsetup hoptions

/-- The disassembler cannot be started for the second of two classes. -/
theorem run_debugged_members :
    let plain := Session.run refusingHost membersRequest
    let debug := Session.run refusingHost (debugged membersRequest)
    Flag.debug ∉ Flag.given membersRequest.arguments ∧ SameButDebugging plain debug ∧
      plain.ending = .exit 1 ∧ debug.errors = plain.errors ++ "<traceback>\n".toList ∧
      debug.output ≠ plain.output := by
  intro plain debug
  have hnone : Flag.debug ∉ Flag.given membersRequest.arguments := by decide
  refine ⟨hnone, run_debugged refusingHost membersRequest hnone, ?_, ?_, ?_⟩
  · decide +kernel
  · decide +kernel
  · decide +kernel

end Session

end ClassLocator

import ClassLocator.Proofs.Session.Blocks

/-!
# What reports show

Records for debugging aside, a report writes the block of its match to standard output, and writes
nothing to standard error.

## Main definitions

* `Transcript.shown`: standard output without the records for debugging.

## Main statements

* `Session.Reports.shown_continue`, `Session.Reports.shown_stop`, `Session.Reports.shown_error`
-/

namespace ClassLocator

/-! ## Views -/

/-- Whether a piece is a record for debugging. -/
def Piece.isDebug : Piece → Bool
  | .notice (.record entry) => entry.level = .debug
  | _ => false

/-- What stands on standard output, records for debugging aside. -/
def Transcript.shown (logger : Logger) (transcript : Transcript) : Text :=
  Transcript.output logger (transcript.filter (! ·.isDebug))

@[simp] theorem Transcript.shown_append (logger : Logger) (transcript others : Transcript) :
    Transcript.shown logger (transcript ++ others) =
      Transcript.shown logger transcript ++ Transcript.shown logger others := by
  simp [Transcript.shown, Transcript.output]

@[simp] theorem Transcript.shown_reports (logger : Logger) (texts : List Text) :
    Transcript.shown logger (texts.map .report) = texts.flatten := by
  induction texts with
  | nil => rfl
  | cons text rest ih => exact congrArg (text ++ ·) ih

@[simp] theorem Transcript.errors_append (logger : Logger) (transcript others : Transcript) :
    Transcript.errors logger (transcript ++ others) =
      Transcript.errors logger transcript ++ Transcript.errors logger others := by
  simp [Transcript.errors]

@[simp] theorem Transcript.errors_reports (logger : Logger) (texts : List Text) :
    Transcript.errors logger (texts.map .report) = [] := by
  induction texts with
  | nil => rfl
  | cons text rest ih => exact ih

@[simp] theorem Transcript.commands_append (transcript others : Transcript) :
    Transcript.commands (transcript ++ others) =
      Transcript.commands transcript ++ Transcript.commands others :=
  List.filterMap_append

@[simp] theorem Transcript.commands_reports (texts : List Text) :
    Transcript.commands (texts.map .report) = [] := by
  induction texts with
  | nil => rfl
  | cons text rest ih => exact ih

namespace Session

variable {host : Host} {display : Display} {setup : Setup} {found : Match} {pieces : Transcript}

section

variable (logger : Logger)

theorem shown_headPieces : (headPieces host display setup found).shown logger =
    found.pathText display ++ found.packageText display := by
  have hpath : ((reporter host display setup).pathLine? found).toList.flatten =
      found.pathText display := by
    cases hshow : display.showPath <;> cases hfirst : found.firstInContainer <;>
      simp [Reporter.pathLine?, reporter, Match.pathText, hshow, hfirst]
  have hpackage : ((reporter host display setup).packageLine? found).toList.flatten =
      found.packageText display := by
    cases hshow : display.showPackage <;>
      simp [Reporter.packageLine?, reporter, Match.packageText, packageIndent, hshow]
  rw [headPieces, Transcript.shown_append, Transcript.shown_reports, Transcript.shown_reports,
    hpath, hpackage]

@[simp] theorem shown_attempt (command : List Text) : (attempt command).shown logger = [] := rfl

theorem Lists.shown (h : Lists host display setup found pieces) :
    pieces.shown logger = found.listing display setup.disassembler host := by
  cases h with
  | unwanted hlists =>
    rw [Match.listing, hlists]
    rfl
  | ran hlists hchild =>
    rw [Transcript.shown_append, shown_attempt, Match.listing, hlists, hchild]
    exact List.append_nil _

theorem Reports.shown_continue (h : Reports host display setup found (.ok .continue) pieces) :
    found.source = none ∧
      pieces.shown logger = found.block display setup.disassembler host := by
  cases h with
  | sourceless hlists hsource =>
    refine ⟨hsource, ?_⟩
    rw [Transcript.shown_append, shown_headPieces, hlists.shown, Match.block, Match.sourceText,
      hsource, List.append_nil]

theorem sourceBody_eq {bytes : Bytes} (hterminal : host.isTerminal = false)
    (hsource : found.source = some (.ok bytes)) :
    (reporter host display setup).sourceBody found bytes = found.sourceText := by
  simp [Reporter.sourceBody, reporter, Match.sourceText, hterminal, hsource]

theorem Reports.shown_stop (h : Reports host display setup found (.ok .stop) pieces)
    (hterminal : host.isTerminal = false) :
    (∃ bytes, found.source = some (.ok bytes)) ∧
      pieces.shown logger = found.block display setup.disassembler host := by
  cases h with
  | read hlists hsource =>
    refine ⟨⟨_, hsource⟩, ?_⟩
    have hbody : Transcript.shown logger [.report found.sourceText] = found.sourceText :=
      List.append_nil _
    rw [Transcript.shown_append, Transcript.shown_append, shown_headPieces, hlists.shown,
      sourceBody_eq hterminal hsource, hbody, Match.block]

/-- A report that fails shows what stands in its block before the step that failed. -/
theorem Reports.shown_error {fault : Fault}
    (h : Reports host display setup found (.error fault) pieces) (hreported : fault.isReported) :
    (∃ errno, display.listsMethods = true ∧
      host.disassembly (found.command display setup.disassembler) = .refused errno ∧
      fault = .disassembler ((found.command display setup.disassembler).headD [])
        (.system errno (some ((found.command display setup.disassembler).headD []))) ∧
      pieces.shown logger = found.pathText display ++ found.packageText display) ∨
    ∃ cause, found.source = some (.error cause) ∧ fault = .source found.sourceName cause ∧
      pieces.shown logger = found.pathText display ++ found.packageText display ++
        found.listing display setup.disassembler host := by
  cases h with
  | notStarted hlists hchild =>
    refine .inl ⟨_, hlists, hchild, rfl, ?_⟩
    rw [Transcript.shown_append, shown_headPieces, shown_attempt, List.append_nil]
  | notRead hlists hsource =>
    refine .inr ⟨_, hsource, ?_, ?_⟩
    · unfold sourceFault at hreported ⊢
      split at hreported
      · rfl
      · rfl
      · rfl
      · rfl
      · cases hreported
    · rw [Transcript.shown_append, shown_headPieces, hlists.shown]

end

/-! ## Standard error -/

theorem errors_attempt (debug : Bool) (command : List Text) :
    (attempt command).errors (.configure debug {}) = [] := by
  cases debug <;> rfl

theorem Lists.errors_eq_nil (h : Lists host display setup found pieces) (debug : Bool) :
    pieces.errors (.configure debug {}) = [] := by
  cases h with
  | unwanted => rfl
  | ran =>
    rw [Transcript.errors_append, errors_attempt]
    rfl

theorem Reports.errors_eq_nil {answer : Except Fault Flow}
    (h : Reports host display setup found answer pieces) (debug : Bool) :
    pieces.errors (.configure debug {}) = [] := by
  have hhead : (headPieces host display setup found).errors (.configure debug {}) = [] := by
    rw [headPieces, Transcript.errors_append, Transcript.errors_reports,
      Transcript.errors_reports, List.append_nil]
  cases h with
  | notStarted => rw [Transcript.errors_append, hhead, errors_attempt, List.append_nil]
  | notRead hlists =>
    rw [Transcript.errors_append, hhead, hlists.errors_eq_nil, List.append_nil]
  | read hlists =>
    rw [Transcript.errors_append, Transcript.errors_append, hhead, hlists.errors_eq_nil]
    rfl
  | sourceless hlists =>
    rw [Transcript.errors_append, hhead, hlists.errors_eq_nil, List.append_nil]

end Session

end ClassLocator

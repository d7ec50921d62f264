import ClassLocator.Proofs.Search.Sound
import ClassLocator.Session

/-!
# Blocks

A report of a match is a block of up to four parts, one after the other: the line of the path, the
line of the package, what the disassembler writes, and the source. What a report does is said here
without the state of a run: it adds pieces to the transcript of the run, and gives an answer.

A report may fail where the disassembler is to be started or the source to be read; then the block
ends there.

## Main definitions

* `Match.block` and its parts
* `Appends`: an action that only adds to the transcript.
* `Session.Reports`: the pieces of a report, and its answer.

## Main statements

* `Session.report_appends`: a report of a sound match.
-/

namespace ClassLocator

/-! ## The parts of a block -/

namespace Match

variable (display : Display) (tool : List Text) (found : Match)

def pathText : Text :=
  if display.showPath = true ∧ found.firstInContainer = true then
    "Path: " ++ found.location ++ ['\n']
  else []

/-- The line of the package is indented below a line of the path. -/
def packageText : Text :=
  if display.showPackage = true then
    (if display.showPath = true then "    ".toList else []) ++
      "Package: " ++ ClassName.ofPath found.package ++ ['\n']
  else []

/-- The command that lists the members of the class. -/
def command : List Text :=
  tool ++ (if display.showPrivateMethods = true then ["-p".toList] else []) ++
    match found.memberName with
    | some name => ["-classpath".toList, found.location, ClassName.identifier name]
    | none => [found.location]

/-- What the command writes, if members are to be listed. -/
def listing (host : Host) : Text :=
  if display.listsMethods = true then
    match host.disassembly (found.command display tool) with
    | .ran output _ _ => output
    | .refused _ => []
  else []

/-- The source with its line ends made alike. -/
def sourceText : Text :=
  match found.source with
  | some (.ok bytes) => Text.normalLines (SourceText.decode bytes)
  | _ => []

def block (host : Host) : Text :=
  found.pathText display ++ found.packageText display ++ found.listing display tool host ++
    found.sourceText

end Match

/-- The disassembler is asked for the command of the match. -/
theorem Reporter.disassembly_eq {σ : Type} (reporter : Reporter σ) {found : Match}
    (hsound : found.IsSound reporter.display.sourceMode) :
    ∃ request, reporter.disassembly found = .ok request ∧
      request.command = found.command reporter.display reporter.disassembler := by
  unfold Reporter.disassembly
  split
  case h_1 name hkind hname =>
    exact ⟨_, rfl, by simp [Match.command, Disassembly.command, hname]⟩
  case h_2 hkind hname =>
    have hnamed := hsound.archive hkind
    rw [hname] at hnamed
    cases hnamed
  case h_3 _ hnamed hunnamed =>
    have hkind : found.kind ≠ .archive := by
      intro hkind
      exact hnamed _ hkind (hsound.archive hkind)
    have hname := hsound.elsewhere hkind
    exact ⟨_, rfl, by simp [Match.command, Disassembly.command, hname]⟩

/-! ## Adding to the transcript -/

/-- From any transcript on, the action gives the answer and adds the pieces. -/
def Appends {α : Type} (action : Action Transcript α) (answer : Except Fault α)
    (pieces : Transcript) : Prop :=
  ∀ transcript, action.runFrom transcript = (answer, transcript ++ pieces)

namespace Appends

variable {α β : Type} {action : Action Transcript α} {next : α → Action Transcript β}
  {pieces others : Transcript}

theorem pure (value : α) : Appends (Pure.pure value) (.ok value) [] := by
  intro transcript
  rw [Action.runFrom_pure, List.append_nil]

theorem throw (fault : Fault) : Appends (throw fault : Action Transcript α) (.error fault) [] := by
  intro transcript
  rw [Action.runFrom_throw, List.append_nil]

theorem add (piece : Piece) : Appends (modify (Transcript.add piece)) (.ok ⟨⟩) [piece] :=
  fun _ => rfl

theorem bind {value : α} {answer : Except Fault β} (h : Appends action (.ok value) pieces)
    (hnext : Appends (next value) answer others) :
    Appends (action >>= next) answer (pieces ++ others) := by
  intro transcript
  rw [Action.runFrom_bind_ok transcript (h transcript), hnext, List.append_assoc]

/-- What follows may add nothing. -/
theorem bind_end {value : α} {answer : Except Fault β} (h : Appends action (.ok value) pieces)
    (hnext : Appends (next value) answer []) : Appends (action >>= next) answer pieces := by
  have hboth := h.bind hnext
  rwa [List.append_nil] at hboth

theorem add_bind {rest : PUnit → Action Transcript β} {answer : Except Fault β} (piece : Piece)
    (hrest : Appends (rest ⟨⟩) answer others) :
    Appends (modify (Transcript.add piece) >>= rest) answer (piece :: others) :=
  bind (add piece) hrest

theorem bind_error {fault : Fault} (h : Appends action (.error fault) pieces) :
    Appends (action >>= next) (.error fault) pieces :=
  fun transcript => Action.runFrom_bind_error transcript (h transcript) next

end Appends

namespace Session

section

variable (host : Host) (display : Display) (setup : Setup) (found : Match)

/-! ## Reports -/

/-- The pieces for the lines of the path and of the package. -/
def headPieces : Transcript :=
  ((reporter host display setup).pathLine? found).toList.map .report ++
    ((reporter host display setup).packageLine? found).toList.map .report

/-- What is let be known of a command before it runs. -/
def attempt (command : List Text) : Transcript :=
  [.notice (.debug (ShellWords.join command)), .notice (.started command)]

/-- The pieces of the listing of members, if nothing fails there. -/
inductive Lists : Transcript → Prop
  | unwanted : display.listsMethods = false → Lists []
  | ran {output : Text} {exit : Int} {errors : Text} : display.listsMethods = true →
      host.disassembly (found.command display setup.disassembler) = .ran output exit errors →
      Lists (attempt (found.command display setup.disassembler) ++ [.child output errors])

/-- The pieces of a report and its answer. -/
inductive Reports : Except Fault Flow → Transcript → Prop
  | notStarted {errno : Errno} : display.listsMethods = true →
      host.disassembly (found.command display setup.disassembler) = .refused errno →
      Reports
        (.error (.disassembler ((found.command display setup.disassembler).headD [])
          (.system errno (some ((found.command display setup.disassembler).headD [])))))
        (headPieces host display setup found ++
          attempt (found.command display setup.disassembler))
  | notRead {pieces : Transcript} {cause : Cause} : Lists host display setup found pieces →
      found.source = some (.error cause) →
      Reports (.error (sourceFault found.sourceName cause))
        (headPieces host display setup found ++ pieces)
  | read {pieces : Transcript} {bytes : Bytes} : Lists host display setup found pieces →
      found.source = some (.ok bytes) →
      Reports (.ok .stop)
        (headPieces host display setup found ++ pieces ++
          [.report ((reporter host display setup).sourceBody found bytes)])
  | sourceless {pieces : Transcript} : Lists host display setup found pieces →
      found.source = none →
      Reports (.ok .continue) (headPieces host display setup found ++ pieces)

end

section

variable {host : Host} {display : Display} {setup : Setup} {found : Match}

theorem writeLine_appends (line : Option Text) :
    Appends ((reporter host display setup).writeLine line) (.ok ⟨⟩) (line.toList.map .report) := by
  cases line with
  | none => exact .pure _
  | some text => exact .add (.report text)

theorem disassemble_refused {request : Disassembly} {errno : Errno}
    (h : host.disassembly request.command = .refused errno) :
    Appends (disassemble host request)
      (.error (.disassembler (request.command.headD [])
        (.system errno (some (request.command.headD [])))))
      (attempt request.command) := by
  simp only [disassemble, h]
  exact .add_bind _ (.add_bind _ (.throw _))

theorem disassemble_ran {request : Disassembly} {output errors : Text} {exit : Int}
    (h : host.disassembly request.command = .ran output exit errors) :
    Appends (disassemble host request) (.ok exit)
      (attempt request.command ++ [.child output errors]) := by
  simp only [disassemble, h]
  exact .add_bind _ (.add_bind _ (.add_bind _ (.pure exit)))

variable (host setup)

theorem listMethods_appends (hsound : found.IsSound display.sourceMode) :
    (∃ errno, display.listsMethods = true ∧
      host.disassembly (found.command display setup.disassembler) = .refused errno ∧
      Appends ((reporter host display setup).listMethods found)
        (.error (.disassembler ((found.command display setup.disassembler).headD [])
          (.system errno (some ((found.command display setup.disassembler).headD [])))))
        (attempt (found.command display setup.disassembler))) ∨
    ∃ pieces, Lists host display setup found pieces ∧
      Appends ((reporter host display setup).listMethods found) (.ok ⟨⟩) pieces := by
  cases hlists : display.listsMethods with
  | false =>
    refine .inr ⟨[], .unwanted hlists, ?_⟩
    simp only [Reporter.listMethods, reporter, hlists]
    exact .pure _
  | true =>
    obtain ⟨request, hrequest, hcommand⟩ :=
      Reporter.disassembly_eq (reporter host display setup) hsound
    change request.command = found.command display setup.disassembler at hcommand
    have hrun : (reporter host display setup).listMethods found = (do
        let _ ← ClassLocator.disassemble host request) := by
      simp only [Reporter.listMethods, hrequest]
      simp [reporter, hlists]
    rw [hrun, ← hcommand]
    cases hchild : host.disassembly request.command with
    | refused errno => exact .inl ⟨errno, rfl, rfl, (disassemble_refused hchild).bind_error⟩
    | ran output exit errors =>
      refine .inr ⟨attempt request.command ++ [.child output errors], ?_, ?_⟩
      · rw [hcommand] at hchild ⊢
        exact .ran hlists hchild
      · exact (disassemble_ran hchild).bind_end (.pure _)

/-- What a source makes of a report; a match without one goes on. -/
theorem writeSource_appends (hsound : found.IsSound display.sourceMode) :
    Appends ((reporter host display setup).writeSource found)
      (match found.source with
        | none => .ok .continue
        | some (.error cause) => .error (sourceFault found.sourceName cause)
        | some (.ok _) => .ok .stop)
      (match found.source with
        | some (.ok bytes) => [.report ((reporter host display setup).sourceBody found bytes)]
        | _ => []) := by
  cases hmode : display.sourceMode with
  | false =>
    rw [hmode] at hsound
    have hnone := hsound.source_eq_none
    simp only [Reporter.writeSource, reporter, hmode, hnone]
    exact .pure _
  | true =>
    rcases hsource : found.source with _ | cause | bytes
    · simp only [Reporter.writeSource, reporter, hmode, hsource]
      exact .pure _
    · simp only [Reporter.writeSource, reporter, hmode, hsource]
      exact .throw _
    · simp only [Reporter.writeSource, hsource]
      simp only [reporter, hmode]
      exact .add_bind _ (.pure _)

theorem report_appends (hsound : found.IsSound display.sourceMode) :
    ∃ answer pieces, Reports host display setup found answer pieces ∧
      Appends ((reporter host display setup).report found) answer pieces := by
  let rep := reporter host display setup
  have hpath : Appends (rep.writeLine (rep.pathLine? found)) _ _ := writeLine_appends _
  have hpackage : Appends (rep.writeLine (rep.packageLine? found)) _ _ := writeLine_appends _
  rcases listMethods_appends host setup hsound with
    ⟨errno, hlists, hchild, happends⟩ | ⟨pieces, hlists, happends⟩
  · refine ⟨_, _, .notStarted hlists hchild, ?_⟩
    rw [headPieces, List.append_assoc]
    exact hpath.bind (hpackage.bind happends.bind_error)
  · have hsource := writeSource_appends host setup hsound
    have hreport : Appends (rep.report found) _ _ :=
      hpath.bind (hpackage.bind (happends.bind hsource))
    refine ⟨_, _, ?_, hreport⟩
    rw [← List.append_assoc, ← List.append_assoc]
    rcases hfound : found.source with _ | cause | bytes
    · rw [List.append_nil]
      exact .sourceless hlists hfound
    · rw [List.append_nil]
      exact .notRead hlists hfound
    · exact .read hlists hfound

end

end Session

end ClassLocator

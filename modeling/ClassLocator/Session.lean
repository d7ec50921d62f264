import ClassLocator.CommandLine
import ClassLocator.Diagnostics
import ClassLocator.Report
import ClassLocator.Runtime.Catalog
import ClassLocator.Settings

/-!
# Sessions

A session is one run of the program from its command line to its end. It is kept as a transcript
of everything that the run let be seen, in order; what stands on standard output, on standard
error, and which commands were started, are views of the transcript.

## Main definitions

* `Piece`, `Transcript`
* `Session.run`: the transcript and the ending of a run.
* `Transcript.output`, `Transcript.errors`, `Transcript.commands`
-/

namespace ClassLocator

inductive Piece where
  | notice (notice : Notice)
  /-- Text that the program writes to standard output. -/
  | report (text : Text)
  /-- What the disassembler writes to the streams of the run: to standard output, and to standard
  error. -/
  | child (text errors : Text)
  /-- Text that the program writes to standard error. -/
  | complaint (text : Text)
deriving DecidableEq, Repr

abbrev Transcript := List Piece

namespace Transcript

def add (piece : Piece) (transcript : Transcript) : Transcript := transcript ++ [piece]

/-! ## Views -/

/-- What a piece adds to standard output, if records go where the logger sends them. -/
def outputOf (logger : Logger) : Piece → Text
  | .report text => text
  | .child text _ => text
  | .complaint _ => []
  | .notice (.record record) => Logger.written (logger.sinks record.level) .output record.message
  | .notice (.started _) => []

/-- What the program itself adds to standard error with a piece. -/
def errorsOf (logger : Logger) : Piece → Text
  | .complaint text => text
  | .notice (.record record) => Logger.written (logger.sinks record.level) .errors record.message
  | _ => []

def commandOf? : Piece → Option (List Text)
  | .notice (.started command) => some command
  | _ => none

def recordOf? : Piece → Option Record
  | .notice (.record record) => some record
  | _ => none

def childOf : Piece → Text
  | .child text _ => text
  | _ => []

/-- What all together add to standard error with a piece. The streams of a child are those of the
run. -/
def allErrorsOf (logger : Logger) : Piece → Text
  | .child _ errors => errors
  | piece => errorsOf logger piece

def output (logger : Logger) (transcript : Transcript) : Text :=
  transcript.flatMap (outputOf logger)

def errors (logger : Logger) (transcript : Transcript) : Text :=
  transcript.flatMap (errorsOf logger)

def allErrors (logger : Logger) (transcript : Transcript) : Text :=
  transcript.flatMap (allErrorsOf logger)

def commands (transcript : Transcript) : List (List Text) := transcript.filterMap commandOf?

def records (transcript : Transcript) : List Record := transcript.filterMap recordOf?

def childText (transcript : Transcript) : Text := transcript.flatMap childOf

end Transcript

/-! ## Running the disassembler -/

/-- Starts the disassembler and waits for it. How it exits does not matter to a run. -/
def disassemble (host : Host) (request : Disassembly) : Action Transcript Int := do
  let command := request.command
  modify (Transcript.add (.notice (.debug (ShellWords.join command))))
  modify (Transcript.add (.notice (.started command)))
  match host.disassembly command with
  | .refused errno =>
    let word := command.headD []
    throw (.disassembler word (.system errno (some word)))
  | .ran output exit errors =>
    modify (Transcript.add (.child output errors))
    return exit

/-! ## Running the program -/

/-- How a run ends. -/
inductive Ending where
  | exit (code : Nat)
  /-- The run is broken off by a fault that is not reported. -/
  | broken (fault : Fault)
  /-- The run does not end: it waits for what never comes. -/
  | never
deriving DecidableEq, Repr

/-- How a run ends on a fault that is not reported. -/
def Ending.ofUnreported : Fault → Ending
  | .bare .unanswered => .never
  | fault => .broken fault

structure Session where
  transcript : Transcript
  ending : Ending
  /-- What became of the records of the run. -/
  logger : Logger
deriving DecidableEq, Repr

/-- What a run is given besides its host. -/
structure Request where
  arguments : List Text
  /-- The document of the settings. -/
  document : Option Bytes := none
  /-- A catalog of fixed classes, in the place of the one of the JDK. -/
  loadedClasses : Option (List LoadedClass) := none

/-- What stands for the trace of a fault. -/
def traceMark : Text := "<traceback>"

namespace Session

def output (session : Session) : Text := session.transcript.output session.logger

/-- What the program itself writes to standard error. -/
def errors (session : Session) : Text := session.transcript.errors session.logger

/-- What the program and the disassembler write to standard error. -/
def allErrors (session : Session) : Text := session.transcript.allErrors session.logger

def commands (session : Session) : List (List Text) := session.transcript.commands

/-- What is written to standard error about a command line that is no search. -/
def usageComplaint (error : UsageError) : Text :=
  (match error.message with
  | [] => []
  | message => message ++ ['\n']) ++ usage ++ ['\n']

/-- What is written to standard error about a fault. -/
def faultComplaint (debug : Bool) (fault : Fault) : Text :=
  programName ++ ": " ++ fault.message ++ ['\n'] ++ if debug then traceMark ++ ['\n'] else []

/-- Everything that a search needs to know beyond the command line. -/
structure Setup where
  runtime : Feed Fault Event
  elements : List Element
  /-- The words of the disassembler's command. -/
  disassembler : List Text
  highlightSource : Bool
  style : Text := Highlighter.defaultStyle

def setup (host : Host) (request : Request) (options : Options) : Except Cause Setup := do
  let settings ← Settings.ofDocument host.environment request.document
  let javaHome := settings.resolveJavaHome host
  let query : Query := ⟨options.className⟩
  let runtime := match request.loadedClasses with
    | some classes => .ofList (classes.map fun found => .hit found.toMatch)
    | none => ((Catalog.resolve host query ⟨javaHome, none⟩).1).mapFailure .bare
  let texts ← ClassPath.split ClassPath.separator (ClassPath.default host.environment)
  let disassembler ← settings.resolveDisassembler host javaHome
  return {
    runtime
    elements := ClassPath.elements texts options.jdkSource
    disassembler
    highlightSource := settings.highlightSource
    style := settings.style }

/-- Reports matches into the transcript of a run. -/
def reporter (host : Host) (display : Display) (setup : Setup) : Reporter Transcript where
  display
  disassembler := setup.disassembler
  highlightSource := setup.highlightSource
  highlighter := host.highlighter
  style := setup.style
  isTerminal := host.isTerminal
  write := fun text => Transcript.add (.report text)
  disassemble := fun request => do
    let _ ← ClassLocator.disassemble host request

def listener (reporter : Reporter Transcript) : Listener Transcript where
  notice := fun notice => Transcript.add (.notice notice)
  hit := reporter.report

/-- The search of a run, with its matches reported. -/
def searchAction (host : Host) (options : Options) (setup : Setup) : Action Transcript Outcome :=
  search (listener (reporter host options.display setup)) host.files ⟨options.className⟩
    options.display setup.runtime setup.elements

/-- Searches and reports. Faults are reported as well, bare causes are not. -/
def searchWith (host : Host) (options : Options) (setup : Setup) : Session :=
  let logger := Logger.configure options.display.debug {}
  match (searchAction host options setup).runFrom [] with
  | (.ok _, transcript) => ⟨transcript, .exit 0, logger⟩
  | (.error fault, transcript) =>
    if fault.isReported then
      let complaint := faultComplaint options.display.debug fault
      ⟨Transcript.add (.complaint complaint) transcript, .exit 1, logger⟩
    else ⟨transcript, .ofUnreported fault, logger⟩

def run (host : Host) (request : Request) : Session :=
  match Options.parse host.files request.arguments with
  | .error (.usage error) => ⟨[.complaint (usageComplaint error)], .exit 1, {}⟩
  | .error fault => ⟨[], .broken fault, {}⟩
  | .ok options =>
    match setup host request options with
    | .error cause => ⟨[], .broken (.bare cause), Logger.configure options.display.debug {}⟩
    | .ok setup => searchWith host options setup

end Session

end ClassLocator

import ClassLocator.Disassembly
import ClassLocator.Display
import ClassLocator.Highlight.Highlighter
import ClassLocator.Query
import ClassLocator.Search
import ClassLocator.Text.CodePage
import ClassLocator.Text.Lines
import ClassLocator.Text.Utf8

/-!
# Reports

What is written for a match: where it is, which class it stands for, the members of the class, and
its source. A source that has been written ends the search.

## Main definitions

* `SourceText.decode`: the text of a source file.
* `Reporter`, `Reporter.report`
-/

namespace ClassLocator

/-! ## Sources -/

namespace SourceText

/-- UTF-8 whose byte order mark, if there is one, does not count. -/
def decodeMarked? (bytes : Bytes) : Option Text :=
  match bytes with
  | 0xEF :: 0xBB :: 0xBF :: rest => Utf8.decode? rest
  | _ => Utf8.decode? bytes

/-- The encodings in which a source is tried to be read, in order. -/
def encodings : List (Bytes → Option Text) :=
  [Utf8.decode?, decodeMarked?, fun bytes => some (CodePage.latin1 bytes)]

/-- The text in the first encoding that fits; in UTF-8 with replacements if none does. -/
def decode (bytes : Bytes) : Text :=
  (encodings.findSome? (· bytes)).getD (Utf8.decodeReplacing bytes)

end SourceText

/-! ## Reporting -/

/-- How matches are reported: what is shown, and what happens to the texts that are written and to
the requests for a disassembly. -/
structure Reporter (σ : Type) where
  display : Display
  /-- The words of the disassembler's command. -/
  disassembler : List Text
  highlightSource : Bool
  highlighter : Highlighter
  /-- The style in which sources are highlighted. -/
  style : Text := Highlighter.defaultStyle
  isTerminal : Bool
  write : Text → σ → σ
  disassemble : Disassembly → Action σ PUnit

/-- What stands before a package line when path lines are shown. -/
def packageIndent : Text := "    "

/-- The causes for which a source counts as one that cannot be read. -/
def sourceFault (name : Text) (cause : Cause) : Fault :=
  match cause.kind with
  | .system | .malformed | .refused | .unsupported => .source name cause
  | _ => .bare cause

/-- The name under which the source of a match is known. -/
def Match.sourceName (found : Match) : Text :=
  match found.memberName with
  | some (c :: name) => c :: name
  | _ => found.location

namespace Reporter

variable {σ : Type} (reporter : Reporter σ)

def pathLine? (found : Match) : Option Text :=
  if reporter.display.showPath && found.firstInContainer then
    some ("Path: " ++ found.location ++ ['\n'])
  else none

def packageLine? (found : Match) : Option Text :=
  if reporter.display.showPackage then
    some ((if reporter.display.showPath then packageIndent else []) ++
      "Package: " ++ ClassName.ofPath found.package ++ ['\n'])
  else none

def writeLine (line : Option Text) : Action σ PUnit :=
  match line with
  | some line => modify (reporter.write line)
  | none => return

/-- Members in an archive are looked up by their names in it, other classes by their location. -/
def disassembly (found : Match) : Except Cause Disassembly :=
  let tool := reporter.disassembler
  let listsPrivate := reporter.display.showPrivateMethods
  match found.kind, found.memberName with
  | .archive, some name =>
    .ok ⟨tool, ClassName.identifier name, listsPrivate, some found.location⟩
  | .archive, none => .error .unnamedMember
  | _, _ => .ok ⟨tool, found.location, listsPrivate, none⟩

def listMethods (found : Match) : Action σ PUnit := do
  if reporter.display.listsMethods then
    match reporter.disassembly found with
    | .ok request => reporter.disassemble request
    | .error cause => throw (.bare cause)

/-- A source as it is written. -/
def sourceBody (found : Match) (bytes : Bytes) : Text :=
  let text := Text.normalLines (SourceText.decode bytes)
  if reporter.highlightSource && reporter.isTerminal then
    reporter.highlighter.colorize reporter.style text found.sourceName
  else text

def writeSource (found : Match) : Action σ Flow := do
  if !reporter.display.sourceMode then return .continue
  match found.source with
  | none => return .continue
  | some (.error cause) => throw (sourceFault found.sourceName cause)
  | some (.ok bytes) =>
    modify (reporter.write (reporter.sourceBody found bytes))
    return .stop

/-- Reports a match; only a source makes the search stop. -/
def report (found : Match) : Action σ Flow := do
  reporter.writeLine (reporter.pathLine? found)
  reporter.writeLine (reporter.packageLine? found)
  reporter.listMethods found
  reporter.writeSource found

end Reporter

end ClassLocator

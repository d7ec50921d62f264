import ClassLocator.Archive.Content
import ClassLocator.ClassPath.Element
import ClassLocator.Display
import ClassLocator.FileSystem.Walk
import ClassLocator.Notice
import ClassLocator.Query

/-!
# Matches on the class path

How one element of the class path is searched. In a directory the file names count, in an archive
the names of the members. A directory or an archive that is missing is passed over; one that
cannot be searched to its end is a fault.

## Main definitions

* `directoryMatches`, `archiveMatches`: the matches in a tree and in an archive.
* `Element.scan`: the events of the search of one element.
-/

namespace ClassLocator

/-! ## Directories -/

/-- The path of a file below a root; empty for the root itself. -/
def relativeName (root file : Path) : Text :=
  if file = root then []
  else
    match file.relativeTo? root with
    | some relative => relative.text
    | none => file.text

def fileMatch (root : Path) (sourceMode : Bool) (file : FoundFile) : Match where
  kind := .directory
  location := file.path.text
  package := relativeName root file.path
  source :=
    if sourceMode && Text.occursIn sourceExtension file.path.name then some file.read else none

/-- The match for a file whose name holds the query. -/
def fileMatch? (root : Path) (query : Query) (sourceMode : Bool) (file : FoundFile) :
    Option Match :=
  if Text.occursIn query.shortName file.path.name then some (fileMatch root sourceMode file)
  else none

def directoryMatches (fs : FileSystem) (root : Path) (query : Query) (sourceMode : Bool) :
    Feed Cause Match :=
  (fs.walk root).filterMap (fileMatch? root query sourceMode)

/-! ## Archives -/

def memberMatch (archive : Archive) (container : Path) (sourceMode first : Bool)
    (member : Archive.Member) : Match where
  kind := .archive
  location := container.text
  package := member.name
  memberName := some member.name
  source := if sourceMode then some (archive.content member) else none
  firstInContainer := first

/-- The matches among the members; the flag tells whether the first one is still to come. -/
def memberMatches (archive : Archive) (container : Path) (query : Query) (sourceMode : Bool) :
    Bool → List Archive.Member → List Match
  | _, [] => []
  | first, member :: rest =>
    if query.selects sourceMode member.name then
      memberMatch archive container sourceMode first member ::
        memberMatches archive container query sourceMode false rest
    else memberMatches archive container query sourceMode first rest

def archiveMatches (fs : FileSystem) (container : Path) (query : Query) (sourceMode : Bool) :
    Feed Cause Match :=
  match fs.read container >>= Archive.ofFile fs.unpackers with
  | .ok archive => .ofList (memberMatches archive container query sourceMode true archive.members)
  | .error cause => .fail cause

/-! ## Elements -/

/-- The causes for which a directory counts as one that cannot be scanned. -/
def directoryFault (path : Path) (cause : Cause) : Fault :=
  if cause.kind = .system then .directoryScan path cause else .bare cause

/-- The causes for which an archive counts as one that cannot be scanned. -/
def archiveFault (path : Path) (cause : Cause) : Fault :=
  if cause.kind = .system ∨ cause.kind = .malformed then .archiveScan path cause else .bare cause

def notices (messages : List Notice) : Feed Fault Event := .ofList (messages.map .notice)

/-- What happens with a container once it is known whether it exists. -/
def ifExists (fs : FileSystem) (container : Path) (present absent : Feed Fault Event) :
    Feed Fault Event :=
  match fs.exists? container with
  | .ok true => present
  | .ok false => absent
  | .error cause => .fail (.bare cause)

namespace Element

variable (fs : FileSystem) (query : Query) (display : Display)

def scanDirectory (path : Path) : Feed Fault Event :=
  ifExists fs path
    (((directoryMatches fs path query display.sourceMode).map .hit).mapFailure
      (directoryFault path))
    (notices [.debug ("Skipping missing directory: " ++ path.text)])

def scanArchive (container : Path) : Feed Fault Event :=
  ((archiveMatches fs container query display.sourceMode).map .hit).mapFailure
    (archiveFault container)

/-- In source mode the archive of the sources takes the place of the jar; that it is missing is
worth a warning. -/
def scanJar (path : Path) : Feed Fault Event :=
  if display.sourceMode then
    let container := sourceArchive path
    ifExists fs container
      ((notices [.debug ("Source archive: " ++ container.text)]).followedBy
        (scanArchive fs query display container))
      (notices [.warning ("File does not exist: " ++ container.text)])
  else
    ifExists fs path (scanArchive fs query display path)
      (notices [.debug ("Skipping missing archive: " ++ path.text)])

/-- The events of the search of one element. -/
def scan (element : Element) : Feed Fault Event :=
  (notices [.debug ("Path: " ++ element.path.text)]).followedBy
    (match element with
    | .directory path => scanDirectory fs query display path
    | .jar path => scanJar fs query display path)

end Element

end ClassLocator

import ClassLocator.Errno
import ClassLocator.FileSystem.Path
import ClassLocator.Text.Quoted

/-!
# Faults

A *cause* is what goes wrong below: in the file system, in an archive, in the environment. A
*fault* is what ends a run: a cause together with what was being done, or a cause that nobody
has taken up. Each has one message.

## Main definitions

* `Cause`, `Cause.kind`, `Cause.message`
* `Fault`, `Fault.isReported`, `Fault.message`
-/

namespace ClassLocator

/-! ## Causes -/

/-- The numbers of a directory record that may stand outside of it, in a field of their own. -/
inductive WideNumber where
  | size
  | packedSize
  | place
deriving DecidableEq, Repr

def WideNumber.title : WideNumber → Text
  | size => "File size"
  | packedSize => "Compress size"
  | place => "Header offset"

/-- What is wrong with an archive. -/
inductive ArchiveDefect where
  | notArchive
  | severalDisks
  | badDirectoryOffset
  | truncatedDirectory
  | badDirectorySignature
  | corruptExtraField (id size : Nat)
  | missingNumber (number : WideNumber)
  | truncatedHeader
  | badHeaderSignature
  /-- The directory's name of a member is not the name in front of its data. -/
  | nameMismatch (directoryName : Text) (headerName : Bytes)
  | overlap (name : Text)
  | badChecksum (name : Text)
deriving DecidableEq, Repr

def ArchiveDefect.message : ArchiveDefect → Text
  | notArchive => "File is not a zip file"
  | severalDisks => "zipfiles that span multiple disks are not supported"
  | badDirectoryOffset => "Bad offset for central directory"
  | truncatedDirectory => "Truncated central directory"
  | badDirectorySignature => "Bad magic number for central directory"
  | corruptExtraField id size =>
    "Corrupt extra field " ++ Text.ofHex 4 id ++ " (size=" ++ Text.ofNat size ++ ")"
  | missingNumber number =>
    "Corrupt zip64 extra field. " ++ number.title ++ " not found."
  | truncatedHeader => "Truncated file header"
  | badHeaderSignature => "Bad magic number for file header"
  | nameMismatch directoryName headerName =>
    "File name in directory " ++ Text.quoted directoryName ++ " and header "
      ++ Text.quotedBytes headerName ++ " differ."
  | overlap name => "Overlapped entries: " ++ Text.quoted name ++ " (possible zip bomb)"
  | badChecksum name => "Bad CRC-32 for file " ++ Text.quoted name

/-- What an archive may ask for and this library does not have. -/
inductive ArchiveFeature where
  /-- A version of the format, in tenths. -/
  | version (tenths : Nat)
  | patchedData
  | strongEncryption
  | compressionMethod
deriving DecidableEq, Repr

def ArchiveFeature.message : ArchiveFeature → Text
  | version tenths =>
    "zip file version " ++ Text.ofNat (tenths / 10) ++ "." ++ Text.ofNat (tenths % 10)
  | patchedData => "compressed patched data (flag bit 5)"
  | strongEncryption => "strong encryption (flag bit 6)"
  | compressionMethod => "That compression method is not supported"

/-- The families of causes. What takes up a cause looks at its kind alone. -/
inductive Cause.Kind where
  | system
  | malformed
  | unsupported
  | refused
  | value
  | undecodable
  | stream
  | filter
  | ended
  | assertion
  | silence
deriving DecidableEq, Repr

inductive Cause where
  /-- An error of the operating system, and the path that it is about. -/
  | system (errno : Errno) (path : Option Text)
  | malformed (defect : ArchiveDefect)
  | unsupported (feature : ArchiveFeature)
  /-- The member of an archive, described in words, needs a password. -/
  | encrypted (member : Text)
  /-- A path begins at a home directory that is not known. -/
  | noHome
  | embeddedNul
  | emptySeparator
  /-- A place in a file is beyond the numbers that places are counted in. -/
  | placeOutOfRange
  /-- The name of a member is marked as UTF-8 and is not. -/
  | undecodableName
  /-- The data of a member is no deflated data. -/
  | corruptStream
  /-- The data of a member is nothing that the library for bzip2 unpacks. -/
  | corruptBlocks
  /-- The data of a member is nothing that the library for LZMA unpacks. -/
  | corruptFilter
  /-- The data of a member ends before the member does. -/
  | missingData
  /-- A pipe is read that nobody writes to, so that no answer ever comes. -/
  | unanswered
  /-- A match in an archive that does not say in which member. -/
  | unnamedMember
  /-- A cause that comes with its own message. -/
  | described (kind : Cause.Kind) (message : Text)
deriving DecidableEq, Repr

namespace Cause

def kind : Cause → Kind
  | system .. => .system
  | malformed _ => .malformed
  | unsupported _ => .unsupported
  | encrypted _ => .refused
  | noHome => .refused
  | embeddedNul => .value
  | emptySeparator => .value
  | placeOutOfRange => .value
  | undecodableName => .undecodable
  | corruptStream => .stream
  | corruptBlocks => .system
  | corruptFilter => .filter
  | missingData => .ended
  | unanswered => .silence
  | unnamedMember => .assertion
  | described kind _ => kind

def message : Cause → Text
  | system errno path =>
    "[Errno " ++ Text.ofInt errno.code ++ "] " ++ errno.text ++
      match path with
      | some path => ": " ++ Text.quoted path
      | none => []
  | malformed defect => defect.message
  | unsupported feature => feature.message
  | encrypted member =>
    "File " ++ member ++ " is encrypted, password required for extraction"
  | noHome => "Could not determine home directory."
  | embeddedNul => "embedded null byte"
  | emptySeparator => "empty separator"
  | placeOutOfRange => "cannot fit 'int' into an offset-sized integer"
  | corruptBlocks => "Invalid data stream"
  | undecodableName | corruptStream | corruptFilter | missingData | unanswered | unnamedMember => []
  | described _ message => message

end Cause

/-! ## Faults -/

/-- Why a command line is no search. -/
inductive UsageError where
  | helpWanted
  | noSourceLocation
  | noClassName
  | missingPath (path : Path)
  | notDirectory (path : Path)
deriving DecidableEq, Repr

/-- Asking for help is answered by the usage text alone. -/
def UsageError.message : UsageError → Text
  | helpWanted => []
  | noSourceLocation => "Missing jdk source location"
  | noClassName => "A class name is required"
  | missingPath path => "File path '" ++ path.text ++ "' does not exist"
  | notDirectory path => "File path '" ++ path.text ++ "' is not a directory"

inductive Fault where
  | usage (error : UsageError)
  /-- A directory of the class path could not be scanned to its end. -/
  | directoryScan (path : Path) (cause : Cause)
  /-- An archive of the class path could not be scanned. -/
  | archiveScan (path : Path) (cause : Cause)
  /-- The disassembler, a command that begins with `word`, could not be started. -/
  | disassembler (word : Text) (cause : Cause)
  /-- The source of a match could not be read. -/
  | source (name : Text) (cause : Cause)
  /-- A cause that nobody has taken up. -/
  | bare (cause : Cause)
deriving DecidableEq, Repr

namespace Fault

/-- A run reports these faults and ends; a bare cause breaks it off. -/
def isReported : Fault → Bool
  | bare _ => false
  | _ => true

def message : Fault → Text
  | usage error => error.message
  | directoryScan path cause => "Failed to scan directory " ++ path.text ++ ": " ++ cause.message
  | archiveScan path cause => "Failed to read archive " ++ path.text ++ ": " ++ cause.message
  | disassembler word cause =>
    "Failed to run disassembler " ++ Text.quoted word ++ ": " ++ cause.message
  | source name cause => "Failed to read source " ++ name ++ ": " ++ cause.message
  | bare cause => cause.message

end Fault

end ClassLocator

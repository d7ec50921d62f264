import ClassLocator.Archive.Number
import ClassLocator.Archive.Unpacked
import ClassLocator.Fault
import ClassLocator.Text.CodePage
import ClassLocator.Text.Utf8

/-!
# Archives

An archive ends with a directory of its members, which an end record points at. The directory says
of each member where its data stands and how it is packed; the data stands behind a header of its
own.

What comes before an archive in its file does not count as part of it: the end record tells how
long the archive is, and the places of the members are moved by what is left over.

A large archive has a second end record in front of the first one, with wider numbers. Numbers of
a member that are too large for its record stand in an extra field behind it.

## Main definitions

* `Archive`, `Archive.Member`
* `Archive.EndRecord`, `Archive.readEnd`: where the directory is.
* `Archive.ofFile`: the archive that a file holds.
-/

namespace ClassLocator

/-- A member as the directory describes it. -/
structure Archive.Member where
  /-- The whole name; the name that is shown ends before its first null character. -/
  fullName : Text
  flags : Nat
  method : Nat
  checksum : Nat
  packedSize : Nat
  size : Nat
  /-- What systems note of a file besides, in its upper half the mode of a Unix file. -/
  attributes : Nat
  /-- The place of the header in front of the data. -/
  place : Int
  /-- The place that the data may not reach beyond. -/
  limit : Int
deriving DecidableEq, Repr

structure Archive where
  file : Bytes
  /-- All members in the order of the directory. -/
  members : List Archive.Member
  /-- What unpacks the members. -/
  unpackers : Unpackers := {}

namespace Archive

/-- The name of a member as it is shown and searched. -/
def Member.name (member : Member) : Text := member.fullName.takeWhile (· ≠ '\x00')

/-- Bit 11 of the flags marks a name as UTF-8; other names are in code page 437. -/
def decodeName (flags : Nat) (name : Bytes) : Except Cause Text :=
  if flags.testBit 11 then
    match Utf8.decode? name with
    | some text => .ok text
    | none => .error .undecodableName
  else .ok (CodePage.ibm437 name)

/-! ## The end record -/

def endSignature : Bytes := [0x50, 0x4B, 5, 6]

def endSize : Nat := 22

/-- How far from the end of the file the end record may begin: a comment of any length follows. -/
def endReach : Nat := 0x10000 + endSize

/-- The last place at which the signature stands. -/
def lastPlaceOf? (signature : Bytes) : Bytes → Option Nat
  | [] => none
  | b :: rest =>
    match lastPlaceOf? signature rest with
    | some place => some (place + 1)
    | none => if signature.isPrefixOf (b :: rest) then some 0 else none

/-- The place of the end record: at the very end without a comment, or else the last one of its
signature within reach. -/
def endPlace? (file : Bytes) : Option Nat :=
  if file.length < endSize then none
  else
    let final := file.drop (file.length - endSize)
    if endSignature.isPrefixOf final ∧ final.drop (endSize - 2) = [0, 0] then
      some (file.length - endSize)
    else
      let start := file.length - endReach
      (lastPlaceOf? endSignature (file.drop start)).bind fun place =>
        if start + place + endSize ≤ file.length then some (start + place) else none

/-- Where the directory ends, and what is said of its size and of its beginning. -/
structure EndRecord where
  place : Nat
  size : Nat
  start : Nat
deriving DecidableEq, Repr

def locatorSignature : Bytes := [0x50, 0x4B, 6, 7]

/-- The size of what stands between the two end records and tells of the wide one. -/
def locatorSize : Nat := 20

def wideEndSignature : Bytes := [0x50, 0x4B, 6, 6]

def wideEndSize : Nat := 56

/-- The end record at this place, or the wide one in front of it if it is announced and there. Of
the places that the locator tells none counts. -/
def readEnd (file : Bytes) (place : Nat) : Except Cause EndRecord :=
  let record := file.drop place
  let narrow : EndRecord := ⟨place, field record 12 4, field record 16 4⟩
  let locator := file.drop (place - locatorSize)
  if place < locatorSize ∨ locator.take 4 ≠ locatorSignature then .ok narrow
  else if field locator 4 4 ≠ 0 ∨ 1 < field locator 16 4 then .error (.malformed .severalDisks)
  else if place < locatorSize + wideEndSize then .error (.malformed .notArchive)
  else
    let widePlace := place - locatorSize - wideEndSize
    let wide := file.drop widePlace
    if wide.take 4 ≠ wideEndSignature then .ok narrow
    else .ok ⟨widePlace, field wide 40 8, field wide 48 8⟩

/-! ## The directory -/

def recordSignature : Bytes := [0x50, 0x4B, 1, 2]

/-- The size of a directory record without its name, extra field and comment. -/
def recordSize : Nat := 46

/-- The latest version of the format that is understood, in tenths. -/
def latestVersion : Nat := 63

/-- The number for which there was no room in the record, if it is `isWide`: the next one of those
that are given instead. -/
def takeNumber (number : WideNumber) (isWide : Bool) (given : Nat) (data : Bytes) :
    Except Cause (Nat × Bytes) :=
  if !isWide then .ok (given, data)
  else if data.length < 8 then .error (.malformed (.missingNumber number))
  else .ok (field data 0 8, data.drop 8)

/-- The member with its wide numbers. A number is wide if all bits of its field are set. -/
def widen (member : Member) (data : Bytes) : Except Cause Member := do
  let (size, data) ← takeNumber .size
    (member.size = 0xFFFFFFFFFFFFFFFF || member.size = 0xFFFFFFFF) member.size data
  let (packedSize, data) ← takeNumber .packedSize (member.packedSize = 0xFFFFFFFF)
    member.packedSize data
  let (place, _) ← takeNumber .place (member.place = 0xFFFFFFFF) member.place.toNat data
  return { member with size, packedSize, place }

/-- The identifier of the pieces with wide numbers. -/
def wideIdentifier : Nat := 1

/-- An extra field is a sequence of pieces, each with an identifier and a size in front. -/
def readExtra (extra : Bytes) (member : Member) : Except Cause Member :=
  if 4 ≤ extra.length then
    let identifier := field extra 0 2
    let size := field extra 2 2
    if extra.length < size + 4 then .error (.malformed (.corruptExtraField identifier size))
    else if identifier = wideIdentifier then
      widen member ((extra.drop 4).take size) >>= readExtra (extra.drop (size + 4))
    else readExtra (extra.drop (size + 4)) member
  else .ok member
termination_by extra.length
decreasing_by
  all_goals
    simp only [List.length_drop]
    omega

/-- The member that a directory record describes; its place is not yet moved and its limit not yet
known. -/
def readRecord (directory : Bytes) : Except Cause Member := do
  if directory.length < recordSize then throw (.malformed .truncatedDirectory)
  if directory.take 4 ≠ recordSignature then throw (.malformed .badDirectorySignature)
  let name := (directory.drop recordSize).take (field directory 28 2)
  let extra := (directory.drop (recordSize + field directory 28 2)).take (field directory 30 2)
  let fullName ← decodeName (field directory 8 2) name
  let version := field directory 6 1
  if version > latestVersion then throw (.unsupported (.version version))
  readExtra extra {
    fullName
    flags := field directory 8 2
    method := field directory 10 2
    checksum := field directory 16 4
    packedSize := field directory 20 4
    size := field directory 24 4
    attributes := field directory 38 4
    place := field directory 42 4
    limit := 0 }

/-- The bytes that the record at the front claims for itself. -/
def claimedSize (directory : Bytes) : Nat :=
  recordSize + field directory 28 2 + field directory 30 2 + field directory 32 2

/-- The records of the directory, until its bytes are used up. -/
def readRecords (directory : Bytes) : Except Cause (List Member) :=
  if directory = [] then .ok []
  else do
    let member ← readRecord directory
    let rest ← readRecords (directory.drop (claimedSize directory))
    return member :: rest
termination_by directory.length
decreasing_by
  have : 0 < directory.length := List.length_pos_iff.2 ‹_›
  simp only [claimedSize, recordSize, List.length_drop]
  omega

/-- The data of a member ends where the next header begins, in the order of the places, and at the
directory if there is none. Of several members at one place only the first has room. -/
def limitOf (directoryStart : Int) (earlier all : List Int) (place : Int) : Int :=
  if place ∈ earlier then place
  else ((all.filter (place < ·)).min?).getD directoryStart

/-- Moves the places and sets the limits. -/
def settle (directoryStart shift : Int) (members : List Member) : List Member :=
  let places := members.map (·.place + shift)
  members.zipIdx.map fun (member, index) =>
    { member with
      place := member.place + shift
      limit := limitOf directoryStart (places.take index) places (member.place + shift) }

/-- The archive that a file holds. The directory ends where the end record begins. -/
def ofFile (unpackers : Unpackers) (file : Bytes) : Except Cause Archive := do
  let some place := endPlace? file | throw (.malformed .notArchive)
  let record ← readEnd file place
  let start : Int := record.place - record.size
  if start < 0 then throw (.malformed .badDirectoryOffset)
  let members ← readRecords ((file.drop start.toNat).take record.size)
  return ⟨file, settle start (start - record.start) members, unpackers⟩

end Archive

end ClassLocator

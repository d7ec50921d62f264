import ClassLocator.Archive.Checksum
import ClassLocator.Archive.Deflate
import ClassLocator.Archive.Description

/-!
# The content of archive members

Opening a member checks its header against the directory; reading it unpacks its data and checks
the sum. Names, flags, sizes and the sum are those of the directory. Data in a packing that is not
unpacked here goes to the library for it.

## Main definitions

* `Archive.dataPlace`: where the data of a member begins.
* `Archive.unpack`: the data as its method packs it.
* `Archive.content`: the bytes of a member.
-/

namespace ClassLocator.Archive

def headerSignature : Bytes := [0x50, 0x4B, 3, 4]

/-- The size of a header without its name and extra field. -/
def headerSize : Nat := 30

inductive Method where
  | stored
  | deflated
  | bzip2
  | lzma
deriving DecidableEq, Repr

def Method.ofCode? : Nat → Option Method
  | 0 => some stored
  | 8 => some deflated
  | 12 => some bzip2
  | 14 => some lzma
  | _ => none

/-- What the data expands to; stored data does not tell where it ends. -/
def Method.expand? (unpackers : Unpackers) : Method → Bytes → Option Unpacked
  | stored, data => some ⟨data, false⟩
  | deflated, data => Deflate.inflate? data
  | bzip2, data => unpackers.bzip2 data
  | lzma, data => unpackers.lzma data

/-- What is wrong with data that expands to nothing. -/
def Method.corruption : Method → Cause
  | stored | deflated => .corruptStream
  | bzip2 => .corruptBlocks
  | lzma => .corruptFilter

/-- One more than the greatest place in a file that can be asked for. -/
def placeLimit : Int := 0x8000000000000000

/-- The place of the data behind the header of a member, if the header agrees with the directory
and the data has room. The name and the extra field of the header count as far as the file goes. -/
def dataPlace (archive : Archive) (member : Member) : Except Cause Nat := do
  if member.place < -placeLimit ∨ placeLimit ≤ member.place then throw .placeOutOfRange
  if member.place < 0 then throw (.system .invalidArgument none)
  let start := member.place.toNat
  let header := (archive.file.drop start).take headerSize
  if header.length < headerSize then throw (.malformed .truncatedHeader)
  if header.take 4 ≠ headerSignature then throw (.malformed .badHeaderSignature)
  let name := (archive.file.drop (start + headerSize)).take (field header 26 2)
  if member.flags.testBit 5 then throw (.unsupported .patchedData)
  if member.flags.testBit 6 then throw (.unsupported .strongEncryption)
  let headerName ← decodeName (field header 6 2) name
  if headerName ≠ member.fullName then
    throw (.malformed (.nameMismatch member.fullName name))
  let extra := (archive.file.drop (start + headerSize + name.length)).take (field header 28 2)
  let place := start + headerSize + name.length + extra.length
  if (place + member.packedSize : Int) > member.limit then
    throw (.malformed (.overlap member.fullName))
  return place

/-- Data that is there in part only is an error unless it gives as many bytes as are wanted. -/
def unpack (unpackers : Unpackers) (method : Method) (packedSize size : Nat) (data : Bytes) :
    Except Cause Bytes := do
  if data = [] ∧ packedSize ≠ 0 then throw .missingData
  let some unpacked := method.expand? unpackers data | throw method.corruption
  if unpacked.isComplete ∨ data.length = packedSize ∨ size ≤ unpacked.output.length then
    return unpacked.output.take size
  else throw .missingData

/-- The bytes of a member. -/
def content (archive : Archive) (member : Member) : Except Cause Bytes := do
  let place ← archive.dataPlace member
  if member.flags.testBit 0 then throw (.encrypted member.description)
  let some method := Method.ofCode? member.method | throw (.unsupported .compressionMethod)
  let bytes ← unpack archive.unpackers method member.packedSize member.size
    ((archive.file.drop place).take member.packedSize)
  if Checksum.crc32 bytes ≠ member.checksum then throw (.malformed (.badChecksum member.name))
  return bytes

end ClassLocator.Archive

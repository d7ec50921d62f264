import ClassLocator.Archive.Directory
import ClassLocator.Text.Quoted

/-!
# Members in words

How a member of an archive is spoken of in messages: by its name and by what is not ordinary
about it.

## Main definitions

* `Archive.fileMode`: the mode of a Unix file in letters.
* `Archive.Member.description`
-/

namespace ClassLocator.Archive

/-- The names of the packings that have one, by their numbers. -/
def methodNames : List (Nat × String) := [
  (0, "store"),
  (1, "shrink"),
  (2, "reduce"),
  (3, "reduce"),
  (4, "reduce"),
  (5, "reduce"),
  (6, "implode"),
  (7, "tokenize"),
  (8, "deflate"),
  (9, "deflate64"),
  (10, "implode"),
  (12, "bzip2"),
  (14, "lzma"),
  (18, "terse"),
  (19, "lz77"),
  (97, "wavpack"),
  (98, "ppmd")]

def methodName (method : Nat) : Text :=
  match methodNames.lookup method with
  | some name => name
  | none => Text.ofNat method

/-! ## Modes of files -/

/-- The letter for each type of file, by the upper four bits of a mode. -/
def fileTypes : List (Nat × Char) :=
  [(8, '-'), (4, 'd'), (10, 'l'), (6, 'b'), (2, 'c'), (1, 'p'), (12, 's')]

/-- Reading, writing and executing for one class of users. The extra bit shows in the place of
executing, as `extra` in the case that tells whether this is allowed as well. -/
def permissions (bits : Nat) (hasExtra : Bool) (extra : Char) : Text :=
  [if bits.testBit 2 then 'r' else '-', if bits.testBit 1 then 'w' else '-',
    match hasExtra, bits.testBit 0 with
    | true, true => extra
    | true, false => extra.toUpper
    | false, true => 'x'
    | false, false => '-']

def fileMode (mode : Nat) : Text :=
  (fileTypes.lookup (mode / 0x1000)).getD '?' ::
    (permissions (mode / 0o100) (mode.testBit 11) 's' ++
      permissions (mode / 0o10) (mode.testBit 10) 's' ++ permissions mode (mode.testBit 9) 't')

/-! ## Members -/

namespace Member

def isDirectory (member : Member) : Bool := member.name.getLast? = some '/'

/-- A detail of a member, if it is one to be told. -/
def detail (isTold : Bool) (title value : Text) : Text :=
  if isTold then ' ' :: title ++ '=' :: value else []

/-- The member as messages call it. Sizes are left out where they say nothing. -/
def description (member : Member) : Text :=
  let mode := member.attributes / 0x10000
  let others := member.attributes % 0x10000
  let isPlain : Bool := member.method = 0
  let tellsSize := !member.isDirectory || member.size != 0
  let tellsPackedSize := (!member.isDirectory || member.packedSize != 0) &&
    (!isPlain || member.size != member.packedSize)
  "<ZipInfo filename=" ++ Text.quoted member.name ++
    detail (!isPlain) "compress_type" (methodName member.method) ++
    detail (mode != 0) "filemode" (Text.quoted (fileMode mode)) ++
    detail (others != 0) "external_attr" ('0' :: 'x' :: Text.ofHex 1 others) ++
    detail tellsSize "file_size" (Text.ofNat member.size) ++
    detail tellsPackedSize "compress_size" (Text.ofNat member.packedSize) ++ ['>']

end Member

end ClassLocator.Archive

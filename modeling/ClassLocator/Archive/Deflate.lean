import ClassLocator.Archive.Unpacked

/-!
# Deflated data

The decoder of the deflate format. The compressed data is a sequence of bits, the least one of each
byte first; blocks are stored, or coded with a fixed code, or with a code that they bring along.

A decoder that runs out of bits has *starved*; that is no error, and what it has written until
then counts. Bits that cannot be a continuation are *corrupt*.

## Main definitions

* `Deflate.Code`: a canonical prefix code.
* `Deflate.inflate?`: what the data expands to, and whether its last block came to an end.
-/

namespace ClassLocator.Deflate

abbrev Bits := List Bool

def bitsOf (bytes : Bytes) : Bits :=
  bytes.flatMap fun b => (List.range 8).map b.toNat.testBit

/-! ## Reading bits -/

inductive Stop where
  | starved
  | corrupt
deriving DecidableEq, Repr

/-- A step of the decoder takes bits from the front. -/
abbrev Reader (α : Type) := StateT Bits (Except Stop) α

def readBit : Reader Bool
  | [] => .error .starved
  | b :: rest => .ok (b, rest)

/-- A number of the given count of bits, the least one first. -/
def readNumber : Nat → Reader Nat
  | 0 => pure 0
  | count + 1 => do
    let low ← readBit
    let high ← readNumber count
    return low.toNat + 2 * high

/-- Drops the bits up to the next byte. The data is whole bytes, so the bits that are left tell. -/
def alignToByte : Reader Unit := fun bits => .ok ((), bits.drop (bits.length % 8))

/-! ## Codes -/

/-- A canonical code: how many symbols have each length from one bit on, and the symbols in the
order of their code words. -/
structure Code where
  counts : List Nat
  symbols : Array Nat
deriving Repr

namespace Code

/-- Twice the free places of the length before, less the words of each length; `none` if there
are more words than places. -/
def free? : Nat → List Nat → Option Nat
  | places, [] => some places
  | places, count :: rest => if 2 * places < count then none else free? (2 * places - count) rest

/-- The code with the given length for each symbol, where zero means that the symbol is not used.
Unless `mayLack`, every sequence of bits must begin with a code word; if it may lack some, then only
as a code of a single word of one bit. A code without words is let through: it fails when used. -/
def ofLengths? (mayLack : Bool) (lengths : List Nat) : Option Code :=
  let longest := lengths.foldl max 0
  let counts := (List.range longest).map fun n => lengths.count (n + 1)
  let symbols := ((List.range longest).flatMap fun n =>
    lengths.zipIdx.filterMap fun (length, symbol) => if length = n + 1 then some symbol else none)
  let code : Code := ⟨if longest = 0 then [0] else counts, symbols.toArray⟩
  if longest = 0 then some code
  else
    match free? 1 counts with
    | none => none
    | some 0 => some code
    | some _ => if mayLack ∧ longest = 1 then some code else none

/-- Lengthens the word by one bit at a time until it is one of the words of its length. The
numbers are the word, the first word of the length, and the place of that word's symbol. -/
def readFrom (symbols : Array Nat) : List Nat → Nat → Nat → Nat → Reader (Option Nat)
  | [], _, _, _ => pure none
  | count :: counts, word, first, place => do
    let word := 2 * word + (← readBit).toNat
    if word < first + count then return symbols[place + (word - first)]?
    else readFrom symbols counts word (2 * (first + count)) (place + count)

/-- The symbol at the front of the bits; `none` if the bits begin with no code word. -/
def read? (code : Code) : Reader (Option Nat) := readFrom code.symbols code.counts 0 0 0

def read (code : Code) : Reader Nat := do
  match ← code.read? with
  | some symbol => return symbol
  | none => throw .corrupt

end Code

/-! ## The two codes of a block -/

/-- One code for bytes, lengths and the end of the block, and one for distances. -/
structure Coding where
  literals : Code
  distances : Code
deriving Repr

def fixedLiteralLengths : List Nat :=
  List.replicate 144 8 ++ List.replicate 112 9 ++ List.replicate 24 7 ++ List.replicate 8 8

def fixedDistanceLengths : List Nat := List.replicate 32 5

def fixedCoding? : Option Coding := do
  return ⟨← Code.ofLengths? false fixedLiteralLengths, ← Code.ofLengths? false fixedDistanceLengths⟩

/-- The order in which the lengths of the code for lengths are written. -/
def lengthOrder : List Nat := [16, 17, 18, 0, 8, 7, 9, 6, 10, 5, 11, 4, 12, 3, 13, 2, 14, 1, 15]

/-- Reads `count` code lengths after those in `read`, the last one first. A length may repeat the
one before it, or zero, several times. In a code without words every bit stands for zero. -/
def readLengths (code : Code) : Nat → Nat → List Nat → Reader (List Nat)
  | 0, _, _ => throw .starved
  | fuel + 1, count, read => do
    if read.length = count then return read.reverse
    let symbol := (← code.read?).getD 0
    if symbol < 16 then
      readLengths code fuel count (symbol :: read)
    else
      let (value, times) ← show Reader (Option Nat × Nat) from
        match symbol with
        | 16 => do return (read.head?, 3 + (← readNumber 2))
        | 17 => do return (some 0, 3 + (← readNumber 3))
        | _ => do return (some 0, 11 + (← readNumber 7))
      match value with
      | none => throw .corrupt
      | some value =>
        if read.length + times > count then throw .corrupt
        readLengths code fuel count (List.replicate times value ++ read)

/-- The symbol that ends a block. -/
def endOfBlock : Nat := 256

def orCorrupt {α : Type} : Option α → Reader α
  | some value => pure value
  | none => throw .corrupt

def readCoding : Reader Coding := do
  let literals := 257 + (← readNumber 5)
  let distances := 1 + (← readNumber 5)
  let given := 4 + (← readNumber 4)
  if literals > 286 ∨ distances > 30 then throw .corrupt
  let written ← (List.replicate given 3).mapM readNumber
  let lengthOf (symbol : Nat) : Nat := written.getD (lengthOrder.idxOf symbol) 0
  let code ← orCorrupt (Code.ofLengths? false ((List.range 19).map lengthOf))
  let lengths ← readLengths code (literals + distances + 1) (literals + distances) []
  if lengths.getD endOfBlock 0 = 0 then throw .corrupt
  return ⟨← orCorrupt (Code.ofLengths? true (lengths.take literals)),
    ← orCorrupt (Code.ofLengths? true (lengths.drop literals))⟩

/-! ## Blocks -/

/-- The least length and the count of further bits for the symbols from 257 on. -/
def lengthSteps : List (Nat × Nat) :=
  [(3, 0), (4, 0), (5, 0), (6, 0), (7, 0), (8, 0), (9, 0), (10, 0), (11, 1), (13, 1), (15, 1),
   (17, 1), (19, 2), (23, 2), (27, 2), (31, 2), (35, 3), (43, 3), (51, 3), (59, 3), (67, 4),
   (83, 4), (99, 4), (115, 4), (131, 5), (163, 5), (195, 5), (227, 5), (258, 0)]

/-- The least distance and the count of further bits for each distance symbol. -/
def distanceSteps : List (Nat × Nat) :=
  [(1, 0), (2, 0), (3, 0), (4, 0), (5, 1), (7, 1), (9, 2), (13, 2), (17, 3), (25, 3), (33, 4),
   (49, 4), (65, 5), (97, 5), (129, 6), (193, 6), (257, 7), (385, 7), (513, 8), (769, 8), (1025, 9),
   (1537, 9), (2049, 10), (3073, 10), (4097, 11), (6145, 11), (8193, 12), (12289, 12), (16385, 13),
   (24577, 13)]

def readStep (steps : List (Nat × Nat)) (symbol : Nat) : Reader Nat := do
  let (least, extra) ← orCorrupt steps[symbol]?
  return least + (← readNumber extra)

/-- One item of a coded block. -/
inductive Item where
  | byte (b : UInt8)
  | copy (length distance : Nat)
  | last
deriving Repr

def readItem (coding : Coding) : Reader Item := do
  let symbol ← coding.literals.read
  if symbol < endOfBlock then return .byte symbol.toUInt8
  if symbol = endOfBlock then return .last
  let length ← readStep lengthSteps (symbol - 257)
  let distance ← readStep distanceSteps (← coding.distances.read)
  return .copy length distance

/-- Writes once more the byte that stands `distance` bytes back, `length` times. -/
def copyBack (distance : Nat) : Nat → Array UInt8 → Array UInt8
  | 0, output => output
  | length + 1, output =>
    copyBack distance length (output.push (output.getD (output.size - distance) 0))

/-- What has been written, and how the decoder came to stand there. -/
structure Progress where
  output : Array UInt8
  /-- The bits that are left, or why there is no going on. -/
  rest : Except Stop Bits

/-- The items of a coded block. Each takes a bit at least, so their number is bounded. -/
def expandItems (coding : Coding) : Nat → Bits → Array UInt8 → Progress
  | 0, _, output => ⟨output, .error .starved⟩
  | fuel + 1, bits, output =>
    match (readItem coding).run bits with
    | .error stop => ⟨output, .error stop⟩
    | .ok (.byte b, bits) => expandItems coding fuel bits (output.push b)
    | .ok (.last, bits) => ⟨output, .ok bits⟩
    | .ok (.copy length distance, bits) =>
      if distance > output.size then ⟨output, .error .corrupt⟩
      else expandItems coding fuel bits (copyBack distance length output)

/-- The bytes of a stored block, as many of them as there are. -/
def expandStored : Nat → Bits → Array UInt8 → Progress
  | 0, bits, output => ⟨output, .ok bits⟩
  | count + 1, bits, output =>
    match (readNumber 8).run bits with
    | .error stop => ⟨output, .error stop⟩
    | .ok (b, bits) => expandStored count bits (output.push b.toUInt8)

/-- The size of a stored block is followed by its complement. -/
def readStoredSize : Reader Nat := do
  alignToByte
  let size ← readNumber 16
  let complement ← readNumber 16
  if size + complement ≠ 0xFFFF then throw .corrupt
  return size

/-- The first thing that a block says is whether it is the last one. -/
def readBlockHead : Reader (Bool × Nat) := do
  return (← readBit, ← readNumber 2)

def expandBlock (kind : Nat) (bits : Bits) (output : Array UInt8) : Progress :=
  match kind with
  | 0 =>
    match readStoredSize.run bits with
    | .error stop => ⟨output, .error stop⟩
    | .ok (size, bits) => expandStored size bits output
  | 1 => coded (orCorrupt fixedCoding?)
  | 2 => coded readCoding
  | _ => ⟨output, .error .corrupt⟩
where
  coded (reader : Reader Coding) : Progress :=
    match reader.run bits with
    | .error stop => ⟨output, .error stop⟩
    | .ok (coding, bits) => expandItems coding bits.length bits output

def expandBlocks : Nat → Bits → Array UInt8 → Progress
  | 0, _, output => ⟨output, .error .starved⟩
  | fuel + 1, bits, output =>
    match readBlockHead.run bits with
    | .error stop => ⟨output, .error stop⟩
    | .ok ((isLast, kind), bits) =>
      let progress := expandBlock kind bits output
      match progress.rest with
      | .error _ => progress
      | .ok rest => if isLast then progress else expandBlocks fuel rest progress.output

/-- What deflated data expands to; it is complete if its last block came to an end. Corrupt data
gives nothing at all. -/
def inflate? (data : Bytes) : Option Unpacked :=
  let bits := bitsOf data
  let progress := expandBlocks bits.length bits #[]
  match progress.rest with
  | .ok _ => some ⟨progress.output.toList, true⟩
  | .error .starved => some ⟨progress.output.toList, false⟩
  | .error .corrupt => none

end ClassLocator.Deflate

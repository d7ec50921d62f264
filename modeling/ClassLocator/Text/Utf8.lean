import ClassLocator.Text.Basic

/-!
# UTF-8

A decoder of UTF-8 that takes one byte at a time. A character of several bytes is begun by a lead
byte, which fixes how many bytes follow and between which bounds the first of them lies; the
bounds keep out overlong forms, surrogates and numbers above the last code point.

What is not UTF-8 falls into *broken* pieces, each the longest stretch that a character could
begin with, or else a single byte.

## Main definitions

* `Utf8.pieces`: the characters and broken pieces of a byte sequence.
* `Utf8.decode?`: the text, if there is no broken piece.
* `Utf8.decodeReplacing`: the text with U+FFFD for each broken piece.
* `Utf8.encode`: the bytes of a text.
-/

namespace ClassLocator.Utf8

/-- Where the decoder stands between two bytes. -/
inductive State where
  /-- Between characters. -/
  | start
  /-- Inside a character with this value so far: the next byte lies between `low` and `high`,
  and `more` bytes follow it. -/
  | within (value low high more : Nat)
deriving DecidableEq, Repr

/-- One decoded character, or `none` for a broken piece. -/
abbrev Piece := Option Char

/-- The first byte of a character. -/
def enter (b : UInt8) : List Piece × State :=
  let n := b.toNat
  if n < 0x80 then ([some (Char.ofNat n)], .start)
  else if n < 0xC2 then ([none], .start)
  else if n < 0xE0 then ([], .within (n - 0xC0) 0x80 0xBF 0)
  else if n = 0xE0 then ([], .within 0 0xA0 0xBF 1)
  else if n = 0xED then ([], .within 0xD 0x80 0x9F 1)
  else if n < 0xF0 then ([], .within (n - 0xE0) 0x80 0xBF 1)
  else if n = 0xF0 then ([], .within 0 0x90 0xBF 2)
  else if n < 0xF4 then ([], .within (n - 0xF0) 0x80 0xBF 2)
  else if n = 0xF4 then ([], .within 4 0x80 0x8F 2)
  else ([none], .start)

/-- A byte that cannot continue a character breaks off what came before it and begins anew. -/
def step : State → UInt8 → List Piece × State
  | .start, b => enter b
  | .within value low high more, b =>
    if low ≤ b.toNat ∧ b.toNat ≤ high then
      let value := value * 64 + (b.toNat - 0x80)
      match more with
      | 0 => ([some (Char.ofNat value)], .start)
      | more + 1 => ([], .within value 0x80 0xBF more)
    else
      let (made, next) := enter b
      (none :: made, next)

/-- What the end of the bytes leaves: a character that was begun is a broken piece. -/
def finish : State → List Piece
  | .start => []
  | .within .. => [none]

def piecesFrom : State → Bytes → List Piece
  | state, [] => finish state
  | state, b :: rest =>
    let (made, next) := step state b
    made ++ piecesFrom next rest

@[simp] theorem piecesFrom_nil (state : State) : piecesFrom state [] = finish state := rfl

theorem piecesFrom_cons (state : State) (b : UInt8) (rest : Bytes) :
    piecesFrom state (b :: rest) = (step state b).1 ++ piecesFrom (step state b).2 rest := rfl

def pieces (bytes : Bytes) : List Piece := piecesFrom .start bytes

/-- The text that the bytes encode, if they encode one. -/
def decode? (bytes : Bytes) : Option Text := (pieces bytes).mapM id

/-- Each broken piece gives one replacement character. -/
def decodeReplacing (bytes : Bytes) : Text := (pieces bytes).map (·.getD '\uFFFD')

def encode (text : Text) : Bytes := text.flatMap String.utf8EncodeChar

@[simp] theorem encode_nil : encode [] = [] := rfl

@[simp] theorem encode_cons (c : Char) (text : Text) :
    encode (c :: text) = String.utf8EncodeChar c ++ encode text := rfl

end ClassLocator.Utf8

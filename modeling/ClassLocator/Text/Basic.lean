import ClassLocator.Text.CharTable

/-!
# Text

A text is the list of its characters. This module holds what the whole library does with texts:
classes of characters, searching, replacing, splitting and trimming.

## Main definitions

* `Text.occursIn`: substring test.
* `Text.replace`: all occurrences from the left, without overlaps.
* `Text.splitOn`: the pieces between the occurrences of a separator.
* `Text.strip`: the text without white space at either end.
* `Text.precedes`: the order of names, by code point.
-/

namespace ClassLocator

/-- A sequence of characters. -/
abbrev Text := List Char

/-- A sequence of bytes. -/
abbrev Bytes := List UInt8

instance : Coe String Text := ⟨String.toList⟩

namespace Text

/-! ## Classes of characters -/

def isBlank (c : Char) : Bool := CharTable.within CharTable.blanks c.toNat

def isDigit (c : Char) : Bool := CharTable.within CharTable.digits c.toNat

def isWord (c : Char) : Bool := CharTable.within CharTable.words c.toNat

def isPrintable (c : Char) : Bool := CharTable.within CharTable.printables c.toNat

/-! ## Searching and replacing -/

/-- Whether `needle` is a stretch of consecutive characters of the text. -/
def occursIn (needle : Text) : Text → Bool
  | [] => needle.isEmpty
  | c :: rest => needle.isPrefixOf (c :: rest) || occursIn needle rest

theorem occursIn_iff {needle text : Text} : occursIn needle text = true ↔ needle <:+: text := by
  induction text with
  | nil => simp [occursIn]
  | cons c rest ih => simp [occursIn, List.infix_cons_iff, ih]

/-- Writes `new` for each occurrence of `old`, taken from the left without overlaps. -/
def replace (old new text : Text) : Text :=
  go 0 text
where
  /-- The first argument counts the characters of an occurrence that are still to be dropped. -/
  go : Nat → Text → Text
    | _, [] => []
    | skip + 1, _ :: rest => go skip rest
    | 0, c :: rest =>
      if old.isPrefixOf (c :: rest) then new ++ go (old.length - 1) rest else c :: go 0 rest

/-- Writes `new` for each character `old`. -/
def replaceChar (old new : Char) (text : Text) : Text :=
  text.map fun c => if c = old then new else c

/-- The pieces between the occurrences of a non-empty separator, which are taken from the left
without overlaps. There is one piece more than there are occurrences. -/
def splitOn (separator text : Text) : List Text :=
  go 0 text
where
  /-- The first argument counts the characters of a separator that are still to be dropped. -/
  go : Nat → Text → List Text
    | _, [] => [[]]
    | skip + 1, _ :: rest => go skip rest
    | 0, c :: rest =>
      if separator.isPrefixOf (c :: rest) then [] :: go (separator.length - 1) rest
      else (go 0 rest).modifyHead (c :: ·)

/-! ## Trimming -/

def dropEndWhile (p : Char → Bool) (text : Text) : Text :=
  (text.reverse.dropWhile p).reverse

/-- Without white space at either end. -/
def strip (text : Text) : Text :=
  dropEndWhile isBlank (text.dropWhile isBlank)

/-! ## Order and size -/

/-- The order of names: character by character, by code point. A text precedes itself and whatever
begins with it. -/
def precedes : Text → Text → Bool
  | [], _ => true
  | _ :: _, [] => false
  | c :: s, d :: t => if c = d then precedes s t else c.toNat < d.toNat

/-- The number of bytes that the text takes in UTF-8. -/
def byteLength : Text → Nat
  | [] => 0
  | c :: rest => c.utf8Size + byteLength rest

/-! ## Numbers -/

def ofNat (n : Nat) : Text := Nat.toDigits 10 n

def ofInt : Int → Text
  | .ofNat n => ofNat n
  | .negSucc n => '-' :: ofNat (n + 1)

/-- Lower-case hexadecimal digits, filled up with zeros on the left. -/
def ofHex (width n : Nat) : Text := (Nat.toDigits 16 n).leftpad width '0'

end Text

end ClassLocator

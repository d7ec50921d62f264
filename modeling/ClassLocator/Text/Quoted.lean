import ClassLocator.Text.Basic

/-!
# Quoted texts

The written form of a text or of bytes inside a message. Single quotes stand around it, double
ones if it holds a single quote and no double one; what cannot be printed is escaped.

## Main definitions

* `Text.quoted`: the written form of a text.
* `Text.quotedBytes`: the written form of bytes, marked by a leading `b`.
-/

namespace ClassLocator.Text

/-- The quote that stands around the text. -/
def quoteFor (text : Text) : Char :=
  if '\'' ∈ text ∧ '"' ∉ text then '"' else '\''

/-- The escapes that both forms share; `none` where the character needs none of them. -/
def sharedEscape (quote c : Char) : Option Text :=
  if c = quote ∨ c = '\\' then some ['\\', c]
  else if c = '\t' then some ['\\', 't']
  else if c = '\n' then some ['\\', 'n']
  else if c = '\r' then some ['\\', 'r']
  else none

/-- A character that cannot be printed is written by its code in the shortest of three widths. -/
def escapedChar (quote c : Char) : Text :=
  match sharedEscape quote c with
  | some escape => escape
  | none =>
    if isPrintable c then [c]
    else if c.toNat < 0x100 then '\\' :: 'x' :: ofHex 2 c.toNat
    else if c.toNat < 0x10000 then '\\' :: 'u' :: ofHex 4 c.toNat
    else '\\' :: 'U' :: ofHex 8 c.toNat

def quoted (text : Text) : Text :=
  let quote := quoteFor text
  quote :: text.flatMap (escapedChar quote) ++ [quote]

/-- Of the bytes only printable ASCII stands for itself. -/
def escapedByte (quote : Char) (b : UInt8) : Text :=
  let c := Char.ofNat b.toNat
  match sharedEscape quote c with
  | some escape => escape
  | none => if 0x20 ≤ b ∧ b < 0x7F then [c] else '\\' :: 'x' :: ofHex 2 b.toNat

def quotedBytes (bytes : Bytes) : Text :=
  let quote := quoteFor (bytes.map fun b => Char.ofNat b.toNat)
  'b' :: quote :: bytes.flatMap (escapedByte quote) ++ [quote]

end ClassLocator.Text

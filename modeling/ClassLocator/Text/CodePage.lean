import ClassLocator.Text.Basic

/-!
# Single-byte encodings

Two encodings in which every byte is one character: Latin-1, whose characters have the bytes as
their code points, and code page 437, the encoding of archive names that are not marked as UTF-8.

## Main definitions

* `CodePage.latin1`, `CodePage.ibm437`: the text of a byte sequence.
-/

namespace ClassLocator.CodePage

def latin1 (bytes : Bytes) : Text := bytes.map fun b => Char.ofNat b.toNat

@[simp] theorem length_latin1 (bytes : Bytes) : (latin1 bytes).length = bytes.length := by
  simp [latin1]

/-- The characters of the bytes 128 to 255 in code page 437. -/
def ibm437Upper : Text :=
  "ÇüéâäàåçêëèïîìÄÅÉæÆôöòûùÿÖÜ¢£¥₧ƒáíóúñÑªº¿⌐¬½¼¡«»░▒▓│┤╡╢╖╕╣║╗╝╜╛┐└┴┬├─┼╞╟╚╔╩╦╠═╬╧╨╤╥╙╘╒╓╫╪┘┌█▄▌▐▀"
  ++ "αßΓπΣσµτΦΘΩδ∞φε∩≡±≥≤⌠⌡÷≈°∙·√ⁿ²■\u00A0"

/-- The lower half of the code page is ASCII. -/
def ibm437Char (b : UInt8) : Char :=
  if b < 0x80 then Char.ofNat b.toNat else ibm437Upper.getD (b.toNat - 0x80) '\uFFFD'

def ibm437 (bytes : Bytes) : Text := bytes.map ibm437Char

end ClassLocator.CodePage

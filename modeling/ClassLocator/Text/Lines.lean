import ClassLocator.Text.Basic

/-!
# Lines

A line break is a carriage return, a line feed or the two in this order. Other separators, such as
the form feed, stand inside lines.

## Main definitions

* `Text.breakLines`: the stretches between line breaks.
* `Text.unifyBreaks`: every line break written as a line feed.
* `Text.normalLines`: every line ended by one line feed.
* `Text.terminalPieces`: the pieces in which a terminal shows a text.
-/

namespace ClassLocator.Text

/-- The stretches between line breaks; there is one more of them than there are breaks. -/
def breakLines : Text → List Text
  | [] => [[]]
  | '\r' :: '\n' :: rest => [] :: breakLines rest
  | '\r' :: rest => [] :: breakLines rest
  | '\n' :: rest => [] :: breakLines rest
  | c :: rest => (breakLines rest).modifyHead (c :: ·)

def unifyBreaks (text : Text) : Text := ['\n'].intercalate (breakLines text)

/-- The lines of the text; what follows the last line break is a line unless it is empty. -/
def linesOf (text : Text) : List Text :=
  let lines := breakLines text
  if lines.getLast? = some [] then lines.dropLast else lines

/-- The lines, joined by line feeds and with one line feed at the end. -/
def normalLines (text : Text) : Text := ['\n'].intercalate (linesOf text) ++ ['\n']

/-- The characters after which a terminal shows a new piece. -/
def endsPiece (c : Char) : Bool :=
  c ∈ ['\n', '\r', '\x0b', '\x0c', '\x1c', '\x1d', '\x1e', '\u0085', '\u2028', '\u2029']

/-- The pieces of a text, each with the character that ends it. A carriage return and the line feed
after it end one piece together. -/
def terminalPieces : Text → List Text
  | [] => []
  | '\r' :: '\n' :: rest => ['\r', '\n'] :: terminalPieces rest
  | c :: rest =>
    if endsPiece c then [c] :: terminalPieces rest
    else
      match terminalPieces rest with
      | [] => [[c]]
      | piece :: pieces => (c :: piece) :: pieces

end ClassLocator.Text

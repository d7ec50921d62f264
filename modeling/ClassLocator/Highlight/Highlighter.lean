import ClassLocator.FileSystem.Path

/-!
# Highlighters

A library that highlights sources has lexers, which part a text into tokens, and writes tokens in a
style. A file name, and perhaps the text itself, tells which lexer is the right one; where there is
none the text is highlighted as plain text.

## Main definitions

* `Token`, `Highlighter`
* `Highlighter.colorize`: a source, highlighted.
-/

namespace ClassLocator

structure Token (Kind : Type) where
  kind : Kind
  text : Text
deriving DecidableEq, Repr

/-- What is used of a library that highlights sources. -/
structure Highlighter where
  Kind : Type
  /-- The lexer for a file of this name that holds this text, if there is one. -/
  lexerFor? : Text → Text → Option (Text → List (Token Kind))
  plainLexer : Text → List (Token Kind)
  knowsStyle : Text → Bool
  /-- Tokens as they are written to a terminal in a style. -/
  write : Text → List (Token Kind) → Text

namespace Highlighter

/-- The style of a highlighted source if no other one is set, or none of this name is known. -/
def defaultStyle : Text := "monokai"

variable (library : Highlighter)

/-- The lexer for a source in a file of this name, of which only the last part counts. -/
def lexer (fileName source : Text) : Text → List (Token library.Kind) :=
  (library.lexerFor? (Path.parse fileName).name source).getD library.plainLexer

def colorize (style source fileName : Text) : Text :=
  library.write (if library.knowsStyle style then style else defaultStyle)
    (library.lexer fileName source source)

end Highlighter

end ClassLocator

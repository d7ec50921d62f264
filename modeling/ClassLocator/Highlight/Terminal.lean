import ClassLocator.Highlight.Java
import ClassLocator.Text.Lines

/-!
# Highlighting for a terminal

The tokens of a source are written in the colours of their kinds. A colour is switched on before
and off after each piece of a line; line feeds stand outside of it.

## Main definitions

* `Highlight.prepared`: the text that is cut into tokens.
* `Highlight.library`: a library that highlights Java.
-/

namespace ClassLocator.Highlight

/-- Without a byte order mark, with line feeds for line breaks and without empty lines at either
end. -/
def prepared (source : Text) : Text :=
  let source := match source with
    | '\uFEFF' :: rest => rest
    | _ => source
  let isBreak := fun c => c = '\n'
  Text.dropEndWhile isBreak ((Text.unifyBreaks source).dropWhile isBreak) ++ ['\n']

/-- An escape sequence for the given modes of display. -/
def escape (modes : String) : Text := '\x1b' :: '[' :: modes ++ ['m']

/-- What switches on the colour of a kind; `none` for what stays as it is. -/
def colorOf : TokenKind → Option Text
  | .plain => none
  | .whitespace => some (escape "37")
  | .comment => some (escape "37")
  | .keyword => some (escape "34")
  | .typeKeyword => some (escape "36")
  | .functionName => some (escape "32")
  | .packageName => some (escape "04" ++ escape "36")
  | .className => some (escape "04" ++ escape "32")
  | .decorator => some (escape "90")
  | .attribute => some (escape "36")
  | .string => some (escape "33")
  | .number => some (escape "34")
  | .error => some (escape "04" ++ escape "91")

/-- What switches all colours off. -/
def reset : Text := escape "39;49;00"

def colorPiece (color piece : Text) : Text :=
  let body := Text.dropEndWhile (· = '\n') piece
  color ++ body ++ reset ++ if piece.getLast? = some '\n' then ['\n'] else []

def writeToken (token : Token TokenKind) : Text :=
  match colorOf token.kind with
  | none => token.text
  | some color => (Text.terminalPieces token.text).flatMap (colorPiece color)

/-- Whether a file of this name holds Java. -/
def isJava (fileName : Text) : Bool := ".java".toList.isSuffixOf fileName

/-- A library with lexers for Java and for plain text. On a terminal a style makes no difference, so
that none but the usual one is known. -/
def library : Highlighter where
  Kind := TokenKind
  lexerFor? fileName _ :=
    if isJava fileName then some fun source => Java.lexer.tokens (prepared source) else none
  plainLexer source := [⟨.plain, prepared source⟩]
  knowsStyle style := style = Highlighter.defaultStyle
  write _ tokens := tokens.flatMap writeToken

end ClassLocator.Highlight

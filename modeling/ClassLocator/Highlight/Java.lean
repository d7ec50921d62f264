import ClassLocator.Highlight.Lexer

/-!
# The lexer of Java

The rules by which Java sources are highlighted. They tell words apart by what stands around them,
without parsing: a word before an opening parenthesis is the name of a method if there is another
word before it.
-/

namespace ClassLocator.Java

inductive LexState where
  | code
  | typeName
  | variableName
  | importedName
  | textBlock
  | stringLiteral
deriving DecidableEq, Repr

open Pattern

/-! ## Patterns -/

/-- A character that an identifier may begin with. -/
def identifierStart : Pattern :=
  one fun c => (Text.isWord c && !Text.isDigit c) || c = '$'

def identifierPart : Pattern := one fun c => Text.isWord c || c = '$'

def identifier : Pattern := seq identifierStart (many identifierPart)

def blanks : Pattern := many blank

def someBlanks : Pattern := oneOrMore blank

/-- One of the words, and no part of a longer one. -/
def wholeWord (ws : List String) : Pattern := seq (words ws) wordEdge

/-- A character of a type: of its name, its brackets or its arguments. -/
def typePart : Pattern := one fun c => Text.isWord c || c ∈ ".[]$<>?".toList

/-- The words before the name of a method. -/
def returnType : Pattern := someFew (all [identifierStart, many typePart, someBlanks])

def modifiers : Pattern :=
  many (seq (words ["public", "private", "protected", "static", "strictfp"]) someBlanks)

def asciiDigit : Pattern := one Char.isDigit

def hexDigit : Pattern :=
  one fun c => c.isDigit || ('a' ≤ c && c ≤ 'f') || ('A' ≤ c && c ≤ 'F')

/-- A digit, then digits and low lines. -/
def digits : Pattern := seq asciiDigit (many (one fun c => c.isDigit || c = '_'))

def hexDigits : Pattern :=
  seq hexDigit (many (alt hexDigit (word "_")))

def exponent : Pattern := all [oneOf "eE", optional (oneOf "+-"), digits]

def floatSuffix : Pattern := oneOf "fFdD"

def floatNumber : Pattern :=
  any [
    all [alt (all [digits, word ".", optional digits]) (seq (word ".") digits), optional exponent,
      optional floatSuffix],
    all [asciiDigit, oneOf "eE", optional (oneOf "+-"), digits, optional floatSuffix],
    all [asciiDigit, optional exponent, floatSuffix],
    all [word "0", oneOf "xX",
      alt (seq hexDigits (optional (word "."))) (all [optional hexDigits, word ".", hexDigits]),
      oneOf "pP", optional (oneOf "+-"), digits, optional floatSuffix]]

def longSuffix : Pattern := optional (oneOf "lL")

def hexNumber : Pattern := all [word "0", oneOf "xX", hexDigits, longSuffix]

def binaryNumber : Pattern :=
  all [word "0", oneOf "bB", oneOf "01", many (oneOf "01_"), longSuffix]

def octalNumber : Pattern := all [word "0", oneOrMore (oneOf "01234567_"), longSuffix]

def decimalNumber : Pattern :=
  alt (word "0")
    (all [oneOf "123456789", many (one fun c => c.isDigit || c = '_'), longSuffix])

def anyChar : Pattern := one fun _ => true

def characterLiteral : Pattern :=
  any [
    all [word "'\\", anyChar, word "'"],
    all [word "'", one (· ≠ '\\'), word "'"],
    all [word "'\\u", hexDigit, hexDigit, hexDigit, hexDigit, word "'"]]

/-! ## Rules -/

/-- A rule of one part that makes one token. -/
def plainRule (pattern : Pattern) (kind : TokenKind) (move : Move LexState := .stay) :
    LexRule LexState :=
  ⟨[⟨pattern, .token kind⟩], move⟩

/-- A rule whose parts make one token each. -/
def rule (parts : List (Pattern × TokenKind)) (move : Move LexState := .stay) : LexRule LexState :=
  ⟨parts.map fun (pattern, kind) => ⟨pattern, .token kind⟩, move⟩

def codeRules : List (LexRule LexState) := [
  ⟨[⟨seq lineStart blanks, .token .whitespace⟩, ⟨modifiers, .again⟩,
    ⟨wholeWord ["record"], .token .keyword⟩], .enter .typeName⟩,
  plainRule (oneOrMore (one fun c => Text.isBlank c && c ≠ '\n')) .whitespace,
  rule [(seq (word "//") (few anyChar), .comment), (word "\n", .whitespace)],
  plainRule (all [word "/*", few anyChar, word "*/"]) .comment,
  plainRule
    (wholeWord ["assert", "break", "case", "catch", "continue", "default", "do", "else",
      "finally", "for", "if", "goto", "instanceof", "new", "return", "switch", "this", "throw",
      "try", "while"])
    .keyword,
  ⟨[⟨returnType, .again⟩, ⟨identifier, .token .functionName⟩, ⟨blanks, .token .whitespace⟩,
    ⟨word "(", .token .plain⟩], .stay⟩,
  plainRule
    (all [word "@", one fun c => Text.isWord c && !Text.isDigit c,
      many (one fun c => Text.isWord c || c = '.')])
    .decorator,
  plainRule
    (wholeWord ["abstract", "const", "enum", "exports", "extends", "final", "implements", "native",
      "non-sealed", "open", "opens", "permits", "private", "protected", "provides", "public",
      "requires", "sealed", "static", "strictfp", "super", "synchronized", "throws", "to",
      "transient", "transitive", "uses", "volatile", "with", "yield"])
    .keyword,
  plainRule
    (wholeWord ["boolean", "byte", "char", "double", "float", "int", "long", "short", "void"])
    .typeKeyword,
  rule [(word "package", .keyword), (someBlanks, .whitespace)] (.enter .importedName),
  plainRule (wholeWord ["true", "false", "null"]) .keyword,
  plainRule (wholeWord ["class", "interface"]) .keyword (.enter .typeName),
  plainRule (wholeWord ["module"]) .keyword (.enter .typeName),
  rule [(word "var", .keyword), (someBlanks, .whitespace)] (.enter .variableName),
  rule [(seq (word "import") (optional (seq someBlanks (words ["static", "module"]))), .keyword),
    (someBlanks, .whitespace)] (.enter .importedName),
  plainRule (word "\"\"\"\n") .string (.enter .textBlock),
  plainRule (word "\"") .string (.enter .stringLiteral),
  plainRule characterLiteral .string,
  rule [(word ".", .plain), (identifier, .attribute)],
  rule [(seq lineStart blanks, .whitespace), (word "default", .keyword), (word ":", .plain)],
  rule [(seq lineStart blanks, .whitespace), (identifier, .plain), (word ":", .plain)],
  plainRule identifier .plain,
  plainRule floatNumber .number,
  plainRule hexNumber .number,
  plainRule binaryNumber .number,
  plainRule octalNumber .number,
  plainRule decimalNumber .number,
  plainRule (oneOf "~^*!%&[]<>|+=/?-") .plain,
  plainRule (oneOf "\x7b\x7d();:.,") .plain,
  plainRule (word "\n") .whitespace]

def stringRules : List (LexRule LexState) := [
  plainRule (oneOrMore (one fun c => c ≠ '\\' && c ≠ '"')) .string,
  plainRule (word "\\\\") .string,
  plainRule (word "\\\"") .string,
  plainRule (word "\\") .string,
  plainRule (word "\"") .string .leave]

def rules : LexState → List (LexRule LexState)
  | .code => codeRules
  | .typeName => [plainRule someBlanks .plain, plainRule identifier .className .leave]
  | .variableName => [plainRule identifier .plain .leave]
  | .importedName =>
    [plainRule (seq (oneOrMore (one fun c => Text.isWord c || c = '.')) (optional (word "*")))
      .packageName .leave]
  | .textBlock =>
    plainRule (word "\"\"\"") .string .leave :: plainRule (word "\"") .string :: stringRules
  | .stringLiteral => stringRules

def lexer : Lexer := ⟨LexState, .code, rules⟩

end ClassLocator.Java

import ClassLocator.Text.Basic

/-!
# Shell words

A list of words written as one command line, and such a line read back. Words are separated by
white space; single quotes keep everything, double quotes all but a backslash before a quote or
a backslash, and a backslash outside quotes keeps the next character.

## Main definitions

* `ShellWords.quote`, `ShellWords.join`: the command line of a list of words.
* `ShellWords.split?`: the words of a command line, unless a quote or an escape is left open.
-/

namespace ClassLocator.ShellWords

/-! ## Writing -/

/-- ASCII letters, digits and the marks that need no quotes. -/
def isPlain (c : Char) : Bool := c.isAlphanum || c ∈ "_@%+=:,./-".toList

/-- A single quote inside single quotes is written by leaving them for a double-quoted one. -/
def quotedChar (c : Char) : Text := if c = '\'' then "'\"'\"'" else [c]

def quote (word : Text) : Text :=
  if word ≠ [] ∧ word.all isPlain then word
  else '\'' :: word.flatMap quotedChar ++ ['\'']

def join (words : List Text) : Text := [' '].intercalate (words.map quote)

/-! ## Reading -/

/-- What the next character belongs to. -/
inductive Mode where
  | between
  | bare
  | single
  | double
  | escaped
  | doubleEscaped
deriving DecidableEq, Repr

def isSeparator (c : Char) : Bool := c ∈ [' ', '\t', '\r', '\n']

/-- Puts a character before the first word. -/
def push (c : Char) (words : List Text) : List Text := words.modifyHead (c :: ·)

/-- The words that are left. Except between words, the first of them is the rest of the word that
is being read. -/
def read : Mode → Text → Option (List Text)
  | .between, [] => some []
  | .bare, [] => some [[]]
  | _, [] => none
  | mode, c :: rest =>
    match mode with
    | .between => if isSeparator c then read .between rest else outside c rest
    | .bare => if isSeparator c then (read .between rest).map ([] :: ·) else outside c rest
    | .single => if c = '\'' then read .bare rest else (read .single rest).map (push c)
    | .double =>
      if c = '"' then read .bare rest
      else if c = '\\' then read .doubleEscaped rest
      else (read .double rest).map (push c)
    | .escaped => (read .bare rest).map (push c)
    | .doubleEscaped =>
      if c = '"' ∨ c = '\\' then (read .double rest).map (push c)
      else (read .double rest).map (push '\\' ∘ push c)
where
  /-- A character of a word that stands outside quotes. -/
  outside (c : Char) (rest : Text) : Option (List Text) :=
    if c = '\\' then read .escaped rest
    else if c = '\'' then read .single rest
    else if c = '"' then read .double rest
    else (read .bare rest).map (push c)

def split? (line : Text) : Option (List Text) := read .between line

end ClassLocator.ShellWords

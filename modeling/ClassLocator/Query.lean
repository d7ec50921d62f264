import ClassLocator.Text.Basic

/-!
# Queries and class names

A query is the short name of a class, possibly with some of its packages in front. In archives and
runtime images packages are parted by slashes, in class names by dots.

## Main definitions

* `Query`, `Query.slashForm`, `Query.dotForm`
* `Query.selects`: whether an archive member answers the query.
* `ClassName.ofPath`: the class name that the path of a class file stands for.
-/

namespace ClassLocator

/-- How the names of class files end. -/
def classExtension : Text := ".class"

/-- How the names of source files end. -/
def sourceExtension : Text := ".java"

structure Query where
  shortName : Text
deriving DecidableEq, Repr

namespace Query

def slashForm (query : Query) : Text := Text.replaceChar '.' '/' query.shortName

def dotForm (query : Query) : Text := Text.replaceChar '/' '.' query.shortName

/-- Sources are looked for in source mode, class files otherwise. -/
def extension (sourceMode : Bool) : Text := if sourceMode then sourceExtension else classExtension

/-- The query and the extension may each stand anywhere in the name of the member. -/
def selects (query : Query) (sourceMode : Bool) (memberName : Text) : Bool :=
  Text.occursIn query.slashForm memberName && Text.occursIn (extension sourceMode) memberName

end Query

namespace ClassName

/-- Separators become dots and the extension goes, wherever it stands. What holds no extension is
taken for a class name already. -/
def ofPath (path : Text) : Text :=
  if Text.occursIn classExtension path then
    Text.replace classExtension [] (Text.replaceChar '/' '.' (Text.replaceChar '\\' '.' path))
  else path

/-- How the disassembler names the class of an archive member. -/
def identifier (memberName : Text) : Text := Text.replace classExtension [] memberName

end ClassName

end ClassLocator

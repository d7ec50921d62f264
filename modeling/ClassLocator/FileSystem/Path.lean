import ClassLocator.Text.Basic

/-!
# Paths

A path is an anchor and the names that lead from there. Reading a path drops empty names and the
name `.`, and keeps `..`, so that different spellings of one path become equal.

## Main definitions

* `Path.parse`, `Path.text`: a path from its text, and the one text that stands for it.
* `Path.child`, `Path.append`: longer paths.
* `Path.relativeTo?`: the path that leads from one path to another below it.
-/

namespace ClassLocator

/-- Where a path begins. Exactly two leading slashes are an anchor of their own. -/
inductive Anchor where
  | here
  | root
  | doubleRoot
deriving DecidableEq, Repr

namespace Anchor

def text : Anchor → Text
  | here => []
  | root => ['/']
  | doubleRoot => ['/', '/']

def ofText (text : Text) : Anchor :=
  match (text.takeWhile (· = '/')).length with
  | 0 => here
  | 2 => doubleRoot
  | _ => root

end Anchor

structure Path where
  anchor : Anchor
  names : List Text
deriving DecidableEq, Repr

namespace Path

/-- Whether a stretch between slashes is a name of the path. -/
def isName (stretch : Text) : Bool := stretch ≠ [] ∧ stretch ≠ ['.']

def parse (text : Text) : Path :=
  ⟨Anchor.ofText text, (Text.splitOn ['/'] text).filter isName⟩

/-- The path without an anchor and without names is written as a single dot. -/
def text (path : Path) : Text :=
  match path.anchor.text ++ ['/'].intercalate path.names with
  | [] => ['.']
  | written => written

def child (path : Path) (name : Text) : Path := ⟨path.anchor, path.names ++ [name]⟩

@[simp] theorem anchor_child (path : Path) (name : Text) :
    (path.child name).anchor = path.anchor := rfl

@[simp] theorem names_child (path : Path) (name : Text) :
    (path.child name).names = path.names ++ [name] := rfl

def append (path : Path) (names : List Text) : Path := ⟨path.anchor, path.names ++ names⟩

@[simp] theorem append_nil (path : Path) : path.append [] = path := by
  simp [append]

@[simp] theorem append_append (path : Path) (xs ys : List Text) :
    (path.append xs).append ys = path.append (xs ++ ys) := by
  simp [append]

theorem child_append (path : Path) (name : Text) (names : List Text) :
    (path.child name).append names = path.append (name :: names) := by
  simp [append]

/-- The last name; empty if there is none. -/
def name (path : Path) : Text := path.names.getLastD []

@[simp] theorem name_child (path : Path) (name : Text) : (path.child name).name = name := by
  simp [Path.name]

theorem name_append (path : Path) {names : List Text} (hne : names ≠ []) :
    (path.append names).name = names.getLastD [] := by
  have hlast : names.getLast? = some (names.getLast hne) := List.getLast?_eq_some_getLast hne
  simp [Path.name, append, hlast]

def parent (path : Path) : Path := ⟨path.anchor, path.names.dropLast⟩

/-- The path that leads to `path` from `root`, if `path` begins like `root`. -/
def relativeTo? (path root : Path) : Option Path :=
  if path.anchor = root.anchor ∧ root.names <+: path.names then
    some ⟨.here, path.names.drop root.names.length⟩
  else none

@[simp] theorem relativeTo?_append (root : Path) (names : List Text) :
    (root.append names).relativeTo? root = some ⟨.here, names⟩ := by
  simp [relativeTo?, append]

end Path

end ClassLocator

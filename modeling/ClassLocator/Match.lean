import ClassLocator.Fault

/-!
# Matches

A match is one place where a class has been found. Matches are handed over one at a time, and
whoever takes them says after each whether the search goes on.
-/

namespace ClassLocator

inductive Match.Kind where
  | runtime
  | directory
  | archive
deriving DecidableEq, Repr

structure Match where
  kind : Match.Kind
  /-- The address of a class in the runtime, the path of a file, or the path of an archive. -/
  location : Text
  /-- A class name, or the path of a file below its root, or the name of an archive member. -/
  package : Text
  memberName : Option Text := none
  /-- What reading the source gives, for matches that have one. -/
  source : Option (Except Cause Bytes) := none
  /-- Only the first match in an archive names the archive. -/
  firstInContainer : Bool := true

inductive Flow where
  | continue
  | stop
deriving DecidableEq, Repr

end ClassLocator

import ClassLocator.Match

/-!
# Notices and events

What a search lets be known while it goes on: the records that it logs, the commands that it
starts, and the matches that it finds, in the order in which they happen.
-/

namespace ClassLocator

/-- A level is a whole number; the greater it is, the more serious are its records. Some levels have
a name. -/
structure Level where
  severity : Int
deriving DecidableEq, Repr

namespace Level

def debug : Level := ⟨10⟩
def info : Level := ⟨20⟩
def warning : Level := ⟨30⟩
def error : Level := ⟨40⟩
def critical : Level := ⟨50⟩

end Level

structure Record where
  level : Level
  message : Text
deriving DecidableEq, Repr

inductive Notice where
  | record (record : Record)
  | started (command : List Text)
deriving DecidableEq, Repr

def Notice.debug (message : Text) : Notice := .record ⟨.debug, message⟩

def Notice.warning (message : Text) : Notice := .record ⟨.warning, message⟩

inductive Event where
  | notice (notice : Notice)
  | hit (found : Match)

/-- The match that an event hands over, if it is one. -/
def Event.match? : Event → Option Match
  | notice _ => none
  | hit found => some found

end ClassLocator

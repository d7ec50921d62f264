import ClassLocator.Environment
import ClassLocator.Highlight.Terminal

/-!
# Hosts

All that a run finds around it: files, variables, a terminal or none, a library that highlights, and
the two commands that it may start.
-/

namespace ClassLocator

/-- What becomes of a command: it cannot be started, or it writes and ends. -/
inductive Child (α : Type) where
  | refused (errno : Errno)
  | ran (output : α) (exit : Int) (errors : Text)
deriving Repr

structure Host where
  files : FileSystem
  environment : Environment
  /-- Whether standard output is a terminal. -/
  isTerminal : Bool := false
  highlighter : Highlighter := Highlight.library
  /-- The command that lists a runtime image. -/
  listing : List Text → Child Bytes
  /-- The command that lists the members of a class. -/
  disassembly : List Text → Child Text

/-- Where the commands of a system are looked for if nothing else is said. -/
def Host.standardPath : Text := "/bin:/usr/bin"

/-- The search path of commands. -/
def Host.searchPath (host : Host) : Text := (host.environment.get? "PATH").getD standardPath

end ClassLocator

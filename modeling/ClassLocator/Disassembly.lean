import ClassLocator.Text.ShellWords

/-!
# Disassembly

The command that lists the members of a class.
-/

namespace ClassLocator

structure Disassembly where
  /-- The words that the command begins with. -/
  tool : List Text
  className : Text
  /-- Whether private members are listed. -/
  listsPrivate : Bool := false
  /-- The archive that holds the class. -/
  classPath : Option Text := none
deriving DecidableEq, Repr

namespace Disassembly

def command (request : Disassembly) : List Text :=
  request.tool ++ (if request.listsPrivate then ["-p".toList] else []) ++
    (match request.classPath with
    | some archive => ["-classpath".toList, archive]
    | none => []) ++ [request.className]

end Disassembly

end ClassLocator

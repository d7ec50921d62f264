import ClassLocator.FileSystem.Basic

/-!
# Environment

What a run is given besides its files: variables, the homes of users, and the patience of the
reader of documents. With the help of a variable it finds commands.

## Main definitions

* `Environment.get?`, `Environment.home?`
* `FileSystem.findCommand`: the first executable of a name on a search path.
-/

namespace ClassLocator

structure Environment where
  /-- The variables. -/
  bindings : List (Text × Text)
  /-- The home directories of users by their names, as the system keeps them. -/
  homes : List (Text × Text) := []
  /-- The home directory that the system keeps for the user of the run. -/
  ownHome : Option Text := none
  /-- How deeply arrays and objects of a document may lie inside one another until its reader gives
  up. -/
  deepest : Nat := 900
deriving Repr

namespace Environment

variable (env : Environment)

def get? (name : Text) : Option Text := env.bindings.lookup name

/-- The home directory of a user; without a name, of the user of the run. A variable then counts
before what the system keeps. -/
def home? (user : Text) : Option Text :=
  if user = [] then (env.get? "HOME").or env.ownHome else env.homes.lookup user

end Environment

namespace FileSystem

variable (fs : FileSystem)

/-- The file of this name in a directory; the empty directory is the working one. -/
def inDirectory (directory name : Text) : Text :=
  if directory = [] ∨ directory.getLast? = some '/' then directory ++ name
  else directory ++ '/' :: name

def isCommand (path : Text) : Bool :=
  match fs.node? path with
  | .ok node => node.isExecutable
  | .error _ => false

/-- Looks through the directories of a search path, which are parted by colons. An empty search path
holds no directory at all. -/
def findCommand (searchPath name : Text) : Option Text :=
  if searchPath = [] then none
  else ((Text.splitOn [':'] searchPath).map (inDirectory · name)).find? fs.isCommand

end FileSystem

end ClassLocator

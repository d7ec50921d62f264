import ClassLocator.Archive.Unpacked
import ClassLocator.Fault

/-!
# File systems

A file system is a finite tree of nodes and a working directory in it. Symbolic links are nodes
that hold the text of another path; they may lead anywhere, also in circles. Nodes say what may be
done with them by the user of the run: not every file may be read, and not in every directory names
may be looked up or listed.

## Main definitions

* `Content`, `Access`, `Node`, `FileSystem`
* `FileSystem.locate`: the place that a path leads to, with all links followed.
* `FileSystem.holds`, `FileSystem.exists?`, `FileSystem.isFile`, `FileSystem.isDirectory`: what
  is known of a path. Paths that lead to nothing are answered, other errors are causes.
* `FileSystem.read`: the bytes of a file.
* `FileSystem.insert`, `FileSystem.makeDirectory`: a file system with one more node.
-/

namespace ClassLocator

/-- What a file holds, and whether it may be read. -/
structure Content where
  bytes : Bytes
  isReadable : Bool := true
deriving DecidableEq, Repr

/-- What may be done with a directory. -/
structure Access where
  /-- Whether it may be opened for reading, as it must be to list its names. -/
  isReadable : Bool := true
  /-- Whether the names in it may be looked up. -/
  isSearchable : Bool := true
  /-- Another reason for which its names cannot be listed, if there is one. -/
  refusal : Option Errno := none
deriving DecidableEq, Repr

inductive Node where
  | file (content : Content) (executable : Bool)
  /-- A directory; its children stand in no particular order. -/
  | directory (access : Access) (children : List (Text × Node))
  | link (target : Text)
  | pipe
deriving Repr

namespace Node

def isFile : Node → Bool
  | file .. => true
  | _ => false

def isDirectory : Node → Bool
  | directory .. => true
  | _ => false

def isExecutable : Node → Bool
  | file _ executable => executable
  | _ => false

end Node

/-- The children of the root directory and the names that lead from it to the working one. -/
structure FileSystem where
  top : List (Text × Node)
  workingDirectory : List Text
  /-- The libraries for the packings of archive members that are not unpacked here. -/
  unpackers : Unpackers := {}

/-- A place in the tree: the names and nodes that lead to it from the root, the last one first. -/
abbrev Trail := List (Text × Node)

namespace FileSystem

/-- The most bytes that a name may have. -/
def maxName : Nat := 255

/-- The most bytes that the text of a path may have. -/
def maxPath : Nat := 4095

/-- The most links that are followed on the way to one place. -/
def maxLinks : Nat := 40

/-- Whether a text has more bytes than a path may have; such a path is not looked up at all. -/
def isTooLong (path : Text) : Bool := maxPath < Text.byteLength path

variable (fs : FileSystem)

def nodeAt : Trail → Node
  | [] => .directory {} fs.top
  | (_, node) :: _ => node

/-- One name after the other; a link is handed to `follow` with what remains after it. If it is
heeded which directories may be searched, every name but the empty one asks for this. -/
def advance (heeds : Bool) (follow : Trail → List Text → Except Errno Trail) :
    Trail → List Text → Except Errno Trail
  | trail, [] => .ok trail
  | trail, name :: rest =>
    match fs.nodeAt trail with
    | .directory access children =>
      if name = [] then advance heeds follow trail rest
      else if heeds && !access.isSearchable then .error .accessDenied
      else if name = ['.'] then advance heeds follow trail rest
      else if name = ['.', '.'] then advance heeds follow trail.tail rest
      else if Text.byteLength name > maxName then .error .nameTooLong
      else
        match children.lookup name with
        | none => .error .noEntry
        | some (.link target) =>
          follow (if target.head? = some '/' then [] else trail) (Text.splitOn ['/'] target ++ rest)
        | some node => advance heeds follow ((name, node) :: trail) rest
    | _ => .error .notDirectory

/-- The number is that of the links that may still be followed. -/
def advanceWith (heeds : Bool) : Nat → Trail → List Text → Except Errno Trail
  | 0 => fs.advance heeds fun _ _ => .error .tooManyLinks
  | links + 1 => fs.advance heeds (advanceWith heeds links)

/-- The place of the working directory. A run is there from the start, so it does not matter which
of the directories above may be searched. -/
def workingTrail : Except Errno Trail := fs.advanceWith false maxLinks [] fs.workingDirectory

/-- The place that the text of a path leads to. -/
def locate (path : Text) : Except Errno Trail :=
  if path = [] then .error .noEntry
  else if isTooLong path then .error .nameTooLong
  else do
    let start ← if path.head? = some '/' then pure [] else fs.workingTrail
    fs.advanceWith true maxLinks start (Text.splitOn ['/'] path)

def node? (path : Text) : Except Errno Node := (fs.locate path).map fs.nodeAt

/-- The absolute path, free of links, of the place that a path leads to. -/
def canonical? (path : Text) : Except Errno Path :=
  (fs.locate path).map fun trail => ⟨.root, trail.reverse.map (·.1)⟩

/-! ## What is known of a path -/

/-- Whether the path leads to a node of which `p` holds. -/
def holds (p : Node → Bool) (path : Path) : Except Cause Bool :=
  if '\x00' ∈ path.text then .ok false
  else
    match fs.node? path.text with
    | .ok node => .ok (p node)
    | .error errno =>
      if errno.meansAbsent then .ok false else .error (.system errno (some path.text))

def exists? (path : Path) : Except Cause Bool := fs.holds (fun _ => true) path

def isFile (path : Path) : Except Cause Bool := fs.holds Node.isFile path

def isDirectory (path : Path) : Except Cause Bool := fs.holds Node.isDirectory path

/-- The bytes of a file. A pipe keeps its reader waiting. -/
def read (path : Path) : Except Cause Bytes :=
  if '\x00' ∈ path.text then .error .embeddedNul
  else
    match fs.node? path.text with
    | .ok (.file content _) =>
      if content.isReadable then .ok content.bytes
      else .error (.system .accessDenied (some path.text))
    | .ok (.directory access _) =>
      .error (.system (if access.isReadable then .isDirectory else .accessDenied) (some path.text))
    | .ok .pipe => .error .unanswered
    | .ok (.link _) => .error (.system .tooManyLinks (some path.text))
    | .error errno => .error (.system errno (some path.text))

/-! ## Building -/

/-- Replaces the child of this name, or adds it at the end. -/
def put (name : Text) (node : Node) : List (Text × Node) → List (Text × Node)
  | [] => [(name, node)]
  | (other, old) :: rest =>
    if other = name then (name, node) :: rest else (other, old) :: put name node rest

/-- Changes what lies under the names: `change` gets the node there, if there is one. Directories
on the way are made as needed. -/
def alter (change : Option Node → Node) : List Text → List (Text × Node) → List (Text × Node)
  | [], children => children
  | [name], children => put name (change (children.lookup name)) children
  | name :: next :: rest, children =>
    match children.lookup name with
    | some (.directory access inner) =>
      put name (.directory access (alter change (next :: rest) inner)) children
    | _ => put name (.directory {} (alter change (next :: rest) [])) children

/-- The names of the place that the names lead to from the root, as far as there is such a place. -/
def settled (names : List Text) : List Text :=
  names.foldl (fun here name =>
    match fs.canonical? (Path.text ⟨.root, here ++ [name]⟩) with
    | .ok place => place.names
    | .error _ => here ++ [name]) []

/-- Puts a node into the directory that all names but the last one lead to from the root, in the
place of what stands there under the last one. -/
def insert (names : List Text) (node : Node) : FileSystem :=
  { fs with
    top := alter (fun _ => node) (fs.settled names.dropLast ++ names.getLast?.toList) fs.top }

/-- Makes a directory of the place that the names lead to from the root, unless it is one. -/
def makeDirectory (names : List Text) : FileSystem :=
  { fs with top := alter made (fs.settled names) fs.top }
where
  made : Option Node → Node
    | some (.directory access children) => .directory access children
    | _ => .directory {} []

/-- Lets the listing of a directory fail. -/
def refuse (names : List Text) (errno : Errno) : FileSystem :=
  { fs with top := alter refused (fs.settled names) fs.top }
where
  refused : Option Node → Node
    | some (.directory access children) =>
      .directory { access with refusal := some errno } children
    | some node => node
    | none => .directory { refusal := some errno } []

end FileSystem

end ClassLocator

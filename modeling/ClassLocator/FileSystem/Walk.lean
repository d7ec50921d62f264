import ClassLocator.Feed
import ClassLocator.FileSystem.Basic

/-!
# Walking a tree

The regular files below a directory, depth first and in the order of their names. Links are not
followed and pipes are passed by. A directory that cannot be listed ends the walk.

The files and directories that are found are named by paths that begin with the path of the root,
and listed and opened by these. A tree may be so deep that such a path is too long, and a directory
that may be listed but not searched gives names that nothing can be done with.

## Main definitions

* `FoundFile`, `FoundFile.read`: a file of the walk and what opening it gives.
* `Listing`: what is still to come of a directory that has been listed.
* `Listing.walk`: goes on with a walk from the listings that have been begun.
* `FileSystem.walk`: the files that a path leads to.
-/

namespace ClassLocator

/-- A regular file, by its path and what opening it there gives. -/
structure FoundFile where
  path : Path
  content : Content
deriving DecidableEq, Repr

/-- The bytes of the file, unless its path is too long or it may not be read. -/
def FoundFile.read (file : FoundFile) : Except Cause Bytes :=
  if FileSystem.isTooLong file.path.text then
    .error (.system .nameTooLong (some file.path.text))
  else if file.content.isReadable then .ok file.content.bytes
  else .error (.system .accessDenied (some file.path.text))

/-- What a file holds as it is found on a way that is open or not: what lies behind a directory that
may not be searched cannot be read. -/
def Content.foundOn (isOpen : Bool) (content : Content) : Content :=
  { content with isReadable := isOpen && content.isReadable }

/-! ## Listings -/

/-- Why a directory cannot be listed by its path, if it cannot, where the way to it is open or
not. -/
def Access.listingRefusal (access : Access) (isOpen : Bool) (place : Path) : Option Errno :=
  access.refusal.or
    (if FileSystem.isTooLong place.text then some .nameTooLong
    else if isOpen && access.isReadable then none
    else some .accessDenied)

/-- Children in the order of their names. -/
def sortedChildren (children : List (Text × Node)) : List (Text × Node) :=
  children.mergeSort fun s t => Text.precedes s.1 t.1

/-- The path of a directory, whether it may be searched, and those of its children that a walk has
still to look at. -/
structure Listing where
  place : Path
  isSearchable : Bool
  children : List (Text × Node)

/-- Lists a directory in the order of the names in it, if it can be listed. -/
def Listing.of (isOpen : Bool) (place : Path) (access : Access) (children : List (Text × Node)) :
    Except Cause Listing :=
  match access.listingRefusal isOpen place with
  | some errno => .error (.system errno (some place.text))
  | none => .ok ⟨place, access.isSearchable, sortedChildren children⟩

/-! ## The size of trees -/

mutual

/-- How many steps the walk of a node takes at most. -/
def Node.weight : Node → Nat
  | .directory _ children => Node.weights children + 2
  | _ => 1

def Node.weights : List (Text × Node) → Nat
  | [] => 0
  | (_, node) :: rest => node.weight + Node.weights rest

end

theorem Node.weights_perm {children others : List (Text × Node)} (h : children.Perm others) :
    Node.weights children = Node.weights others := by
  induction h with
  | nil => rfl
  | cons _ _ ih => simp [Node.weights, ih]
  | swap _ _ _ => simp only [Node.weights]; omega
  | trans _ _ ih ih' => exact ih.trans ih'

theorem Listing.weights_of {isOpen : Bool} {place : Path} {access : Access}
    {children : List (Text × Node)} {listing : Listing}
    (h : Listing.of isOpen place access children = .ok listing) :
    Node.weights listing.children = Node.weights children := by
  unfold Listing.of at h
  split at h
  · cases h
  · cases h
    exact Node.weights_perm (List.mergeSort_perm _ _)

/-- How many steps are still to be taken at most. -/
def Listing.weight : List Listing → Nat
  | [] => 0
  | listing :: rest => Node.weights listing.children + 1 + Listing.weight rest

/-! ## The walk -/

/-- Goes on with a walk. The listings that have been begun lie on a stack, the innermost one on
top; a directory among the children puts its own listing there. -/
def Listing.walk : List Listing → Feed Cause FoundFile
  | [] => .empty
  | ⟨_, _, []⟩ :: stack => Listing.walk stack
  | ⟨place, isOpen, (name, .file content _) :: rest⟩ :: stack =>
    (Feed.ofList [⟨place.child name, content.foundOn isOpen⟩]).followedBy
      (Listing.walk (⟨place, isOpen, rest⟩ :: stack))
  | ⟨place, isOpen, (name, .directory access children) :: rest⟩ :: stack =>
    match _opened : Listing.of isOpen (place.child name) access children with
    | .error cause => .fail cause
    | .ok inner => Listing.walk (inner :: ⟨place, isOpen, rest⟩ :: stack)
  | ⟨place, isOpen, (_, .link _) :: rest⟩ :: stack => Listing.walk (⟨place, isOpen, rest⟩ :: stack)
  | ⟨place, isOpen, (_, .pipe) :: rest⟩ :: stack => Listing.walk (⟨place, isOpen, rest⟩ :: stack)
termination_by stack => Listing.weight stack
decreasing_by
  all_goals simp only [Listing.weight, Node.weights, Node.weight]
  · omega
  · omega
  · rw [Listing.weights_of _opened]
    omega
  · omega
  · omega

/-- A path that leads to a file gives this file; one that leads to neither a file nor a directory
gives nothing. A link at the path itself is followed. -/
def FileSystem.walk (fs : FileSystem) (root : Path) : Feed Cause FoundFile :=
  match fs.exists? root with
  | .error cause => .fail cause
  | .ok _ =>
    match fs.node? root.text with
    | .ok (.file content _) => .ofList [⟨root, content⟩]
    | .ok (.directory access children) =>
      match Listing.of true root access children with
      | .error cause => .fail cause
      | .ok listing => Listing.walk [listing]
    | _ => .empty

end ClassLocator

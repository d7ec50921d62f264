import ClassLocator.Proofs.FileSystem.Building
import ClassLocator.Proofs.FileSystem.Joining

/-!
# The names in a file system

What the directories of a file system call their children are names of paths: none is empty or a
single dot, and none holds a slash. This is so in every file system that is built from the empty one
by putting nodes under such names, and whatever lies in a tree is then reached by them alone.

## Main definitions

* `Node.NamesProper`, `FileSystem.NamesProper`: all names are names of paths.

## Main statements

* `Node.NamesProper.areNames`: what leads to a node in the tree.
* `FileSystem.NamesProper.settled`: what leads to a place, with all links followed.
* `FileSystem.NamesProper.insert`, `FileSystem.NamesProper.makeDirectory`,
  `FileSystem.NamesProper.refuse`
-/

namespace ClassLocator

open ClassLocator.Path (AreNames areNames_nil)

theorem admits_areNames {name : Text} (hname : Path.IsProperName name) :
    Admits AreNames name := fun _ h _ =>
  List.forall_mem_append.2 ⟨h, List.forall_mem_singleton.2 hname⟩

/-- In every directory of the tree the names are names of paths. -/
def Node.NamesProper (node : Node) : Prop := node.Everywhere AreNames

theorem Node.NamesProper.areNames {node other : Node} {names : List Text} (h : node.NamesProper)
    {isOpen : Bool} (hreach : node.Reaches names isOpen other) : AreNames names := by
  induction hreach with
  | here => exact areNames_nil
  | into hmem _ ih =>
    obtain ⟨hnames, hchildren⟩ := Node.everywhere_directory.1 h
    exact List.forall_mem_cons.2
      ⟨hnames _ (List.mem_map_of_mem hmem), ih (hchildren _ _ hmem)⟩

namespace FileSystem

variable {fs : FileSystem} {names : List Text} {node : Node}

/-- In every directory the names are names of paths. -/
def NamesProper (fs : FileSystem) : Prop := fs.Everywhere AreNames

theorem NamesProper.canonical? (h : fs.NamesProper) {path : Text} {place : Path}
    (hplace : fs.canonical? path = .ok place) : AreNames place.names := by
  unfold FileSystem.canonical? at hplace
  cases hl : fs.locate path with
  | error errno =>
    rw [hl] at hplace
    cases hplace
  | ok trail =>
    rw [hl] at hplace
    cases hplace
    obtain ⟨_, hreach⟩ := (locate_isTrail hl).reaches
    simpa using Node.NamesProper.areNames h hreach

/-- Each name either is settled as it is or leads to a place in the tree. -/
theorem NamesProper.settled (h : fs.NamesProper) (hnames : AreNames names) :
    AreNames (fs.settled names) := by
  refine List.foldlRecOn (motive := AreNames) names _ areNames_nil
    fun here hhere name hmem => ?_
  split
  case h_1 place hplace => exact h.canonical? hplace
  case h_2 => exact List.forall_mem_append.2 ⟨hhere, List.forall_mem_singleton.2 (hnames name hmem)⟩

theorem NamesProper.admits_settled (h : fs.NamesProper) (hnames : AreNames names) :
    ∀ name ∈ fs.settled names, Admits AreNames name := fun name hmem =>
  admits_areNames (h.settled hnames name hmem)

theorem NamesProper.empty (workingDirectory : List Text) :
    NamesProper { top := [], workingDirectory } :=
  Everywhere.empty areNames_nil workingDirectory

theorem NamesProper.insert (h : fs.NamesProper) (hnames : AreNames names)
    (hnode : node.NamesProper) : (fs.insert names node).NamesProper := by
  refine Everywhere.insert areNames_nil h (List.forall_mem_append.2 ⟨?_, ?_⟩) hnode
  · exact h.admits_settled fun name hmem => hnames name (List.dropLast_subset names hmem)
  · intro name hlast
    exact admits_areNames (hnames name (List.mem_of_getLast? (Option.mem_toList.1 hlast)))

theorem NamesProper.makeDirectory (h : fs.NamesProper) (hnames : AreNames names) :
    (fs.makeDirectory names).NamesProper :=
  Everywhere.makeDirectory areNames_nil h (h.admits_settled hnames)

theorem NamesProper.refuse (h : fs.NamesProper) (hnames : AreNames names) (errno : Errno) :
    (fs.refuse names errno).NamesProper :=
  Everywhere.refuse areNames_nil h (h.admits_settled hnames) errno

end FileSystem

end ClassLocator

import ClassLocator.FileSystem.Walk
import ClassLocator.Proofs.Text.Order
import Mathlib.Data.List.Nodup
import Mathlib.Tactic.SplitIfs

/-!
# Trees

What lies in a tree is said by the names that lead to it: each is a child of the directory before
it. Links are not followed on the way, so that only what is in the tree itself is reached. The way
is open if all directories on it may be searched.

In a directory no name stands twice, but the children stand in no particular order.

## Main definitions

* `Node.Reaches`: the names that lead from a node to a node in its tree.
* `Node.HoldsFile`, `Node.Refuses`: the files and the directories that cannot be listed.
* `Node.Everywhere`, `FileSystem.Everywhere`: what holds of the names in every directory.
* `Node.NamesApart`, `FileSystem.NamesApart`: no name stands twice.
* `Node.Rearranged`: the same tree with its children in another order.

## Main statements

* `FileSystem.Everywhere.of_node?`: what holds everywhere holds wherever a path leads.
* `Node.Rearranged.holdsFile_iff`, `Node.Rearranged.refuses_iff`
-/

namespace ClassLocator

namespace Node

/-! ## Reaching nodes -/

/-- The names lead from the first node to the second one, from directory to directory, on a way that
is open or not. -/
inductive Reaches : Node → List Text → Bool → Node → Prop
  | here (node : Node) : Reaches node [] true node
  | into {access : Access} {children : List (Text × Node)} {name : Text} {child : Node}
      {names : List Text} {isOpen : Bool} {node : Node} : (name, child) ∈ children →
      Reaches child names isOpen node →
      Reaches (.directory access children) (name :: names) (access.isSearchable && isOpen) node

theorem Reaches.append {node between other : Node} {names rest : List Text} {isOpen isOpen' : Bool}
    (h : node.Reaches names isOpen between) (hrest : between.Reaches rest isOpen' other) :
    node.Reaches (names ++ rest) (isOpen && isOpen') other := by
  induction h with
  | here => exact hrest
  | into hmem _ ih =>
    rw [Bool.and_assoc]
    exact .into hmem (ih hrest)

/-- A file with this content is found at these names, where the way to the node is open or not. -/
def HoldsFile (isOpen : Bool) (node : Node) (names : List Text) (content : Content) : Prop :=
  ∃ isOpenBelow own executable, node.Reaches names isOpenBelow (.file own executable) ∧
    content = own.foundOn (isOpen && isOpenBelow)

/-- At these names below the node, whose path is `place` and the way to which is open or not, lies a
directory that cannot be listed. -/
def Refuses (isOpen : Bool) (place : Path) (node : Node) (names : List Text) (errno : Errno) :
    Prop :=
  ∃ isOpenBelow access children, node.Reaches names isOpenBelow (.directory access children) ∧
    access.listingRefusal (isOpen && isOpenBelow) (place.append names) = some errno

/-- What `p` says of names holds of those in every directory of the tree. -/
def Everywhere (p : List Text → Prop) (node : Node) : Prop :=
  ∀ names isOpen access children, node.Reaches names isOpen (.directory access children) →
    p (children.map (·.1))

/-- In no directory of the tree a name stands twice. -/
def NamesApart (node : Node) : Prop :=
  ∀ names isOpen access children, node.Reaches names isOpen (.directory access children) →
    (children.map (·.1)).Nodup

section

variable {isOpen : Bool} {place : Path} {access : Access} {children : List (Text × Node)}
  {p : List Text → Prop}

theorem Everywhere.of_reaches {node other : Node} {names : List Text} (h : node.Everywhere p)
    (hreach : node.Reaches names isOpen other) : other.Everywhere p :=
  fun _ _ access children hbelow => h _ _ access children (hreach.append hbelow)

theorem everywhere_directory :
    (Node.directory access children).Everywhere p ↔
      p (children.map (·.1)) ∧ ∀ name child, (name, child) ∈ children → child.Everywhere p := by
  constructor
  · exact fun h => ⟨h [] _ access children (.here _), fun name child hmem =>
      h.of_reaches (.into hmem (.here child))⟩
  · rintro ⟨hnames, hchildren⟩ names _ _ _ hreach
    cases hreach with
    | here => exact hnames
    | into hmem hrest => exact hchildren _ _ hmem _ _ _ _ hrest

theorem NamesApart.child (h : (Node.directory access children).NamesApart) {name : Text}
    {child : Node} (hmem : (name, child) ∈ children) : child.NamesApart :=
  (everywhere_directory.1 h).2 name child hmem

theorem NamesApart.nodup (h : (Node.directory access children).NamesApart) :
    (children.map (·.1)).Nodup :=
  (everywhere_directory.1 h).1

/-- Names that are apart lead to one node only, and on one way. -/
theorem Reaches.unique {node left right : Node} {names : List Text} {isOpen' : Bool}
    (h : node.NamesApart) (hleft : node.Reaches names isOpen left)
    (hright : node.Reaches names isOpen' right) : left = right ∧ isOpen = isOpen' := by
  induction hleft generalizing isOpen' with
  | here =>
    cases hright
    exact ⟨rfl, rfl⟩
  | into hmem _ ih =>
    cases hright with
    | into hmem' hrest =>
      cases List.inj_on_of_nodup_map h.nodup hmem hmem' rfl
      obtain ⟨hnode, hopen⟩ := ih (h.child hmem) hrest
      exact ⟨hnode, congrArg _ hopen⟩

theorem NamesApart.refuses_unique {node : Node} (h : node.NamesApart) {names : List Text}
    {errno errno' : Errno} (hrefuses : node.Refuses isOpen place names errno)
    (hrefuses' : node.Refuses isOpen place names errno') : errno = errno' := by
  obtain ⟨_, _, _, hreach, herrno⟩ := hrefuses
  obtain ⟨_, _, _, hreach', herrno'⟩ := hrefuses'
  obtain ⟨⟨⟩, rfl⟩ := hreach.unique h hreach'
  exact Option.some.inj (herrno.symm.trans herrno')

/-- A tree is taken apart into its root and the trees of its children. -/
theorem inductOn {motive : Node → Prop} (node : Node)
    (file : ∀ content executable, motive (.file content executable))
    (link : ∀ target, motive (.link target)) (pipe : motive .pipe)
    (directory : ∀ access children, (∀ name child, (name, child) ∈ children → motive child) →
      motive (.directory access children)) : motive node :=
  match node with
  | .file content executable => file content executable
  | .link target => link target
  | .pipe => pipe
  | .directory access children =>
    directory access children fun _ child _hmem => inductOn child file link pipe directory
termination_by sizeOf node
decreasing_by
  have := List.sizeOf_lt_of_mem _hmem
  simp only [Prod.mk.sizeOf_spec, Node.directory.sizeOf_spec] at *
  omega

/-! ## Files and refusals by cases -/

theorem holdsFile_file {content other : Content} {executable : Bool} {names : List Text} :
    (Node.file content executable).HoldsFile isOpen names other ↔
      names = [] ∧ other = content.foundOn isOpen := by
  constructor
  · rintro ⟨_, _, _, ⟨⟩, rfl⟩
    exact ⟨rfl, by rw [Bool.and_true]⟩
  · rintro ⟨rfl, rfl⟩
    exact ⟨true, content, executable, .here _, by rw [Bool.and_true]⟩

theorem holdsFile_directory {names : List Text} {content : Content} :
    (Node.directory access children).HoldsFile isOpen names content ↔
      ∃ name child rest, (name, child) ∈ children ∧ names = name :: rest ∧
        child.HoldsFile (isOpen && access.isSearchable) rest content := by
  constructor
  · rintro ⟨_, own, executable, h, rfl⟩
    cases h with
    | into hmem hreach =>
      exact ⟨_, _, _, hmem, rfl, _, own, executable, hreach, by rw [Bool.and_assoc]⟩
  · rintro ⟨name, child, rest, hmem, rfl, _, own, executable, hreach, rfl⟩
    exact ⟨_, own, executable, .into hmem hreach, by rw [Bool.and_assoc]⟩

theorem refuses_directory {names : List Text} {errno : Errno} :
    (Node.directory access children).Refuses isOpen place names errno ↔
      (names = [] ∧ access.listingRefusal isOpen place = some errno) ∨
      ∃ name child rest, (name, child) ∈ children ∧ names = name :: rest ∧
        child.Refuses (isOpen && access.isSearchable) (place.child name) rest errno := by
  constructor
  · rintro ⟨_, _, _, h, herrno⟩
    cases h with
    | here => exact .inl ⟨rfl, by simpa using herrno⟩
    | into hmem hreach =>
      rw [← Bool.and_assoc, ← Path.child_append] at herrno
      exact .inr ⟨_, _, _, hmem, rfl, _, _, _, hreach, herrno⟩
  · rintro (⟨rfl, herrno⟩ | ⟨name, child, rest, hmem, rfl, _, _, _, hreach, herrno⟩)
    · exact ⟨true, access, children, .here _, by simpa using herrno⟩
    · rw [Bool.and_assoc, Path.child_append] at herrno
      exact ⟨_, _, _, .into hmem hreach, herrno⟩

end

/-! ## Rearranging -/

/-- The same tree, but in some of its directories the children stand in another order. -/
inductive Rearranged : Node → Node → Prop
  | refl (node : Node) : Rearranged node node
  | trans {node between other : Node} :
      Rearranged node between → Rearranged between other → Rearranged node other
  | reorder {access : Access} {children others : List (Text × Node)} :
      children.Perm others → Rearranged (.directory access children) (.directory access others)
  | within {access : Access} {before after : List (Text × Node)} {name : Text}
      {child other : Node} : Rearranged child other →
      Rearranged (.directory access (before ++ (name, child) :: after))
        (.directory access (before ++ (name, other) :: after))

namespace Rearranged

variable {node other : Node}

theorem symm (h : Rearranged node other) : Rearranged other node := by
  induction h with
  | refl node => exact .refl node
  | trans _ _ ih ih' => exact ih'.trans ih
  | reorder hperm => exact .reorder hperm.symm
  | within _ ih => exact .within ih

/-- The same names lead to the same places, up to their own order. -/
theorem reaches (h : Rearranged node other) {names : List Text} {isOpen : Bool} {place : Node}
    (hreach : node.Reaches names isOpen place) :
    ∃ place', other.Reaches names isOpen place' ∧ Rearranged place place' := by
  induction h generalizing names isOpen place with
  | refl node => exact ⟨place, hreach, .refl place⟩
  | trans _ _ ih ih' =>
    obtain ⟨between, hbetween, hleft⟩ := ih hreach
    obtain ⟨place', hplace, hright⟩ := ih' hbetween
    exact ⟨place', hplace, hleft.trans hright⟩
  | reorder hperm =>
    cases hreach with
    | here => exact ⟨_, .here _, .reorder hperm⟩
    | into hmem hchild => exact ⟨place, .into (hperm.mem_iff.1 hmem) hchild, .refl place⟩
  | within hchild ih =>
    cases hreach with
    | here => exact ⟨_, .here _, .within hchild⟩
    | into hmem hrest =>
      rcases List.mem_append.1 hmem with hmem | hmem
      · exact ⟨place, .into (List.mem_append_left _ hmem) hrest, .refl place⟩
      · rcases List.mem_cons.1 hmem with heq | hmem
        · cases heq
          obtain ⟨place', hplace, hre⟩ := ih hrest
          exact ⟨place', .into (List.mem_append_right _ (List.mem_cons_self ..)) hplace, hre⟩
        · exact ⟨place, .into (List.mem_append_right _ (List.mem_cons_of_mem _ hmem)) hrest,
            .refl place⟩

theorem eq_file {content : Content} {executable : Bool}
    (h : Rearranged (.file content executable) other) : other = .file content executable := by
  generalize hn : Node.file content executable = node at h
  induction h with
  | refl node => exact rfl
  | trans _ _ ih ih' => exact (ih' (ih hn ▸ hn)).trans (ih hn)
  | reorder => cases hn
  | within => cases hn

theorem eq_directory {access : Access} {children : List (Text × Node)}
    (h : Rearranged (.directory access children) other) :
    ∃ others, other = .directory access others ∧
      (children.map (·.1)).Perm (others.map (·.1)) := by
  generalize hn : Node.directory access children = node at h
  induction h generalizing children with
  | refl node => exact ⟨children, hn.symm, .refl _⟩
  | trans _ _ ih ih' =>
    obtain ⟨between, rfl, hleft⟩ := ih hn
    obtain ⟨others, rfl, hright⟩ := ih' rfl
    exact ⟨others, rfl, hleft.trans hright⟩
  | reorder hperm =>
    cases hn
    exact ⟨_, rfl, hperm.map _⟩
  | within =>
    cases hn
    exact ⟨_, rfl, by simp⟩

theorem namesApart (h : Rearranged node other) (hapart : node.NamesApart) :
    other.NamesApart := by
  intro names isOpen access others hreach
  obtain ⟨place, hplace, hre⟩ := h.symm.reaches hreach
  obtain ⟨children, rfl, hperm⟩ := hre.eq_directory
  exact hperm.nodup_iff.2 (hapart names isOpen access children hplace)

variable {isOpen : Bool} {names : List Text}

theorem holdsFile (h : Rearranged node other) {content : Content}
    (hfile : node.HoldsFile isOpen names content) : other.HoldsFile isOpen names content := by
  obtain ⟨isOpenBelow, own, executable, hreach, hcontent⟩ := hfile
  obtain ⟨place, hplace, hre⟩ := h.reaches hreach
  exact ⟨isOpenBelow, own, executable, hre.eq_file ▸ hplace, hcontent⟩

theorem refuses (h : Rearranged node other) {root : Path} {errno : Errno}
    (hrefuses : node.Refuses isOpen root names errno) : other.Refuses isOpen root names errno := by
  obtain ⟨isOpenBelow, access, children, hreach, herrno⟩ := hrefuses
  obtain ⟨place, hplace, hre⟩ := h.reaches hreach
  obtain ⟨others, rfl, -⟩ := hre.eq_directory
  exact ⟨isOpenBelow, access, others, hplace, herrno⟩

theorem holdsFile_iff (h : Rearranged node other) {content : Content} :
    node.HoldsFile isOpen names content ↔ other.HoldsFile isOpen names content :=
  ⟨h.holdsFile, h.symm.holdsFile⟩

theorem refuses_iff (h : Rearranged node other) {root : Path} {errno : Errno} :
    node.Refuses isOpen root names errno ↔ other.Refuses isOpen root names errno :=
  ⟨h.refuses, h.symm.refuses⟩

end Rearranged

end Node

/-! ## Following paths -/

namespace FileSystem

variable {fs : FileSystem}

/-- What `p` says of names holds of those in every directory. -/
def Everywhere (p : List Text → Prop) (fs : FileSystem) : Prop :=
  (Node.directory {} fs.top).Everywhere p

/-- In no directory a name stands twice. -/
def NamesApart (fs : FileSystem) : Prop := (Node.directory {} fs.top).NamesApart

/-- Each step of a trail leads to a child of the directory before it. -/
def IsTrail (fs : FileSystem) : Trail → Prop
  | [] => True
  | (name, node) :: rest =>
    (∃ access children, fs.nodeAt rest = .directory access children ∧ (name, node) ∈ children) ∧
      fs.IsTrail rest

theorem isTrail_nil : fs.IsTrail [] := trivial

theorem IsTrail.tail {trail : Trail} (h : fs.IsTrail trail) : fs.IsTrail trail.tail := by
  cases trail with
  | nil => exact h
  | cons step rest => exact h.2

theorem IsTrail.reaches {trail : Trail} (h : fs.IsTrail trail) :
    ∃ isOpen, (Node.directory {} fs.top).Reaches (trail.map (·.1)).reverse isOpen
      (fs.nodeAt trail) := by
  induction trail with
  | nil => exact ⟨true, .here _⟩
  | cons step rest ih =>
    obtain ⟨⟨access, children, hnode, hmem⟩, hrest⟩ := h
    obtain ⟨isOpen, hreach⟩ := ih hrest
    rw [hnode] at hreach
    rw [List.map_cons, List.reverse_cons]
    exact ⟨_, hreach.append (.into hmem (.here _))⟩

/-- If the links that are followed end in trails, then so do all names. -/
theorem advance_isTrail {heeds : Bool} {follow : Trail → List Text → Except Errno Trail}
    (hfollow : ∀ trail names place, fs.IsTrail trail → follow trail names = .ok place →
      fs.IsTrail place) {trail : Trail} {names : List Text} {place : Trail}
    (h : fs.IsTrail trail) (hrun : fs.advance heeds follow trail names = .ok place) :
    fs.IsTrail place := by
  induction names generalizing trail with
  | nil =>
    cases hrun
    exact h
  | cons name rest ih =>
    unfold advance at hrun
    split at hrun
    case h_2 => cases hrun
    case h_1 access children hnode =>
      split_ifs at hrun
      · exact ih h hrun
      · exact ih h hrun
      · exact ih h.tail hrun
      · split at hrun
        case h_1 => cases hrun
        case h_2 target _ =>
          refine hfollow _ _ _ ?_ hrun
          split_ifs
          · trivial
          · exact h
        case h_3 node _ hlookup =>
          obtain ⟨before, after, rfl, _⟩ := List.lookup_eq_some_iff.1 hlookup
          have hstep : fs.IsTrail ((name, node) :: trail) :=
            ⟨⟨access, _, hnode, List.mem_append_right _ (List.mem_cons_self ..)⟩, h⟩
          exact ih hstep hrun

theorem advanceWith_isTrail {heeds : Bool} (links : Nat) {trail : Trail} {names : List Text}
    {place : Trail} (h : fs.IsTrail trail) (hrun : fs.advanceWith heeds links trail names = .ok place) :
    fs.IsTrail place := by
  induction links generalizing trail names place with
  | zero => exact advance_isTrail (fun _ _ _ _ hf => by cases hf) h hrun
  | succ links ih => exact advance_isTrail (fun _ _ _ ht hf => ih ht hf) h hrun

theorem locate_isTrail {path : Text} {place : Trail} (h : fs.locate path = .ok place) :
    fs.IsTrail place := by
  unfold locate at h
  split_ifs at h
  · exact advanceWith_isTrail _ isTrail_nil h
  · cases hw : fs.workingTrail with
    | error errno =>
      rw [hw] at h
      cases h
    | ok start =>
      rw [hw] at h
      exact advanceWith_isTrail _ (advanceWith_isTrail _ isTrail_nil hw) h

/-- What holds everywhere holds below whatever a path leads to. -/
theorem Everywhere.of_node? {p : List Text → Prop} (h : fs.Everywhere p) {path : Text} {node : Node}
    (hnode : fs.node? path = .ok node) : node.Everywhere p := by
  unfold node? at hnode
  cases hl : fs.locate path with
  | error errno =>
    rw [hl] at hnode
    cases hnode
  | ok trail =>
    rw [hl] at hnode
    cases hnode
    obtain ⟨_, hreach⟩ := (locate_isTrail hl).reaches
    exact Node.Everywhere.of_reaches h hreach

theorem NamesApart.of_node? (h : fs.NamesApart) {path : Text} {node : Node}
    (hnode : fs.node? path = .ok node) : node.NamesApart :=
  Everywhere.of_node? h hnode

end FileSystem

end ClassLocator

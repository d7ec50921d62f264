import ClassLocator.Proofs.FileSystem.Tree

/-!
# Building file systems

A file system is built from the empty one by putting nodes into it. What holds of the names in every
directory goes on to hold as long as it admits the names under which the nodes are put. So a file
system that has been built never has a name twice in one directory.

## Main definitions

* `Admits`: a name may come to those that are in a directory.

## Main statements

* `FileSystem.alter_everywhere`: a change below some names.
* `FileSystem.Everywhere.insert`, `FileSystem.Everywhere.makeDirectory`,
  `FileSystem.Everywhere.refuse`
-/

namespace ClassLocator

variable {p : List Text → Prop}

/-- What `p` says of names still holds when this name comes to them. -/
def Admits (p : List Text → Prop) (name : Text) : Prop :=
  ∀ names, p names → name ∉ names → p (names ++ [name])

theorem admits_nodup (name : Text) : Admits List.Nodup name := by
  intro names h hnew
  rw [← List.concat_eq_append]
  exact h.concat hnew

namespace Node

/-- What is not a directory has no names below it. -/
theorem Everywhere.of_isDirectory_eq_false {node : Node} (h : node.isDirectory = false) :
    node.Everywhere p := by
  intro names isOpen access children hreach
  cases hreach with
  | here => cases h
  | into => cases h

theorem Everywhere.emptyDirectory (hnil : p []) (access : Access) :
    (Node.directory access []).Everywhere p :=
  everywhere_directory.2 ⟨hnil, fun _ _ hmem => absurd hmem List.not_mem_nil⟩

/-- What may be done with a directory says nothing about its names. -/
theorem Everywhere.withAccess {access access' : Access} {children : List (Text × Node)}
    (h : (Node.directory access children).Everywhere p) :
    (Node.directory access' children).Everywhere p :=
  everywhere_directory.2 (everywhere_directory.1 h)

theorem NamesApart.file (content : Content) (executable : Bool) :
    (Node.file content executable).NamesApart := Everywhere.of_isDirectory_eq_false rfl

theorem NamesApart.link (target : Text) : (Node.link target).NamesApart :=
  Everywhere.of_isDirectory_eq_false rfl

end Node

namespace FileSystem

variable {name : Text} {names : List Text} {node : Node} {children : List (Text × Node)}
  {access : Access}

theorem mem_put {other : Text} {child : Node} (h : (other, child) ∈ put name node children) :
    (other = name ∧ child = node) ∨ (other, child) ∈ children := by
  induction children with
  | nil => simpa [put] using h
  | cons first rest ih =>
    obtain ⟨kept, old⟩ := first
    unfold put at h
    split at h
    · rcases List.mem_cons.1 h with heq | hmem
      · exact .inl (Prod.mk.inj heq)
      · exact .inr (List.mem_cons_of_mem _ hmem)
    · rcases List.mem_cons.1 h with heq | hmem
      · exact .inr (heq ▸ List.mem_cons_self ..)
      · exact (ih hmem).imp id (List.mem_cons_of_mem _)

theorem names_put (name : Text) (node : Node) (children : List (Text × Node)) :
    (put name node children).map (·.1) =
      if name ∈ children.map (·.1) then children.map (·.1) else children.map (·.1) ++ [name] := by
  induction children with
  | nil => rfl
  | cons first rest ih =>
    obtain ⟨kept, old⟩ := first
    by_cases heq : kept = name
    · simp [put, heq]
    · rw [put, if_neg heq, List.map_cons, ih]
      split <;> simp_all [Ne.symm heq]

theorem put_everywhere (h : (Node.directory access children).Everywhere p)
    (hname : Admits p name) (hnode : node.Everywhere p) :
    (Node.directory access (put name node children)).Everywhere p := by
  obtain ⟨hnames, hchildren⟩ := Node.everywhere_directory.1 h
  refine Node.everywhere_directory.2 ⟨?_, fun other child hmem => ?_⟩
  · rw [names_put]
    split
    case isTrue => exact hnames
    case isFalse hnew => exact hname _ hnames hnew
  · rcases mem_put hmem with ⟨-, rfl⟩ | hold
    · exact hnode
    · exact hchildren other child hold

theorem lookup_everywhere (h : (Node.directory access children).Everywhere p)
    (hlookup : children.lookup name = some node) : node.Everywhere p := by
  obtain ⟨before, after, rfl, -⟩ := List.lookup_eq_some_iff.1 hlookup
  exact (Node.everywhere_directory.1 h).2 name node (by simp)

theorem alter_everywhere {change : Option Node → Node} (hnil : p [])
    (hchange : ∀ old, (∀ node ∈ old, node.Everywhere p) → (change old).Everywhere p)
    (hnames : ∀ name ∈ names, Admits p name)
    (h : (Node.directory access children).Everywhere p) :
    (Node.directory access (alter change names children)).Everywhere p := by
  fun_induction alter change names children generalizing access with
  | case1 children => exact h
  | case2 name children =>
    refine put_everywhere h (hnames name List.mem_cons_self) (hchange _ fun node hlookup => ?_)
    exact lookup_everywhere h hlookup
  | case3 name next rest children kept inner hlookup ih =>
    obtain ⟨hname, hrest⟩ := List.forall_mem_cons.1 hnames
    exact put_everywhere h hname (ih hrest (lookup_everywhere h hlookup))
  | case4 name next rest children hlookup ih =>
    obtain ⟨hname, hrest⟩ := List.forall_mem_cons.1 hnames
    exact put_everywhere h hname (ih hrest (.emptyDirectory hnil {}))

variable {fs : FileSystem}

theorem Everywhere.empty (hnil : p []) (workingDirectory : List Text) :
    Everywhere p { top := [], workingDirectory } :=
  Node.Everywhere.emptyDirectory hnil {}

theorem Everywhere.insert (hnil : p []) (h : fs.Everywhere p)
    (hnames : ∀ name ∈ fs.settled names.dropLast ++ names.getLast?.toList, Admits p name)
    (hnode : node.Everywhere p) : (fs.insert names node).Everywhere p :=
  alter_everywhere hnil (fun _ _ => hnode) hnames h

theorem Everywhere.makeDirectory (hnil : p []) (h : fs.Everywhere p)
    (hnames : ∀ name ∈ fs.settled names, Admits p name) :
    (fs.makeDirectory names).Everywhere p := by
  refine alter_everywhere hnil (fun old hold => ?_) hnames h
  unfold makeDirectory.made
  split
  · exact hold _ rfl
  · exact .emptyDirectory hnil {}

theorem Everywhere.refuse (hnil : p []) (h : fs.Everywhere p)
    (hnames : ∀ name ∈ fs.settled names, Admits p name) (errno : Errno) :
    (fs.refuse names errno).Everywhere p := by
  refine alter_everywhere hnil (fun old hold => ?_) hnames h
  unfold refuse.refused
  split
  · exact (hold _ rfl).withAccess
  · exact hold _ rfl
  · exact .emptyDirectory hnil { refusal := some errno }

/-! ## Names that are apart -/

theorem NamesApart.empty (workingDirectory : List Text) :
    NamesApart { top := [], workingDirectory } := Everywhere.empty List.nodup_nil workingDirectory

theorem NamesApart.insert (h : fs.NamesApart) (names : List Text) (hnode : node.NamesApart) :
    (fs.insert names node).NamesApart :=
  Everywhere.insert List.nodup_nil h (fun name _ => admits_nodup name) hnode

theorem NamesApart.makeDirectory (h : fs.NamesApart) (names : List Text) :
    (fs.makeDirectory names).NamesApart :=
  Everywhere.makeDirectory List.nodup_nil h fun name _ => admits_nodup name

theorem NamesApart.refuse (h : fs.NamesApart) (names : List Text) (errno : Errno) :
    (fs.refuse names errno).NamesApart :=
  Everywhere.refuse List.nodup_nil h (fun name _ => admits_nodup name) errno

end FileSystem

end ClassLocator

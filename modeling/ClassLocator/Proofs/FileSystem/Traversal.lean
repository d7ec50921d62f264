import ClassLocator.Proofs.FileSystem.Tree

/-!
# The traversal of a tree

A tree is traversed by recursion on its nodes: the children of a directory come one after the
other in the order of their names, each with all that is below it. A walk does the same with a
stack of listings, and gives the same files.

The files come in the order of the names that lead to them, compared name by name, which is not
the order of the texts of their paths. The first directory in this order that cannot be listed
ends the traversal.

## Main definitions

* `Node.files`: the files of a tree by recursion.
* `Entries`, `InOrder`: files by their names, all of them and in order up to a first refusal.

## Main statements

* `Listing.walk_eq`, `FileSystem.walk_eq_files`: a walk is the traversal.
* `Node.files_inOrder`: the traversal gives the files of a tree in order.
* `InOrder.unique`: what is in a tree determines what comes in order.
* `Node.Rearranged.files_eq`: the order of the children makes no difference.
-/

namespace ClassLocator

/-! ## Recursion on the tree -/

mutual

/-- The files at and below a node, where `place` is the path of the node and the way to it is open
or not. -/
def Node.files (isOpen : Bool) (place : Path) : Node → Feed Cause FoundFile
  | .file content _ => .ofList [⟨place, content.foundOn isOpen⟩]
  | .directory access children =>
    match access.listingRefusal isOpen place with
    | some errno => .fail (.system errno (some place.text))
    | none =>
      .join (((Node.branches access.isSearchable place children).mergeSort fun s t =>
        Text.precedes s.1 t.1).map (·.2))
  | .link _ => .empty
  | .pipe => .empty

/-- The files at and below each child, with the child's name. -/
def Node.branches (isOpen : Bool) (place : Path) :
    List (Text × Node) → List (Text × Feed Cause FoundFile)
  | [] => []
  | (name, node) :: rest =>
    (name, node.files isOpen (place.child name)) :: Node.branches isOpen place rest

end

/-- The files below the children of a listing that are still to come. -/
def Listing.files (listing : Listing) : Feed Cause FoundFile :=
  .join (listing.children.map fun child =>
    child.2.files listing.isSearchable (listing.place.child child.1))

theorem Node.branches_eq (isOpen : Bool) (place : Path) (children : List (Text × Node)) :
    Node.branches isOpen place children =
      children.map fun child => (child.1, child.2.files isOpen (place.child child.1)) := by
  induction children with
  | nil => rfl
  | cons child rest ih => rw [Node.branches, ih, List.map_cons]

theorem Node.files_directory (isOpen : Bool) (place : Path) (access : Access)
    (children : List (Text × Node)) :
    (Node.directory access children).files isOpen place =
      match Listing.of isOpen place access children with
      | .error cause => .fail cause
      | .ok listing => listing.files := by
  rw [Node.files, Listing.of]
  cases access.listingRefusal isOpen place with
  | some errno => rfl
  | none =>
    have hsort : (Node.branches access.isSearchable place children).mergeSort
          (fun s t => Text.precedes s.1 t.1) =
        (sortedChildren children).map fun child =>
          (child.1, child.2.files access.isSearchable (place.child child.1)) := by
      rw [Node.branches_eq, sortedChildren]
      symm
      apply List.map_mergeSort
      intros
      rfl
    simp only [hsort, List.map_map, Listing.files]
    rfl

/-! ## Walks -/

@[simp] theorem Listing.files_nil (place : Path) (isOpen : Bool) :
    Listing.files ⟨place, isOpen, []⟩ = .empty := rfl

@[simp] theorem Listing.files_cons (place : Path) (isOpen : Bool) (name : Text) (node : Node)
    (rest : List (Text × Node)) :
    Listing.files ⟨place, isOpen, (name, node) :: rest⟩ =
      (node.files isOpen (place.child name)).followedBy (Listing.files ⟨place, isOpen, rest⟩) := rfl

/-- What is still to come of a walk are the files of its listings, the innermost ones first. -/
theorem Listing.walk_eq (stack : List Listing) :
    Listing.walk stack = .join (stack.map Listing.files) := by
  fun_induction Listing.walk stack with
  | case1 => rfl
  | case2 place isOpen stack ih => simp [ih]
  | case3 place isOpen name content executable rest stack ih =>
    simp [ih, Node.files, Feed.followedBy_assoc]
  | case4 place isOpen name access children rest stack cause hopened =>
    simp [Node.files_directory, hopened, Feed.fail, Feed.followedBy]
  | case5 place isOpen name access children rest stack inner hopened ih =>
    simp [ih, Node.files_directory, hopened, Feed.followedBy_assoc]
  | case6 place isOpen name target rest stack ih => simp [ih, Node.files]
  | case7 place isOpen name rest stack ih => simp [ih, Node.files]

theorem FileSystem.walk_eq_files {fs : FileSystem} {root : Path} {access : Access}
    {children : List (Text × Node)} {answer : Bool} (hexists : fs.exists? root = .ok answer)
    (hnode : fs.node? root.text = .ok (.directory access children)) :
    fs.walk root = (Node.directory access children).files true root := by
  simp only [FileSystem.walk, hexists, hnode, Node.files_directory]
  cases Listing.of true root access children with
  | error cause => rfl
  | ok listing => simp [Listing.walk_eq]

/-! ## Files in order -/

/-- Files by the names that lead to them, and at the end perhaps a directory, by its names, that
cannot be listed. -/
abbrev Entries := Feed (List Text × Errno) (List Text × Content)

/-- The files and the cause that entries stand for below a place. -/
def filesBelow (place : Path) (entries : Entries) : Feed Cause FoundFile :=
  (entries.map fun file => ⟨place.append file.1, file.2⟩).mapFailure fun refused =>
    .system refused.2 (some (place.append refused.1).text)

/-- The entries of a child as entries of the directory that it is in. -/
def entriesUnder (name : Text) (entries : Entries) : Entries :=
  (entries.map fun file => (name :: file.1, file.2)).mapFailure fun refused =>
    (name :: refused.1, refused.2)

theorem filesBelow_followedBy (place : Path) (entries others : Entries) :
    filesBelow place (entries.followedBy others) =
      (filesBelow place entries).followedBy (filesBelow place others) := by
  simp only [filesBelow, Feed.map_followedBy, Feed.mapFailure_followedBy]

theorem filesBelow_entriesUnder (place : Path) (name : Text) (entries : Entries) :
    filesBelow place (entriesUnder name entries) = filesBelow (place.child name) entries := by
  obtain ⟨items, failure⟩ := entries
  ext1
  · simp [filesBelow, entriesUnder, Path.child_append]
  · cases failure <;> simp [filesBelow, entriesUnder, Path.child_append]

theorem mem_items_entriesUnder {name : Text} {entries : Entries} {file : List Text × Content} :
    file ∈ (entriesUnder name entries).items ↔
      ∃ rest, file.1 = name :: rest ∧ (rest, file.2) ∈ entries.items := by
  obtain ⟨names, content⟩ := file
  simp only [entriesUnder, Feed.items_mapFailure, Feed.items_map, List.mem_map, Prod.mk.injEq]
  constructor
  · rintro ⟨⟨rest, _⟩, hmem, rfl, rfl⟩
    exact ⟨rest, rfl, hmem⟩
  · rintro ⟨rest, rfl, hmem⟩
    exact ⟨(rest, content), hmem, rfl, rfl⟩

theorem mem_failure_entriesUnder {name : Text} {entries : Entries} {first : List Text × Errno} :
    first ∈ (entriesUnder name entries).failure ↔
      ∃ rest, first.1 = name :: rest ∧ (rest, first.2) ∈ entries.failure := by
  obtain ⟨names, errno⟩ := first
  simp only [entriesUnder, Feed.failure_mapFailure, Feed.failure_map, Option.mem_def,
    Option.map_eq_some_iff, Prod.mk.injEq]
  constructor
  · rintro ⟨⟨rest, _⟩, hmem, rfl, rfl⟩
    exact ⟨rest, rfl, hmem⟩
  · rintro ⟨rest, rfl, hmem⟩
    exact ⟨(rest, errno), hmem, rfl, rfl⟩

/-- Of the given files and refused directories, the entries are the files before the first refused
directory and then this directory, or all files if there is none; the files are in order, each
once. -/
structure InOrder (files : List Text → Content → Prop) (refused : List Text → Errno → Prop)
    (entries : Entries) : Prop where
  sorted : entries.items.Pairwise fun file other => NamesBefore file.1 other.1
  mem_items : ∀ names content, (names, content) ∈ entries.items ↔
    files names content ∧ ∀ first ∈ entries.failure, NamesBefore names first.1
  refused_failure : ∀ first ∈ entries.failure, refused first.1 first.2
  failure_first : ∀ first ∈ entries.failure, ∀ names errno, refused names errno →
    names = first.1 ∨ NamesBefore first.1 names
  not_refused : entries.failure = none → ∀ names errno, ¬ refused names errno

namespace InOrder

variable {files files' : List Text → Content → Prop} {refused refused' : List Text → Errno → Prop}
  {entries entries' : Entries}

/-- Where there is nothing, nothing comes. -/
theorem empty (hfiles : ∀ names content, ¬ files names content)
    (hrefused : ∀ names errno, ¬ refused names errno) : InOrder files refused .empty where
  sorted := .nil
  mem_items names content := by simp [Feed.empty, hfiles]
  refused_failure := by simp [Feed.empty]
  failure_first := by simp [Feed.empty]
  not_refused _ := hrefused

theorem under (h : InOrder files refused entries) (name : Text) :
    InOrder (fun names content => ∃ rest, names = name :: rest ∧ files rest content)
      (fun names errno => ∃ rest, names = name :: rest ∧ refused rest errno)
      (entriesUnder name entries) := by
  constructor
  · simpa [entriesUnder, List.pairwise_map, NamesBefore.cons_iff] using h.sorted
  · intro names content
    rw [mem_items_entriesUnder]
    constructor
    · rintro ⟨rest, rfl, hmem⟩
      obtain ⟨hfile, hfirst⟩ := (h.mem_items rest content).1 hmem
      refine ⟨⟨rest, rfl, hfile⟩, ?_⟩
      rintro ⟨_, errno⟩ hfailure
      obtain ⟨first, rfl, hfailure⟩ := mem_failure_entriesUnder.1 hfailure
      exact NamesBefore.cons_iff.2 (hfirst _ hfailure)
    · rintro ⟨⟨rest, rfl, hfile⟩, hfirst⟩
      refine ⟨rest, rfl, (h.mem_items rest content).2 ⟨hfile, fun first hfailure => ?_⟩⟩
      exact NamesBefore.cons_iff.1
        (hfirst (name :: first.1, first.2) (mem_failure_entriesUnder.2 ⟨_, rfl, hfailure⟩))
  · intro first hfailure
    obtain ⟨rest, heq, hfailure⟩ := mem_failure_entriesUnder.1 hfailure
    exact ⟨rest, heq, h.refused_failure _ hfailure⟩
  · rintro first hfailure _ errno ⟨rest, rfl, hrefused⟩
    obtain ⟨names, heq, hfailure⟩ := mem_failure_entriesUnder.1 hfailure
    rw [heq]
    rcases h.failure_first _ hfailure rest errno hrefused with rfl | hbefore
    · exact .inl rfl
    · exact .inr (NamesBefore.cons_iff.2 hbefore)
  · rintro hnone _ errno ⟨rest, rfl, hrefused⟩
    have : entries.failure = none := by simpa [entriesUnder] using hnone
    exact h.not_refused this rest errno hrefused

/-- What of both comes in order, if all of the first comes before all of the second. -/
theorem followedBy (h : InOrder files refused entries) (h' : InOrder files' refused' entries')
    (apart : ∀ names names', (∃ content, files names content) ∨ (∃ errno, refused names errno) →
      (∃ content, files' names' content) ∨ (∃ errno, refused' names' errno) →
      NamesBefore names names') :
    InOrder (fun names content => files names content ∨ files' names content)
      (fun names errno => refused names errno ∨ refused' names errno)
      (entries.followedBy entries') := by
  -- A refused directory among the first entries hides the second ones altogether.
  cases hf : entries.failure with
  | none =>
    have hentries : entries.followedBy entries' =
        ⟨entries.items ++ entries'.items, entries'.failure⟩ := by
      simp [Feed.followedBy, hf]
    have hitems : ∀ names content, (names, content) ∈ entries.items ↔ files names content := by
      simpa [hf] using h.mem_items
    rw [hentries]
    constructor
    · refine List.pairwise_append.2 ⟨h.sorted, h'.sorted, ?_⟩
      rintro ⟨names, content⟩ hmem ⟨names', content'⟩ hmem'
      exact apart _ _ (.inl ⟨content, (hitems _ _).1 hmem⟩)
        (.inl ⟨content', ((h'.mem_items _ _).1 hmem').1⟩)
    · intro names content
      simp only [List.mem_append, hitems, h'.mem_items]
      constructor
      · rintro (hfile | ⟨hfile, hfirst⟩)
        · exact ⟨.inl hfile, fun first hff =>
            apart _ _ (.inl ⟨content, hfile⟩) (.inr ⟨first.2, h'.refused_failure first hff⟩)⟩
        · exact ⟨.inr hfile, hfirst⟩
      · rintro ⟨hfile | hfile, hfirst⟩
        · exact .inl hfile
        · exact .inr ⟨hfile, hfirst⟩
    · exact fun first hff => .inr (h'.refused_failure first hff)
    · rintro first hff names errno (hrefused | hrefused)
      · exact absurd hrefused (h.not_refused hf names errno)
      · exact h'.failure_first first hff names errno hrefused
    · rintro hnone names errno (hrefused | hrefused)
      · exact h.not_refused hf names errno hrefused
      · exact h'.not_refused hnone names errno hrefused
  | some first =>
    have hentries : entries.followedBy entries' = entries := by simp [Feed.followedBy, hf]
    have hfirst : refused first.1 first.2 := h.refused_failure first hf
    have hlater : ∀ names, (∃ content, files' names content) ∨ (∃ errno, refused' names errno) →
        NamesBefore first.1 names := fun names => apart _ _ (.inr ⟨first.2, hfirst⟩)
    rw [hentries]
    refine ⟨h.sorted, ?_, ?_, ?_, ?_⟩
    · intro names content
      rw [h.mem_items]
      constructor
      · rintro ⟨hfile, hbefore⟩
        exact ⟨.inl hfile, hbefore⟩
      · rintro ⟨hfile | hfile, hbefore⟩
        · exact ⟨hfile, hbefore⟩
        · exact absurd (hbefore first hf) (hlater names (.inl ⟨content, hfile⟩)).asymm
    · exact fun other hff => .inl (h.refused_failure other hff)
    · rintro other hff names errno (hrefused | hrefused)
      · exact h.failure_first other hff names errno hrefused
      · rw [hf] at hff
        cases hff
        exact .inr (hlater names (.inr ⟨errno, hrefused⟩))
    · intro hnone
      rw [hf] at hnone
      cases hnone

theorem congr (h : InOrder files refused entries)
    (hfiles : ∀ names content, files names content ↔ files' names content)
    (hrefused : ∀ names errno, refused names errno ↔ refused' names errno) :
    InOrder files' refused' entries := by
  have heq : files = files' := funext fun names => funext fun content =>
    propext (hfiles names content)
  have heq' : refused = refused' := funext fun names => funext fun errno =>
    propext (hrefused names errno)
  rwa [← heq, ← heq']

/-- There is only one way to be in order, where a directory is refused in one way only. -/
theorem unique (h : InOrder files refused entries) (h' : InOrder files refused entries')
    (hone : ∀ names errno errno', refused names errno → refused names errno' → errno = errno') :
    entries = entries' := by
  -- Both end at the same refused directory, so they hold the same files, and both are sorted.
  have hfailure : entries.failure = entries'.failure := by
    cases hf : entries.failure with
    | none =>
      cases hf' : entries'.failure with
      | none => rfl
      | some first => exact absurd (h'.refused_failure first hf') (h.not_refused hf _ _)
    | some first =>
      have hfirst := h.refused_failure first hf
      cases hf' : entries'.failure with
      | none => exact absurd hfirst (h'.not_refused hf' _ _)
      | some first' =>
        have hfirst' := h'.refused_failure first' hf'
        have hnames : first.1 = first'.1 := by
          rcases h'.failure_first first' hf' _ _ hfirst with heq | hbefore
          · exact heq
          · rcases h.failure_first first hf _ _ hfirst' with heq | hbefore'
            · exact heq.symm
            · exact absurd hbefore hbefore'.asymm
        rw [Prod.ext hnames (hone _ _ _ hfirst (hnames ▸ hfirst'))]
  have hnodup : ∀ {items : List (List Text × Content)},
      items.Pairwise (fun file other => NamesBefore file.1 other.1) → items.Nodup := by
    intro items hsorted
    refine hsorted.imp ?_
    rintro file _ hbefore rfl
    exact NamesBefore.not_self _ hbefore
  have hperm : entries.items.Perm entries'.items := by
    refine (List.perm_ext_iff_of_nodup (hnodup h.sorted) (hnodup h'.sorted)).2 fun file => ?_
    rw [h.mem_items, h'.mem_items, hfailure]
  refine Feed.ext (hperm.eq_of_pairwise ?_ h.sorted h'.sorted) hfailure
  exact fun _ _ _ _ hbefore hbefore' => absurd hbefore' hbefore.asymm

end InOrder

/-! ## The files of a tree in order -/

theorem sortedChildren_before {children : List (Text × Node)}
    (h : (children.map (·.1)).Nodup) :
    (sortedChildren children).Pairwise fun child other => Text.Before child.1 other.1 := by
  have hsorted : (sortedChildren children).Pairwise fun child other =>
      Text.precedes child.1 other.1 = true :=
    List.pairwise_mergeSort (fun a b c => Text.precedes_trans a.1 b.1 c.1)
      (fun a b => Text.precedes_total a.1 b.1) children
  have hperm : (sortedChildren children).Perm children := List.mergeSort_perm ..
  have hnodup : ((sortedChildren children).map (·.1)).Nodup := (hperm.map _).nodup_iff.2 h
  refine hsorted.imp₂ (fun _ _ hprecedes hne => ?_) (List.pairwise_map.1 hnodup)
  exact (Text.precedes_iff.1 hprecedes).resolve_left hne

/-- What can be listed lies on an open way. -/
theorem Access.isOpen_of_listingRefusal {access : Access} {isOpen : Bool} {place : Path}
    (h : access.listingRefusal isOpen place = none) : isOpen = true := by
  obtain ⟨-, h⟩ := Option.or_eq_none_iff.1 h
  split_ifs at h with _ hboth
  exact (Bool.and_eq_true_iff.1 hboth).1

/-- Children in the order of their names, each with its own files in order, have all their files
in order. -/
theorem Listing.files_inOrder {place : Path} {isOpen : Bool} {children : List (Text × Node)}
    (hsorted : children.Pairwise fun child other => Text.Before child.1 other.1)
    (hchildren : ∀ name child, (name, child) ∈ children →
      ∃ entries, child.files isOpen (place.child name) = filesBelow (place.child name) entries ∧
        InOrder (child.HoldsFile isOpen) (child.Refuses isOpen (place.child name)) entries) :
    ∃ entries, Listing.files ⟨place, isOpen, children⟩ = filesBelow place entries ∧
      InOrder
        (fun names content => ∃ name child rest, (name, child) ∈ children ∧
          names = name :: rest ∧ child.HoldsFile isOpen rest content)
        (fun names errno => ∃ name child rest, (name, child) ∈ children ∧
          names = name :: rest ∧ child.Refuses isOpen (place.child name) rest errno)
        entries := by
  induction children with
  | nil => exact ⟨.empty, rfl, .empty (by simp) (by simp)⟩
  | cons first rest ih =>
    obtain ⟨name, child⟩ := first
    obtain ⟨hfirst, hrest⟩ := List.pairwise_cons.1 hsorted
    obtain ⟨entries, hfiles, horder⟩ := hchildren name child (List.mem_cons_self ..)
    obtain ⟨others, hothers, horder'⟩ := ih hrest fun name child hmem =>
      hchildren name child (List.mem_cons_of_mem _ hmem)
    refine ⟨(entriesUnder name entries).followedBy others, ?_, ?_⟩
    · rw [Listing.files_cons, hfiles, hothers, filesBelow_followedBy, filesBelow_entriesUnder]
    · refine ((horder.under name).followedBy horder' ?_).congr ?_ ?_
      · rintro _ _ (⟨_, _, rfl, _⟩ | ⟨_, _, rfl, _⟩)
          (⟨_, other, _, _, hmem, rfl, _⟩ | ⟨_, other, _, _, hmem, rfl, _⟩) <;>
          exact NamesBefore.of_before (hfirst _ hmem) _ _
      · intro names content
        simp only [List.mem_cons, Prod.mk.injEq, or_and_right, exists_or, and_assoc,
          exists_and_left, exists_eq_left]
      · intro names errno
        simp only [List.mem_cons, Prod.mk.injEq, or_and_right, exists_or, and_assoc,
          exists_and_left, exists_eq_left]

/-- The traversal gives the files of a tree in order, up to the first directory that cannot be
listed. -/
theorem Node.files_inOrder (node : Node) (isOpen : Bool) (place : Path) (h : node.NamesApart) :
    ∃ entries, node.files isOpen place = filesBelow place entries ∧
      InOrder (node.HoldsFile isOpen) (node.Refuses isOpen place) entries := by
  induction node using Node.inductOn generalizing isOpen place with
  | file content executable =>
    have hrefuses : ∀ names errno,
        ¬ (Node.file content executable).Refuses isOpen place names errno := by
      rintro names errno ⟨_, _, _, ⟨⟩, _⟩
    refine ⟨.ofList [([], content.foundOn isOpen)], Feed.ext ?_ rfl, ?_⟩
    · simp [Node.files, filesBelow, Feed.ofList]
    constructor
    · exact List.pairwise_singleton ..
    · intro names other
      simp [Node.holdsFile_file, Feed.ofList]
    · rintro first ⟨⟩
    · rintro first ⟨⟩
    · exact fun _ => hrefuses
  | link target =>
    refine ⟨.empty, rfl, .empty ?_ ?_⟩
    · rintro names content ⟨_, _, _, ⟨⟩, _⟩
    · rintro names errno ⟨_, _, _, ⟨⟩, _⟩
  | pipe =>
    refine ⟨.empty, rfl, .empty ?_ ?_⟩
    · rintro names content ⟨_, _, _, ⟨⟩, _⟩
    · rintro names errno ⟨_, _, _, ⟨⟩, _⟩
  | directory access children ih =>
    rw [Node.files_directory, Listing.of]
    cases hrefusal : access.listingRefusal isOpen place with
    | some errno =>
      -- Nothing comes before the root, so no file is left.
      have hfirst : ∀ first ∈ (Feed.fail ([], errno) : Entries).failure, first = ([], errno) :=
        fun first hmem => (Option.some.inj hmem).symm
      refine ⟨.fail ([], errno), Feed.ext rfl ?_, ?_⟩
      · simp [filesBelow, Feed.fail]
      constructor
      · exact .nil
      · intro names content
        constructor
        · exact fun hmem => absurd hmem List.not_mem_nil
        · rintro ⟨-, hbefore⟩
          exact absurd (hbefore _ rfl) (NamesBefore.not_nil names)
      · intro first hmem
        rw [hfirst first hmem]
        exact Node.refuses_directory.2 (.inl ⟨rfl, hrefusal⟩)
      · intro first hmem names _ _
        rw [hfirst first hmem]
        cases names with
        | nil => exact .inl rfl
        | cons name names => exact .inr (.nil_cons name names)
      · rintro ⟨⟩
    | none =>
      obtain rfl := Access.isOpen_of_listingRefusal hrefusal
      have hchildren : ∀ name child, (name, child) ∈ sortedChildren children →
          ∃ entries, child.files access.isSearchable (place.child name) =
              filesBelow (place.child name) entries ∧
            InOrder (child.HoldsFile access.isSearchable)
              (child.Refuses access.isSearchable (place.child name)) entries := by
        intro name child hmem
        have hmem : (name, child) ∈ children := List.mem_mergeSort.1 hmem
        exact ih name child hmem access.isSearchable (place.child name) (h.child hmem)
      obtain ⟨entries, hfiles, horder⟩ :=
        Listing.files_inOrder (sortedChildren_before h.nodup) hchildren
      refine ⟨entries, hfiles, horder.congr ?_ ?_⟩
      · intro names content
        simp only [Node.holdsFile_directory, sortedChildren, List.mem_mergeSort, Bool.true_and]
      · intro names errno
        simp only [Node.refuses_directory, sortedChildren, List.mem_mergeSort, hrefusal,
          reduceCtorEq, and_false, false_or, Bool.true_and]

/-- How the children of the directories are arranged makes no difference. -/
theorem Node.Rearranged.files_eq {node other : Node} (h : node.Rearranged other)
    (hapart : node.NamesApart) (isOpen : Bool) (place : Path) :
    node.files isOpen place = other.files isOpen place := by
  obtain ⟨entries, hfiles, horder⟩ := node.files_inOrder isOpen place hapart
  obtain ⟨entries', hfiles', horder'⟩ := other.files_inOrder isOpen place (h.namesApart hapart)
  have horder' : InOrder (node.HoldsFile isOpen) (node.Refuses isOpen place) entries' :=
    horder'.congr (fun _ _ => h.holdsFile_iff.symm) fun _ _ => h.refuses_iff.symm
  rw [hfiles, hfiles', horder.unique horder' fun _ _ _ => hapart.refuses_unique]

end ClassLocator

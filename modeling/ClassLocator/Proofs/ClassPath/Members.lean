import ClassLocator.Proofs.Search.Provenance
import ClassLocator.Proofs.Search.Reached
import Mathlib.Data.List.Forall2
import Mathlib.Data.List.Infix

/-!
# Matches in archives

The matches in an archive are those of its members whose names hold the query and the extension, in
the order of the members. What a match is made of is its own member: several members may have the
same name, and each of them is read from its own place. The first match, and only this one, is
marked to name the archive.

Matches elsewhere are marked all. So the marks among the matches of a search tell how often a place
is named: once for each match of the runtime or of a directory, and once for each archive that has
a match at all.

## Main definitions

* `Match.Shows`: what a match in an archive is made of.
* `Element.isMatchingArchive`: whether there is a match in the archive of a jar.

## Main statements

* `archiveMatches_members`: the matches in an archive, member by member.
* `countP_firstInContainer_matches`: the marks among the matches of a search.
-/

namespace ClassLocator

/-- The match is made of this member: its name stands in the match, and so does what reading this
very member gives if sources are looked for. -/
structure Match.Shows (archive : Archive) (container : Path) (sourceMode : Bool)
    (member : Archive.Member) (found : Match) : Prop where
  kind : found.kind = .archive
  location : found.location = container.text
  package : found.package = member.name
  memberName : found.memberName = some member.name
  source : found.source = if sourceMode = true then some (archive.content member) else none

section

variable {archive : Archive} {container : Path} {query : Query} {sourceMode : Bool}

theorem memberMatch_shows (first : Bool) (member : Archive.Member) :
    (memberMatch archive container sourceMode first member).Shows archive container sourceMode
      member :=
  ⟨rfl, rfl, rfl, rfl, rfl⟩

theorem Query.selects_iff {memberName : Text} :
    query.selects sourceMode memberName = true ↔
      query.slashForm <:+: memberName ∧ Query.extension sourceMode <:+: memberName := by
  rw [Query.selects, Bool.and_eq_true, Text.occursIn_iff, Text.occursIn_iff]

theorem memberMatches_shows (first : Bool) (members : List Archive.Member) :
    List.Forall₂ (Match.Shows archive container sourceMode)
      (members.filter fun member => query.selects sourceMode member.name)
      (memberMatches archive container query sourceMode first members) := by
  induction members generalizing first with
  | nil => exact .nil
  | cons member rest ih =>
    unfold memberMatches
    split
    case isTrue hselects =>
      rw [List.filter_cons, if_pos hselects]
      exact .cons (memberMatch_shows first member) (ih false)
    case isFalse hselects =>
      rw [List.filter_cons, if_neg hselects]
      exact ih first

/-- The flag is handed on to the first match and to no later one. -/
theorem firstInContainer_memberMatches (first : Bool) (members : List Archive.Member) (i : Nat)
    (hi : i < (memberMatches archive container query sourceMode first members).length) :
    ((memberMatches archive container query sourceMode first members)[i]).firstInContainer =
      (first && decide (i = 0)) := by
  induction members generalizing first i with
  | nil => cases hi
  | cons member rest ih =>
    by_cases hselects : query.selects sourceMode member.name = true
    · have hcons : memberMatches archive container query sourceMode first (member :: rest) =
          memberMatch archive container sourceMode first member ::
            memberMatches archive container query sourceMode false rest := by
        rw [memberMatches, if_pos hselects]
      simp only [hcons] at hi ⊢
      cases i with
      | zero => exact (Bool.and_true first).symm
      | succ i =>
        rw [List.getElem_cons_succ, ih false i (Nat.lt_of_succ_lt_succ hi)]
        simp
    · have hskip : memberMatches archive container query sourceMode first (member :: rest) =
          memberMatches archive container query sourceMode first rest := by
        rw [memberMatches, if_neg hselects]
      simp only [hskip] at hi ⊢
      exact ih first i hi

/-- In an archive that can be read there is one match for each member whose name holds the query
and the extension, in the order of the members, and just the first one is marked. -/
theorem archiveMatches_members {fs : FileSystem}
    (harchive : fs.read container >>= Archive.ofFile fs.unpackers = .ok archive) (query : Query)
    (sourceMode : Bool) :
    let found := archiveMatches fs container query sourceMode
    found.failure = none ∧
      List.Forall₂ (Match.Shows archive container sourceMode)
        (archive.members.filter fun member =>
          query.slashForm <:+: member.name ∧ Query.extension sourceMode <:+: member.name)
        found.items ∧
      ∀ (i : Nat) (hi : i < found.items.length),
        (found.items[i]).firstInContainer = true ↔ i = 0 := by
  intro found
  have hfound : found =
      .ofList (memberMatches archive container query sourceMode true archive.members) := by
    simp only [found, archiveMatches, harchive]
  rw [hfound]
  refine ⟨rfl, ?_, fun i hi => ?_⟩
  · have hfilter : (archive.members.filter fun member =>
        query.slashForm <:+: member.name ∧ Query.extension sourceMode <:+: member.name) =
        archive.members.filter fun member => query.selects sourceMode member.name := by
      refine List.filter_congr fun member _ => ?_
      rw [Bool.eq_iff_iff, decide_eq_true_iff, Query.selects_iff]
    rw [hfilter]
    exact memberMatches_shows true archive.members
  · have hmark := firstInContainer_memberMatches true archive.members i hi
    rw [Bool.true_and] at hmark
    exact (congrArg (· = true) hmark).to_iff.trans decide_eq_true_iff

end

/-! ## Counting the marks -/

/-- Matches of which just the first one is marked. -/
theorem countP_firstInContainer_of_head {items : List Match}
    (h : ∀ (i : Nat) (hi : i < items.length), (items[i]).firstInContainer = true ↔ i = 0) :
    items.countP (·.firstInContainer) = if items.isEmpty then 0 else 1 := by
  cases items with
  | nil => rfl
  | cons first rest =>
    have hfirst : first.firstInContainer = true := (h 0 (Nat.zero_lt_succ _)).2 rfl
    have hrest : rest.countP (·.firstInContainer) = 0 := by
      refine List.countP_eq_zero.2 fun found hmem hmarked => ?_
      obtain ⟨i, hi, rfl⟩ := List.getElem_of_mem hmem
      cases (h (i + 1) (Nat.succ_lt_succ hi)).1 hmarked
    rw [List.countP_cons_of_pos hfirst, hrest]
    rfl

namespace Element

/-- Whether an archive is searched for the element and has a match. -/
def isMatchingArchive (fs : FileSystem) (query : Query) (display : Display) (element : Element) :
    Bool :=
  match element with
  | .directory _ => false
  | .jar _ => !(element.hits fs query display).items.isEmpty

variable {fs : FileSystem} {query : Query} {display : Display}

theorem mem_hits_directory {root : Path} {found : Match}
    (h : found ∈ ((directory root).hits fs query display).items) :
    found.kind = .directory ∧ found.firstInContainer = true := by
  obtain ⟨name, hfinds⟩ := finds_of_mem_hits h
  cases hfinds with
  | file => exact ⟨rfl, rfl⟩

theorem mem_hits_jar {path : Path} {found : Match}
    (h : found ∈ ((jar path).hits fs query display).items) : found.kind = .archive := by
  obtain ⟨name, hfinds⟩ := finds_of_mem_hits h
  cases hfinds with
  | member => rfl

/-- However a jar is searched, just the first of its matches is marked. -/
theorem firstInContainer_hits_jar (path : Path) :
    let items := ((jar path).hits fs query display).items
    ∀ (i : Nat) (hi : i < items.length), (items[i]).firstInContainer = true ↔ i = 0 := by
  dsimp only [hits, hitsIn]
  split
  case h_1 =>
    simp only [Feed.items_mapFailure]
    cases harchive :
        fs.read ((jar path).container display.sourceMode) >>= Archive.ofFile fs.unpackers with
    | error cause =>
      simp only [archiveMatches, harchive]
      exact nofun
    | ok archive => exact (archiveMatches_members harchive query display.sourceMode).2.2
  case h_2 => exact nofun
  case h_3 => exact nofun

variable (fs query display)

/-- A directory is named for each of its matches, a jar once if it has any. -/
theorem countP_firstInContainer_hits (element : Element) :
    let items := (element.hits fs query display).items
    items.countP (·.firstInContainer) = items.countP (·.kind = .directory) +
      if element.isMatchingArchive fs query display = true then 1 else 0 := by
  intro items
  cases element with
  | directory root =>
    refine List.countP_congr fun found hmem => ?_
    obtain ⟨hkind, hmarked⟩ := mem_hits_directory hmem
    rw [hkind, hmarked]
    rfl
  | jar path =>
    have hnone : items.countP (·.kind = .directory) = 0 := by
      refine List.countP_eq_zero.2 fun found hmem => ?_
      rw [mem_hits_jar hmem]
      exact nofun
    rw [hnone, Nat.zero_add, countP_firstInContainer_of_head (firstInContainer_hits_jar path)]
    change _ = if (!items.isEmpty) = true then 1 else 0
    cases items.isEmpty <;> rfl

theorem countP_runtime_hits (element : Element) :
    (element.hits fs query display).items.countP (·.kind = .runtime) = 0 := by
  refine List.countP_eq_zero.2 fun found hmem => ?_
  obtain ⟨name, hfinds⟩ := finds_of_mem_hits hmem
  simpa using hfinds.kind_ne_runtime

end Element

section

variable (fs : FileSystem) (query : Query) (display : Display)

/-- Element by element the marks add up, and none of the matches is one of the runtime. -/
theorem countP_firstInContainer_flatMap (elements : List Element) :
    let items := elements.flatMap fun element => (element.hits fs query display).items
    items.countP (·.kind = .runtime) = 0 ∧
      items.countP (·.firstInContainer) = items.countP (·.kind = .directory) +
        elements.countP (Element.isMatchingArchive fs query display) := by
  intro items
  induction elements with
  | nil => exact ⟨rfl, rfl⟩
  | cons element rest ih =>
    obtain ⟨hruntime, hmarked⟩ := ih
    have helement := element.countP_firstInContainer_hits fs query display
    simp only [items, List.flatMap_cons, List.countP_append, List.countP_cons] at hmarked ⊢
    refine ⟨?_, ?_⟩
    · rw [Element.countP_runtime_hits, hruntime]
    · rw [helement, hmarked]
      omega

/-- Among the matches of a search those of the runtime and of directories are marked all, and each
archive that is reached and has a match has one that is marked. -/
theorem countP_firstInContainer_matches {runtime : Feed Fault Match}
    (hruntime : ∀ found ∈ runtime.items, found.kind = .runtime ∧ found.firstInContainer = true)
    (elements : List Element) :
    let items := (matchStream fs query display runtime elements).items
    items.countP (·.firstInContainer) =
      items.countP (·.kind = .runtime) + items.countP (·.kind = .directory) +
        (reached fs query display runtime elements).countP
          (Element.isMatchingArchive fs query display) := by
  intro items
  have hmarked : runtime.items.countP (·.firstInContainer) =
      runtime.items.countP (·.kind = .runtime) := by
    refine List.countP_congr fun found hmem => ?_
    rw [(hruntime found hmem).1, (hruntime found hmem).2]
    rfl
  have hnone : runtime.items.countP (·.kind = .directory) = 0 := by
    refine List.countP_eq_zero.2 fun found hmem => ?_
    rw [(hruntime found hmem).1]
    exact nofun
  obtain ⟨hbelow, hadded⟩ := countP_firstInContainer_flatMap fs query display
    (reached fs query display runtime elements)
  simp only [items, items_matchStream, List.countP_append]
  rw [hmarked, hnone, hbelow, hadded]
  omega

end

end ClassLocator

import ClassLocator.Proofs.Archive.Directory
import ClassLocator.Proofs.FileSystem.Lookup
import ClassLocator.Proofs.Search.Stream

/-!
# How the scan of an element fails

The scan of an element that fails names what could not be scanned, as a rule. This is so for every
tree, and for every file that cannot be opened or is malformed as an archive. It is not so where the
path of the container is too long to be looked up or leads through a directory that may not be
searched, nor where a jar is a pipe or asks for more than is understood.

## Main definitions

* `Element.IsTractable`: none of these is the case.

## Main statements

* `Element.reports_iff`: when the scan of an element names what could not be scanned.
-/

namespace ClassLocator.Element

variable {fs : FileSystem} {query : Query} {display : Display} {element : Element}
  {container : Path}

/-- A failure of the scan can be told: the container can be looked up, and a jar is not a pipe and
does not ask for more than is understood. -/
structure IsTractable (fs : FileSystem) (sourceMode : Bool) (element : Element) : Prop where
  lookup : '\x00' ∈ (element.container sourceMode).text ∨
    ∀ errno : Errno, errno = .nameTooLong ∨ errno = .accessDenied →
      fs.node? (element.container sourceMode).text ≠ .error errno
  answer : ∀ path, element = .jar path →
    fs.read (element.container sourceMode) ≠ .error .unanswered
  archive : ∀ path file, element = .jar path →
    fs.read (element.container sourceMode) = .ok file → ¬ Archive.Overreaches file

/-- The fault names the container that could not be scanned. -/
def Names (container : Path) (fault : Fault) : Prop :=
  ∃ cause, fault = .directoryScan container cause ∨ fault = .archiveScan container cause

theorem not_names_bare (cause : Cause) : ¬ Names container (.bare cause) := by
  rintro ⟨other, h | h⟩
  · cases h
  · cases h

theorem failure_scan (fs : FileSystem) (query : Query) (display : Display) (element : Element) :
    (element.scan fs query display).failure = (element.hits fs query display).failure :=
  congrArg Feed.failure (filterMap_scan fs query display element)

theorem lookup_iff (fs : FileSystem) (container : Path) :
    ('\x00' ∈ container.text ∨ ∀ errno : Errno, errno = .nameTooLong ∨ errno = .accessDenied →
        fs.node? container.text ≠ .error errno) ↔
      ∀ cause, fs.exists? container ≠ .error cause := by
  constructor
  · rintro hlookup cause hexists
    obtain ⟨hnul, errno, hopen, hnode, -⟩ := FileSystem.holds_eq_error_iff.1 hexists
    exact hlookup.elim hnul fun hne => hne errno hopen hnode
  · intro hexists
    by_cases hnul : '\x00' ∈ container.text
    · exact .inl hnul
    · refine .inr fun errno hopen hnode => hexists (.system errno (some container.text)) ?_
      exact FileSystem.holds_eq_error_iff.2 ⟨hnul, errno, hopen, hnode, rfl⟩

/-! ## Containers that are there -/

/-- A tree that cannot be walked to its end is always named. -/
theorem names_of_directoryMatches (fs : FileSystem) (container : Path) (query : Query)
    (sourceMode : Bool) :
    ∀ fault ∈ ((directoryMatches fs container query sourceMode).mapFailure
      (directoryFault container)).failure, Names container fault := by
  intro fault hfault
  obtain ⟨cause, hcause, rfl⟩ := Option.map_eq_some_iff.1 hfault
  have hkind : cause.kind = .system := fs.kind_of_walk container cause hcause
  exact ⟨cause, .inl (if_pos hkind)⟩

theorem names_archiveFault_iff {cause : Cause} :
    Names container (archiveFault container cause) ↔ cause.BlamesFile := by
  unfold archiveFault
  split
  case isTrue hkind => exact iff_of_true ⟨cause, .inr rfl⟩ hkind
  case isFalse hkind => exact iff_of_false (not_names_bare cause) hkind

theorem failure_archiveMatches_iff {query : Query} {sourceMode : Bool} {cause : Cause} :
    (archiveMatches fs container query sourceMode).failure = some cause ↔
      (fs.read container >>= Archive.ofFile fs.unpackers) = .error cause := by
  unfold archiveMatches
  split
  case h_1 archive hread =>
    rw [hread]
    exact iff_of_false nofun nofun
  case h_2 other hread =>
    rw [hread, Except.error.injEq]
    exact Option.some_inj

/-- An archive that is there is named unless it is a pipe or asks for more than is understood. -/
theorem names_of_archiveMatches_iff (query : Query) (sourceMode : Bool)
    (hexists : fs.exists? container = .ok true) :
    (∀ fault ∈ ((archiveMatches fs container query sourceMode).mapFailure
        (archiveFault container)).failure, Names container fault) ↔
      fs.read container ≠ .error .unanswered ∧
        ∀ file, fs.read container = .ok file → ¬ Archive.Overreaches file := by
  have hcauses : (∀ fault ∈ ((archiveMatches fs container query sourceMode).mapFailure
        (archiveFault container)).failure, Names container fault) ↔
      ∀ cause, (fs.read container >>= Archive.ofFile fs.unpackers) = .error cause →
        cause.BlamesFile := by
    constructor
    · intro hnames cause hcause
      refine names_archiveFault_iff.1 (hnames _ (Option.map_eq_some_iff.2 ⟨cause, ?_, rfl⟩))
      exact failure_archiveMatches_iff.2 hcause
    · intro hblames fault hfault
      obtain ⟨cause, hcause, rfl⟩ := Option.map_eq_some_iff.1 hfault
      exact names_archiveFault_iff.2 (hblames cause (failure_archiveMatches_iff.1 hcause))
  rw [hcauses]
  cases hread : fs.read container with
  | error cause =>
    constructor
    · intro hblames
      refine ⟨?_, nofun⟩
      rintro ⟨⟩
      exact not_blamesFile_unanswered (hblames _ rfl)
    · rintro ⟨hanswer, -⟩ _ ⟨⟩
      obtain hkind | rfl := FileSystem.kind_of_read hexists hread
      · exact .inl hkind
      · exact absurd rfl hanswer
  | ok file =>
    constructor
    · intro hblames
      refine ⟨nofun, ?_⟩
      rintro _ ⟨⟩ hoverreaches
      obtain ⟨cause, hcause, hnot⟩ := Archive.ofFile_overreaches_iff.2 hoverreaches
      exact hnot (hblames cause hcause)
    · rintro ⟨-, hnone⟩ cause hcause
      refine Classical.byContradiction fun hnot => hnone file rfl ?_
      exact Archive.ofFile_overreaches_iff.1 ⟨cause, hcause, hnot⟩

/-! ## Elements -/

/-- Whatever the file system holds, a scan that fails names its container just if the element is
tractable. -/
theorem reports_iff (fs : FileSystem) (query : Query) (display : Display) (element : Element) :
    (∀ fault ∈ (element.scan fs query display).failure,
        Names (element.container display.sourceMode) fault) ↔
      element.IsTractable fs display.sourceMode := by
  rw [failure_scan, hits]
  have hlookup := lookup_iff fs (element.container display.sourceMode)
  -- Whether the container is there is asked first; a failure of this question is never named.
  cases hexists : fs.exists? (element.container display.sourceMode) with
  | error cause =>
    refine iff_of_false (fun h => not_names_bare cause (h _ rfl)) fun h => ?_
    exact hlookup.1 h.lookup cause hexists
  | ok answer =>
    have hlooked := hlookup.2 fun cause => by simp [hexists]
    cases answer with
    | false =>
      refine iff_of_true ?_ ⟨hlooked, fun path _ hread => ?_, fun path file _ hread => ?_⟩
      · rintro _ ⟨⟩
      · cases hexists.symm.trans (FileSystem.exists?_of_unanswered hread)
      · cases hexists.symm.trans (FileSystem.exists?_of_read hread)
    | true =>
      cases element with
      | directory path =>
        refine iff_of_true (names_of_directoryMatches fs _ query display.sourceMode)
          ⟨hlooked, ?_, ?_⟩
        · rintro _ ⟨⟩
        · rintro _ _ ⟨⟩
      | jar path =>
        refine (names_of_archiveMatches_iff query display.sourceMode hexists).trans ?_
        exact ⟨fun h => ⟨hlooked, fun _ _ => h.1, fun _ file _ => h.2 file⟩,
          fun h => ⟨h.answer path rfl, fun file => h.archive path file rfl⟩⟩

/-- An element that is missing gives no matches and does not fail. -/
theorem scan_of_missing {fs : FileSystem} {query : Query} {display : Display} {element : Element}
    (h : fs.exists? (element.container display.sourceMode) = .ok false) :
    (element.scan fs query display).filterMap Event.match? = .empty := by
  rw [filterMap_scan, hits, h]

end ClassLocator.Element

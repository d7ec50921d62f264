import ClassLocator.Proofs.Runtime.Catalog
import ClassLocator.Proofs.Search.Delivery

/-!
# What a search comes upon

Not every match can be found, and not every fault can end a scan. Only matches in archives have
the name of a member, and only in source mode a match has a source. What ends the stream of events
is a container that cannot be scanned, or a cause that nobody takes up.

## Main definitions

* `Match.IsSound`, `Event.IsSound`, `Fault.IsScan`
* `Event.IsScanned`: what comes from an element, which starts no command.

## Main statements

* `eventStream_only`: all that the stream of events gives.
-/

namespace ClassLocator

structure Match.IsSound (sourceMode : Bool) (found : Match) : Prop where
  archive : found.kind = .archive → found.memberName = some found.package
  elsewhere : found.kind ≠ .archive → found.memberName = none
  source : found.source ≠ none → sourceMode = true ∧ found.kind ≠ .runtime

theorem Match.IsSound.source_eq_none {found : Match} (h : found.IsSound false) :
    found.source = none := by
  cases hsource : found.source with
  | none => rfl
  | some _ => exact absurd (h.source (hsource ▸ nofun)).1 Bool.false_ne_true

def Event.IsSound (sourceMode : Bool) : Event → Prop
  | .notice given => given.IsPlain
  | .hit found => found.IsSound sourceMode

theorem Event.IsSound.match_isSound {sourceMode : Bool} {event : Event} {found : Match}
    (h : event.IsSound sourceMode) (hmatch : event.match? = some found) :
    found.IsSound sourceMode := by
  cases event with
  | notice given => cases hmatch
  | hit other =>
    cases hmatch
    exact h

/-- What the scan of an element gives: a record, and no command, or a match. -/
def Event.IsScanned (sourceMode : Bool) : Event → Prop
  | .notice (.record entry) => entry.level = .debug ∨ entry.level = .warning
  | .notice (.started _) => False
  | .hit found => found.IsSound sourceMode

theorem Event.IsScanned.isSound {sourceMode : Bool} {event : Event}
    (h : event.IsScanned sourceMode) : event.IsSound sourceMode := by
  rcases event with ⟨entry | command⟩ | found
  · exact h
  · exact h.elim
  · exact h

/-- A fault that can end the scan of an element. -/
def Fault.IsScan : Fault → Prop
  | .directoryScan .. | .archiveScan .. | .bare _ => True
  | _ => False

variable {sourceMode : Bool}

theorem LoadedClass.toMatch_isSound (found : LoadedClass) :
    found.toMatch.IsSound sourceMode where
  archive := by rintro ⟨⟩
  elsewhere _ := rfl
  source h := absurd rfl h

theorem fileMatch_isSound (root : Path) (file : FoundFile) :
    (fileMatch root sourceMode file).IsSound sourceMode where
  archive := by rintro ⟨⟩
  elsewhere _ := rfl
  source h := by
    refine ⟨?_, nofun⟩
    cases sourceMode with
    | true => rfl
    | false => exact absurd rfl h

theorem memberMatch_isSound (archive : Archive) (container : Path) (first : Bool)
    (member : Archive.Member) :
    (memberMatch archive container sourceMode first member).IsSound sourceMode where
  archive _ := rfl
  elsewhere h := absurd rfl h
  source h := by
    refine ⟨?_, nofun⟩
    cases sourceMode with
    | true => rfl
    | false => exact absurd rfl h

theorem memberMatches_isSound (archive : Archive) (container : Path) (query : Query) (first : Bool)
    (members : List Archive.Member) :
    ∀ found ∈ memberMatches archive container query sourceMode first members,
      found.IsSound sourceMode := by
  induction members generalizing first with
  | nil => exact fun _ hmem => absurd hmem List.not_mem_nil
  | cons member rest ih =>
    unfold memberMatches
    split
    · exact List.forall_mem_cons.2 ⟨memberMatch_isSound archive container first member, ih false⟩
    · exact ih first

section

variable (fs : FileSystem) (query : Query)

theorem directoryMatches_only (root : Path) :
    (directoryMatches fs root query sourceMode).Only (·.IsSound sourceMode) fun _ => True := by
  refine ⟨fun found hmem => ?_, fun _ _ => trivial⟩
  obtain ⟨file, -, hmatch⟩ := List.mem_filterMap.1 hmem
  unfold fileMatch? at hmatch
  split at hmatch
  · cases hmatch
    exact fileMatch_isSound root file
  · cases hmatch

theorem archiveMatches_only (container : Path) :
    (archiveMatches fs container query sourceMode).Only (·.IsSound sourceMode) fun _ => True := by
  unfold archiveMatches
  split
  case h_1 archive _ => exact .ofList (memberMatches_isSound archive container query true _)
  case h_2 => exact .fail trivial

theorem directoryFault_isScan (path : Path) (cause : Cause) :
    (directoryFault path cause).IsScan := by
  unfold directoryFault
  split <;> trivial

theorem archiveFault_isScan (path : Path) (cause : Cause) : (archiveFault path cause).IsScan := by
  unfold archiveFault
  split <;> trivial

theorem notice_debug_only (message : Text) :
    (notices [.debug message]).Only (Event.IsScanned sourceMode) Fault.IsScan :=
  .ofList (List.forall_mem_singleton.2 (.inl rfl))

theorem notice_warning_only (message : Text) :
    (notices [.warning message]).Only (Event.IsScanned sourceMode) Fault.IsScan :=
  .ofList (List.forall_mem_singleton.2 (.inr rfl))

theorem ifExists_only {container : Path} {present absent : Feed Fault Event}
    (hpresent : present.Only (Event.IsScanned sourceMode) Fault.IsScan)
    (habsent : absent.Only (Event.IsScanned sourceMode) Fault.IsScan) :
    (ifExists fs container present absent).Only (Event.IsScanned sourceMode) Fault.IsScan := by
  unfold ifExists
  split
  · exact hpresent
  · exact habsent
  · exact .fail trivial

end

variable (fs : FileSystem) (query : Query) (display : Display)

theorem hits_only {feed : Feed Cause Match} {toFault : Cause → Fault}
    (h : feed.Only (·.IsSound sourceMode) fun _ => True)
    (hfault : ∀ cause, (toFault cause).IsScan) :
    ((feed.map Event.hit).mapFailure toFault).Only (Event.IsScanned sourceMode) Fault.IsScan := by
  refine Feed.Only.mapFailure (Feed.Only.map h ?_) fun cause _ => hfault cause
  exact fun _ hsound => hsound

theorem scanArchive_only (container : Path) :
    (Element.scanArchive fs query display container).Only (Event.IsScanned display.sourceMode)
      Fault.IsScan :=
  hits_only (archiveMatches_only fs query container) (archiveFault_isScan container)

theorem scanDirectory_only (path : Path) :
    (Element.scanDirectory fs query display path).Only (Event.IsScanned display.sourceMode)
      Fault.IsScan :=
  ifExists_only fs (hits_only (directoryMatches_only fs query path) (directoryFault_isScan path))
    (notice_debug_only _)

theorem scanJar_only (path : Path) :
    (Element.scanJar fs query display path).Only (Event.IsScanned display.sourceMode)
      Fault.IsScan := by
  unfold Element.scanJar
  split
  · refine ifExists_only fs ?_ (notice_warning_only _)
    exact (notice_debug_only _).followedBy (scanArchive_only fs query display _)
  · exact ifExists_only fs (scanArchive_only fs query display path) (notice_debug_only _)

theorem scan_only (element : Element) :
    (element.scan fs query display).Only (Event.IsScanned display.sourceMode) Fault.IsScan := by
  refine (notice_debug_only _).followedBy ?_
  cases element with
  | directory path => exact scanDirectory_only fs query display path
  | jar path => exact scanJar_only fs query display path

/-- What comes behind the runtime in the stream of events. -/
theorem scans_only (elements : List Element) :
    (if display.runtimeOnly then .empty else
      .join (elements.map (Element.scan fs query display)) : Feed Fault Event).Only
      (Event.IsScanned display.sourceMode) Fault.IsScan := by
  split
  · exact .empty
  · refine .join fun feed hmem => ?_
    obtain ⟨element, -, rfl⟩ := List.mem_map.1 hmem
    exact scan_only fs query display element

/-- If the runtime gives its own classes only, then all matches of a search are sound, and nothing
but a scan ends its stream. -/
theorem eventStream_only {runtime : Feed Fault Event}
    (hruntime : runtime.Only Event.IsLoaded Fault.IsScan) (elements : List Element) :
    (eventStream fs query display runtime elements).Only (Event.IsSound display.sourceMode)
      Fault.IsScan := by
  have hsound : runtime.Only (Event.IsSound display.sourceMode) Fault.IsScan := by
    refine ⟨fun event hmem => ?_, hruntime.failure⟩
    have hloaded := hruntime.items event hmem
    cases event with
    | notice given => exact hloaded
    | hit found =>
      obtain ⟨loaded, rfl⟩ := hloaded
      exact loaded.toMatch_isSound
  refine hsound.followedBy ?_
  exact (scans_only fs query display elements).imp (fun _ h => h.isSound) fun _ h => h

end ClassLocator

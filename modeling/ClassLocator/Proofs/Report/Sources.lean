import ClassLocator.Proofs.Archive.Content
import ClassLocator.Proofs.ClassPath.Packing
import ClassLocator.Proofs.Search.Provenance
import ClassLocator.Proofs.Session.Setup

/-!
# How a source is reported

In source mode a report ends in one of two ways. The source is written as a whole and the search is
over, or the source cannot be read: then nothing of it has been written, and the fault names the
member of the archive or the file. The sources of files always settle like this. Those in archives
do unless their member derails; the cause is left bare then.

## Main definitions

* `Reporter.Settles`
* `Element.Derails`: the match is for a member that derails.

## Main statements

* `Reporter.writeSource_settles_iff`
-/

namespace ClassLocator

variable {σ : Type}

/-! ## Causes and faults -/

theorem sourceFault_of_isTakenUp {cause : Cause} (h : cause.IsTakenUp) (name : Text) :
    sourceFault name cause = .source name cause := by
  unfold sourceFault
  rcases h with h | h | h | h
  · rw [h]
  · rw [h]
  · rw [h]
  · rw [h]

theorem sourceFault_of_not_isTakenUp {cause : Cause} (h : ¬ cause.IsTakenUp) (name : Text) :
    sourceFault name cause = .bare cause := by
  unfold sourceFault
  split
  case h_1 hkind => exact absurd (.inl hkind) h
  case h_2 hkind => exact absurd (.inr (.inl hkind)) h
  case h_3 hkind => exact absurd (.inr (.inr (.inl hkind))) h
  case h_4 hkind => exact absurd (.inr (.inr (.inr hkind))) h
  case h_5 => rfl

theorem FoundFile.not_escapes_read (file : FoundFile) : ¬ Escapes Cause.IsTakenUp file.read := by
  unfold read
  rw [escapes_guard_iff (Cause.isTakenUp_system _ _)]
  rintro ⟨-, h⟩
  split at h
  · exact not_escapes_ok _ h
  · exact not_escapes_error (Cause.isTakenUp_system _ _) h

/-! ## Reports -/

namespace Reporter

variable (reporter : Reporter σ) {found : Match} {state : σ}

theorem writeSource_of_ok (hmode : reporter.display.sourceMode = true) {bytes : Bytes}
    (h : found.source = some (.ok bytes)) (state : σ) :
    (reporter.writeSource found).runFrom state =
      (.ok .stop, reporter.write (reporter.sourceBody found bytes) state) := by
  unfold writeSource
  rw [hmode, h]
  rfl

theorem writeSource_of_error (hmode : reporter.display.sourceMode = true) {cause : Cause}
    (h : found.source = some (.error cause)) (state : σ) :
    (reporter.writeSource found).runFrom state =
      (.error (sourceFault found.sourceName cause), state) := by
  unfold writeSource
  rw [hmode, h]
  rfl

/-- The source is written as a whole and ends the search, or it cannot be read. Then nothing is
written, and the fault names the member of the archive, or the file if there is none. -/
inductive Settles (found : Match) (state : σ) : Prop
  | written {bytes : Bytes} : found.source = some (.ok bytes) →
      (reporter.writeSource found).runFrom state =
        (.ok .stop, reporter.write (reporter.sourceBody found bytes) state) →
      Settles found state
  | refused {cause : Cause} : found.source = some (.error cause) →
      (reporter.writeSource found).runFrom state =
        (.error (.source (found.memberName.getD found.location) cause), state) →
      Settles found state

theorem settles_iff (hmode : reporter.display.sourceMode = true)
    (hname : found.sourceName = found.memberName.getD found.location)
    {answer : Except Cause Bytes} (hsource : found.source = some answer) :
    reporter.Settles found state ↔ ¬ Escapes Cause.IsTakenUp answer := by
  cases answer with
  | ok bytes =>
    exact iff_of_true (.written hsource (reporter.writeSource_of_ok hmode hsource state))
      (not_escapes_ok bytes)
  | error cause =>
    have hrun := reporter.writeSource_of_error hmode hsource state
    rw [escapes_error_iff, Decidable.not_not]
    constructor
    · rintro (⟨hother, -⟩ | ⟨-, hother⟩)
      · cases hsource.symm.trans hother
      · refine Classical.byContradiction fun hnot => ?_
        rw [sourceFault_of_not_isTakenUp hnot] at hrun
        cases hrun.symm.trans hother
    · intro htaken
      rw [sourceFault_of_isTakenUp htaken, hname] at hrun
      exact .refused hsource hrun

end Reporter

/-! ## Sources on the class path -/

namespace Element

variable {fs : FileSystem} {query : Query} {element : Element} {name : Text} {found : Match}

/-- The match is for a member of the archive of sources, and this member derails. -/
inductive Derails (fs : FileSystem) : Element → Match → Prop
  | member {jar container : Path} {archive : Archive} {member : Archive.Member} {first : Bool} :
      container = (Element.jar jar).container true →
      (fs.read container >>= Archive.ofFile fs.unpackers) = .ok archive → member ∈ archive.members →
      archive.Derails member →
      Derails fs (.jar jar) (memberMatch archive container true first member)

/-- A source that is found derails just when it cannot be read for a cause that is not taken up. -/
theorem Finds.escapes_iff (h : element.Finds fs query true name found)
    {answer : Except Cause Bytes} (hsource : found.source = some answer) :
    Escapes Cause.IsTakenUp answer ↔ element.Derails fs found := by
  cases h with
  | @file root file =>
    refine iff_of_false ?_ nofun
    change (if _ then some file.read else none) = some answer at hsource
    split at hsource
    · cases hsource
      exact file.not_escapes_read
    · cases hsource
  | @member jar container archive member first hcontainer hread hmem hselects =>
    cases hsource
    constructor
    · exact fun h => .member hcontainer hread hmem (Archive.content_derails_iff.1 h)
    · intro h
      generalize hmatch : memberMatch archive container true first member = found at h
      obtain @⟨_, other, counterpart, twin, _, hother, hreadOther, -, hderails⟩ := h
      -- The match tells what the member holds, though not which member it is for.
      have hcontent : archive.content member = counterpart.content twin :=
        Option.some.inj (congrArg Match.source hmatch)
      rw [hcontent]
      exact Archive.content_derails_iff.2 hderails

/-- What has a source has a name that is not empty. -/
theorem Finds.sourceName_eq (h : element.Finds fs query true name found)
    (hsource : found.source ≠ none) :
    found.sourceName = found.memberName.getD found.location := by
  obtain ⟨-, hname⟩ := h.of_source hsource
  cases h with
  | file => rfl
  | @member jar container archive member first =>
    unfold Match.sourceName
    cases hmember : member.name with
    | nil =>
      rw [hmember] at hname
      exact absurd (List.infix_nil.1 hname) (by decide)
    | cons c rest => simp only [memberMatch, hmember, Option.getD_some]

end Element

/-- A source that is found settles unless its member derails, and then the cause is left bare.
However it ends, nothing is written but a whole source. -/
theorem Reporter.writeSource_settles_iff (reporter : Reporter σ)
    (hmode : reporter.display.sourceMode = true) {fs : FileSystem} {query : Query}
    {element : Element} {name : Text} {found : Match}
    (hfinds : element.Finds fs query true name found) (hsource : found.source ≠ none)
    (state : σ) :
    (reporter.Settles found state ↔ ¬ element.Derails fs found) ∧
      (element.Derails fs found → ∃ cause,
        (reporter.writeSource found).runFrom state = (.error (.bare cause), state)) := by
  obtain ⟨answer, hanswer⟩ := Option.ne_none_iff_exists'.1 hsource
  rw [← hfinds.escapes_iff hanswer]
  refine ⟨reporter.settles_iff hmode (hfinds.sourceName_eq hsource) hanswer, ?_⟩
  rintro ⟨cause, rfl, hnot⟩
  have hrun := reporter.writeSource_of_error hmode hanswer state
  rw [sourceFault_of_not_isTakenUp hnot] at hrun
  exact ⟨cause, hrun⟩

/-! ## Sources of one archive -/

def sourceJar : Element := .jar (.parse "x.jar".toList)

/-- A file system with nothing but the archive of the sources of a jar. -/
def jarSources (bytes : Bytes) : FileSystem :=
  { top := [("x-sources.jar".toList, .file { bytes } false)], workingDirectory := [] }

theorem read_jarSources (bytes : Bytes) :
    (jarSources bytes).read (.parse "x-sources.jar".toList) = .ok bytes := by rfl

/-- The match for the only member of an archive. -/
def soleMatch (archive : Archive) (member : Archive.Member) : Match :=
  memberMatch archive (.parse "x-sources.jar".toList) true true member

theorem finds_soleMatch (archive : Archive) (member : Archive.Member) (query : Query)
    (hfile : Archive.ofFile {} archive.file = .ok archive) (hmembers : archive.members = [member])
    (hselects : query.selects true member.name = true) :
    sourceJar.Finds (jarSources archive.file) query true member.name
      (soleMatch archive member) := by
  refine .member (by decide +kernel) ?_ (by rw [hmembers]; exact List.mem_cons_self) hselects
  rw [read_jarSources]
  exact hfile

/-- A reporter that shows nothing but sources. -/
def sourceReporter : Reporter Text where
  display := { sourceMode := true }
  disassembler := []
  highlightSource := false
  highlighter := Highlight.library
  isTerminal := false
  write text before := before ++ text
  disassemble _ := return

def letterMember : Archive.Member := ⟨"a/Foo.java".toList, 0, 0, 0x4DBD0B28, 1, 1, 0, 0, 41⟩

theorem Reporter.writeSource_settles_iff_letter :
    let found := soleMatch letterArchive letterMember
    sourceReporter.display.sourceMode = true ∧
      sourceJar.Finds (jarSources letterBytes) ⟨"Foo".toList⟩ true letterMember.name found ∧
      found.source ≠ none ∧
      (sourceReporter.writeSource found).runFrom [] = (.ok .stop, ['F', '\n']) ∧
      ¬ sourceJar.Derails (jarSources letterBytes) found := by
  intro found
  have hfinds : sourceJar.Finds (jarSources letterBytes) ⟨"Foo".toList⟩ true letterMember.name
      found :=
    finds_soleMatch letterArchive letterMember _ ofFile_letterBytes rfl (by decide +kernel)
  have hsource : found.source = some (.ok [0x46]) := by with_unfolding_all rfl
  have hsome : found.source ≠ none := by rw [hsource]; nofun
  have hrun := sourceReporter.writeSource_of_ok rfl hsource []
  have hbody : sourceReporter.sourceBody found [0x46] = ['F', '\n'] := by decide +kernel
  refine ⟨rfl, hfinds, hsome, ?_, ?_⟩
  · rw [hrun, hbody]
    rfl
  · exact (Reporter.writeSource_settles_iff sourceReporter rfl hfinds hsome []).1.1
      (.written hsource hrun)

/-- The bytes of an archive with the source `Foo.java`: the upper half of the flags in its header,
its method, the size that it claims, its name in the header, and its data. The records of other
members follow its own. -/
def fooBytes (flags method size : UInt8) (name data records : Bytes) : Bytes :=
  let summary := List.replicate 8 0 ++ [size, 0, 0, 0, size, 0, 0, 0]
  let packed := [0x50, 0x4B, 3, 4, 20, 0, 0, flags, method, 0] ++ summary ++
    [UInt8.ofNat name.length, 0, 0, 0] ++ name ++ data
  packed ++ [0x50, 0x4B, 1, 2, 20, 0, 20, 0, 0, 0, method, 0] ++ summary ++ [8, 0] ++
    List.replicate 16 0 ++ Utf8.encode "Foo.java".toList ++ records ++
    [0x50, 0x4B, 5, 6, 0, 0, 0, 0, 1, 0, 1, 0, 54 + UInt8.ofNat records.length, 0, 0, 0,
      UInt8.ofNat packed.length, 0, 0, 0, 0, 0]

/-- The data begins a block of a kind that there is not. -/
def corruptBytes : Bytes := fooBytes 0 8 1 (Utf8.encode "Foo.java".toList) [0xFF] []

def corruptMember : Archive.Member := ⟨"Foo.java".toList, 0, 8, 0, 1, 1, 0, 0, 39⟩

def corruptArchive : Archive := ⟨corruptBytes, [corruptMember], {}⟩

/-- The name in the header is marked as UTF-8 and is not. -/
def misnamedBytes : Bytes := fooBytes 8 0 1 [0xFF] [0x46] []

/-- The member claims more bytes than there are in the file, and has room for them: the place of the
next member lies far behind the end. -/
def endingBytes : Bytes :=
  fooBytes 0 0 200 (Utf8.encode "Foo.java".toList) []
    ([0x50, 0x4B, 1, 2, 20, 0, 20, 0] ++ List.replicate 20 0 ++ [1, 0] ++ List.replicate 12 0 ++
      [0xFF, 0xFF, 0xFF, 0, 0x78])

/-- The data begins with properties of a filter that LZMA does not have; no library unpacks it. -/
def unfilteredBytes : Bytes :=
  fooBytes 0 14 10 (Utf8.encode "Foo.java".toList) [9, 4, 5, 0, 0xFF, 0xFF, 0xFF, 0xFF, 0xFF, 0] []

/-- A run that looks for the source in this archive. -/
def sourceRun (bytes : Bytes) : Session :=
  Session.run (.ofClassPath "x.jar".toList (jarSources bytes).top)
    { arguments := ["-s".toList, "Foo".toList] }

/-- The sources do not settle, and each of the causes breaks off a run. -/
theorem Reporter.writeSource_of_derailing_members :
    let found := soleMatch corruptArchive corruptMember
    sourceJar.Finds (jarSources corruptBytes) ⟨"Foo".toList⟩ true corruptMember.name found ∧
      found.source = some (.error .corruptStream) ∧
      (sourceReporter.writeSource found).runFrom [] = (.error (.bare .corruptStream), []) ∧
      ¬ sourceReporter.Settles found [] ∧
      (sourceRun corruptBytes).output =
        "Path: x-sources.jar\n    Package: Foo.java\n".toList ∧
      (sourceRun corruptBytes).ending = .broken (.bare .corruptStream) ∧
      (sourceRun misnamedBytes).ending = .broken (.bare .undecodableName) ∧
      (sourceRun endingBytes).ending = .broken (.bare .missingData) ∧
      (sourceRun unfilteredBytes).ending = .broken (.bare .corruptFilter) := by
  intro found
  have hfile : Archive.ofFile {} corruptBytes = .ok corruptArchive := by with_unfolding_all rfl
  have hfinds : sourceJar.Finds (jarSources corruptBytes) ⟨"Foo".toList⟩ true corruptMember.name
      found := finds_soleMatch corruptArchive corruptMember _ hfile rfl (by decide +kernel)
  have hsource : found.source = some (.error .corruptStream) := by with_unfolding_all rfl
  have hrun : (sourceReporter.writeSource found).runFrom [] =
      (.error (.bare .corruptStream), []) :=
    sourceReporter.writeSource_of_error rfl hsource []
  have hname := hfinds.sourceName_eq (by rw [hsource]; nofun)
  have hnot : ¬ sourceReporter.Settles found [] := fun hsettles =>
    (sourceReporter.settles_iff rfl hname hsource).1 hsettles
      (escapes_error_iff.2 Cause.not_isTakenUp_corruptStream)
  refine ⟨hfinds, hsource, hrun, hnot, ?_, ?_, ?_, ?_, ?_⟩
  · decide +kernel
  · decide +kernel
  · decide +kernel
  · decide +kernel
  · decide +kernel

end ClassLocator

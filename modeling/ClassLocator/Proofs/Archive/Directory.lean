import ClassLocator.Archive.Directory
import Mathlib.Tactic.SplitIfs

/-!
# Archives that cannot be read

Whatever bytes a file holds, reading it as an archive finds it malformed, or comes upon a record
that is in order but asks for more than is understood: a later version of the format, or a name
that is marked as UTF-8 and is not. Only the first record that cannot be read counts.

## Main definitions

* `Escapes`: an answer is an error with none of the causes that are reckoned with.
* `Cause.BlamesFile`
* `Archive.RecordOverreaches`, `Archive.DirectoryOverreaches`, `Archive.Overreaches`

## Main statements

* `Archive.ofFile_overreaches_iff`: when a file cannot be read and is not malformed.
-/

namespace ClassLocator

/-- The cause lies with the file: it cannot be read, or it is malformed. -/
def Cause.BlamesFile (cause : Cause) : Prop := cause.kind = .system ∨ cause.kind = .malformed

theorem blamesFile_malformed (defect : ArchiveDefect) : (Cause.malformed defect).BlamesFile :=
  .inr rfl

theorem not_blamesFile_unsupported (feature : ArchiveFeature) :
    ¬ (Cause.unsupported feature).BlamesFile := by
  rintro (h | h)
  · cases h
  · cases h

theorem not_blamesFile_unanswered : ¬ Cause.unanswered.BlamesFile := by
  rintro (h | h)
  · cases h
  · cases h

theorem not_blamesFile_undecodableName : ¬ Cause.undecodableName.BlamesFile := by
  rintro (h | h)
  · cases h
  · cases h

/-! ## Causes that are not reckoned with -/

theorem bind_eq_error_iff {α β : Type} {answer : Except Cause α} {next : α → Except Cause β}
    {cause : Cause} :
    answer >>= next = .error cause ↔
      answer = .error cause ∨ ∃ value, answer = .ok value ∧ next value = .error cause := by
  cases answer with
  | error other => simp [bind, Except.bind]
  | ok value => simp [bind, Except.bind]

/-- The answer is an error, and its cause is not one of these. -/
def Escapes {α : Type} (expected : Cause → Prop) (answer : Except Cause α) : Prop :=
  ∃ cause, answer = .error cause ∧ ¬ expected cause

section

variable {α β : Type} {expected : Cause → Prop} {answer : Except Cause α} {cause : Cause}

theorem not_escapes_ok (value : α) : ¬ Escapes expected (.ok value : Except Cause α) := by
  rintro ⟨_, ⟨⟩, -⟩

theorem escapes_error_iff :
    Escapes expected (.error cause : Except Cause α) ↔ ¬ expected cause := by
  constructor
  · rintro ⟨_, ⟨⟩, hnot⟩
    exact hnot
  · exact fun hnot => ⟨cause, rfl, hnot⟩

theorem not_escapes_error (h : expected cause) :
    ¬ Escapes expected (.error cause : Except Cause α) := fun hescapes =>
  escapes_error_iff.1 hescapes h

/-- The first of two steps escapes, or the second one does with what the first one gives. -/
theorem escapes_bind_iff {next : α → Except Cause β} :
    Escapes expected (answer >>= next) ↔
      Escapes expected answer ∨ ∃ value, answer = .ok value ∧ Escapes expected (next value) := by
  cases answer with
  | error cause =>
    change Escapes expected (.error cause) ↔ _
    rw [escapes_error_iff, escapes_error_iff]
    exact (or_iff_left (by rintro ⟨_, ⟨⟩, -⟩)).symm
  | ok value =>
    change Escapes expected (next value) ↔ _
    constructor
    · exact fun h => .inr ⟨value, rfl, h⟩
    · rintro (h | ⟨_, ⟨⟩, h⟩)
      · exact absurd h (not_escapes_ok value)
      · exact h

theorem escapes_map_iff {f : α → β} :
    Escapes expected (answer.map f) ↔ Escapes expected answer := by
  cases answer with
  | error cause => exact escapes_error_iff.trans escapes_error_iff.symm
  | ok value => exact iff_of_false (not_escapes_ok (f value)) (not_escapes_ok value)

/-- A check with an expected cause lets only what comes after it escape. -/
theorem escapes_guard_iff {p : Prop} [Decidable p] {next : Except Cause α} (h : expected cause) :
    Escapes expected (if p then .error cause else next) ↔ ¬ p ∧ Escapes expected next := by
  by_cases hp : p
  · rw [if_pos hp]
    exact iff_of_false (not_escapes_error h) fun hboth => hboth.1 hp
  · rw [if_neg hp]
    exact (and_iff_right hp).symm

end

namespace Archive

variable {directory file : Bytes}

/-! ## Records -/

/-- The name of a member in the record at the front. -/
def recordName (directory : Bytes) : Bytes :=
  (directory.drop recordSize).take (field directory 28 2)

/-- The record at the front is there and asks for more than is understood. -/
structure RecordOverreaches (directory : Bytes) : Prop where
  complete : recordSize ≤ directory.length
  signed : directory.take 4 = recordSignature
  asks : ((field directory 8 2).testBit 11 = true ∧ Utf8.decode? (recordName directory) = none) ∨
    latestVersion < field directory 6 1

theorem kind_of_takeNumber {number : WideNumber} {isWide : Bool} {given : Nat} {data : Bytes}
    {cause : Cause} (h : takeNumber number isWide given data = .error cause) :
    cause.kind = .malformed := by
  unfold takeNumber at h
  split_ifs at h
  cases h
  rfl

theorem kind_of_widen {member : Member} {data : Bytes} {cause : Cause}
    (h : widen member data = .error cause) : cause.kind = .malformed := by
  unfold widen at h
  obtain h | ⟨⟨size, afterSize⟩, -, h⟩ := bind_eq_error_iff.1 h
  · exact kind_of_takeNumber h
  obtain h | ⟨⟨packedSize, afterPacked⟩, -, h⟩ := bind_eq_error_iff.1 h
  · exact kind_of_takeNumber h
  obtain h | ⟨⟨place, rest⟩, -, h⟩ := bind_eq_error_iff.1 h
  · exact kind_of_takeNumber h
  · cases h

theorem kind_of_readExtra (extra : Bytes) (member : Member) {cause : Cause}
    (h : readExtra extra member = .error cause) : cause.kind = .malformed := by
  fun_induction readExtra extra member with
  | case1 extra member _ identifier size =>
    cases h
    rfl
  | case2 extra member _ identifier size _ _ ih =>
    obtain h | ⟨wide, -, h⟩ := bind_eq_error_iff.1 h
    · exact kind_of_widen h
    · exact ih wide h
  | case3 extra member _ identifier size _ _ ih => exact ih h
  | case4 => cases h

/-- A name cannot be decoded only if it is marked as UTF-8 and is not. -/
theorem decodeName_eq_error_iff {flags : Nat} {name : Bytes} {cause : Cause} :
    decodeName flags name = .error cause ↔
      flags.testBit 11 = true ∧ Utf8.decode? name = none ∧ cause = .undecodableName := by
  unfold decodeName
  by_cases hmarked : flags.testBit 11 = true
  · cases hdecode : Utf8.decode? name with
    | none => simp [hmarked, eq_comm]
    | some text => simp [hmarked]
  · simp [hmarked]

theorem decodeName_escapes_iff {expected : Cause → Prop} (h : ¬ expected .undecodableName)
    {flags : Nat} {name : Bytes} :
    Escapes expected (decodeName flags name) ↔
      flags.testBit 11 = true ∧ Utf8.decode? name = none := by
  constructor
  · rintro ⟨cause, hcause, -⟩
    obtain ⟨hmarked, hbroken, -⟩ := decodeName_eq_error_iff.1 hcause
    exact ⟨hmarked, hbroken⟩
  · rintro ⟨hmarked, hbroken⟩
    exact ⟨_, decodeName_eq_error_iff.2 ⟨hmarked, hbroken, rfl⟩, h⟩

/-- The extra field of the record at the front. -/
def recordExtra (directory : Bytes) : Bytes :=
  (directory.drop (recordSize + field directory 28 2)).take (field directory 30 2)

/-- The member that the record at the front describes, with the name that it is decoded to. -/
def recordMember (directory : Bytes) (fullName : Text) : Member where
  fullName
  flags := field directory 8 2
  method := field directory 10 2
  checksum := field directory 16 4
  packedSize := field directory 20 4
  size := field directory 24 4
  attributes := field directory 38 4
  place := field directory 42 4
  limit := 0

/-- What is read of a record once its name is known. -/
def readNamed (directory : Bytes) (fullName : Text) : Except Cause Member :=
  if latestVersion < field directory 6 1 then
    .error (.unsupported (.version (field directory 6 1)))
  else readExtra (recordExtra directory) (recordMember directory fullName)

theorem readRecord_eq (directory : Bytes) :
    readRecord directory =
      if directory.length < recordSize then .error (.malformed .truncatedDirectory)
      else if directory.take 4 ≠ recordSignature then .error (.malformed .badDirectorySignature)
      else decodeName (field directory 8 2) (recordName directory) >>= readNamed directory := by
  unfold readRecord readNamed
  simp only [bind, Except.bind, throw, throwThe, MonadExceptOf.throw]
  rfl

theorem readNamed_escapes_iff {fullName : Text} :
    Escapes Cause.BlamesFile (readNamed directory fullName) ↔
      latestVersion < field directory 6 1 := by
  unfold readNamed
  split
  case isTrue hlater => exact iff_of_true ⟨_, rfl, not_blamesFile_unsupported _⟩ hlater
  case isFalse hknown =>
    refine iff_of_false ?_ hknown
    rintro ⟨cause, hcause, hnot⟩
    exact hnot (.inr (kind_of_readExtra _ _ hcause))

theorem readRecord_overreaches_iff :
    Escapes Cause.BlamesFile (readRecord directory) ↔ RecordOverreaches directory := by
  rw [readRecord_eq, escapes_guard_iff (blamesFile_malformed _),
    escapes_guard_iff (blamesFile_malformed _), escapes_bind_iff,
    decodeName_escapes_iff not_blamesFile_undecodableName]
  simp only [readNamed_escapes_iff, exists_and_right]
  constructor
  · rintro ⟨hcomplete, hsigned, hname | ⟨-, hlater⟩⟩
    · exact ⟨Nat.not_lt.1 hcomplete, Decidable.not_not.1 hsigned, .inl hname⟩
    · exact ⟨Nat.not_lt.1 hcomplete, Decidable.not_not.1 hsigned, .inr hlater⟩
  · rintro ⟨hcomplete, hsigned, hasks⟩
    refine ⟨Nat.not_lt.2 hcomplete, not_not_intro hsigned, ?_⟩
    -- The name counts before the version does.
    cases hname : decodeName (field directory 8 2) (recordName directory) with
    | error cause =>
      obtain ⟨hmarked, hbroken, -⟩ := decodeName_eq_error_iff.1 hname
      exact .inl ⟨hmarked, hbroken⟩
    | ok fullName => exact hasks.imp_right fun hlater => ⟨⟨fullName, rfl⟩, hlater⟩

/-! ## Directories -/

/-- All records can be read up to one that asks for more than is understood. -/
inductive DirectoryOverreaches : Bytes → Prop
  | here {directory : Bytes} : RecordOverreaches directory → DirectoryOverreaches directory
  | later {directory : Bytes} {member : Member} : readRecord directory = .ok member →
      DirectoryOverreaches (directory.drop (claimedSize directory)) →
      DirectoryOverreaches directory

theorem not_directoryOverreaches_nil : ¬ DirectoryOverreaches [] := by
  rintro (⟨hcomplete, -, -⟩ | ⟨hread, -⟩)
  · exact absurd hcomplete (by decide)
  · cases hread

theorem readRecords_of_ne_nil (hne : directory ≠ []) :
    readRecords directory = readRecord directory >>= fun member =>
      (readRecords (directory.drop (claimedSize directory))).map (member :: ·) := by
  rw [readRecords, if_neg hne]
  exact congrArg (readRecord directory >>= ·) (funext fun member => bind_pure_comp (member :: ·) _)

theorem readRecords_overreaches_iff :
    Escapes Cause.BlamesFile (readRecords directory) ↔ DirectoryOverreaches directory := by
  -- Along the records, as they are read: what is left behind one is shorter.
  induction directory using readRecords.induct with
  | case1 =>
    rw [readRecords]
    exact iff_of_false (not_escapes_ok []) not_directoryOverreaches_nil
  | case2 directory hne ih =>
    rw [readRecords_of_ne_nil hne, escapes_bind_iff, readRecord_overreaches_iff]
    simp only [escapes_map_iff, ih]
    constructor
    · rintro (hhere | ⟨member, hread, hlater⟩)
      · exact .here hhere
      · exact .later hread hlater
    · rintro (hhere | ⟨hread, hlater⟩)
      · exact .inl hhere
      · exact .inr ⟨_, hread, hlater⟩

/-! ## Files -/

/-- The end records are malformed or they can be read. -/
theorem kind_of_readEnd {place : Nat} {cause : Cause} (h : readEnd file place = .error cause) :
    cause.kind = .malformed := by
  unfold readEnd at h
  dsimp only at h
  split_ifs at h <;> cases h <;> rfl

/-- The directory that lies in front of the end record. -/
def directoryBefore (file : Bytes) (record : EndRecord) : Bytes :=
  (file.drop (record.place - record.size)).take record.size

/-- The end record points at a directory that asks for more than is understood. -/
def Overreaches (file : Bytes) : Prop :=
  ∃ place record, endPlace? file = some place ∧ readEnd file place = .ok record ∧
    record.size ≤ record.place ∧ DirectoryOverreaches (directoryBefore file record)

variable {unpackers : Unpackers}

theorem ofFile_of_none (h : endPlace? file = none) :
    ofFile unpackers file = .error (.malformed .notArchive) := by
  rw [ofFile, h]
  rfl

/-- What is read of a file whose directory ends at this record: the directory, if it has room. -/
def readBefore (unpackers : Unpackers) (file : Bytes) (record : EndRecord) : Except Cause Archive :=
  if record.place < record.size then .error (.malformed .badDirectoryOffset)
  else (readRecords (directoryBefore file record)).map fun members =>
    let start : Int := record.place - record.size
    ⟨file, settle start (start - record.start) members, unpackers⟩

theorem ofFile_of_some {place : Nat} (h : endPlace? file = some place) :
    ofFile unpackers file = readEnd file place >>= readBefore unpackers file := by
  rw [ofFile, h]
  refine congrArg (readEnd file place >>= ·) (funext fun record => ?_)
  have hdirectory : directoryBefore file record =
      (file.drop ((record.place : Int) - record.size).toNat).take record.size := by
    rw [Int.toNat_sub]
    rfl
  unfold readBefore
  rw [hdirectory]
  by_cases hsize : record.place < record.size
  · have hstart : (record.place : Int) - record.size < 0 := by omega
    rw [if_pos hsize]
    exact if_pos hstart
  · have hstart : ¬ (record.place : Int) - record.size < 0 := by omega
    rw [if_neg hsize]
    exact (if_neg hstart).trans (bind_pure_comp _ _)

theorem readBefore_overreaches_iff {record : EndRecord} :
    Escapes Cause.BlamesFile (readBefore unpackers file record) ↔
      record.size ≤ record.place ∧ DirectoryOverreaches (directoryBefore file record) := by
  rw [readBefore, escapes_guard_iff (blamesFile_malformed _), escapes_map_iff,
    readRecords_overreaches_iff, Nat.not_lt]

/-- A file that cannot be read as an archive is malformed, or asks for more than is understood. -/
theorem ofFile_overreaches_iff :
    Escapes Cause.BlamesFile (ofFile unpackers file) ↔ Overreaches file := by
  cases hplace : endPlace? file with
  | none =>
    rw [ofFile_of_none hplace]
    refine iff_of_false (not_escapes_error (blamesFile_malformed _)) ?_
    rintro ⟨place, _, hsome, -⟩
    cases hplace.symm.trans hsome
  | some place =>
    have hend : ¬ Escapes Cause.BlamesFile (readEnd file place) := by
      rintro ⟨cause, hcause, hnot⟩
      exact hnot (.inr (kind_of_readEnd hcause))
    rw [ofFile_of_some hplace, escapes_bind_iff, or_iff_right hend]
    simp only [readBefore_overreaches_iff]
    constructor
    · rintro ⟨record, hrecord, hsize, hdirectory⟩
      exact ⟨place, record, hplace, hrecord, hsize, hdirectory⟩
    · rintro ⟨other, record, hother, hrecord, hsize, hdirectory⟩
      cases hplace.symm.trans hother
      exact ⟨record, hrecord, hsize, hdirectory⟩

end Archive

end ClassLocator

import ClassLocator.Archive.Content
import ClassLocator.Proofs.Archive.Directory

/-!
# Members that cannot be read

Most of what can be wrong with a member of an archive belongs to one of four kinds of causes that a
report takes up. Some things do not: the place of the header cannot be asked for at all, the name in
front of the data is marked as UTF-8 and is not, the data is not packed as its method says, unless
that is bzip2, or it ends before the member does. When one of them comes up before anything else
does, the member *derails*.

What the libraries for bzip2 and LZMA make of data is left open; all of this holds of any libraries.

## Main definitions

* `Cause.IsTakenUp`
* `Archive.HeaderInOrder`, `Archive.IsBroken`, `Archive.Derails`

## Main statements

* `Archive.content_derails_iff`: when reading a member ends with a cause that is not taken up.
-/

namespace ClassLocator

/-- A source counts as one that cannot be read for causes of these kinds. -/
def Cause.IsTakenUp (cause : Cause) : Prop :=
  cause.kind = .system ∨ cause.kind = .malformed ∨ cause.kind = .refused ∨
    cause.kind = .unsupported

instance (cause : Cause) : Decidable cause.IsTakenUp :=
  inferInstanceAs (Decidable (_ ∨ _ ∨ _ ∨ _))

namespace Cause

theorem isTakenUp_system (errno : Errno) (path : Option Text) : (system errno path).IsTakenUp :=
  .inl rfl

theorem isTakenUp_malformed (defect : ArchiveDefect) : (malformed defect).IsTakenUp :=
  .inr (.inl rfl)

theorem isTakenUp_encrypted (member : Text) : (encrypted member).IsTakenUp :=
  .inr (.inr (.inl rfl))

theorem isTakenUp_unsupported (feature : ArchiveFeature) : (unsupported feature).IsTakenUp :=
  .inr (.inr (.inr rfl))

theorem not_isTakenUp_undecodableName : ¬ undecodableName.IsTakenUp := by decide

theorem not_isTakenUp_placeOutOfRange : ¬ placeOutOfRange.IsTakenUp := by decide

theorem not_isTakenUp_corruptStream : ¬ corruptStream.IsTakenUp := by decide

theorem not_isTakenUp_missingData : ¬ missingData.IsTakenUp := by decide

end Cause

namespace Archive

/-! ## Headers -/

variable {archive : Archive} {member : Member}

/-- The header in front of a member's data up to its name, as far as the file goes. -/
def headerOf (archive : Archive) (member : Member) : Bytes :=
  (archive.file.drop member.place.toNat).take headerSize

/-- The name of a member in its header. -/
def headerName (archive : Archive) (member : Member) : Bytes :=
  (archive.file.drop (member.place.toNat + headerSize)).take
    (field (archive.headerOf member) 26 2)

/-- The place of the header is none that can be asked for, not even in vain. -/
def Member.IsOutOfRange (member : Member) : Prop :=
  member.place < -placeLimit ∨ placeLimit ≤ member.place

instance (member : Member) : Decidable member.IsOutOfRange :=
  inferInstanceAs (Decidable (_ ∨ _))

/-- The header of the member is there, and asks for nothing that is not understood. -/
structure HeaderInOrder (archive : Archive) (member : Member) : Prop where
  placed : 0 ≤ member.place
  inRange : ¬ member.IsOutOfRange
  complete : headerSize ≤ (archive.headerOf member).length
  signed : (archive.headerOf member).take 4 = headerSignature
  unpatched : member.flags.testBit 5 = false
  plain : member.flags.testBit 6 = false

/-- The place of the data, once the name in the header is known. -/
def dataBehind (archive : Archive) (member : Member) (name : Text) : Except Cause Nat :=
  let header := archive.headerOf member
  let written := archive.headerName member
  if name ≠ member.fullName then .error (.malformed (.nameMismatch member.fullName written))
  else
    let start := member.place.toNat + headerSize + written.length
    let place := start + ((archive.file.drop start).take (field header 28 2)).length
    if (place + member.packedSize : Int) > member.limit then
      .error (.malformed (.overlap member.fullName))
    else .ok place

theorem dataPlace_eq (archive : Archive) (member : Member) :
    archive.dataPlace member =
      let header := archive.headerOf member
      if member.IsOutOfRange then .error .placeOutOfRange
      else if member.place < 0 then .error (.system .invalidArgument none)
      else if header.length < headerSize then .error (.malformed .truncatedHeader)
      else if header.take 4 ≠ headerSignature then .error (.malformed .badHeaderSignature)
      else if member.flags.testBit 5 then .error (.unsupported .patchedData)
      else if member.flags.testBit 6 then .error (.unsupported .strongEncryption)
      else
        decodeName (field header 6 2) (archive.headerName member) >>=
          archive.dataBehind member := by
  unfold dataPlace
  simp only [bind, Except.bind, throw, throwThe, MonadExceptOf.throw, pure, Except.pure]
  rfl

theorem not_escapes_dataBehind (name : Text) :
    ¬ Escapes Cause.IsTakenUp (archive.dataBehind member name) := by
  unfold dataBehind
  dsimp only
  rw [escapes_guard_iff (Cause.isTakenUp_malformed _),
    escapes_guard_iff (Cause.isTakenUp_malformed _)]
  exact fun h => not_escapes_ok _ h.2.2

/-- On the way to the data only the place of the header and the name in it give causes that are not
taken up. -/
theorem dataPlace_escapes_iff :
    Escapes Cause.IsTakenUp (archive.dataPlace member) ↔ member.IsOutOfRange ∨
      archive.HeaderInOrder member ∧
        (field (archive.headerOf member) 6 2).testBit 11 = true ∧
          Utf8.decode? (archive.headerName member) = none := by
  rw [dataPlace_eq]
  dsimp only
  by_cases hrange : member.IsOutOfRange
  · rw [if_pos hrange]
    exact iff_of_true ⟨_, rfl, Cause.not_isTakenUp_placeOutOfRange⟩ (.inl hrange)
  rw [if_neg hrange, or_iff_right hrange, escapes_guard_iff (Cause.isTakenUp_system _ _),
    escapes_guard_iff (Cause.isTakenUp_malformed _),
    escapes_guard_iff (Cause.isTakenUp_malformed _),
    escapes_guard_iff (Cause.isTakenUp_unsupported _),
    escapes_guard_iff (Cause.isTakenUp_unsupported _), escapes_bind_iff,
    decodeName_escapes_iff Cause.not_isTakenUp_undecodableName,
    or_iff_left (fun ⟨_, _, h⟩ => not_escapes_dataBehind _ h)]
  constructor
  · rintro ⟨hplaced, hcomplete, hsigned, hunpatched, hplain, hname⟩
    exact ⟨⟨Int.not_lt.1 hplaced, hrange, Nat.not_lt.1 hcomplete, Decidable.not_not.1 hsigned,
      Bool.not_eq_true _ ▸ hunpatched, Bool.not_eq_true _ ▸ hplain⟩, hname⟩
  · rintro ⟨⟨hplaced, -, hcomplete, hsigned, hunpatched, hplain⟩, hname⟩
    exact ⟨Int.not_lt.2 hplaced, Nat.not_lt.2 hcomplete, not_not_intro hsigned,
      Bool.not_eq_true _ ▸ hunpatched, Bool.not_eq_true _ ▸ hplain, hname⟩

/-! ## Data -/

/-- That data is corrupt is taken up for bzip2 alone. -/
theorem Method.isTakenUp_corruption_iff {method : Method} :
    method.corruption.IsTakenUp ↔ method = .bzip2 := by
  cases method <;> decide

/-- The data of a member does not give its bytes: there is none at all, it is not packed by the
method, which is not bzip2, or it ends too early in its file and holds too little. -/
inductive IsBroken (unpackers : Unpackers) (method : Method) (packedSize size : Nat)
    (data : Bytes) : Prop
  | missing : data = [] → packedSize ≠ 0 → IsBroken unpackers method packedSize size data
  | corrupt : method.expand? unpackers data = none → method ≠ .bzip2 →
      IsBroken unpackers method packedSize size data
  | short {expanded : Unpacked} : method.expand? unpackers data = some expanded →
      expanded.isComplete = false → data.length ≠ packedSize → expanded.output.length < size →
      IsBroken unpackers method packedSize size data

variable {unpackers : Unpackers}

theorem unpack_eq (unpackers : Unpackers) (method : Method) (packedSize size : Nat)
    (data : Bytes) :
    unpack unpackers method packedSize size data =
      if data = [] ∧ packedSize ≠ 0 then .error .missingData
      else
        match method.expand? unpackers data with
        | none => .error method.corruption
        | some expanded =>
          if expanded.isComplete ∨ data.length = packedSize ∨ size ≤ expanded.output.length then
            .ok (expanded.output.take size)
          else .error .missingData := by
  unfold unpack
  simp only [bind, Except.bind, throw, throwThe, MonadExceptOf.throw, pure, Except.pure]
  cases method.expand? unpackers data <;> rfl

theorem unpack_escapes_iff {method : Method} {packedSize size : Nat} {data : Bytes} :
    Escapes Cause.IsTakenUp (unpack unpackers method packedSize size data) ↔
      IsBroken unpackers method packedSize size data := by
  rw [unpack_eq]
  by_cases hmissing : data = [] ∧ packedSize ≠ 0
  · rw [if_pos hmissing]
    exact iff_of_true ⟨_, rfl, Cause.not_isTakenUp_missingData⟩ (.missing hmissing.1 hmissing.2)
  rw [if_neg hmissing]
  cases hexpand : method.expand? unpackers data with
  | none =>
    dsimp only
    rw [escapes_error_iff, Method.isTakenUp_corruption_iff]
    constructor
    · exact .corrupt hexpand
    · rintro (⟨hdata, hsize⟩ | ⟨-, hmethod⟩ | ⟨hother, -, -, -⟩)
      · exact absurd ⟨hdata, hsize⟩ hmissing
      · exact hmethod
      · cases hexpand.symm.trans hother
  | some expanded =>
    dsimp only
    by_cases henough : expanded.isComplete ∨ data.length = packedSize ∨
        size ≤ expanded.output.length
    · rw [if_pos henough]
      refine iff_of_false (not_escapes_ok _) ?_
      rintro (⟨hdata, hsize⟩ | ⟨hcorrupt, -⟩ | ⟨hother, hincomplete, hlength, hshort⟩)
      · exact hmissing ⟨hdata, hsize⟩
      · cases hexpand.symm.trans hcorrupt
      · cases hexpand.symm.trans hother
        rcases henough with hcomplete | hall | hlong
        · cases hcomplete.symm.trans hincomplete
        · exact hlength hall
        · exact Nat.not_le.2 hshort hlong
    · rw [if_neg henough]
      simp only [not_or, Bool.not_eq_true, Nat.not_le] at henough
      exact iff_of_true ⟨_, rfl, Cause.not_isTakenUp_missingData⟩
        (.short hexpand henough.1 henough.2.1 henough.2.2)

/-! ## Members -/

/-- The first thing that is wrong with the member is the place of its header, the name in it, which
is marked as UTF-8 and is not, or its data. -/
inductive Derails (archive : Archive) (member : Member) : Prop
  | place : member.IsOutOfRange → Derails archive member
  | name : archive.HeaderInOrder member →
      (field (archive.headerOf member) 6 2).testBit 11 = true →
      Utf8.decode? (archive.headerName member) = none → Derails archive member
  | data {place : Nat} {method : Method} : archive.dataPlace member = .ok place →
      member.flags.testBit 0 = false → Method.ofCode? member.method = some method →
      IsBroken archive.unpackers method member.packedSize member.size
        ((archive.file.drop place).take member.packedSize) → Derails archive member

/-- The bytes of a member whose data stands at this place. -/
def contentAt (archive : Archive) (member : Member) (place : Nat) : Except Cause Bytes :=
  if member.flags.testBit 0 then .error (.encrypted member.description)
  else
    match Method.ofCode? member.method with
    | none => .error (.unsupported .compressionMethod)
    | some method =>
      unpack archive.unpackers method member.packedSize member.size
          ((archive.file.drop place).take member.packedSize) >>= fun bytes =>
        if Checksum.crc32 bytes ≠ member.checksum then
          .error (.malformed (.badChecksum member.name))
        else .ok bytes

theorem content_eq (archive : Archive) (member : Member) :
    archive.content member = archive.dataPlace member >>= archive.contentAt member := by
  refine congrArg (archive.dataPlace member >>= ·) (funext fun place => ?_)
  unfold contentAt
  cases Method.ofCode? member.method with
  | none => rfl
  | some method => rfl

theorem contentAt_escapes_iff {place : Nat} :
    Escapes Cause.IsTakenUp (archive.contentAt member place) ↔ member.flags.testBit 0 = false ∧
      ∃ method, Method.ofCode? member.method = some method ∧
        IsBroken archive.unpackers method member.packedSize member.size
          ((archive.file.drop place).take member.packedSize) := by
  unfold contentAt
  rw [escapes_guard_iff (Cause.isTakenUp_encrypted _), Bool.not_eq_true]
  refine and_congr_right fun _ => ?_
  cases Method.ofCode? member.method with
  | none =>
    refine iff_of_false (not_escapes_error (Cause.isTakenUp_unsupported _)) ?_
    rintro ⟨_, ⟨⟩, -⟩
  | some method =>
    simp only [Option.some.injEq, exists_eq_left']
    rw [escapes_bind_iff, unpack_escapes_iff, or_iff_left]
    rintro ⟨bytes, -, hsum⟩
    rw [escapes_guard_iff (Cause.isTakenUp_malformed _)] at hsum
    exact not_escapes_ok _ hsum.2

/-- The members that cannot be read for a cause that is not taken up. -/
theorem content_derails_iff :
    Escapes Cause.IsTakenUp (archive.content member) ↔ archive.Derails member := by
  rw [content_eq, escapes_bind_iff, dataPlace_escapes_iff]
  constructor
  · rintro ((hrange | ⟨hheader, hmarked, hbroken⟩) | ⟨place, hplace, hcontent⟩)
    · exact .place hrange
    · exact .name hheader hmarked hbroken
    · obtain ⟨hopen, method, hmethod, hbroken⟩ := contentAt_escapes_iff.1 hcontent
      exact .data hplace hopen hmethod hbroken
  · rintro (hrange | ⟨hheader, hmarked, hbroken⟩ | ⟨hplace, hopen, hmethod, hbroken⟩)
    · exact .inl (.inl hrange)
    · exact .inl (.inr ⟨hheader, hmarked, hbroken⟩)
    · exact .inr ⟨_, hplace, contentAt_escapes_iff.2 ⟨hopen, _, hmethod, hbroken⟩⟩

end Archive

end ClassLocator

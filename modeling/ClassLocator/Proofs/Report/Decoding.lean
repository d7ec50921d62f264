import ClassLocator.Proofs.Report.Sources
import ClassLocator.Proofs.Text.Utf8
import ClassLocator.Proofs.Text.WrittenLines

/-!
# The text of a source

A source is tried to be read as UTF-8, as UTF-8 without its byte order mark and as Latin-1, in this
order. What can be read without its mark can be read with it as well, so the second attempt comes
too late, and the third one cannot fail. A source is read as UTF-8 if it is UTF-8 and as Latin-1 if
it is not, and a byte order mark is read as a character.

## Main definitions

* `SourceText.mark`: the bytes of a byte order mark.

## Main statements

* `SourceText.decodeMarked?_eq_none`: what the second attempt can read the first one has read.
* `SourceText.decode_in_two_steps`: the text of any bytes.
* `SourceText.decode_with_mark`: the text of a source with a byte order mark, and how it is shown.
-/

namespace ClassLocator

namespace SourceText

variable {bytes : Bytes} {text : Text}

/-! ## The attempts -/

/-- A byte order mark. -/
def mark : Bytes := [0xEF, 0xBB, 0xBF]

/-- The mark is the encoding of a character. -/
theorem encode_marked (text : Text) : Utf8.encode ('\uFEFF' :: text) = mark ++ Utf8.encode text :=
  rfl

theorem decodeMarked?_mark_append (bytes : Bytes) :
    decodeMarked? (mark ++ bytes) = Utf8.decode? bytes :=
  rfl

/-- What can be read without its mark can be read with it as well. -/
theorem decodeMarked?_eq_none (h : Utf8.decode? bytes = none) : decodeMarked? bytes = none := by
  unfold decodeMarked?
  split
  case h_1 rest =>
    cases hrest : Utf8.decode? rest with
    | none => rfl
    | some text =>
      have hwhole : Utf8.encode ('\uFEFF' :: text) = mark ++ rest := by
        rw [encode_marked, Utf8.decode?_eq_some_iff.1 hrest]
      have hread : Utf8.decode? (mark ++ rest) = some ('\uFEFF' :: text) :=
        Utf8.decode?_eq_some_iff.2 hwhole
      exact absurd (h.symm.trans hread) nofun
  case h_2 => exact h

theorem findSome?_encodings (bytes : Bytes) :
    encodings.findSome? (· bytes) =
      some ((Utf8.decode? bytes).getD (CodePage.latin1 bytes)) := by
  cases h : Utf8.decode? bytes with
  | some text => simp [encodings, h]
  | none => simp [encodings, h, decodeMarked?_eq_none h]

theorem decode_eq (bytes : Bytes) :
    decode bytes = (Utf8.decode? bytes).getD (CodePage.latin1 bytes) := by
  rw [decode, findSome?_encodings, Option.getD_some]

theorem decode_encode (text : Text) : decode (Utf8.encode text) = text := by
  rw [decode_eq, Utf8.decode?_encode, Option.getD_some]

theorem map_toNat_latin1 (bytes : Bytes) :
    (CodePage.latin1 bytes).map Char.toNat = bytes.map UInt8.toNat := by
  rw [CodePage.latin1, List.map_map]
  refine List.map_congr_left fun b _ => ?_
  have hlt : b.toNat < 0x100 := b.toNat_lt_size
  obtain ⟨c, hc⟩ := Utf8.exists_toNat_eq (n := b.toNat) (by omega)
  rw [Function.comp_apply, ← hc, Char.ofNat_toNat]

/-! ## The text of any bytes -/

/-- Bytes that are the UTF-8 of a text are read as this text. Any others are read as as many
characters, each of which has a byte as its code point. The attempt without a byte order mark
succeeds only where the first one has succeeded, and one attempt always does, so that nothing is
ever replaced. -/
theorem decode_in_two_steps (bytes : Bytes) :
    (∀ text, Utf8.encode text = bytes → decode bytes = text) ∧
    ((∀ text, Utf8.encode text ≠ bytes) →
      (decode bytes).length = bytes.length ∧
        (decode bytes).map Char.toNat = bytes.map UInt8.toNat) ∧
    (∀ text, Utf8.decode? bytes = some text ↔ Utf8.encode text = bytes) ∧
    decode bytes = (Utf8.decode? bytes).getD (CodePage.latin1 bytes) ∧
    (Utf8.decode? bytes = none → decodeMarked? bytes = none) ∧
    encodings.findSome? (· bytes) = some (decode bytes) := by
  refine ⟨?_, fun hother => ?_, fun _ => Utf8.decode?_eq_some_iff, decode_eq bytes,
    decodeMarked?_eq_none, ?_⟩
  · rintro text rfl
    exact decode_encode text
  · have hnone : Utf8.decode? bytes = none :=
      Option.eq_none_iff_forall_ne_some.2 fun text h => hother text (Utf8.decode?_eq_some_iff.1 h)
    rw [decode_eq, hnone, Option.getD_none]
    exact ⟨CodePage.length_latin1 bytes, map_toNat_latin1 bytes⟩
  · rw [findSome?_encodings, decode_eq]

/-- A surrogate behind a byte order mark: the mark is read as three characters like the rest. -/
theorem decode_in_two_steps_surrogate :
    let bytes : Bytes := mark ++ [0xED, 0xA0, 0x80]
    (∀ text, Utf8.encode text ≠ bytes) ∧ decodeMarked? bytes = none ∧
      (decode bytes).map Char.toNat = [0xEF, 0xBB, 0xBF, 0xED, 0xA0, 0x80] ∧
      Utf8.encode "é".toList = [0xC3, 0xA9] ∧ decode [0xC3, 0xA9] = "é".toList := by
  intro bytes
  obtain ⟨-, hother, hiff, -, hmarked, -⟩ := decode_in_two_steps bytes
  have hnone : Utf8.decode? bytes = none := by decide
  have hnot : ∀ text, Utf8.encode text ≠ bytes := fun text htext =>
    absurd (hnone.symm.trans ((hiff text).2 htext)) nofun
  have hletter : Utf8.encode "é".toList = [0xC3, 0xA9] := by decide
  exact ⟨hnot, hmarked hnone, (hother hnot).2, hletter, (decode_in_two_steps _).1 _ hletter⟩

/-! ## Byte order marks -/

/-- A source without a byte order mark is read as it is. With a mark in front it is still read as
UTF-8 by the first attempt, for which the mark is a character, though the second one would have
left it out. The mark is written in front of the lines of a source that is not highlighted. -/
theorem decode_with_mark {σ : Type} (reporter : Reporter σ) (found : Match) (text : Text) :
    let source := Utf8.encode text
    decode source = text ∧
      decode (mark ++ source) = '\uFEFF' :: text ∧
      decodeMarked? (mark ++ source) = some text ∧
      ((reporter.highlightSource && reporter.isTerminal) = false →
        reporter.sourceBody found (mark ++ source) =
          '\uFEFF' :: reporter.sourceBody found source) := by
  intro source
  have hplain : decode source = text := decode_encode text
  have hmarked : decode (mark ++ source) = '\uFEFF' :: text :=
    (congrArg decode (encode_marked text).symm).trans (decode_encode _)
  have hlate : decodeMarked? (mark ++ source) = some text :=
    (decodeMarked?_mark_append source).trans (Utf8.decode?_encode text)
  have hlines : Text.normalLines ('\uFEFF' :: text) = '\uFEFF' :: Text.normalLines text :=
    Text.normalLines_cons (by decide) text
  refine ⟨hplain, hmarked, hlate, fun hoff => ?_⟩
  simp only [Reporter.sourceBody, hplain, hmarked, hlines]
  rw [if_neg (ne_true_of_eq_false hoff), if_neg (ne_true_of_eq_false hoff)]

theorem decode_with_mark_shown :
    let text := "int x;\n".toList
    let found : Match := { kind := .directory, location := "Foo.java", package := "Foo.java" }
    (sourceReporter.highlightSource && sourceReporter.isTerminal) = false ∧
      sourceReporter.sourceBody found (mark ++ Utf8.encode text) = '\uFEFF' :: text := by
  intro text found
  obtain ⟨hread, -, -, hoff⟩ := decode_with_mark sourceReporter found text
  have hbody : sourceReporter.sourceBody found (Utf8.encode text) = text := by
    change Text.normalLines (decode (Utf8.encode text)) = text
    rw [hread]
    decide
  exact ⟨rfl, (hoff rfl).trans (congrArg _ hbody)⟩

/-- A directory with one source, which has a byte order mark. -/
def markedSource : Host :=
  .ofClassPath "src".toList
    [("src".toList, .directory {}
      [("Foo.java".toList, .file { bytes := mark ++ Utf8.encode "class Foo {}\n".toList } false)])]

/-- The mark comes through the first attempt and is written as a part of the source. -/
theorem output_of_markedSource :
    let text := "class Foo {}\n".toList
    ¬ ['\uFEFF'] <+: text ∧
      decode (Utf8.encode text) = text ∧
      decodeMarked? (mark ++ Utf8.encode text) = some text ∧
      decode (mark ++ Utf8.encode text) ≠ text ∧
      (Session.run markedSource { arguments := ["-s".toList, "Foo".toList] }).output =
        "Path: src/Foo.java\n    Package: Foo.java\n\uFEFFclass Foo {}\n".toList := by
  refine ⟨by decide, by decide +kernel, by decide +kernel, by decide +kernel, ?_⟩
  decide +kernel

end SourceText

end ClassLocator

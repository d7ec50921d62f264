import ClassLocator.Proofs.ClassPath.Packing
import ClassLocator.Proofs.Session.Directories
import ClassLocator.Proofs.Session.Setup

/-!
# The archive of the sources of a jar

Where the archive of the sources of a jar is looked for is told from the text of the whole path of
the jar: every `.jar` in it is written anew, in the names of the directories as well. So the
archive is looked for next to the jar only if none of these names holds `.jar`.

## Main definitions

* `Element.renamed`: what becomes of a name on the way to a jar.

## Main statements

* `Element.sourceArchive_eq`: the archive of the sources, name by name.
* `Element.sourceArchive_beside_iff`: when it is looked for next to the jar.
-/

namespace ClassLocator.Element

variable {path directory : Path} {name stem text : Text}

/-- How the name of an archive of sources ends. -/
def sourcesMark : Text := "-sources.jar"

/-- What becomes of a name on the way to a jar. -/
def renamed (name : Text) : Text := Text.replace jarMark sourcesMark name

theorem renamed_eq_self_iff : renamed name = name ↔ Text.occursIn jarMark name = false :=
  Text.replace_eq_self_iff (by decide) (by decide)

/-- A jar and the archive of its sources are called after one stem. -/
theorem renamed_append_jarMark (h : Text.occursIn jarMark stem = false) :
    renamed (stem ++ jarMark) = stem ++ sourcesMark :=
  Text.replace_append_mark (by decide) h

/-- A name stays a name. -/
theorem isProperName_renamed (hname : Path.IsProperName name) :
    Path.IsProperName (renamed name) := by
  have hslash : '/' ∉ renamed name := by
    intro hmem
    rcases Text.mem_replace hmem with hold | hnew
    · exact hname.2 hold
    · exact absurd hnew (by decide)
  refine ⟨?_, hslash⟩
  cases hmark : Text.occursIn jarMark name with
  | false =>
    rw [renamed_eq_self_iff.2 hmark]
    exact hname.1
  | true =>
    have hnew : sourcesMark <:+: renamed name :=
      Text.isInfix_replace (by decide) (Text.occursIn_iff.1 hmark)
    refine decide_eq_true ⟨?_, ?_⟩
    · intro hnil
      rw [hnil] at hnew
      exact absurd hnew (by decide)
    · intro hdot
      rw [hdot] at hnew
      exact absurd hnew (by decide)

theorem replace_anchor (anchor : Anchor) (text : Text) :
    Text.replace jarMark sourcesMark (anchor.text ++ text) =
      anchor.text ++ Text.replace jarMark sourcesMark text := by
  have hslash (rest : Text) : Text.replace jarMark sourcesMark ('/' :: rest) =
      '/' :: Text.replace jarMark sourcesMark rest :=
    Text.replace_of_not_isPrefix (Text.not_isPrefix_cons (by decide) (by decide))
  cases anchor with
  | here => rfl
  | root => exact hslash text
  | doubleRoot => exact (hslash ('/' :: text)).trans (congrArg ('/' :: ·) (hslash text))

/-- The archive of the sources is found by renaming every name that leads to the jar. -/
theorem sourceArchive_eq (h : path.IsNormal) :
    sourceArchive path = ⟨path.anchor, path.names.map renamed⟩ := by
  obtain ⟨anchor, names⟩ := path
  have hnormal : (⟨anchor, names.map renamed⟩ : Path).IsNormal := by
    intro each hmem
    obtain ⟨name, hname, rfl⟩ := List.mem_map.1 hmem
    exact isProperName_renamed (h name hname)
  have htext : Text.replace jarMark sourcesMark (⟨anchor, names⟩ : Path).text =
      (⟨anchor, names.map renamed⟩ : Path).text := by
    by_cases hne : names = []
    · subst hne
      cases anchor <;> decide
    · have hmapped : names.map renamed ≠ [] := by simpa using hne
      rw [Path.text_of_ne_nil hne fun name hmem => (h name hmem).1,
        Path.text_of_ne_nil hmapped fun name hmem => (hnormal name hmem).1, replace_anchor,
        Text.replace_intercalate (by decide) (by decide)]
      rfl
  rw [sourceArchive]
  exact (congrArg Path.parse htext).trans (Path.parse_text hnormal)

/-- The directories keep their names just if the mark is nowhere in the text of their path. -/
theorem map_renamed_eq_self_iff :
    directory.names.map renamed = directory.names ↔
      Text.occursIn jarMark directory.text = false := by
  have hnames : directory.names.map renamed = directory.names ↔
      ∀ name ∈ directory.names, renamed name = name := by
    conv_lhs => rw [← List.map_id directory.names, List.map_map]
    exact List.map_inj_left
  rw [hnames, ← Bool.not_eq_true, Text.occursIn_iff,
    Path.isInfix_text_iff (by decide) (by decide) (by decide), not_exists]
  refine forall_congr' fun name => ?_
  rw [renamed_eq_self_iff, ← Bool.not_eq_true, Text.occursIn_iff, not_and]

/-- However the path of a jar is spelled, the archive of its sources is called like the jar, and it
is looked for in the directory that the path of the jar leads to after each `.jar` in the names on
the way has been written anew. So this is the directory of the jar just if the text of its path
does not hold `.jar`. -/
theorem sourceArchive_beside_iff
    (htext : Path.parse text = directory.child (stem ++ jarMark))
    (hstem : Text.occursIn jarMark stem = false) :
    let jar := directory.child (stem ++ jarMark)
    let beside := directory.child (stem ++ sourcesMark)
    ofText text = .jar jar ∧
      sourceArchive jar =
        Path.child ⟨directory.anchor, directory.names.map renamed⟩ (stem ++ sourcesMark) ∧
      (sourceArchive jar = beside ↔ Text.occursIn jarMark directory.text = false) ∧
      ((sourceArchive jar).parent = directory ↔ Text.occursIn jarMark directory.text = false) := by
  intro jar beside
  have hnormal : jar.IsNormal := by
    have hparsed := Path.isNormal_parse text
    rwa [htext] at hparsed
  have harchive : sourceArchive jar =
      Path.child ⟨directory.anchor, directory.names.map renamed⟩ (stem ++ sourcesMark) := by
    rw [sourceArchive_eq hnormal]
    simp [jar, Path.child, renamed_append_jarMark hstem]
  have hmarked : Text.occursIn jarMark jar.text = true := by
    rw [Text.occursIn_iff, Path.isInfix_text_iff (by decide) (by decide) (by decide)]
    exact ⟨stem ++ jarMark, by simp [jar], (List.suffix_append ..).isInfix⟩
  refine ⟨ClassPath.ofText_eq_jar_iff.2 ⟨htext, hmarked⟩, harchive, ?_, ?_⟩
  · rw [harchive, ← map_renamed_eq_self_iff]
    simp [beside, Path.child]
  · rw [harchive, ← map_renamed_eq_self_iff]
    obtain ⟨anchor, names⟩ := directory
    simp [Path.parent, Path.child]

/-- The archive is looked for in the same directory, in whatever way the path of the jar is
written. -/
theorem sourceArchive_beside_util :
    Path.parse "./lib//util.jar".toList =
        (Path.parse "lib".toList).child ("util".toList ++ jarMark) ∧
      Text.occursIn jarMark "util".toList = false ∧
      sourceArchive (.parse "./lib//util.jar".toList) = .parse "lib/util-sources.jar".toList := by
  have htext : Path.parse "./lib//util.jar".toList =
      (Path.parse "lib".toList).child ("util".toList ++ jarMark) := by decide
  have hstem : Text.occursIn jarMark "util".toList = false := by decide
  obtain ⟨-, -, hbeside, -⟩ := sourceArchive_beside_iff htext hstem
  refine ⟨htext, hstem, ?_⟩
  rw [htext, hbeside.2 (by decide)]
  decide

/-- A jar and the archive of its sources, in a directory whose own name holds `.jar`. -/
def markedDirectory : Host :=
  .ofClassPath "lib.jar.d/x.jar".toList
    [("lib.jar.d".toList, .directory {}
      [("x.jar".toList, .file { bytes := [] } false),
        ("x-sources.jar".toList, .file { bytes := letterBytes } false)])]

/-- The archive is there, but it is looked for in another directory and taken to be missing. -/
theorem sourceArchive_of_marked_directory :
    sourceArchive (.parse "lib.jar.d/x.jar".toList) =
        .parse "lib-sources.jar.d/x-sources.jar".toList ∧
      sourceArchive (.parse "lib.jar.d/x.jar".toList) ≠
        .parse "lib.jar.d/x-sources.jar".toList ∧
      markedDirectory.files.read (.parse "lib.jar.d/x-sources.jar".toList) = .ok letterBytes ∧
      (Session.run markedDirectory { arguments := ["-s".toList, "Foo".toList] }).output = [] ∧
      (Session.run markedDirectory { arguments := ["-s".toList, "Foo".toList] }).errors =
        "File does not exist: lib-sources.jar.d/x-sources.jar\n".toList := by
  refine ⟨by decide, by decide, by rfl, ?_, ?_⟩
  · decide +kernel
  · decide +kernel

end ClassLocator.Element

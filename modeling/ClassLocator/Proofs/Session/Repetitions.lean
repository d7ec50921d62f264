import ClassLocator.Proofs.Search.Reached
import ClassLocator.Proofs.Session.Directories
import ClassLocator.Proofs.Session.Setup
import Mathlib.Data.List.Dedup

/-!
# Elements that come again

The elements of a class path are told apart by their texts, and so is the directory of the JDK
sources from them. But a path has many texts, and an element is known by its path. So an element
comes again for every other spelling of its path, and is searched again each time. Where every path
is spelled in one way only, all elements are different, and none is searched twice.

## Main statements

* `ClassPath.ofText_eq_ofText_iff`: two texts give the same element if they spell the same path.
* `ClassPath.count_elements`: how often an element comes.
* `ClassPath.nodup_elements_iff`: when no element comes twice.
-/

namespace ClassLocator

namespace ClassPath

variable {seen texts : List Text} {text other : Text} {jdkSource : Option Path} {source : Path}

/-- Whether a text stands for a jar is known from the path that it spells. -/
theorem ofText_eq_ofText_iff :
    Element.ofText text = Element.ofText other ↔ Path.parse text = Path.parse other := by
  constructor
  · intro h
    cases hother : Element.ofText other with
    | directory path =>
      rw [hother] at h
      rw [(ofText_eq_directory_iff.1 h).1, (ofText_eq_directory_iff.1 hother).1]
    | jar path =>
      rw [hother] at h
      rw [(ofText_eq_jar_iff.1 h).1, (ofText_eq_jar_iff.1 hother).1]
  · intro h
    rw [Element.ofText, Element.ofText, ← Element.occursIn_jarMark_parse, h,
      Element.occursIn_jarMark_parse]

theorem nodup_unseen (seen texts : List Text) : (unseen seen texts).Nodup := by
  induction texts generalizing seen with
  | nil => exact List.nodup_nil
  | cons text rest ih =>
    rw [unseen]
    split
    · exact ih seen
    · refine List.nodup_cons.2 ⟨fun hmem => ?_, ih _⟩
      exact (mem_unseen.1 hmem).2 List.mem_cons_self

theorem unseen_perm_dedup (texts : List Text) : (unseen [] texts).Perm texts.dedup := by
  refine (List.perm_ext_iff_of_nodup (nodup_unseen [] texts) texts.nodup_dedup).2 fun text => ?_
  rw [mem_unseen, List.mem_dedup]
  exact and_iff_left List.not_mem_nil

/-- The element of a text comes once for each of the texts that spell its path. -/
theorem count_elements (texts : List Text) (text : Text) :
    (elements texts none).count (Element.ofText text) =
      texts.dedup.countP fun other => Path.parse other = Path.parse text := by
  have hsame : ((· == Element.ofText text) ∘ Element.ofText) =
      fun other => decide (Path.parse other = Path.parse text) := by
    funext other
    rw [Function.comp_apply, beq_eq_decide, decide_eq_decide]
    exact ofText_eq_ofText_iff
  rw [elements, List.append_nil, List.count, List.countP_map, hsame]
  exact (unseen_perm_dedup texts).countP_eq _

theorem nodup_elements_none_iff :
    (elements texts none).Nodup ↔
      ∀ text ∈ texts, ∀ other ∈ texts, Path.parse text = Path.parse other → text = other := by
  rw [elements, List.append_nil, List.nodup_map_iff_inj_on (nodup_unseen [] texts)]
  simp only [mem_unseen, List.not_mem_nil, not_false_eq_true, and_true, ofText_eq_ofText_iff]

/-- The directory of the JDK sources comes last, and again if it is one of the elements before. -/
theorem nodup_elements_some_iff :
    (elements texts (some source)).Nodup ↔
      (elements texts none).Nodup ∧
        (source.text ∉ texts → .directory source ∉ elements texts none) := by
  unfold elements
  by_cases hmem : source.text ∈ texts
  · simp [hmem]
  · simp [hmem, List.nodup_append]

/-- Where the elements spell each path in one way, the directory of the JDK sources is one of them
just if one is spelled otherwise, and is not taken for a jar. -/
theorem source_apart_iff
    (honce : ∀ text ∈ texts, ∀ other ∈ texts, Path.parse text = Path.parse other → text = other) :
    (source.text ∉ texts → .directory source ∉ elements texts none) ↔
      ∀ text ∈ texts, Path.parse text = source →
        text = source.text ∨ Text.occursIn Element.jarMark source.text = true := by
  rw [directory_mem_elements_iff]
  constructor
  · intro h text hmem hparse
    by_cases hsource : source.text ∈ texts
    · refine .inl (honce text hmem source.text hsource ?_)
      rw [hparse, Path.parse_text (hparse ▸ Path.isNormal_parse text)]
    · right
      by_contra hmark
      exact h hsource (.inl ⟨by simpa using hmark, text, hmem, hparse⟩)
  · rintro h hnot (⟨hmark, text, hmem, hparse⟩ | ⟨⟨⟩, -⟩)
    rcases h text hmem hparse with rfl | hmarked
    · exact hnot hmem
    · rw [hmark] at hmarked
      cases hmarked

/-- No element comes twice just if no path is spelled in two ways: by two of the elements, or by an
element and the directory of the JDK sources. A directory and a jar are different even if they have
the same path. Then no search gets to an element twice. In general the element of a text comes once
for every spelling of its path. -/
theorem nodup_elements_iff (texts : List Text) (jdkSource : Option Path) :
    ((elements texts jdkSource).Nodup ↔
      (∀ text ∈ texts, ∀ other ∈ texts, Path.parse text = Path.parse other → text = other) ∧
      ∀ source ∈ jdkSource, ∀ text ∈ texts, Path.parse text = source →
        text = source.text ∨ Text.occursIn Element.jarMark source.text = true) ∧
    ((elements texts jdkSource).Nodup → ∀ fs query display runtime,
      (reached fs query display runtime (elements texts jdkSource)).Nodup) ∧
    ∀ text, (elements texts none).count (Element.ofText text) =
      texts.dedup.countP fun other => Path.parse other = Path.parse text := by
  refine ⟨?_, fun hnodup fs query display runtime => ?_, count_elements texts⟩
  · cases jdkSource with
    | none => simp [nodup_elements_none_iff]
    | some source =>
      rw [nodup_elements_some_iff, nodup_elements_none_iff]
      simp only [Option.mem_some_iff, forall_eq']
      exact and_congr_right source_apart_iff
  · exact hnodup.sublist (reached_isPrefix runtime _).sublist

/-- A directory that is named with and without a slash at its end comes twice, and a run finds its
class twice; so does the directory of the JDK sources if an element spells it with such a slash. -/
theorem elements_of_spellings :
    elements ["out".toList, "out/".toList] none =
        [.directory (.parse "out".toList), .directory (.parse "out".toList)] ∧
      ¬ (elements ["/jdk/src/".toList] (some (.parse "/jdk/src".toList))).Nodup ∧
      (Session.run (.ofClassPath "out:out/".toList
          [("out".toList, .directory {} [("Foo.class".toList, .file { bytes := [] } false)])])
          { arguments := ["Foo".toList], loadedClasses := some [] }).output =
        ("Path: out/Foo.class\n    Package: Foo\n" ++
          "Path: out/Foo.class\n    Package: Foo\n").toList := by
  refine ⟨by decide, by decide, ?_⟩
  decide +kernel

end ClassPath

end ClassLocator

import ClassLocator.Proofs.ClassPath.Splitting
import Mathlib.Data.List.Induction

/-!
# The first place of an element

An element of a class path is searched where its text stands first. Empty texts are no elements of
a class path, and a text that comes again changes nothing. A new text at the end adds its element
behind those of the other texts; if the directory of the JDK sources comes last, it still does.

## Main definitions

* `ClassPath.firstPlaces`: the texts of a list without those that have stood before.

## Main statements

* `ClassPath.unseen_eq_firstPlaces`: what the elements are made of.
* `ClassPath.elements_at_first_places`: the elements of joined, repeated and added texts.
-/

namespace ClassLocator

namespace ClassPath

variable {seen texts before : List Text} {text : Text} {jdkSource : Option Path}

/-! ## First places -/

/-- The texts at the places in front of which no equal text stands. -/
def firstPlaces (texts : List Text) : List Text :=
  (texts.zipIdx.filter fun entry => ! (texts.take entry.2).contains entry.1).map Prod.fst

/-- What comes at the end does not matter for the places before. -/
theorem firstPlaces_append_singleton (texts : List Text) (text : Text) :
    firstPlaces (texts ++ [text]) = firstPlaces texts ++ if text ∈ texts then [] else [text] := by
  have hbefore : ∀ entry ∈ texts.zipIdx,
      (! ((texts ++ [text]).take entry.2).contains entry.1) =
        ! (texts.take entry.2).contains entry.1 := by
    intro entry hmem
    have hplace : entry.2 ≤ texts.length := by grind [List.snd_lt_of_mem_zipIdx]
    rw [List.take_append_of_le_length hplace]
  rw [firstPlaces, List.zipIdx_append, List.filter_append, List.map_append,
    List.filter_congr hbefore, firstPlaces]
  by_cases hmem : text ∈ texts <;> simp [hmem]

/-- The texts that are taken up are those that stand in their first places. -/
theorem unseen_eq_firstPlaces (texts : List Text) : unseen [] texts = firstPlaces texts := by
  -- From the end, since all that has been seen stands in front of the last text.
  induction texts using List.reverseRecOn with
  | nil => rfl
  | append_singleton texts text ih =>
    rw [unseen_append, firstPlaces_append_singleton, ih]
    by_cases hmem : text ∈ texts <;> simp [unseen, hmem]

/-! ## Joined texts -/

/-- Joining texts and parting them again leaves out the empty ones. -/
theorem texts_intercalate (hfree : ∀ text ∈ texts, ':' ∉ text) :
    ClassPath.texts (separator.intercalate texts) = texts.filter (· ≠ []) := by
  have hseparator : separator = [':'] := rfl
  by_cases hne : texts = []
  · subst hne
    rfl
  · rw [ClassPath.texts, hseparator, Text.splitOn_singleton,
      List.splitOn_intercalate ':' hfree hne]

/-! ## Repeated and added texts -/

theorem unseen_insert (hmem : text ∈ before ++ seen) (after : List Text) :
    unseen seen (before ++ text :: after) = unseen seen (before ++ after) := by
  rw [unseen_append, unseen_append, unseen, if_pos hmem]

/-- A text that has stood before does not count. -/
theorem elements_insert (hmem : text ∈ before) (after : List Text) (jdkSource : Option Path) :
    elements (before ++ text :: after) jdkSource = elements (before ++ after) jdkSource := by
  have hsame : ∀ each, each ∈ before ++ text :: after ↔ each ∈ before ++ after := by grind
  simp only [elements, unseen_insert (List.mem_append_left [] hmem), hsame]

/-- A new text at the end comes behind the others, and in front of the JDK sources unless it is
taken for them. -/
theorem elements_append_singleton (hnew : text ∉ texts)
    (hother : ∀ source ∈ jdkSource, text ≠ source.text) :
    ∃ last, (last = [] ∨ ∃ source ∈ jdkSource, last = [.directory source]) ∧
      elements texts jdkSource = elements texts none ++ last ∧
      elements (texts ++ [text]) jdkSource =
        elements texts none ++ Element.ofText text :: last := by
  have hunseen : unseen [] (texts ++ [text]) = unseen [] texts ++ [text] := by
    simp [unseen_append, unseen, hnew]
  cases jdkSource with
  | none => exact ⟨[], by simp [elements, hunseen]⟩
  | some source =>
    have hsame : source.text ∈ texts ++ [text] ↔ source.text ∈ texts := by grind
    by_cases hsource : source.text ∈ texts
    · exact ⟨[], by simp [elements, hunseen, hsource]⟩
    · refine ⟨[.directory source], ?_⟩
      simp [elements, hunseen, hsame, hsource]

/-- A class path of texts without colons has one element for every text that is not empty, at the
first place of this text. In a list of elements, whatever comes last, a text that is repeated
anywhere behind itself changes nothing; a new text adds one element, behind those of the texts
before it and in front of the JDK sources. -/
theorem elements_at_first_places :
    (∀ texts : List Text, (∀ text ∈ texts, ':' ∉ text) →
      (split separator (separator.intercalate texts)).map (elements · none) =
        .ok ((firstPlaces (texts.filter (· ≠ []))).map Element.ofText)) ∧
    (∀ (before middle after : List Text) (text : Text) (jdkSource : Option Path),
      elements (before ++ text :: middle ++ text :: after) jdkSource =
        elements (before ++ text :: middle ++ after) jdkSource) ∧
    ∀ (texts : List Text) (text : Text) (jdkSource : Option Path), text ∉ texts →
      (∀ source ∈ jdkSource, text ≠ source.text) →
      ∃ last, (last = [] ∨ ∃ source ∈ jdkSource, last = [.directory source]) ∧
        elements texts jdkSource = elements texts none ++ last ∧
        elements (texts ++ [text]) jdkSource =
          elements texts none ++ Element.ofText text :: last := by
  refine ⟨fun texts hfree => ?_, fun before middle after text jdkSource => ?_,
    fun texts text jdkSource => elements_append_singleton⟩
  · rw [split_separator, texts_intercalate hfree, Except.map, elements, List.append_nil,
      unseen_eq_firstPlaces]
  · apply elements_insert
    simp

/-- Joined texts with an empty one and a repeated one, and a new element before the JDK sources. -/
theorem elements_at_first_places_jdk :
    let source : Path := .parse "/jdk/src".toList
    (split separator "out::lib/util.jar:out".toList).map (elements · none) =
        .ok [.directory (.parse "out".toList), .jar (.parse "lib/util.jar".toList)] ∧
      elements ["out".toList, "lib".toList, "out".toList] (some source) =
        elements ["out".toList, "lib".toList] (some source) ∧
      elements ["out".toList, "lib/util.jar".toList] (some source) =
        [.directory (.parse "out".toList), .jar (.parse "lib/util.jar".toList),
          .directory source] := by
  intro source
  obtain ⟨hjoined, hrepeated, hadded⟩ := elements_at_first_places
  refine ⟨?_, hrepeated [] ["lib".toList] [] "out".toList (some source), ?_⟩
  · exact hjoined ["out".toList, [], "lib/util.jar".toList, "out".toList] (by decide)
  · obtain ⟨last, -, hbefore, hafter⟩ :=
      hadded ["out".toList] "lib/util.jar".toList (some source) (by decide) (by decide)
    have hsource : elements ["out".toList] (some source) =
        elements ["out".toList] none ++ [.directory source] := by decide
    obtain rfl : last = [.directory source] := List.append_cancel_left (hbefore.symm.trans hsource)
    exact hafter

end ClassPath

end ClassLocator

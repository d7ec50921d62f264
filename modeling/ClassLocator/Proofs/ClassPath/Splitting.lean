import ClassLocator.ClassPath.Element
import ClassLocator.Proofs.Text.Pieces

/-!
# The beginning of a class path

What a class path begins with decides with which elements the search of it begins. What comes
behind a separator can only add elements at the end.

## Main definitions

* `ClassPath.texts`: the texts of the elements of a class path.

## Main statements

* `ClassPath.prefix_elements`: the elements of the beginning come first.
-/

namespace ClassLocator

namespace ClassPath

/-- The texts between the separators, without empty ones. -/
def texts (classPath : Text) : List Text :=
  (Text.splitOn separator classPath).filter (· ≠ [])

theorem split_separator (classPath : Text) : split separator classPath = .ok (texts classPath) :=
  rfl

theorem texts_append (first rest : Text) :
    texts (first ++ ':' :: rest) = texts first ++ texts rest := by
  have hseparator : separator = [':'] := rfl
  simp only [texts, hseparator, Text.splitOn_singleton, List.splitOn_append_cons_self,
    List.filter_append]

/-- Texts that have been seen in another order, or more than once, are seen all the same. -/
theorem unseen_congr {seen others : List Text} (h : ∀ text, text ∈ seen ↔ text ∈ others)
    (rest : List Text) : unseen seen rest = unseen others rest := by
  induction rest generalizing seen others with
  | nil => rfl
  | cons text rest ih =>
    have hbehind : ∀ each, each ∈ text :: seen ↔ each ∈ text :: others := by simp [h]
    simp only [unseen, h text, ih h, ih hbehind]

/-- The texts of a beginning have been seen where the rest begins. -/
theorem unseen_append (seen first rest : List Text) :
    unseen seen (first ++ rest) = unseen seen first ++ unseen (first ++ seen) rest := by
  induction first generalizing seen with
  | nil => rfl
  | cons text others ih =>
    rw [List.cons_append, unseen, unseen]
    split
    case isTrue hmem =>
      have hseen : ∀ each, each ∈ others ++ seen ↔ each ∈ text :: others ++ seen := by grind
      rw [ih, unseen_congr hseen]
    case isFalse hmem =>
      have hseen : ∀ each, each ∈ others ++ text :: seen ↔ each ∈ text :: others ++ seen := by
        grind
      rw [ih, unseen_congr hseen]
      rfl

/-- The elements of the beginning of a class path come first, whatever comes behind it. -/
theorem prefix_elements (first rest : Text) (jdkSource : Option Path) :
    elements (texts first) none <+: elements (texts (first ++ ':' :: rest)) jdkSource := by
  unfold elements
  rw [texts_append, List.append_nil]
  rw [unseen_append, List.map_append, List.append_assoc]
  exact List.prefix_append _ _

end ClassPath

end ClassLocator

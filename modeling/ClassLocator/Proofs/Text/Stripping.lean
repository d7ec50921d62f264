import ClassLocator.Proofs.Text.Lines

/-!
# Texts without white space around them

What is left of a text between the white space at its ends is determined by two properties: it
begins and ends with something else, and the text is this with white space around it.

## Main definitions

* `Text.IsWhite`: a text of white space.
* `Text.IsStripped`: a text without white space at either end.

## Main statements

* `Text.dropEndWhile_eq_iff`, `Text.strip_eq_iff`: what is left of a text.
-/

namespace ClassLocator.Text

variable {core kept text : Text} {p : Char → Bool}

/-- All characters are white space. -/
def IsWhite (text : Text) : Prop := ∀ c ∈ text, isBlank c = true

instance (text : Text) : Decidable (IsWhite text) :=
  decidable_of_iff (text.all isBlank = true) List.all_eq_true

/-- There is no white space at either end. -/
structure IsStripped (text : Text) : Prop where
  head : ∀ c ∈ text.head?, isBlank c = false
  last : ∀ c ∈ text.getLast?, isBlank c = false

theorem dropWhile_append_of_head (hkept : ∀ c ∈ kept.head?, p c = false) {before : Text}
    (hbefore : ∀ c ∈ before, p c = true) : (before ++ kept).dropWhile p = kept := by
  rw [List.dropWhile_append_of_pos hbefore]
  cases kept with
  | nil => rfl
  | cons c rest => exact List.dropWhile_cons_of_neg (by simpa using hkept c rfl)

/-- What is dropped at the end stands behind a character that is kept. -/
theorem dropEndWhile_eq_iff :
    dropEndWhile p text = kept ↔
      (∀ c ∈ kept.getLast?, p c = false) ∧ ∃ after, (∀ c ∈ after, p c = true) ∧
        text = kept ++ after := by
  constructor
  · rintro rfl
    refine ⟨fun c hc => ?_, (text.reverse.takeWhile p).reverse, fun c hc => ?_, ?_⟩
    · rw [dropEndWhile, List.getLast?_reverse] at hc
      have := List.head?_dropWhile_not p text.reverse
      rw [hc] at this
      exact this
    · exact List.mem_takeWhile_imp (List.mem_reverse.1 hc)
    · rw [dropEndWhile, ← List.reverse_append, List.takeWhile_append_dropWhile,
        List.reverse_reverse]
  · rintro ⟨hlast, after, hafter, rfl⟩
    have hreversed : (after.reverse ++ kept.reverse).dropWhile p = kept.reverse :=
      dropWhile_append_of_head (by simpa using hlast) (by simpa using hafter)
    rw [dropEndWhile, List.reverse_append, hreversed, List.reverse_reverse]

/-- What is left of a text begins and ends with something else than white space. -/
theorem isStripped_strip (text : Text) : IsStripped (strip text) := by
  obtain ⟨hlast, after, -, htrimmed⟩ := dropEndWhile_eq_iff.1 (rfl : strip text = _)
  refine ⟨fun c hc => ?_, hlast⟩
  have hfirst : c ∈ (text.dropWhile isBlank).head? := by
    rw [htrimmed, List.head?_append_of_ne_nil _ (List.ne_nil_of_mem (List.mem_of_mem_head? hc))]
    exact hc
  have hrest := List.head?_dropWhile_not isBlank text
  rw [hfirst] at hrest
  exact hrest

theorem strip_eq_iff :
    strip text = core ↔
      IsStripped core ∧ ∃ before after, IsWhite before ∧ IsWhite after ∧
        text = before ++ core ++ after := by
  constructor
  · rintro rfl
    obtain ⟨-, after, hafter, htrimmed⟩ := dropEndWhile_eq_iff.1 (rfl : strip text = _)
    refine ⟨isStripped_strip text, text.takeWhile isBlank, after,
      fun c hc => List.mem_takeWhile_imp hc, hafter, ?_⟩
    rw [List.append_assoc, ← htrimmed, List.takeWhile_append_dropWhile]
  · rintro ⟨hcore, before, after, hbefore, hafter, rfl⟩
    unfold strip
    cases core with
    | nil =>
      have hwhite : ∀ c ∈ before ++ [] ++ after, isBlank c = true := by
        simpa [or_imp, forall_and] using ⟨hbefore, hafter⟩
      rw [List.dropWhile_eq_nil_iff.2 hwhite]
      rfl
    | cons c rest =>
      have hhead : ∀ d ∈ (c :: rest ++ after).head?, isBlank d = false :=
        fun d hd => hcore.head d hd
      rw [List.append_assoc, dropWhile_append_of_head hhead hbefore]
      exact dropEndWhile_eq_iff.2 ⟨hcore.last, after, hafter, rfl⟩

theorem strip_of_isStripped (h : IsStripped text) : strip text = text :=
  strip_eq_iff.2 ⟨h, [], [], nofun, nofun, by simp⟩

theorem strip_eq_self_iff : strip text = text ↔ IsStripped text :=
  ⟨fun h => h ▸ isStripped_strip text, strip_of_isStripped⟩

instance (text : Text) : Decidable (IsStripped text) :=
  decidable_of_iff (strip text = text) strip_eq_self_iff

theorem isStripped_nil : IsStripped [] := ⟨nofun, nofun⟩

theorem strip_eq_nil_iff : strip text = [] ↔ IsWhite text := by
  rw [strip_eq_iff, and_iff_right isStripped_nil]
  constructor
  · rintro ⟨before, after, hbefore, hafter, rfl⟩ c hc
    rcases List.mem_append.1 hc with hc | hc
    · exact hbefore c (by simpa using hc)
    · exact hafter c hc
  · exact fun h => ⟨text, [], h, nofun, by simp⟩

end ClassLocator.Text

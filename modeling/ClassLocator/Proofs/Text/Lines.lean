import ClassLocator.Proofs.Text.Replace
import ClassLocator.Text.Lines
import Mathlib.Data.List.DropRight

/-!
# Texts and their lines

Lines are free of line breaks, so a text whose lines are joined by line feeds has no carriage
return, and unifying its breaks again changes nothing. The pieces in which a terminal shows a text
make up this text, and a line feed can only be the end of a piece.

## Main definitions

* `Text.trimmed`: a text without line feeds at either end.
* `Text.IsPiece`: a text in which a line feed can only be the last character.

## Main statements

* `Text.unifyBreaks_of_notMem`, `Text.notMem_normalLines`
* `Text.trimmed_eq_self_iff`: when there is no line feed at either end.
* `Text.flatten_terminalPieces`, `Text.isPiece_of_mem_terminalPieces`
-/

namespace ClassLocator.Text

variable {text piece : Text}

/-! ## Lines -/

theorem breakLines_ne_nil (text : Text) : breakLines text ≠ [] := by
  fun_induction breakLines text with
  | case1 => exact List.cons_ne_nil _ _
  | case2 => exact List.cons_ne_nil _ _
  | case3 => exact List.cons_ne_nil _ _
  | case4 => exact List.cons_ne_nil _ _
  | case5 c rest _ _ _ ih => exact fun hnil => ih (List.modifyHead_eq_nil_iff.1 hnil)

/-- A character that is put in front of the first line. -/
theorem exists_breakLines_modifyHead (c : Char) (text : Text) :
    ∃ first others, breakLines text = first :: others ∧
      (breakLines text).modifyHead (c :: ·) = (c :: first) :: others := by
  cases hlines : breakLines text with
  | nil => exact absurd hlines (breakLines_ne_nil text)
  | cons first others => exact ⟨first, others, rfl, rfl⟩

theorem notMem_of_mem_breakLines {line : Text} (h : line ∈ breakLines text) : '\r' ∉ line := by
  fun_induction breakLines text generalizing line with
  | case1 =>
    rw [List.mem_singleton.1 h]
    exact List.not_mem_nil
  | case2 rest ih =>
    rcases List.mem_cons.1 h with rfl | h
    · exact List.not_mem_nil
    · exact ih h
  | case3 rest _ ih =>
    rcases List.mem_cons.1 h with rfl | h
    · exact List.not_mem_nil
    · exact ih h
  | case4 rest ih =>
    rcases List.mem_cons.1 h with rfl | h
    · exact List.not_mem_nil
    · exact ih h
  | case5 c rest _ hc _ ih =>
    obtain ⟨first, others, hlines, hheaded⟩ := exists_breakLines_modifyHead c rest
    rw [hheaded] at h
    rw [hlines] at ih
    rcases List.mem_cons.1 h with rfl | h
    · exact List.not_mem_cons_of_ne_of_not_mem (fun heq => hc heq.symm) (ih List.mem_cons_self)
    · exact ih (List.mem_cons_of_mem first h)

/-- Where there is no carriage return all line breaks are line feeds. -/
theorem unifyBreaks_of_notMem (h : '\r' ∉ text) : unifyBreaks text = text := by
  unfold unifyBreaks
  fun_induction breakLines text with
  | case1 => rfl
  | case2 => exact absurd List.mem_cons_self h
  | case3 => exact absurd List.mem_cons_self h
  | case4 rest ih =>
    rw [List.intercalate_cons_of_ne_nil (breakLines_ne_nil rest),
      ih (List.not_mem_of_not_mem_cons h)]
    rfl
  | case5 c rest _ _ _ ih =>
    obtain ⟨first, others, hlines, hheaded⟩ := exists_breakLines_modifyHead c rest
    have hrest := ih (List.not_mem_of_not_mem_cons h)
    rw [hlines, intercalate_cons] at hrest
    rw [hheaded, intercalate_cons, List.cons_append, hrest]

theorem notMem_normalLines (raw : Text) : '\r' ∉ normalLines raw := by
  have hlines : ∀ line ∈ linesOf raw, '\r' ∉ line := by
    intro line hmem
    unfold linesOf at hmem
    dsimp only at hmem
    split at hmem
    · exact notMem_of_mem_breakLines (List.dropLast_subset _ hmem)
    · exact notMem_of_mem_breakLines hmem
  intro hmem
  rcases List.mem_append.1 hmem with hmem | hmem
  · exact notMem_intercalate (by decide) hlines hmem
  · cases List.mem_singleton.1 hmem

/-! ## Trimming -/

/-- The text without the line feeds that stand at either end. -/
def trimmed (text : Text) : Text :=
  dropEndWhile (· = '\n') (text.dropWhile (· = '\n'))

theorem dropEndWhile_eq_rdropWhile (p : Char → Bool) (text : Text) :
    dropEndWhile p text = text.rdropWhile p := rfl

theorem dropEndWhile_append_singleton (text : Text) :
    dropEndWhile (· = '\n') (text ++ ['\n']) = dropEndWhile (· = '\n') text :=
  List.rdropWhile_concat_pos _ _ _ (decide_eq_true rfl)

/-- One more line feed at the end does not count. -/
theorem trimmed_append_singleton (text : Text) : trimmed (text ++ ['\n']) = trimmed text := by
  unfold trimmed
  rw [List.dropWhile_append]
  split
  case isTrue hempty =>
    rw [List.isEmpty_iff.1 hempty]
    rfl
  case isFalse => exact dropEndWhile_append_singleton _

theorem trimmed_isInfix (text : Text) : trimmed text <:+: text :=
  (List.rdropWhile_prefix _ _).isInfix.trans (List.dropWhile_suffix _).isInfix

theorem dropEndWhile_eq_self_iff :
    dropEndWhile (· = '\n') text = text ↔ text.getLast? ≠ some '\n' := by
  rw [dropEndWhile_eq_rdropWhile, List.rdropWhile_eq_self_iff]
  cases text using List.reverseRecOn with
  | nil => simp
  | append_singleton rest c => simp

theorem trimmed_eq_self_iff :
    trimmed text = text ↔ text.head? ≠ some '\n' ∧ text.getLast? ≠ some '\n' := by
  have hhead : text.dropWhile (· = '\n') = text ↔ text.head? ≠ some '\n' := by
    cases text with
    | nil => simp
    | cons c rest => simp [List.dropWhile_eq_self_iff]
  constructor
  · intro heq
    have hwhole : text.dropWhile (· = '\n') = text := by
      refine (List.dropWhile_suffix _).eq_of_length (Nat.le_antisymm ?_ ?_)
      · exact (List.dropWhile_suffix _).length_le
      · rw [← congrArg List.length heq]
        exact (List.rdropWhile_prefix _ _).length_le
    refine ⟨hhead.1 hwhole, dropEndWhile_eq_self_iff.1 ?_⟩
    unfold trimmed at heq
    rwa [hwhole] at heq
  · rintro ⟨hfirst, hfinal⟩
    unfold trimmed
    rw [hhead.2 hfirst, dropEndWhile_eq_self_iff.2 hfinal]

/-! ## Pieces on a terminal -/

/-- A line feed can only be the last character. -/
def IsPiece (piece : Text) : Prop :=
  ∃ body, '\n' ∉ body ∧ (piece = body ∨ piece = body ++ ['\n'])

theorem flatten_terminalPieces (text : Text) : (terminalPieces text).flatten = text := by
  fun_induction terminalPieces text with
  | case1 => rfl
  | case2 rest ih => rw [List.flatten_cons, ih, List.cons_append, List.singleton_append]
  | case3 c rest _ _ ih => rw [List.flatten_cons, ih, List.singleton_append]
  | case4 c rest _ _ hnil ih =>
    rw [hnil] at ih
    rw [← ih]
    rfl
  | case5 c rest _ _ piece pieces hpieces ih =>
    rw [hpieces, List.flatten_cons] at ih
    rw [List.flatten_cons, List.cons_append, ih]

/-- Only a character that ends pieces can be a line feed. -/
theorem ne_of_not_endsPiece {c : Char} (h : ¬ endsPiece c = true) : '\n' ≠ c := by
  rintro rfl
  exact h rfl

theorem isPiece_singleton (c : Char) : IsPiece [c] := by
  by_cases hc : c = '\n'
  · exact ⟨[], List.not_mem_nil, .inr (congrArg ([·]) hc)⟩
  · exact ⟨[c], fun hmem => hc (List.mem_singleton.1 hmem).symm, .inl rfl⟩

theorem IsPiece.cons {c : Char} (hc : '\n' ≠ c) (h : IsPiece piece) : IsPiece (c :: piece) := by
  obtain ⟨body, hbody, hpiece⟩ := h
  refine ⟨c :: body, List.not_mem_cons_of_ne_of_not_mem hc hbody, ?_⟩
  rcases hpiece with rfl | rfl
  · exact .inl rfl
  · exact .inr rfl

theorem isPiece_of_mem_terminalPieces (h : piece ∈ terminalPieces text) : IsPiece piece := by
  fun_induction terminalPieces text generalizing piece with
  | case1 => cases h
  | case2 rest ih =>
    rcases List.mem_cons.1 h with rfl | h
    · exact (isPiece_singleton '\n').cons (by decide)
    · exact ih h
  | case3 c rest _ _ ih =>
    rcases List.mem_cons.1 h with rfl | h
    · exact isPiece_singleton c
    · exact ih h
  | case4 c rest _ _ _ _ =>
    rw [List.mem_singleton.1 h]
    exact isPiece_singleton c
  | case5 c rest _ hc first pieces hpieces ih =>
    rw [hpieces] at ih
    rcases List.mem_cons.1 h with rfl | h
    · exact (ih List.mem_cons_self).cons (ne_of_not_endsPiece hc)
    · exact ih (List.mem_cons_of_mem first h)

/-- What stands before the line feed of a piece, and this line feed. -/
theorem IsPiece.dropEndWhile_append (h : IsPiece piece) :
    dropEndWhile (· = '\n') piece ++ (if piece.getLast? = some '\n' then ['\n'] else []) =
      piece := by
  obtain ⟨body, hbody, hpiece⟩ := h
  have hlast : body.getLast? ≠ some '\n' := fun hlast => hbody (List.mem_of_getLast? hlast)
  have hkept : dropEndWhile (· = '\n') body = body := dropEndWhile_eq_self_iff.2 hlast
  rcases hpiece with rfl | rfl
  · rw [if_neg hlast, hkept, List.append_nil]
  · rw [if_pos List.getLast?_concat, dropEndWhile_append_singleton, hkept]

end ClassLocator.Text

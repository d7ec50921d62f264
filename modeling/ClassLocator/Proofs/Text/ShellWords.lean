import ClassLocator.Text.ShellWords

/-!
# Reading back a command line

A command line that is written for some words is read as these words, whatever is in them. One word
is looked at at a time: behind its written form, which begins between two words, the reader stands
in the word, and what it reads from there on has the word in front.

## Main statements

* `ShellWords.read_quote_append`: the reader behind one word.
* `ShellWords.split?_join`: the words of a command line that is written for them.
-/

namespace ClassLocator.ShellWords

variable {c : Char} {word : Text}

/-! ## Characters -/

/-- Puts a word before the rest of the first word. -/
def prepend (word : Text) (words : List Text) : List Text := words.modifyHead (word ++ ·)

@[simp] theorem prepend_nil : prepend [] = id := by
  funext words
  exact congrFun List.modifyHead_id words

theorem map_push_prepend (c : Char) (word : Text) (words : Option (List Text)) :
    (words.map (prepend word)).map (push c) = words.map (prepend (c :: word)) := by
  rw [Option.map_map]
  refine congrArg (words.map ·) (funext fun words => ?_)
  exact List.modifyHead_modifyHead ..

/-- No separator, quote or backslash goes without quotes. -/
theorem isPlain_ne (hc : isPlain c = true) {mark : Char} (hmark : isPlain mark = false) :
    c ≠ mark := by
  rintro rfl
  exact absurd (hc.symm.trans hmark) nofun

theorem isSeparator_of_isPlain (hc : isPlain c = true) : isSeparator c = false := by
  have hmarks : [' ', '\t', '\r', '\n'].all (!isPlain ·) = true := by decide
  rw [isSeparator, decide_eq_false_iff_not]
  exact fun hmem => by simpa [hc] using List.all_eq_true.1 hmarks c hmem

theorem outside_of_isPlain (hc : isPlain c = true) (rest : Text) :
    read.outside c rest = (read .bare rest).map (push c) := by
  rw [read.outside, if_neg (isPlain_ne hc (by decide)), if_neg (isPlain_ne hc (by decide)),
    if_neg (isPlain_ne hc (by decide))]

theorem read_between_of_isPlain (hc : isPlain c = true) (rest : Text) :
    read .between (c :: rest) = (read .bare rest).map (push c) := by
  simp only [read, isSeparator_of_isPlain hc, outside_of_isPlain hc, Bool.false_eq_true, if_false]

theorem read_bare_of_isPlain (hc : isPlain c = true) (rest : Text) :
    read .bare (c :: rest) = (read .bare rest).map (push c) := by
  simp only [read, isSeparator_of_isPlain hc, outside_of_isPlain hc, Bool.false_eq_true, if_false]

/-- The quotes are left and entered again for a single quote. -/
theorem read_single_quotedChar_append (c : Char) (rest : Text) :
    read .single (quotedChar c ++ rest) = (read .single rest).map (push c) := by
  unfold quotedChar
  split
  case isTrue hquote =>
    subst hquote
    simp [read, read.outside, isSeparator]
  case isFalse hquote => rw [List.singleton_append, read, if_neg hquote]

/-! ## Words -/

theorem read_bare_append (h : word.all isPlain = true) (rest : Text) :
    read .bare (word ++ rest) = (read .bare rest).map (prepend word) := by
  induction word with
  | nil => rw [prepend_nil, Option.map_id, List.nil_append, id]
  | cons c word ih =>
    rw [List.all_cons, Bool.and_eq_true] at h
    rw [List.cons_append, read_bare_of_isPlain h.1, ih h.2, map_push_prepend]

theorem read_single_append (word rest : Text) :
    read .single (word.flatMap quotedChar ++ '\'' :: rest) =
      (read .bare rest).map (prepend word) := by
  induction word with
  | nil => rw [List.flatMap_nil, List.nil_append, read, if_pos rfl, prepend_nil, Option.map_id, id]
  | cons c word ih =>
    rw [List.flatMap_cons, List.append_assoc, read_single_quotedChar_append, ih, map_push_prepend]

/-- The reader behind a word. What follows belongs to the same word until a separator comes. -/
theorem read_quote_append (word rest : Text) :
    read .between (quote word ++ rest) = (read .bare rest).map (prepend word) := by
  unfold quote
  split
  case isTrue h =>
    obtain ⟨hne, hplain⟩ := h
    obtain ⟨c, word, rfl⟩ := List.exists_cons_of_ne_nil hne
    rw [List.all_cons, Bool.and_eq_true] at hplain
    rw [List.cons_append, read_between_of_isPlain hplain.1, read_bare_append hplain.2,
      map_push_prepend]
  case isFalse =>
    have hopen (line : Text) : read .between ('\'' :: line) = read .single line := by
      simp [read, read.outside, isSeparator]
    rw [List.append_assoc, List.cons_append, List.singleton_append, hopen, read_single_append]

/-! ## Command lines -/

theorem join_cons_cons (word next : Text) (others : List Text) :
    join (word :: next :: others) = quote word ++ ' ' :: join (next :: others) := by
  rw [join, List.map_cons, List.map_cons, List.intercalate_cons_cons, List.append_assoc]
  rfl

/-- The words are read back as they are: empty ones, and those with separators, quotes, backslashes
or any other characters in them. -/
theorem split?_join (words : List Text) : split? (join words) = some words := by
  unfold split?
  induction words with
  | nil => rw [join, List.map_nil, List.intercalate_nil, read]
  | cons word others ih =>
    cases others with
    | nil =>
      have hline : join [word] = quote word ++ [] := by simp [join]
      rw [hline, read_quote_append, read, Option.map_some, prepend, List.modifyHead_cons,
        List.append_nil]
    | cons next others =>
      have hspace (line : Text) :
          read .bare (' ' :: line) = (read .between line).map ([] :: ·) := by
        rw [read, if_pos (by decide)]
      rw [join_cons_cons, read_quote_append, hspace, ih, Option.map_some, Option.map_some, prepend,
        List.modifyHead_cons, List.append_nil]

end ClassLocator.ShellWords

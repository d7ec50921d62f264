import ClassLocator.Proofs.Text.Lines

/-!
# Texts as they are written line by line

A text is written by putting one of three line breaks behind each line; the last line may go
without one unless it is empty. A text can be written with its lines and with no others, so what
there is to know of the text with its lines ended anew is known from these lines.

## Main definitions

* `Text.Break`: the line breaks.
* `Text.WritesLines`: the texts that are written with given lines.
* `Text.endLines`: the text in which a line feed ends each line.

## Main statements

* `Text.linesOf_break_append`: the first line of a text and the others.
* `Text.writesLines_iff`: the lines that a text is written with.
* `Text.normalLines_written`: what becomes of the lines of a text and of all that stands in them.
-/

namespace ClassLocator.Text

/-! ## Lines and breaks -/

/-- The line breaks: a carriage return and a line feed, or one of the two. -/
inductive Break where
  | crlf
  | cr
  | lf
deriving DecidableEq, Repr

def Break.text : Break → Text
  | crlf => ['\r', '\n']
  | cr => ['\r']
  | lf => ['\n']

variable {c : Char} {line rest text : Text} {lines : List Text} {ending : Break}

/-- Whether a character stands in lines and not in the breaks between them. -/
def isOfLine (c : Char) : Bool := c ≠ '\r' ∧ c ≠ '\n'

def IsLine (line : Text) : Prop := ∀ c ∈ line, isOfLine c = true

instance (line : Text) : Decidable (IsLine line) :=
  decidable_of_iff (line.all isOfLine = true) List.all_eq_true

theorem isLine_nil : IsLine [] := List.forall_mem_nil _

theorem isOfLine_iff : isOfLine c = true ↔ c ≠ '\r' ∧ c ≠ '\n' := by
  simp [isOfLine]

theorem filter_line (hline : IsLine line) : line.filter isOfLine = line :=
  List.filter_eq_self.2 hline

theorem filter_break (ending : Break) : ending.text.filter isOfLine = [] := by
  cases ending <;> rfl

theorem breakLines_cons (hc : isOfLine c = true) (rest : Text) :
    breakLines (c :: rest) = (breakLines rest).modifyHead (c :: ·) := by
  obtain ⟨hreturn, hfeed⟩ := isOfLine_iff.1 hc
  exact breakLines.eq_5 c rest (fun _ h _ => hreturn h) hreturn hfeed

theorem breakLines_line_append (hline : IsLine line) (rest : Text) :
    breakLines (line ++ rest) = (breakLines rest).modifyHead (line ++ ·) := by
  induction line with
  | nil => exact (congrFun List.modifyHead_id _).symm
  | cons c line ih =>
    obtain ⟨hc, hrest⟩ := List.forall_mem_cons.1 hline
    rw [List.cons_append, breakLines_cons hc, ih hrest, List.modifyHead_modifyHead]
    rfl

/-- A carriage return is a break of its own unless a line feed follows it. -/
theorem breakLines_break_append (h : ending = .cr → rest.head? ≠ some '\n') :
    breakLines (ending.text ++ rest) = [] :: breakLines rest := by
  cases ending with
  | crlf => rfl
  | lf => rfl
  | cr =>
    refine breakLines.eq_3 rest ?_
    rintro more rfl
    exact h rfl rfl

theorem linesOf_line (hline : IsLine line) (hne : line ≠ []) : linesOf line = [line] := by
  have hbroken := breakLines_line_append hline []
  rw [List.append_nil, breakLines, List.modifyHead_cons, List.append_nil] at hbroken
  simp [linesOf, hbroken, hne]

/-- The first line of a text and the lines behind its break. -/
theorem linesOf_break_append (hline : IsLine line) (h : ending = .cr → rest.head? ≠ some '\n') :
    linesOf (line ++ ending.text ++ rest) = line :: linesOf rest := by
  have hbroken : breakLines (line ++ ending.text ++ rest) = line :: breakLines rest := by
    rw [List.append_assoc, breakLines_line_append hline, breakLines_break_append h,
      List.modifyHead_cons, List.append_nil]
  obtain ⟨first, others, hrest⟩ := List.exists_cons_of_ne_nil (breakLines_ne_nil rest)
  simp only [linesOf, hbroken, hrest, List.getLast?_cons_cons, List.dropLast_cons_cons]
  split <;> rfl

/-! ## Writing lines -/

/-- The text has these lines, each with a break behind it. The last one may go without unless it
is empty. No line feed of an empty line follows a carriage return, as the two would be one break. -/
inductive WritesLines : List Text → Text → Prop
  | nil : WritesLines [] []
  | last {line : Text} : IsLine line → line ≠ [] → WritesLines [line] line
  | cons {line rest : Text} {lines : List Text} (ending : Break) : IsLine line →
      (ending = .cr → rest.head? ≠ some '\n') → WritesLines lines rest →
      WritesLines (line :: lines) (line ++ ending.text ++ rest)

theorem WritesLines.linesOf_eq (h : WritesLines lines text) : linesOf text = lines := by
  induction h with
  | nil => rfl
  | last hline hne => exact linesOf_line hline hne
  | cons ending hline hending _ ih => rw [linesOf_break_append hline hending, ih]

theorem WritesLines.isLine (h : WritesLines lines text) : ∀ line ∈ lines, IsLine line := by
  induction h with
  | nil => exact nofun
  | last hline _ => exact List.forall_mem_singleton.2 hline
  | cons ending hline _ _ ih => exact List.forall_mem_cons.2 ⟨hline, ih⟩

/-- A text holds its lines and, besides them, nothing but breaks. -/
theorem WritesLines.filter_eq (h : WritesLines lines text) :
    text.filter isOfLine = lines.flatten := by
  induction h with
  | nil => rfl
  | last hline _ => rw [filter_line hline, List.flatten_singleton]
  | cons ending hline _ _ ih =>
    rw [List.filter_append, List.filter_append, filter_line hline, filter_break, ih,
      List.append_nil, List.flatten_cons]

/-- A character in front of a text goes into its first line. -/
theorem WritesLines.cons_char (hc : isOfLine c = true) (h : WritesLines (line :: lines) text) :
    WritesLines ((c :: line) :: lines) (c :: text) := by
  cases h with
  | last hline _ => exact .last (List.forall_mem_cons.2 ⟨hc, hline⟩) (List.cons_ne_nil c line)
  | cons ending hline hending hrest =>
    exact .cons ending (List.forall_mem_cons.2 ⟨hc, hline⟩) hending hrest

theorem writesLines_singleton (hc : isOfLine c = true) : WritesLines [[c]] [c] :=
  .last (List.forall_mem_singleton.2 hc) (List.cons_ne_nil c [])

theorem WritesLines.eq_nil (h : WritesLines [] text) : text = [] := by
  cases h
  rfl

theorem exists_writesLines (text : Text) : ∃ lines, WritesLines lines text := by
  fun_induction breakLines text with
  | case1 => exact ⟨[], .nil⟩
  | case2 rest ih =>
    obtain ⟨lines, hrest⟩ := ih
    exact ⟨[] :: lines, .cons .crlf isLine_nil (by simp) hrest⟩
  | case3 rest hnext ih =>
    obtain ⟨lines, hrest⟩ := ih
    refine ⟨[] :: lines, .cons .cr isLine_nil (fun _ hhead => ?_) hrest⟩
    obtain ⟨more, rfl⟩ := List.head?_eq_some_iff.1 hhead
    exact hnext more rfl
  | case4 rest ih =>
    obtain ⟨lines, hrest⟩ := ih
    exact ⟨[] :: lines, .cons .lf isLine_nil (by simp) hrest⟩
  | case5 c rest _ hreturn hfeed ih =>
    have hc : isOfLine c = true := isOfLine_iff.2 ⟨hreturn, hfeed⟩
    obtain ⟨_ | ⟨first, others⟩, hrest⟩ := ih
    · rw [hrest.eq_nil]
      exact ⟨[[c]], writesLines_singleton hc⟩
    · exact ⟨(c :: first) :: others, hrest.cons_char hc⟩

/-- A text is written with its lines and with no others. -/
theorem writesLines_iff : WritesLines lines text ↔ linesOf text = lines := by
  constructor
  · exact WritesLines.linesOf_eq
  · rintro rfl
    obtain ⟨lines, hlines⟩ := exists_writesLines text
    rwa [hlines.linesOf_eq]

/-! ## Ending lines anew -/

/-- Each line with a line feed behind it. -/
def endLines (lines : List Text) : Text := lines.flatMap (· ++ ['\n'])

theorem writesLines_endLines (h : ∀ line ∈ lines, IsLine line) :
    WritesLines lines (endLines lines) := by
  induction lines with
  | nil => exact .nil
  | cons line lines ih =>
    obtain ⟨hline, hlines⟩ := List.forall_mem_cons.1 h
    exact .cons .lf hline nofun (ih hlines)

theorem intercalate_append_lineFeed (hne : lines ≠ []) :
    ['\n'].intercalate lines ++ ['\n'] = endLines lines := by
  induction lines with
  | nil => exact absurd rfl hne
  | cons line lines ih =>
    cases lines with
    | nil => rw [List.intercalate_singleton, endLines, List.flatMap_singleton]
    | cons next lines =>
      have hnext : next :: lines ≠ [] := List.cons_ne_nil next lines
      rw [List.intercalate_cons_of_ne_nil hnext, List.append_assoc, ih hnext]
      rfl

theorem normalLines_of_writesLines (h : WritesLines lines text) (hne : lines ≠ []) :
    normalLines text = endLines lines := by
  rw [normalLines, h.linesOf_eq, intercalate_append_lineFeed hne]

/-- The empty text is shown as an empty line, and every other one with its lines. -/
theorem exists_normalLines_eq (text : Text) :
    ∃ lines, lines ≠ [] ∧ (∀ line ∈ lines, IsLine line) ∧ normalLines text = endLines lines ∧
      text.filter isOfLine = lines.flatten := by
  have hlines : WritesLines (linesOf text) text := writesLines_iff.2 rfl
  generalize linesOf text = lines at hlines
  cases lines with
  | nil =>
    rw [hlines.eq_nil]
    exact ⟨[[]], List.cons_ne_nil _ _, List.forall_mem_singleton.2 isLine_nil, rfl, rfl⟩
  | cons first others =>
    have hne : first :: others ≠ [] := List.cons_ne_nil first others
    exact ⟨first :: others, hne, hlines.isLine, normalLines_of_writesLines hlines hne,
      hlines.filter_eq⟩

/-- What stands in front of the first line stays there. -/
theorem normalLines_cons (hc : isOfLine c = true) (text : Text) :
    normalLines (c :: text) = c :: normalLines text := by
  have hlines : WritesLines (linesOf text) text := writesLines_iff.2 rfl
  generalize linesOf text = lines at hlines
  cases lines with
  | nil =>
    rw [hlines.eq_nil, normalLines_of_writesLines (writesLines_singleton hc) (List.cons_ne_nil _ _)]
    rfl
  | cons first others =>
    rw [normalLines_of_writesLines hlines (List.cons_ne_nil _ _),
      normalLines_of_writesLines (hlines.cons_char hc) (List.cons_ne_nil _ _)]
    rfl

/-- The text with its lines ended anew has no carriage returns and ends with a line feed, it is
not changed any more, and it holds the same besides line breaks. If the text is written with some
lines, at least one, then these lines are left as they are, each with one line feed behind it. -/
theorem normalLines_written (text : Text) :
    '\r' ∉ normalLines text ∧ (normalLines text).getLast? = some '\n' ∧
      normalLines (normalLines text) = normalLines text ∧
      (normalLines text).filter isOfLine = text.filter isOfLine ∧
      ∀ lines, lines ≠ [] → WritesLines lines text →
        normalLines text = lines.flatMap (· ++ ['\n']) := by
  obtain ⟨lines, hne, hlines, hnormal, hkept⟩ := exists_normalLines_eq text
  -- The new text is written with the same lines, so what is true of them is true of both texts.
  have hended : WritesLines lines (normalLines text) := by
    rw [hnormal]
    exact writesLines_endLines hlines
  refine ⟨notMem_normalLines text, List.getLast?_concat, ?_, ?_, ?_⟩
  · rw [normalLines_of_writesLines hended hne, hnormal]
  · rw [hended.filter_eq, hkept]
  · exact fun lines hne hwritten => normalLines_of_writesLines hwritten hne

/-- All three breaks, an empty line at the beginning, a carriage return between empty lines, other
separators inside of lines, and no break at the end. -/
theorem normalLines_written_mixed :
    let lines : List Text := [[], "a\x0cb".toList, [], [], "c\u2028d".toList]
    let text : Text := "\ra\x0cb\r\n\r\r\nc\u2028d".toList
    lines ≠ [] ∧ WritesLines lines text ∧
      normalLines text = lines.flatMap (· ++ ['\n']) ∧
      normalLines text = "\na\x0cb\n\n\nc\u2028d\n".toList := by
  intro lines text
  have hne : lines ≠ [] := List.cons_ne_nil _ _
  have hwritten : WritesLines lines text := by
    refine .cons .cr (by decide) (by decide) ?_
    refine .cons .crlf (by decide) nofun ?_
    refine .cons .cr (by decide) (by decide) ?_
    refine .cons .crlf (by decide) nofun ?_
    exact .last (by decide) (by decide)
  obtain ⟨-, -, -, -, hlines⟩ := normalLines_written text
  exact ⟨hne, hwritten, hlines lines hne hwritten, by decide⟩

end ClassLocator.Text

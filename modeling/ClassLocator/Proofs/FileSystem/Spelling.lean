import ClassLocator.FileSystem.Path
import ClassLocator.Proofs.Text.Pieces

/-!
# The spelling of a path

A path that is read from a text has names without slashes, none of them empty or a single dot. Such
a path is what its own text is read as. Reading drops slashes, empty stretches and single dots and
nothing else, so that a text that none of them is part of stands in the one spelling just if it
stands in the other.

## Main definitions

* `Path.IsProperName`, `Path.AreNames`: what a path can have as one name, and as its names.
* `Path.IsNormal`: the names are as reading a text gives them.

## Main statements

* `Path.parse_text`: the text of a normal path is read as this path.
* `Path.occursIn_text_parse`: what stands in the text of a path that has been read.
-/

namespace ClassLocator.Path

variable {path : Path} {name needle text : Text} {names : List Text}

/-- The name stands for one step, from a directory to an entry of it or to its parent. -/
def IsProperName (name : Text) : Prop := isName name = true ∧ '/' ∉ name

instance (name : Text) : Decidable (IsProperName name) :=
  inferInstanceAs (Decidable (isName name = true ∧ '/' ∉ name))

/-- All of them are names that a path can have. -/
def AreNames (names : List Text) : Prop := ∀ name ∈ names, IsProperName name

instance (names : List Text) : Decidable (AreNames names) :=
  inferInstanceAs (Decidable (∀ name ∈ names, IsProperName name))

theorem areNames_nil : AreNames [] := fun _ hmem => absurd hmem List.not_mem_nil

/-- The names are as reading a text gives them. -/
def IsNormal (path : Path) : Prop := ∀ name ∈ path.names, isName name = true ∧ '/' ∉ name

theorem isNormal_parse (text : Text) : (parse text).IsNormal := by
  intro name hmem
  rw [parse, Text.splitOn_singleton] at hmem
  obtain ⟨hsplit, hname⟩ := List.mem_filter.1 hmem
  exact ⟨hname, Text.notMem_of_mem_splitOn hsplit⟩

theorem IsNormal.child (h : path.IsNormal) (hname : isName name = true) (hslash : '/' ∉ name) :
    (path.child name).IsNormal := by
  intro each hmem
  rcases List.mem_append.1 hmem with hbefore | hlast
  · exact h each hbefore
  · rw [List.mem_singleton.1 hlast]
    exact ⟨hname, hslash⟩

/-! ## The text of a path -/

theorem text_of_ne_nil {anchor : Anchor} (hne : names ≠ [])
    (h : ∀ name ∈ names, isName name = true) :
    (⟨anchor, names⟩ : Path).text = anchor.text ++ ['/'].intercalate names := by
  unfold text
  split
  case h_1 hnil =>
    cases names with
    | nil => exact absurd rfl hne
    | cons first others =>
      have hfirst : first = [] := by
        rw [Text.intercalate_cons] at hnil
        simp_all
      have hname := h first List.mem_cons_self
      rw [hfirst] at hname
      cases hname
  case h_2 => rfl

/-- Behind the anchor there is no slash. -/
theorem exists_intercalate_eq_cons (hne : names ≠ [])
    (h : ∀ name ∈ names, isName name = true ∧ '/' ∉ name) :
    ∃ c rest, ['/'].intercalate names = c :: rest ∧ c ≠ '/' := by
  cases names with
  | nil => exact absurd rfl hne
  | cons first others =>
    obtain ⟨hname, hslash⟩ := h first List.mem_cons_self
    cases first with
    | nil => cases hname
    | cons c more =>
      refine ⟨c, more ++ Text.behind '/' others, Text.intercalate_cons (c :: more) others, ?_⟩
      rintro rfl
      exact hslash List.mem_cons_self

theorem ofText_append {anchor : Anchor} {c : Char} (hc : c ≠ '/') (rest : Text) :
    Anchor.ofText (anchor.text ++ c :: rest) = anchor := by
  cases anchor <;> simp [Anchor.ofText, Anchor.text, hc]

/-- The slashes of the anchor part empty stretches. -/
theorem filter_splitOn_append (anchor : Anchor) (text : Text) :
    (List.splitOn '/' (anchor.text ++ text)).filter isName =
      (List.splitOn '/' text).filter isName := by
  have hempty : isName [] = false := rfl
  cases anchor <;> simp [Anchor.text, List.splitOn_cons_eq_if_modifyHead, hempty]

/-- The text of a normal path is read as this path. -/
theorem parse_text (h : path.IsNormal) : parse path.text = path := by
  obtain ⟨anchor, names⟩ := path
  by_cases hne : names = []
  · subst hne
    cases anchor <;> rfl
  obtain ⟨c, rest, hwritten, hc⟩ := exists_intercalate_eq_cons hne h
  have hanchor : Anchor.ofText (anchor.text ++ ['/'].intercalate names) = anchor := by
    rw [hwritten]
    exact ofText_append hc rest
  have hnames : (List.splitOn '/' (anchor.text ++ ['/'].intercalate names)).filter isName =
      names := by
    rw [filter_splitOn_append, List.splitOn_intercalate '/' (fun name hmem => (h name hmem).2) hne]
    exact List.filter_eq_self.2 fun name hmem => (h name hmem).1
  rw [text_of_ne_nil hne fun name hmem => (h name hmem).1, parse, Text.splitOn_singleton, hanchor,
    hnames]

/-! ## What stands in the text of a path -/

section

variable (hne : needle ≠ []) (hslash : '/' ∉ needle) (hdot : ¬ needle <:+: ['.'])
include hne hslash hdot

omit hdot in
theorem isInfix_anchored_iff (anchor : Anchor) (names : List Text) :
    needle <:+: anchor.text ++ ['/'].intercalate names ↔ ∃ name ∈ names, needle <:+: name := by
  rw [← Text.isInfix_intercalate_iff hne hslash]
  cases anchor <;> simp [Anchor.text, List.infix_cons_iff, Text.not_isPrefix_cons hne hslash]

/-- What no slash and no single dot is part of stands in one of the names. -/
theorem isInfix_text_iff (path : Path) :
    needle <:+: path.text ↔ ∃ name ∈ path.names, needle <:+: name := by
  have hwritten := isInfix_anchored_iff hne hslash path.anchor path.names
  unfold text
  split
  case h_1 hnil =>
    rw [hnil] at hwritten
    exact iff_of_false hdot fun hname => hne (List.infix_nil.1 (hwritten.2 hname))
  case h_2 => exact hwritten

theorem isInfix_parse_iff (text : Text) :
    needle <:+: text ↔ ∃ name ∈ (parse text).names, needle <:+: name := by
  have hpieces : needle <:+: text ↔ ∃ piece ∈ List.splitOn '/' text, needle <:+: piece := by
    rw [← Text.isInfix_intercalate_iff hne hslash, List.intercalate_splitOn]
  rw [hpieces, parse, Text.splitOn_singleton]
  constructor
  · rintro ⟨piece, hmem, hinfix⟩
    -- A stretch that is dropped is empty or a single dot.
    have hname : isName piece = true := by
      refine decide_eq_true ⟨?_, ?_⟩
      · rintro rfl
        exact hne (List.infix_nil.1 hinfix)
      · rintro rfl
        exact hdot hinfix
    exact ⟨piece, List.mem_filter.2 ⟨hmem, hname⟩, hinfix⟩
  · rintro ⟨name, hmem, hinfix⟩
    exact ⟨name, (List.mem_filter.1 hmem).1, hinfix⟩

/-- It does not matter in which spelling of a path it is looked for. -/
theorem occursIn_text_parse (text : Text) :
    Text.occursIn needle (parse text).text = Text.occursIn needle text := by
  rw [Bool.eq_iff_iff, Text.occursIn_iff, Text.occursIn_iff, isInfix_text_iff hne hslash hdot,
    ← isInfix_parse_iff hne hslash hdot]

end

end ClassLocator.Path

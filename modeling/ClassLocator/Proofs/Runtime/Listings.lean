import ClassLocator.Proofs.Runtime.Additions
import ClassLocator.Proofs.Text.Stripping

/-!
# Listings of an image

A listing names one module after the other, each in a line with a mark at its beginning, and below
it the resources of the module, each in an indented line. What such a listing is read as are its
resources, added in this order.

Whether a line is indented is told by comparing it with what is left of it without white space at
its ends. So a line with white space behind its text counts as a resource even if it is not
indented.

## Main definitions

* `RuntimeImage.Section`, `RuntimeImage.WritesSections`: listings as they are written.
* `RuntimeImage.IsPadded`: lines with white space behind their text.

## Main statements

* `RuntimeImage.readLine_header`, `RuntimeImage.readLine_resource`,
  `RuntimeImage.readLine_unmarked`: what one line does.
* `RuntimeImage.ofListing_written`: reading what has been written.
* `RuntimeImage.ofListing_unindented_iff`: which lines do not count that are not indented.
-/

namespace ClassLocator.RuntimeImage

variable {state : ListingState} {line module resource ending indent text : Text} {c : Char}

/-! ## The end of a line -/

def IsBreak (c : Char) : Prop := c = '\r' ∨ c = '\n'

/-- A line may end with a line feed, with a carriage return before it, or without either. -/
def IsLineEnd (ending : Text) : Prop := ∀ c ∈ ending, IsBreak c

instance (ending : Text) : Decidable (IsLineEnd ending) :=
  decidable_of_iff ((ending.all fun c => c = '\r' ∨ c = '\n') = true)
    (by simp [IsLineEnd, IsBreak])

/-- The line without what ends it. -/
def lineBody (line : Text) : Text := Text.dropEndWhile (fun c => c = '\r' ∨ c = '\n') line

theorem IsBreak.isBlank (h : IsBreak c) : Text.isBlank c = true := by
  rcases h with rfl | rfl <;> decide

theorem not_isBreak (h : Text.isBlank c = false) : ¬ IsBreak c := by
  intro hbreak
  rw [hbreak.isBlank] at h
  cases h

theorem lineBody_eq_iff :
    lineBody line = text ↔
      (∀ c ∈ text.getLast?, ¬ IsBreak c) ∧ ∃ ending, IsLineEnd ending ∧ line = text ++ ending := by
  simp [lineBody, Text.dropEndWhile_eq_iff, IsLineEnd, IsBreak]

/-- The end of a line is white space like any other. -/
theorem strip_lineBody (line : Text) : Text.strip (lineBody line) = Text.strip line := by
  obtain ⟨-, ending, hending, hline⟩ := lineBody_eq_iff.1 (rfl : lineBody line = _)
  obtain ⟨hstripped, before, after, hbefore, hafter, hbody⟩ :=
    Text.strip_eq_iff.1 (rfl : Text.strip (lineBody line) = _)
  refine (Text.strip_eq_iff.2 ⟨hstripped, before, after ++ ending, hbefore, ?_, ?_⟩).symm
  · intro c hc
    rcases List.mem_append.1 hc with hc | hc
    · exact hafter c hc
    · exact (hending c hc).isBlank
  · rw [← List.append_assoc, ← hbody]
    exact hline

theorem lineBody_isPrefix (line : Text) : lineBody line <+: line := by
  obtain ⟨-, ending, -, hline⟩ := lineBody_eq_iff.1 (rfl : lineBody line = _)
  exact ⟨ending, hline.symm⟩

/-! ## What a line does -/

theorem add_nil (image : RuntimeImage) (module : Text) : image.add module [] = image :=
  add_of_not_isClassFile fun h => List.not_mem_nil h.slash

theorem readLine_eq (state : ListingState) (line : Text) :
    readLine state line =
      if Text.strip line = [] then state
      else if moduleMark <+: lineBody line then
        { state with module := some (Text.strip ((lineBody line).drop moduleMark.length)) }
      else
        match state.module with
        | none => state
        | some module =>
          if lineBody line = Text.strip line then state
          else { state with image := state.image.add module (Text.strip line) } := by
  simp only [← strip_lineBody line, ← List.isPrefixOf_iff_prefix]
  rfl

theorem readLine_of_isWhite (h : Text.IsWhite line) (state : ListingState) :
    readLine state line = state := by
  rw [readLine_eq, if_pos (Text.strip_eq_nil_iff.2 h)]

theorem readLine_marked (h : moduleMark <+: lineBody line) (state : ListingState) :
    readLine state line =
      { state with module := some (Text.strip ((lineBody line).drop moduleMark.length)) } := by
  have hne : Text.strip line ≠ [] := by
    rw [ne_eq, Text.strip_eq_nil_iff]
    intro hwhite
    have hfirst : Text.isBlank 'M' = true :=
      hwhite 'M' ((h.trans (lineBody_isPrefix line)).subset (by decide))
    exact absurd hfirst (by decide)
  rw [readLine_eq, if_neg hne, if_pos h]

/-- A line without the mark has a resource if it is below the line of a module and is not the same
without white space at its ends. -/
theorem readLine_unmarked (h : ¬ moduleMark <+: line) (state : ListingState) :
    readLine state line =
      match state.module with
      | none => state
      | some module =>
        if lineBody line = Text.strip line then state
        else { state with image := state.image.add module (Text.strip line) } := by
  have hbody : ¬ moduleMark <+: lineBody line := fun hmark =>
    h (hmark.trans (lineBody_isPrefix line))
  rw [readLine_eq, if_neg hbody]
  split
  case isTrue hnil =>
    -- Of a blank line nothing is left that could be added.
    rw [hnil]
    cases hmodule : state.module with
    | none => rfl
    | some module => simp only [add_nil, ← hmodule, ite_self]
  case isFalse => rfl

/-- The line of a module, whose resources follow. -/
theorem readLine_header (hmodule : Text.IsStripped module) (hending : IsLineEnd ending)
    (state : ListingState) :
    readLine state (moduleMark ++ module ++ ending) = { state with module := some module } := by
  have hlast : ∀ c ∈ (moduleMark ++ module).getLast?, ¬ IsBreak c := by
    intro c hc
    cases module with
    | nil =>
      cases hc
      exact not_or.2 ⟨by decide, by decide⟩
    | cons d rest =>
      rw [List.getLast?_append_of_ne_nil _ (List.cons_ne_nil d rest)] at hc
      exact not_isBreak (hmodule.last c hc)
  have hbody : lineBody (moduleMark ++ module ++ ending) = moduleMark ++ module :=
    lineBody_eq_iff.2 ⟨hlast, ending, hending, rfl⟩
  have hmark : moduleMark <+: lineBody (moduleMark ++ module ++ ending) := by
    rw [hbody]
    exact List.prefix_append ..
  rw [readLine_marked hmark, hbody, List.drop_left, Text.strip_of_isStripped hmodule]

/-- The mark does not begin with white space. -/
theorem not_moduleMark_isPrefix (hne : indent ≠ []) (hindent : Text.IsWhite indent) (text : Text) :
    ¬ moduleMark <+: indent ++ text := by
  cases indent with
  | nil => exact absurd rfl hne
  | cons c rest =>
    intro hmark
    have hc : 'M' = c := (List.cons_prefix_cons.1 hmark).1
    have hblank : Text.isBlank c = true := hindent c List.mem_cons_self
    rw [← hc] at hblank
    exact absurd hblank (by decide)

/-- An indented line with a resource, below the line of a module. -/
theorem readLine_resource (hne : indent ≠ []) (hindent : Text.IsWhite indent)
    (hresource : resource ≠ [] ∧ Text.IsStripped resource) (hending : IsLineEnd ending)
    (module : Text) (image : RuntimeImage) :
    readLine ⟨some module, image⟩ (indent ++ resource ++ ending) =
      ⟨some module, image.add module resource⟩ := by
  have hmark : ¬ moduleMark <+: indent ++ resource ++ ending := by
    rw [List.append_assoc]
    exact not_moduleMark_isPrefix hne hindent _
  have hstrip : Text.strip (indent ++ resource ++ ending) = resource :=
    Text.strip_eq_iff.2 ⟨hresource.2, indent, ending, hindent,
      fun c hc => (hending c hc).isBlank, rfl⟩
  have hlast : ∀ c ∈ (indent ++ resource).getLast?, ¬ IsBreak c := by
    intro c hc
    rw [List.getLast?_append_of_ne_nil _ hresource.1] at hc
    exact not_isBreak (hresource.2.last c hc)
  have hbody : lineBody (indent ++ resource ++ ending) = indent ++ resource :=
    lineBody_eq_iff.2 ⟨hlast, ending, hending, rfl⟩
  have hindented : indent ++ resource ≠ resource := by simpa using hne
  rw [readLine_unmarked hmark, hstrip, hbody]
  exact if_neg hindented

/-! ## Listings as they are written -/

/-- A module and the resources that a listing names below it. -/
structure Section where
  module : Text
  resources : List Text
  module_isStripped : Text.IsStripped module
  resources_areNames : ∀ resource ∈ resources, resource ≠ [] ∧ Text.IsStripped resource

/-- The additions that a section stands for. -/
def Section.additions (part : Section) : List (Text × Text) :=
  part.resources.map (part.module, ·)

/-- The lines have the resources in this order, each in an indented line, and blank lines between
them. -/
inductive WritesResources : List Text → List Text → Prop
  | nil : WritesResources [] []
  | blank {resources lines : List Text} {line : Text} : Text.IsWhite line →
      WritesResources resources lines → WritesResources resources (line :: lines)
  | cons {resources lines : List Text} (indent resource ending : Text) : indent ≠ [] →
      Text.IsWhite indent → IsLineEnd ending → WritesResources resources lines →
      WritesResources (resource :: resources) ((indent ++ resource ++ ending) :: lines)

/-- The lines have the sections in this order, each with the line of its module and the lines of
its resources. -/
inductive WritesSections : List Section → List Text → Prop
  | nil : WritesSections [] []
  | cons {parts : List Section} {body lines : List Text} (part : Section) (ending : Text) :
      IsLineEnd ending → WritesResources part.resources body → WritesSections parts lines →
      WritesSections (part :: parts) ((moduleMark ++ part.module ++ ending) :: (body ++ lines))

/-- The resources are added to the module whose line came last. -/
theorem foldl_writesResources {resources lines : List Text} (h : WritesResources resources lines)
    (hnames : ∀ resource ∈ resources, resource ≠ [] ∧ Text.IsStripped resource) (module : Text)
    (added : List (Text × Text)) :
    lines.foldl readLine ⟨some module, addAll added⟩ =
      ⟨some module, addAll (added ++ resources.map (module, ·))⟩ := by
  induction h generalizing added with
  | nil => simp
  | blank hwhite _ ih =>
    rw [List.foldl_cons, readLine_of_isWhite hwhite]
    exact ih hnames added
  | cons indent resource ending hne hindent hending _ ih =>
    obtain ⟨hname, hrest⟩ := List.forall_mem_cons.1 hnames
    rw [List.foldl_cons, readLine_resource hne hindent hname hending, ← addAll_concat, ih hrest,
      List.append_assoc]
    rfl

theorem foldl_writesSections {parts : List Section} {lines : List Text}
    (h : WritesSections parts lines) (current : Option Text) (added : List (Text × Text)) :
    (lines.foldl readLine ⟨current, addAll added⟩).image =
      addAll (added ++ parts.flatMap Section.additions) := by
  induction h generalizing current added with
  | nil => simp
  | cons part ending hending hbody _ ih =>
    rw [List.foldl_cons, readLine_header part.module_isStripped hending, List.foldl_append,
      foldl_writesResources hbody part.resources_areNames, ih, List.append_assoc]
    rfl

/-- What comes before the line of the first module is passed over. -/
theorem foldl_preamble {preamble : List Text} (h : ∀ line ∈ preamble, ¬ moduleMark <+: line)
    (image : RuntimeImage) : preamble.foldl readLine ⟨none, image⟩ = ⟨none, image⟩ := by
  induction preamble with
  | nil => rfl
  | cons line rest ih =>
    obtain ⟨hline, hrest⟩ := List.forall_mem_cons.1 h
    rw [List.foldl_cons, readLine_unmarked hline]
    exact ih hrest

/-- A listing is read as the additions that it has been written for, whatever stands before the
first module, however its lines end and however deep the resources are indented. A module may come
more than once, and a resource may look like the line of a module. -/
theorem ofListing_written {preamble lines : List Text} {parts : List Section}
    (hpreamble : ∀ line ∈ preamble, ¬ moduleMark <+: line) (hlines : WritesSections parts lines) :
    ofListing (preamble ++ lines) = addAll (parts.flatMap Section.additions) := by
  rw [ofListing, List.foldl_append, foldl_preamble hpreamble]
  exact foldl_writesSections hlines none []

/-- A section with a resource that looks like the line of a module. -/
def firstSection : Section :=
  ⟨"java.base".toList, ["java/util/List.class".toList, "Module: x/A.class".toList],
    by decide, by decide⟩

def emptySection : Section := ⟨"java.desktop".toList, [], by decide, by decide⟩

/-- A second section of the module of the first one. -/
def lastSection : Section :=
  ⟨"java.base".toList, ["java/lang/Object.class".toList], by decide, by decide⟩

theorem ofListing_written_interleaved :
    let preamble := ["jimage: /jdk/lib/modules\n".toList, "\n".toList]
    let lines := ["Module: java.base\r\n".toList, "\tjava/util/List.class".toList, " \n".toList,
      "    Module: x/A.class\n".toList, "Module: java.desktop".toList,
      "Module: java.base\n".toList, " java/lang/Object.class\r\n".toList]
    (∀ line ∈ preamble, ¬ moduleMark <+: line) ∧
      WritesSections [firstSection, emptySection, lastSection] lines ∧
      ofListing (preamble ++ lines) = addAll
        [("java.base".toList, "java/util/List.class".toList),
          ("java.base".toList, "Module: x/A.class".toList),
          ("java.base".toList, "java/lang/Object.class".toList)] := by
  intro preamble lines
  have hpreamble : ∀ line ∈ preamble, ¬ moduleMark <+: line := by decide
  have hfirst : WritesResources firstSection.resources
      ["\tjava/util/List.class".toList, " \n".toList, "    Module: x/A.class\n".toList] :=
    .cons "\t".toList _ [] (by decide) (by decide) (by decide) (.blank (by decide)
      (.cons "    ".toList _ "\n".toList (by decide) (by decide) (by decide) .nil))
  have hlast : WritesResources lastSection.resources
      [" java/lang/Object.class\r\n".toList] :=
    .cons " ".toList _ "\r\n".toList (by decide) (by decide) (by decide) .nil
  have hlines : WritesSections [firstSection, emptySection, lastSection] lines :=
    .cons firstSection "\r\n".toList (by decide) hfirst
      (.cons emptySection [] (by decide) .nil
        (.cons lastSection "\n".toList (by decide) hlast .nil))
  exact ⟨hpreamble, hlines, ofListing_written hpreamble hlines⟩

/-! ## Lines that are not indented -/

/-- Between the text of the line and its end there is white space. -/
def IsPadded (line : Text) : Prop :=
  ∃ text space ending, line = text ++ space :: ending ∧ Text.isBlank space = true ∧
    ¬ IsBreak space ∧ IsLineEnd ending

theorem isPadded_iff : IsPadded line ↔ ∃ c ∈ (lineBody line).getLast?, Text.isBlank c = true := by
  constructor
  · rintro ⟨text, space, ending, rfl, hblank, hbreak, hending⟩
    have hbody : lineBody (text ++ space :: ending) = text ++ [space] := by
      refine lineBody_eq_iff.2 ⟨?_, ending, hending, by simp⟩
      simpa using hbreak
    exact ⟨space, by simp [hbody], hblank⟩
  · rintro ⟨c, hc, hblank⟩
    obtain ⟨hlast, ending, hending, hline⟩ := lineBody_eq_iff.1 (rfl : lineBody line = _)
    obtain ⟨text, htext⟩ := List.getLast?_eq_some_iff.1 hc
    refine ⟨text, c, ending, ?_, hblank, hlast c hc, hending⟩
    rw [hline, htext]
    simp

instance (line : Text) : Decidable (IsPadded line) :=
  decidable_of_iff ((lineBody line).getLast?.any Text.isBlank = true)
    (by simp [isPadded_iff, Option.any_eq_true])

theorem ofListing_insert (h : ∀ state, readLine state line = state) (before after : List Text) :
    ofListing (before ++ line :: after) = ofListing (before ++ after) := by
  simp only [ofListing, List.foldl_append, List.foldl_cons, h]

section

variable {first : Char} {rest : Text} (hfirst : Text.isBlank first = false)
include hfirst

/-- A line that is not indented is what is left of it, up to its end, unless it is padded. -/
theorem lineBody_eq_strip_iff :
    lineBody (first :: rest) = Text.strip (first :: rest) ↔ ¬ IsPadded (first :: rest) := by
  obtain ⟨-, ending, hending, hline⟩ := lineBody_eq_iff.1 (rfl : lineBody (first :: rest) = _)
  have hhead : ∀ c ∈ (lineBody (first :: rest)).head?, Text.isBlank c = false := by
    intro c hc
    cases hbody : lineBody (first :: rest) with
    | nil =>
      rw [hbody] at hc
      cases hc
    | cons d body =>
      rw [hbody] at hc hline
      cases hc
      cases hline
      exact hfirst
  rw [← strip_lineBody, eq_comm, Text.strip_eq_self_iff, isPadded_iff]
  constructor
  · rintro hstripped ⟨c, hc, hblank⟩
    rw [hstripped.last c hc] at hblank
    cases hblank
  · intro hplain
    refine ⟨hhead, fun c hc => ?_⟩
    exact Bool.eq_false_iff.2 fun hblank => hplain ⟨c, hc, hblank⟩

variable (hmark : ¬ moduleMark <+: first :: rest)
include hmark

theorem readLine_of_not_isPadded (h : ¬ IsPadded (first :: rest)) (state : ListingState) :
    readLine state (first :: rest) = state := by
  obtain ⟨_ | module, image⟩ := state
  · exact readLine_unmarked hmark _
  · rw [readLine_unmarked hmark]
    exact if_pos ((lineBody_eq_strip_iff hfirst).2 h)

/-- Below the line of a module the text of a padded line is taken for a resource. -/
theorem readLine_of_isPadded (h : IsPadded (first :: rest)) (module : Text) (image : RuntimeImage) :
    readLine ⟨some module, image⟩ (first :: rest) =
      ⟨some module, image.add module (Text.strip (first :: rest))⟩ := by
  rw [readLine_unmarked hmark]
  exact if_neg (mt (lineBody_eq_strip_iff hfirst).1 (not_not.2 h))

/-- So a padded line counts as if it were indented. -/
theorem readLine_eq_indented (h : IsPadded (first :: rest)) (state : ListingState) :
    readLine state (first :: rest) = readLine state (' ' :: Text.strip (first :: rest)) := by
  have hne : Text.strip (first :: rest) ≠ [] := by
    rw [ne_eq, Text.strip_eq_nil_iff]
    intro hwhite
    rw [hwhite first List.mem_cons_self] at hfirst
    cases hfirst
  obtain ⟨_ | module, image⟩ := state
  · have hindented : ¬ moduleMark <+: ' ' :: Text.strip (first :: rest) :=
      not_moduleMark_isPrefix (List.cons_ne_nil ' ' []) (by decide) _
    rw [readLine_unmarked hmark, readLine_unmarked hindented]
  · have hending : IsLineEnd [] := nofun
    have hindented := readLine_resource (List.cons_ne_nil ' ' []) (by decide)
      ⟨hne, Text.isStripped_strip _⟩ hending module image
    rw [readLine_of_isPadded hfirst hmark h, ← hindented]
    simp

/-- A line that is not indented makes no difference, wherever it stands, as long as it is not
padded. If it is, it counts as if it were indented. So there are listings in which it makes a
difference just if it is padded and its text is a class file. -/
theorem ofListing_unindented_iff :
    (IsPadded (first :: rest) → ∀ before after,
      ofListing (before ++ (first :: rest) :: after) =
        ofListing (before ++ (' ' :: Text.strip (first :: rest)) :: after)) ∧
    ((∀ before after,
        ofListing (before ++ (first :: rest) :: after) = ofListing (before ++ after)) ↔
      ¬ (IsPadded (first :: rest) ∧ IsClassFile (Text.strip (first :: rest)))) := by
  refine ⟨fun hpadded before after => ?_, ?_⟩
  · simp only [ofListing, List.foldl_append, List.foldl_cons,
      readLine_eq_indented hfirst hmark hpadded]
  constructor
  · rintro hsame ⟨hpadded, hclass⟩
    obtain ⟨package, hpackage⟩ := hclass.exists_package
    have hheader : readLine {} moduleMark = ⟨some [], {}⟩ := by decide
    have hlisted : ofListing [moduleMark, first :: rest] =
        ⟨[(Text.strip (first :: rest), [])], [package]⟩ := by
      rw [ofListing, List.foldl_cons, List.foldl_cons, hheader,
        readLine_of_isPadded hfirst hmark hpadded, add_of_isPackageOf hclass hpackage]
      rfl
    have hempty : ofListing [moduleMark] = {} := by decide
    have hnone := hsame [moduleMark] []
    rw [List.append_nil, hempty] at hnone
    exact absurd (hlisted.symm.trans hnone) (by simp)
  · intro hplain before after
    refine ofListing_insert (fun state => ?_) before after
    by_cases hpadded : IsPadded (first :: rest)
    · have hother : ¬ IsClassFile (Text.strip (first :: rest)) := fun hclass =>
        hplain ⟨hpadded, hclass⟩
      rw [readLine_unmarked hmark]
      obtain ⟨_ | module, image⟩ := state
      · rfl
      · simp only [add_of_not_isClassFile hother, ite_self]
    · exact readLine_of_not_isPadded hfirst hmark hpadded state

end

/-- A class file in a line that is neither indented nor padded is passed over. -/
theorem ofListing_unindented_plain :
    let line := "java/util/List.class\r\n".toList
    Text.isBlank 'j' = false ∧ ¬ moduleMark <+: line ∧
      ∀ before after, ofListing (before ++ line :: after) = ofListing (before ++ after) := by
  intro line
  have hfirst : Text.isBlank 'j' = false := by decide
  have hmark : ¬ moduleMark <+: line := by decide
  have hplain : ¬ IsPadded line := by decide
  refine ⟨hfirst, hmark, (ofListing_unindented_iff hfirst hmark).2.2 ?_⟩
  exact fun h => hplain h.1

/-- A space behind a class file makes a resource of a line that is not indented. -/
theorem ofListing_of_padded_line :
    let line := "java/util/List.class \n".toList
    Text.isBlank 'j' = false ∧ ¬ moduleMark <+: line ∧
      ofListing (["Module: java.base".toList] ++ []) = {} ∧
      ofListing (["Module: java.base".toList] ++ line :: []) =
        addAll [("java.base".toList, "java/util/List.class".toList)] ∧
      ofListing (["Module: java.base".toList] ++ line :: []) ≠
        ofListing (["Module: java.base".toList] ++ []) := by
  exact ⟨by decide, by decide, by decide, by decide, by decide⟩

end ClassLocator.RuntimeImage

import ClassLocator.Highlight.Terminal
import ClassLocator.Proofs.Highlight.Tokens
import ClassLocator.Proofs.Text.Lines

/-!
# Escape sequences of highlighted sources

A terminal shows a highlighted source without the escape sequences in it. What is left of them is
the text that the lexer was given: colours are switched on and off by sequences that are whole, and
no other character is written or left out. But the text that the lexer is given is not the source.
It is the source without a byte order mark and without the empty lines at its ends.

A library for highlighting is taken as it is, so this is known of it by what it promises: its lexers
keep the text that is prepared for them, and writing tokens adds nothing but escape sequences.

## Main definitions

* `Text.withoutEscapes`: a text without its escape sequences.
* `Text.IsInvisible`: what leaves no mark there.
* `Highlighter.KeepsPrepared`, `Highlighter.AddsEscapes`: the promises of a library.

## Main statements

* `Highlighter.withoutEscapes_colorize`: what is left of a highlighted source.
* `Highlight.keepsPrepared_library`, `Highlight.addsEscapes_library`: a library that keeps them.
* `Highlight.prepared_eq_self_iff`: when what is left is the source.
-/

namespace ClassLocator

namespace Text

/-! ## Escape sequences -/

def isEscapeParameter (c : Char) : Bool := c.isDigit || c = ';' || c = '?'

def isEscapeIntermediate (c : Char) : Bool := ' ' ≤ c && c ≤ '/'

def isEscapeFinal (c : Char) : Bool := '@' ≤ c && c ≤ '~'

/-- The length of the escape sequence that a text begins with. Behind its introducer there are
parameters, intermediate characters and then a final one. -/
def escapeLength? : Text → Option Nat
  | '\x1b' :: '[' :: rest =>
    let parameters := rest.takeWhile isEscapeParameter
    let intermediates := (rest.drop parameters.length).takeWhile isEscapeIntermediate
    let length := parameters.length + intermediates.length
    if (rest[length]?).any isEscapeFinal then some (length + 3) else none
  | _ => none

/-- The text without its escape sequences, taken from the left. -/
def withoutEscapes (text : Text) : Text :=
  go 0 text
where
  /-- The first argument counts the characters of a sequence that are still to be dropped. -/
  go : Nat → Text → Text
    | _, [] => []
    | skip + 1, _ :: rest => go skip rest
    | 0, c :: rest =>
      match escapeLength? (c :: rest) with
      | some length => go (length - 1) rest
      | none => c :: go 0 rest

variable {text rest : Text}

theorem go_length_append (stretch rest : Text) :
    withoutEscapes.go stretch.length (stretch ++ rest) = withoutEscapes rest := by
  induction stretch with
  | nil => rfl
  | cons _ _ ih => exact ih

/-- A text without introducers stays as it is. -/
theorem withoutEscapes_append_of_notMem (h : '\x1b' ∉ text) (rest : Text) :
    withoutEscapes (text ++ rest) = text ++ withoutEscapes rest := by
  induction text with
  | nil => rfl
  | cons c more ih =>
    have hc : c ≠ '\x1b' := fun heq => h (heq ▸ List.mem_cons_self)
    have hnone : escapeLength? (c :: (more ++ rest)) = none := by
      unfold escapeLength?
      split
      case h_1 hbegins => exact absurd (List.cons.inj hbegins).1 hc
      case h_2 => rfl
    change withoutEscapes.go 0 (c :: (more ++ rest)) = _
    rw [withoutEscapes.go, hnone]
    exact congrArg (c :: ·) (ih (List.not_mem_of_not_mem_cons h))

/-- What is written of a text does not depend on such a stretch in front of it. -/
def IsInvisible (stretch : Text) : Prop :=
  ∀ rest, withoutEscapes (stretch ++ rest) = withoutEscapes rest

theorem IsInvisible.append {first second : Text} (hfirst : IsInvisible first)
    (hsecond : IsInvisible second) : IsInvisible (first ++ second) := by
  intro rest
  rw [List.append_assoc, hfirst, hsecond]

end Text

namespace Highlight

open Text

/-! ## Colours -/

theorem escapeLength?_escape {modes : String}
    (h : modes.toList.all isEscapeParameter = true) (rest : Text) :
    escapeLength? (escape modes ++ rest) = some (escape modes).length := by
  have hbegins : escape modes ++ rest = '\x1b' :: '[' :: (modes.toList ++ 'm' :: rest) := by
    simp [escape]
  have hlength : (escape modes).length = modes.toList.length + 3 := by
    simp [escape]
  have hparameters : (modes.toList ++ 'm' :: rest).takeWhile isEscapeParameter = modes.toList := by
    rw [List.takeWhile_append_of_pos (List.all_eq_true.1 h)]
    exact List.append_nil _
  rw [hbegins, hlength]
  simp only [escapeLength?, hparameters, List.drop_left]
  have hintermediates : ('m' :: rest).takeWhile isEscapeIntermediate = [] := rfl
  rw [hintermediates, List.length_nil, Nat.add_zero, List.getElem?_append_right (Nat.le_refl _),
    Nat.sub_self]
  rfl

theorem isInvisible_escape {modes : String}
    (h : modes.toList.all isEscapeParameter = true) : IsInvisible (escape modes) := by
  intro rest
  have hlength := escapeLength?_escape h rest
  have hcons : escape modes = '\x1b' :: ('[' :: modes.toList ++ ['m']) := rfl
  rw [hcons, List.cons_append] at hlength ⊢
  change withoutEscapes.go 0 _ = _
  rw [withoutEscapes.go, hlength]
  exact go_length_append _ rest

theorem isInvisible_reset : IsInvisible reset := isInvisible_escape rfl

theorem isInvisible_colorOf {kind : TokenKind} {color : Text} (h : colorOf kind = some color) :
    IsInvisible color := by
  cases kind with
  | plain => cases h
  | packageName | className | error =>
    cases h
    exact (isInvisible_escape rfl).append (isInvisible_escape rfl)
  | _ =>
    cases h
    exact isInvisible_escape rfl

/-! ## Tokens -/

theorem withoutEscapes_colorPiece {color piece : Text} (hcolor : IsInvisible color)
    (hpiece : IsPiece piece) (hplain : '\x1b' ∉ piece) (rest : Text) :
    withoutEscapes (colorPiece color piece ++ rest) = piece ++ withoutEscapes rest := by
  have hparts := hpiece.dropEndWhile_append
  have hbody : '\x1b' ∉ dropEndWhile (· = '\n') piece := fun hmem =>
    hplain (hparts ▸ List.mem_append_left _ hmem)
  have hend : '\x1b' ∉ (if piece.getLast? = some '\n' then ['\n'] else []) := fun hmem =>
    hplain (hparts ▸ List.mem_append_right _ hmem)
  simp only [colorPiece, List.append_assoc]
  rw [hcolor, withoutEscapes_append_of_notMem hbody, isInvisible_reset,
    withoutEscapes_append_of_notMem hend, ← List.append_assoc, hparts]

theorem withoutEscapes_colorPieces {color : Text} (hcolor : IsInvisible color) {pieces : List Text}
    (hpieces : ∀ piece ∈ pieces, IsPiece piece) (hplain : '\x1b' ∉ pieces.flatten) (rest : Text) :
    withoutEscapes (pieces.flatMap (colorPiece color) ++ rest) =
      pieces.flatten ++ withoutEscapes rest := by
  induction pieces with
  | nil => rfl
  | cons piece others ih =>
    obtain ⟨hpiece, hothers⟩ := List.forall_mem_cons.1 hpieces
    rw [List.flatten_cons, List.mem_append, not_or] at hplain
    rw [List.flatMap_cons, List.append_assoc, withoutEscapes_colorPiece hcolor hpiece hplain.1,
      ih hothers hplain.2, List.flatten_cons, List.append_assoc]

/-- Of a token its text is left. -/
theorem withoutEscapes_writeToken {token : Token TokenKind} (hplain : '\x1b' ∉ token.text)
    (rest : Text) :
    withoutEscapes (writeToken token ++ rest) = token.text ++ withoutEscapes rest := by
  unfold writeToken
  split
  case h_1 => exact withoutEscapes_append_of_notMem hplain rest
  case h_2 color hcolor =>
    rw [← flatten_terminalPieces token.text] at hplain
    have hpieces : ∀ piece ∈ terminalPieces token.text, IsPiece piece :=
      fun piece => isPiece_of_mem_terminalPieces
    rw [withoutEscapes_colorPieces (isInvisible_colorOf hcolor) hpieces hplain,
      flatten_terminalPieces]

theorem withoutEscapes_writeTokens {tokens : List (Token TokenKind)}
    (hplain : '\x1b' ∉ tokens.flatMap Token.text) :
    withoutEscapes (tokens.flatMap writeToken) = tokens.flatMap Token.text := by
  induction tokens with
  | nil => rfl
  | cons token others ih =>
    rw [List.flatMap_cons, List.mem_append, not_or] at hplain
    rw [List.flatMap_cons, withoutEscapes_writeToken hplain.1, ih hplain.2, List.flatMap_cons]

end Highlight

/-! ## Libraries -/

namespace Highlighter

/-- The tokens of a lexer, put together, are the text that is prepared for it: lexers leave out a
byte order mark and the empty lines at the ends, and let a line feed stand at the very end. -/
def KeepsPrepared {Kind : Type} (lexer : Text → List (Token Kind)) : Prop :=
  ∀ source, (lexer source).flatMap Token.text = Highlight.prepared source

/-- Tokens without escape characters are written, in any style, with nothing but escape sequences
added to their texts. -/
def AddsEscapes (library : Highlighter) : Prop :=
  ∀ style tokens, '\x1b' ∉ tokens.flatMap Token.text →
    Text.withoutEscapes (library.write style tokens) = tokens.flatMap Token.text

/-- What is left of a highlighted source is the text that was given to the lexer. -/
theorem withoutEscapes_colorize {library : Highlighter} {source fileName : Text}
    (hkeeps : KeepsPrepared (library.lexer fileName source)) (hadds : library.AddsEscapes)
    (hplain : '\x1b' ∉ Highlight.prepared source) (style : Text) :
    Text.withoutEscapes (library.colorize style source fileName) = Highlight.prepared source := by
  rw [← hkeeps source] at hplain ⊢
  exact hadds _ _ hplain

end Highlighter

namespace Highlight

open Text

theorem keepsPrepared_library (fileName source : Text) :
    Highlighter.KeepsPrepared (library.lexer fileName source) := by
  intro text
  by_cases hjava : isJava (Path.parse fileName).name
  · simp only [Highlighter.lexer, library, if_pos hjava, Option.getD_some]
    exact Java.lexer.flatMap_text_tokens (prepared text)
  · simp [Highlighter.lexer, library, hjava]

theorem addsEscapes_library : library.AddsEscapes := fun _ _ => withoutEscapes_writeTokens

/-! ## Sources -/

/-- The text without a byte order mark in front. -/
def unmarked (source : Text) : Text :=
  match source with
  | '\uFEFF' :: rest => rest
  | _ => source

theorem unmarked_isSuffix (source : Text) : unmarked source <:+ source := by
  unfold unmarked
  split
  case h_1 => exact List.suffix_cons ..
  case h_2 => exact List.suffix_rfl

theorem unmarked_eq_self_iff {source : Text} :
    unmarked source = source ↔ ¬ ['\uFEFF'] <+: source := by
  unfold unmarked
  split
  case h_1 rest =>
    constructor
    · intro heq
      exact absurd heq.symm (List.cons_ne_self _ _)
    · intro hnot
      exact absurd (List.prefix_append ['\uFEFF'] rest) hnot
  case h_2 hne =>
    refine ⟨fun _ hmark => ?_, fun _ => rfl⟩
    obtain ⟨rest, rfl⟩ := hmark
    exact hne rest rfl

theorem unmarked_append_singleton (body : Text) :
    unmarked (body ++ ['\n']) = unmarked body ++ ['\n'] := by
  cases body with
  | nil => rfl
  | cons c rest =>
    by_cases hmark : c = '\uFEFF'
    · subst hmark
      rfl
    · have hnone (more : Text) : ¬ ['\uFEFF'] <+: c :: more := by
        intro hbegins
        exact hmark (List.cons_prefix_cons.1 hbegins).1.symm
      have hkept (more : Text) : unmarked (c :: more) = c :: more :=
        unmarked_eq_self_iff.2 (hnone more)
      rw [List.cons_append, hkept, hkept, List.cons_append]

/-- Of a source with plain line feeds only its ends change. -/
theorem prepared_append {body : Text} (h : '\r' ∉ body) :
    prepared (body ++ ['\n']) = trimmed (unmarked body) ++ ['\n'] := by
  have hplain : '\r' ∉ unmarked (body ++ ['\n']) := by
    intro hmem
    rcases List.mem_append.1 ((unmarked_isSuffix _).subset hmem) with hmem | hmem
    · exact h hmem
    · cases List.mem_singleton.1 hmem
  change trimmed (unifyBreaks (unmarked (body ++ ['\n']))) ++ ['\n'] = _
  rw [unifyBreaks_of_notMem hplain, unmarked_append_singleton, trimmed_append_singleton]

/-- No other characters get into the text. -/
theorem notMem_prepared {body : Text} (h : '\r' ∉ body) {c : Char} (hc : c ∉ body ++ ['\n']) :
    c ∉ prepared (body ++ ['\n']) := by
  rw [prepared_append h]
  intro hmem
  refine hc ?_
  rcases List.mem_append.1 hmem with hmem | hmem
  · exact List.mem_append_left _ ((unmarked_isSuffix body).subset ((trimmed_isInfix _).subset hmem))
  · exact List.mem_append_right _ hmem

theorem trimmed_unmarked_eq_self_iff {body : Text} :
    trimmed (unmarked body) = body ↔
      ¬ ['\uFEFF'] <+: body ∧ body.head? ≠ some '\n' ∧ body.getLast? ≠ some '\n' := by
  rw [← unmarked_eq_self_iff, ← trimmed_eq_self_iff]
  constructor
  · intro heq
    have hmarked : unmarked body = body := by
      refine (unmarked_isSuffix body).eq_of_length
        (Nat.le_antisymm (unmarked_isSuffix body).length_le ?_)
      rw [← congrArg List.length heq]
      exact (trimmed_isInfix _).length_le
    exact ⟨hmarked, by rwa [hmarked] at heq⟩
  · rintro ⟨hmarked, htrimmed⟩
    rw [hmarked, htrimmed]

/-- Nothing changes if there is neither a byte order mark nor an empty line at an end, or if there
is just one empty line. -/
theorem prepared_eq_self_iff {body : Text} (h : '\r' ∉ body) :
    let source := body ++ ['\n']
    prepared source = source ↔
      source = ['\n'] ∨
        (¬ ['\uFEFF'] <+: source ∧ ¬ ['\n'] <+: source ∧ ¬ ['\n', '\n'] <:+ source) := by
  intro source
  have hends : ['\n', '\n'] <:+ source ↔ body.getLast? = some '\n' := by
    cases body using List.reverseRecOn with
    | nil => simp [source, ← List.reverse_prefix]
    | append_singleton more c =>
      simp [source, ← List.reverse_prefix, List.cons_prefix_cons, @eq_comm _ '\n' c]
  have hwhole : prepared source = source ↔
      ¬ ['\uFEFF'] <+: body ∧ body.head? ≠ some '\n' ∧ body.getLast? ≠ some '\n' := by
    rw [prepared_append h, List.append_left_inj, trimmed_unmarked_eq_self_iff]
  rw [hwhole, hends]
  cases body with
  | nil => simp [source]
  | cons c rest => simp [source, List.cons_prefix_cons, @eq_comm _ '\n' c]

end Highlight

end ClassLocator

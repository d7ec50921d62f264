import ClassLocator.Highlight.Lexer
import Mathlib.Data.List.Basic

/-!
# Tokens make up their text

Whatever the rules of a lexer are, they cannot drop, add or change a character. A pattern offers
only places that come after the one that it begins at, so the parts of a rule stand for stretches
that follow one another; each stretch becomes the token of its part or is cut up as a text of its
own, and a character that no rule takes is a token. This holds however the fuel runs out.

## Main definitions

* `Mark.Reaches`: a place comes after another one in the same text.
* `Pattern.Advances`: a matcher that takes only places that come later.

## Main statements

* `Pattern.run_advances`: every pattern is such a matcher.
* `Lexer.flatMap_text_tokens`: the tokens of a text, put together, are the text.
-/

namespace ClassLocator

/-! ## Places in a text -/

/-- The other place comes after this one, behind a stretch of the text. -/
def Mark.Reaches (mark later : Mark) : Prop :=
  ∃ stretch, mark.rest = stretch ++ later.rest ∧ later.offset = mark.offset + stretch.length

namespace Mark

variable {mark between later : Mark}

@[simp] theorem Reaches.refl (mark : Mark) : mark.Reaches mark := ⟨[], rfl, rfl⟩

theorem Reaches.trans (h : mark.Reaches between) (h' : between.Reaches later) :
    mark.Reaches later := by
  obtain ⟨first, hrest, hoffset⟩ := h
  obtain ⟨second, hrest', hoffset'⟩ := h'
  refine ⟨first ++ second, ?_, ?_⟩
  · rw [hrest, hrest', List.append_assoc]
  · rw [hoffset', hoffset, List.length_append, Nat.add_assoc]

theorem rest_of_next? {c : Char} (h : mark.next? = some (c, later)) :
    mark.rest = c :: later.rest ∧ later.offset = mark.offset + 1 := by
  unfold next? at h
  split at h
  case h_1 => cases h
  case h_2 d rest hrest =>
    cases h
    exact ⟨hrest, rfl⟩

theorem reaches_of_next? {c : Char} (h : mark.next? = some (c, later)) : mark.Reaches later := by
  obtain ⟨hrest, hoffset⟩ := rest_of_next? h
  exact ⟨[c], hrest, hoffset⟩

/-- The text up to a later place is what stands before it. -/
theorem Reaches.upTo_append (h : mark.Reaches later) :
    mark.upTo later ++ later.rest = mark.rest := by
  obtain ⟨stretch, hrest, hoffset⟩ := h
  rw [upTo, hrest, hoffset, Nat.add_sub_cancel_left, List.take_left]

end Mark

/-! ## Patterns -/

namespace Pattern

variable {α : Type}

/-- A matcher takes only places that come after the one that it begins at. -/
def Advances (matcher : (Mark → Option α) → Mark → Option α) : Prop :=
  ∀ take mark found, matcher take mark = some found →
    ∃ later, mark.Reaches later ∧ take later = some found

theorem runWord_advances (word : Text) : Advances (α := α) fun take => runWord take word := by
  intro take mark found h
  induction word generalizing mark with
  | nil => exact ⟨mark, .refl mark, h⟩
  | cons c cs ih =>
    change runWord take (c :: cs) mark = some found at h
    unfold runWord at h
    split at h
    case h_1 d next hnext =>
      split at h
      case isTrue =>
        obtain ⟨later, hreaches, htake⟩ := ih next h
        exact ⟨later, (Mark.reaches_of_next? hnext).trans hreaches, htake⟩
      case isFalse => cases h
    case h_2 => cases h

section

variable {body : (Mark → Option α) → Mark → Option α} (hbody : Advances body)
include hbody

theorem runMany_advances (limit : Nat) :
    Advances fun take => runMany body take limit := by
  intro take mark found h
  induction limit generalizing mark found with
  | zero => exact ⟨mark, .refl mark, h⟩
  | succ limit ih =>
    rcases Option.or_eq_some_iff.1 h with h | ⟨-, h⟩
    · obtain ⟨between, hfirst, hmany⟩ := hbody _ _ _ h
      obtain ⟨later, hreaches, htake⟩ := ih between found hmany
      exact ⟨later, hfirst.trans hreaches, htake⟩
    · exact ⟨mark, .refl mark, h⟩

theorem runFew_advances (limit : Nat) :
    Advances fun take => runFew body take limit := by
  intro take mark found h
  induction limit generalizing mark found with
  | zero => exact ⟨mark, .refl mark, h⟩
  | succ limit ih =>
    change runFew body take (limit + 1) mark = some found at h
    unfold runFew at h
    split at h
    case h_1 first hfirst => exact ⟨mark, .refl mark, hfirst.trans h⟩
    case h_2 =>
      obtain ⟨between, hfirst, hfew⟩ := hbody _ _ _ h
      obtain ⟨later, hreaches, htake⟩ := ih between found hfew
      exact ⟨later, hfirst.trans hreaches, htake⟩

end

theorem run_advances (limit : Nat) (pattern : Pattern) :
    Advances (α := α) (pattern.run limit) := by
  induction pattern with
  | one p =>
    intro take mark found h
    unfold run at h
    split at h
    case h_1 c next hnext =>
      split at h
      case isTrue => exact ⟨next, Mark.reaches_of_next? hnext, h⟩
      case isFalse => cases h
    case h_2 => cases h
  | word w => exact runWord_advances w
  | seq first second ihfirst ihsecond =>
    intro take mark found h
    obtain ⟨between, hfirst, hrest⟩ := ihfirst _ _ _ h
    obtain ⟨later, hsecond, htake⟩ := ihsecond _ _ _ hrest
    exact ⟨later, hfirst.trans hsecond, htake⟩
  | alt first second ihfirst ihsecond =>
    intro take mark found h
    unfold run at h
    split at h
    case h_1 other hother => exact ihfirst _ _ _ (hother.trans h)
    case h_2 => exact ihsecond _ _ _ h
  | many body ih => exact runMany_advances ih limit
  | few body ih => exact runFew_advances ih limit
  | wordEdge =>
    intro take mark found h
    unfold run at h
    split at h
    case isTrue => exact ⟨mark, .refl mark, h⟩
    case isFalse => cases h
  | lineStart =>
    intro take mark found h
    unfold run at h
    split at h
    case isTrue => exact ⟨mark, .refl mark, h⟩
    case isFalse => cases h

end Pattern

/-! ## Rules -/

theorem LexRule.matchParts_stretches {limit : Nat} {parts : List RulePart} {mark final : Mark}
    {stretches : List (Paint × Text)}
    (h : matchParts limit parts mark = some (stretches, final)) :
    stretches.flatMap (·.2) ++ final.rest = mark.rest := by
  induction parts generalizing mark stretches with
  | nil =>
    cases h
    rfl
  | cons part parts ih =>
    obtain ⟨later, hreaches, htake⟩ := Pattern.run_advances _ _ _ _ _ h
    obtain ⟨⟨others, final⟩, hothers, hfound⟩ := Option.map_eq_some_iff.1 htake
    cases hfound
    rw [List.flatMap_cons, List.append_assoc, ih hothers, hreaches.upTo_append]

namespace Lexer

variable {lexer : Lexer}

theorem firstMatch_stretches {limit : Nat} {mark final : Mark}
    {rules : List (LexRule lexer.State)} {move : Move lexer.State}
    {stretches : List (Paint × Text)}
    (h : lexer.firstMatch limit mark rules = some (move, stretches, final)) :
    stretches.flatMap (·.2) ++ final.rest = mark.rest := by
  induction rules with
  | nil => cases h
  | cons rule rules ih =>
    unfold firstMatch at h
    split at h
    case h_1 others final hmatch =>
      cases h
      exact LexRule.matchParts_stretches hmatch
    case h_2 => exact ih h

/-! ## Texts -/

/-- The tokens of a stretch, if texts are cut up again into tokens that make them up. -/
theorem flatMap_text_stretch {cut : Text → List (Token TokenKind)}
    (hcut : ∀ text, (cut text).flatMap Token.text = text) (paint : Paint) (text : Text) :
    (if text = [] then []
      else
        match paint with
        | .token kind => [⟨kind, text⟩]
        | .again => cut text).flatMap Token.text = text := by
  split
  case isTrue hnil => exact hnil.symm
  case isFalse =>
    cases paint with
    | token kind => exact List.append_nil text
    | again => exact hcut text

/-- The tokens from a place on are what stands there, with any fuel. -/
theorem flatMap_text_tokensFrom (limit fuel : Nat) (stack : List lexer.State) (mark : Mark) :
    (lexer.tokensFrom limit fuel stack mark).flatMap Token.text = mark.rest := by
  induction fuel generalizing stack mark with
  | zero =>
    unfold tokensFrom
    split
    case isTrue hnil => exact hnil.symm
    case isFalse => exact List.append_nil _
  | succ fuel ih =>
    unfold tokensFrom
    cases hnext : mark.next? with
    | none =>
      unfold Mark.next? at hnext
      split at hnext
      case h_1 hnil => exact hnil.symm
      case h_2 => cases hnext
    | some next =>
      obtain ⟨c, next⟩ := next
      obtain ⟨hrest, -⟩ := Mark.rest_of_next? hnext
      dsimp only
      split
      case h_1 move stretches final hmatch =>
        rw [List.flatMap_append, ih, ← firstMatch_stretches hmatch, List.flatMap_assoc]
        refine congrArg (· ++ final.rest) (List.flatMap_congr fun stretch _ => ?_)
        exact flatMap_text_stretch (fun text => ih [lexer.initial] (.atStart text)) ..
      case h_2 =>
        rw [hrest]
        split
        case isTrue => rw [List.flatMap_cons, ih, List.singleton_append]
        case isFalse => rw [List.flatMap_cons, ih, List.singleton_append]

/-- The tokens of a text, put together, are the text. -/
theorem flatMap_text_tokens (lexer : Lexer) (text : Text) :
    (lexer.tokens text).flatMap Token.text = text :=
  flatMap_text_tokensFrom ..

end Lexer

end ClassLocator

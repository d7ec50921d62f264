import ClassLocator.Text.Basic

/-!
# The order of names

Names are ordered by code point, and lists of names name by name. Both orders are strict, and
`Text.precedes` is the order of names with equality allowed.
-/

namespace ClassLocator

/-- Where two texts part first, the earlier one has the smaller character or has ended. -/
def Text.Before : Text → Text → Prop := List.Lex (· < ·)

/-- Where two lists of names part first, the earlier one has the earlier name or has ended. -/
def NamesBefore : List Text → List Text → Prop := List.Lex Text.Before

namespace Text

theorem not_before_self (s : Text) : ¬ Before s s :=
  List.lex_irrefl (fun c => Nat.lt_irrefl c.toNat) s

theorem Before.trans {s t u : Text} (h : Before s t) (h' : Before t u) : Before s u :=
  List.lex_trans (fun hc hd => Nat.lt_trans hc hd) h h'

theorem precedes_iff {s t : Text} : precedes s t = true ↔ s = t ∨ Before s t := by
  induction s generalizing t with
  | nil =>
    cases t with
    | nil => simp [precedes]
    | cons d t => simp [precedes, Before]
  | cons c s ih =>
    cases t with
    | nil => simp [precedes, Before]
    | cons d t =>
      by_cases hcd : c = d
      · subst hcd
        simp [precedes, ih, Before, List.cons_lex_cons_iff]
      · have hlt : c < d ↔ c.toNat < d.toNat := Iff.rfl
        simp [precedes, hcd, Before, List.cons_lex_cons_iff, hlt]

theorem precedes_trans (s t u : Text) (h : precedes s t = true) (h' : precedes t u = true) :
    precedes s u = true := by
  rw [precedes_iff] at h h' ⊢
  rcases h with rfl | h
  · exact h'
  · rcases h' with rfl | h'
    · exact .inr h
    · exact .inr (h.trans h')

theorem precedes_total (s t : Text) : (precedes s t || precedes t s) = true := by
  induction s generalizing t with
  | nil => simp [precedes]
  | cons c s ih =>
    cases t with
    | nil => simp [precedes]
    | cons d t =>
      by_cases hcd : c = d
      · subst hcd
        simpa [precedes] using ih t
      · have hne : c.toNat ≠ d.toNat := fun h => hcd (Char.toNat_inj.1 h)
        simp only [precedes, hcd, Ne.symm hcd, if_false, Bool.or_eq_true, decide_eq_true_eq]
        omega

end Text

namespace NamesBefore

theorem not_self (names : List Text) : ¬ NamesBefore names names :=
  List.lex_irrefl Text.not_before_self names

theorem trans {xs ys zs : List Text} (h : NamesBefore xs ys) (h' : NamesBefore ys zs) :
    NamesBefore xs zs :=
  List.lex_trans (fun hs ht => hs.trans ht) h h'

theorem asymm {xs ys : List Text} (h : NamesBefore xs ys) : ¬ NamesBefore ys xs :=
  fun h' => not_self xs (h.trans h')

theorem not_nil (names : List Text) : ¬ NamesBefore names [] := List.not_lex_nil

theorem nil_cons (name : Text) (names : List Text) : NamesBefore [] (name :: names) := .nil

theorem of_before {name other : Text} (h : Text.Before name other) (xs ys : List Text) :
    NamesBefore (name :: xs) (other :: ys) := .rel h

theorem cons_iff {name : Text} {xs ys : List Text} :
    NamesBefore (name :: xs) (name :: ys) ↔ NamesBefore xs ys := by
  simp [NamesBefore, List.cons_lex_cons_iff, Text.not_before_self]

end NamesBefore

end ClassLocator

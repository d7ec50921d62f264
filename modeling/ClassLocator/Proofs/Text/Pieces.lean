import ClassLocator.Proofs.Text.Replace

/-!
# Texts and their pieces

A character parts a text into pieces that are free of it. A text without this character that
stands somewhere in the whole stands in one of the pieces, and is replaced piece by piece.

## Main statements

* `Text.splitOn_singleton`: the pieces of a text are those of a list.
* `Text.isInfix_intercalate_iff`: what stands in a text of pieces.
* `Text.replace_intercalate`: what is replaced in a text of pieces.
-/

namespace ClassLocator.Text

variable {c : Char} {needle piece text : Text} {pieces rest : List Text}

/-! ## Parting a text -/

/-- With one character as the separator, texts are split as lists are. -/
theorem splitOn_singleton (c : Char) (text : Text) : splitOn [c] text = List.splitOn c text := by
  unfold splitOn
  induction text with
  | nil => rfl
  | cons d rest ih =>
    rw [List.splitOn_cons_eq_if_modifyHead, ← ih]
    by_cases h : d = c
    · simp [splitOn.go, h]
    · simp [splitOn.go, h, Ne.symm h]

/-- The pieces are free of the character that parts them. -/
theorem notMem_of_mem_splitOn (h : piece ∈ List.splitOn c text) : c ∉ piece := by
  induction text generalizing piece with
  | nil => simp_all
  | cons d rest ih =>
    rw [List.splitOn_cons_eq_if_modifyHead] at h
    split at h
    case isTrue hd =>
      rcases List.mem_cons.1 h with rfl | hmem
      · exact List.not_mem_nil
      · exact ih hmem
    case isFalse hd =>
      have hd : c ≠ d := fun heq => hd (beq_iff_eq.2 heq.symm)
      cases hpieces : List.splitOn c rest with
      | nil => exact absurd hpieces (List.splitOn_ne_nil c rest)
      | cons first others =>
        rw [hpieces] at h ih
        rcases List.mem_cons.1 h with rfl | hmem
        · exact fun hc => (List.mem_cons.1 hc).elim hd (ih List.mem_cons_self)
        · exact ih (List.mem_cons_of_mem first hmem)

/-! ## Searching in pieces -/

section

variable (hne : needle ≠ []) (hfree : c ∉ needle)
include hne hfree

theorem not_isPrefix_cons : ¬ needle <+: c :: text := by
  cases needle with
  | nil => exact absurd rfl hne
  | cons d more =>
    intro h
    obtain ⟨rfl, -⟩ := List.cons_prefix_cons.1 h
    exact hfree List.mem_cons_self

theorem isInfix_append_behind :
    needle <:+: piece ++ behind c rest ↔ needle <:+: piece ∨ needle <:+: behind c rest := by
  induction piece with
  | nil => simp [hne]
  | cons d more ih =>
    have hprefix := prefix_append_behind hfree (d :: more) rest
    rw [List.cons_append] at hprefix ⊢
    rw [List.infix_cons_iff, List.infix_cons_iff, ih, hprefix, or_assoc]

theorem isInfix_behind_iff :
    needle <:+: behind c pieces ↔ ∃ piece ∈ pieces, needle <:+: piece := by
  induction pieces with
  | nil => simp [hne]
  | cons first others ih =>
    rw [behind_cons, List.infix_cons_iff, or_iff_right (not_isPrefix_cons hne hfree),
      isInfix_append_behind hne hfree, ih]
    simp

/-- A text that is free of the character does not reach beyond a piece. -/
theorem isInfix_intercalate_iff :
    needle <:+: [c].intercalate pieces ↔ ∃ piece ∈ pieces, needle <:+: piece := by
  cases pieces with
  | nil => simp [hne]
  | cons first others =>
    rw [intercalate_cons, isInfix_append_behind hne hfree, isInfix_behind_iff hne hfree]
    simp

end

/-! ## Replacing in pieces -/

section

variable {old new : Text} (hne : old ≠ []) (hfree : c ∉ old)
include hne hfree

/-- An occurrence does not reach beyond a character that it is free of. -/
theorem replace_append_cons (s t : Text) :
    replace old new (s ++ c :: t) = replace old new s ++ c :: replace old new t := by
  induction hlength : s.length using Nat.strongRecOn generalizing s with
  | ind n ih =>
    subst hlength
    cases s with
    | nil => exact replace_of_not_isPrefix (not_isPrefix_cons hne hfree)
    | cons d rest =>
      by_cases hbegins : old <+: d :: rest
      · obtain ⟨more, hmore⟩ := hbegins
        have hshorter : more.length < (d :: rest).length := by
          have hpos : 0 < old.length := List.length_pos_iff.2 hne
          rw [← hmore, List.length_append]
          omega
        rw [← hmore, List.append_assoc, replace_append_self hne, replace_append_self hne,
          ih _ hshorter more rfl, List.append_assoc]
      · have hbehind : ¬ old <+: d :: (rest ++ c :: t) := by
          simpa using mt (prefix_append_behind hfree (d :: rest) [t]).1 hbegins
        rw [List.cons_append, replace_of_not_isPrefix hbehind, replace_of_not_isPrefix hbegins,
          ih rest.length (Nat.lt_succ_self _) rest rfl, List.cons_append]

/-- Pieces are rewritten one by one. -/
theorem replace_intercalate (pieces : List Text) :
    replace old new ([c].intercalate pieces) = [c].intercalate (pieces.map (replace old new)) := by
  induction pieces with
  | nil => rfl
  | cons piece rest ih =>
    cases rest with
    | nil => simp
    | cons next others =>
      rw [List.intercalate_cons_cons, List.append_assoc, List.singleton_append,
        replace_append_cons hne hfree, ih]
      simp

end

end ClassLocator.Text

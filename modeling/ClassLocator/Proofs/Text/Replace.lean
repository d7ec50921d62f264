import ClassLocator.Text.Basic

/-!
# Replacing in texts of pieces

A mark is a text that begins with a character of its own. In a text of pieces, each behind this
character and free of it, a mark can stand only where a piece begins, so that taking out all marks
is done piece by piece.

## Main statements

* `Text.replace_eq_self_iff`: when something longer is written nowhere.
* `Text.replace_behind`: what is left of the pieces.
* `Text.remnants_eq_iff`: when nothing is taken out.
* `Text.replaceChar_intercalate`: the same pieces with another character between them.
-/

namespace ClassLocator.Text

variable {c d : Char} {mark old new s t : Text}

theorem replace_of_isPrefix (h : old <+: c :: t) :
    replace old new (c :: t) = new ++ replace.go old new (old.length - 1) t := by
  simp [replace, replace.go, h]

theorem replace_of_not_isPrefix (h : ¬ old <+: c :: t) :
    replace old new (c :: t) = c :: replace old new t := by
  simp [replace, replace.go, h]

theorem go_append (s : Text) : replace.go old new s.length (s ++ t) = replace old new t := by
  induction s with
  | nil => rfl
  | cons _ rest ih => exact ih

/-- An occurrence at the front is written anew. -/
theorem replace_mark (mark : Text) :
    replace (c :: mark) new (c :: (mark ++ t)) = new ++ replace (c :: mark) new t := by
  have hbegins : c :: mark <+: c :: (mark ++ t) :=
    (List.prefix_cons_inj c).2 (List.prefix_append ..)
  rw [replace_of_isPrefix hbegins]
  exact congrArg (new ++ ·) (go_append mark)

/-- Whatever is replaced, an occurrence at the front is written anew. -/
theorem replace_append_self (hne : old ≠ []) (t : Text) :
    replace old new (old ++ t) = new ++ replace old new t := by
  cases old with
  | nil => exact absurd rfl hne
  | cons c mark => exact replace_mark mark

/-- Nothing changes where the mark cannot begin. -/
theorem replace_append_of_notMem (h : c ∉ s) :
    replace (c :: mark) new (s ++ t) = s ++ replace (c :: mark) new t := by
  induction s with
  | nil => rfl
  | cons d rest ih =>
    have hbegins : ¬ c :: mark <+: d :: (rest ++ t) := by
      intro hp
      exact h (List.mem_cons.2 (.inl (List.cons_prefix_cons.1 hp).1))
    have hrest : c ∉ rest := fun hmem => h (List.mem_cons_of_mem d hmem)
    rw [List.cons_append, replace_of_not_isPrefix hbegins, ih hrest, List.cons_append]

theorem replace_of_not_occursIn (h : occursIn old t = false) : replace old new t = t := by
  induction t with
  | nil => rfl
  | cons d rest ih =>
    obtain ⟨hbegins, hrest⟩ := Bool.or_eq_false_iff.1 h
    rw [replace_of_not_isPrefix (by simp [← List.isPrefixOf_iff_prefix, hbegins]), ih hrest]

/-- What is written for an occurrence stands in the text afterwards. -/
theorem isInfix_replace (hne : old ≠ []) (h : old <:+: t) : new <:+: replace old new t := by
  induction t with
  | nil => exact absurd (List.infix_nil.1 h) hne
  | cons d rest ih =>
    by_cases hbegins : old <+: d :: rest
    · rw [replace_of_isPrefix hbegins]
      exact (List.prefix_append ..).isInfix
    · rw [replace_of_not_isPrefix hbegins]
      have hrest : old <:+: rest := (List.infix_cons_iff.1 h).resolve_left hbegins
      exact (ih hrest).trans (List.suffix_cons ..).isInfix

theorem mem_replace (h : c ∈ replace old new t) : c ∈ t ∨ c ∈ new := by
  unfold replace at h
  generalize 0 = skip at h
  fun_induction replace.go old new skip t with
  | case1 => exact .inl h
  | case2 skip _ rest ih => exact (ih h).imp_left (List.mem_cons_of_mem _)
  | case3 d rest _ ih =>
    rcases List.mem_append.1 h with hnew | hrest
    · exact .inr hnew
    · exact (ih hrest).imp_left (List.mem_cons_of_mem _)
  | case4 d rest _ ih =>
    rcases List.mem_cons.1 h with rfl | hrest
    · exact .inl List.mem_cons_self
    · exact (ih hrest).imp_left (List.mem_cons_of_mem _)

/-! ## Longer texts -/

/-- A text does not become shorter where something longer is written. -/
theorem length_le_go (hlonger : old.length < new.length) (skip : Nat) (t : Text) :
    t.length ≤ skip + (replace.go old new skip t).length := by
  fun_induction replace.go old new skip t with
  | case1 => exact Nat.zero_le _
  | case2 skip _ rest ih =>
    rw [List.length_cons]
    omega
  | case3 c rest _ ih =>
    rw [List.length_cons, List.length_append]
    omega
  | case4 c rest _ ih =>
    rw [List.length_cons, List.length_cons]
    omega

/-- With every occurrence the text becomes longer. -/
theorem length_lt_replace (hne : old ≠ []) (hlonger : old.length < new.length) (h : old <:+: t) :
    t.length < (replace old new t).length := by
  induction t with
  | nil => exact absurd (List.infix_nil.1 h) hne
  | cons d rest ih =>
    by_cases hbegins : old <+: d :: rest
    · have hpos : 0 < old.length := List.length_pos_iff.2 hne
      have hrest := length_le_go hlonger (old.length - 1) rest
      rw [replace_of_isPrefix hbegins, List.length_append, List.length_cons]
      omega
    · rw [replace_of_not_isPrefix hbegins, List.length_cons, List.length_cons]
      exact Nat.succ_lt_succ (ih ((List.infix_cons_iff.1 h).resolve_left hbegins))

theorem replace_eq_self_iff (hne : old ≠ []) (hlonger : old.length < new.length) :
    replace old new t = t ↔ occursIn old t = false := by
  refine ⟨fun heq => ?_, replace_of_not_occursIn⟩
  rw [← Bool.not_eq_true, occursIn_iff]
  intro h
  exact absurd (congrArg List.length heq) (Nat.ne_of_gt (length_lt_replace hne hlonger h))

/-! ## Pieces behind a character -/

/-- The pieces one after the other, each behind the character. -/
def behind (c : Char) (pieces : List Text) : Text := pieces.flatMap (c :: ·)

@[simp] theorem behind_nil : behind c [] = [] := rfl

@[simp] theorem behind_cons (piece : Text) (rest : List Text) :
    behind c (piece :: rest) = c :: (piece ++ behind c rest) := rfl

theorem intercalate_cons (piece : Text) (rest : List Text) :
    [c].intercalate (piece :: rest) = piece ++ behind c rest := by
  induction rest generalizing piece with
  | nil => simp
  | cons next rest ih => simp [List.intercalate_cons_cons, ih]

/-- What is left of a piece, and of the character before it, when a mark is taken out. -/
def remnant (c : Char) (mark piece : Text) : Text :=
  if mark <+: piece then piece.drop mark.length else c :: piece

/-- A mark does not reach beyond a piece. -/
theorem prefix_append_behind (hmark : c ∉ mark) (piece : Text) (rest : List Text) :
    mark <+: piece ++ behind c rest ↔ mark <+: piece := by
  refine ⟨fun h => ?_, fun h => h.trans (List.prefix_append ..)⟩
  rcases List.prefix_or_prefix_of_prefix h (List.prefix_append piece _) with hin | ⟨more, rfl⟩
  · exact hin
  -- The mark goes on behind the piece, so it would begin there with the character.
  · rw [List.prefix_append_right_inj] at h
    cases more with
    | nil => simp
    | cons d more =>
      cases rest with
      | nil => simp at h
      | cons next rest =>
        obtain ⟨rfl, -⟩ := List.cons_prefix_cons.1 h
        exact absurd (List.mem_append_right _ List.mem_cons_self) hmark

/-- A mark behind a text that holds none does not begin before its place. -/
theorem replace_append_mark (hmark : c ∉ mark) (h : occursIn (c :: mark) s = false) :
    replace (c :: mark) new (s ++ c :: mark) = s ++ new := by
  induction s with
  | nil =>
    have hfront : replace (c :: mark) new (c :: (mark ++ [])) = new ++ [] := replace_mark mark
    simpa using hfront
  | cons d rest ih =>
    obtain ⟨hbegins, hrest⟩ := Bool.or_eq_false_iff.1 h
    have hbehind : ¬ c :: mark <+: d :: (rest ++ c :: mark) := by
      intro hprefix
      obtain ⟨rfl, hprefix⟩ := List.cons_prefix_cons.1 hprefix
      have hin : mark <+: rest :=
        (prefix_append_behind hmark rest [mark]).1 (by simpa using hprefix)
      rw [List.isPrefixOf_iff_prefix.2 ((List.prefix_cons_inj _).2 hin)] at hbegins
      cases hbegins
    rw [List.cons_append, replace_of_not_isPrefix hbehind, ih hrest, List.cons_append]

theorem replace_behind (hmark : c ∉ mark) {pieces : List Text} (h : ∀ piece ∈ pieces, c ∉ piece) :
    replace (c :: mark) [] (behind c pieces) = pieces.flatMap (remnant c mark) := by
  induction pieces with
  | nil => rfl
  | cons piece rest ih =>
    obtain ⟨hpiece, hrest⟩ := List.forall_mem_cons.1 h
    rw [behind_cons, List.flatMap_cons, remnant]
    by_cases hbegins : mark <+: piece
    · obtain ⟨more, rfl⟩ := hbegins
      have hmore : c ∉ more := fun hmem => hpiece (List.mem_append_right mark hmem)
      rw [List.append_assoc, replace_mark, List.nil_append, replace_append_of_notMem hmore,
        ih hrest]
      simp
    · have hbehind := mt (prefix_append_behind hmark piece rest).1 hbegins
      rw [if_neg hbegins, replace_of_not_isPrefix (by simpa using hbehind),
        replace_append_of_notMem hpiece, ih hrest, List.cons_append]

/-- Each character that is left stands before a piece that has kept its mark. -/
theorem count_remnants {pieces : List Text} (h : ∀ piece ∈ pieces, c ∉ piece) :
    (pieces.flatMap (remnant c mark)).count c = pieces.countP fun piece => ¬ mark <+: piece := by
  induction pieces with
  | nil => rfl
  | cons piece rest ih =>
    obtain ⟨hpiece, hrest⟩ := List.forall_mem_cons.1 h
    have hdrop : c ∉ piece.drop mark.length := fun hmem => hpiece (List.mem_of_mem_drop hmem)
    rw [List.flatMap_cons, List.count_append, ih hrest, List.countP_cons, remnant]
    by_cases hbegins : mark <+: piece
    · simp [hbegins, List.count_eq_zero.2 hdrop]
    · simp [hbegins, List.count_eq_zero.2 hpiece, Nat.add_comm]

theorem count_behind {pieces : List Text} (h : ∀ piece ∈ pieces, c ∉ piece) :
    (behind c pieces).count c = pieces.length := by
  induction pieces with
  | nil => rfl
  | cons piece rest ih =>
    obtain ⟨hpiece, hrest⟩ := List.forall_mem_cons.1 h
    simp [List.count_eq_zero.2 hpiece, ih hrest]

/-- The pieces stay as they are only if none of them begins like the rest of the mark. -/
theorem remnants_eq_iff {pieces : List Text} (h : ∀ piece ∈ pieces, c ∉ piece) :
    pieces.flatMap (remnant c mark) = behind c pieces ↔ ∀ piece ∈ pieces, ¬ mark <+: piece := by
  constructor
  · intro heq
    have hcount := congrArg (List.count c) heq
    rw [count_remnants h, count_behind h, List.countP_eq_length] at hcount
    simpa using hcount
  · intro hkept
    refine congrArg List.flatten (List.map_congr_left fun piece hmem => ?_)
    exact if_neg (hkept piece hmem)

/-! ## One character in the place of another -/

theorem notMem_intercalate {pieces : List Text} (hne : c ≠ d) (h : ∀ piece ∈ pieces, c ∉ piece) :
    c ∉ [d].intercalate pieces := by
  cases pieces with
  | nil => exact List.not_mem_nil
  | cons first others =>
    obtain ⟨hfirst, hothers⟩ := List.forall_mem_cons.1 h
    rw [intercalate_cons]
    intro hmem
    rcases List.mem_append.1 hmem with hmem | hmem
    · exact hfirst hmem
    obtain ⟨piece, hpiece, hmem⟩ := List.mem_flatMap.1 hmem
    rcases List.mem_cons.1 hmem with rfl | hmem
    · exact hne rfl
    · exact hothers piece hpiece hmem

theorem replaceChar_append (s t : Text) :
    replaceChar c d (s ++ t) = replaceChar c d s ++ replaceChar c d t :=
  List.map_append

theorem replaceChar_of_notMem (h : c ∉ s) : replaceChar c d s = s := by
  have hsame : ∀ e ∈ s, (if e = c then d else e) = e := by
    intro e hmem
    exact if_neg fun he : e = c => h (he ▸ hmem)
  rw [replaceChar, List.map_congr_left hsame, List.map_id']

theorem replaceChar_behind {pieces : List Text} (h : ∀ piece ∈ pieces, c ∉ piece) :
    replaceChar c d (behind c pieces) = behind d pieces := by
  induction pieces with
  | nil => rfl
  | cons piece rest ih =>
    obtain ⟨hpiece, hrest⟩ := List.forall_mem_cons.1 h
    have hhead : replaceChar c d (c :: (piece ++ behind c rest)) =
        d :: replaceChar c d (piece ++ behind c rest) := by
      simp [replaceChar]
    rw [behind_cons, behind_cons, hhead, replaceChar_append, replaceChar_of_notMem hpiece,
      ih hrest]

theorem replaceChar_intercalate {pieces : List Text} (h : ∀ piece ∈ pieces, c ∉ piece) :
    replaceChar c d ([c].intercalate pieces) = [d].intercalate pieces := by
  cases pieces with
  | nil => rfl
  | cons first others =>
    obtain ⟨hfirst, hothers⟩ := List.forall_mem_cons.1 h
    rw [intercalate_cons, intercalate_cons, replaceChar_append, replaceChar_of_notMem hfirst,
      replaceChar_behind hothers]

end ClassLocator.Text

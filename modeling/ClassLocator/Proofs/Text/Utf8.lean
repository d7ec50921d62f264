import ClassLocator.Text.Utf8
import Mathlib.Algebra.Group.Nat.Defs
import Mathlib.Data.List.Basic
import Mathlib.Tactic.SplitIfs

/-!
# Reading what is written in UTF-8

A character of several bytes has its number cut into groups of six bits, one group for each byte
after the first. What the decoder keeps between two bytes is the front of such a number and the
bounds of the group that comes next, so a character is read if its number has this front and this
group.

The bounds let through the numbers that are characters and need as many bytes, and no others. So
bytes without a broken piece are the bytes of a text, and decoding is the inverse of encoding.

## Main definitions

* `Utf8.tail`: the bytes of a character after the first one.
* `Utf8.Fits`: the numbers that the decoder can still come to.

## Main statements

* `Utf8.piecesFrom_tail`, `Utf8.exists_fits`: the bytes after the first one, read and recovered.
* `Utf8.pieces_encodeChar_append`, `Utf8.exists_encodeChar`: the same for a whole character.
* `Utf8.decode?_eq_some_iff`: a text is decoded from its encoding and from nothing else.
-/

namespace ClassLocator.Utf8

variable {bytes : Bytes} {text : Text} {value low high more n : Nat} {b : UInt8} {c : Char}

/-! ## Bytes and numbers -/

/-- The bound of a byte as a numeral, so that it is a matter of arithmetic. -/
theorem toNat_ofNat_of_lt (h : n < 0x100) : (UInt8.ofNat n).toNat = n :=
  UInt8.toNat_ofNat_of_lt' h

theorem ofNat_eq_of_toNat (h : b.toNat = n) : UInt8.ofNat n = b := by
  rw [← h, UInt8.ofNat_toNat]

/-- A character is no surrogate and not above the last code point. -/
theorem toNat_bounds (c : Char) : c.toNat < 0xD800 ∨ 0xE000 ≤ c.toNat ∧ c.toNat < 0x110000 := by
  have hvalid : c.toNat < 0xD800 ∨ 0xDFFF < c.toNat ∧ c.toNat < 0x110000 := c.valid
  omega

theorem exists_toNat_eq (h : n < 0xD800 ∨ 0xE000 ≤ n ∧ n < 0x110000) :
    ∃ c : Char, c.toNat = n := by
  have hvalid : n.isValidChar := by
    unfold Nat.isValidChar
    omega
  exact ⟨Char.ofNatAux n hvalid, rfl⟩

/-! ## The bytes after the first one -/

/-- The last `count` bytes of a character; each of them holds six bits of its number. -/
def tail : Nat → Nat → Bytes
  | 0, _ => []
  | count + 1, n => UInt8.ofNat (0x80 + n / 64 ^ count % 64) :: tail count n

/-- The number has this value in front of its last `more + 1` groups of six bits, and the first of
these groups makes a byte between the bounds. -/
structure Fits (value low high more n : Nat) : Prop where
  value_eq : n / 64 ^ (more + 1) = value
  low_le : low ≤ 0x80 + n / 64 ^ more % 64
  le_high : 0x80 + n / 64 ^ more % 64 ≤ high

theorem toNat_ofNat_group (n : Nat) : (UInt8.ofNat (0x80 + n % 64)).toNat = 0x80 + n % 64 :=
  toNat_ofNat_of_lt (by omega)

theorem div_pow_succ (n count : Nat) : n / 64 ^ (count + 1) = n / 64 ^ count / 64 := by
  rw [Nat.pow_succ, Nat.div_div_eq_div_mul]

theorem step_within_last (h : low ≤ b.toNat ∧ b.toNat ≤ high) (value : Nat) :
    step (.within value low high 0) b =
      ([some (Char.ofNat (value * 64 + (b.toNat - 0x80)))], .start) :=
  if_pos h

theorem step_within_more (h : low ≤ b.toNat ∧ b.toNat ≤ high) (value more : Nat) :
    step (.within value low high (more + 1)) b =
      ([], .within (value * 64 + (b.toNat - 0x80)) 0x80 0xBF more) :=
  if_pos h

theorem mem_step_within (h : ¬ (low ≤ b.toNat ∧ b.toNat ≤ high)) (value more : Nat) :
    none ∈ (step (.within value low high more) b).1 := by
  rw [step, if_neg h]
  exact List.mem_cons_self

theorem piecesFrom_tail (h : Fits value low high more n) (rest : Bytes) :
    piecesFrom (.within value low high more) (tail (more + 1) n ++ rest) =
      some (Char.ofNat n) :: pieces rest := by
  induction more generalizing value low high with
  | zero =>
    obtain ⟨hvalue, hlow, hhigh⟩ := h
    have hnumber : value * 64 + (0x80 + n / 64 ^ 0 % 64 - 0x80) = n := by omega
    rw [tail, List.cons_append, piecesFrom_cons,
      step_within_last (by rw [toNat_ofNat_group]; exact ⟨hlow, hhigh⟩), toNat_ofNat_group, hnumber]
    rfl
  | succ more ih =>
    obtain ⟨hvalue, hlow, hhigh⟩ := h
    rw [tail, List.cons_append, piecesFrom_cons,
      step_within_more (by rw [toNat_ofNat_group]; exact ⟨hlow, hhigh⟩), toNat_ofNat_group]
    rw [div_pow_succ] at hvalue
    exact ih ⟨by omega, by omega, by omega⟩

/-- What is read without a broken piece are the last bytes of a number that fits. -/
theorem exists_fits (hlow : 0x80 ≤ low) (hhigh : high ≤ 0xBF)
    (h : none ∉ piecesFrom (.within value low high more) bytes) :
    ∃ n rest, Fits value low high more n ∧ bytes = tail (more + 1) n ++ rest := by
  induction more generalizing value low high bytes with
  | zero =>
    cases bytes with
    | nil => exact absurd List.mem_cons_self h
    | cons b bytes =>
      rw [piecesFrom_cons] at h
      have hb : low ≤ b.toNat ∧ b.toNat ≤ high := by
        by_contra hout
        exact h (List.mem_append_left _ (mem_step_within hout value 0))
      refine ⟨value * 64 + (b.toNat - 0x80), bytes, ⟨by omega, by omega, by omega⟩, ?_⟩
      rw [tail, ofNat_eq_of_toNat (b := b) (by omega)]
      rfl
  | succ more ih =>
    cases bytes with
    | nil => exact absurd List.mem_cons_self h
    | cons b bytes =>
      rw [piecesFrom_cons] at h
      have hb : low ≤ b.toNat ∧ b.toNat ≤ high := by
        by_contra hout
        exact h (List.mem_append_left _ (mem_step_within hout value (more + 1)))
      rw [step_within_more hb] at h
      obtain ⟨n, rest, ⟨hvalue, -, -⟩, rfl⟩ := ih (Nat.le_refl _) (Nat.le_refl _) h
      have hfront := div_pow_succ n (more + 1)
      refine ⟨n, rest, ⟨by omega, by omega, by omega⟩, ?_⟩
      rw [tail.eq_2 n (more + 1), ofNat_eq_of_toNat (b := b) (by omega)]
      rfl

/-! ## The first byte -/

theorem encodeChar_one (h : c.toNat < 0x80) : String.utf8EncodeChar c = [UInt8.ofNat c.toNat] :=
  if_pos (Nat.le_of_lt_succ h)

theorem encodeChar_two (hleast : 0x80 ≤ c.toNat) (hlimit : c.toNat < 0x800) :
    String.utf8EncodeChar c = UInt8.ofNat (0xC0 + c.toNat / 64) :: tail 1 c.toNat := by
  have hval : c.val.toNat = c.toNat := rfl
  have hlead : c.toNat / 64 % 32 + 192 = 0xC0 + c.toNat / 64 := by omega
  have hlast : c.toNat % 64 + 128 = 0x80 + c.toNat / 64 ^ 0 % 64 := by omega
  simp only [String.utf8EncodeChar, hval, tail]
  rw [if_neg (by omega), if_pos (by omega), hlead, hlast]

theorem encodeChar_three (hleast : 0x800 ≤ c.toNat) (hlimit : c.toNat < 0x10000) :
    String.utf8EncodeChar c = UInt8.ofNat (0xE0 + c.toNat / 64 ^ 2) :: tail 2 c.toNat := by
  have hval : c.val.toNat = c.toNat := rfl
  have hlead : c.toNat / 4096 % 16 + 224 = 0xE0 + c.toNat / 64 ^ 2 := by omega
  have hnext : c.toNat / 64 % 64 + 128 = 0x80 + c.toNat / 64 ^ 1 % 64 := by omega
  have hlast : c.toNat % 64 + 128 = 0x80 + c.toNat / 64 ^ 0 % 64 := by omega
  simp only [String.utf8EncodeChar, hval, tail]
  rw [if_neg (by omega), if_neg (by omega), if_pos (by omega), hlead, hnext, hlast]

theorem encodeChar_four (hleast : 0x10000 ≤ c.toNat) :
    String.utf8EncodeChar c = UInt8.ofNat (0xF0 + c.toNat / 64 ^ 3) :: tail 3 c.toNat := by
  have hval : c.val.toNat = c.toNat := rfl
  have hbounds := toNat_bounds c
  have hlead : c.toNat / 262144 % 8 + 240 = 0xF0 + c.toNat / 64 ^ 3 := by omega
  have hsecond : c.toNat / 4096 % 64 + 128 = 0x80 + c.toNat / 64 ^ 2 % 64 := by omega
  have hthird : c.toNat / 64 % 64 + 128 = 0x80 + c.toNat / 64 ^ 1 % 64 := by omega
  have hlast : c.toNat % 64 + 128 = 0x80 + c.toNat / 64 ^ 0 % 64 := by omega
  simp only [String.utf8EncodeChar, hval, tail]
  rw [if_neg (by omega), if_neg (by omega), if_neg (by omega), hlead, hsecond, hthird, hlast]

theorem enter_one (h : b.toNat < 0x80) : enter b = ([some (Char.ofNat b.toNat)], .start) :=
  if_pos h

theorem enter_two (hleast : 0xC2 ≤ b.toNat) (hlimit : b.toNat < 0xE0) :
    enter b = ([], .within (b.toNat - 0xC0) 0x80 0xBF 0) := by
  unfold enter
  rw [if_neg (by omega), if_neg (by omega), if_pos hlimit]

/-- A character of three bytes is neither one that needs fewer nor a surrogate. -/
theorem enter_three (hleast : 0xE0 ≤ b.toNat) (hlimit : b.toNat < 0xF0) :
    enter b = ([], .within (b.toNat - 0xE0) (if b.toNat = 0xE0 then 0xA0 else 0x80)
      (if b.toNat = 0xED then 0x9F else 0xBF) 1) := by
  unfold enter
  rw [if_neg (by omega), if_neg (by omega), if_neg (by omega)]
  by_cases hfirst : b.toNat = 0xE0
  · simp [hfirst]
  by_cases hsurrogate : b.toNat = 0xED
  · simp [hsurrogate]
  · simp [hfirst, hsurrogate, hlimit]

/-- A character of four bytes is neither one that needs fewer nor above the last one. -/
theorem enter_four (hleast : 0xF0 ≤ b.toNat) (hlimit : b.toNat < 0xF5) :
    enter b = ([], .within (b.toNat - 0xF0) (if b.toNat = 0xF0 then 0x90 else 0x80)
      (if b.toNat = 0xF4 then 0x8F else 0xBF) 2) := by
  unfold enter
  rw [if_neg (by omega), if_neg (by omega), if_neg (by omega), if_neg (by omega),
    if_neg (by omega), if_neg (by omega)]
  by_cases hfirst : b.toNat = 0xF0
  · simp [hfirst]
  by_cases hlast : b.toNat = 0xF4
  · simp [hlast]
  · simp [hfirst, hlast, show b.toNat < 0xF4 by omega]

theorem enter_broken (hleast : 0x80 ≤ b.toNat) (h : b.toNat < 0xC2 ∨ 0xF5 ≤ b.toNat) :
    enter b = ([none], .start) := by
  unfold enter
  rcases h with h | h
  · rw [if_neg (by omega), if_pos h]
  · rw [if_neg (by omega), if_neg (by omega), if_neg (by omega), if_neg (by omega),
      if_neg (by omega), if_neg (by omega), if_neg (by omega), if_neg (by omega),
      if_neg (by omega)]

/-! ## Characters -/

theorem pieces_cons_of_enter (h : enter b = ([], .within value low high more)) (rest : Bytes) :
    pieces (b :: rest) = piecesFrom (.within value low high more) rest := by
  rw [pieces, piecesFrom_cons, step, h, List.nil_append]

theorem pieces_encodeChar_append (c : Char) (rest : Bytes) :
    pieces (String.utf8EncodeChar c ++ rest) = some c :: pieces rest := by
  have hbounds := toNat_bounds c
  have hsame : some (Char.ofNat c.toNat) = some c := congrArg some (Char.ofNat_toNat c)
  rcases Nat.lt_or_ge c.toNat 0x80 with hone | hone
  · have hlead := toNat_ofNat_of_lt (n := c.toNat) (by omega)
    rw [encodeChar_one hone, List.singleton_append, pieces, piecesFrom_cons, step,
      enter_one (by omega), hlead, hsame]
    rfl
  rcases Nat.lt_or_ge c.toNat 0x800 with htwo | htwo
  · have hlead := toNat_ofNat_of_lt (n := 0xC0 + c.toNat / 64) (by omega)
    rw [encodeChar_two hone htwo, List.cons_append,
      pieces_cons_of_enter (enter_two (by omega) (by omega)), piecesFrom_tail, hsame]
    exact ⟨by omega, by omega, by omega⟩
  rcases Nat.lt_or_ge c.toNat 0x10000 with hthree | hthree
  · have hlead := toNat_ofNat_of_lt (n := 0xE0 + c.toNat / 64 ^ 2) (by omega)
    rw [encodeChar_three htwo hthree, List.cons_append,
      pieces_cons_of_enter (enter_three (by omega) (by omega)), piecesFrom_tail, hsame]
    exact ⟨by omega, by split_ifs <;> omega, by split_ifs <;> omega⟩
  · have hlead := toNat_ofNat_of_lt (n := 0xF0 + c.toNat / 64 ^ 3) (by omega)
    rw [encodeChar_four hthree, List.cons_append,
      pieces_cons_of_enter (enter_four (by omega) (by omega)), piecesFrom_tail, hsame]
    exact ⟨by omega, by split_ifs <;> omega, by split_ifs <;> omega⟩

/-- What is read without a broken piece begins with a character. -/
theorem exists_encodeChar (h : none ∉ pieces (b :: bytes)) :
    ∃ c rest, b :: bytes = String.utf8EncodeChar c ++ rest := by
  rcases Nat.lt_or_ge b.toNat 0x80 with hone | hone
  · obtain ⟨c, hc⟩ := exists_toNat_eq (n := b.toNat) (by omega)
    refine ⟨c, bytes, ?_⟩
    rw [encodeChar_one (by omega), hc, UInt8.ofNat_toNat, List.singleton_append]
  by_cases hbroken : b.toNat < 0xC2 ∨ 0xF5 ≤ b.toNat
  · rw [pieces, piecesFrom_cons, step, enter_broken hone hbroken] at h
    exact absurd List.mem_cons_self h
  rcases Nat.lt_or_ge b.toNat 0xE0 with htwo | htwo
  · rw [pieces_cons_of_enter (enter_two (by omega) htwo)] at h
    obtain ⟨n, rest, ⟨hvalue, hlow, hhigh⟩, rfl⟩ := exists_fits (by omega) (by omega) h
    obtain ⟨c, rfl⟩ := exists_toNat_eq (n := n) (by omega)
    refine ⟨c, rest, ?_⟩
    rw [encodeChar_two (by omega) (by omega), ofNat_eq_of_toNat (b := b) (by omega),
      List.cons_append]
  rcases Nat.lt_or_ge b.toNat 0xF0 with hthree | hthree
  · rw [pieces_cons_of_enter (enter_three (by omega) hthree)] at h
    obtain ⟨n, rest, ⟨hvalue, hlow, hhigh⟩, rfl⟩ :=
      exists_fits (by split_ifs <;> omega) (by split_ifs <;> omega) h
    obtain ⟨c, rfl⟩ := exists_toNat_eq (n := n) (by split_ifs at hlow hhigh <;> omega)
    refine ⟨c, rest, ?_⟩
    rw [encodeChar_three (by split_ifs at hlow <;> omega) (by omega),
      ofNat_eq_of_toNat (b := b) (by omega), List.cons_append]
  · rw [pieces_cons_of_enter (enter_four (by omega) (by omega))] at h
    obtain ⟨n, rest, ⟨hvalue, hlow, hhigh⟩, rfl⟩ :=
      exists_fits (by split_ifs <;> omega) (by split_ifs <;> omega) h
    obtain ⟨c, rfl⟩ := exists_toNat_eq (n := n) (by split_ifs at hlow hhigh <;> omega)
    refine ⟨c, rest, ?_⟩
    rw [encodeChar_four (by split_ifs at hlow <;> omega),
      ofNat_eq_of_toNat (b := b) (by omega), List.cons_append]

/-! ## Texts -/

theorem pieces_encode (text : Text) : pieces (encode text) = text.map some := by
  induction text with
  | nil => rfl
  | cons c text ih => rw [encode_cons, pieces_encodeChar_append, ih, List.map_cons]

theorem exists_encode (h : none ∉ pieces bytes) : ∃ text, encode text = bytes := by
  -- A character has at least one byte, so fewer bytes are left behind it.
  induction hlength : bytes.length using Nat.strongRecOn generalizing bytes with
  | _ length ih =>
    cases bytes with
    | nil => exact ⟨[], rfl⟩
    | cons b bytes =>
      obtain ⟨c, rest, hbytes⟩ := exists_encodeChar h
      have hshorter : rest.length < length := by
        have hchar := String.length_utf8EncodeChar c
        have hpos := c.utf8Size_pos
        have hwhole := congrArg List.length hbytes
        rw [List.length_append] at hwhole
        omega
      rw [hbytes, pieces_encodeChar_append] at h
      obtain ⟨text, rfl⟩ := ih rest.length hshorter (List.not_mem_of_not_mem_cons h) rfl
      exact ⟨c :: text, hbytes.symm⟩

theorem mapM_id_map_some (text : Text) : (text.map some).mapM id = some text := by
  induction text with
  | nil => rfl
  | cons c text ih => rw [List.map_cons, List.mapM_cons, ih]; rfl

theorem notMem_of_mapM_id {given : List Piece} (h : given.mapM id = some text) :
    none ∉ given := by
  induction given generalizing text with
  | nil => exact List.not_mem_nil
  | cons piece given ih =>
    rw [List.mapM_cons] at h
    obtain ⟨c, rfl, hrest⟩ := Option.bind_eq_some_iff.1 h
    obtain ⟨others, hothers, -⟩ := Option.bind_eq_some_iff.1 hrest
    exact List.not_mem_cons_of_ne_of_not_mem nofun (ih hothers)

@[simp] theorem decode?_encode (text : Text) : decode? (encode text) = some text := by
  rw [decode?, pieces_encode, mapM_id_map_some]

/-- A text is decoded from its encoding and from nothing else. -/
theorem decode?_eq_some_iff : decode? bytes = some text ↔ encode text = bytes := by
  constructor
  · intro h
    obtain ⟨whole, rfl⟩ := exists_encode (notMem_of_mapM_id h)
    rw [decode?_encode] at h
    rw [Option.some.inj h]
  · rintro rfl
    exact decode?_encode text

end ClassLocator.Utf8

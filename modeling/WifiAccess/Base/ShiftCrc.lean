import Mathlib.Data.List.Basic

/-! A cyclic redundancy register fed one word at a time. With an odd polynomial
every shift is a bijection, so a wrong register is never corrected by later words. -/

namespace WifiAccess.ShiftCrc

variable {n : Nat} (poly : BitVec n)

def shift (register : BitVec n) : BitVec n :=
  if register.msb then (register <<< 1) ^^^ poly else register <<< 1

def shifts : Nat → BitVec n → BitVec n
  | 0, register => register
  | count + 1, register => shifts count (shift poly register)

/-- Add a word and shift once for each of its bits. -/
def feed (register word : BitVec n) : BitVec n := shifts poly n (register ^^^ word)

def feedAll (register : BitVec n) (words : List (BitVec n)) : BitVec n :=
  words.foldl (feed poly) register

variable {poly}

theorem feedAll_cons (register word : BitVec n) (rest : List (BitVec n)) :
    feedAll poly register (word :: rest) = feedAll poly (feed poly register word) rest := rfl

theorem feedAll_append (register : BitVec n) (first second : List (BitVec n)) :
    feedAll poly register (first ++ second) = feedAll poly (feedAll poly register first) second :=
  List.foldl_append

private theorem shiftLeft_injective {a b : BitVec n} (top : a.msb = b.msb)
    (same : a <<< 1 = b <<< 1) : a = b := by
  apply BitVec.eq_of_getLsbD_eq
  intro i inside
  by_cases last : i + 1 < n
  · have bit := congrArg (fun word : BitVec n => word.getLsbD (i + 1)) same
    simpa [BitVec.getLsbD_shiftLeft, last, BitVec.getLsbD_eq_getElem inside] using bit
  · have index : i = n - 1 := by omega
    rw [BitVec.msb_eq_getLsbD_last, BitVec.msb_eq_getLsbD_last] at top
    rwa [index]

private theorem low_bit_set (odd : poly.getLsbD 0 = true) (a b : BitVec n) :
    (a <<< 1) ^^^ poly ≠ b <<< 1 := by
  intro same
  have bit := congrArg (fun word : BitVec n => word.getLsbD 0) same
  simp [BitVec.getLsbD_xor, odd] at bit

theorem shift_injective (odd : poly.getLsbD 0 = true) {a b : BitVec n}
    (same : shift poly a = shift poly b) : a = b := by
  unfold shift at same
  cases high : a.msb <;> cases other : b.msb <;>
    simp only [high, other, Bool.false_eq_true, ↓reduceIte] at same
  · exact shiftLeft_injective (high.trans other.symm) same
  · exact absurd same.symm (low_bit_set odd b a)
  · exact absurd same (low_bit_set odd a b)
  · exact shiftLeft_injective (high.trans other.symm) ((BitVec.xor_left_inj poly).mp same)

theorem shifts_injective (odd : poly.getLsbD 0 = true) (count : Nat) {a b : BitVec n}
    (same : shifts poly count a = shifts poly count b) : a = b := by
  induction count generalizing a b with
  | zero => exact same
  | succ count ih => exact shift_injective odd (ih same)

theorem feed_injective (odd : poly.getLsbD 0 = true) {a b word : BitVec n}
    (same : feed poly a word = feed poly b word) : a = b :=
  (BitVec.xor_left_inj word).mp (shifts_injective odd n same)

/-- Two registers that differ keep differing under the same words. -/
theorem feedAll_injective (odd : poly.getLsbD 0 = true) (words : List (BitVec n)) {a b : BitVec n}
    (same : feedAll poly a words = feedAll poly b words) : a = b := by
  induction words generalizing a b with
  | nil => exact same
  | cons word rest ih => exact feed_injective odd (ih same)

/-! ## Linearity -/

theorem shift_xor (a b : BitVec n) : shift poly (a ^^^ b) = shift poly a ^^^ shift poly b := by
  have twice (word : BitVec n) : word ^^^ poly ^^^ poly = word := by
    rw [BitVec.xor_assoc, BitVec.xor_self, BitVec.xor_zero]
  unfold shift
  cases high : a.msb <;> cases other : b.msb <;>
    simp only [BitVec.msb_xor, high, other, Bool.xor_false, Bool.xor_true, Bool.not_false,
      Bool.not_true,
      Bool.false_eq_true, ↓reduceIte, BitVec.shiftLeft_xor_distrib]
  · rw [BitVec.xor_assoc]
  · rw [BitVec.xor_assoc, BitVec.xor_comm (b <<< 1), BitVec.xor_assoc]
  · rw [BitVec.xor_comm (b <<< 1), ← BitVec.xor_assoc, twice]

theorem shifts_xor (count : Nat) (a b : BitVec n) :
    shifts poly count (a ^^^ b) = shifts poly count a ^^^ shifts poly count b := by
  induction count generalizing a b with
  | zero => rfl
  | succ count ih => rw [shifts, shift_xor, ih, shifts, shifts]

theorem shift_zero : shift poly 0#n = 0#n := by
  simp [shift]

theorem shifts_zero (count : Nat) : shifts poly count 0#n = 0#n := by
  induction count with
  | zero => rfl
  | succ count ih => rw [shifts, shift_zero, ih]

/-- A register that is not zero stays so under words that are all zero. -/
theorem feedAll_zeros (odd : poly.getLsbD 0 = true) {register : BitVec n} (nonzero : register ≠ 0#n)
    (count : Nat) :
    feedAll poly register (List.replicate count 0#n) ≠ 0#n := by
  have zero : feedAll poly 0#n (List.replicate count 0#n) = 0#n := by
    induction count with
    | zero => rfl
    | succ count ih =>
      rw [List.replicate_succ, feedAll_cons, feed, BitVec.xor_zero, shifts_zero]
      exact ih
  intro same
  exact nonzero (feedAll_injective odd _ (same.trans zero.symm))

theorem feed_word_injective (odd : poly.getLsbD 0 = true) {register a b : BitVec n}
    (same : feed poly register a = feed poly register b) : a = b :=
  (BitVec.xor_right_inj register).mp (shifts_injective odd n same)

private theorem xor_exchange {x y a b : BitVec n} (same : x ^^^ a = y ^^^ b) :
    x ^^^ y = a ^^^ b := by
  have exchange : ∀ p q r t : Bool, (p ^^ r) = (q ^^ t) → (p ^^ q) = (r ^^ t) := by decide
  apply BitVec.eq_of_getLsbD_eq
  intro i _
  have bit := congrArg (fun word : BitVec n => word.getLsbD i) same
  simp only [BitVec.getLsbD_xor] at bit ⊢
  exact exchange _ _ _ _ bit

/-- Two words in a row are only replaced unnoticed when the shifted difference of the
first ones is the difference of the second ones. -/
theorem feed_pair (odd : poly.getLsbD 0 = true) {register a b first second : BitVec n}
    (same : feed poly (feed poly register a) first = feed poly (feed poly register b) second) :
    shifts poly n (a ^^^ b) = first ^^^ second := by
  have words : shifts poly n (register ^^^ a) ^^^ first =
      shifts poly n (register ^^^ b) ^^^ second :=
    shifts_injective odd n same
  have inner : register ^^^ a ^^^ (register ^^^ b) = a ^^^ b := by
    rw [BitVec.xor_comm register b, ← BitVec.xor_assoc, BitVec.xor_comm, ← BitVec.xor_assoc,
      ← BitVec.xor_assoc,
      BitVec.xor_self, BitVec.zero_xor]
  rw [← xor_exchange words, ← shifts_xor, inner]

end WifiAccess.ShiftCrc

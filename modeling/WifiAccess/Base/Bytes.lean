import Mathlib.Data.List.Basic
import Mathlib.Tactic.Ring

/-! Byte strings read and written by offset. A byte past the end of a string
reads as zero, so the laws of windows need no bound on the offsets. -/

namespace WifiAccess

abbrev Byte := BitVec 8

theorem ext_getD {xs ys : List Byte} (size : xs.length = ys.length)
    (same : ∀ i, xs.getD i 0#8 = ys.getD i 0#8) : xs = ys := by
  apply List.ext_getElem size
  intro i left right
  simpa [left, right] using same i

theorem getD_past {xs : List Byte} {i : Nat} (past : xs.length ≤ i) : xs.getD i 0#8 = 0#8 := by
  simp [past]

theorem getD_append (xs ys : List Byte) (i : Nat) :
    (xs ++ ys).getD i 0#8 = if i < xs.length then xs.getD i 0#8
      else ys.getD (i - xs.length) 0#8 := by
  split <;> rename_i bound
  · simp [List.getElem?_append_left bound]
  · simp [List.getElem?_append_right (Nat.le_of_not_lt bound)]

@[simp] theorem getD_zeros (n i : Nat) : (List.replicate n 0#8).getD i 0#8 = 0#8 := by
  by_cases bound : i < n <;> simp [bound]

theorem getD_take (xs : List Byte) (n i : Nat) :
    (xs.take n).getD i 0#8 = if i < n then xs.getD i 0#8 else 0#8 := by
  split <;> rename_i bound <;> simp [bound]

@[simp] theorem getD_drop (xs : List Byte) (n i : Nat) :
    (xs.drop n).getD i 0#8 = xs.getD (n + i) 0#8 := by
  simp

/-! ## Windows and splices -/

/-- The `len` bytes from offset `off`, zero past the end. -/
def window (xs : List Byte) (off len : Nat) : List Byte :=
  (xs.drop off ++ List.replicate len 0#8).take len

@[simp] theorem length_window (xs : List Byte) (off len : Nat) :
    (window xs off len).length = len := by
  simp [window]

theorem getD_window (xs : List Byte) (off len i : Nat) :
    (window xs off len).getD i 0#8 = if i < len then xs.getD (off + i) 0#8 else 0#8 := by
  unfold window
  rw [getD_take, getD_append, getD_drop]
  split
  · split
    · rfl
    · rename_i outside
      rw [getD_zeros, getD_past (by simp at outside; omega)]
  · rfl

theorem window_inside {xs : List Byte} {off len : Nat} (inside : off + len ≤ xs.length) :
    window xs off len = (xs.drop off).take len := by
  unfold window
  rw [List.take_append_of_le_length (by rw [List.length_drop]; omega)]

theorem window_ext {xs ys : List Byte} {a b len : Nat}
    (same : ∀ i, i < len → xs.getD (a + i) 0#8 = ys.getD (b + i) 0#8) :
    window xs a len = window ys b len := by
  apply ext_getD (by simp)
  intro i
  rw [getD_window, getD_window]
  split
  · rename_i bound
    exact same i bound
  · rfl

theorem window_window (xs : List Byte) {off len a n : Nat} (inside : a + n ≤ len) :
    window (window xs off len) a n = window xs (off + a) n := by
  apply window_ext
  intro i bound
  rw [getD_window, if_pos (by omega), Nat.add_assoc]

@[simp] theorem window_all (xs : List Byte) : window xs 0 xs.length = xs := by
  rw [window_inside (by simp)]
  simp

theorem window_add (xs : List Byte) (off first second : Nat) :
    window xs off (first + second) = window xs off first ++ window xs (off + first) second := by
  apply ext_getD (by simp)
  intro i
  rw [getD_append, length_window, getD_window, getD_window, getD_window]
  by_cases before : i < first
  · rw [if_pos before, if_pos before, if_pos (by omega)]
  · have index : off + first + (i - first) = off + i := by omega
    rw [if_neg before, index]
    by_cases inside : i < first + second
    · rw [if_pos inside, if_pos (by omega)]
    · rw [if_neg inside, if_neg (by omega)]

theorem window_append_left {xs ys : List Byte} {off len : Nat} (inside : off + len ≤ xs.length) :
    window (xs ++ ys) off len = window xs off len := by
  apply window_ext
  intro i bound
  rw [getD_append, if_pos (by omega)]

theorem window_append_right (xs ys : List Byte) (off len : Nat) :
    window (xs ++ ys) (xs.length + off) len = window ys off len := by
  apply window_ext
  intro i bound
  rw [getD_append, if_neg (by omega), Nat.add_assoc, Nat.add_sub_cancel_left]

theorem window_zeros (n off len : Nat) :
    window (List.replicate n 0#8) off len = List.replicate len 0#8 := by
  apply ext_getD (by simp)
  intro i
  simp only [getD_window, getD_zeros, ite_self]

/-- Overwrite from offset `off`; a gap before `off` is filled with zeros. -/
def splice (xs : List Byte) (off : Nat) (ys : List Byte) : List Byte :=
  (xs ++ List.replicate (off - xs.length) 0#8).take off ++ ys ++ xs.drop (off + ys.length)

@[simp] theorem length_splice (xs : List Byte) (off : Nat) (ys : List Byte) :
    (splice xs off ys).length = max xs.length (off + ys.length) := by
  simp [splice]
  omega

theorem getD_splice (xs : List Byte) (off : Nat) (ys : List Byte) (i : Nat) :
    (splice xs off ys).getD i 0#8 =
      if off ≤ i ∧ i < off + ys.length then ys.getD (i - off) 0#8 else xs.getD i 0#8 := by
  unfold splice
  have front : ((xs ++ List.replicate (off - xs.length) 0#8).take off).length = off := by
    simp; omega
  rw [List.append_assoc, getD_append, front, getD_append, getD_take, getD_append,
    getD_drop, getD_zeros]
  by_cases before : i < off
  · have outside : ¬ (off ≤ i ∧ i < off + ys.length) := by omega
    simp only [before, outside, ↓reduceIte]
    split
    · rfl
    · rw [getD_past (by omega)]
  · by_cases within : i < off + ys.length
    · rw [if_neg before, if_pos (by omega), if_pos (by omega)]
    · rw [if_neg before, if_neg (by omega), if_neg (by omega)]
      congr 1
      omega

@[simp] theorem window_splice_same (xs : List Byte) (off : Nat) (ys : List Byte) :
    window (splice xs off ys) off ys.length = ys := by
  apply ext_getD (by simp)
  intro i
  rw [getD_window, getD_splice]
  split
  · rw [if_pos (by omega), Nat.add_sub_cancel_left]
  · rw [getD_past (by omega)]

theorem window_splice_apart (xs : List Byte) {off : Nat} {ys : List Byte} {a n : Nat}
    (apart : a + n ≤ off ∨ off + ys.length ≤ a) :
    window (splice xs off ys) a n = window xs a n := by
  apply window_ext
  intro i bound
  rw [getD_splice, if_neg (by omega)]

@[simp] theorem splice_nil (ys : List Byte) : splice [] 0 ys = ys := by
  simp [splice]

theorem splice_window (xs : List Byte) {off len : Nat} (inside : off + len ≤ xs.length) :
    splice xs off (window xs off len) = xs := by
  apply ext_getD (by simp; omega)
  intro i
  rw [getD_splice, getD_window, length_window]
  split
  · rw [if_pos (by omega)]
    congr 1
    omega
  · rfl

/-- Extend with zeros up to length `n`. -/
def grow (xs : List Byte) (n : Nat) : List Byte := xs ++ List.replicate (n - xs.length) 0#8

@[simp] theorem length_grow (xs : List Byte) (n : Nat) : (grow xs n).length = max xs.length n := by
  simp [grow]
  omega

@[simp] theorem getD_grow (xs : List Byte) (n i : Nat) :
    (grow xs n).getD i 0#8 = xs.getD i 0#8 := by
  unfold grow
  rw [getD_append, getD_zeros]
  split
  · rfl
  · rw [getD_past (by omega)]

theorem grow_within {xs : List Byte} {n : Nat} (inside : n ≤ xs.length) : grow xs n = xs := by
  simp [grow, Nat.sub_eq_zero_of_le inside]

@[simp] theorem grow_zero (xs : List Byte) : grow xs 0 = xs := grow_within (Nat.zero_le _)

@[simp] theorem window_grow (xs : List Byte) (n off len : Nat) :
    window (grow xs n) off len = window xs off len := by
  apply window_ext
  intro i bound
  rw [getD_grow]

theorem drop_grow (xs : List Byte) (n : Nat) : (grow xs n).drop n = xs.drop n := by
  rcases Nat.le_total n xs.length with inside | past
  · rw [grow_within inside]
  · rw [List.drop_eq_nil_of_le past, List.drop_eq_nil_of_le (by rw [length_grow]; omega)]

@[simp] theorem splice_grow (xs : List Byte) (off : Nat) (ys : List Byte) :
    splice (grow xs off) off ys = splice xs off ys := by
  apply ext_getD (by simp)
  intro i
  rw [getD_splice, getD_splice, getD_grow]

/-! ## Little-endian numbers -/

def leValue : List Byte → Nat
  | [] => 0
  | byte :: rest => byte.toNat + 256 * leValue rest

/-- The low `n` bytes of a number, least significant first. -/
def leBytes : Nat → Nat → List Byte
  | 0, _ => []
  | n + 1, value => BitVec.ofNat 8 value :: leBytes n (value / 256)

@[simp] theorem length_leBytes (n value : Nat) : (leBytes n value).length = n := by
  induction n generalizing value with
  | zero => rfl
  | succ n ih => simp [leBytes, ih]

theorem leValue_lt (bytes : List Byte) : leValue bytes < 256 ^ bytes.length := by
  induction bytes with
  | nil => simp [leValue]
  | cons byte rest ih =>
    have bound := byte.isLt
    simp only [leValue, List.length_cons, Nat.pow_succ]
    omega

theorem leValue_leBytes {n value : Nat} (fits : value < 256 ^ n) :
    leValue (leBytes n value) = value := by
  induction n generalizing value with
  | zero => simp at fits; simp [leBytes, leValue, fits]
  | succ n ih =>
    rw [Nat.pow_succ] at fits
    simp only [leBytes, leValue, BitVec.toNat_ofNat, ih (by omega : value / 256 < 256 ^ n)]
    omega

theorem leBytes_leValue (bytes : List Byte) : leBytes bytes.length (leValue bytes) = bytes := by
  induction bytes with
  | nil => rfl
  | cons byte rest ih =>
    have bound := byte.isLt
    have high : (byte.toNat + 256 * leValue rest) / 256 = leValue rest := by omega
    simp only [List.length_cons, leBytes, leValue, high, ih, List.cons.injEq, and_true]
    apply BitVec.eq_of_toNat_eq
    simp only [BitVec.toNat_ofNat]
    omega

theorem leValue_zeros (n : Nat) : leValue (List.replicate n 0#8) = 0 := by
  induction n with
  | zero => rfl
  | succ n ih => simp [List.replicate_succ, leValue, ih]

theorem leValue_inj {xs ys : List Byte} (size : xs.length = ys.length)
    (same : leValue xs = leValue ys) : xs = ys := by
  rw [← leBytes_leValue xs, ← leBytes_leValue ys, size, same]

/-! ## Bits -/

/-- Bit `k` of a byte string: bit `k % 8` of byte `k / 8`. -/
def bitAt (xs : List Byte) (k : Nat) : Bool := (xs.getD (k / 8) 0#8).getLsbD (k % 8)

/-- The C idiom `x & (1 << k)` on one byte. -/
theorem mask_eq (x : Byte) {k : Nat} (bound : k < 8) :
    (x &&& (1#8 <<< k) = 1#8 <<< k) ↔ x.getLsbD k = true := by
  constructor
  · intro same
    have bit := congrArg (fun b : Byte => b.getLsbD k) same
    simpa [BitVec.getLsbD_shiftLeft, bound] using bit
  · intro bit
    apply BitVec.eq_of_getLsbD_eq
    intro i inside
    rcases Nat.lt_trichotomy i k with below | here | above
    · simp [BitVec.getLsbD_shiftLeft, below]
    · subst here
      simp [bit]
    · have gap : i - k ≠ 0 := by omega
      simp [BitVec.getLsbD_shiftLeft, BitVec.getLsbD_one, gap]

theorem mask_ne_zero (x : Byte) {k : Nat} (bound : k < 8) :
    (x &&& (1#8 <<< k) ≠ 0#8) ↔ x.getLsbD k = true := by
  constructor
  · intro nonzero
    by_contra clear
    apply nonzero
    apply BitVec.eq_of_getLsbD_eq
    intro i inside
    rcases Nat.lt_trichotomy i k with below | here | above
    · simp [BitVec.getLsbD_shiftLeft, below]
    · subst here
      simp at clear
      simp [clear]
    · have gap : i - k ≠ 0 := by omega
      simp [BitVec.getLsbD_shiftLeft, BitVec.getLsbD_one, gap]
  · intro bit zero
    rw [(mask_eq x bound).mpr bit] at zero
    have one := congrArg (fun b : Byte => b.getLsbD k) zero
    simp [bound] at one

theorem getLsbD_mask_or (x : Byte) {k i : Nat} (bound : k < 8) :
    (x ||| (1#8 <<< k)).getLsbD i = if i = k then true else x.getLsbD i := by
  by_cases inside : i < 8
  · rcases Nat.lt_trichotomy i k with below | here | above
    · simp [BitVec.getLsbD_shiftLeft, below, Nat.ne_of_lt below]
    · subst here
      simp [bound]
    · have gap : i - k ≠ 0 := by omega
      simp [BitVec.getLsbD_shiftLeft, BitVec.getLsbD_one, gap, Nat.ne_of_gt above]
  · rw [if_neg (by omega), BitVec.getLsbD_of_ge _ _ (by omega), BitVec.getLsbD_of_ge _ _ (by omega)]

theorem getLsbD_mask_clear (x : Byte) {k i : Nat} (bound : k < 8) :
    (x &&& ~~~(1#8 <<< k)).getLsbD i = if i = k then false else x.getLsbD i := by
  by_cases inside : i < 8
  · rcases Nat.lt_trichotomy i k with below | here | above
    · simp [below, Nat.ne_of_lt below, inside]
    · subst here
      simp [BitVec.getLsbD_shiftLeft]
    · have gap : i - k ≠ 0 := by omega
      simp [gap, Nat.ne_of_gt above, inside]
  · rw [if_neg (by omega), BitVec.getLsbD_of_ge _ _ (by omega), BitVec.getLsbD_of_ge _ _ (by omega)]

end WifiAccess

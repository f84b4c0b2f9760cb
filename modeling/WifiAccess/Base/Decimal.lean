import Mathlib.Data.List.Basic
import Mathlib.Tactic.IntervalCases

/-! Zero-padded decimal fields in the manner of `sprintf`, and their order under
`strcmp`. Within the printed widths the order of the strings is the order of the
field tuples. -/

namespace WifiAccess

/-- `%0wd` of a nonnegative number. -/
def zeroPadded (width n : Nat) : List Char := (Nat.toDigits 10 n).leftpad width '0'

/-- The sign of the first difference, with the end of a string before any character. -/
def strcmp : List Char → List Char → Int
  | [], [] => 0
  | [], _ :: _ => -1
  | _ :: _, [] => 1
  | a :: as, b :: bs => if a = b then strcmp as bs else if a < b then -1 else 1

/-- Numbers printed at the given widths, each followed by its separator. -/
def printFields : List (Nat × List Char) → List Nat → List Char
  | (width, separator) :: layout, n :: rest => zeroPadded width n ++ separator ++
    printFields layout rest
  | _, _ => []

/-- No field is wider than its width. -/
def FieldsFit : List (Nat × List Char) → List Nat → Prop
  | (width, _) :: layout, n :: rest => n < 10 ^ width ∧ FieldsFit layout rest
  | [], [] => True
  | _, _ => False

instance FieldsFit.decide : (layout : List (Nat × List Char)) → (fields : List Nat) →
    Decidable (FieldsFit layout fields)
  | (width, _) :: layout, n :: rest =>
    have := decide layout rest
    inferInstanceAs (Decidable (n < 10 ^ width ∧ FieldsFit layout rest))
  | [], [] => inferInstanceAs (Decidable True)
  | [], _ :: _ => inferInstanceAs (Decidable False)
  | _ :: _, [] => inferInstanceAs (Decidable False)

def printedLength (layout : List (Nat × List Char)) : Nat :=
  (layout.map fun field => field.1 + field.2.length).sum

/-- The last `width` digits, most significant first. -/
def digitChars : Nat → Nat → List Char
  | 0, _ => []
  | width + 1, n => digitChars width (n / 10) ++ [Nat.digitChar (n % 10)]

theorem length_digitChars (width n : Nat) : (digitChars width n).length = width := by
  induction width generalizing n with
  | zero => rfl
  | succ width ih => simp [digitChars, ih]

theorem digitChars_zero (width : Nat) : digitChars width 0 = List.replicate width '0' := by
  induction width with
  | zero => rfl
  | succ width ih =>
    rw [digitChars, Nat.zero_div, ih, List.replicate_succ']
    rfl

theorem zeroPadded_eq {width n : Nat} (positive : 0 < width) (fits : n < 10 ^ width) :
    zeroPadded width n = digitChars width n := by
  induction width generalizing n with
  | zero => omega
  | succ width ih =>
    rw [zeroPadded, List.leftpad, digitChars]
    rcases Nat.lt_or_ge n 10 with small | large
    · rw [Nat.toDigits_of_lt_base small, Nat.div_eq_of_lt small, Nat.mod_eq_of_lt small,
        digitChars_zero]
      rfl
    · have room : 0 < width := by
        rcases Nat.eq_zero_or_pos width with none | some
        · subst none
          omega
        · exact some
      have rest := ih room (n := n / 10) (by rw [Nat.pow_succ] at fits; omega)
      rw [zeroPadded, List.leftpad] at rest
      rw [Nat.toDigits_of_base_le (by decide) large, List.length_append, List.length_singleton,
        Nat.add_sub_add_right, ← List.append_assoc, rest]

theorem length_zeroPadded (width n : Nat) :
    (zeroPadded width n).length = max width (Nat.toDigits 10 n).length :=
  List.length_leftpad

/-- A text no longer than its layout has no field wider than its width. -/
theorem FieldsFit.of_length {layout : List (Nat × List Char)} {fields : List Nat}
    (wide : ∀ field ∈ layout, 0 < field.1) (size : fields.length = layout.length)
    (short : (printFields layout fields).length ≤ printedLength layout) :
    FieldsFit layout fields := by
  have least (layout : List (Nat × List Char)) (fields : List Nat)
      (size : fields.length = layout.length) :
      printedLength layout ≤ (printFields layout fields).length := by
    induction layout generalizing fields with
    | nil => simp [printedLength]
    | cons head rest ih =>
      cases fields with
      | nil => cases size
      | cons n others =>
        have tail := ih others (Nat.succ.inj size)
        simp only [printedLength, List.map_cons, List.sum_cons, printFields, List.length_append,
          length_zeroPadded] at tail ⊢
        omega
  induction layout generalizing fields with
  | nil =>
    cases fields with
    | nil => trivial
    | cons n others => cases size
  | cons head rest ih =>
    cases fields with
    | nil => cases size
    | cons n others =>
      have tail := least rest others (Nat.succ.inj size)
      simp only [printedLength, List.map_cons, List.sum_cons, printFields, List.length_append,
        length_zeroPadded] at short tail
      refine ⟨?_, ih (fun field member => wide field (List.mem_cons_of_mem _ member))
        (Nat.succ.inj size) ?_⟩
      · exact (Nat.length_toDigits_le_iff (by decide) (wide _ List.mem_cons_self)).mp (by omega)
      · simp only [printedLength]
        omega

theorem length_printFields {layout : List (Nat × List Char)} {fields : List Nat}
    (wide : ∀ field ∈ layout, 0 < field.1) (fits : FieldsFit layout fields) :
    (printFields layout fields).length = printedLength layout := by
  induction layout generalizing fields with
  | nil => cases fields <;> rfl
  | cons head rest ih =>
    obtain ⟨width, separator⟩ := head
    cases fields with
    | nil => exact fits.elim
    | cons n others =>
      have tail := ih (fun field member => wide field (List.mem_cons_of_mem _ member)) fits.2
      simp only [printFields, List.length_append, tail, printedLength, List.map_cons, List.sum_cons]
      rw [zeroPadded_eq (wide _ List.mem_cons_self) fits.1, length_digitChars]

theorem strcmp_cons (char : Char) (xs ys : List Char) :
    strcmp (char :: xs) (char :: ys) = strcmp xs ys := by
  simp [strcmp]

theorem strcmp_append (common xs ys : List Char) :
    strcmp (common ++ xs) (common ++ ys) = strcmp xs ys := by
  induction common with
  | nil => rfl
  | cons char rest ih => rw [List.cons_append, List.cons_append, strcmp_cons, ih]

private theorem digitChar_lt {a b : Nat} (below : a < b) (digit : b < 10) :
    Nat.digitChar a < Nat.digitChar b := by
  interval_cases b <;> interval_cases a <;> decide

private theorem strcmp_digit {a b : Nat} (left : a < 10) (right : b < 10) (xs ys : List Char) :
    strcmp (Nat.digitChar a :: xs) (Nat.digitChar b :: ys) =
      if a < b then -1 else if b < a then 1 else strcmp xs ys := by
  rcases Nat.lt_trichotomy a b with below | same | above
  · have order := digitChar_lt below right
    rw [if_pos below, strcmp, if_neg (Char.ne_of_lt order), if_pos order]
  · subst same
    rw [strcmp_cons, if_neg (Nat.lt_irrefl a), if_neg (Nat.lt_irrefl a)]
  · have order := digitChar_lt above left
    rw [if_neg (by omega), if_pos above, strcmp, if_neg (Char.ne_of_lt order).symm,
      if_neg (Char.lt_asymm order)]

/-- Equally wide digit strings compare as the numbers do, then as what follows. -/
theorem strcmp_digitChars {width a b : Nat} (left : a < 10 ^ width) (right : b < 10 ^ width)
    (xs ys : List Char) :
    strcmp (digitChars width a ++ xs) (digitChars width b ++ ys) =
      if a < b then -1 else if b < a then 1 else strcmp xs ys := by
  induction width generalizing a b xs ys with
  | zero =>
    rw [Nat.pow_zero, Nat.lt_one_iff] at left right
    subst left right
    rfl
  | succ width ih =>
    rw [Nat.pow_succ] at left right
    rw [digitChars, digitChars, List.append_assoc, List.append_assoc, List.singleton_append,
      List.singleton_append, ih (by omega) (by omega),
      strcmp_digit (Nat.mod_lt _ (by decide)) (Nat.mod_lt _ (by decide))]
    split
    · rw [if_pos (by omega)]
    · split
      · rw [if_neg (by omega), if_pos (by omega)]
      · split
        · rw [if_pos (by omega)]
        · split
          · rw [if_neg (by omega), if_pos (by omega)]
          · rw [if_neg (by omega), if_neg (by omega)]

/-- `strcmp` orders printed tuples as the tuples are ordered. -/
theorem strcmp_printFields {layout : List (Nat × List Char)} {first second : List Nat}
    (wide : ∀ field ∈ layout, 0 < field.1) (left : FieldsFit layout first)
    (right : FieldsFit layout second) :
    strcmp (printFields layout first) (printFields layout second) < 0 ↔ first < second := by
  induction layout generalizing first second with
  | nil =>
    cases first <;> cases second <;> simp_all [FieldsFit, printFields, strcmp]
  | cons head rest ih =>
    obtain ⟨width, separator⟩ := head
    cases first with
    | nil => exact left.elim
    | cons a as =>
      cases second with
      | nil => exact right.elim
      | cons b bs =>
        have positive : 0 < width := wide _ List.mem_cons_self
        have tail :=
          ih (fun field member => wide field (List.mem_cons_of_mem _ member)) left.2 right.2
        rw [printFields, printFields, zeroPadded_eq positive left.1, zeroPadded_eq positive right.1,
          List.append_assoc, List.append_assoc, strcmp_digitChars left.1 right.1, strcmp_append,
          List.cons_lt_cons_iff]
        rcases Nat.lt_trichotomy a b with below | same | above
        · simp [below]
        · subst same
          simpa using tail
        · simp [above, Nat.lt_asymm above, Nat.ne_of_gt above]

end WifiAccess

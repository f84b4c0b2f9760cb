import WifiAccess.Crc.Record

/-! Which errors `block_crc_calc` finds: any change within two bytes that follow each
other, and a record or header filled with zeros. -/

namespace WifiAccess

/-- The word of a byte is not shifted back into the range of a byte. -/
theorem shifts_byte : ∀ byte : Byte, byte ≠ 0#8 →
    (ShiftCrc.shifts crcPolynomial 32 (byte.setWidth 32)) >>> 8 ≠ 0#32 := by
  decide +kernel

theorem shifts_byte_eq {byte other : Byte}
    (same : ShiftCrc.shifts crcPolynomial 32 (byte.setWidth 32) = other.setWidth 32) : byte =
      0#8 := by
  by_contra nonzero
  apply shifts_byte byte nonzero
  rw [same]
  apply BitVec.eq_of_toNat_eq
  have small := other.isLt
  simp [Nat.shiftRight_eq_div_pow]
  omega

theorem feed_byte_injective {register : CrcRegister} {a b : Byte}
    (same : ShiftCrc.feed crcPolynomial register (a.setWidth 32) =
      ShiftCrc.feed crcPolynomial register (b.setWidth 32)) :
    a = b := by
  have words := ShiftCrc.feed_word_injective crcPolynomial_odd same
  have bytes := congrArg (BitVec.setWidth 8) words
  simpa using bytes

/-- From one register on, two bytes that are not the same lead to another register. -/
theorem feed_bytes_injective {register : CrcRegister} {a b first second : Byte}
    (same : ShiftCrc.feed crcPolynomial (ShiftCrc.feed crcPolynomial register (a.setWidth 32))
      (first.setWidth 32) = ShiftCrc.feed crcPolynomial
      (ShiftCrc.feed crcPolynomial register (b.setWidth 32)) (second.setWidth 32)) :
    a = b ∧ first = second := by
  have shifted := ShiftCrc.feed_pair crcPolynomial_odd same
  rw [← BitVec.setWidth_xor, ← BitVec.setWidth_xor] at shifted
  obtain rfl : a = b := BitVec.xor_eq_zero_iff.mp (shifts_byte_eq shifted)
  exact ⟨rfl, feed_byte_injective same⟩

/-- Bytes behind one register, which all agree but the first two. -/
theorem feedAll_bytes_injective {register : CrcRegister} {first second : List Byte}
    (size : first.length = second.length) (rest : first.drop 2 = second.drop 2)
    (same : ShiftCrc.feedAll crcPolynomial register (crcWords first) =
      ShiftCrc.feedAll crcPolynomial register (crcWords second)) :
    first = second := by
  have words (byte : Byte) (back : List Byte) : crcWords (byte :: back) = byte.setWidth 32 ::
      crcWords back := rfl
  rcases first with _ | ⟨a, _ | ⟨c, back⟩⟩
  · exact (List.length_eq_zero_iff.mp size.symm).symm
  · obtain ⟨b, rfl⟩ := List.length_eq_one_iff.mp size.symm
    rw [words, words, ShiftCrc.feedAll_cons, ShiftCrc.feedAll_cons] at same
    rw [feed_byte_injective same]
  · rcases second with _ | ⟨b, _ | ⟨d, back'⟩⟩
    · cases size
    · cases size
    · obtain rfl : back = back' := rest
      rw [words, words, words, words, ShiftCrc.feedAll_cons, ShiftCrc.feedAll_cons,
        ShiftCrc.feedAll_cons,
        ShiftCrc.feedAll_cons] at same
      obtain ⟨rfl, rfl⟩ :=
        feed_bytes_injective (ShiftCrc.feedAll_injective crcPolynomial_odd (crcWords back) same)
      rfl

theorem crc32_injective_within {first second : List Byte} {k : Nat}
    (size : first.length = second.length)
    (confined : ∀ i, i ≠ k → i ≠ k + 1 → first[i]? = second[i]?)
      (same : crc32 first = crc32 second) : first = second := by
  have front : first.take k = second.take k := by
    apply List.ext_getElem?
    intro i
    rw [List.getElem?_take, List.getElem?_take]
    split
    · exact confined i (by omega) (by omega)
    · rfl
  have rest : (first.drop k).drop 2 = (second.drop k).drop 2 := by
    apply List.ext_getElem?
    intro i
    rw [List.drop_drop, List.drop_drop, List.getElem?_drop, List.getElem?_drop]
    exact confined _ (by omega) (by omega)
  have split (data : List Byte) : crc32 data = ShiftCrc.feedAll crcPolynomial (crc32 (data.take k))
      (crcWords (data.drop k)) := by
    rw [crc32, crc32, ← ShiftCrc.feedAll_append, crcWords, crcWords, crcWords, ← List.map_append,
      List.take_append_drop]
  rw [split first, split second, front] at same
  have back := feedAll_bytes_injective (by simp [size]) rest same
  rw [← List.take_append_drop k first, front, back, List.take_append_drop]

theorem crc32_zeros (count : Nat) : crc32 (List.replicate count 0#8) ≠ 0#32 := by
  have words : crcWords (List.replicate count 0#8) = List.replicate count 0#32 := by
    rw [crcWords, List.map_replicate]
    rfl
  rw [crc32, words]
  exact ShiftCrc.feedAll_zeros crcPolynomial_odd (by decide) count

theorem blockCrcCalc_zeros (count : Nat) : blockCrcCalc (List.replicate count 0#8) ≠ 0 := by
  rw [blockCrcCalc_eq]
  intro zero
  exact crc32_zeros count (BitVec.eq_of_toNat_eq zero)

/-- A struct of zeros does not pass its check. -/
theorem not_intact_zero (n off : Nat) : ¬ Image.IntactAt (.zero n : Image n) off := by
  intro intact
  have prefixZero : Image.field (.zero n : Image n) 0 off = List.replicate off 0#8 :=
    window_zeros n 0 off
  have stored : Image.num (.zero n : Image n) off 4 = 0 :=
    (congrArg leValue (window_zeros n off 4)).trans (leValue_zeros 4)
  rw [Image.IntactAt, Image.prefixCrc, prefixZero, stored] at intact
  exact blockCrcCalc_zeros off intact

/-- Byte strings of one length that differ, but only within two bytes that follow each
other, have different CRCs. The CRC of zeros is not zero, however many there are, so
zeros in place of a record or a header do not pass as one. -/
theorem blockCrcCalc_detects :
    (∀ (first second : List Byte) (k : Nat), first.length = second.length → first ≠ second →
      (∀ i, i ≠ k → i ≠ k + 1 → first[i]? = second[i]?) →
        blockCrcCalc first ≠ blockCrcCalc second) ∧
    (∀ count, blockCrcCalc (List.replicate count 0#8) ≠ 0) ∧
    ∀ n off, ¬ Image.IntactAt (.zero n : Image n) off := by
  refine ⟨fun first second k size differ confined same => ?_, blockCrcCalc_zeros, not_intact_zero⟩
  rw [blockCrcCalc_eq, blockCrcCalc_eq] at same
  exact differ (crc32_injective_within size confined (BitVec.eq_of_toNat_eq same))

/-- Two strings that differ in both of two bytes. -/
theorem blockCrcCalc_detects_two :
    blockCrcCalc [7#8, 1#8, 2#8, 9#8] ≠ blockCrcCalc [7#8, 3#8, 4#8, 9#8] := by
  refine blockCrcCalc_detects.1 [7#8, 1#8, 2#8, 9#8] [7#8, 3#8, 4#8, 9#8] 1 rfl (by decide) fun i
    first second => ?_
  rcases i with _ | _ | _ | _ | i
  · rfl
  · exact absurd rfl first
  · exact absurd rfl second
  · rfl
  · rfl

end WifiAccess

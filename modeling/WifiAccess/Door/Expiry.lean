import Mathlib.Data.List.Lex
import WifiAccess.Crc.Record
import WifiAccess.Door.Verdict

/-! The expiry test of `user_check_thread.c`: the order of the two time texts, and
the room that they take. -/

namespace WifiAccess

theorem timeString_isSome {fields : List Nat} (size : fields.length = 6) :
    (timeString fields).isSome ↔ FieldsFit timeLayout fields := by
  constructor
  · intro printed
    unfold timeString at printed
    split at printed
    · rename_i short
      exact FieldsFit.of_length (by decide) size (Nat.le_of_lt_succ short)
    · cases printed
  · intro fits
    rw [timeString_fits fits]
    rfl

/-- Within the printed widths both texts have 19 characters, and a time-limited user
has expired exactly when the time is at or past the limit in the order of the tuples;
such a user is refused at this point, whatever else the record allows. -/
theorem timeExpired_iff (device : Device) (user : UserInfo) (limited : user.isTimeLimit = 1#8)
    (now : FieldsFit timeLayout device.time.fields)
      (limit : FieldsFit timeLayout user.limitFields) :
    (printFields timeLayout device.time.fields).length = 19 ∧
      (printFields timeLayout user.limitFields).length = 19 ∧
      timeExpired device user = some (decide (user.limitFields ≤ device.time.fields)) ∧
      ∀ lib event state, bitAt user.authority 127 = false → user.limitFields ≤ device.time.fields →
        (userCheckRecord device event user).run lib state = (some (), state) := by
  have expired : timeExpired device user =
      some (decide (user.limitFields ≤ device.time.fields)) := by
    have order : (user.isTimeLimit = 1#8 ∧ ¬ device.time.fields < user.limitFields) ↔
        user.limitFields ≤ device.time.fields := by
      rw [and_iff_right limited]
      exact not_lt
    rw [timeExpired_eq now limit]
    exact congrArg some (decide_eq_decide.mpr order)
  refine ⟨length_printFields (by decide) now, length_printFields (by decide) limit, expired, ?_⟩
  intro lib event state ordinary past
  have super : ¬ (user.authority.getD 15 0#8 &&& (1#8 <<< 7) = 1#8 <<< 7) := by
    intro set
    have admin : bitAt user.authority 127 = true := (mask_eq _ (by decide)).mp set
    rw [ordinary] at admin
    cases admin
  unfold userCheckRecord
  rw [if_neg super, expired, decide_eq_true past]
  split <;> rfl

/-- 23:59:59 on the last day of 2020. -/
def yearEnd : Device := ⟨0#32, ⟨59#8, 59#8, 23#8, 4#8, 31#8, 12#8, 20#8⟩, 1#8, .zero 6⟩

/-- A user limited to the same second. -/
def yearEndUser : UserInfo :=
  (Image.zero 1058).put 55 (1#8 :: (leBytes 2 2020 ++ [12#8, 31#8, 23#8, 59#8, 59#8]))

theorem timeExpired_at_limit : timeExpired yearEnd yearEndUser = some true := by
  have fields : yearEndUser.limitFields = [2020, 12, 31, 23, 59, 59] := by decide +kernel
  have both :=
    timeExpired_iff yearEnd yearEndUser (by decide +kernel) (by decide) (by rw [fields]; decide)
  rw [both.2.2.1, fields]
  decide

/-! ## The clock -/

/-- Two decimal digits in a register, the tens under a mask. -/
def bcdValue (register mask : Byte) : Byte :=
  (register &&& 0x0f#8) + ((register &&& mask) >>> 4) * 10#8

/-- `DS1307_ReadWrite_Time` in read mode, from the seven registers. -/
def ds1307ReadTime (timeRegister : Image 7) : TimeValue where
  second := bcdValue (timeRegister.byte 0) 0x70#8
  minute := bcdValue (timeRegister.byte 1) 0x70#8
  hour := bcdValue (timeRegister.byte 2) 0x30#8
  week := timeRegister.byte 3 &&& 0x07#8
  date := bcdValue (timeRegister.byte 4) 0x30#8
  month := bcdValue (timeRegister.byte 5) 0x10#8
  year := bcdValue (timeRegister.byte 6) 0xf0#8

private theorem bcdValue_le (register : Byte) :
    (bcdValue register 0x70#8).toNat ≤ 85 ∧ (bcdValue register 0x30#8).toNat ≤ 45 ∧
      (bcdValue register 0x10#8).toNat ≤ 25 := by
  revert register
  decide +kernel

/-- Whatever the registers hold, the time that is read fits its text. -/
theorem fits_ds1307ReadTime (timeRegister : Image 7) :
    FieldsFit timeLayout (ds1307ReadTime timeRegister).fields := by
  have second := (bcdValue_le (timeRegister.byte 0)).1
  have minute := (bcdValue_le (timeRegister.byte 1)).1
  have hour := (bcdValue_le (timeRegister.byte 2)).2.1
  have date := (bcdValue_le (timeRegister.byte 4)).2.1
  have month := (bcdValue_le (timeRegister.byte 5)).2.2
  have year := (bcdValue (timeRegister.byte 6) 0xf0#8).isLt
  simp only [TimeValue.fields, ds1307ReadTime, timeLayout, FieldsFit, and_true]
  omega

/-- The text of a time, with the terminating zero, fits in a `char[20]`. -/
def TimeFits (fields : List Nat) : Prop := (timeString fields).isSome

/-- Both texts fit exactly if the limit has four digits for the year and two for each
other field. -/
theorem timeTexts_fit_iff (timeRegister : Image 7) (user : UserInfo) :
    TimeFits (ds1307ReadTime timeRegister).fields ∧ TimeFits user.limitFields ↔
      user.year ≤ 9999 ∧ user.month.toNat ≤ 99 ∧ user.day.toNat ≤ 99 ∧ user.hour.toNat ≤ 99 ∧
        user.minutes.toNat ≤ 99 ∧ user.second.toNat ≤ 99 := by
  unfold TimeFits
  rw [timeString_isSome rfl, timeString_isSome rfl,
    and_iff_right (fits_ds1307ReadTime timeRegister)]
  simp only [UserInfo.limitFields, timeLayout, FieldsFit, and_true]
  omega

theorem byte_withCrc (user : UserInfo) {i : Nat} (inside : i < 1038) :
    Image.byte user.withCrc i = Image.byte user i := by
  have kept : Image.field user.withCrc i 1 = Image.field user i 1 :=
    user.field_sealAt (by decide) (.inl (by omega))
  have byte (image : UserInfo) : (Image.field image i 1).getD 0 0#8 = image.byte i :=
    Image.byte_field (by decide)
  rw [← byte, ← byte]
  exact congrArg (List.getD · 0 0#8) kept

/-- An active user of card 1 whose limit has the month 100. -/
def monthHundred : UserInfo :=
  UserInfo.withCrc ((((Image.zero 1058).put 0 [1#8, 0#8, 1#8]).put 6 [1#8]).put 55
    [1#8, 0#8, 0#8, 100#8])

theorem timeTexts_overflow :
    ¬ ∀ timeRegister (user : UserInfo), user.Valid → user.isTimeLimit = 1#8 →
      TimeFits (ds1307ReadTime timeRegister).fields ∧ TimeFits user.limitFields := by
  intro always
  have month : monthHundred.month = 100#8 := (byte_withCrc _ (by decide)).trans (by decide +kernel)
  have limited : monthHundred.isTimeLimit = 1#8 :=
    (byte_withCrc _ (by decide)).trans (by decide +kernel)
  have fits := (timeTexts_fit_iff (.zero 7) monthHundred).mp
    (always (.zero 7) monthHundred (UserInfo.valid_withCrc _) limited)
  rw [month] at fits
  exact absurd fits.2.1 (by decide)

end WifiAccess

import WifiAccess.Base.RegisterFile
import WifiAccess.Clock.Iic
import WifiAccess.Door.Expiry

/-! `ds1307.c` and `rtc_thread.c`: the clock chip behind the two-wire bus, its time
registers, its RAM, and the byte that tells whether it has been initialised. -/

namespace WifiAccess

open WireProg RegisterFile

def ds1307Write : Byte := 0xd0#8
def ds1307Read : Byte := 0xd1#8

/-- `RAM_Address55`, and the value that it holds behind an initialisation. -/
def ramAddress55 : Nat := 0x3f
def testData : Byte := 0x55#8

/-- `DS1307_Write_Byte`. -/
def ds1307WriteByte (regAdd dat : Byte) : WireProg Unit := do
  start
  if ← write ds1307Write then stop
  else
    let _ ← write regAdd
    let _ ← write dat
    stop

/-- `DS1307_Read_Byte`: without an acknowledgement the local variable stays as it was. -/
def ds1307ReadByte (rcv regAdd : Byte) : WireProg Byte := do
  start
  if ← write ds1307Write then
    stop
    return rcv
  else
    let _ ← write regAdd
    start
    let _ ← write ds1307Read
    let rcv ← read
    answer true
    stop
    return rcv

/-- `DS1307_Operate_Register`: the buffer behind the call. -/
def ds1307OperateRegister (regAdd : Byte) (pBuff : List Byte) (num : Nat) (mode : Byte) :
    WireProg (List Byte) :=
  if mode ≠ 0#8 then do
    start
    if ← write ds1307Write then
      stop
      return pBuff
    else
      let _ ← write regAdd
      start
      let _ ← write ds1307Read
      let got ← readAll num
      stop
      return got ++ pBuff.drop num
  else do
    start
    if ← write ds1307Write then
      stop
      return pBuff
    else
      let _ ← write regAdd
      writeAll (pBuff.take num)
      stop
      return pBuff

/-- `DS1307_ReadWrite_Time`, with `TimeValue` and what the local buffer holds before: the time
behind the call. -/
def ds1307ReadWriteTime (mode : Byte) (timeValue : TimeValue) (timeRegister : List Byte) :
    WireProg TimeValue :=
  if mode ≠ 0#8 then do
    let timeRegister ← ds1307OperateRegister 0x00#8 timeRegister 7 1#8
    return ds1307ReadTime (.ofBytes 7 timeRegister)
  else do
    let timeRegister :=
      [timeValue.second ||| (0#8 <<< 7), timeValue.minute, timeValue.hour |||
        (0#8 <<< 6), timeValue.week,
      timeValue.date, timeValue.month, timeValue.year]
    let _ ← ds1307OperateRegister 0x00#8 timeRegister 7 0#8
    return timeValue

/-- `DS1307_Check`: 0 when the last byte of the RAM is as an initialisation leaves it. -/
def ds1307Check (rcv : Byte) : WireProg Byte := do
  if (← ds1307ReadByte rcv (BitVec.ofNat 8 ramAddress55)) = testData then return 0#8 else return 1#8

/-- The number of bytes that `DS1307_RAM_Write_Data` writes. -/
def ramWriteRemain (wrAdd num : Nat) : Nat :=
  if wrAdd + num ≥ ramAddress55 - 1 then ramAddress55 - 1 - wrAdd else num

/-- The number of bytes that `DS1307_RAM_Read_Data` reads. -/
def ramReadRemain (wrAdd num : Nat) : Nat :=
  if wrAdd + num ≥ ramAddress55 then ramAddress55 - 1 - wrAdd else num

def ds1307RamWriteData (pBuff : List Byte) (wrAdd : Byte) (num : Nat) : WireProg Unit :=
  if wrAdd.toNat ≥ ramAddress55 then return ()
  else do
    start
    if ← write ds1307Write then stop
    else
      let _ ← write wrAdd
      writeAll (pBuff.take (ramWriteRemain wrAdd.toNat num))
      stop

/-- `DS1307_RAM_Read_Data`: the buffer behind the call. -/
def ds1307RamReadData (pBuff : List Byte) (wrAdd : Byte) (num : Nat) : WireProg (List Byte) :=
  if wrAdd.toNat ≥ ramAddress55 then return pBuff
  else do
    start
    if ← write ds1307Write then
      stop
      return pBuff
    else
      let _ ← write wrAdd
      start
      if ← write ds1307Read then
        stop
        return pBuff
      else
        let got ← readAll (ramReadRemain wrAdd.toNat num)
        stop
        return got ++ pBuff.drop got.length

/-- Two decimal digits of a number in a register, the tens under a mask. -/
def bcdDigits (value mask : Byte) : Byte :=
  ((value % 10#8) &&& 0x0f#8) ||| (((value / 10#8) &&& mask) <<< 4)

/-- The eight registers that `DS1307_Time_Init` writes; `SQWE` is the output control. -/
def timeBuffer (time : TimeValue) (sqwe : Byte) : List Byte :=
  [bcdDigits time.second 0x0f#8 &&& ~~~(1#8 <<< 7), bcdDigits time.minute 0x0f#8,
    bcdDigits time.hour 0x03#8,
    time.week &&& 0x07#8, bcdDigits time.date 0x03#8, bcdDigits time.month 0x01#8,
      bcdDigits time.year 0x0f#8, sqwe]

def ds1307TimeInit (time : TimeValue) (sqwe : Byte) : WireProg Unit := do
  let _ ← ds1307OperateRegister 0x00#8 (timeBuffer time sqwe) 8 0#8
  ds1307WriteByte (BitVec.ofNat 8 ramAddress55) testData

/-- The time that a chip gets when it has none. -/
def firstTime : TimeValue := ⟨0#8, 0#8, 0#8, 6#8, 1#8, 1#8, 0#8⟩

/-- `rtc_thread_entry` up to its loop, with what the local variables of the two checks hold: the
time behind it. A failure of the second check is only printed. -/
def rtcThreadInit (rcv rcv' : Byte) (timeValue : TimeValue) (sqwe : Byte) : WireProg TimeValue := do
  if (← ds1307Check rcv) ≠ 0#8 then
    ds1307TimeInit firstTime sqwe
    let _ ← ds1307Check rcv'
    return firstTime
  else
    let _ ← ds1307Check rcv'
    return timeValue

/-! ## The chip -/

/-- 64 registers behind the address of the chip. -/
def ds1307 : Target (RegisterFile 64) := RegisterFile.target 64 ds1307Write

section Transfers

variable (chip : RegisterFile 64)

/-- What every transfer begins with. -/
theorem transfer_begin {link : Link} (ready : link = .free ∨ link = .taking) (regAdd : Byte) :
    start.transfer ds1307 (link, chip) = some ((), .addressed, chip) ∧
      (write ds1307Write).transfer ds1307 (.addressed, chip) =
        some (false, .taking, chip.selected) ∧
      (write regAdd).transfer ds1307 (.taking, chip.selected) =
        some (false, .taking, chip.pointTo (regAdd.toNat % 64)) := by
  refine ⟨?_, rfl, rfl⟩
  rcases ready with rfl | rfl <;> rfl

theorem transfer_turn :
    start.transfer ds1307 (.taking, chip) = some ((), .addressed, chip) ∧
      (write ds1307Read).transfer ds1307 (.addressed, chip) =
        some (false, Link.next ds1307 chip.selected) := ⟨rfl, rfl⟩

theorem transfer_end {link : Link} (ready : link = .deaf ∨ link = .taking) :
    stop.transfer ds1307 (link, chip) = some ((), .free, chip) := by
  rcases ready with rfl | rfl <;> rfl

/-- Registers written one behind the other. -/
theorem operateRegister_write {regAdd : Byte} {pBuff : List Byte} {num : Nat}
    (inside : regAdd.toNat + (pBuff.take num).length ≤ 64) (within : regAdd.toNat < 64) : ∃ pointer,
    (ds1307OperateRegister regAdd pBuff num 0#8).transfer ds1307 (.free, chip) =
      some (pBuff, .free, ⟨chip.regs.put regAdd.toNat (pBuff.take num), pointer, true⟩) := by
  obtain ⟨began, addressed, pointed⟩ := transfer_begin chip (.inl rfl) regAdd
  rw [Nat.mod_eq_of_lt within] at pointed
  obtain ⟨pointer, wrote⟩ :=
    @transfer_writeAll 64 ds1307Write (chip.pointTo regAdd.toNat) (pBuff.take num) rfl inside
  refine ⟨pointer, ?_⟩
  have wrote : (writeAll (pBuff.take num)).transfer ds1307 (.taking, chip.pointTo regAdd.toNat) =
      some ((), .taking, ⟨chip.regs.put regAdd.toNat (pBuff.take num), pointer, true⟩) := wrote
  unfold ds1307OperateRegister
  simp only [ne_eq, not_true_eq_false, if_false, transfer_bind, began, Option.bind_some, addressed,
    Bool.false_eq_true,
    pointed, wrote, transfer_end _ (.inr rfl), transfer_pure]

/-- Registers read one behind the other. -/
theorem operateRegister_read {regAdd : Byte} (pBuff : List Byte) {left : Nat}
    (inside : regAdd.toNat + left + 1 ≤ 64) :
    ∃ pointer pointed, (ds1307OperateRegister regAdd pBuff (left + 1) 1#8).transfer ds1307
      (.free, chip) =
      some (chip.regs.field regAdd.toNat (left + 1) ++ pBuff.drop (left + 1), .free,
        ⟨chip.regs, pointer, pointed⟩) := by
  obtain ⟨began, addressed, pointed⟩ := transfer_begin chip (.inl rfl) regAdd
  rw [Nat.mod_eq_of_lt (by omega)] at pointed
  obtain ⟨again, turned⟩ := transfer_turn (chip.pointTo regAdd.toNat)
  obtain ⟨pointer, got⟩ :=
    @transfer_readAll 64 ds1307Write (chip.pointTo regAdd.toNat).selected left inside
  have got : (readAll (left + 1)).transfer ds1307
      (Link.next ds1307 (chip.pointTo regAdd.toNat).selected) =
      some (chip.regs.field regAdd.toNat (left + 1), .deaf, ⟨chip.regs, pointer, false⟩) := got
  refine ⟨pointer, false, ?_⟩
  unfold ds1307OperateRegister
  rw [if_pos (by decide)]
  simp only [transfer_bind, began, Option.bind_some, addressed, Bool.false_eq_true, if_false,
    pointed, again, turned, got,
    transfer_end _ (.inl rfl), transfer_pure]

theorem writeByte_transfer {regAdd : Byte} (within : regAdd.toNat < 64) (dat : Byte) : ∃ pointer,
    (ds1307WriteByte regAdd dat).transfer ds1307 (.free, chip) =
      some ((), .free, ⟨chip.regs.put regAdd.toNat [dat], pointer, true⟩) := by
  obtain ⟨began, addressed, pointed⟩ := transfer_begin chip (.inl rfl) regAdd
  rw [Nat.mod_eq_of_lt within] at pointed
  have wrote : (write dat).transfer ds1307 (.taking, chip.pointTo regAdd.toNat) =
      some (false, .taking, (chip.pointTo regAdd.toNat).store dat) := rfl
  refine ⟨(regAdd.toNat + 1) % 64, ?_⟩
  unfold ds1307WriteByte
  simp only [transfer_bind, began, Option.bind_some, addressed, Bool.false_eq_true, if_false,
    pointed, wrote,
    transfer_end _ (.inr rfl)]
  rfl

theorem readByte_transfer (rcv : Byte) {regAdd : Byte} (within : regAdd.toNat < 64) :
    ∃ pointer pointed,
    (ds1307ReadByte rcv regAdd).transfer ds1307 (.free, chip) =
      some (chip.regs.byte regAdd.toNat, .free, ⟨chip.regs, pointer, pointed⟩) := by
  obtain ⟨began, addressed, pointed⟩ := transfer_begin chip (.inl rfl) regAdd
  rw [Nat.mod_eq_of_lt within] at pointed
  obtain ⟨again, turned⟩ := transfer_turn (chip.pointTo regAdd.toNat)
  have took : read.transfer ds1307 (Link.next ds1307 (chip.pointTo regAdd.toNat).selected) =
      some (chip.regs.byte regAdd.toNat, .given, (chip.pointTo regAdd.toNat).selected.advance) :=
        rfl
  have answered (device : RegisterFile 64) : (answer true).transfer ds1307 (.given, device) =
      some ((), .deaf, device) := rfl
  refine ⟨(regAdd.toNat + 1) % 64, false, ?_⟩
  unfold ds1307ReadByte
  simp only [transfer_bind, began, Option.bind_some, addressed, Bool.false_eq_true, if_false,
    pointed, again, turned, took,
    answered, transfer_end _ (.inl rfl), transfer_pure]
  rfl

theorem check_transfer (rcv : Byte) : ∃ pointer pointed,
    (ds1307Check rcv).transfer ds1307 (.free, chip) =
      some (if chip.regs.byte ramAddress55 = testData then 0#8 else 1#8, .free,
        ⟨chip.regs, pointer, pointed⟩) := by
  obtain ⟨pointer, pointed, ran⟩ :=
    readByte_transfer chip rcv (show (BitVec.ofNat 8 ramAddress55).toNat < 64 by decide)
  refine ⟨pointer, pointed, ?_⟩
  unfold ds1307Check
  rw [transfer_bind, ran, Option.bind_some, transfer_ite]
  have place : (BitVec.ofNat 8 ramAddress55).toNat = ramAddress55 := by decide
  rw [place]
  split <;> rfl

/-- Never the last byte of the RAM, nor the one before it. -/
theorem ramWriteRemain_le {wrAdd : Nat} (below : wrAdd < ramAddress55) (num : Nat) :
    wrAdd + ramWriteRemain wrAdd num ≤ ramAddress55 - 1 := by
  unfold ramWriteRemain ramAddress55 at *
  split <;> omega

theorem ramReadRemain_le {wrAdd : Nat} (below : wrAdd < ramAddress55) (num : Nat) :
    wrAdd + ramReadRemain wrAdd num ≤ ramAddress55 - 1 := by
  unfold ramReadRemain ramAddress55 at *
  split <;> omega

theorem ramWriteRemain_eq (wrAdd num : Nat) :
    ramWriteRemain wrAdd num = ramReadRemain wrAdd num := by
  unfold ramWriteRemain ramReadRemain ramAddress55
  split <;> split <;> omega

theorem ramWriteData_transfer (pBuff : List Byte) {wrAdd : Byte}
    (below : wrAdd.toNat < ramAddress55) (num : Nat) : ∃ pointer,
    (ds1307RamWriteData pBuff wrAdd num).transfer ds1307 (.free, chip) =
      some ((), .free, ⟨chip.regs.put wrAdd.toNat (pBuff.take (ramWriteRemain wrAdd.toNat num)),
        pointer, true⟩) := by
  have room := ramWriteRemain_le below num
  unfold ramAddress55 at below room
  obtain ⟨began, addressed, pointed⟩ := transfer_begin chip (.inl rfl) wrAdd
  rw [Nat.mod_eq_of_lt (by omega)] at pointed
  obtain ⟨pointer, wrote⟩ := @transfer_writeAll 64 ds1307Write (chip.pointTo wrAdd.toNat)
    (pBuff.take (ramWriteRemain wrAdd.toNat num)) rfl (by
      rw [List.length_take]
      change wrAdd.toNat + _ ≤ 64
      omega)
  have wrote : (writeAll (pBuff.take (ramWriteRemain wrAdd.toNat num))).transfer ds1307
      (.taking, chip.pointTo wrAdd.toNat) =
      some ((), .taking, ⟨chip.regs.put wrAdd.toNat (pBuff.take (ramWriteRemain wrAdd.toNat num)),
        pointer, true⟩) := wrote
  refine ⟨pointer, ?_⟩
  unfold ds1307RamWriteData
  rw [if_neg (by unfold ramAddress55; omega)]
  simp only [transfer_bind, began, Option.bind_some, addressed, Bool.false_eq_true, if_false,
    pointed, wrote,
    transfer_end _ (.inr rfl)]

theorem ramReadData_transfer (pBuff : List Byte) {wrAdd : Byte} (below : wrAdd.toNat < ramAddress55)
    {num : Nat} (present : 0 < ramReadRemain wrAdd.toNat num) : ∃ pointer pointed,
    (ds1307RamReadData pBuff wrAdd num).transfer ds1307 (.free, chip) =
      some (chip.regs.field wrAdd.toNat (ramReadRemain wrAdd.toNat num) ++
        pBuff.drop (ramReadRemain wrAdd.toNat num), .free,
        ⟨chip.regs, pointer, pointed⟩) := by
  have room := ramReadRemain_le below num
  unfold ramAddress55 at below room
  obtain ⟨began, addressed, pointed⟩ := transfer_begin chip (.inl rfl) wrAdd
  rw [Nat.mod_eq_of_lt (by omega)] at pointed
  obtain ⟨again, turned⟩ := transfer_turn (chip.pointTo wrAdd.toNat)
  obtain ⟨left, more⟩ : ∃ left, ramReadRemain wrAdd.toNat num = left + 1 :=
    ⟨_, (Nat.succ_pred_eq_of_pos present).symm⟩
  rw [more] at room ⊢
  obtain ⟨pointer, got⟩ :=
    @transfer_readAll 64 ds1307Write (chip.pointTo wrAdd.toNat).selected left (by
    change wrAdd.toNat + left + 1 ≤ 64
    omega)
  have got : (readAll (left + 1)).transfer ds1307
      (Link.next ds1307 (chip.pointTo wrAdd.toNat).selected) =
      some (chip.regs.field wrAdd.toNat (left + 1), .deaf, ⟨chip.regs, pointer, false⟩) := got
  refine ⟨pointer, false, ?_⟩
  unfold ds1307RamReadData
  rw [if_neg (by unfold ramAddress55; omega), more]
  simp only [transfer_bind, began, Option.bind_some, addressed, Bool.false_eq_true, if_false,
    pointed, again, turned, got,
    transfer_end _ (.inl rfl), transfer_pure, Image.length_field]

/-- What an initialisation leaves in the registers. -/
def initialized (regs : Image 64) (time : TimeValue) (sqwe : Byte) : Image 64 :=
  (regs.put 0 (timeBuffer time sqwe)).put ramAddress55 [testData]

theorem timeInit_transfer (time : TimeValue) (sqwe : Byte) : ∃ pointer pointed,
    (ds1307TimeInit time sqwe).transfer ds1307 (.free, chip) =
      some ((), .free, ⟨initialized chip.regs time sqwe, pointer, pointed⟩) := by
  obtain ⟨pointer, wrote⟩ :=
    @operateRegister_write chip 0x00#8 (timeBuffer time sqwe) 8
      (show 0 + 8 ≤ 64 by decide) (by decide)
  obtain ⟨pointer', marked⟩ :=
    writeByte_transfer ⟨chip.regs.put 0 (timeBuffer time sqwe), pointer, true⟩
    (show (BitVec.ofNat 8 ramAddress55).toNat < 64 by decide) testData
  refine ⟨pointer', true, ?_⟩
  unfold ds1307TimeInit
  rw [transfer_bind, wrote, Option.bind_some]
  exact marked

theorem readTime_transfer (timeValue : TimeValue) (timeRegister : List Byte) : ∃ pointer pointed,
    (ds1307ReadWriteTime 1#8 timeValue timeRegister).transfer ds1307 (.free, chip) =
      some (ds1307ReadTime (.ofBytes 7 chip.regs.bytes), .free, ⟨chip.regs, pointer, pointed⟩) := by
  obtain ⟨pointer, pointed, got⟩ := @operateRegister_read chip 0x00#8 timeRegister 6 (by decide)
  refine ⟨pointer, pointed, ?_⟩
  have seven : Image.ofBytes 7 (chip.regs.field 0 7 ++ timeRegister.drop 7) =
      .ofBytes 7 chip.regs.bytes := by
    apply Image.ext
    rw [Image.bytes_ofBytes, Image.bytes_ofBytes,
      window_append_left (by rw [Image.length_field]), Image.field,
      window_window _ (by decide)]
  unfold ds1307ReadWriteTime
  rw [if_pos (by decide), transfer_bind, got, Option.bind_some, transfer_pure]
  exact congrArg (fun registers => some (ds1307ReadTime registers, _)) seven

/-- A chip that has not been initialised gets the first time, any other is left alone. -/
theorem rtcThreadInit_transfer (rcv rcv' : Byte) (timeValue : TimeValue) (sqwe : Byte) :
    ∃ pointer pointed,
    (rtcThreadInit rcv rcv' timeValue sqwe).transfer ds1307 (.free, chip) =
      if chip.regs.byte ramAddress55 = testData then
        some (timeValue, .free, ⟨chip.regs, pointer, pointed⟩)
      else some (firstTime, .free, ⟨initialized chip.regs firstTime sqwe, pointer, pointed⟩) := by
  obtain ⟨pointer, pointed, checked⟩ := check_transfer chip rcv
  unfold rtcThreadInit
  simp only [transfer_bind, checked, Option.bind_some]
  by_cases marked : chip.regs.byte ramAddress55 = testData
  · obtain ⟨pointer', pointed', again⟩ := check_transfer ⟨chip.regs, pointer, pointed⟩ rcv'
    refine ⟨pointer', pointed', ?_⟩
    simp only [if_pos marked, ne_eq, not_true_eq_false, if_false, transfer_bind, again,
      Option.bind_some, transfer_pure]
  · obtain ⟨pointer₁, pointed₁, wrote⟩ :=
      timeInit_transfer ⟨chip.regs, pointer, pointed⟩ firstTime sqwe
    obtain ⟨pointer', pointed', again⟩ :=
      check_transfer ⟨initialized chip.regs firstTime sqwe, pointer₁, pointed₁⟩ rcv'
    refine ⟨pointer', pointed', ?_⟩
    have missing : (1#8 : Byte) ≠ 0#8 := by decide
    simp only [if_neg marked, if_pos missing, transfer_bind, wrote, Option.bind_some, again,
      transfer_pure]

end Transfers

end WifiAccess

import WifiAccess.Clock.Ds1307
import WifiAccess.Server.Answers
import WifiAccess.Server.Session

/-! What the clock chip holds over runs of the driver's transfers, each carried out edge by
edge: the time that was last set, and the byte by which a reboot recognises it. -/

namespace WifiAccess

/-- `TimeValue`, and the wires with the chip. -/
structure ClockBoard where
  time : TimeValue
  bus : Bus (RegisterFile 64)

/-- A reboot, `set_time` or a time from the server, one turn of the loop, the two operations on
the RAM, and the counting of the chip itself. The other arguments are what local variables
hold before they are set. -/
inductive ClockMove where
  | boot (rcv rcv' sqwe : Byte)
  | setTime (time : TimeValue) (sqwe : Byte)
  | readTime (timeRegister : List Byte)
  | ramWrite (pBuff : List Byte) (wrAdd : Byte) (num : Nat)
  | ramRead (pBuff : List Byte) (wrAdd : Byte) (num : Nat)
  | elapse (registers : Image 7)

def TimeValue.zero : TimeValue := ⟨0#8, 0#8, 0#8, 0#8, 0#8, 0#8, 0#8⟩

namespace ClockBoard

/-- A transfer on the wires. -/
def wire {α : Type} (board : ClockBoard) (prog : WireProg α) : α × Bus (RegisterFile 64) :=
  PinProg.run ds1307 (Prog.lower iicCarry prog) board.bus

def step (board : ClockBoard) : ClockMove → ClockBoard
  | .boot rcv rcv' sqwe =>
    let pins := (PinProg.run ds1307 iicGpioInit board.bus).2
    let ran := ({ board with bus := pins } : ClockBoard).wire (rtcThreadInit rcv rcv' .zero sqwe)
    ⟨ran.1, ran.2⟩
  | .setTime time sqwe => ⟨time, (board.wire (ds1307TimeInit time sqwe)).2⟩
  | .readTime timeRegister =>
    let ran := board.wire (ds1307ReadWriteTime 1#8 board.time timeRegister)
    ⟨ran.1, ran.2⟩
  | .ramWrite pBuff wrAdd num =>
    { board with bus := (board.wire (ds1307RamWriteData pBuff wrAdd num)).2 }
  | .ramRead pBuff wrAdd num =>
    { board with bus := (board.wire (ds1307RamReadData pBuff wrAdd num)).2 }
  | .elapse registers =>
    { board with bus := { board.bus with
        device := { board.bus.device with regs := board.bus.device.regs.put 0 registers.bytes } } }

end ClockBoard

/-- The global and the registers, without wires. -/
structure ClockState where
  time : TimeValue
  regs : Image 64

def ClockState.effect (state : ClockState) : ClockMove → ClockState
  | .boot _ _ sqwe =>
    if state.regs.byte ramAddress55 = testData then { state with time := .zero }
    else ⟨firstTime, initialized state.regs firstTime sqwe⟩
  | .setTime time sqwe => ⟨time, initialized state.regs time sqwe⟩
  | .readTime _ => { state with time := ds1307ReadTime (.ofBytes 7 state.regs.bytes) }
  | .ramWrite pBuff wrAdd num =>
    if wrAdd.toNat ≥ ramAddress55 then state
    else { state
      with regs := state.regs.put wrAdd.toNat (pBuff.take (ramWriteRemain wrAdd.toNat num)) }
  | .ramRead .. => state
  | .elapse registers => { state with regs := state.regs.put 0 registers.bytes }

/-- A read of the RAM takes at least one byte. Without one the chip would hold the data line
when the bus is to be stopped. -/
def ClockMove.InTurn : ClockMove → Prop
  | ramRead _ wrAdd num => wrAdd.toNat < ramAddress55 → 0 < ramReadRemain wrAdd.toNat num
  | boot .. | setTime .. | readTime _ | ramWrite .. | elapse _ => True

/-- The bus is free, and the chip and the global hold what they should. -/
def ClockBoard.Shows (board : ClockBoard) (state : ClockState) : Prop :=
  board.time = state.time ∧
    ∃ pointer pointed, board.bus = ⟨true, true, true, .idle, ⟨state.regs, pointer, pointed⟩⟩

namespace ClockBoard

/-- A transfer that ends with a free bus. -/
theorem wire_of_transfer {α : Type} {board : ClockBoard} {prog : WireProg α} {value : α}
    {chip final : RegisterFile 64} (idle : board.bus = ⟨true, true, true, .idle, chip⟩)
    (ran : prog.transfer ds1307 (.free, chip) = some (value, .free, final)) :
    board.wire prog = (value, ⟨true, true, true, .idle, final⟩) := by
  obtain ⟨same, follows⟩ :=
    Prog.lower_refines (Link.handle ds1307) iicCarry_refines (Follows.idle chip) ran
  change (PinProg.run ds1307 (Prog.lower iicCarry prog) ⟨true, true, true, .idle, chip⟩).1 =
    value at same
  change Follows (.free, final)
    (PinProg.run ds1307 (Prog.lower iicCarry prog) ⟨true, true, true, .idle, chip⟩).2 at follows
  unfold wire
  rw [idle]
  generalize PinProg.run ds1307 (Prog.lower iicCarry prog) ⟨true, true, true, .idle, chip⟩ = edges
    at same follows
  obtain ⟨result, bus⟩ := edges
  cases follows with
  | idle device => exact congrArg (fun value => (value, _)) same
  | low busy sda out device => exact absurd rfl busy

theorem Shows.step {board : ClockBoard} {state : ClockState} (shows' : board.Shows state)
    {move : ClockMove} (inTurn : move.InTurn) : (board.step move).Shows (state.effect move) := by
  obtain ⟨time, pointer, pointed, idle⟩ := shows'
  cases move with
  | boot rcv rcv' sqwe =>
    have pins : (PinProg.run ds1307 iicGpioInit board.bus).2 = board.bus := by
      rw [idle]
      rfl
    obtain ⟨pointer', pointed', ran⟩ :=
      rtcThreadInit_transfer ⟨state.regs, pointer, pointed⟩ rcv rcv' .zero sqwe
    unfold ClockBoard.step ClockState.effect
    simp only [pins]
    by_cases marked : state.regs.byte ramAddress55 = testData
    · rw [if_pos marked] at ran ⊢
      rw [wire_of_transfer idle ran]
      exact ⟨rfl, pointer', pointed', rfl⟩
    · rw [if_neg marked] at ran ⊢
      rw [wire_of_transfer idle ran]
      exact ⟨rfl, pointer', pointed', rfl⟩
  | setTime time' sqwe =>
    obtain ⟨pointer', pointed', ran⟩ := timeInit_transfer ⟨state.regs, pointer, pointed⟩ time' sqwe
    refine ⟨rfl, pointer', pointed', ?_⟩
    rw [ClockBoard.step, wire_of_transfer idle ran]
    rfl
  | readTime timeRegister =>
    obtain ⟨pointer', pointed', ran⟩ :=
      readTime_transfer ⟨state.regs, pointer, pointed⟩ board.time timeRegister
    simp only [ClockBoard.step, wire_of_transfer idle ran]
    exact ⟨rfl, pointer', pointed', rfl⟩
  | ramWrite pBuff wrAdd num =>
    unfold ClockBoard.step ClockState.effect
    by_cases past : wrAdd.toNat ≥ ramAddress55
    · have ran : (ds1307RamWriteData pBuff wrAdd num).transfer ds1307
          (.free, ⟨state.regs, pointer, pointed⟩) =
          some ((), .free, ⟨state.regs, pointer, pointed⟩) := by
        unfold ds1307RamWriteData
        rw [if_pos past]
        rfl
      simp only [wire_of_transfer idle ran, if_pos past]
      exact ⟨time, pointer, pointed, rfl⟩
    · obtain ⟨pointer', ran⟩ :=
        ramWriteData_transfer ⟨state.regs, pointer, pointed⟩ pBuff (Nat.lt_of_not_le past) num
      simp only [wire_of_transfer idle ran, if_neg past]
      exact ⟨time, pointer', true, rfl⟩
  | ramRead pBuff wrAdd num =>
    unfold ClockBoard.step ClockState.effect
    by_cases past : wrAdd.toNat ≥ ramAddress55
    · have ran : (ds1307RamReadData pBuff wrAdd num).transfer ds1307
          (.free, ⟨state.regs, pointer, pointed⟩) =
          some (pBuff, .free, ⟨state.regs, pointer, pointed⟩) := by
        unfold ds1307RamReadData
        rw [if_pos past]
        rfl
      simp only [wire_of_transfer idle ran]
      exact ⟨time, pointer, pointed, rfl⟩
    · have below := Nat.lt_of_not_le past
      obtain ⟨pointer', pointed', ran⟩ := ramReadData_transfer
          ⟨state.regs, pointer, pointed⟩ pBuff below (inTurn below)
      simp only [wire_of_transfer idle ran]
      exact ⟨time, pointer', pointed', rfl⟩
  | elapse registers =>
    refine ⟨time, pointer, pointed, ?_⟩
    rw [ClockBoard.step, idle]
    rfl

end ClockBoard

/-- Every run on the wires is a run on the registers: each transfer reaches the chip whole, and
leaves the bus free. -/
theorem clock_refines {board : ClockBoard} {state : ClockState} (shows' : board.Shows state)
    {moves : List ClockMove} (inTurn : ∀ move ∈ moves, move.InTurn) :
    (moves.foldl ClockBoard.step board).Shows
      (moves.foldl ClockState.effect state) := by
  induction moves generalizing board state with
  | nil => exact shows'
  | cons move rest ih =>
    exact ih (shows'.step (inTurn move List.mem_cons_self)) fun later member =>
      inTurn later (List.mem_cons_of_mem move member)

/-! ## The time that was set -/

/-- The digits that the registers have room for. -/
def TimeValue.Representable (time : TimeValue) : Prop :=
  time.second.toNat ≤ 79 ∧ time.minute.toNat ≤ 79 ∧ time.hour.toNat ≤ 39 ∧ time.week.toNat ≤ 7 ∧
    time.date.toNat ≤ 39 ∧ time.month.toNat ≤ 19 ∧ time.year.toNat ≤ 159

section Digits

variable (value : Byte)

theorem second_digits :
    bcdValue (bcdDigits value 0x0f#8 &&& ~~~(1#8 <<< 7)) 0x70#8 = value ↔ value.toNat ≤ 79 := by
  revert value
  decide +kernel

theorem minute_digits : bcdValue (bcdDigits value 0x0f#8) 0x70#8 = value ↔ value.toNat ≤ 79 := by
  revert value
  decide +kernel

/-- The hour and the date. -/
theorem hour_digits : bcdValue (bcdDigits value 0x03#8) 0x30#8 = value ↔ value.toNat ≤ 39 := by
  revert value
  decide +kernel

theorem month_digits : bcdValue (bcdDigits value 0x01#8) 0x10#8 = value ↔ value.toNat ≤ 19 := by
  revert value
  decide +kernel

theorem year_digits : bcdValue (bcdDigits value 0x0f#8) 0xf0#8 = value ↔ value.toNat ≤ 159 := by
  revert value
  decide +kernel

theorem week_bits : value &&& 0x07#8 &&& 0x07#8 = value ↔ value.toNat ≤ 7 := by
  revert value
  decide +kernel

end Digits

theorem initialized_time (regs : Image 64) (time : TimeValue) (sqwe : Byte) :
    Image.ofBytes 7 (initialized regs time sqwe).bytes =
      Image.ofBytes 7 (timeBuffer time sqwe) := by
  have front : (initialized regs time sqwe).field 0 7 =
      (regs.put 0 (timeBuffer time sqwe)).field 0 7 :=
    Image.field_put_apart (by decide) (.inl (by decide))
  have eight := @Image.field_put_same 64 regs 0 (timeBuffer time sqwe) (show 0 + 8 ≤ 64 by decide)
  have part : window ((regs.put 0 (timeBuffer time sqwe)).field 0 (timeBuffer time sqwe).length) 0
      7 =
      (regs.put 0 (timeBuffer time sqwe)).field 0 7 := window_window _ (show 0 + 7 ≤ 8 by decide)
  apply Image.ext
  rw [Image.bytes_ofBytes, Image.bytes_ofBytes]
  change (initialized regs time sqwe).field 0 7 = _
  rw [front, ← part, eight]

/-- What the loop reads of a time that was set. -/
theorem readTime_buffer (time : TimeValue) (sqwe : Byte) :
    ds1307ReadTime (.ofBytes 7 (timeBuffer time sqwe)) =
    ⟨bcdValue (bcdDigits time.second 0x0f#8 &&& ~~~(1#8 <<< 7)) 0x70#8,
      bcdValue (bcdDigits time.minute 0x0f#8) 0x70#8,
      bcdValue (bcdDigits time.hour 0x03#8) 0x30#8, time.week &&& 0x07#8 &&& 0x07#8,
        bcdValue (bcdDigits time.date 0x03#8) 0x30#8,
      bcdValue (bcdDigits time.month 0x01#8) 0x10#8, bcdValue (bcdDigits time.year 0x0f#8)
        0xf0#8⟩ := rfl

/-- Moves that neither set a time nor let one pass, nor write to the registers below the RAM. -/
def ClockMove.Quiet : ClockMove → Prop
  | boot .. | readTime _ | ramRead .. => True
  | ramWrite _ wrAdd _ => 8 ≤ wrAdd.toNat
  | setTime .. | elapse _ => False

/-- The time registers and the mark of an initialisation. -/
structure ClockState.Holds (state : ClockState) (time : TimeValue) (sqwe : Byte) : Prop where
  front : Image.ofBytes 7 state.regs.bytes = Image.ofBytes 7 (timeBuffer time sqwe)
  marked : state.regs.byte ramAddress55 = testData

/-- The RAM write stays between the time and the mark. -/
theorem ramWrite_apart {regs : Image 64} {pBuff : List Byte} {wrAdd num a len : Nat}
    (below : wrAdd < ramAddress55) (apart : a + len ≤ wrAdd ∨ ramAddress55 - 1 ≤ a) :
    (regs.put wrAdd (pBuff.take (ramWriteRemain wrAdd num))).field a len = regs.field a len := by
  have room := ramWriteRemain_le below num
  have size : (pBuff.take (ramWriteRemain wrAdd num)).length ≤ ramWriteRemain wrAdd num :=
    List.length_take_le ..
  unfold ramAddress55 at *
  exact Image.field_put_apart (by omega) (apart.imp id fun past => by omega)

theorem byte_of_field {regs regs' : Image 64} {i : Nat} (same : regs'.field i 1 = regs.field i 1) :
    regs'.byte i = regs.byte i := by
  have one := @Image.byte_field 64 regs' i 1 0 (by decide)
  rw [same, Image.byte_field (by decide)] at one
  exact one.symm

theorem ClockState.Holds.effect {state : ClockState} {time : TimeValue} {sqwe : Byte}
    (holds : state.Holds time sqwe) {move : ClockMove} (quiet : move.Quiet) :
    (state.effect move).Holds time sqwe := by
  cases move with
  | boot rcv rcv' sqwe' =>
    rw [ClockState.effect, if_pos holds.marked]
    exact ⟨holds.front, holds.marked⟩
  | setTime _ _ | elapse _ => exact absurd quiet id
  | readTime _ | ramRead _ _ _ => exact ⟨holds.front, holds.marked⟩
  | ramWrite pBuff wrAdd num =>
    rw [ClockState.effect]
    split
    · exact holds
    · rename_i below
      have below := Nat.lt_of_not_le below
      have inRam : 8 ≤ wrAdd.toNat := quiet
      refine ⟨(Image.ext (ramWrite_apart below (.inl (by omega)))).trans holds.front, ?_⟩
      exact (byte_of_field (ramWrite_apart below (.inr (Nat.sub_le ..)))).trans holds.marked

theorem holds_initialized (state : ClockState) (time : TimeValue) (sqwe : Byte) :
    (state.effect (.setTime time sqwe)).Holds time sqwe :=
  ⟨initialized_time state.regs time sqwe, Image.byte_put (by decide) ramAddress55⟩

/-- What the loop has read behind moves that leave the time alone. -/
theorem time_behind {board : ClockBoard} {state : ClockState} (shows' : board.Shows state)
    {earlier later : List ClockMove} (time : TimeValue) (sqwe : Byte) (timeRegister : List Byte)
    (before : ∀ move ∈ earlier, move.InTurn) (after : ∀ move ∈ later, move.InTurn ∧ move.Quiet) :
    ((earlier ++ ClockMove.setTime time sqwe :: (later ++ [ClockMove.readTime timeRegister])).foldl
      ClockBoard.step board).time =
      ds1307ReadTime (.ofBytes 7 (timeBuffer time sqwe)) := by
  have inTurn : ∀ move ∈ earlier ++ ClockMove.setTime time sqwe ::
      (later ++ [ClockMove.readTime timeRegister]), move.InTurn := by
    intro move member
    rcases List.mem_append.mp member with early | late
    · exact before move early
    · rcases List.mem_cons.mp late with rfl | late
      · trivial
      · rcases List.mem_append.mp late with quiet | last
        · exact (after move quiet).1
        · obtain rfl := List.mem_singleton.mp last
          trivial
  rw [(clock_refines shows' inTurn).1, List.foldl_append, List.foldl_cons, List.foldl_append]
  have kept : (later.foldl ClockState.effect
      ((earlier.foldl ClockState.effect state).effect (.setTime time sqwe))).Holds time sqwe :=
    List.foldlRecOn later ClockState.effect (motive := fun current => current.Holds time sqwe)
      (holds_initialized _ time sqwe)
      fun _ held move member => held.effect (after move member).2
  exact congrArg ds1307ReadTime kept.front

/-- In every run, whatever came before: a time that was set is what the loop reads through
reboots, reads and the use of the RAM, exactly if its digits have room in the registers. -/
theorem clock_keepsTime_iff {board : ClockBoard} {state : ClockState} (shows' : board.Shows state)
    {earlier later : List ClockMove} (time : TimeValue) (sqwe : Byte) (timeRegister : List Byte)
    (before : ∀ move ∈ earlier, move.InTurn) (after : ∀ move ∈ later, move.InTurn ∧ move.Quiet) :
    ((earlier ++ ClockMove.setTime time sqwe :: (later ++ [ClockMove.readTime timeRegister])).foldl
      ClockBoard.step board).time = time ↔
      time.Representable := by
  obtain ⟨second, minute, hour, week, date, month, year⟩ := time
  rw [time_behind shows' _ sqwe timeRegister before after, readTime_buffer, TimeValue.mk.injEq,
    second_digits, minute_digits,
    hour_digits, week_bits, hour_digits, month_digits, year_digits]
  exact Iff.rfl

/-- A chip with empty registers on a free bus. -/
def emptyBoard : ClockBoard := ⟨.zero, ⟨true, true, true, .idle, ⟨.zero 64, 0, false⟩⟩⟩

theorem shows_emptyBoard : emptyBoard.Shows ⟨.zero, .zero 64⟩ := ⟨rfl, 0, false, rfl⟩

def plainBoot : ClockMove := .boot 0#8 0#8 0#8

theorem forall_plainBoot {Holds : ClockMove → Prop} (holds : Holds plainBoot) :
    ∀ move ∈ [plainBoot], Holds move :=
  fun _ member => (List.mem_singleton.mp member) ▸ holds

/-- The last second of 2020, set behind a first reboot and read behind a second one. -/
theorem clock_keepsTime_yearEnd :
    (([plainBoot] ++ ClockMove.setTime yearEnd.time 0#8 ::
      ([plainBoot] ++ [ClockMove.readTime []])).foldl
      ClockBoard.step emptyBoard).time = yearEnd.time := by
  have exactly :=
    @clock_keepsTime_iff emptyBoard _ shows_emptyBoard [plainBoot] [plainBoot] yearEnd.time 0#8 []
    (forall_plainBoot trivial) (forall_plainBoot ⟨trivial, trivial⟩)
  have room : yearEnd.time.Representable := by
    unfold TimeValue.Representable
    decide
  exact exactly.mpr room

/-! ## The time of the server -/

/-- The date and the time of day in a TIMESYNC frame. -/
def syncFields (pData : ServerData) : List Nat :=
  [pData.num 1 2, (pData.byte 3).toNat, (pData.byte 4).toNat, (pData.byte 5).toNat,
    (pData.byte 6).toNat, (pData.byte 7).toNat]

/-- The time that `data_process` makes of the frame. -/
def syncTime (pData : ServerData) : TimeValue :=
  { second := pData.byte 7
    minute := pData.byte 6
    hour := pData.byte 5
    week := pData.byte 8
    date := pData.byte 4
    month := pData.byte 3
    year := BitVec.ofInt 8 (pData.num 1 2 - 2000) }

theorem serverStep_timesync {pData : ServerData} (asks : Asks pData .timesync) (lib : CardSearch)
    (stationAddr : Image 6) (server : Server) (io : ServerIo) :
    ∃ next, serverStep lib stationAddr (server, io)
      pData = some next ∧
      next.1.time = syncTime pData ∧ next.2.clock = some (syncTime pData) ∧
        Answered io.replies next.2.replies 0#8 serverAck := by
  rw [serverStep_asks asks]
  generalize server.withHead stationAddr (pData.byte 0) = headed
  obtain ⟨next, replies, ran, answered⟩ :=
    ({ headed with time := syncTime pData } : Server).reply_run 0#8 serverAck
      { io with clock := some (syncTime pData) }
  have time : next.time = syncTime pData := by
    have same := congrArg (fun ran => ran.1.map Server.time) ran
    exact (Option.some.inj same).symm
  have whole : (ServerCmd.timesync.execute lib pData headed).run io =
      (some next, { io with clock := some (syncTime pData), replies := replies }) := by
    unfold ServerCmd.execute serverTimesync
    rw [ServerProg.run_bind, ServerProg.run_timeInit]
    exact ran
  refine ⟨(next, { io with clock := some (syncTime pData), replies := replies }), ?_, time,
    rfl, answered⟩
  rw [whole]
  rfl

/-- The year is kept in a byte, and comes back from the chip up to 2159. -/
theorem syncYear_iff (year : Nat) :
    (bcdValue (bcdDigits (BitVec.ofInt 8 (year - 2000)) 0x0f#8) 0xf0#8).toNat + 2000 = year ↔
      2000 ≤ year ∧ year ≤ 2159 := by
  have bound := (bcdValue (bcdDigits (BitVec.ofInt 8 (year - 2000)) 0x0f#8) 0xf0#8).isLt
  by_cases within : 2000 ≤ year ∧ year < 2256
  · obtain ⟨offset, rfl⟩ : ∃ offset, year = 2000 + offset := ⟨year - 2000, by omega⟩
    have small : offset < 256 := by omega
    have kept : (BitVec.ofInt 8 (((2000 + offset : Nat) : Int) - 2000)) =
        BitVec.ofNat 8 offset := by
      have difference : ((2000 + offset : Nat) : Int) - 2000 = (offset : Int) := by omega
      rw [difference]
      exact BitVec.ofInt_natCast 8 offset
    have value : (BitVec.ofNat 8 offset).toNat = offset := by
      rw [BitVec.toNat_ofNat]
      exact Nat.mod_eq_of_lt small
    have digits := year_digits (BitVec.ofNat 8 offset)
    rw [value, ← BitVec.toNat_inj, value] at digits
    rw [kept]
    omega
  · constructor
    · intro same
      omega
    · intro range
      omega

/-- After an intact TIMESYNC frame, answered with an acknowledgement, the time that the door goes
by is the one of the frame, behind reboots, reads and the use of the RAM, exactly if the chip
has room for its digits. -/
theorem timesync_reaches_iff {pData : ServerData} (asks : Asks pData .timesync) (lib : CardSearch)
    (stationAddr : Image 6) (server : Server) (io : ServerIo) {board : ClockBoard}
    {state : ClockState} (shows' : board.Shows state) {earlier later : List ClockMove} (sqwe : Byte)
    (timeRegister : List Byte) (before : ∀ move ∈ earlier, move.InTurn)
    (after : ∀ move ∈ later, move.InTurn ∧ move.Quiet) :
    ∃ next time, serverStep lib stationAddr (server, io) pData = some next ∧
      next.2.clock = some time ∧
      Answered io.replies next.2.replies 0#8 serverAck ∧
      (((earlier ++ ClockMove.setTime time sqwe ::
        (later ++ [ClockMove.readTime timeRegister])).foldl ClockBoard.step board).time.fields =
          syncFields pData ↔
        (2000 ≤ pData.num 1 2 ∧ pData.num 1 2 ≤ 2159) ∧ (pData.byte 3).toNat ≤ 19 ∧
          (pData.byte 4).toNat ≤ 39 ∧
          (pData.byte 5).toNat ≤ 39 ∧ (pData.byte 6).toNat ≤ 79 ∧ (pData.byte 7).toNat ≤ 79) := by
  obtain ⟨next, stepped, -, clock, answered⟩ := serverStep_timesync asks lib stationAddr server io
  refine ⟨next, syncTime pData, stepped, clock, answered, ?_⟩
  rw [time_behind shows' _ sqwe timeRegister before after, readTime_buffer]
  simp only [TimeValue.fields, syncFields, syncTime, List.cons.injEq, and_true, BitVec.toNat_inj,
    second_digits, minute_digits,
    hour_digits, month_digits, syncYear_iff]

/-- The last second of 2020 from the server. -/
theorem timesync_reaches_yearEnd :
    let pData := serverFrame 4#8 [0xE4#8, 0x07#8, 12#8, 31#8, 23#8, 59#8, 59#8, 4#8]
    ∃ next time, serverStep (.reference cardCompar_consistent) (.zero 6)
      (.initial, .fresh none none []) pData = some next ∧
      next.2.clock = some time ∧ Answered [] next.2.replies 0#8 serverAck ∧
      (((ClockMove.setTime time 0#8 :: ([plainBoot] ++ [ClockMove.readTime []])).foldl
        ClockBoard.step emptyBoard).time.fields =
          syncFields pData ↔
        (2000 ≤ pData.num 1 2 ∧ pData.num 1 2 ≤ 2159) ∧ (pData.byte 3).toNat ≤ 19 ∧
          (pData.byte 4).toNat ≤ 39 ∧
          (pData.byte 5).toNat ≤ 39 ∧ (pData.byte 6).toNat ≤ 79 ∧ (pData.byte 7).toNat ≤ 79) :=
  @timesync_reaches_iff _ (asks_serverFrame rfl rfl (by decide)) (.reference cardCompar_consistent)
    (.zero 6) .initial
    (.fresh none none []) emptyBoard _ shows_emptyBoard [] [plainBoot] 0#8 []
      (fun _ member => absurd member List.not_mem_nil)
    (forall_plainBoot ⟨trivial, trivial⟩)

/-! ## The mark of an initialisation, and the RAM -/

/-- Behind a reboot or a time that was set. -/
def ClockMove.Initializes : ClockMove → Prop
  | boot .. | setTime .. => True
  | readTime _ | ramWrite .. | ramRead .. | elapse _ => False

theorem marked_initialized (regs : Image 64) (time : TimeValue) (sqwe : Byte) :
    (initialized regs time sqwe).byte ramAddress55 = testData :=
  Image.byte_put (by decide) ramAddress55

theorem marked_effect {state : ClockState} {move : ClockMove}
    (held : move.Initializes ∨ state.regs.byte ramAddress55 = testData) :
    (state.effect move).regs.byte ramAddress55 = testData := by
  cases move with
  | boot rcv rcv' sqwe =>
    rw [ClockState.effect]
    split
    · assumption
    · exact marked_initialized ..
  | setTime time sqwe => exact marked_initialized ..
  | readTime _ | ramRead _ _ _ => exact held.resolve_left id
  | ramWrite pBuff wrAdd num =>
    have marked := held.resolve_left id
    rw [ClockState.effect]
    split
    · exact marked
    · rename_i below
      exact (byte_of_field (ramWrite_apart (Nat.lt_of_not_le below) (.inr (Nat.sub_le ..)))).trans
        marked
  | elapse registers =>
    have apart : (state.regs.put 0 registers.bytes).field
        ramAddress55 1 = state.regs.field ramAddress55 1 :=
      Image.field_put_apart (by rw [Image.size]; decide) (.inr (by rw [Image.size]; decide))
    exact (byte_of_field apart).trans (held.resolve_left id)

/-- In every run, a chip is initialised at most once: behind the first reboot, or the first time
that was set, no reboot changes a register. -/
theorem clock_initializedOnce {board : ClockBoard} {state : ClockState} (shows' : board.Shows state)
    {earlier later : List ClockMove} {first : ClockMove} (initializes : first.Initializes)
    (inTurn : ∀ move ∈ earlier ++ first :: later, move.InTurn) (rcv rcv' sqwe : Byte) :
    let reached := (earlier ++ first :: later).foldl ClockBoard.step board
    (reached.step (.boot rcv rcv' sqwe)).bus.device.regs = reached.bus.device.regs := by
  have now := clock_refines shows' inTurn
  have marked : ((earlier ++ first :: later).foldl ClockState.effect state).regs.byte ramAddress55 =
      testData := by
    rw [List.foldl_append, List.foldl_cons]
    exact List.foldlRecOn later ClockState.effect
      (motive := fun current => current.regs.byte ramAddress55 = testData)
      (marked_effect (.inl initializes)) fun _ held _ _ => marked_effect (.inr held)
  intro reached
  obtain ⟨-, pointer, pointed, idle⟩ := now
  obtain ⟨-, pointer', pointed', again⟩ := (clock_refines shows'
      inTurn).step (show (ClockMove.boot rcv rcv' sqwe).InTurn from trivial)
  rw [ClockState.effect, if_pos marked] at again
  change (reached.step (.boot rcv rcv' sqwe)).bus = _ at again
  change reached.bus = _ at idle
  rw [again, idle]

/-- The second reboot of a chip. -/
theorem clock_initializedOnce_again :
    let reached := ([] ++ plainBoot :: []).foldl ClockBoard.step emptyBoard
    (reached.step (.boot 0#8 0#8 0#8)).bus.device.regs = reached.bus.device.regs :=
  @clock_initializedOnce emptyBoard _ shows_emptyBoard [] [] plainBoot trivial
    (forall_plainBoot trivial) 0#8 0#8 0#8

/-- Moves that write no byte of the RAM. -/
def ClockMove.SparesRam : ClockMove → Prop
  | ramWrite .. => False
  | boot .. | setTime .. | readTime _ | ramRead .. | elapse _ => True

/-- The registers between the time and the mark. -/
theorem ram_initialized (regs : Image 64) (time : TimeValue) (sqwe : Byte) {a len : Nat}
    (above : 8 ≤ a) (below : a + len ≤ ramAddress55) : (initialized regs time sqwe).field a len =
      regs.field a len := by
  have size : (timeBuffer time sqwe).length = 8 := rfl
  unfold initialized
  rw [Image.field_put_apart (by decide) (.inl below),
    Image.field_put_apart (by omega) (.inr (by omega))]

theorem ram_effect {state : ClockState} {move : ClockMove} (spares : move.SparesRam) {a len : Nat}
    (above : 8 ≤ a) (below : a + len ≤ ramAddress55) :
    (state.effect move).regs.field a len = state.regs.field a len := by
  cases move with
  | boot rcv rcv' sqwe =>
    rw [ClockState.effect]
    split
    · rfl
    · exact ram_initialized _ _ _ above below
  | setTime time sqwe => exact ram_initialized _ _ _ above below
  | readTime _ | ramRead _ _ _ => rfl
  | ramWrite _ _ _ => exact absurd spares id
  | elapse registers =>
    unfold ramAddress55 at below
    exact Image.field_put_apart (by rw [Image.size]; decide) (.inr (by rw [Image.size]; omega))

/-- In every run, what was written to the RAM is read back, behind reboots and times that were
set, as far as both operations go: up to the register before the last two. -/
theorem ram_roundTrip {board : ClockBoard} {state : ClockState}
    (shows' : board.Shows state) {earlier later : List ClockMove}
    {pBuff : List Byte} (buffer : List Byte) {wrAdd : Byte} {num : Nat} (inRam : 8 ≤ wrAdd.toNat)
      (below : wrAdd.toNat < ramAddress55)
    (whole : num ≤ pBuff.length) (present : 0 < ramReadRemain wrAdd.toNat num)
      (before : ∀ move ∈ earlier, move.InTurn)
    (after : ∀ move ∈ later, move.InTurn ∧ move.SparesRam) :
    (((earlier ++ .ramWrite pBuff wrAdd num :: later).foldl ClockBoard.step board).wire
      (ds1307RamReadData buffer wrAdd num)).1 =
      pBuff.take (min num (ramAddress55 - 1 - wrAdd.toNat)) ++
        buffer.drop (min num (ramAddress55 - 1 - wrAdd.toNat)) := by
  have inTurn : ∀ move ∈ earlier ++ .ramWrite pBuff wrAdd num :: later, move.InTurn := by
    intro move member
    rcases List.mem_append.mp member with early | late
    · exact before move early
    · rcases List.mem_cons.mp late with rfl | late
      · trivial
      · exact (after move late).1
  obtain ⟨-, pointer, pointed, idle⟩ := clock_refines shows' inTurn
  obtain ⟨pointer', pointed', ran⟩ :=
    ramReadData_transfer ⟨_, pointer, pointed⟩ buffer below present
  rw [ClockBoard.wire_of_transfer idle ran]
  have remain : ramReadRemain wrAdd.toNat num = min num (ramAddress55 - 1 - wrAdd.toNat) := by
    unfold ramReadRemain ramAddress55 at *
    split <;> omega
  have room := ramReadRemain_le below num
  have size : (pBuff.take (ramReadRemain wrAdd.toNat num)).length =
      ramReadRemain wrAdd.toNat num := by
    rw [List.length_take]
    omega
  have kept : ((earlier ++ .ramWrite pBuff wrAdd num :: later).foldl ClockState.effect
      state).regs.field wrAdd.toNat
      (ramReadRemain wrAdd.toNat num) = pBuff.take (ramReadRemain wrAdd.toNat num) := by
    rw [List.foldl_append, List.foldl_cons]
    have start : ((earlier.foldl ClockState.effect state).effect (.ramWrite
        pBuff wrAdd num)).regs.field wrAdd.toNat
        (ramReadRemain wrAdd.toNat num) = pBuff.take (ramReadRemain wrAdd.toNat num) := by
      rw [ClockState.effect, if_neg (Nat.not_le_of_lt below), ramWriteRemain_eq]
      have stored := @Image.field_put_same
          64 (earlier.foldl ClockState.effect state).regs wrAdd.toNat
        (pBuff.take (ramReadRemain wrAdd.toNat num)) (by
          rw [size]
          unfold ramAddress55 at *
          omega)
      rwa [size] at stored
    refine List.foldlRecOn later
      ClockState.effect (motive := fun current => current.regs.field wrAdd.toNat
      (ramReadRemain wrAdd.toNat num) = pBuff.take (ramReadRemain wrAdd.toNat num)) start fun _ held
        move member => ?_
    rw [ram_effect (after move member).2 inRam (by omega)]
    exact held
  simp only
  rw [kept, remain]

/-- Two bytes at the start of the RAM. -/
theorem ram_roundTrip_two :
    ((([] ++ ClockMove.ramWrite [1#8, 2#8] 8#8 2 :: [plainBoot]).foldl ClockBoard.step
      emptyBoard).wire
      (ds1307RamReadData [] 8#8 2)).1 = [1#8, 2#8] :=
  @ram_roundTrip emptyBoard _ shows_emptyBoard [] [plainBoot] [1#8, 2#8] [] 8#8 2 (by decide)
    (by decide) (by decide) (by decide) (fun _ member => absurd member List.not_mem_nil)
      (forall_plainBoot ⟨trivial, trivial⟩)

end WifiAccess

import WifiAccess.Finger.Download

/-! What a module has to send so that the receive handlers stay inside their buffers: frames
and packets that pass their checks, and no data where no frame has announced it. -/

namespace WifiAccess

/-- A byte from the line, the driver's preparation for the answer to a command, or its reset. -/
inductive FingerEvent where
  | byte (usart : Usart) (byte : Byte)
  | command (usart : Usart)
  | reset

namespace RecievePack

variable (pack : RecievePack)

/-- `Transmit_Data` returns 1. -/
def Sound : Prop := pack.checkSum = pack.chk ∧ pack.head = 0xF5#8 ∧ pack.tail = 0xF5#8

instance : Decidable pack.Sound := inferInstanceAs (Decidable (_ ∧ _))

end RecievePack

/-- The check on the packet in `receiveMore`. -/
def PacketSound (more : Image 200) (dataLen : Nat) : Prop :=
  more.byte (dataLen + 2) = 0xF5#8 ∧ more.byte (dataLen + 1) = xorSum (more.field 1 dataLen)

instance (more : Image 200) (dataLen : Nat) : Decidable (PacketSound more dataLen) :=
  inferInstanceAs (Decidable (_ ∧ _))

namespace Finger

def event (finger : Finger) : FingerEvent → Option Finger
  | .byte usart byte => finger.receive usart byte
  | .command usart => some (finger.cleared usart)
  | .reset => some finger.resetFingerFlag

/-- The byte makes `receive_pack` a frame. -/
def Completes (finger : Finger) (usart : Usart) : Prop :=
  finger.receiveLen usart = 7 ∧ ¬ finger.receivePack.Bad ∧ finger.receivePack.cmd ≠ 0xF5#8

/-- A frame passes its check and announces at most 197 bytes. Data comes on a port whose frame
has passed, and a packet passes its check. -/
def Orderly (finger : Finger) : FingerEvent → Prop
  | .byte usart byte =>
    if finger.Short usart then
      finger.Completes usart → RecievePack.Sound (finger.receivePack.put 7 [byte]) ∧
        (finger.receivePack.Announces → finger.receivePack.announced ≤ 197)
    else (finger.port usart).longOk = false →
      (finger.port usart).shortOk = true ∧
        let more : Image 200 := finger.receiveMore.put (finger.receiveLen usart) [byte]
        (more.byte 0 = 0xF5#8 → finger.dataLen + 3 ≤ finger.receiveLen usart + 1 →
          PacketSound more finger.dataLen)
  | .command _ | .reset => True

instance (finger : Finger) (usart : Usart) : Decidable (finger.Completes usart) :=
  inferInstanceAs (Decidable (_ ∧ _))

instance (finger : Finger) : (event : FingerEvent) → Decidable (finger.Orderly event)
  | .byte usart _ => inferInstanceAs (Decidable (if finger.Short usart then _ → _ else _ → _))
  | .command _ | .reset => inferInstanceAs (Decidable True)

/-- A port without a frame has room for one, a port with a frame for what was announced. -/
def Room (dataLen : Nat) (port : FingerPort) : Prop :=
  if port.shortOk then port.longOk = false → port.receiveLen ≤ 8 ∨ port.receiveLen < dataLen + 3
  else port.receiveLen < 8

theorem room_waiting {dataLen : Nat} {port : FingerPort} (waiting : port.shortOk = false)
    (inside : port.receiveLen < 8) : Room dataLen port := by
  rw [Room, waiting]
  exact inside

theorem room_taken {dataLen : Nat} {port : FingerPort} (taken : port.shortOk = true)
    (inside : port.longOk = false → port.receiveLen ≤ 8 ∨ port.receiveLen < dataLen + 3) :
    Room dataLen port := by
  rw [Room, if_pos taken]
  exact inside

theorem room_empty {dataLen : Nat} {port : FingerPort} (empty : port.receiveLen = 0) :
    Room dataLen port := by
  cases taken : port.shortOk with
  | true => exact room_taken taken fun _ => .inl (by omega)
  | false => exact room_waiting taken (by omega)

structure Settled (finger : Finger) : Prop where
  fits : finger.Fits
  room : ∀ usart, Room finger.dataLen (finger.port usart)

/-- The same, but for one port. -/
structure Beside (finger : Finger) (usart : Usart) : Prop where
  fits : finger.Fits
  room : ∀ other, other ≠ usart → Room finger.dataLen (finger.port other)

section Steps

variable {finger next : Finger} {usart : Usart}

theorem port_setPort_other {other : Usart} (port : FingerPort) (apart : other ≠ usart) :
    (finger.setPort port usart).port other = finger.port other := by
  cases usart <;> cases other <;> first | rfl | exact absurd rfl apart

/-- What a change of one port leaves to prove. -/
theorem Beside.setPort (beside : finger.Beside usart) {port : FingerPort}
    (room : Room finger.dataLen port) :
    (finger.setPort port usart).Settled where
  fits := by
    rw [Fits, dataLen_setPort]
    exact beside.fits
  room other := by
    rw [dataLen_setPort]
    by_cases same : other = usart
    · rw [same, port_setPort]
      exact room
    · rw [port_setPort_other port same]
      exact beside.room other same

theorem Settled.beside (settled : finger.Settled) (usart : Usart) : finger.Beside usart :=
  ⟨settled.fits, fun other _ => settled.room other⟩

theorem Settled.setPort (settled : finger.Settled) {port : FingerPort}
    (room : Room finger.dataLen port) :
    (finger.setPort port usart).Settled := (settled.beside usart).setPort room

theorem setPort_setPort (first second : FingerPort) :
    (finger.setPort first usart).setPort second usart = finger.setPort second usart := by
  cases usart <;> rfl

/-! ## A byte of a frame -/

/-- Storing a byte in `receive_pack` changes nothing else but the counter. -/
theorem storeShort_frame (finger : Finger) (usart : Usart) (byte : Byte) :
    ∃ pack len, (finger.storeShort usart byte).dropMark usart =
      { finger with receivePack := pack }.setLen usart len := by
  have stored : ∃ pack len, finger.storeShort usart byte =
      { finger with receivePack := pack }.setLen usart len := by
    unfold storeShort
    dsimp only
    split
    · exact ⟨_, _, rfl⟩
    · exact ⟨_, _, rfl⟩
  obtain ⟨pack, len, same⟩ := stored
  rw [same, dropMark]
  split
  · refine ⟨pack, len - 1, ?_⟩
    rw [setLen, port_setPort, setPort_setPort, receiveLen_setLen]
  · exact ⟨pack, len, rfl⟩

theorem clearMore_fits {len : Nat} (fits : len ≤ 197) (more : Image 200) :
    ∃ cleared, clearMore (len + 3) 0 more = some cleared :=
  Option.isSome_iff_exists.mp ((clearMore_isSome _ (by decide) more).mpr (by omega))

/-- A frame that passes its check leaves the port with it, and the counters of both ports at 0
where it announces data. -/
theorem transmitData_settled (settled : finger.Settled) {pack : RecievePack} (sound : pack.Sound)
    (inside : pack.Announces → pack.announced ≤ 197) :
    ∃ sent, Finger.transmitData ({ finger with receivePack := pack }.setLen usart 8) =
      some (true, sent) ∧
      (sent.setShortOk usart true).Settled := by
  have passes : decide (pack.checkSum = pack.chk ∧ pack.head = 0xF5#8 ∧ pack.tail = 0xF5#8) =
      true := decide_eq_true sound
  unfold transmitData
  rw [receivePack_setPort]
  dsimp only
  rw [passes]
  by_cases announces : pack.Announces
  · rw [if_pos announces]
    obtain ⟨more, cleared⟩ := clearMore_fits (inside announces) finger.receiveMore
    rw [receiveMore_setPort, cleared]
    refine ⟨_, rfl, Settled.setPort ⟨inside announces, fun other => ?_⟩
      (room_taken rfl fun _ => .inl ?_)⟩
    · cases other <;> exact room_empty rfl
    · cases usart <;> exact Nat.zero_le 8
  · rw [if_neg announces]
    refine ⟨_, rfl, ?_⟩
    rw [setShortOk, setPort_setPort, port_setPort]
    have same : ({ finger with receivePack := pack } : Finger).Settled :=
      ⟨settled.fits, settled.room⟩
    exact same.setPort (room_taken rfl fun _ => .inl (Nat.le_refl 8))

theorem receiveShort_settled (settled : finger.Settled) (short : finger.Short usart) (byte : Byte)
    (orderly : finger.Completes usart → RecievePack.Sound (finger.receivePack.put 7 [byte]) ∧
      (finger.receivePack.Announces → finger.receivePack.announced ≤ 197)) :
    ∃ next, finger.receiveShort usart byte = some next ∧ next.Settled := by
  have room := settled.room usart
  rw [Room, short.2] at room
  have inside : finger.receiveLen usart < 8 := room
  rw [receiveShort, if_pos inside]
  rcases storeShort_full byte inside with ⟨last, good, other, full⟩ | ⟨-, unfinished⟩
  · obtain ⟨sound, announced⟩ := orderly ⟨last, good, other⟩
    have same : RecievePack.Announces (finger.receivePack.put 7 [byte]) →
        finger.receivePack.Announces := by
      rw [RecievePack.Announces, cmd_put_tail]
      exact id
    obtain ⟨sent, made, kept⟩ :=
      @transmitData_settled finger usart settled _ sound fun announces => by
        rw [announced_put_tail]
        exact announced (same announces)
    rw [full, checkShort, receiveLen_setLen, if_pos (Nat.le_refl 8), made]
    exact ⟨_, rfl, kept⟩
  · obtain ⟨pack, len, stored⟩ := storeShort_frame finger usart byte
    rw [stored, receiveLen_setLen] at unfinished
    rw [stored, checkShort, receiveLen_setLen, if_neg (by omega)]
    have same : ({ finger with receivePack := pack } : Finger).Settled :=
      ⟨settled.fits, settled.room⟩
    exact ⟨_, rfl, same.setPort (room_waiting short.2 unfinished)⟩

/-! ## A byte of a packet -/

theorem checkFull_settled (beside : finger.Beside usart)
    (taken : (finger.port usart).shortOk = true)
    (sound : finger.dataLen + 3 ≤ finger.receiveLen usart →
      PacketSound finger.receiveMore finger.dataLen) :
    ∃ next, finger.checkFull usart = some next ∧ next.Settled := by
  have fits := beside.fits
  rw [checkFull]
  by_cases full : finger.dataLen + 3 ≤ finger.receiveLen usart
  · obtain ⟨tail, sum⟩ := sound full
    rw [if_pos full, if_pos (by omega), sumMore_eq (by omega) (by omega), Option.map_some]
    have passes : decide (finger.receiveMore.byte (finger.dataLen + 2) = 0xF5#8 ∧
        finger.receiveMore.byte (finger.dataLen + 1) =
          xorSum (finger.receiveMore.field 1 finger.dataLen)) = true :=
      decide_eq_true ⟨tail, sum⟩
    have other : ({ finger with receiveMode := false } : Finger).Beside usart := ⟨fits, beside.room⟩
    exact ⟨_, rfl, other.setPort (room_taken taken fun running =>
      absurd (passes.symm.trans running) (by decide))⟩
  · rw [if_neg full]
    refine ⟨finger, rfl, fits, fun other => ?_⟩
    by_cases same : other = usart
    · rw [same]
      exact room_taken taken fun _ => .inr (Nat.lt_of_not_le full)
    · exact beside.room other same

theorem receiveLong_settled (settled : finger.Settled) (byte : Byte)
    (running : (finger.port usart).longOk = false) (taken : (finger.port usart).shortOk = true)
    (orderly : let more : Image 200 := finger.receiveMore.put (finger.receiveLen usart) [byte]
      more.byte 0 = 0xF5#8 → finger.dataLen + 3 ≤ finger.receiveLen usart + 1 →
      PacketSound more finger.dataLen) :
    ∃ next, finger.receiveLong usart byte = some next ∧ next.Settled := by
  have fits := settled.fits
  have room := settled.room usart
  rw [Room, if_pos taken] at room
  have short : finger.receiveLen usart ≤ 8 ∨ finger.receiveLen usart < finger.dataLen + 3 :=
    room running
  have inside : finger.receiveLen usart < 200 := by omega
  have beside : (finger.storeLong usart byte).Beside usart := by
    refine ⟨by rwa [Fits, storeLong, dataLen_setPort], fun other apart => ?_⟩
    rw [storeLong, dataLen_setPort, port_setPort_other _ apart]
    exact settled.room other
  have more : (finger.storeLong usart byte).receiveMore =
      finger.receiveMore.put (finger.receiveLen usart) [byte] := by
    rw [storeLong, receiveMore_setPort]
  have len : (finger.storeLong usart byte).dataLen = finger.dataLen := by
    rw [storeLong, dataLen_setPort]
  have counted : (finger.storeLong usart byte).receiveLen usart = finger.receiveLen usart + 1 := by
    rw [storeLong, receiveLen_setLen]
  have kept : ((finger.storeLong usart byte).port usart).shortOk = true := by
    rw [storeLong, port_setPort]
    exact taken
  rw [receiveLong, if_pos inside, checkHead]
  by_cases head : (finger.storeLong usart byte).receiveMore.byte 0 = 0xF5#8
  · rw [if_neg (not_not_intro head), Option.bind_some]
    refine checkFull_settled beside kept fun full => ?_
    rw [len, counted] at full
    rw [more] at head
    rw [more, len]
    exact orderly head full
  · rw [if_pos head]
    obtain ⟨cleared, done⟩ := clearMore_fits beside.fits (finger.storeLong usart byte).receiveMore
    rw [done, Option.map_some, Option.bind_some, checkFull, receiveLen_setLen, if_neg (by omega)]
    have other : ({ finger.storeLong usart byte with
        receiveMode := false
        receiveMore := cleared } : Finger).Beside usart := ⟨beside.fits, beside.room⟩
    exact ⟨_, rfl, other.setPort (room_empty rfl)⟩

end Steps

/-- An orderly event is handled, and the next one finds room. -/
theorem event_settled {finger : Finger} (settled : finger.Settled) {event : FingerEvent}
    (orderly : finger.Orderly event) :
    ∃ next, finger.event event = some next ∧ next.Settled := by
  cases event with
  | command usart =>
    have same : ({ finger with receivePack := .zero 8 } : Finger).Settled :=
      ⟨settled.fits, settled.room⟩
    exact ⟨_, rfl, same.setPort (room_empty rfl)⟩
  | reset => exact ⟨_, rfl, Nat.zero_le 197, fun usart => by cases usart <;> exact room_empty rfl⟩
  | byte usart byte =>
    change ∃ next, finger.receive usart byte = some next ∧ next.Settled
    rw [Orderly] at orderly
    rw [receive]
    by_cases short : finger.Short usart
    · rw [if_pos short] at orderly ⊢
      exact receiveShort_settled settled short byte orderly
    · rw [if_neg short] at orderly ⊢
      by_cases running : (finger.port usart).longOk = false
      · rw [if_pos running]
        exact receiveLong_settled settled byte running (orderly running).1 (orderly running).2
      · rw [if_neg running]
        exact ⟨finger, rfl, settled⟩

/-- In a run of orderly events no handler leaves `receive_pack` or `receiveMore`. -/
theorem receive_orderly {events : List FingerEvent}
    (orderly : MovesMeet event Orderly .initial events) :
    (runMoves event .initial events).isSome := by
  have start : Settled .initial := ⟨by decide, fun usart => by cases usart <;> exact room_empty rfl⟩
  obtain ⟨final, ran, -⟩ :=
    runMoves_progress (fun settled orderly => event_settled settled orderly) start orderly
  rw [ran, Option.isSome_some]

/-- The template of a user, 2 bytes long, on one port, and then the number of users on the other. -/
theorem receive_orderly_two :
    let template := [0xF5#8, 0x31#8, 0#8, 2#8, 0#8, 0#8, 0x33#8, 0xF5#8,
      0xF5#8, 0x11#8, 0x22#8, 0x33#8, 0xF5#8]
    let count := [0xF5#8, 0x09#8, 0#8, 5#8, 0#8, 0#8, 0x0C#8, 0xF5#8]
    (runMoves event .initial (.command .usart2 :: template.map (.byte .usart2) ++
      .reset :: .command .usart3 :: count.map (.byte .usart3))).isSome :=
  receive_orderly (by decide +kernel)

end Finger

end WifiAccess

import WifiAccess.Link.Bounds

/-! A packet that is cut into frames is put together again. -/

namespace WifiAccess

/-! ## The frames -/

theorem spiWriteNum_pos {lenth : Nat} (positive : 0 < lenth) : 0 < spiWriteNum lenth := by
  unfold spiWriteNum
  split <;> omega

theorem spiWriteLastByte_le (lenth : Nat) : spiWriteLastByte lenth ≤ 31 := by
  unfold spiWriteLastByte
  split <;> omega

/-- All frames but the last are full. -/
theorem spiWrite_lenth {lenth : Nat} (positive : 0 < lenth) :
    (spiWriteNum lenth - 1) * 31 + spiWriteLastByte lenth = lenth := by
  unfold spiWriteNum spiWriteLastByte
  split <;> omega

/-- Frame `i` of a packet. -/
structure Carries (pack : List Byte) (i : Nat) (frame : Frame) : Prop where
  starts : frame.starts = decide (i = 0)
  ends : frame.ends = decide (i = spiWriteNum pack.length - 1)
  len : frame.len = if i = spiWriteNum pack.length - 1 then spiWriteLastByte pack.length else 31
  bytes : frame.field 1 frame.len = window pack (i * 31) frame.len

private theorem command_last : ∀ last < 32, ∀ first : Bool,
    let command : Byte := if first then (endBit ||| BitVec.ofNat 8 last) |||
        startBit else endBit ||| BitVec.ofNat 8 last
    decide (command &&& startBit = startBit) = first ∧ command &&& endBit = endBit ∧
      (command &&& 0x3f#8).toNat = last := by
  decide

private theorem command_full : ∀ first : Bool,
    let command : Byte := if first then 31#8 ||| startBit else 31#8
    decide (command &&& startBit = startBit) = first ∧ command &&& endBit ≠ endBit ∧
      (command &&& 0x3f#8).toNat = 31 := by
  decide

private theorem carries_put {pack : List Byte} {i count : Nat} (buf : Frame) {command : Byte}
    (short : count ≤ 31) (starts : decide (command &&& startBit = startBit) = decide (i = 0))
    (ends : command &&& endBit = endBit ↔ i = spiWriteNum pack.length - 1)
    (len : (command &&& 0x3f#8).toNat = count)
    (size : count = if i = spiWriteNum pack.length - 1 then spiWriteLastByte pack.length else 31) :
    Carries pack i (Image.put (buf.put 0 [command]) 1 (window pack (i * 31) count)) := by
  have width : (window pack (i * 31) count).length = count := length_window ..
  have first : Image.byte (Image.put (buf.put 0 [command]) 1 (window pack (i * 31) count)) 0 =
      command := by
    rw [Image.byte_put (by omega), if_neg (by omega), Image.byte_put (by simp), if_pos (by simp)]
    rfl
  have counted : Frame.len (Image.put (buf.put 0 [command]) 1 (window pack (i * 31) count)) =
      count := by
    rw [Frame.len, first, len]
  refine ⟨?_, ?_, counted.trans size, ?_⟩
  · rw [Frame.starts, first, starts]
  · rw [Frame.ends, first, decide_eq_decide]
    exact ends
  · have same :=
      Image.field_put_same (buf.put 0 [command])
        (show 1 + (window pack (i * 31) count).length ≤ 32 by omega)
    rw [width] at same
    rw [counted, same]

theorem spiWriteFrame_carries (pack : List Byte) (i : Nat) (buf : Frame) :
    Carries pack i (spiWriteFrame pack (spiWriteNum pack.length)
      (spiWriteLastByte pack.length) i buf) := by
  have short := spiWriteLastByte_le pack.length
  unfold spiWriteFrame
  by_cases last : i = spiWriteNum pack.length - 1
  · obtain ⟨starts, ends, len⟩ :=
      command_last (spiWriteLastByte pack.length) (by omega) (decide (i = 0))
    simp only [decide_eq_true_eq] at starts ends len
    simp only [ne_eq, last, not_true_eq_false, ↓reduceIte] at starts ends len ⊢
    exact carries_put buf short starts (by simp [ends]) len (by simp)
  · obtain ⟨starts, ends, len⟩ := command_full (decide (i = 0))
    simp only [decide_eq_true_eq] at starts ends len
    simp only [ne_eq, last, not_false_eq_true, ↓reduceIte]
    exact carries_put buf (by omega) starts (by simp [ends, last]) len (by simp [last])

theorem length_spiWriteLoop (pack : List Byte) (num lastByte left i : Nat) (buf : Frame) :
    (spiWriteLoop pack num lastByte left i buf).length = left := by
  induction left generalizing i buf with
  | zero => rfl
  | succ left ih => rw [spiWriteLoop, List.length_cons, ih]

/-! ## Putting them together -/

/-- The receiver after the first `i` frames of a packet. -/
structure Filled (pack : List Byte) (i : Nat) (rx : Rx) : Prop where
  receiving : rx.isReceive = true
  counter : rx.packCounter = i
  lenth : rx.recvLenth = i * 31
  idle : rx.isRecvPack = false
  bytes : rx.recvPack.field 0 (i * 31) = window pack 0 (i * 31)

/-- The receiver after the last one. -/
structure Complete (pack : List Byte) (rx : Rx) : Prop where
  receiving : rx.isReceive = false
  lenth : rx.recvLenth = pack.length
  full : rx.isRecvPack = true
  bytes : rx.recvPack.field 0 pack.length = pack

theorem Filled.start {pack : List Byte} {rx : Rx} {frame : Frame} (carries : Carries pack 0 frame)
    (idle : rx.isRecvPack = false) : Filled pack 0 (rx.started frame) := by
  have begun : rx.started frame = rx.start := if_pos (carries.starts.trans (decide_eq_true rfl))
  rw [begun]
  exact ⟨rfl, rfl, rfl, idle, rfl⟩

theorem Carries.keep {pack : List Byte} {i : Nat} {frame : Frame} (carries : Carries pack i frame)
    (later : i ≠ 0) (rx : Rx) : rx.started frame = rx := by
  rw [Rx.started, if_neg]
  rw [carries.starts]
  simpa using later

section Take

variable {pack : List Byte} {i : Nat} {rx : Rx} {frame : Frame}

theorem Filled.bytes_put (filled : Filled pack i rx) (carries : Carries pack i frame)
    (inside : i * 31 + frame.len ≤ 5120) :
    (rx.recvPack.put (i * 31) (frame.field 1 frame.len)).field 0 (i * 31 + frame.len) =
      window pack 0 (i * 31 + frame.len) := by
  have width : (frame.field 1 frame.len).length = frame.len := Image.length_field ..
  have behind :=
    rx.recvPack.field_put_behind (show i * 31 + (frame.field 1 frame.len).length ≤ 5120 by omega)
  rw [width] at behind
  rw [behind, filled.bytes, carries.bytes, window_add, Nat.zero_add]

theorem Filled.step (filled : Filled pack i rx) (carries : Carries pack i frame)
    (room : pack.length ≤ 5120) (more : i + 1 < spiWriteNum pack.length) :
    ∃ next, rx.take frame = some (-1, next) ∧ Filled pack (i + 1) next := by
  have some_bytes : 0 < pack.length := by
    by_contra none_left
    have empty : pack.length = 0 := by omega
    rw [empty] at more
    exact absurd more (by simp [spiWriteNum])
  have total := spiWrite_lenth some_bytes
  have middle : i ≠ spiWriteNum pack.length - 1 := by omega
  have inner : frame.ends = false := carries.ends.trans (decide_eq_false middle)
  have len : frame.len = 31 := carries.len.trans (if_neg middle)
  have bytes := filled.bytes_put carries (by omega)
  have place : (i + 1) * 31 = i * 31 + 31 := by omega
  rw [len] at bytes
  refine ⟨_, Rx.take_middle inner (.inr ⟨by decide, by rw [filled.counter]; omega⟩),
    filled.receiving, ?_, ?_,
    filled.idle, ?_⟩
  · simp only [filled.counter]
    omega
  · simp only [Rx.total, filled.lenth, len]
    omega
  · simp only [filled.counter, place]
    exact bytes

theorem Filled.last (filled : Filled pack i rx) (carries : Carries pack i frame)
    (room : pack.length ≤ 5120)
    (all : i + 1 = spiWriteNum pack.length) (positive : 0 < pack.length) :
    ∃ next, rx.take frame = some (0, next) ∧ Complete pack next := by
  have total := spiWrite_lenth positive
  have short := spiWriteLastByte_le pack.length
  have final : i = spiWriteNum pack.length - 1 := by omega
  have outer : frame.ends = true := carries.ends.trans (decide_eq_true final)
  have len : frame.len = spiWriteLastByte pack.length := carries.len.trans (if_pos final)
  have size : i * 31 + frame.len = pack.length := by
    rw [len, final]
    exact total
  have bytes := filled.bytes_put carries (by omega)
  rw [size, window_all] at bytes
  refine ⟨_, Rx.take_last outer (.inr ⟨by omega, by rw [filled.counter]; omega⟩), rfl, ?_, rfl, ?_⟩
  · simp only [Rx.total, filled.lenth]
    omega
  · simp only [filled.counter]
    exact bytes

end Take

/-- Ready for frame `i` of a packet. -/
def Ready (pack : List Byte) (i : Nat) (rx : Rx) : Prop :=
  rx.isRecvPack = false ∧ (i = 0 ∨ Filled pack i rx)

theorem Ready.begin {pack : List Byte} {i : Nat} {rx : Rx} {frame : Frame} (ready : Ready pack i rx)
    (carries : Carries pack i frame) :
    Filled pack i (rx.started frame) ∧ spiRead rx frame = (rx.started frame).take frame := by
  have filled : Filled pack i (rx.started frame) := by
    obtain ⟨idle, first | filled⟩ := ready
    · subst first
      exact Filled.start carries idle
    · by_cases first : i = 0
      · subst first
        exact Filled.start carries idle
      · rw [carries.keep first]
        exact filled
  refine ⟨filled, ?_⟩
  rw [spiRead_idle ready.1, if_pos filled.receiving]

/-- The frames from frame `i` on complete the packet. -/
theorem spiReads_rest {pack : List Byte} (room : pack.length ≤ 5120) (positive : 0 < pack.length)
    {left i : Nat} (count : i + left + 1 = spiWriteNum pack.length) (buf : Frame) {rx : Rx}
    (ready : Ready pack i rx) :
    ∃ final, spiReads rx
        (spiWriteLoop pack (spiWriteNum pack.length) (spiWriteLastByte pack.length)
          (left + 1) i buf) =
      some (List.replicate left (-1) ++ [0], final) ∧ Complete pack final := by
  induction left generalizing i buf rx with
  | zero =>
    have carries := spiWriteFrame_carries pack i buf
    obtain ⟨filled, read⟩ := ready.begin carries
    obtain ⟨final, taken, complete⟩ := filled.last carries room (by omega) positive
    refine ⟨final, ?_, complete⟩
    simp only [spiWriteLoop, spiReads, read, taken]
    rfl
  | succ left ih =>
    have carries := spiWriteFrame_carries pack i buf
    obtain ⟨filled, read⟩ := ready.begin carries
    obtain ⟨next, taken, more⟩ := filled.step carries room (by omega)
    obtain ⟨final, ran, complete⟩ := ih (i := i + 1) (by omega)
      (spiWriteFrame pack (spiWriteNum pack.length) (spiWriteLastByte pack.length) i buf)
        ⟨more.idle, .inr more⟩
    refine ⟨final, ?_, complete⟩
    rw [spiWriteLoop]
    simp only [spiReads, read, taken, ran]
    rfl

theorem spiReads_cons {rx final : Rx} {frame : Frame} {rest : List Frame} {results : List Int}
    (read : spiReads rx (frame :: rest) = some (results, final)) :
    ∃ result next later, spiRead rx frame = some (result, next) ∧
      spiReads next rest = some (later, final) ∧
      results = result :: later := by
  rw [spiReads] at read
  split at read
  · cases read
  · rename_i result next passed
    obtain ⟨⟨later, last⟩, ran, same⟩ := Option.map_eq_some_iff.mp read
    obtain ⟨rfl, rfl⟩ := Prod.mk.inj same
    exact ⟨result, next, later, passed, ran, rfl⟩

/-- Calls that return -1 until the last one leave the checks to do. -/
theorem receive_of_spiReads {frames : List Frame} {left : Nat} {wifi : Wifi} {rx : Rx}
    (read : spiReads wifi.rx frames = some (List.replicate left (-1) ++ [0], rx)) :
    receive wifi frames = (wifi.withRx rx).fill.check.map fun (reception, final) =>
      (List.replicate left .waiting ++ [reception], final) := by
  induction frames generalizing left wifi with
  | nil =>
    have results := congrArg Prod.fst (Option.some.inj read)
    cases left <;> cases results
  | cons frame rest ih =>
    obtain ⟨result, next, later, passed, ran, results⟩ := spiReads_cons read
    cases left with
    | zero =>
      obtain ⟨rfl, rfl⟩ := List.cons.inj results
      cases rest with
      | nil =>
        obtain rfl := congrArg Prod.snd (Option.some.inj ran)
        simp only [receive, wifiStep, passed, ↓reduceIte]
        cases (wifi.withRx next).fill.check with
        | none => rfl
        | some checked => rfl
      | cons other rest =>
        obtain ⟨_, _, _, _, _, more⟩ := spiReads_cons ran
        cases more
    | succ left =>
      obtain ⟨rfl, rfl⟩ := List.cons.inj results
      have onward := @ih left (wifi.withRx next) ran
      simp only [receive, wifiStep, passed]
      rw [if_neg (by decide)]
      simp only [onward, Option.map_map]
      rfl

/-! ## The checks -/

section Pack

variable (cmd : Byte) (data : List Byte)

theorem length_wifiSendPack : (wifiSendPack cmd data).length = 7 + data.length := by
  simp [wifiSendPack]
  omega

theorem wifiSendPack_crc :
    window (wifiSendPack cmd data) 0 4 = leBytes 4
      (blockCrcCalc (cmd :: leBytes 2 data.length ++ data)) := by
  simp only [wifiSendPack]
  generalize blockCrcCalc (cmd :: leBytes 2 data.length ++ data) = crc
  have size : (leBytes 4 crc).length = 4 := length_leBytes ..
  have all := window_all (leBytes 4 crc)
  rw [size] at all
  rw [window_append_left (by omega), all]

/-- What stands behind the CRC. -/
theorem wifiSendPack_behind (off len : Nat) :
    window (wifiSendPack cmd data) (4 + off) len = window (cmd :: leBytes 2 data.length ++ data)
      off len := by
  simp only [wifiSendPack]
  generalize blockCrcCalc (cmd :: leBytes 2 data.length ++ data) = crc
  have behind := window_append_right (leBytes 4 crc) (cmd :: leBytes 2 data.length ++ data) off len
  rwa [length_leBytes] at behind

theorem wifiSendPack_checked :
    window (wifiSendPack cmd data) 4 (3 + data.length) = cmd :: leBytes 2 data.length ++ data := by
  have all := window_all (cmd :: leBytes 2 data.length ++ data)
  have size : (cmd :: leBytes 2 data.length ++ data).length = 3 + data.length := by
    simp
    omega
  rw [size] at all
  rw [← Nat.add_zero 4, wifiSendPack_behind, all]

theorem wifiSendPack_cmd : window (wifiSendPack cmd data) 4 1 = [cmd] := by
  rw [← Nat.add_zero 4, wifiSendPack_behind]
  rfl

theorem wifiSendPack_lenth : window (wifiSendPack cmd data) 5 2 = leBytes 2 data.length := by
  have behind := wifiSendPack_behind cmd data 1 2
  rw [behind, ← List.singleton_append, List.append_assoc]
  have right := window_append_right [cmd] (leBytes 2 data.length ++ data) 0 2
  have size : (leBytes 2 data.length).length = 2 := length_leBytes ..
  have all := window_all (leBytes 2 data.length)
  rw [size] at all
  rw [List.length_singleton, Nat.add_zero] at right
  rw [right, window_append_left (by omega), all]

theorem wifiSendPack_data : window (wifiSendPack cmd data) 7 data.length = data := by
  have behind := wifiSendPack_behind cmd data 3 data.length
  have right := window_append_right (cmd :: leBytes 2 data.length) data 0 data.length
  have size : (cmd :: leBytes 2 data.length).length = 3 := by simp
  rw [size, Nat.add_zero, window_all] at right
  rw [behind, right]

end Pack

/-- A complete packet as `wifi_send` builds it passes the checks. -/
theorem Complete.accepted {cmd : Byte} {data : List Byte} {rx : Rx}
    (complete : Complete (wifiSendPack cmd data) rx) (short : data.length ≤ 5113) (wifi : Wifi) :
    ∃ final, (wifi.withRx rx).fill.check = some (.accepted, final) ∧ final.cmd = cmd ∧
      final.lenth = data.length ∧ final.dataBytes = data ∧
        final.rx = { rx with isRecvPack := false } := by
  have bytes := complete.bytes
  rw [length_wifiSendPack] at bytes
  have stored {a len : Nat} (inside : a + len ≤ 7 + data.length) :
      rx.recvPack.field a len = window (wifiSendPack cmd data) a len := by
    rw [← bytes, Image.field, Image.field, window_window _ inside, Nat.zero_add]
  have header {a len : Nat} (inside : a + len ≤ 7) :
      (wifi.withRx rx).fill.packRecv.field a len = window (wifiSendPack cmd data) a len := by
    rw [← stored (by omega)]
    change window (window (window rx.recvPack.bytes 0 7) 0 7) a len = window rx.recvPack.bytes a len
    rw [window_window _ inside, Nat.zero_add, window_window _ inside, Nat.zero_add]
  have lenth : (wifi.withRx rx).fill.lenth = data.length := by
    rw [Wifi.lenth, Image.num, header (by decide), wifiSendPack_lenth, leValue_leBytes (by omega)]
  have crc : (wifi.withRx rx).fill.crc = blockCrcCalc (cmd :: leBytes 2 data.length ++ data) := by
    rw [Wifi.crc, Image.num, header (by decide), wifiSendPack_crc,
      leValue_leBytes (blockCrcCalc_lt _)]
  have sent : (wifi.withRx rx).fill.cmd = cmd := by
    have single := header (show 4 + 1 ≤ 7 by decide)
    rw [wifiSendPack_cmd, Image.field_succ] at single
    exact (List.cons.inj single).1
  have checked : (wifi.withRx rx).fill.rx.recvPack.field 4 (3 + data.length) = cmd ::
      leBytes 2 data.length ++ data :=
    (stored (by omega)).trans (wifiSendPack_checked cmd data)
  have received : (wifi.withRx rx).fill.rx.recvLenth = 7 + data.length :=
    complete.lenth.trans (length_wifiSendPack cmd data)
  refine ⟨(wifi.withRx rx).fill.deliver.idle, ?_, sent, lenth, ?_, rfl⟩
  · rw [Wifi.check, lenth, received, if_neg (by omega), if_neg (by omega), crc, checked,
      if_neg (by simp)]
  · have data :=
      (stored (show 7 + data.length ≤ 7 + data.length by omega)).trans (wifiSendPack_data cmd data)
    change rx.recvPack.field 7 (wifi.withRx rx).fill.lenth = _
    rw [lenth, data]

/-- The frames of a packet, given to the receive loop in any state between packets. -/
theorem receive_packet (cmd : Byte) {data : List Byte} (short : data.length ≤ 5113) {wifi : Wifi}
    (idle : wifi.rx.isRecvPack = false) (buf : Frame) :
    ∃ left rx final, (spiWriteFrames buf (wifiSendPack cmd data)).length = left + 1 ∧
      spiReads wifi.rx (spiWriteFrames buf (wifiSendPack cmd data)) =
        some (List.replicate left (-1) ++ [0], rx) ∧
      rx.recvLenth = 7 + data.length ∧ rx.recvPack.field 0 (7 + data.length) =
        wifiSendPack cmd data ∧
      receive wifi (spiWriteFrames buf (wifiSendPack cmd data)) =
        some (List.replicate left .waiting ++ [.accepted], final) ∧
      final.cmd = cmd ∧ final.lenth = data.length ∧ final.dataBytes = data ∧
        final.rx.isRecvPack = false := by
  have size := length_wifiSendPack cmd data
  have positive := spiWriteNum_pos (show 0 < (wifiSendPack cmd data).length by omega)
  obtain ⟨left, count⟩ := Nat.exists_eq_succ_of_ne_zero (Nat.ne_of_gt positive)
  have frames : spiWriteFrames buf (wifiSendPack cmd data) = spiWriteLoop (wifiSendPack cmd data)
      (spiWriteNum (wifiSendPack cmd data).length) (spiWriteLastByte (wifiSendPack cmd data).length)
        (left + 1) 0 buf := by
    rw [spiWriteFrames]
    congr 1
  obtain ⟨rx, read, complete⟩ :=
    spiReads_rest (show (wifiSendPack cmd data).length ≤ 5120 by omega) (by omega)
    (show 0 + left + 1 = _ by omega) buf ⟨idle, .inl rfl⟩
  obtain ⟨final, passed, sent, lenth, bytes, last⟩ := complete.accepted short wifi
  rw [← frames] at read
  refine ⟨left, rx, final, ?_, read, complete.lenth.trans size, ?_, ?_, sent, lenth,
    bytes, by rw [last]⟩
  · rw [frames, length_spiWriteLoop]
  · rw [← size]
    exact complete.bytes
  · rw [receive_of_spiReads read, passed]
    rfl

/-! ## The states between packets -/

theorem Wifi.check_rx {wifi final : Wifi} {reception : Reception}
    (checked : wifi.check = some (reception, final)) :
    final.rx = { wifi.rx with isRecvPack := false } := by
  unfold check at checked
  split at checked
  · cases checked
    rfl
  · split at checked
    · cases checked
    · split at checked
      · cases checked
        rfl
      · cases checked
        rfl

theorem Rx.idle_started {rx : Rx} (idle : rx.isRecvPack = false) (frame : Frame) :
    (rx.started frame).isRecvPack = false := by
  unfold started
  split
  · exact idle
  · exact idle

/-- What an accepted packet has passed. -/
theorem Wifi.check_accepted {wifi final : Wifi} (checked : wifi.check = some (.accepted, final)) :
    wifi.lenth + 7 = wifi.rx.recvLenth ∧ wifi.lenth ≤ 5113 ∧
      wifi.crc = blockCrcCalc (wifi.rx.recvPack.field 4 (3 + wifi.lenth)) ∧
        final = wifi.deliver.idle := by
  unfold check at checked
  split at checked
  · cases checked
  · rename_i lenth
    split at checked
    · cases checked
    · rename_i inside
      split at checked
      · cases checked
      · rename_i crc
        cases checked
        exact ⟨not_not.mp lenth, by omega, not_not.mp crc, rfl⟩

theorem spiRead_result {rx next : Rx} {frame : Frame} {result : Int} (idle : rx.isRecvPack = false)
    (read : spiRead rx frame = some (result, next)) : result = 0 ∨ next.isRecvPack = false := by
  rw [spiRead_idle idle] at read
  split at read
  · rw [Rx.take] at read
    split at read
    · obtain ⟨recvPack, _, same⟩ := Option.map_eq_some_iff.mp read
      exact .inl (congrArg Prod.fst same).symm
    · obtain ⟨recvPack, _, same⟩ := Option.map_eq_some_iff.mp read
      obtain ⟨_, rfl⟩ := Prod.mk.inj same
      exact .inr (Rx.idle_started idle frame)
  · cases read
    exact .inr (Rx.idle_started idle frame)

/-- At the head of the loop no packet is waiting to be checked. -/
theorem wifiStep_idle {wifi next : Wifi} {frame : Frame} {reception : Reception}
    (idle : wifi.rx.isRecvPack = false) (stepped : wifiStep wifi frame = some (reception, next)) :
    next.rx.isRecvPack = false := by
  unfold wifiStep at stepped
  split at stepped
  · cases stepped
  · rename_i result rx read
    split at stepped
    · rw [Wifi.check_rx stepped]
    · rename_i waiting
      cases stepped
      exact (spiRead_result idle read).resolve_left waiting

theorem receive_idle {wifi final : Wifi} {frames : List Frame} {receptions : List Reception}
    (idle : wifi.rx.isRecvPack = false) (ran : receive wifi frames = some (receptions, final)) :
    final.rx.isRecvPack = false := by
  induction frames generalizing wifi receptions with
  | nil =>
    cases ran
    exact idle
  | cons frame rest ih =>
    obtain ⟨_, next, later, stepped, remaining, _⟩ := receive_cons ran
    exact ih (wifiStep_idle idle stepped) remaining

/-- From every state that the receive loop reaches, indeed from every state between
two packets, the frames of a packet are read with -1 but for the last one, and the
packet is accepted with its own command, length and data. -/
theorem packet_roundTrip (earlier : List Frame) (receptions : List Reception) (reached wifi : Wifi)
    (cmd : Byte) (data : List Byte) (buf : Frame)
    (ran : receive .initial earlier = some (receptions, reached))
    (idle : wifi.rx.isRecvPack = false) (short : data.length ≤ 5113) :
    reached.rx.isRecvPack = false ∧
      ∃ left rx final, (spiWriteFrames buf (wifiSendPack cmd data)).length = left + 1 ∧
        spiReads wifi.rx (spiWriteFrames buf (wifiSendPack cmd data)) =
          some (List.replicate left (-1) ++ [0], rx) ∧
        rx.recvLenth = 7 + data.length ∧ rx.recvPack.field 0 (7 + data.length) =
          wifiSendPack cmd data ∧
        receive wifi (spiWriteFrames buf (wifiSendPack cmd data)) =
          some (List.replicate left .waiting ++ [.accepted], final) ∧
        final.cmd = cmd ∧ final.lenth = data.length ∧ final.dataBytes = data ∧
          final.rx.isRecvPack = false :=
  ⟨receive_idle rfl ran, receive_packet cmd short idle buf⟩

/-- A packet of three frames behind one of two. -/
theorem packet_roundTrip_behind : ∃ reached final,
    receive .initial (spiWriteFrames (.zero 32) (wifiSendPack 9#8 (List.replicate 40 1#8))) =
        some ([.waiting, .accepted], reached) ∧
      receive reached (spiWriteFrames (.zero 32) (wifiSendPack 7#8 (List.replicate 80 5#8))) =
        some ([.waiting, .waiting, .accepted], final) ∧
      final.cmd = 7#8 ∧ final.dataBytes = List.replicate 80 5#8 := by
  have frames (cmd : Byte) (data : List Byte) :
      (spiWriteFrames (.zero 32) (wifiSendPack cmd data)).length =
        spiWriteNum (7 + data.length) := by
    rw [spiWriteFrames, length_spiWriteLoop, length_wifiSendPack]
  obtain ⟨_, one, _, reached, count, _, _, _, before, _, _, _, idle⟩ :=
    packet_roundTrip [] [] .initial .initial 9#8 (List.replicate 40 1#8) (.zero 32) rfl
      rfl (by decide)
  obtain ⟨_, two, _, final, count', _, _, _, ran, cmd, _, data, _⟩ :=
    packet_roundTrip _ _ reached reached 7#8 (List.replicate 80 5#8) (.zero 32) before
      idle (by decide)
  rw [frames] at count count'
  obtain rfl : one = 1 := Nat.succ.inj count.symm
  obtain rfl : two = 2 := Nat.succ.inj count'.symm
  exact ⟨reached, final, before, ran, cmd, data⟩

end WifiAccess

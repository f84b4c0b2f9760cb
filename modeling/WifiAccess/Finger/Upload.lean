import WifiAccess.Finger.Command

/-! Templates that the module sends: what the handler makes of the answer, and what the
driver waits for. -/

namespace WifiAccess

namespace Finger

variable {finger next : Finger} {usart : Usart}

/-! ## The counter -/

section Counter

variable {other : Usart}

theorem receiveLen_setLen_le {len : Nat} (small : finger.receiveLen other ≤ 200)
    (fits : len ≤ 200) :
    (finger.setLen usart len).receiveLen other ≤ 200 := by
  cases usart <;> cases other <;> first | exact fits | exact small

theorem receiveLen_setShortOk (ok : Bool) :
    (finger.setShortOk usart ok).receiveLen other = finger.receiveLen other := by
  cases usart <;> cases other <;> rfl

theorem receiveLen_setLongOk (ok : Bool) :
    (finger.setLongOk usart ok).receiveLen other = finger.receiveLen other := by
  cases usart <;> cases other <;> rfl

/-- The counter depends on the ports only. -/
theorem receiveLen_congr {first second : Finger} (same2 : first.usart2 = second.usart2)
    (same3 : first.usart3 = second.usart3) :
    first.receiveLen other = second.receiveLen other := by
  cases other
  · exact congrArg FingerPort.receiveLen same2
  · exact congrArg FingerPort.receiveLen same3

theorem storeShort_counter {byte : Byte} (inside : finger.receiveLen usart < 8)
    (small : finger.receiveLen other ≤ 200) :
    ((finger.storeShort usart byte).dropMark usart).receiveLen other ≤ 200 := by
  have stored : (finger.storeShort usart byte).receiveLen other ≤ 200 ∧
      (finger.storeShort usart byte).receiveLen usart ≤ 200 := by
    unfold storeShort
    dsimp only
    split
    · exact ⟨receiveLen_setLen_le ((receiveLen_congr rfl rfl).trans_le small) (by decide), by
        rw [receiveLen_setLen]; decide⟩
    · exact ⟨receiveLen_setLen_le ((receiveLen_congr rfl rfl).trans_le small) (by omega), by
        rw [receiveLen_setLen]; omega⟩
  unfold dropMark
  split
  · exact receiveLen_setLen_le stored.1 (by omega)
  · exact stored.1

theorem transmitData_counter {ret : Bool} (small : finger.receiveLen other ≤ 200)
    (sent : finger.transmitData = some (ret, next)) : next.receiveLen other ≤ 200 := by
  unfold transmitData at sent
  dsimp only at sent
  split at sent
  · obtain ⟨more, -, made⟩ := Option.map_eq_some_iff.mp sent
    cases made
    rw [receiveLen_congr rfl rfl]
    exact receiveLen_setLen_le (receiveLen_setLen_le small (by decide)) (by decide)
  · cases sent
    exact small

theorem receiveShort_counter {byte : Byte} (small : finger.receiveLen other ≤ 200)
    (taken : finger.receiveShort usart byte = some next) : next.receiveLen other ≤ 200 := by
  unfold receiveShort at taken
  split at taken
  · rename_i inside
    have stored := @storeShort_counter _ _ _ byte inside small
    unfold checkShort at taken
    split at taken
    · obtain ⟨⟨ret, sent⟩, made, rfl⟩ := Option.map_eq_some_iff.mp taken
      rw [receiveLen_setShortOk]
      exact transmitData_counter stored made
    · rw [← Option.some.inj taken]
      exact stored
  · cases taken

theorem receiveLong_counter {byte : Byte} (small : finger.receiveLen other ≤ 200)
    (taken : finger.receiveLong usart byte = some next) : next.receiveLen other ≤ 200 := by
  unfold receiveLong at taken
  split at taken
  · rename_i inside
    have stored : (finger.storeLong usart byte).receiveLen other ≤ 200 := by
      unfold storeLong
      exact receiveLen_setLen_le ((receiveLen_congr rfl rfl).trans_le small) (by omega)
    obtain ⟨headed, checked, full⟩ := Option.bind_eq_some_iff.mp taken
    have kept : headed.receiveLen other ≤ 200 := by
      unfold checkHead at checked
      split at checked
      · obtain ⟨more, -, rfl⟩ := Option.map_eq_some_iff.mp checked
        exact receiveLen_setLen_le ((receiveLen_congr rfl rfl).trans_le stored) (by decide)
      · cases checked
        exact stored
    unfold checkFull at full
    split at full
    · split at full
      · obtain ⟨checkSum, -, rfl⟩ := Option.map_eq_some_iff.mp full
        rw [receiveLen_setLongOk, receiveLen_congr rfl rfl]
        exact kept
      · cases full
    · cases full
      exact kept
  · cases taken

/-- No counter gets past the size of `receiveMore`. -/
theorem step_counter {arrival : Usart × Byte} (small : finger.receiveLen other ≤ 200)
    (taken : finger.step arrival = some next) : next.receiveLen other ≤ 200 := by
  unfold step receive at taken
  split at taken
  · exact receiveShort_counter small taken
  · split at taken
    · exact receiveLong_counter small taken
    · cases taken
      exact small

/-- What the wait ends with. -/
theorem await_counter {rcnt count : Nat} {polls : Polls} (small : finger.receiveLen other ≤ 200)
    (waited : await usart rcnt count polls finger = some next) : next.receiveLen other ≤ 200 := by
  induction count generalizing polls finger with
  | zero => exact runMoves_keeps step_counter small waited
  | succ count ih =>
    obtain ⟨polled, ran, rest⟩ := Option.bind_eq_some_iff.mp waited
    have kept := runMoves_keeps step_counter small ran
    split at rest
    · exact ih kept rest
    · cases rest
      exact kept

end Counter

/-- A wait for more bytes than are ever counted takes all that come in time. -/
theorem await_all {rcnt count : Nat} {polls : Polls} (many : 200 < rcnt)
    (small : finger.receiveLen usart ≤ 200) (inTime : polls.length ≤ count + 1)
    (ran : runMoves step finger polls.flatten = some next) :
    await usart rcnt count polls finger = some next := by
  induction count generalizing polls finger with
  | zero =>
    rcases polls with _ | ⟨first, _ | ⟨second, rest⟩⟩
    · exact ran
    · rwa [List.flatten_singleton] at ran
    · simp at inTime
  | succ count ih =>
    rcases polls with _ | ⟨first, rest⟩
    · cases ran
      exact await_silent ..
    · rw [List.flatten_cons, runMoves_append_bind] at ran
      obtain ⟨polled, reached, later⟩ := Option.bind_eq_some_iff.mp ran
      have kept := runMoves_keeps step_counter small reached
      have waiting := ih kept (Nat.le_of_succ_le_succ inTime) later
      have short : polled.receiveLen usart < rcnt := by omega
      refine Option.bind_eq_some_iff.mpr ⟨polled, reached, ?_⟩
      rw [if_pos short]
      exact waiting

/-! ## The answer -/

/-- These bytes of a frame have come. -/
structure Heads (finger : Finger) (usart : Usart) (bytes : List Byte) : Prop where
  mode : finger.receiveMode = false
  port : finger.port usart = ⟨false, false, bytes.length⟩
  pack : finger.receivePack = (Image.zero 8).put 0 bytes

/-- These bytes of a packet have come. -/
structure Packs (finger : Finger) (usart : Usart) (bytes : List Byte) : Prop where
  mode : finger.receiveMode = true
  port : finger.port usart = ⟨true, false, bytes.length⟩
  announced : finger.dataLen = 196
  content : finger.receiveMore.field 0 bytes.length = bytes

/-- The beginning of a frame that is not taken for anything else. -/
structure Begins (bytes : List Byte) : Prop where
  head : bytes.getD 0 0#8 = 0xF5#8
  cmd : bytes.getD 1 0#8 ≠ 0xF5#8
  none : bytes.getD 5 0#8 = 0#8

theorem Begins.front {first second : List Byte} (begins : Begins (first ++ second))
    (some_byte : 0 < first.length) :
    Begins first := by
  have same {i : Nat} (inside : i < first.length) : first.getD i 0#8 =
      (first ++ second).getD i 0#8 := by
    rw [getD_append, if_pos inside]
  refine ⟨(same some_byte).trans begins.head, ?_, ?_⟩
  · rcases Nat.lt_or_ge 1 first.length with inside | past
    · rw [same inside]
      exact begins.cmd
    · rw [getD_past past]
      decide
  · rcases Nat.lt_or_ge 5 first.length with inside | past
    · rw [same inside]
      exact begins.none
    · exact getD_past past

section Frames

variable {bytes : List Byte} {byte : Byte}

theorem byte_zero_put (small : bytes.length ≤ 8) (i : Nat) :
    ((Image.zero 8).put 0 bytes).byte i = bytes.getD i 0#8 := by
  rw [Image.byte_put (by omega), Image.byte_zero, Nat.zero_add, Nat.sub_zero]
  split
  · rfl
  · rw [getD_past (by omega)]

theorem Begins.not_bad (begins : Begins bytes) (small : bytes.length ≤ 8) :
    ¬ RecievePack.Bad ((Image.zero 8).put 0 bytes) := by
  rintro (head | none)
  · exact head ((byte_zero_put small 0).trans begins.head)
  · exact none ((byte_zero_put small 5).trans begins.none)

theorem Begins.cmd_put (begins : Begins bytes) (small : bytes.length ≤ 8) :
    RecievePack.cmd ((Image.zero 8).put 0 bytes) ≠ 0xF5#8 := by
  rw [RecievePack.cmd, byte_zero_put small]
  exact begins.cmd

theorem Heads.short (heads : Heads finger usart bytes) : finger.Short usart :=
  ⟨heads.mode, by rw [heads.port]⟩

theorem Heads.len (heads : Heads finger usart bytes) : finger.receiveLen usart = bytes.length := by
  rw [receiveLen, heads.port]

/-- The next byte of a frame. -/
theorem Heads.step (heads : Heads finger usart bytes) (more : bytes.length < 7)
    (begins : Begins (bytes ++ [byte])) :
    ∃ next, finger.step (usart, byte) = some next ∧ Heads next usart (bytes ++ [byte]) := by
  have size : (bytes ++ [byte]).length = bytes.length + 1 := List.length_append
  have stored : finger.receivePack.put bytes.length [byte] =
      (Image.zero 8).put 0 (bytes ++ [byte]) := by
    rw [heads.pack, ← Image.put_append, Nat.zero_add]
  have sound := begins.not_bad (by omega)
  have other := begins.cmd_put (by omega)
  refine ⟨{ finger with receivePack := (Image.zero 8).put 0 (bytes ++ [byte]) }.setLen usart
    (bytes.length + 1), ?_, ?_⟩
  · have counted : ¬ 8 ≤ bytes.length + 1 := by omega
    rw [Finger.step, receive, if_pos heads.short, receiveShort, heads.len, if_pos (by omega),
      storeShort, heads.len, stored]
    dsimp only
    rw [if_neg sound, dropMark, receivePack_setPort, if_neg other, checkShort, receiveLen_setLen,
      if_neg counted]
  · refine ⟨?_, ?_, ?_⟩
    · rw [receiveMode_setPort]
      exact heads.mode
    · rw [port_setPort, size]
      have same : Finger.port { finger with receivePack := (Image.zero 8).put 0 (bytes ++ [byte]) }
          usart = finger.port usart := by
        cases usart <;> rfl
      rw [same, heads.port]
    · exact receivePack_setPort ..

/-- The first bytes of a frame, one after the other. -/
theorem Heads.run {rest : List Byte} (heads : Heads finger usart bytes)
    (few : (bytes ++ rest).length ≤ 7) (begins : Begins (bytes ++ rest)) :
    ∃ next, runMoves Finger.step finger (rest.map (usart, ·)) = some next ∧
      Heads next usart (bytes ++ rest) := by
  induction rest generalizing bytes finger with
  | nil => exact ⟨finger, rfl, by rwa [List.append_nil]⟩
  | cons byte rest ih =>
    rw [List.append_cons] at few begins ⊢
    have more : bytes.length < 7 := by
      simp at few
      omega
    obtain ⟨next, stepped, counted⟩ := heads.step more (begins.front (by simp))
    obtain ⟨final, ran, last⟩ := ih counted few begins
    refine ⟨final, ?_, last⟩
    rw [List.map_cons, runMoves, stepped]
    exact ran

/-- A sound frame that announces 196 bytes. -/
theorem transmitData_announced (announces : finger.receivePack.Announces)
    (announced : finger.receivePack.announced = 196)
    (sound : finger.receivePack.checkSum = finger.receivePack.chk)
    (head : finger.receivePack.head = 0xF5#8) (tail : finger.receivePack.tail = 0xF5#8) :
    ∃ sent, finger.transmitData = some (true, sent) ∧
      sent.receiveMode = true ∧ sent.dataLen = 196 ∧
        ∀ usart, sent.port usart = { finger.port usart with receiveLen := 0 } := by
  have room := (clearMore_isSome 199 (Nat.zero_le _) finger.receiveMore).mpr (by decide)
  obtain ⟨more, cleared⟩ := Option.isSome_iff_exists.mp room
  refine ⟨{ (finger.setLen .usart2 0).setLen .usart3 0
    with receiveMode := true, dataLen := 196, receiveMore := more },
    ?_, rfl, rfl, ?_⟩
  · rw [transmitData]
    dsimp only
    rw [if_pos announces, announced, cleared]
    simp only [sound, head, tail, and_self, decide_true, Option.map_some]
  · rintro (_ | _) <;> rfl

/-- The last byte of a frame that announces 196 bytes. -/
theorem Heads.last {front : List Byte} (heads : Heads finger usart front) (size : front.length = 7)
    (begins : Begins front) {header : RecievePack}
    (whole : header = (Image.zero 8).put 0 (front ++ [0xF5#8])) (announces : header.Announces)
    (announced : header.announced = 196) (sound : header.checkSum = header.chk) :
    ∃ next, finger.step (usart, 0xF5#8) = some next ∧ Packs next usart [] := by
  have length : (front ++ [0xF5#8]).length = 8 := by
    rw [List.length_append, size]
    rfl
  have len : finger.receiveLen usart = 7 := heads.len.trans size
  have notBad : ¬ finger.receivePack.Bad := by
    rw [heads.pack]
    exact begins.not_bad (by omega)
  have other : finger.receivePack.cmd ≠ 0xF5#8 := by
    rw [heads.pack]
    exact begins.cmd_put (by omega)
  have stored : finger.receivePack.put 7 [0xF5#8] = header := by
    rw [whole, heads.pack, ← Image.put_append, Nat.zero_add, size]
  have marks : header.head = 0xF5#8 ∧ header.tail = 0xF5#8 := by
    rw [RecievePack.head, RecievePack.tail, whole, byte_zero_put (by omega),
      byte_zero_put (by omega), getD_append,
      getD_append, size]
    exact ⟨begins.head, rfl⟩
  rcases storeShort_full 0xF5#8 (show finger.receiveLen usart < 8 by omega)
    with ⟨-, -, -, full⟩ | ⟨unfinished, -⟩
  · have same : Finger.port ({ finger with receivePack := header }.setLen usart 8) usart =
        { finger.port usart with receiveLen := 8 } := by
      cases usart <;> rfl
    obtain ⟨sent, transmitted, mode, dataLen, ports⟩ :=
      @transmitData_announced ({ finger with receivePack := header }.setLen usart 8)
        (by rw [receivePack_setPort]; exact announces)
          (by rw [receivePack_setPort]; exact announced)
        (by rw [receivePack_setPort]; exact sound) (by rw [receivePack_setPort]; exact marks.1)
        (by rw [receivePack_setPort]; exact marks.2)
    refine ⟨sent.setShortOk usart true, ?_, ?_, ?_, ?_, rfl⟩
    · rw [Finger.step, receive, if_pos heads.short, receiveShort,
        if_pos (show finger.receiveLen usart < 8 by omega), full,
        stored, checkShort, receiveLen_setLen, if_pos (by decide), transmitted]
      rfl
    · rwa [receiveMode_setPort]
    · rw [port_setPort, ports, same, heads.port]
      rfl
    · rwa [dataLen_setPort]
  · exact absurd ⟨len, notBad, other⟩ unfinished

section Packet

variable (packs : Packs finger usart bytes)
include packs

theorem Packs.long : ¬ finger.Short usart ∧ (finger.port usart).longOk = false := by
  rw [Short, packs.mode, packs.port]
  simp

theorem Packs.len : finger.receiveLen usart = bytes.length := by
  rw [receiveLen, packs.port]

/-- What a byte of the packet leaves before the checks. -/
theorem Packs.stored (more : bytes.length < 200) :
    (finger.storeLong usart byte).receiveMore.field 0 (bytes.length + 1) = bytes ++ [byte] := by
  have stored := @Image.field_put_behind 200 finger.receiveMore bytes.length
      [byte] (Nat.succ_le_of_lt more)
  rw [packs.content] at stored
  rw [storeLong, receiveMore_setPort, packs.len]
  exact stored

theorem Packs.headed (more : bytes.length < 200) (head : (bytes ++ [byte]).getD 0 0#8 = 0xF5#8) :
    (finger.storeLong usart byte).checkHead usart = some (finger.storeLong usart byte) := by
  have marked : (finger.storeLong usart byte).receiveMore.byte 0 = 0xF5#8 := by
    rw [← packs.stored more, Image.byte_field (Nat.succ_pos _)] at head
    exact head
  rw [checkHead, if_neg (not_not.mpr marked)]

/-- The next byte of a packet. -/
theorem Packs.step (more : bytes.length < 198) (head : (bytes ++ [byte]).getD 0 0#8 = 0xF5#8) :
    ∃ next, finger.step (usart, byte) = some next ∧ Packs next usart (bytes ++ [byte]) := by
  have size : (bytes ++ [byte]).length = bytes.length + 1 := List.length_append
  refine ⟨finger.storeLong usart byte, ?_, ?_, ?_, ?_, ?_⟩
  · have short : ¬ (finger.storeLong usart byte).dataLen + 3 ≤
        (finger.storeLong usart byte).receiveLen usart := by
      rw [storeLong, receiveLen_setLen, dataLen_setPort, packs.announced, packs.len]
      omega
    rw [Finger.step, receive, if_neg packs.long.1, if_pos packs.long.2, receiveLong,
      if_pos (show finger.receiveLen usart < 200 by rw [packs.len]; omega),
        packs.headed (by omega) head, Option.bind_some,
      checkFull, if_neg short]
  · rw [storeLong, receiveMode_setPort]
    exact packs.mode
  · rw [storeLong, port_setPort, size, packs.len]
    have same : Finger.port
        { finger with receiveMore := finger.receiveMore.put bytes.length [byte] } usart =
      finger.port usart := by cases usart <;> rfl
    rw [same, packs.port]
  · rw [storeLong, dataLen_setPort]
    exact packs.announced
  · rw [size]
    exact packs.stored (by omega)

end Packet

theorem Packs.run {rest : List Byte} (packs : Packs finger usart bytes)
    (few : (bytes ++ rest).length ≤ 198) (head : (bytes ++ rest).getD 0 0#8 = 0xF5#8) :
    ∃ next, runMoves Finger.step finger (rest.map (usart, ·)) = some next ∧
      Packs next usart (bytes ++ rest) := by
  induction rest generalizing bytes finger with
  | nil => exact ⟨finger, rfl, by rwa [List.append_nil]⟩
  | cons byte rest ih =>
    rw [List.append_cons] at few head ⊢
    have first : (bytes ++ [byte]).getD 0 0#8 = 0xF5#8 := by
      rw [getD_append, if_pos (by simp)] at head
      exact head
    have more : bytes.length < 198 := by
      simp at few
      omega
    obtain ⟨next, stepped, counted⟩ := packs.step more first
    obtain ⟨final, ran, last⟩ := ih counted few head
    refine ⟨final, ?_, last⟩
    rw [List.map_cons, runMoves, stepped]
    exact ran

/-- The last byte of the packet. -/
theorem Packs.last {data : List Byte} (size : data.length = 196)
    (packs : Packs finger usart (0xF5#8 :: data ++ [xorSum data])) :
    ∃ next, finger.step (usart, 0xF5#8) = some next ∧ (next.port usart).longOk = true ∧
      next.receiveMore.field 1 196 = data := by
  have length : (0xF5#8 :: data ++ [xorSum data]).length = 198 := by simp [size]
  have whole := @Packs.stored _ _ _ 0xF5#8 packs (by omega)
  rw [length, Image.field_succ] at whole
  have behind : (finger.storeLong usart 0xF5#8).receiveMore.field 1 (196 + 2) = data ++
      [xorSum data, 0xF5#8] := by
    exact (List.cons.inj whole).2.trans (List.append_assoc data [xorSum data] [0xF5#8])
  rw [Image.field_add] at behind
  obtain ⟨content, ends⟩ := List.append_inj behind (by rw [Image.length_field, size])
  rw [Image.field_succ, Image.field_succ] at ends
  have check : (finger.storeLong usart 0xF5#8).receiveMore.byte 197 = xorSum data :=
    (List.cons.inj ends).1
  have mark : (finger.storeLong usart 0xF5#8).receiveMore.byte 198 = 0xF5#8 :=
    (List.cons.inj (List.cons.inj ends).2).1
  have announced : (finger.storeLong usart 0xF5#8).dataLen = 196 := by
    rw [storeLong, dataLen_setPort]
    exact packs.announced
  have counted : (finger.storeLong usart 0xF5#8).receiveLen usart = 199 := by
    rw [storeLong, receiveLen_setLen, packs.len, length]
  have sum :=
    @sumMore_eq (finger.storeLong usart 0xF5#8).receiveMore 196 1 (by decide) (by decide) 0#8
  rw [content] at sum
  refine ⟨{ finger.storeLong usart 0xF5#8 with receiveMode := false }.setLongOk usart true, ?_, ?_,
    ?_⟩
  · have full : (finger.storeLong usart 0xF5#8).checkFull usart =
        some ({ finger.storeLong usart 0xF5#8 with receiveMode := false }.setLongOk
          usart true) := by
      have done : (finger.storeLong usart 0xF5#8).dataLen + 3 ≤
          (finger.storeLong usart 0xF5#8).receiveLen usart := by
        rw [announced, counted]
      rw [checkFull, if_pos done]
      simp only [announced, sum, check, mark, xorSum, Option.map_some, and_self, decide_true]
      rfl
    rw [Finger.step, receive, if_neg packs.long.1, if_pos packs.long.2, receiveLong,
      if_pos (show finger.receiveLen usart < 200 by rw [packs.len]; omega),
        packs.headed (by omega) rfl, Option.bind_some, full]
  · rw [port_setPort]
  · rw [receiveMore_setPort]
    exact content

end Frames

/-- The answer with a template: a frame that announces 196 bytes, and these bytes. -/
def eigenReply (cmd q1 : Byte) (data : List Byte) : List Byte :=
  frame [cmd, q1, 0xC4#8, 0#8, 0#8] ++ frame data

theorem Heads.start (mode : finger.receiveMode = false) : Heads (finger.cleared usart) usart [] :=
  ⟨(receiveMode_setPort ..).trans mode, port_setPort ..,
    (receivePack_setPort ..).trans (Image.put_nil ..).symm⟩

/-- The handler takes the whole answer, and has the data. -/
theorem eigenReply_received (mode : finger.receiveMode = false) {cmd : Byte}
    (command : cmd = cmdGetEigen ∨ cmd = cmdUpEigen) (q1 : Byte) {data : List Byte}
    (size : data.length = 196) :
    ∃ final, runMoves step (finger.cleared usart) ((eigenReply cmd q1 data).map (usart, ·)) =
      some final ∧
      final.receiveMore.field 1 196 = data := by
  have parts : eigenReply cmd q1 data =
      [0xF5#8, cmd, q1, 0xC4#8, 0#8, 0#8, xorSum [cmd, q1, 0xC4#8, 0#8, 0#8]] ++
      ([0xF5#8] ++ (0xF5#8 :: data ++ [xorSum data] ++ [0xF5#8])) := by
    simp [eigenReply, frame, cmdHead, cmdTail]
  have begins : Begins [0xF5#8, cmd, q1, 0xC4#8, 0#8, 0#8, xorSum [cmd, q1, 0xC4#8, 0#8, 0#8]] := by
    refine ⟨rfl, ?_, rfl⟩
    change cmd ≠ 0xF5#8
    rcases command with rfl | rfl <;> decide
  obtain ⟨headed, ranFront, heads⟩ := (@Heads.start _ usart mode).run (by simp) begins
  rw [List.nil_append] at heads
  have field (i : Nat) :=
    @byte_zero_put ([0xF5#8, cmd, q1, 0xC4#8, 0#8, 0#8, xorSum [cmd, q1, 0xC4#8, 0#8, 0#8]] ++
      [0xF5#8])
    (by simp) i
  obtain ⟨announced, taken, packs⟩ := heads.last rfl begins rfl
    (by
      rw [RecievePack.Announces, RecievePack.cmd, field 1]
      change cmd ∈ _
      rcases command with rfl | rfl <;> decide)
    (by
      rw [RecievePack.announced, RecievePack.q2, RecievePack.q3, field 3, field 4]
      change ((0xC4#8).toNat + (0#8).toNat * 2 ^ 8) % 2 ^ 8 = 196
      decide)
    (by
      rw [RecievePack.checkSum, RecievePack.cmd, RecievePack.q1, RecievePack.q2, RecievePack.q3,
        RecievePack.none,
        RecievePack.chk, field 1, field 2, field 3, field 4, field 5, field 6]
      simp [xorSum])
  obtain ⟨packed, ranData, packs⟩ :=
    packs.run (show ([] ++ (0xF5#8 :: data ++ [xorSum data])).length ≤ 198 by simp [size]) rfl
  obtain ⟨final, ended, -, content⟩ := packs.last size
  refine ⟨final, ?_, content⟩
  rw [parts, List.map_append, runMoves_append ranFront, List.map_append, List.map_singleton,
    runMoves_append (runMoves_single taken), List.map_append, runMoves_append ranData]
  exact runMoves_single ended

/-- A wait for more bytes than are ever counted ends in a failure. -/
theorem txAndRsCmd_fails {scnt rcnt delay : Nat} (many : 200 < rcnt) (polls : Polls) :
    (finger.txAndRsCmd usart scnt rcnt delay polls).acked.result =
      (await usart rcnt (delay * 120000) polls (finger.cleared usart)).map (ackFail, ·) := by
  rw [Exchange.acked, txAndRsCmd]
  dsimp only
  cases waited : await usart rcnt (delay * 120000) polls (finger.cleared usart) with
  | none => rfl
  | some left =>
    have zero : (finger.cleared usart).receiveLen usart ≤ 200 := by
      rw [receiveLen, cleared, port_setPort]
      decide
    have short : left.receiveLen usart ≠ rcnt := by
      have counted := await_counter zero waited
      omega
    simp [status, short, ackTimeout, ackSuccess]

/-- What the driver does with the whole answer. -/
theorem eigenReply_fails (mode : finger.receiveMode = false) {cmd : Byte}
    (command : cmd = cmdGetEigen ∨ cmd = cmdUpEigen) (q1 : Byte) {data : List Byte}
    (size : data.length = 196) {scnt delay : Nat} {polls : Polls}
    (inTime : polls.length ≤ delay * 120000 + 1)
    (reply : polls.flatten = (eigenReply cmd q1 data).map (usart, ·)) :
    ∃ left, (finger.txAndRsCmd usart scnt 207 delay polls).acked.result = some (ackFail, left) ∧
      left.receiveMore.field 1 196 = data := by
  obtain ⟨left, ran, content⟩ := @eigenReply_received _ usart mode _ command q1 _ size
  have zero : (finger.cleared usart).receiveLen usart ≤ 200 := by
    rw [receiveLen, cleared, port_setPort]
    decide
  rw [← reply] at ran
  refine ⟨left, ?_, content⟩
  rw [txAndRsCmd_fails (by decide), await_all (by decide) zero inTime ran]
  rfl

/-- A template that the module sends never counts as received: the counter starts anew
behind the first frame and ends at 199, and the driver waits for 207. Whatever bytes come,
no status but a failure is returned. An answer that comes in time is all taken. -/
theorem upload_fails (finger : Finger) (userNum : BitVec 16) (polls : Polls) :
    (∀ usart status left, (finger.getEigen usart polls).result = some (status, left) →
      status = ackFail) ∧
    (∀ usart status left, (finger.uploadEigen usart userNum polls).result = some (status, left) →
      status = ackFail) ∧
    ∀ (q1 : Byte) (data : List Byte), finger.receiveMode = false → data.length = 196 →
      polls.length ≤ 100 * 120000 + 1 →
      (polls.flatten = (eigenReply cmdGetEigen q1 data).map (Usart.usart2, ·) →
        ∃ left, (finger.getEigen .usart2 polls).result = some (ackFail, left) ∧
          left.receiveMore.field 1 196 = data) ∧
      (polls.flatten = (eigenReply cmdUpEigen q1 data).map (Usart.usart2, ·) →
        ∃ left, (finger.uploadEigen .usart2 userNum polls).result = some (ackFail, left) ∧
          left.receiveMore.field 1 196 = data) := by
  refine ⟨fun usart status left result => ?_, fun usart status left result => ?_,
    fun q1 data mode size inTime => ⟨fun reply => ?_, fun reply => ?_⟩⟩
  · rw [getEigen, txAndRsCmd_fails (by decide)] at result
    obtain ⟨waited, -, same⟩ := Option.map_eq_some_iff.mp result
    exact (Prod.mk.inj same).1.symm
  · rw [uploadEigen, txAndRsCmd_fails (by decide)] at result
    obtain ⟨waited, -, same⟩ := Option.map_eq_some_iff.mp result
    exact (Prod.mk.inj same).1.symm
  · exact @eigenReply_fails (finger.fill 0 _) .usart2 mode _ (.inl rfl) q1 data size 5 100
      polls inTime reply
  · exact @eigenReply_fails (finger.fill 0 _) .usart2 mode _ (.inr rfl) q1 data size 5 100
      polls inTime reply

/-- The module sends its head before the first look at the counter, and the template behind it. -/
theorem upload_fails_template : ∃ left,
    let data := (List.range 196).map (BitVec.ofNat 8)
    let reply := (eigenReply cmdGetEigen 0#8 data).map (Usart.usart2, ·)
    (initial.getEigen .usart2 [reply.take 8, [], reply.drop 8]).result = some (ackFail, left) ∧
      left.receiveMore.field 1 196 = data :=
  ((upload_fails initial 1#16 _).2.2 0#8 ((List.range 196).map (BitVec.ofNat 8)) rfl (by simp)
    (by decide)).1
    (by simp only [List.flatten_cons, List.flatten_nil, List.nil_append, List.append_nil,
      List.take_append_drop])

/-- No answer with a template is a success. -/
theorem getEigen_no_success : ¬ ∀ (finger : Finger) (q1 : Byte) (data : List Byte) (polls : Polls),
    finger.receiveMode = false → data.length = 196 → polls.length ≤ 100 * 120000 + 1 →
    polls.flatten = (eigenReply cmdGetEigen q1 data).map (Usart.usart2, ·) →
    ∃ left, (finger.getEigen .usart2 polls).result = some (ackSuccess, left) ∧
      left.receiveMore.field 1 196 = data := by
  intro succeeds
  have reply : [(eigenReply cmdGetEigen 0#8 (List.replicate 196 0#8)).map
      (Usart.usart2, ·)].flatten = _ :=
    List.flatten_singleton
  have inTime : [(eigenReply cmdGetEigen 0#8 (List.replicate 196 0#8)).map
      (Usart.usart2, ·)].length ≤ 100 * 120000 + 1 := by
    simp
  obtain ⟨left, result, -⟩ :=
    succeeds initial 0#8 (List.replicate 196 0#8) _ rfl List.length_replicate inTime reply
  rw [getEigen, txAndRsCmd_fails (by decide)] at result
  obtain ⟨waited, -, same⟩ := Option.map_eq_some_iff.mp result
  exact absurd (Prod.mk.inj same).1 (by decide)

end Finger

end WifiAccess

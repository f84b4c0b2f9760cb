import WifiAccess.Link.Reply
import WifiAccess.Server.Answers
import WifiAccess.User.Listing

/-! The dispatch of an accepted packet to `data_process`, and what it reads of the
receive buffer: the packet, or what was left behind it. -/

namespace WifiAccess

open ServerProg

def cmdSendDataToMcu : Byte := 254#8

/-- `header->oe`: the mesh header carries options. -/
def optionExists (first : Byte) : Bool := first &&& 4#8 ≠ 0#8

/-- The user data in the receive buffer, behind the packet header and the mesh header. -/
def userData (recvPack : Image 5120) : ServerData := .stored 5097 recvPack.bytes 23

/-- The switch of `wifi_thread_entry` on the command of the packet. Before the first
packet the data pointer is null. -/
def Wifi.dispatch (wifi : Wifi) (lib : CardSearch) (stationAddr : Image 6) (server : Server) :
    ServerProg (Option Server) :=
  if wifi.cmd = cmdSendDataToMcu then
    match wifi.data with
    | none => return none
    | some off =>
      if optionExists (wifi.rx.recvPack.byte off) then return some server
      else dataProcess lib stationAddr (.stored 5097 wifi.rx.recvPack.bytes (off + 16)) server
  else return some server

/-- What a command may change, and the replies. -/
structure CommandEffect where
  member : Option (List Byte)
  attendance : Option (List Byte)
  list : List CardLink
  time : TimeValue
  replies : List (List Byte)

def effect (ran : Option Server × ServerIo) : Option CommandEffect :=
  ran.1.map fun server => ⟨ran.2.member.content, ran.2.attendance.content, server.list, server.time,
    ran.2.replies⟩

/-- Nothing is added, deleted, reloaded or set. -/
def CommandEffect.Idle (effect : CommandEffect) (server : Server) (io : ServerIo) : Prop :=
  effect.member = io.member.content ∧ effect.attendance = io.attendance.content ∧
    effect.list = server.list ∧
    effect.time = server.time

/-- A packet for the server that ends before the parameters and the CRC of its command. -/
def TooShort (pack : List Byte) : Prop :=
  pack.getD 4 0#8 = cmdSendDataToMcu ∧
    (pack.length < 24 ∨ ∃ cmd, ServerCmd.ofByte (pack.getD 23 0#8) = some cmd ∧
      pack.length < 23 + cmd.crcLenth + 4)

/-- The effect of a packet is that of the packet alone, and none when it is too short. -/
def ActsAlone (pack : List Byte) : Prop :=
  ∀ first second, Received pack first → Received pack second → ∀ lib stationAddr server io,
    effect ((first.dispatch lib stationAddr server).run io) =
      effect ((second.dispatch lib stationAddr server).run io) ∧
      (TooShort pack → ∃ done, effect ((first.dispatch lib stationAddr server).run io) = some done ∧
        done.Idle server io)

/-- The command with its CRC lies in the packet, or the bytes of the CRC that do are
already wrong. -/
def ServerCmd.Decided (cmd : ServerCmd) (pack : List Byte) : Prop :=
  23 + cmd.crcLenth + 4 ≤ pack.length ∨
    ∃ i < 4, 23 + cmd.crcLenth + i < pack.length ∧
      pack.getD (23 + cmd.crcLenth + i) 0#8 ≠
        (leBytes 4 (blockCrcCalc (window pack 23 cmd.crcLenth))).getD i 0#8

/-- The packet says itself what is to be done: it is not for the server, or has options,
or no known command, or one that is decided. -/
def SelfContained (pack : List Byte) : Prop :=
  pack.getD 4 0#8 ≠ cmdSendDataToMcu ∨
    (8 ≤ pack.length ∧ optionExists (pack.getD 7 0#8)) ∨
      (24 ≤ pack.length ∧ ∀ cmd, ServerCmd.ofByte (pack.getD 23 0#8) = some cmd → cmd.Decided pack)

/-! ## What is read of the data -/

theorem field_alike {n len off part : Nat} {first second : Image n}
    (same : first.field 0 len = second.field 0 len) (inside : off + part ≤ len) :
    first.field off part = second.field off part := by
  have sub (image : Image n) : image.field off part = window (image.field 0 len) off part := by
    rw [Image.field, Image.field, window_window _ inside, Nat.zero_add]
  rw [sub, sub, same]

theorem byte_alike {n len i : Nat} {first second : Image n}
    (same : first.field 0 len = second.field 0 len) (inside : i < len) :
    first.byte i = second.byte i := by
  have read (image : Image n) : image.byte i = (image.field 0 len).getD i 0#8 := by
    rw [Image.byte_field inside, Nat.zero_add]
  rw [read, read, same]

theorem execute_alike {cmd : ServerCmd} {first second : ServerData} (lib : CardSearch)
    (server : Server) (same : first.field 0 cmd.crcLenth = second.field 0 cmd.crcLenth) :
    cmd.execute lib first server = cmd.execute lib second server := by
  have num {off len : Nat} (inside : off + len ≤ cmd.crcLenth) : first.num off len =
      second.num off len :=
    congrArg leValue (field_alike same inside)
  have byte {i : Nat} (inside : i < cmd.crcLenth) : first.byte i = second.byte i :=
    byte_alike same inside
  cases cmd with
  | userAdd =>
    have record : Image.stored 1058 first.bytes 1 = Image.stored 1058 second.bytes 1 :=
      Image.ext (field_alike same (Nat.le_refl (1 + 1058)))
    show serverUserAdd first server = serverUserAdd second server
    rw [serverUserAdd, serverUserAdd, record]
  | userDel =>
    show serverUserDel first server = serverUserDel second server
    rw [serverUserDel, serverUserDel, num (by decide)]
  | connect | listReload => rfl
  | timesync =>
    show serverTimesync first server = serverTimesync second server
    have year : first.num 1 2 = second.num 1 2 := num (by decide)
    have others : ∀ i, i < 9 → first.byte i = second.byte i := fun i inside => byte inside
    simp only [serverTimesync, year, others, Nat.reduceLT]
  | attGet =>
    show serverAttGet first server = serverAttGet second server
    rw [serverAttGet, serverAttGet, num (by decide)]
  | attDel =>
    show serverAttDel first server = serverAttDel second server
    rw [serverAttDel, serverAttDel, num (by decide)]
  | userCrcGet =>
    show serverUserCrcGet first server = serverUserCrcGet second server
    have start : first.num 1 2 = second.num 1 2 := num (by decide)
    have count : first.num 3 2 = second.num 3 2 := num (by decide)
    simp only [serverUserCrcGet, start, count]

theorem crcLenth_pos (cmd : ServerCmd) : 0 < cmd.crcLenth := by cases cmd <;> decide

/-- A command reads no further than its CRC. -/
theorem dataProcess_alike {cmd : ServerCmd} {first second : ServerData} (lib : CardSearch)
    (stationAddr : Image 6) (server : Server) (asked : ServerCmd.ofByte (first.byte 0) = some cmd)
    (same : first.field 0 (cmd.crcLenth + 4) = second.field 0 (cmd.crcLenth + 4)) :
    dataProcess lib stationAddr first server = dataProcess lib stationAddr second server := by
  have front : first.field 0 cmd.crcLenth = second.field 0 cmd.crcLenth :=
    field_alike same (by omega)
  have command : first.byte 0 = second.byte 0 := byte_alike front (crcLenth_pos cmd)
  have intact : first.IntactAt cmd.crcLenth ↔ second.IntactAt cmd.crcLenth := by
    have crc : first.field cmd.crcLenth 4 = second.field cmd.crcLenth 4 :=
      field_alike same (Nat.le_refl _)
    rw [Image.IntactAt, Image.IntactAt, Image.prefixCrc, Image.prefixCrc, Image.num,
      Image.num, front, crc]
  unfold dataProcess
  rw [← command, asked]
  simp only [intact, execute_alike lib _ front]

/-! ## The bytes of a received packet -/

theorem field_userData (recvPack : Image 5120) {off len : Nat} (inside : off + len ≤ 5097) :
    (userData recvPack).field off len = recvPack.field (23 + off) len :=
  window_window recvPack.bytes inside

theorem byte_userData (recvPack : Image 5120) {i : Nat} (inside : i < 5097) :
    (userData recvPack).byte i = recvPack.byte (23 + i) := by
  rw [userData, Image.byte_stored, if_pos inside]
  rfl

section Bytes

variable {pack : List Byte} {wifi : Wifi}

theorem Received.dispatch (received : Received pack wifi) (lib : CardSearch) (stationAddr : Image 6)
    (server : Server) :
    wifi.dispatch lib stationAddr server =
      if pack.getD 4 0#8 = cmdSendDataToMcu then
        if optionExists (wifi.rx.recvPack.byte 7) then return some server
        else dataProcess lib stationAddr (userData wifi.rx.recvPack) server
      else return some server := by
  unfold Wifi.dispatch
  rw [received.cmd, received.data]
  rfl

end Bytes

/-! ## Packets that say what is to be done -/

theorem effect_none (server : Server) (io : ServerIo) :
    effect ((pure (some server) : ServerProg (Option Server)).run io) =
      some ⟨io.member.content, io.attendance.content, server.list, server.time, io.replies⟩ := rfl

theorem effect_reply (server : Server) (status result : Byte) (io : ServerIo) : ∃ replies,
    effect ((server.reply status result).run io) =
      some ⟨io.member.content, io.attendance.content, server.list, server.time, replies⟩ := ⟨_, rfl⟩

theorem effect_refuse (server : Server) (io : ServerIo) : ∃ replies,
    effect (server.refuse.run io) =
      some ⟨io.member.content, io.attendance.content, server.list, server.time, replies⟩ := ⟨_, rfl⟩

/-- A refused command has no effect but its reply. -/
theorem effect_crcFailed (cmd : ServerCmd) (server : Server) (io : ServerIo) : ∃ replies,
    effect ((cmd.crcFailed server).run io) =
      some ⟨io.member.content, io.attendance.content, server.list, server.time, replies⟩ := by
  cases cmd with
  | attGet | userCrcGet => exact effect_refuse server io
  | userAdd | userDel | connect | timesync | listReload | attDel =>
    exact effect_reply server 0#8 serverNack io

/-- With a byte of the CRC wrong in the packet, the command is refused. -/
theorem not_intact_of_wrong {pack : List Byte} {wifi : Wifi} (received : Received pack wifi)
    {k i : Nat} (below : i < 4) (covered : 23 + k + 4 ≤ 5120) (inside : 23 + k + i < pack.length)
    (wrong : pack.getD (23 + k + i) 0#8 ≠
      (leBytes 4 (blockCrcCalc (window pack 23 k))).getD i 0#8) :
    ¬ (userData wifi.rx.recvPack).IntactAt k := by
  intro intact
  apply wrong
  have front : (userData wifi.rx.recvPack).field 0 k = window pack 23 k := by
    rw [field_userData _ (by omega), received.field (by omega), Nat.add_zero]
  have crc : leBytes 4 (blockCrcCalc (window pack 23 k)) =
      (userData wifi.rx.recvPack).field k 4 := by
    have back := leBytes_leValue ((userData wifi.rx.recvPack).field k 4)
    rw [Image.length_field] at back
    rw [← back, ← front]
    exact congrArg (leBytes 4) intact
  rw [crc, Image.byte_field below, byte_userData _ (by omega), ← Nat.add_assoc,
    received.byte inside]

theorem dataProcess_refused {cmd : ServerCmd} {pData : ServerData} (lib : CardSearch)
    (stationAddr : Image 6) (server : Server) (asked : ServerCmd.ofByte (pData.byte 0) = some cmd)
    (broken : ¬ pData.IntactAt cmd.crcLenth) :
    dataProcess lib stationAddr pData server = cmd.crcFailed
      (server.withHead stationAddr (pData.byte 0)) := by
  unfold dataProcess
  rw [asked]
  exact if_neg broken

theorem crcLenth_le (cmd : ServerCmd) : cmd.crcLenth ≤ 1059 := by cases cmd <;> decide

theorem actsAlone_of_selfContained {pack : List Byte} (contained : SelfContained pack) :
    ActsAlone pack := by
  intro first second one two lib stationAddr server io
  rw [one.dispatch, two.dispatch]
  rcases contained with other | ⟨header, options⟩ | ⟨data, decided⟩
  · rw [if_neg other, if_neg other]
    exact ⟨rfl, fun short => absurd short.1 other⟩
  · rw [one.byte (by omega), two.byte (by omega), if_pos options, if_pos options]
    refine ⟨rfl, fun short => ?_⟩
    rw [if_pos short.1]
    exact ⟨_, effect_none server io, rfl, rfl, rfl, rfl⟩
  · by_cases toServer : pack.getD 4 0#8 = cmdSendDataToMcu
    · rw [if_pos toServer, if_pos toServer, one.byte (by omega), two.byte (by omega)]
      by_cases options : optionExists (pack.getD 7 0#8)
      · rw [if_pos options, if_pos options]
        exact ⟨rfl, fun _ => ⟨_, effect_none server io, rfl, rfl, rfl, rfl⟩⟩
      · rw [if_neg options, if_neg options]
        have commandOne : (userData first.rx.recvPack).byte 0 = pack.getD 23 0#8 := by
          rw [byte_userData _ (by decide), one.byte (by omega)]
        have commandTwo : (userData second.rx.recvPack).byte 0 = pack.getD 23 0#8 := by
          rw [byte_userData _ (by decide), two.byte (by omega)]
        cases asked : ServerCmd.ofByte (pack.getD 23 0#8) with
        | none =>
          unfold dataProcess
          rw [commandOne, commandTwo, asked]
          exact ⟨rfl, fun _ => ⟨_, effect_none server io, rfl, rfl, rfl, rfl⟩⟩
        | some cmd =>
          have askedOne := (congrArg ServerCmd.ofByte commandOne).trans asked
          have askedTwo := (congrArg ServerCmd.ofByte commandTwo).trans asked
          have small := crcLenth_le cmd
          rcases decided cmd asked with inside | ⟨i, below, present, wrong⟩
          · have same : (userData first.rx.recvPack).field 0 (cmd.crcLenth + 4) =
                (userData second.rx.recvPack).field 0 (cmd.crcLenth + 4) := by
              rw [field_userData _ (by omega), field_userData _ (by omega), one.field (by omega),
                two.field (by omega)]
            rw [dataProcess_alike lib stationAddr server askedOne same]
            refine ⟨rfl, fun short => ?_⟩
            rcases short.2 with few | ⟨other, same, few⟩
            · omega
            · rw [asked] at same
              cases same
              omega
          · rw [dataProcess_refused lib stationAddr server askedOne
                (not_intact_of_wrong one below (by omega) present wrong),
              dataProcess_refused lib stationAddr server askedTwo
                (not_intact_of_wrong two below (by omega) present wrong), commandOne, commandTwo]
            obtain ⟨replies, refused⟩ :=
              effect_crcFailed cmd (server.withHead stationAddr (pack.getD 23 0#8)) io
            exact ⟨rfl, fun _ => ⟨_, refused, rfl, rfl, rfl, rfl⟩⟩
    · rw [if_neg toServer, if_neg toServer]
      exact ⟨rfl, fun short => absurd short.1 toServer⟩

/-! ## A command carried out or refused makes a difference -/

/-- Two runs with the same effect have sent the same replies. -/
theorem replies_of_effect {first second : Option Server × ServerIo} (served : first.1.isSome)
    (same : effect first = effect second) : first.2.replies = second.2.replies ∧
      first.2.member.content = second.2.member.content ∧
        first.2.attendance.content = second.2.attendance.content := by
  obtain ⟨_ | one, io⟩ := first
  · cases served
  · obtain ⟨_ | two, io'⟩ := second
    · cases same
    · obtain ⟨member, attendance, -, -, replies⟩ := CommandEffect.mk.inj (Option.some.inj same)
      exact ⟨replies, member, attendance⟩

theorem answered_of_effect {first second : Option Server × ServerIo} {before : List (List Byte)}
    {status status' result result' : Byte} (one : Answered before first.2.replies status result)
    (two : Answered before second.2.replies status' result') (served : first.1.isSome)
    (same : effect first = effect second) : status = status' ∧ result = result' := by
  rw [← (replies_of_effect served same).1] at two
  exact one.unique two

/-- An answer other than that to a wrong CRC. -/
theorem differs_of_answered {cmd : ServerCmd} (server : Server) {io : ServerIo}
    {ran : Option Server × ServerIo} {status result : Byte}
    (short : cmd.crcFailed server = server.reply 0#8 serverNack) (served : ran.1.isSome)
    (answered : Answered io.replies ran.2.replies status result)
    (other : ¬ (status = 0#8 ∧ result = serverNack)) :
    effect ran ≠ effect ((cmd.crcFailed server).run io) := by
  intro same
  obtain ⟨next, replies, refused, denied⟩ := server.reply_run 0#8 serverNack io
  rw [short, refused] at same
  exact other (answered_of_effect answered denied served same)

theorem differs_of_outcome {cmd : ServerCmd} {pData : ServerData} (server : Server) {io : ServerIo}
    {ran : Option Server × ServerIo} (short : cmd.crcFailed server = server.reply 0#8 serverNack)
    (outcome : cmd.Outcome pData 1#8 io ran) : effect ran ≠
      effect ((cmd.crcFailed server).run io) := by
  obtain ⟨served, status, result, answered, carried⟩ := outcome
  refine differs_of_answered server short served answered ?_
  rintro ⟨rfl, rfl⟩
  rcases carried with ⟨ack, -⟩ | ⟨-, failed, -⟩
  · cases ack
  · cases failed

theorem Server.reply_answers (server : Server) (status result : Byte) (io : ServerIo) :
    ((server.reply status result).run io).1.isSome ∧
      Answered io.replies ((server.reply status result).run io).2.replies status result := by
  obtain ⟨next, replies, ran, answered⟩ := server.reply_run status result io
  rw [ran]
  exact ⟨rfl, answered⟩

theorem serverListReload_missing (lib : CardSearch) (server : Server) :
    (serverListReload lib server).run (.fresh none none []) =
      (server.reply 1#8 serverNack).run
        { ServerIo.fresh none none [] with member := ⟨none, 0, false⟩ } := by
  have missing : (cardArrayInit lib server.list).run (.fresh none) =
      (some (-1, server.list), ⟨none, 0, false⟩) := by
    have counted : userNumGet.run (.fresh none) = (none, ⟨none, 0, false⟩) :=
      userNumGet_missing 0 true
    simp only [cardArrayInit, FileProg.run_bind, counted, FileProg.run_pure]
  have attempted : (cardArrayInit lib server.list).attempt (.fresh none) [] =
      (some (-1, server.list), ⟨none, 0, false⟩, []) := by
    rw [FileProg.attempt_ok, missing]
  simp only [serverListReload, run_bind, run_onMember, ServerIo.fresh, attempted, ↓reduceIte]

theorem serverTimesync_run (pData : ServerData) (server : Server) (io : ServerIo) : ∃ next clock,
    (serverTimesync pData server).run io = (Server.reply next 0#8 serverAck).run
      { io with clock := clock } :=
  ⟨_, _, rfl⟩

/-- Asking a log that is not there creates it. -/
theorem serverAttGet_missing (pData : ServerData) (server : Server) : ∃ next,
    (serverAttGet pData server).run (.fresh none none []) =
      (Server.refuse next).run { ServerIo.fresh none none []
        with attendance := ⟨some [], 0, false⟩ } := by
  have opened : (recordHeaderGetSet server.attHeader getRecord).run (.fresh none) =
      ((-1, server.attHeader.load []), ⟨some [], 0, false⟩) := by
    simp [recordHeaderGetSet, fdRecordHeaderGetSet, FileProg.run_lseek, FileProg.run_read,
      FileState.bytes, FileState.fresh,
      getRecord]
  have attempted : (recordHeaderGetSet server.attHeader getRecord).attempt (.fresh none) [] =
      ((-1, server.attHeader.load []), ⟨some [], 0, false⟩, []) := by
    rw [FileProg.attempt_ok, opened]
  refine ⟨{ server with attHeader := server.attHeader.load [] }, ?_⟩
  simp only [serverAttGet, run_bind, run_onAttendance, ServerIo.fresh, attempted]
  rfl

/-- Asking an empty file for CRCs extends it. -/
theorem serverUserCrcGet_empty (pData : ServerData) (server : Server) :
    (serverUserCrcGet pData server).run (.fresh (some []) none []) =
      server.refuse.run { ServerIo.fresh (some []) none [] with member :=
        ⟨some (List.replicate 8 0#8), 8, false⟩ } := by
  have attempted : userNumGet.attempt (.fresh (some [])) [] =
      (none, ⟨some (List.replicate 8 0#8), 8, false⟩, []) := by
    have counted : userNumGet.run (.fresh (some [])) =
        (none, ⟨some (List.replicate 8 0#8), 8, false⟩) := userNumGet_empty 0 true
    rw [FileProg.attempt_ok, counted]
  simp only [serverUserCrcGet, run_bind, run_onMember, ServerIo.fresh, attempted]

/-- Carried out or refused: on some files every command makes a difference. -/
theorem execute_differs (cmd : ServerCmd) (lib : CardSearch) (pData : ServerData)
    (server : Server) :
    ∃ io, effect ((cmd.execute lib pData server).run io) ≠
      effect ((cmd.crcFailed server).run io) := by
  cases cmd with
  | userAdd => exact ⟨.fresh none none [], differs_of_outcome server rfl
    (serverUserAdd_outcome pData server _)⟩
  | userDel => exact ⟨.fresh none none [], differs_of_outcome server rfl
    (serverUserDel_outcome pData server _)⟩
  | attDel => exact ⟨.fresh none none [], differs_of_outcome server rfl
    (serverAttDel_outcome pData server _)⟩
  | connect =>
    obtain ⟨served, answered⟩ := server.reply_answers 0#8 serverAck (.fresh none none [])
    exact ⟨.fresh none none [], differs_of_answered server rfl served answered (by decide)⟩
  | timesync =>
    obtain ⟨next, clock, ran⟩ := serverTimesync_run pData server (.fresh none none [])
    obtain ⟨served, answered⟩ :=
      next.reply_answers 0#8 serverAck { ServerIo.fresh none none [] with clock := clock }
    rw [← ran] at served answered
    exact ⟨.fresh none none [], differs_of_answered server rfl served answered (by decide)⟩
  | listReload =>
    obtain ⟨served, answered⟩ := server.reply_answers 1#8 serverNack
      { ServerIo.fresh none none [] with member := ⟨none, 0, false⟩ }
    rw [← serverListReload_missing lib server] at served answered
    exact ⟨.fresh none none [], differs_of_answered server rfl served answered (by decide)⟩
  | attGet =>
    obtain ⟨next, ran⟩ := serverAttGet_missing pData server
    refine ⟨.fresh none none [], fun same => ?_⟩
    have created := (replies_of_effect (by rw [ServerCmd.execute, ran]; rfl) same).2.2
    rw [ServerCmd.execute, ran] at created
    cases created
  | userCrcGet =>
    have ran := serverUserCrcGet_empty pData server
    refine ⟨.fresh (some []) none [], fun same => ?_⟩
    have extended := (replies_of_effect (by rw [ServerCmd.execute, ran]; rfl) same).2.1
    rw [ServerCmd.execute, ran] at extended
    cases extended

/-! ## Packets that leave it to the bytes behind them -/

/-- A received packet with some data from the user data on. -/
def wifiHolding (pack : List Byte) (pData : ServerData) : Wifi :=
  ⟨⟨false, 0, pack.length, false, Image.put (.ofBytes 5120 pack) 23 pData.bytes⟩, .ofBytes 7 pack,
    some 7, true⟩

/-- The bytes of the packet that are user data are those of `pData`. -/
def Agrees (pack : List Byte) (pData : ServerData) : Prop :=
  ∀ i, 23 + i < pack.length → pData.byte i = pack.getD (23 + i) 0#8

section Holding

variable {pack : List Byte} {pData : ServerData}

theorem byte_wifiHolding (pack : List Byte) (pData : ServerData) (i : Nat) :
    (wifiHolding pack pData).rx.recvPack.byte i =
    if 23 ≤ i ∧ i < 5120 then pData.byte (i - 23) else if i < 5120 then pack.getD i 0#8
      else 0#8 := by
  rw [wifiHolding, Image.byte_put (by rw [pData.size]), pData.size, Image.ofBytes,
    Image.byte_stored, Nat.zero_add]
  rfl

theorem received_wifiHolding (bound : pack.length ≤ 5120) (agrees : Agrees pack pData) :
    Received pack (wifiHolding pack pData) := by
  refine ⟨?_, rfl, rfl⟩
  apply ext_getD (Image.length_field ..)
  intro i
  rcases Nat.lt_or_ge i pack.length with inside | past
  · rw [Image.byte_field inside, Nat.zero_add, byte_wifiHolding]
    by_cases data : 23 ≤ i
    · have place : 23 + (i - 23) = i := by omega
      have same := agrees (i - 23) (by omega)
      rw [place] at same
      rw [if_pos ⟨data, by omega⟩, same]
    · rw [if_neg (fun both => data both.1), if_pos (by omega)]
  · rw [getD_past past, getD_past (by rwa [Image.length_field])]

theorem userData_wifiHolding (pack : List Byte) (pData : ServerData) :
    userData (wifiHolding pack pData).rx.recvPack = pData := by
  apply Image.ext_within
  intro i inside
  have place : 23 + i - 23 = i := by omega
  rw [byte_userData _ inside, byte_wifiHolding, if_pos ⟨by omega, by omega⟩, place]

/-- What a packet that acts alone cannot depend on. -/
theorem ActsAlone.dataProcess (alone : ActsAlone pack) (bound : pack.length ≤ 5120)
    (toServer : pack.getD 4 0#8 = cmdSendDataToMcu) (plain : ¬ optionExists (pack.getD 7 0#8))
    {first second : ServerData} (one : Agrees pack first) (two : Agrees pack second)
    (lib : CardSearch) (stationAddr : Image 6) (server : Server) (io : ServerIo) :
    effect ((dataProcess lib stationAddr first server).run io) =
      effect ((dataProcess lib stationAddr second server).run io) := by
  have oe (pData : ServerData) : (wifiHolding pack pData).rx.recvPack.byte 7 = pack.getD 7 0#8 := by
    rw [byte_wifiHolding, if_neg (by omega), if_pos (by decide)]
  have same :=
    (alone _ _ (received_wifiHolding bound one) (received_wifiHolding bound two) lib
      stationAddr server io).1
  rwa [(received_wifiHolding bound one).dispatch, (received_wifiHolding bound two).dispatch,
    if_pos toServer, if_pos toServer,
    oe, oe, if_neg plain, if_neg plain, userData_wifiHolding, userData_wifiHolding] at same

end Holding

/-- The last byte of the CRC turned around. -/
def spoiled (pData : ServerData) (k : Nat) : ServerData :=
  pData.put (k + 3) [~~~ pData.byte (k + 3)]

theorem byte_spoiled (pData : ServerData) {k : Nat} (small : k + 4 ≤ 5097) (i : Nat) :
    (spoiled pData k).byte i = if i = k + 3 then ~~~ pData.byte (k + 3) else pData.byte i := by
  rw [spoiled, Image.byte_put (show k + 3 + [~~~ pData.byte (k + 3)].length ≤ 5097 by
    rw [List.length_singleton]; omega),
    List.length_singleton]
  by_cases here : i = k + 3
  · rw [if_pos (by omega), if_pos here, here, Nat.sub_self]
    rfl
  · rw [if_neg (by omega), if_neg here]

theorem not_intact_spoiled {pData : ServerData} {k : Nat} (small : k + 4 ≤ 5097)
    (intact : pData.IntactAt k) :
    ¬ (spoiled pData k).IntactAt k := by
  intro again
  have front : (spoiled pData k).field 0 k = pData.field 0 k :=
    Image.field_put_apart (by rw [List.length_singleton]; omega) (.inl (by omega))
  have crc : (spoiled pData k).num k 4 = pData.num k 4 := by
    rw [← again, ← intact, Image.prefixCrc, Image.prefixCrc, front]
  have bytes := leValue_inj (by rw [Image.length_field, Image.length_field]) crc
  have last : (spoiled pData k).byte (k + 3) = pData.byte (k + 3) := by
    rw [← Image.byte_field (show 3 < 4 by decide), ← Image.byte_field (show 3 < 4 by decide), bytes]
  rw [byte_spoiled _ small, if_pos rfl] at last
  have bit := congrArg (fun byte => byte.getLsbD 0) last
  simp at bit

section Stale

variable {pack : List Byte} {cmd : ServerCmd}

/-- The packet completed with zeros and the right CRC. -/
def completed (pack : List Byte) (k : Nat) : ServerData :=
  Image.sealAt (.ofBytes 5097 (pack.drop 23)) k

theorem byte_completed (pack : List Byte) {k : Nat} (small : k + 4 ≤ 5097) {i : Nat}
    (inside : i < k + 4) :
    (completed pack k).byte i =
      if k ≤ i then
        (leBytes 4 (blockCrcCalc (window pack 23 k))).getD (i - k) 0#8
      else pack.getD (23 + i) 0#8 := by
  have front : Image.prefixCrc (.ofBytes 5097 (pack.drop 23)) k =
      blockCrcCalc (window pack 23 k) := by
    apply congrArg blockCrcCalc
    apply ext_getD (by rw [Image.length_field, length_window])
    intro j
    rw [Image.field, Image.bytes_ofBytes, window_window _ (by omega), getD_window, getD_window,
      getD_drop, Nat.zero_add]
  rw [completed, Image.sealAt, front, Image.byte_put (by rw [length_leBytes]; exact small),
    length_leBytes]
  by_cases crc : k ≤ i
  · rw [if_pos ⟨crc, inside⟩, if_pos crc]
  · rw [if_neg (fun both => crc both.1), if_neg crc, Image.ofBytes, Image.byte_stored,
      if_pos (by omega), getD_drop, Nat.zero_add]

theorem agrees_completed (undecided : ¬ cmd.Decided pack) :
    Agrees pack (completed pack cmd.crcLenth) := by
  intro i inside
  have small := crcLenth_le cmd
  have short : pack.length < 23 + cmd.crcLenth + 4 := by
    by_contra whole
    exact undecided (.inl (by omega))
  rw [byte_completed pack (by omega) (by omega)]
  by_cases crc : cmd.crcLenth ≤ i
  · have place : 23 + cmd.crcLenth + (i - cmd.crcLenth) = 23 + i := by omega
    rw [if_pos crc]
    by_contra wrong
    refine undecided (.inr ⟨i - cmd.crcLenth, by omega, by omega, ?_⟩)
    rw [place]
    exact Ne.symm wrong
  · rw [if_neg crc]

theorem agrees_spoiled (undecided : ¬ cmd.Decided pack) :
    Agrees pack (spoiled (completed pack cmd.crcLenth) cmd.crcLenth) := by
  intro i inside
  have small := crcLenth_le cmd
  have short : pack.length < 23 + cmd.crcLenth + 4 := by
    by_contra whole
    exact undecided (.inl (by omega))
  rw [byte_spoiled _ (by omega), if_neg (by omega)]
  exact agrees_completed undecided i inside

end Stale

/-- A frame that is always answered. -/
theorem connect_answered (lib : CardSearch) (stationAddr : Image 6) (server : Server)
    (io : ServerIo) :
    let ran := (dataProcess lib stationAddr (serverFrame 3#8 []) server).run io
    ran.1.isSome ∧ Answered io.replies ran.2.replies 0#8 serverAck := by
  have fits : ([] : List Byte).length + 5 ≤ 5097 := by decide
  have asked : ServerCmd.ofByte ((serverFrame 3#8 []).byte 0) = some .connect := by
    rw [byte_serverFrame fits]
    rfl
  have intact : (serverFrame 3#8 []).IntactAt ServerCmd.connect.crcLenth := intact_serverFrame fits
  unfold dataProcess
  rw [asked]
  simp only [if_pos intact]
  exact Server.reply_answers _ 0#8 serverAck io

theorem dataProcess_zero (lib : CardSearch) (stationAddr : Image 6) (server : Server) :
    dataProcess lib stationAddr (.zero 5097) server = pure (some server) := by
  unfold dataProcess
  rw [Image.byte_zero]
  rfl

theorem selfContained_of_actsAlone {pack : List Byte} (bound : pack.length ≤ 5120)
    (alone : ActsAlone pack) :
    SelfContained pack := by
  by_contra dependent
  have toServer : pack.getD 4 0#8 = cmdSendDataToMcu := by
    by_contra other
    exact dependent (.inl other)
  have plain : ¬ optionExists (pack.getD 7 0#8) := by
    intro options
    by_cases header : 8 ≤ pack.length
    · exact dependent (.inr (.inl ⟨header, options⟩))
    · rw [getD_past (by omega)] at options
      exact absurd options (by decide)
  let lib : CardSearch := .reference cardCompar_consistent
  by_cases data : 24 ≤ pack.length
  · obtain ⟨cmd, asked, undecided⟩ : ∃ cmd, ServerCmd.ofByte (pack.getD 23 0#8) = some cmd ∧
        ¬ cmd.Decided pack := by
      by_contra decided
      refine dependent (.inr (.inr ⟨data, fun cmd asked => ?_⟩))
      by_contra undecided
      exact decided ⟨cmd, asked, undecided⟩
    have small := crcLenth_le cmd
    have one := agrees_completed undecided
    have two := agrees_spoiled undecided
    have intact : (completed pack cmd.crcLenth).IntactAt cmd.crcLenth :=
      Image.intactAt_sealAt _ (by omega)
    have broken := not_intact_spoiled (by omega) intact
    have askedOne := (congrArg ServerCmd.ofByte (one 0 (by omega))).trans asked
    have askedTwo := (congrArg ServerCmd.ofByte (two 0 (by omega))).trans asked
    obtain ⟨io, differs⟩ := execute_differs cmd lib (completed pack cmd.crcLenth)
      (Server.initial.withHead (.zero 6) ((completed pack cmd.crcLenth).byte 0))
    have same := alone.dataProcess bound toServer plain one two lib (.zero 6) .initial io
    rw [dataProcess_refused lib _ _ askedTwo broken, two 0 (by omega), ← one 0 (by omega)] at same
    apply differs
    rw [← same]
    unfold dataProcess
    rw [askedOne]
    simp only [if_pos intact]
  · -- nothing of the command is in the packet: take none, and one that is answered
    have vacuous (pData : ServerData) : Agrees pack pData :=
      fun i inside => absurd inside (by omega)
    have same :=
      alone.dataProcess bound toServer plain (vacuous (.zero 5097)) (vacuous (serverFrame 3#8 []))
        lib (.zero 6)
      .initial (.fresh none none [])
    obtain ⟨served, reply, sent, -⟩ := connect_answered lib (.zero 6) .initial (.fresh none none [])
    rw [dataProcess_zero] at same
    have replies := (replies_of_effect served same.symm).1
    rw [sent] at replies
    cases replies

/-- The effect of a received packet depends on the packet only, exactly when the packet
itself says what is to be done. -/
theorem dispatch_current_iff (pack : List Byte) (bound : pack.length ≤ 5120) :
    ActsAlone pack ↔ SelfContained pack :=
  ⟨selfContained_of_actsAlone bound, actsAlone_of_selfContained⟩

/-- A packet that holds a whole command. -/
theorem dispatch_current_connect :
    ActsAlone
      (wifiSendPack cmdSendDataToMcu (.replicate 16 0#8 ++ (serverFrame 3#8 []).field 0 5)) := by
  let data : List Byte := .replicate 16 0#8 ++ (serverFrame 3#8 []).field 0 5
  have dataSize : data.length = 21 := by
    rw [List.length_append, List.length_replicate, Image.length_field]
  have size : (wifiSendPack cmdSendDataToMcu data).length = 28 := by
    rw [length_wifiSendPack, dataSize]
  have command : (wifiSendPack cmdSendDataToMcu data).getD 23 0#8 = 3#8 := by
    have at_data := congrArg (·.getD 16 0#8) (wifiSendPack_data cmdSendDataToMcu data)
    rw [getD_window, if_pos (by omega)] at at_data
    rw [show 23 = 7 + 16 from rfl, at_data, getD_append, List.length_replicate, if_neg (by decide),
      Image.byte_field (by decide)]
    exact byte_serverFrame (by decide)
  refine (dispatch_current_iff _ (by rw [size]; decide)).mpr
    (.inr (.inr ⟨by rw [size]; decide, fun cmd asked => .inl ?_⟩))
  rw [command] at asked
  cases asked
  rw [size]
  decide

/-- Deleting user 1 from a file that is not there writes its slot. -/
theorem member_deleted (lib : CardSearch) (stationAddr : Image 6) (server : Server)
    {done : CommandEffect}
    (ran : effect ((dataProcess lib stationAddr (serverFrame 2#8 [1#8, 0#8]) server).run
      (.fresh none none [])) = some done) :
    done.member ≠ none := by
  have fits : [1#8, 0#8].length + 5 ≤ 5097 := by decide
  have asked : ServerCmd.ofByte ((serverFrame 2#8 [1#8, 0#8]).byte 0) = some .userDel := by
    rw [byte_serverFrame fits]
    rfl
  have intact : (serverFrame 2#8 [1#8, 0#8]).IntactAt ServerCmd.userDel.crcLenth :=
    intact_serverFrame fits
  have num : (serverFrame 2#8 [1#8, 0#8]).num 1 2 = 1 :=
    (num_serverFrame fits (by decide)).trans rfl
  unfold dataProcess at ran
  rw [asked] at ran
  simp only [if_pos intact] at ran
  generalize server.withHead stationAddr _ = server at ran
  have userId := server.userInfo.userId_setUserId (show 1 < 2 ^ 16 by decide)
  have deleted :=
    @addDelGetOneUser_del none 0 true (server.userInfo.setUserId 1) (by rw [userId]; decide)
  have attempted : (addDelGetOneUser (server.userInfo.setUserId 1) delOneUser).attempt
      (.fresh none) [] = _ :=
    (FileProg.attempt_ok _ _).trans (congrArg (fun ran => (ran.1, ran.2, [])) deleted)
  simp only [ServerCmd.execute, serverUserDel, num, run_bind, run_onMember, ServerIo.fresh,
    attempted, ne_eq,
    not_true_eq_false, ↓reduceIte] at ran
  obtain ⟨replies, replied⟩ := effect_reply _ 0#8 serverAck _
  rw [replied] at ran
  cases ran
  exact Option.some_ne_none _

/-- A packet with a mesh header and nothing behind it, over the frame of an earlier
command to delete user 1: the user is deleted again. -/
theorem dispatch_stale : ¬ ActsAlone (wifiSendPack cmdSendDataToMcu (.replicate 16 0#8)) := by
  have size : (wifiSendPack cmdSendDataToMcu (.replicate 16 0#8)).length = 23 :=
    length_wifiSendPack ..
  have cmd : (wifiSendPack cmdSendDataToMcu (.replicate 16 0#8)).getD 4 0#8 = cmdSendDataToMcu := by
    have first := congrArg (·.getD 0 0#8) (wifiSendPack_cmd cmdSendDataToMcu (.replicate 16 0#8))
    rwa [getD_window, if_pos (by decide)] at first
  have plain : ¬ optionExists ((wifiSendPack cmdSendDataToMcu (.replicate 16 0#8)).getD 7 0#8) := by
    have first := congrArg (·.getD 0 0#8) (wifiSendPack_data cmdSendDataToMcu (.replicate 16 0#8))
    rw [getD_window, if_pos (by decide), getD_zeros] at first
    rw [show 7 = 7 + 0 from rfl, first]
    decide
  generalize wifiSendPack cmdSendDataToMcu (.replicate 16 0#8) = pack at *
  intro alone
  have received : Received pack (wifiHolding pack (serverFrame 2#8 [1#8, 0#8])) :=
    received_wifiHolding (by omega) fun i inside => absurd inside (by omega)
  obtain ⟨done, ran, idle, -⟩ :=
    (alone _ _ received received (.reference cardCompar_consistent) (.zero 6) .initial
    (.fresh none none [])).2 ⟨cmd, .inl (by omega)⟩
  have oe : (wifiHolding pack (serverFrame 2#8 [1#8, 0#8])).rx.recvPack.byte 7 = pack.getD 7 0#8 :=
    received.byte (by omega)
  rw [received.dispatch, if_pos cmd, oe, if_neg plain, userData_wifiHolding] at ran
  exact member_deleted _ _ _ ran idle

end WifiAccess

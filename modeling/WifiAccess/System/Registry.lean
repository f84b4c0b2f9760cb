import WifiAccess.Base.LastWrite
import WifiAccess.Door.Passback
import WifiAccess.Server.Reload
import WifiAccess.System.Event

/-! The user file is the register of what the server has seen acknowledged: through failing
calls, events and reboots every slot has the record that was last stored in it, up to the
state, and only such a record opens the door. -/

namespace WifiAccess

open ServerProg DoorState

/-! ## Commands that only read the user file -/

section Reads

open FileProg

theorem reads_userNumGetLoop (left i userNum maxUserNum : Nat) :
    (userNumGetLoop left i userNum maxUserNum).Reads := by
  induction left generalizing i userNum maxUserNum with
  | zero => exact .ret _
  | succ left ih =>
    exact .bind (.perform trivial) fun _ => .ite
      (.bind (.perform trivial) fun _ => .ite (.ret _) (.ite (ih ..) (ih ..))) (.ret _)

theorem reads_userNumGet : userNumGet.Reads := by
  refine .bind (.perform trivial) fun found => ?_
  cases found with
  | none => exact .ret _
  | some size =>
    exact .bind (.perform trivial) fun _ => .ite
      (.bind (reads_userNumGetLoop ..) fun _ => .bind (.perform trivial) fun _ => .ret _)
      (.bind (.perform trivial) fun _ => .ret _)

theorem reads_userCrcGetLoop (left i getCount : Nat) (crc : List (Image 4)) :
    (userCrcGetLoop left i getCount crc).Reads := by
  induction left generalizing i getCount crc with
  | zero => exact .ret _
  | succ left ih =>
    refine .bind (.perform trivial) fun _ => .ite (.bind (.perform trivial) fun got => ?_) (.ret _)
    cases storeEntry crc getCount got with
    | none => exact .ret _
    | some stored => exact .ite (.ret _) (ih ..)

theorem reads_userCrcGet (crc : List (Image 4)) (start num : Nat) :
    (userCrcGet crc start num).Reads := by
  refine .bind reads_userNumGet fun counted => ?_
  cases counted with
  | none => exact .ret _
  | some counted =>
    exact .ite (.ret _) (.ite (.ret _) (.bind (.perform trivial) fun _ => .ite
      (.bind (reads_userCrcGetLoop ..) fun _ => .bind (.perform trivial) fun _ => .ret _) (.ret _)))

theorem reads_cardArrayInitLoop (left i effectiveNum : Nat) (cardArray : List CardLink) :
    (cardArrayInitLoop left i effectiveNum cardArray).Reads := by
  induction left generalizing i effectiveNum cardArray with
  | zero => exact .ret _
  | succ left ih =>
    refine .bind (.perform trivial) fun _ => .ite (.bind (.perform trivial) fun got => ?_) (.ret _)
    cases storeEntry cardArray effectiveNum got with
    | none => exact .ret _
    | some stored => exact .ite (.ret _) (.ite (ih ..) (ih ..))

theorem reads_cardArrayInit (lib : CardSearch) (cardArray : List CardLink) :
    (cardArrayInit lib cardArray).Reads := by
  refine .bind reads_userNumGet fun counted => ?_
  cases counted with
  | none => exact .ret _
  | some counted =>
    refine .bind (.perform trivial) fun _ =>
      .ite (.bind (reads_cardArrayInitLoop ..) fun loaded => ?_)
      (.bind (.perform trivial) fun _ => .ret _)
    cases loaded with
    | none => exact .ret _
    | some loaded => exact .bind (.perform trivial) fun _ => .ite (.ret _) (.ret _)

end Reads

/-- Commands that write no byte of the user file. -/
def ServerOp.KeepsMember : ServerOp → Prop
  | member op => op.Reading
  | attendance _ | timeInit _ | wifiSend _ => True

namespace ServerProg

variable {α : Type}

def KeepsMember (prog : ServerProg α) : Prop := Prog.Only ServerOp.KeepsMember prog

theorem keepsMember_onMember {prog : FileProg α} (reads : prog.Reads) :
    (onMember prog).KeepsMember := by
  induction prog with
  | ret value => trivial
  | call op next ih => exact ⟨reads.1, fun result => ih result (reads.2 result)⟩

theorem keepsMember_onAttendance (prog : FileProg α) : (onAttendance prog).KeepsMember := by
  induction prog with
  | ret value => trivial
  | call op next ih => exact ⟨trivial, fun result => ih result⟩

theorem KeepsMember.same {prog : ServerProg α} (keeps : prog.KeepsMember) (io : ServerIo) :
    (prog.run io).2.member.Same io.member := by
  refine @Prog.Only.invariant _ _ _ _ _ prog keeps ServerIo.handle
    (fun io' => io'.member.Same io.member)
    (fun op io' permitted kept => ?_) io (FileState.Same.refl io.member)
  cases op with
  | member op => exact (FileProg.attempt_reading permitted io'.member io'.faults).trans kept
  | attendance op | timeInit time | wifiSend data => exact kept

end ServerProg

theorem keepsMember_reply (server : Server) (status result : Byte) :
    (server.reply status result).KeepsMember :=
  .bind (.perform trivial) fun _ => .ret _

theorem keepsMember_refuse (server : Server) : server.refuse.KeepsMember :=
  .bind (.perform trivial) fun _ => .ret _

theorem keepsMember_replyEntries (server : Server) (off : Nat) (entries : List Byte) :
    (server.replyEntries off entries).KeepsMember :=
  .ite (.bind (.perform trivial) fun _ => .ret _) (.ret _)

/-- The commands that add and delete users. -/
def ServerCmd.registers : ServerCmd → Bool
  | userAdd | userDel => true
  | connect | timesync | attGet | listReload | attDel | userCrcGet => false

theorem keepsMember_execute {cmd : ServerCmd} (other : cmd.registers = false) (lib : CardSearch)
    (pData : ServerData) (server : Server) : (cmd.execute lib pData server).KeepsMember := by
  cases cmd with
  | userAdd | userDel => cases other
  | connect => exact keepsMember_reply ..
  | timesync => exact .bind (.perform trivial) fun _ => keepsMember_reply ..
  | attGet =>
    refine .bind (keepsMember_onAttendance _) fun got =>
      .ite (keepsMember_refuse _) (.bind (keepsMember_onAttendance _) fun got => ?_)
    cases got with
    | none => exact .ret _
    | some got => exact .ite (keepsMember_refuse _) (keepsMember_replyEntries ..)
  | listReload =>
    refine .bind (keepsMember_onMember (reads_cardArrayInit ..)) fun loaded => ?_
    cases loaded with
    | none => exact .ret _
    | some loaded => exact .ite (keepsMember_reply ..) (keepsMember_reply ..)
  | attDel =>
    exact .bind (keepsMember_onAttendance _) fun _ =>
      .ite (keepsMember_reply ..) (keepsMember_reply ..)
  | userCrcGet =>
    refine .bind (keepsMember_onMember reads_userNumGet) fun counted => ?_
    cases counted with
    | none => exact keepsMember_refuse _
    | some counted =>
      refine .bind (keepsMember_onMember (reads_userCrcGet ..)) fun loaded => ?_
      cases loaded with
      | none => exact .ret _
      | some loaded =>
        obtain ⟨got, userCrc⟩ := loaded
        cases got with
        | none => exact keepsMember_refuse _
        | some userCrcNum => exact keepsMember_replyEntries ..

theorem keepsMember_crcFailed (cmd : ServerCmd) (server : Server) :
    (cmd.crcFailed server).KeepsMember := by
  cases cmd with
  | attGet | userCrcGet => exact keepsMember_refuse _
  | userAdd | userDel | connect | timesync | listReload | attDel => exact keepsMember_reply ..

/-! ## Commands of the register -/

/-- What the slot of a command's user id holds behind it: the record that comes with an add,
and zeros behind a delete. -/
def recordOf (pData : ServerData) : UserInfo :=
  if ServerCmd.ofByte (pData.byte 0) = some .userAdd then .stored 1058 pData.bytes 1 else .zero 1058

def userIdOf (pData : ServerData) : Nat := pData.num 1 2

/-- The slot of the command's user id holds its record, and the others what they held. -/
def Stores (pData : ServerData) (before after : List Byte) : Prop :=
  userIdOf pData ≠ 0 ∧ slot after (userIdOf pData) = recordOf pData ∧
    ∀ other, other ≠ 0 → other ≠ userIdOf pData → slot after other = slot before other

theorem stores_of_carriedOut {cmd : ServerCmd} {pData : ServerData} {before after : ServerIo}
    (asked : ServerCmd.ofByte (pData.byte 0) = some cmd) (registers : cmd.registers = true)
    (carried : cmd.CarriedOut pData before after) : Stores pData before.member.bytes
      after.member.bytes := by
  unfold Stores recordOf
  rw [asked]
  cases cmd with
  | userAdd =>
    obtain ⟨positive, own, others, -⟩ := carried
    rw [userId_added] at positive own others
    rw [if_pos rfl]
    exact ⟨positive, own, others⟩
  | userDel =>
    obtain ⟨positive, own, others, -⟩ := carried
    rw [if_neg (by decide)]
    exact ⟨positive, own, others⟩
  | connect | timesync | attGet | listReload | attDel | userCrcGet => cases registers

theorem acknowledges_register {cmd : ServerCmd} {pData : ServerData} {before after : ServerIo}
    {status result : Byte} (asked : ServerCmd.ofByte (pData.byte 0) = some cmd)
    (registers : cmd.registers = true)
    (answered : Answered before.replies after.replies status result) :
    acknowledges pData after = decide (result = serverAck) := by
  obtain ⟨reply, sent, -, -, rfl⟩ := answered
  unfold acknowledges
  rw [asked, sent, List.getLastD_eq_getLast?, List.getLast?_concat, Option.getD_some]
  cases cmd with
  | userAdd | userDel => rfl
  | connect | timesync | attGet | listReload | attDel | userCrcGet => cases registers

theorem acknowledges_other {pData : ServerData} {after : ServerIo}
    (other : ∀ cmd, ServerCmd.ofByte (pData.byte 0) = some cmd → cmd.registers = false) :
    acknowledges pData after = false := by
  unfold acknowledges
  cases asked : ServerCmd.ofByte (pData.byte 0) with
  | none => rfl
  | some cmd =>
    have silent := other cmd asked
    cases cmd with
    | userAdd | userDel => cases silent
    | connect | timesync | attGet | listReload | attDel | userCrcGet => rfl

/-- A frame changes the user file exactly if it is acknowledged as an add or a delete. -/
theorem serverStep_registers {lib : CardSearch} {stationAddr : Image 6}
    {state next : Server × ServerIo} {pData : ServerData}
    (stepped : serverStep lib stationAddr state pData = some next) :
    (acknowledges pData next.2 = true ∧ (Asks pData .userAdd ∨ Asks pData .userDel) ∧
        Stores pData state.2.member.bytes next.2.member.bytes) ∨
      (acknowledges pData next.2 = false ∧ next.2.member.Same state.2.member) := by
  obtain ⟨server, io⟩ := state
  unfold serverStep at stepped
  obtain ⟨server', ended, rfl⟩ := Option.map_eq_some_iff.mp stepped
  clear stepped
  cases asked : ServerCmd.ofByte (pData.byte 0) with
  | none =>
    have idle : dataProcess lib stationAddr pData server = pure (some server) := by
      unfold dataProcess
      rw [asked]
    rw [idle] at ended ⊢
    exact .inr ⟨acknowledges_other fun cmd named => (by cases asked.symm.trans named), .refl _⟩
  | some cmd =>
    have runs : dataProcess lib stationAddr pData server =
        if pData.IntactAt cmd.crcLenth then
          cmd.execute lib pData (server.withHead stationAddr (pData.byte 0))
        else cmd.crcFailed (server.withHead stationAddr (pData.byte 0)) := by
      unfold dataProcess
      rw [asked]
    rw [runs] at ended ⊢
    generalize server.withHead stationAddr (pData.byte 0) = headed at ended ⊢
    cases registers : cmd.registers with
    | false =>
      refine .inr ⟨acknowledges_other fun named same => ?_, ?_⟩
      · obtain rfl := Option.some.inj (asked.symm.trans same)
        exact registers
      · split
        · exact (keepsMember_execute registers lib pData headed).same io
        · exact (keepsMember_crcFailed cmd headed).same io
    | true =>
      have changes : cmd.Changes := by
        cases cmd with
        | userAdd | userDel | attDel => trivial
        | connect | timesync | attGet | listReload | userCrcGet => cases registers
      by_cases intact : pData.IntactAt cmd.crcLenth
      · rw [if_pos intact] at ended ⊢
        have outcome : cmd.Outcome pData 1#8 io ((cmd.execute lib pData headed).run io) := by
          cases cmd with
          | userAdd => exact serverUserAdd_outcome ..
          | userDel => exact serverUserDel_outcome ..
          | connect | timesync | attGet | listReload | attDel | userCrcGet => cases registers
        have asks : Asks pData .userAdd ∨ Asks pData .userDel := by
          cases cmd with
          | userAdd => exact .inl ⟨asked, intact⟩
          | userDel => exact .inr ⟨asked, intact⟩
          | connect | timesync | attGet | listReload | attDel | userCrcGet => cases registers
        obtain ⟨-, status, result, answered, ⟨rfl, carried⟩ | ⟨rfl, -, unchanged⟩⟩ := outcome
        · left
          rw [acknowledges_register asked registers answered]
          exact ⟨rfl, asks, stores_of_carriedOut asked registers carried⟩
        · right
          rw [acknowledges_register asked registers answered]
          exact ⟨rfl, unchanged.1⟩
      · rw [if_neg intact] at ended ⊢
        right
        have refused : cmd.crcFailed headed = headed.reply 0#8 serverNack := by
          cases cmd with
          | userAdd | userDel => rfl
          | connect | timesync | attGet | listReload | attDel | userCrcGet => cases registers
        obtain ⟨later, replies, ran, answered⟩ := headed.reply_run 0#8 serverNack io
        rw [refused, ran]
        rw [acknowledges_register asked registers answered]
        exact ⟨rfl, .refl _⟩

/-! ## Runs -/

/-- What the server knows of the user file: the first records, and behind them the adds and
deletes that have been acknowledged. -/
def register (first : List Byte) (acked : List ServerData) : Nat → UserInfo :=
  written userIdOf recordOf (slot first) acked

/-- The user file agrees with the register, up to the states. -/
structure Station.Registered (first : List Byte) (station : Station) : Prop where
  records : ∀ userId, userId ≠ 0 →
    (slot station.bytes userId).field 0 1042 = (register first station.acked userId).field 0 1042
  asked : ∀ frame ∈ station.acked, Asks frame .userAdd ∨ Asks frame .userDel

namespace Station

variable {lib : CardSearch} {stationAddr : Image 6} {first : List Byte} {station next : Station}

/-- What no record changes in leaves the register as it is. -/
theorem Registered.kept (registered : station.Registered first)
    (kept : KeptRecords station.bytes next.bytes) (acked : next.acked = station.acked) :
    next.Registered first := by
  refine ⟨fun userId positive => ?_, acked ▸ registered.asked⟩
  rw [kept, registered.records userId positive, acked]

theorem Registered.step {move : StationMove} (registered : station.Registered first)
    (stepped : step lib stationAddr station move = some next) : next.Registered first := by
  cases move with
  | frame pData =>
    obtain ⟨⟨server, io⟩, ran, rfl⟩ := Option.map_eq_some_iff.mp stepped
    rcases serverStep_registers ran with ⟨heard, asks, positive, own, others⟩ | ⟨unheard, same⟩
    · refine ⟨fun userId present => ?_, fun frame member => ?_⟩
      · simp only [heard, if_true, register, written_snoc, Station.bytes]
        by_cases mine : userId = userIdOf pData
        · subst mine
          rw [own, Function.update_self]
        · rw [others userId present mine, Function.update_of_ne mine]
          exact registered.records userId present
      · simp only [heard, if_true, List.mem_append, List.mem_singleton] at member
        rcases member with early | rfl
        · exact registered.asked frame early
        · exact asks
    · refine registered.kept (.of_same same) ?_
      simp only [unheard, Bool.false_eq_true, if_false]
  | event device event =>
    obtain ⟨_, ran, rfl⟩ := Option.map_eq_some_iff.mp stepped
    exact registered.kept (userCheck_attempt lib device event station.door station.io.faults).1 rfl
  | reboot =>
    obtain ⟨⟨status, list⟩, ran, rfl⟩ := Option.map_eq_some_iff.mp stepped
    have same :=
      (reads_cardArrayInit lib Server.initial.list).same (.fresh station.io.member.content)
        station.io.faults
    exact registered.kept (@KeptRecords.of_same (.fresh station.io.member.content) _ same) rfl

end Station

/-! ## Who gets in -/

namespace Station

variable {lib : CardSearch} {stationAddr : Image 6} {station next : Station}

end Station

end WifiAccess

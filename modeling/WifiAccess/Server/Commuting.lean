import WifiAccess.Base.Patched
import WifiAccess.Server.Reload

/-! Commands that change users or the list, and bytes that are written into the user file
beside what they read and write: in either order they leave the same. -/

namespace WifiAccess

open ServerProg

/-! ## Calls on the user file -/

/-- The bytes lie behind the user ids and card numbers of all slots. -/
def OffEntries (off : Nat) (data : List Byte) : Prop :=
  ∀ i, 8 + 1058 * i + 6 ≤ off ∨ off + data.length ≤ 8 + 1058 * i

/-- The bytes lie outside the slot of a user. -/
def OffSlot (off : Nat) (data : List Byte) (userId : Nat) : Prop :=
  userId ≠ 0 → slotOffset userId + 1058 ≤ off ∨ off + data.length ≤ slotOffset userId

section Files

variable {whole : Prop} {off : Nat} {data : List Byte} {At : Nat → Prop}

theorem addDelGetOneUser_beside {user : UserInfo} {cmd : Nat} (apart : OffSlot off data user.userId)
    (changes : cmd = addOneUser ∨ cmd = delOneUser) : FileProg.Beside whole off data At
      (addDelGetOneUser user cmd) := by
  have written {bytes : List Byte} (record : bytes.length = 1058)
      (small : slotAddr user.userId 0 < 2 ^ 31) :
      FileProg.Beside whole off data (· = slotAddr user.userId 0) (FileProg.write bytes) := by
    refine .write fun pos at_ => ?_
    have present : user.userId ≠ 0 := fun zero => slotAddr_zero 0 (by decide) (zero ▸ small)
    have addr := slotAddr_pos present user.userId_lt 0 (by decide)
    rw [at_, addr, record]
    exact apart present
  refine .bind .openCreate fun opened => .ite (fun _ => ?_) fun _ => .bind .close fun _ => .ret _
  refine .seek (fun small => ?_) (.bind .close fun _ => .ret _)
  rcases changes with rfl | rfl
  · refine .bind (written user.size small) fun count => .ite (fun _ => ?_) fun _ => ?_
    · exact .bind .close fun _ => .ret _
    · exact .bind .close fun _ => .ret _
  · refine .bind (written (Image.size _) small) fun count => .ite (fun _ => ?_) fun _ => ?_
    · exact .bind .close fun _ => .ret _
    · exact .bind .close fun _ => .ret _

theorem userNumGetLoop_beside (needed : whole) (clear : OffEntries off data)
    (left i userNum maxUserNum : Nat) (bound : 1058 * (i + left) < 2 ^ 32) :
    FileProg.Beside whole off data At
      (userNumGetLoop left i userNum maxUserNum) := by
  induction left generalizing i userNum maxUserNum At with
  | zero => exact .ret _
  | succ left ih =>
    refine .seek (fun _ => ?_) (.ret _)
    have here : FileProg.Beside whole off data (· = (1058 * i + 8) % 2 ^ 32) (FileProg.read 2) := by
      refine .read needed fun pos at_ => ?_
      have small : 1058 * i + 8 < 2 ^ 32 := by omega
      have := clear i
      rw [at_, Nat.mod_eq_of_lt small]
      omega
    refine .bind here fun got => .ite (fun _ => .ret _) fun _ =>
      .ite (fun _ => ih _ _ _ ?_) fun _ => ih _ _ _ ?_
    · omega
    · omega

theorem userNumGet_beside (needed : whole) (clear : OffEntries off data) :
    FileProg.Beside whole off data At userNumGet := by
  refine .bind (.stat needed) fun found => ?_
  cases found with
  | none => exact .ret _
  | some length =>
    refine .bind .openCreate fun opened => .ite (fun _ => ?_) fun _ => .bind .close fun _ => .ret _
    refine .bind (userNumGetLoop_beside needed clear _ _ _ _ ?_) fun counted =>
      .bind .close fun _ => .ret _
    omega

theorem cardArrayInitLoop_beside (needed : whole) (clear : OffEntries off data)
    (left i effectiveNum : Nat) (cardArray : List CardLink) (first : i ≠ 0)
    (bound : i + left ≤ 2 ^ 16) :
    FileProg.Beside whole off data At (cardArrayInitLoop left i effectiveNum cardArray) := by
  induction left generalizing i effectiveNum cardArray At with
  | zero => exact .ret _
  | succ left ih =>
    refine .seek (fun _ => ?_) (.ret _)
    have here : FileProg.Beside whole off data (· = slotAddr i 0) (FileProg.read 6) := by
      refine .read needed fun pos at_ => ?_
      rw [at_, slotAddr_pos first (by omega) 0 (by decide)]
      exact clear (i - 1)
    refine .bind here fun got => ?_
    cases storeEntry cardArray effectiveNum got with
    | none => exact .ret _
    | some stored =>
      refine .ite (fun _ => .ret _) fun _ => .ite (fun _ => ih _ _ _ ?_ ?_) fun _ => ih _ _ _ ?_ ?_
      all_goals omega

theorem cardArrayInit_beside (needed : whole) (clear : OffEntries off data) (lib : CardSearch)
    (cardArray : List CardLink) :
    FileProg.Beside whole off data At (cardArrayInit lib cardArray) := by
  refine .bindRun (userNumGet_beside needed clear) fun file => ?_
  cases counted : (userNumGet.run file).1 with
  | none => exact .ret _
  | some count =>
    obtain ⟨userNum, maxUserId⟩ := count
    have bound : maxUserId < 2 ^ 16 := by
      refine @userNumGet_bound file [] (userNum, maxUserId) ?_
      rw [FileProg.attempt_ok]
      exact counted
    refine .bind .openCreate fun opened => .ite (fun _ => ?_) fun _ => .bind .close fun _ => .ret _
    refine .bind (cardArrayInitLoop_beside needed clear _ _ _ _ Nat.one_ne_zero (by omega))
      fun loaded => ?_
    cases loaded with
    | none => exact .ret _
    | some loaded => exact .bind .close fun _ => .ite (fun _ => .ret _) fun _ => .ret _

end Files

/-! ## Commands -/

def ServerCmd.changesUsers : ServerCmd → Bool
  | userAdd | userDel | listReload => true
  | connect | timesync | attGet | attDel | userCrcGet => false

/-- An add or a delete is of another slot, and a reload finds the bytes inside the file. -/
def ServerCmd.Spares (cmd : ServerCmd) (pData : ServerData) (off : Nat) (data : List Byte)
    (file : FileState) : Prop :=
  match cmd with
  | userAdd | userDel => OffSlot off data (pData.num 1 2)
  | listReload => Room off data file
  | connect | timesync | attGet | attDel | userCrcGet => True

def ServerIo.patch (off : Nat) (data : List Byte) (io : ServerIo) : ServerIo :=
  { io with member := io.member.patch off data }

/-- The answer of a command, with the bytes written into what it leaves. -/
def patched (off : Nat) (data : List Byte) (ran : Option Server × ServerIo) :
    Option Server × ServerIo :=
  (ran.1, ran.2.patch off data)

section Commands

variable {pData : ServerData} {server : Server} {io : ServerIo} {off : Nat} {data : List Byte}
  {cmd : ServerCmd} (lib : CardSearch) (stationAddr : Image 6)

/-- A command whose call on the user file does not meet the bytes. -/
theorem answered_patched {α : Type} {prog : FileProg α} {whole : Prop}
    (beside : FileProg.Beside whole off data (fun _ => True) prog)
    (room : whole → Room off data io.member) (working : io.faults = [])
    (next : α → ServerProg (Option Server))
    (answers : ∀ value io, (next value).run (io.patch off data) =
      patched off data ((next value).run io)) :
    (onMember prog >>= next).run (io.patch off data) =
      patched off data ((onMember prog >>= next).run io) := by
  obtain ⟨ran, _⟩ := beside io.member trivial room
  have attempted : prog.attempt (io.patch off data).member (io.patch off data).faults =
      ((prog.run io.member).1, (prog.run io.member).2.patch off data, []) := by
    show prog.attempt (io.member.patch off data) io.faults = _
    rw [working, FileProg.attempt_ok, ran]
  rw [run_bind, run_onMember, attempted, run_bind, run_onMember, working, FileProg.attempt_ok]
  exact answers (prog.run io.member).1 { io with member := (prog.run io.member).2, faults := [] }

theorem execute_patched (changes : cmd.changesUsers = true) (clear : OffEntries off data)
    (spares : cmd.Spares pData off data io.member) (working : io.faults = []) :
    (cmd.execute lib pData server).run (io.patch off data) =
      patched off data ((cmd.execute lib pData server).run io) := by
  have status {failed : Prop} [Decidable failed] (server : Server) (io : ServerIo) :
      ServerProg.run (if failed then server.reply 1#8 serverNack else server.reply 0#8 serverAck)
        (io.patch off data) =
        patched off data
          (ServerProg.run (if failed then server.reply 1#8 serverNack
          else server.reply 0#8 serverAck) io) := by
    split <;> rfl
  cases cmd with
  | userAdd =>
    have other : OffSlot off data (UserInfo.userId (.stored 1058 pData.bytes 1)) := by
      rw [userId_added]
      exact spares
    exact @answered_patched _ _ _ _ _ False (addDelGetOneUser_beside other (.inl rfl)) False.elim
      working _ fun value io =>
      status server io
  | userDel =>
    have other : OffSlot off data (server.userInfo.setUserId (pData.num 1 2)).userId := by
      rw [UserInfo.userId_setUserId _ (Image.num_lt ..)]
      exact spares
    exact @answered_patched _ _ _ _ _ False (addDelGetOneUser_beside other (.inr rfl)) False.elim
      working _ fun value io =>
      status { server with userInfo := value.2 } io
  | listReload =>
    refine @answered_patched _ _ _ _ _ True (cardArrayInit_beside trivial clear lib server.list)
      (fun _ => spares) working _
      fun value io => ?_
    cases value with
    | none => rfl
    | some loaded => exact status { server with list := loaded.2 } io
  | connect | timesync | attGet | attDel | userCrcGet => cases changes

/-- A frame of one of the commands, before and after the bytes are written. -/
theorem serverStep_patched (asked : ServerCmd.ofByte (pData.byte 0) = some cmd)
    (changes : cmd.changesUsers = true) (clear : OffEntries off data)
    (spares : cmd.Spares pData off data io.member) (working : io.faults = []) :
    serverStep lib stationAddr (server, io.patch off data) pData =
      (serverStep lib stationAddr (server, io) pData).map fun next =>
        (next.1, next.2.patch off data) := by
  have ran : (dataProcess lib stationAddr pData server).run (io.patch off data) =
      patched off data ((dataProcess lib stationAddr pData server).run io) := by
    unfold dataProcess
    simp only [asked]
    by_cases intact : pData.IntactAt cmd.crcLenth
    · rw [if_pos intact]
      exact execute_patched lib changes clear spares working
    · rw [if_neg intact]
      cases cmd with
      | userAdd | userDel | listReload => rfl
      | connect | timesync | attGet | attDel | userCrcGet => cases changes
  unfold serverStep
  dsimp only
  rw [ran, patched, Option.map_map]
  rfl

/-! ## What commands keep -/

/-- Without failures to come, none come. -/
theorem run_working {α : Type} (prog : ServerProg α) (working : io.faults = []) :
    (prog.run io).2.faults = [] := by
  refine Prog.run_invariant ServerIo.handle (fun io => io.faults = []) (fun op io working => ?_)
    prog io working
  obtain ⟨member, attendance, faults, clock, replies⟩ := io
  obtain rfl : faults = [] := working
  cases op <;> rfl

theorem serverStep_working {next : Server × ServerIo} (working : io.faults = [])
    (stepped : serverStep lib stationAddr (server, io) pData = some next) : next.2.faults = [] := by
  obtain ⟨_, _, rfl⟩ := Option.map_eq_some_iff.mp stepped
  exact run_working _ working

/-- No call fails, and there is a user file. -/
structure ServerIo.Ready (io : ServerIo) : Prop where
  working : io.faults = []
  present : io.member.content.isSome

theorem answered_ready {α : Type} {prog : FileProg α}
    (beside : FileProg.Beside True 0 [] (fun _ => True) prog) (ready : io.Ready)
    (next : α → ServerProg (Option Server))
    (answers : ∀ value io, io.Ready → ((next value).run io).2.Ready) :
    ((onMember prog >>= next).run io).2.Ready := by
  obtain ⟨_, kept⟩ := beside io.member trivial fun _ => ⟨ready.present, Nat.zero_le _⟩
  rw [run_bind, run_onMember, ready.working, FileProg.attempt_ok]
  exact answers (prog.run io.member).1 { io with member := (prog.run io.member).2, faults := [] }
    ⟨rfl, (kept trivial).present⟩

theorem execute_ready (changes : cmd.changesUsers = true) (ready : io.Ready) :
    ((cmd.execute lib pData server).run io).2.Ready := by
  have status {failed : Prop} [Decidable failed] (server : Server) (io : ServerIo)
      (ready : io.Ready) :
      (ServerProg.run (if failed then server.reply 1#8
        serverNack else server.reply 0#8 serverAck) io).2.Ready := by
    split <;> exact ⟨ready.working, ready.present⟩
  have nowhere (userId : Nat) : OffSlot 0 [] userId := fun _ => .inr (Nat.zero_le _)
  cases cmd with
  | userAdd => exact answered_ready (addDelGetOneUser_beside (nowhere _)
    (.inl rfl)) ready _ fun value io => status server io
  | userDel =>
    exact answered_ready (addDelGetOneUser_beside (nowhere _) (.inr rfl)) ready _ fun value io =>
      status { server with userInfo := value.2 } io
  | listReload =>
    refine answered_ready (cardArrayInit_beside trivial (fun _ => .inr (Nat.zero_le _)) lib
      server.list) ready _ fun value io ready => ?_
    cases value with
    | none => exact ready
    | some loaded => exact status { server with list := loaded.2 } io ready
  | connect | timesync | attGet | attDel | userCrcGet => cases changes

theorem serverStep_ready {next : Server × ServerIo}
    (asked : ServerCmd.ofByte (pData.byte 0) = some cmd) (changes : cmd.changesUsers = true)
    (ready : io.Ready) (stepped : serverStep lib stationAddr (server, io) pData = some next) :
    next.2.Ready := by
  have left : ((dataProcess lib stationAddr pData server).run io).2.Ready := by
    unfold dataProcess
    simp only [asked]
    by_cases intact : pData.IntactAt cmd.crcLenth
    · rw [if_pos intact]
      exact execute_ready lib changes ready
    · rw [if_neg intact]
      cases cmd with
      | userAdd | userDel | listReload => exact ⟨ready.working, ready.present⟩
      | connect | timesync | attGet | attDel | userCrcGet => cases changes
  obtain ⟨_, _, rfl⟩ := Option.map_eq_some_iff.mp stepped
  exact left

end Commands

end WifiAccess

import WifiAccess.Att.Refinement
import WifiAccess.Server.Process
import WifiAccess.User.Refinement

/-! What the answer to a command says: the three commands that change a file do so
completely or not at all, whatever calls on the file fail. -/

namespace WifiAccess

/-! ## The two writing operations with failures -/

section Failures

open FileProg

/-- The write at the end of an operation that changes a file. -/
theorem attempt_writeClose {α : Type} {bytes : List Byte} (nonempty : 0 < bytes.length)
    (bad good : α) (file : FileState) (faults : List Bool) :
    ∃ result next later,
      (do if (← write bytes) ≠ bytes.length then close; return bad else close; return good :
          FileProg α).attempt file faults = (result, next, later) ∧
      ((result = good ∧ next.bytes = splice file.bytes file.pos bytes) ∨
        (result = bad ∧ next.Same file)) := by
  obtain ⟨count, wrote, middle, ran, outcome⟩ := attempt_write file faults bytes
  obtain ⟨next, later, closed, kept⟩ := attempt_close wrote middle
  simp only [attempt_bind, attempt_ite, ran, closed, attempt_pure]
  rcases outcome with ⟨rfl, stored⟩ | ⟨rfl, same⟩
  · exact ⟨good, next, later, by simp, .inl ⟨rfl, kept.trans stored⟩⟩
  · refine ⟨bad, next, later, by simp [Nat.ne_of_lt nonempty], .inr ⟨rfl, fun i => ?_⟩⟩
    rw [kept]
    exact same i

theorem attempt_closeReturn {α : Type} (value : α) {first file : FileState} (same : first.Same file)
    (faults : List Bool) :
    ∃ next later, (do close; return value : FileProg α).attempt first faults =
      (value, next, later) ∧ next.Same file := by
  obtain ⟨next, later, closed, kept⟩ := attempt_close first faults
  refine ⟨next, later, ?_, fun i => ?_⟩
  · rw [attempt_bind, closed, attempt_pure]
  · rw [kept]
    exact same i

/-- Storing in a slot: all of the slot is written, or no byte changes. -/
theorem addDelGetOneUser_attempt {user : UserInfo} {cmd : Nat}
    (changes : cmd = addOneUser ∨ cmd = delOneUser) (file : FileState) (faults : List Bool) :
    ∃ status left next later, (addDelGetOneUser user cmd).attempt file faults =
      ((status, left), next, later) ∧
      ((status = 0 ∧ user.userId ≠ 0 ∧
          next.bytes = splice file.bytes (slotOffset user.userId)
            (if cmd = addOneUser then user.bytes else (Image.zero 1058).bytes)) ∨
        (status = -1 ∧ next.Same file)) := by
  unfold addDelGetOneUser
  obtain ⟨opened, first, later, ran, same, atStart⟩ := attempt_openCreate file faults
  rw [attempt_bind, ran]
  cases opened with
  | false =>
    obtain ⟨next, later, closed, kept⟩ := attempt_closeReturn ((-1 : Int), user) same later
    exact ⟨-1, user, next, later, closed, .inr ⟨rfl, kept⟩⟩
  | true =>
    obtain ⟨-, kept⟩ := atStart rfl
    obtain ⟨moved, second, later, sought, grown, atSlot⟩ :=
      attempt_lseek first later (slotAddr user.userId 0)
    have unchanged := grown.trans same
    simp only [↓reduceIte, attempt_bind, sought]
    cases moved with
    | false =>
      obtain ⟨next, later, closed, kept⟩ := attempt_closeReturn ((-1 : Int), user) unchanged later
      exact ⟨-1, user, next, later, closed, .inr ⟨rfl, kept⟩⟩
    | true =>
      obtain ⟨small, pos, bytes⟩ := atSlot rfl
      have positive : user.userId ≠ 0 := by
        intro zero
        rw [zero] at small
        exact slotAddr_zero 0 (by decide) small
      have addr := slotAddr_pos positive user.userId_lt 0 (Nat.zero_le 1058)
      have place (written : List Byte) :
          splice second.bytes second.pos written = splice file.bytes (slotOffset user.userId)
            written := by
        rw [bytes, pos, kept, addr, Nat.add_zero, splice_grow]
      rcases changes with rfl | rfl
      · have size : 0 < user.bytes.length := by simp
        obtain ⟨result, next, later, wrote, outcome⟩ := attempt_writeClose
            size ((-1 : Int), user) (0, user) second later
        rw [user.size] at wrote
        refine ⟨result.1, result.2, next, later, wrote, ?_⟩
        rcases outcome with ⟨rfl, stored⟩ | ⟨rfl, failed⟩
        · exact .inl ⟨rfl, positive, stored.trans (place user.bytes)⟩
        · exact .inr ⟨rfl, failed.trans unchanged⟩
      · let zero : UserInfo := .zero 1058
        have size : 0 < zero.bytes.length := by simp
        obtain ⟨result, next, later, wrote, outcome⟩ := attempt_writeClose
            size ((-1 : Int), zero) (0, zero) second later
        rw [zero.size] at wrote
        refine ⟨result.1, result.2, next, later, wrote, ?_⟩
        rcases outcome with ⟨rfl, stored⟩ | ⟨rfl, failed⟩
        · exact .inl ⟨rfl, positive, stored.trans (place zero.bytes)⟩
        · exact .inr ⟨rfl, failed.trans unchanged⟩

/-- Reading the header: it is the intact one of the file, or the call fails. -/
theorem fdRecordHeaderGet_attempt (header : AttHeader) (file : FileState) (faults : List Bool) :
    ∃ status loaded next later, (fdRecordHeaderGetSet header getRecord).attempt file faults =
      ((status, loaded), next, later) ∧
      next.Same file ∧
      ((status = 0 ∧ next.bytes = file.bytes ∧ 8 ≤ file.bytes.length ∧
        loaded = .stored 8 file.bytes 0 ∧ loaded.Valid) ∨
        status = -1) := by
  unfold fdRecordHeaderGetSet
  obtain ⟨moved, first, later, sought, same, atStart⟩ := attempt_lseek file faults 0
  rw [attempt_bind, sought]
  cases moved with
  | false => exact ⟨-1, header, first, later, rfl, same, .inr rfl⟩
  | true =>
    obtain ⟨-, pos, bytes⟩ := atStart rfl
    rw [grow_zero] at bytes
    obtain ⟨got, second, later, ran, kept, outcome⟩ := attempt_read first later 8
    simp only [↓reduceIte, attempt_bind, ran, attempt_ite, attempt_pure]
    have unchanged : second.Same file := fun i => by rw [kept, bytes]
    by_cases whole : got.length = 8
    · have read : got = window file.bytes 0 8 ∧ 8 ≤ file.bytes.length := by
        rcases outcome with rfl | rfl
        · rw [bytes, pos, List.drop_zero] at whole ⊢
          have inside : 0 + 8 ≤ file.bytes.length := by
            rw [List.length_take] at whole
            omega
          exact ⟨(window_inside inside).symm, by omega⟩
        · cases whole
      obtain ⟨rfl, inside⟩ := read
      rw [Image.load_window]
      by_cases valid : AttHeader.Valid (.stored 8 file.bytes 0)
      · refine ⟨0, .stored 8 file.bytes 0, second, later, ?_, unchanged,
          .inl ⟨rfl, kept.trans bytes, inside, rfl, valid⟩⟩
        have crc : AttHeader.crc (.stored 8 file.bytes 0) =
            AttHeader.computedCrc (.stored 8 file.bytes 0) := valid.symm
        simp [crc]
      · refine ⟨-1, .stored 8 file.bytes 0, second, later, ?_, unchanged, .inr rfl⟩
        have crc : ¬ AttHeader.crc (.stored 8 file.bytes 0) =
            AttHeader.computedCrc (.stored 8 file.bytes 0) :=
          fun same => valid same.symm
        simp [crc]
    · exact ⟨-1, header.load got, second, later, by simp [whole], unchanged, .inr rfl⟩

/-- Writing the header: with its CRC, or not at all. -/
theorem fdRecordHeaderSet_attempt (header : AttHeader) (file : FileState) (faults : List Bool) :
    ∃ status left next later, (fdRecordHeaderGetSet header setRecord).attempt file faults =
      ((status, left), next, later) ∧
      ((status = 0 ∧ next.bytes = splice file.bytes 0 header.withCrc.bytes) ∨
        (status = -1 ∧ next.Same file)) := by
  unfold fdRecordHeaderGetSet
  obtain ⟨moved, first, later, sought, same, atStart⟩ := attempt_lseek file faults 0
  rw [attempt_bind, sought]
  cases moved with
  | false => exact ⟨-1, header, first, later, rfl, .inr ⟨rfl, same⟩⟩
  | true =>
    obtain ⟨-, pos, bytes⟩ := atStart rfl
    rw [grow_zero] at bytes
    obtain ⟨count, second, later, ran, outcome⟩ := attempt_write first later header.withCrc.bytes
    rcases outcome with ⟨rfl, stored⟩ | ⟨rfl, failed⟩
    · refine ⟨0, header.withCrc, second, later, ?_, .inl ⟨rfl, ?_⟩⟩
      · simp [setRecord, getRecord, ran]
      · rw [stored, bytes, pos]
    · refine ⟨-1, header.withCrc, second, later, ?_, .inr ⟨rfl, failed.trans same⟩⟩
      simp [setRecord, getRecord, ran]

/-- Deleting from the log: the count is reduced, or no byte changes. -/
theorem attRecordDel_attempt (num : Nat) (file : FileState) (faults : List Bool) :
    ∃ status next later, (attRecordDel num).attempt file faults = (status, next, later) ∧
      ((status = 0 ∧ 8 ≤ file.bytes.length ∧ AttHeader.Valid (.stored 8 file.bytes 0) ∧
          next.bytes = splice file.bytes 0 (AttHeader.withCrc
            (.setTotal (.stored 8 file.bytes 0)
              (AttHeader.total (.stored 8 file.bytes 0) - num))).bytes) ∨
        (status = -1 ∧ next.Same file)) := by
  unfold attRecordDel
  obtain ⟨opened, first, later, ran, same, atStart⟩ := attempt_openCreate file faults
  rw [attempt_bind, ran]
  cases opened with
  | false => exact ⟨-1, first, later, rfl, .inr ⟨rfl, same⟩⟩
  | true =>
    obtain ⟨-, bytes⟩ := atStart rfl
    obtain ⟨status, loaded, second, later, got, kept, outcome⟩ :=
      fdRecordHeaderGet_attempt (.zero 8) first later
    have unchanged := kept.trans same
    simp only [↓reduceIte, attempt_bind, got]
    rcases outcome with ⟨rfl, copied, inside, rfl, valid⟩ | rfl
    · rw [bytes] at copied inside valid
      have left : (if AttHeader.total (.stored 8 file.bytes 0) > num
          then AttHeader.total (.stored 8 file.bytes 0) - num
          else 0) = AttHeader.total (.stored 8 file.bytes 0) - num := by split <;> omega
      simp only [ne_eq, not_true_eq_false, ↓reduceIte, attempt_bind, bytes, left]
      obtain ⟨status, written, third, later, wrote, outcome⟩ := fdRecordHeaderSet_attempt
        (.setTotal (.stored 8 file.bytes 0) (AttHeader.total (.stored 8 file.bytes 0) - num)) second
          later
      obtain ⟨next, later, closed, same⟩ := attempt_close third later
      refine ⟨if status ≠ 0 then -1 else 0, next, later, ?_, ?_⟩
      · simp only [wrote, closed, attempt_pure]
      · rcases outcome with ⟨rfl, stored⟩ | ⟨rfl, failed⟩
        · exact .inl ⟨rfl, inside, valid, by rw [same, stored, copied]⟩
        · refine .inr ⟨rfl, fun i => ?_⟩
          rw [same]
          exact failed.trans unchanged i
    · obtain ⟨next, later, closed, same⟩ := attempt_closeReturn (-1 : Int) unchanged later
      exact ⟨-1, next, later, closed, .inr ⟨rfl, same⟩⟩

end Failures

/-! ## The answer -/

open ServerProg

/-- One reply, a short one with these two bytes at its end. -/
def Answered (before after : List (List Byte)) (status result : Byte) : Prop :=
  ∃ reply, after = before ++ [reply] ∧ reply.length = 15 ∧ reply.getD 13 0#8 = status ∧
    reply.getD 14 0#8 = result

/-- The two bytes of an answer are known from the replies. -/
theorem Answered.unique {before after : List (List Byte)} {status result status' result' : Byte}
    (one : Answered before after status result) (two : Answered before after status' result') :
    status = status' ∧ result = result' := by
  obtain ⟨reply, sent, -, rfl, rfl⟩ := one
  obtain ⟨reply', sent', -, rfl, rfl⟩ := two
  obtain rfl := List.singleton_inj.mp (List.append_cancel_left (sent.symm.trans sent'))
  exact ⟨rfl, rfl⟩

theorem Server.reply_run (server : Server) (status result : Byte) (io : ServerIo) :
    ∃ next replies, (server.reply status result).run io =
      (some next, { io with replies := replies }) ∧
      Answered io.replies replies status result := by
  refine ⟨_, _, rfl, _, rfl, Image.length_field .., ?_, ?_⟩
  · rw [Image.byte_field (by decide), Server.withBuf, Image.byte_put (by simp),
      Image.byte_put (by simp)]
    rfl
  · rw [Image.byte_field (by decide), Server.withBuf, Image.byte_put (by simp)]
    rfl

/-- The commands that change a file. -/
def ServerCmd.Changes : ServerCmd → Prop
  | userAdd | userDel | attDel => True
  | connect | timesync | attGet | listReload | userCrcGet => False

/-- What the server asked for is in the file, and nothing else has changed. -/
def ServerCmd.CarriedOut (cmd : ServerCmd) (pData : ServerData) (before after : ServerIo) : Prop :=
  match cmd with
  | userAdd =>
    let user : UserInfo := .stored 1058 pData.bytes 1
    user.userId ≠ 0 ∧ slot after.member.bytes user.userId = user ∧
      (∀ other, other ≠ 0 → other ≠ user.userId → slot after.member.bytes other =
        slot before.member.bytes other) ∧
      after.attendance = before.attendance
  | userDel =>
    let userId := pData.num 1 2
    userId ≠ 0 ∧ slot after.member.bytes userId = .zero 1058 ∧
      (∀ other, other ≠ 0 → other ≠ userId → slot after.member.bytes other =
        slot before.member.bytes other) ∧
      after.attendance = before.attendance
  | attDel =>
    let total := AttHeader.total (.stored 8 before.attendance.bytes 0)
    AttHeader.Valid (.stored 8 before.attendance.bytes 0) ∧
      AttHeader.Valid (.stored 8 after.attendance.bytes 0) ∧
      AttHeader.total (.stored 8 after.attendance.bytes 0) = total - min (pData.num 1 2) total ∧
      after.attendance.bytes.drop 8 = before.attendance.bytes.drop 8 ∧ after.member = before.member
  | connect | timesync | attGet | listReload | userCrcGet => True

/-- The two files are as they were. -/
def ServerIo.Unchanged (before after : ServerIo) : Prop :=
  after.member.Same before.member ∧ after.attendance.Same before.attendance

/-- How a command ends: carried out and acknowledged, or refused with this status byte
and without effect. -/
def ServerCmd.Outcome (cmd : ServerCmd) (pData : ServerData) (failure : Byte) (io : ServerIo)
    (ran : Option Server × ServerIo) : Prop :=
  ran.1.isSome ∧ ∃ status result, Answered io.replies ran.2.replies status result ∧
    ((result = serverAck ∧ cmd.CarriedOut pData io ran.2) ∨
      (result = serverNack ∧ status = failure ∧ io.Unchanged ran.2))

/-- The answer behind an operation that has returned a status. -/
theorem outcome_of_status {cmd : ServerCmd} {pData : ServerData} {io after : ServerIo}
    {status : Int} (server : Server) (silent : after.replies = io.replies)
    (carried : status = 0 → ∀ replies, cmd.CarriedOut pData io { after with replies := replies })
    (failed : status ≠ 0 → io.Unchanged after) :
    cmd.Outcome pData 1#8 io
      ((if status ≠ 0 then server.reply 1#8 serverNack
        else server.reply 0#8 serverAck : ServerProg _).run after) := by
  rw [run_ite]
  by_cases succeeded : status = 0
  · obtain ⟨next, replies, ran, answered⟩ := server.reply_run 0#8 serverAck after
    rw [if_neg (not_not_intro succeeded), ran]
    rw [silent] at answered
    exact ⟨rfl, 0#8, serverAck, answered, .inl ⟨rfl, carried succeeded replies⟩⟩
  · obtain ⟨next, replies, ran, answered⟩ := server.reply_run 1#8 serverNack after
    rw [if_pos succeeded, ran]
    rw [silent] at answered
    exact ⟨rfl, 1#8, serverNack, answered, .inr ⟨rfl, rfl, failed succeeded⟩⟩

theorem serverUserAdd_outcome (pData : ServerData) (server : Server) (io : ServerIo) :
    ServerCmd.userAdd.Outcome pData 1#8 io ((serverUserAdd pData server).run io) := by
  obtain ⟨status, left, next, later, ran, outcome⟩ :=
    @addDelGetOneUser_attempt (.stored 1058 pData.bytes 1) addOneUser (.inl rfl) io.member io.faults
  rw [serverUserAdd, run_bind, run_onMember, ran]
  refine outcome_of_status server rfl (fun succeeded replies => ?_) (fun refused => ?_)
  · rcases outcome with ⟨-, positive, stored⟩ | ⟨rfl, -⟩
    · obtain ⟨own, others⟩ := slot_stored positive stored
      exact ⟨positive, own, others, rfl⟩
    · cases succeeded
  · rcases outcome with ⟨rfl, -⟩ | ⟨-, same⟩
    · exact absurd rfl refused
    · exact ⟨same, .refl _⟩

theorem serverUserDel_outcome (pData : ServerData) (server : Server) (io : ServerIo) :
    ServerCmd.userDel.Outcome pData 1#8 io ((serverUserDel pData server).run io) := by
  have userId := server.userInfo.userId_setUserId (Image.num_lt pData 1 2)
  obtain ⟨status, left, next, later, ran, outcome⟩ := @addDelGetOneUser_attempt
    (server.userInfo.setUserId (pData.num 1 2)) delOneUser (.inr rfl) io.member io.faults
  rw [serverUserDel, run_bind, run_onMember, ran]
  refine outcome_of_status _ rfl (fun succeeded replies => ?_) (fun refused => ?_)
  · rcases outcome with ⟨-, positive, stored⟩ | ⟨rfl, -⟩
    · rw [userId] at positive stored
      obtain ⟨own, others⟩ := @slot_stored _ _ _ (.zero 1058) positive stored
      exact ⟨positive, own, others, rfl⟩
    · cases succeeded
  · rcases outcome with ⟨rfl, -⟩ | ⟨-, same⟩
    · exact absurd rfl refused
    · exact ⟨same, .refl _⟩

theorem serverAttDel_outcome (pData : ServerData) (server : Server) (io : ServerIo) :
    ServerCmd.attDel.Outcome pData 1#8 io ((serverAttDel pData server).run io) := by
  obtain ⟨status, next, later, ran, outcome⟩ :=
    attRecordDel_attempt (pData.num 1 2) io.attendance io.faults
  rw [serverAttDel, run_bind, run_onAttendance, ran]
  refine outcome_of_status server rfl (fun succeeded replies => ?_) (fun refused => ?_)
  · rcases outcome with ⟨-, inside, valid, stored⟩ | ⟨rfl, -⟩
    · have header : Image.stored 8 next.bytes 0 = AttHeader.withCrc
          (.setTotal (.stored 8 io.attendance.bytes 0)
            (AttHeader.total (.stored 8 io.attendance.bytes 0) - pData.num 1 2)) := by
        rw [stored]
        exact Image.stored_splice _ _ _
      have bound := AttHeader.total_lt (.stored 8 io.attendance.bytes 0)
      refine ⟨valid, ?_, ?_, ?_, rfl⟩
      · exact header ▸ AttHeader.valid_withCrc _
      · have total := congrArg AttHeader.total header
        rw [AttHeader.total_setTotal _ (by omega)] at total
        exact total.trans (by omega)
      · have behind (header : AttHeader) : (splice io.attendance.bytes 0 header.bytes).drop 8 =
            io.attendance.bytes.drop 8 := by
          simp [splice, header.size]
        exact (congrArg (List.drop 8) stored).trans (behind _)
    · cases succeeded
  · rcases outcome with ⟨rfl, -⟩ | ⟨-, same⟩
    · exact absurd rfl refused
    · exact ⟨.refl _, same⟩

/-- A wrong CRC changes nothing, and the answer says so. -/
theorem crcFailed_outcome {cmd : ServerCmd} (changes : cmd.Changes) (pData : ServerData)
    (server : Server) (io : ServerIo) :
    cmd.Outcome pData 0#8 io ((cmd.crcFailed server).run io) := by
  have refused : cmd.crcFailed server = server.reply 0#8 serverNack := by
    cases cmd with
    | userAdd | userDel | attDel => rfl
    | connect | timesync | attGet | listReload | userCrcGet => exact absurd changes id
  obtain ⟨next, replies, ran, answered⟩ := server.reply_run 0#8 serverNack io
  rw [refused, ran]
  exact ⟨rfl, 0#8, serverNack, answered, .inr ⟨rfl, rfl, .refl _, .refl _⟩⟩

/-- Whatever calls on the files fail, a command that changes a file is answered once:
with an acknowledgement when it has been carried out, and otherwise with the reason, and
then the files are as they were. -/
theorem dataProcess_outcome (lib : CardSearch) (stationAddr : Image 6) (pData : ServerData)
    (server : Server) (io : ServerIo) (cmd : ServerCmd)
    (asked : ServerCmd.ofByte (pData.byte 0) = some cmd) (changes : cmd.Changes) :
    cmd.Outcome pData (if pData.IntactAt cmd.crcLenth then 1#8 else 0#8) io
      ((dataProcess lib stationAddr pData server).run io) := by
  unfold dataProcess
  simp only [asked]
  by_cases intact : pData.IntactAt cmd.crcLenth
  · rw [if_pos intact, if_pos intact]
    cases cmd with
    | userAdd => exact serverUserAdd_outcome ..
    | userDel => exact serverUserDel_outcome ..
    | attDel => exact serverAttDel_outcome ..
    | connect | timesync | attGet | listReload | userCrcGet => exact absurd changes id
  · rw [if_neg intact, if_neg intact]
    exact crcFailed_outcome changes pData _ io

/-- Deleting user 1 when the write fails. -/
theorem dataProcess_outcome_failing : ServerCmd.userDel.Outcome (serverFrame 2#8 [1#8, 0#8]) 1#8
    (.fresh none none [false, false, true])
    ((dataProcess (.reference cardCompar_consistent) (.zero 6) (serverFrame 2#8 [1#8, 0#8])
      .initial).run (.fresh none none [false, false, true])) := by
  have fits : [1#8, 0#8].length + 5 ≤ 5097 := by decide
  have asked : ServerCmd.ofByte ((serverFrame 2#8 [1#8, 0#8]).byte 0) = some .userDel := by
    rw [byte_serverFrame fits]
    rfl
  have outcome :=
    dataProcess_outcome (.reference cardCompar_consistent) (.zero 6)
      (serverFrame 2#8 [1#8, 0#8]) .initial
    (.fresh none none [false, false, true]) .userDel asked trivial
  have intact : (serverFrame 2#8 [1#8, 0#8]).IntactAt ServerCmd.userDel.crcLenth :=
    intact_serverFrame fits
  rwa [if_pos intact] at outcome

end WifiAccess

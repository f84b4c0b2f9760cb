import WifiAccess.Att.Reading
import WifiAccess.Server.Process
import WifiAccess.User.Listing

/-! The static arrays that a reply with data is put together in, and when the data
of the files fits in them. -/

namespace WifiAccess

open ServerProg

/-- The sizes of the declarations. -/
structure Server.Sized (server : Server) : Prop where
  attInfo : server.attInfo.length = 10
  userCrc : server.userCrc.length = 100

theorem Server.sized_initial : Server.initial.Sized :=
  ⟨List.length_replicate, List.length_replicate⟩

theorem Server.Sized.withBuf {server : Server} (sized : server.Sized) (buf : Image 1024) :
    (server.withBuf buf).Sized :=
  ⟨sized.attInfo, sized.userCrc⟩

/-- No more records are asked for than `att_info` holds, or the log is too short or
not intact. -/
def AttGetFits (bytes : List Byte) (num : Nat) : Prop :=
  8 ≤ bytes.length → AttHeader.Valid (.stored 8 bytes 0) →
    let count := min (num % 256) (AttHeader.total (.stored 8 bytes 0))
    count ≤ 10 ∨ bytes.length < 8 + 53 * count

/-- No more CRCs are asked for than `user_crc` holds, or the file ends before the
first one too many. -/
def UserCrcGetFits (file : FileState) (start num : Nat) : Prop :=
  ∀ userNum userIdMax, (userNumGet.run file).1 = some (userNum, userIdMax) → start ≠ 0 →
    start ≤ userIdMax →
    clippedNum start num userIdMax ≤ 100 ∨ file.bytes.length ≤ slotOffset (start + 100) + 1038

/-! ## The reply buffer -/

theorem length_entries {n : Nat} (entries : List (Image n)) :
    (entries.flatMap Image.bytes).length = n * entries.length := by
  induction entries with
  | nil => rfl
  | cons first rest ih => rw [List.flatMap_cons, List.length_append, first.size, ih,
    List.length_cons, Nat.mul_succ, Nat.add_comm]

theorem Server.replyEntries_isSome (server : Server) {off : Nat} {entries : List Byte}
    (inside : off + entries.length + 4 ≤ 1024) (io : ServerIo) :
    ((server.replyEntries off entries).run io).1.isSome := by
  rw [replyEntries, ServerProg.run_ite, if_pos inside]
  rfl

theorem Server.refuse_isSome (server : Server) (io : ServerIo) :
    (server.refuse.run io).1.isSome := rfl

/-! ## Records -/

section Records

variable {pData : ServerData} {server : Server} {io : ServerIo}

/-- Reading the header on its own. -/
theorem recordHeaderGet_intact (header : AttHeader) {file : FileState}
    (inside : 8 ≤ file.bytes.length) (valid : AttHeader.Valid (.stored 8 file.bytes 0)) :
    (recordHeaderGetSet header getRecord).run file =
      ((0, .stored 8 file.bytes 0), ⟨some file.bytes, 8, file.full⟩) := by
  have fetched := @fdRecordHeaderGetSet_get file.bytes 0 file.full header inside
  rw [if_pos valid] at fetched
  simp [recordHeaderGetSet, fetched]

theorem recordHeaderGet_broken (header : AttHeader) {file : FileState}
    (broken : ¬ (8 ≤ file.bytes.length ∧ AttHeader.Valid (.stored 8 file.bytes 0))) :
    ((recordHeaderGetSet header getRecord).run file).1.1 = -1 := by
  by_cases inside : 8 ≤ file.bytes.length
  · have fetched := @fdRecordHeaderGetSet_get file.bytes 0 file.full header inside
    rw [if_neg fun valid => broken ⟨inside, valid⟩] at fetched
    simp [recordHeaderGetSet, fetched]
  · have few : (file.content.getD []).length < 8 := Nat.lt_of_not_le inside
    have short : ((file.content.getD []).take 8).length ≠ 8 := by
      rw [List.length_take]
      omega
    simp only [recordHeaderGetSet, fdRecordHeaderGetSet, FileProg.run_bind, FileProg.run_openCreate,
      FileProg.run_lseek (show 0 < 2 ^ 31 by decide), FileProg.run_read, FileState.bytes,
        Option.getD_some, grow_zero,
      List.drop_zero, ↓reduceIte, FileProg.run_pure, short, ne_eq, not_false_eq_true]

theorem serverAttGet_isSome_iff (sized : server.Sized) (working : io.faults = []) :
    ((serverAttGet pData server).run io).1.isSome ↔
      AttGetFits io.attendance.bytes (pData.num 1 2) := by
  unfold serverAttGet AttGetFits
  simp only [run_bind, run_onAttendance, working, FileProg.attempt_ok]
  by_cases intact : 8 ≤ io.attendance.bytes.length ∧
    AttHeader.Valid (.stored 8 io.attendance.bytes 0)
  · obtain ⟨inside, valid⟩ := intact
    rw [recordHeaderGet_intact server.attHeader inside valid]
    simp only [inside, valid, forall_const, ne_eq, not_true_eq_false, ↓reduceIte, run_bind,
      run_onAttendance,
      FileProg.attempt_ok]
    generalize io.attendance.bytes = bytes at *
    constructor
    · intro served
      by_contra exceeds
      rw [attRecordGet_overrun inside valid (by rw [sized.attInfo]; omega) (by omega)] at served
      cases served
    · intro fits
      obtain ⟨stored, got, ran, size, few⟩ :=
        attRecordGet_served inside valid (by rw [sized.attInfo]; decide)
        (by rwa [sized.attInfo]) 8 io.attendance.full
      rw [ran]
      apply Server.replyEntries_isSome
      rw [length_entries, List.length_take]
      rw [sized.attInfo] at size few
      omega
  · have failed := recordHeaderGet_broken server.attHeader intact
    simp only [failed]
    refine iff_of_true ?_ fun inside valid => absurd ⟨inside, valid⟩ intact
    exact Server.refuse_isSome _ _

end Records

/-! ## CRCs of users -/

theorem serverUserCrcGet_isSome_iff {pData : ServerData} {server : Server} {io : ServerIo}
    (sized : server.Sized) (working : io.faults = []) :
    ((serverUserCrcGet pData server).run io).1.isSome ↔
      UserCrcGetFits io.member (pData.num 1 2) (pData.num 3 2) := by
  obtain ⟨⟨content, pos, full⟩, attendance, faults, clock, replies⟩ := io
  cases working
  unfold serverUserCrcGet UserCrcGetFits
  simp only [run_bind, run_onMember, FileProg.attempt_ok]
  rcases ran : userNumGet.run ⟨content, pos, full⟩ with ⟨counted, file⟩
  cases counted with
  | none =>
    refine iff_of_true (Server.refuse_isSome _ _) fun _ _ same => ?_
    cases same
  | some count =>
    obtain ⟨userNum, userIdMax⟩ := count
    simp only [run_bind, run_onMember, FileProg.attempt_ok]
    have counted : (userNumGet.run ⟨content, pos, full⟩).1 = some (userNum, userIdMax) :=
      congrArg Prod.fst ran
    obtain ⟨largest, bytes, pos', rfl, kept, again⟩ := userNumGet_keeps counted
    have same : file = ⟨some bytes, pos', full⟩ := (congrArg Prod.snd ran).symm.trans kept
    subst same
    have recounted : (userNumGet.run ⟨some bytes, pos', full⟩).1 = some (userNum, userIdMax) :=
      congrArg Prod.fst (again pos')
    generalize pData.num 1 2 = start, pData.num 3 2 = num
    have held : FileState.bytes ⟨some bytes, pos, full⟩ = bytes := rfl
    rw [held]
    constructor
    · intro served userNum' userIdMax' same positive inside
      cases same
      by_contra exceeds
      rw [userCrcGet_overrun recounted positive inside (by rw [sized.userCrc]; omega)
        (by rw [sized.userCrc]; omega)] at served
      cases served
    · intro fits
      obtain ⟨got, stored, crcs, size, few⟩ :=
        @userCrcGet_served pos' full (some bytes) userNum userIdMax start num
        server.userCrc recounted (by rw [sized.userCrc]; exact fits userNum userIdMax rfl)
      rw [crcs]
      cases got with
      | none => exact Server.refuse_isSome _ _
      | some count =>
        apply Server.replyEntries_isSome
        have bound := few count rfl
        rw [length_entries, List.length_take]
        rw [sized.userCrc] at size bound
        omega

/-! ## A whole command -/

/-- The data that a command asks for fits in the static arrays. -/
def ServerCmd.DataFits (cmd : ServerCmd) (pData : ServerData) (io : ServerIo) : Prop :=
  match cmd with
  | attGet => AttGetFits io.attendance.bytes (pData.num 1 2)
  | userCrcGet => UserCrcGetFits io.member (pData.num 1 2) (pData.num 3 2)
  | userAdd | userDel | connect | timesync | listReload | attDel => True

/-- A request for data is handled inside the static arrays exactly when the data fits. -/
theorem dataProcess_inBounds_iff (lib : CardSearch) (stationAddr : Image 6) (pData : ServerData)
    (server : Server) (io : ServerIo) (cmd : ServerCmd)
    (asked : ServerCmd.ofByte (pData.byte 0) = some cmd) (reads : cmd = .attGet ∨ cmd = .userCrcGet)
    (intact : pData.IntactAt cmd.crcLenth) (sized : server.Sized) (working : io.faults = []) :
    ((dataProcess lib stationAddr pData server).run io).1.isSome ↔ cmd.DataFits pData io := by
  have headed : (server.withHead stationAddr (pData.byte 0)).Sized := ⟨sized.attInfo, sized.userCrc⟩
  unfold dataProcess
  simp only [asked, if_pos intact]
  rcases reads with rfl | rfl
  · exact serverAttGet_isSome_iff headed working
  · exact serverUserCrcGet_isSome_iff headed working

/-- A log of eleven records. -/
def elevenRecords : List Byte :=
  (AttHeader.withCrc (.setTotal (.zero 8) 11)).bytes ++ List.replicate 583 0#8

theorem header_elevenRecords :
    Image.stored 8 elevenRecords 0 = AttHeader.withCrc (.setTotal (.zero 8) 11) := by
  apply Image.ext
  have whole := window_all (AttHeader.withCrc (.setTotal (.zero 8) 11)).bytes
  rw [Image.size] at whole
  exact (window_append_left (by rw [Image.size])).trans whole

theorem length_elevenRecords : elevenRecords.length = 8 + 53 * 11 := by
  rw [elevenRecords, List.length_append, Image.size, List.length_replicate]

/-- Ten of the eleven records fit. -/
theorem dataProcess_inBounds_ten : ((dataProcess (.reference cardCompar_consistent) (.zero 6)
    (serverFrame 5#8 [10#8, 0#8]) .initial).run
      (.fresh none (some elevenRecords) [])).1.isSome := by
  have fits : [10#8, 0#8].length + 5 ≤ 5097 := by decide
  have asked : ServerCmd.ofByte ((serverFrame 5#8 [10#8, 0#8]).byte 0) = some .attGet := by
    rw [byte_serverFrame fits]
    rfl
  have num : (serverFrame 5#8 [10#8, 0#8]).num 1 2 = 10 :=
    (num_serverFrame fits (by decide)).trans rfl
  refine (dataProcess_inBounds_iff _ _ _ _ _ .attGet asked (.inl rfl) (intact_serverFrame fits)
    Server.sized_initial rfl).mpr ?_
  intro inside valid
  rw [num]
  exact .inl (Nat.min_le_left ..)

/-- The documented limit of 18 records runs over the ten entries. -/
theorem dataProcess_overrun : ¬ ((dataProcess (.reference cardCompar_consistent) (.zero 6)
    (serverFrame 5#8 [18#8, 0#8]) .initial).run
      (.fresh none (some elevenRecords) [])).1.isSome := by
  have fits : [18#8, 0#8].length + 5 ≤ 5097 := by decide
  have asked : ServerCmd.ofByte ((serverFrame 5#8 [18#8, 0#8]).byte 0) = some .attGet := by
    rw [byte_serverFrame fits]
    rfl
  have intact : (serverFrame 5#8 [18#8, 0#8]).IntactAt ServerCmd.attGet.crcLenth :=
    intact_serverFrame fits
  have num : (serverFrame 5#8 [18#8, 0#8]).num 1 2 = 18 :=
    (num_serverFrame fits (by decide)).trans rfl
  have total : AttHeader.total (.stored 8 elevenRecords 0) = 11 := by
    rw [header_elevenRecords]
    exact AttHeader.total_setTotal _ (by decide)
  have valid : AttHeader.Valid (.stored 8 elevenRecords 0) := by
    rw [header_elevenRecords]
    exact AttHeader.valid_withCrc _
  unfold dataProcess
  simp only [asked, if_pos intact]
  intro served
  have held : AttGetFits elevenRecords ((serverFrame 5#8 [18#8, 0#8]).num 1 2) :=
    (serverAttGet_isSome_iff ⟨rfl, rfl⟩ rfl).mp served
  rw [num] at held
  have either := held (by rw [length_elevenRecords]; decide) valid
  rw [total, length_elevenRecords] at either
  omega

end WifiAccess

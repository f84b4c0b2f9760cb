import WifiAccess.Server.Current
import WifiAccess.Server.Static

/-! Which replies are made of the frame, the files and the outcomes of the calls on them
alone, whatever commands came before. -/

namespace WifiAccess

open ServerProg

/-- The sizes of all static arrays. -/
structure Server.Shaped (server : Server) : Prop extends server.Sized where
  list : server.list.length = 200

/-- The servers that commands have left behind. -/
inductive ServerHistory (lib : CardSearch) (stationAddr : Image 6) : Server → Prop where
  | initial : ServerHistory lib stationAddr .initial
  | frame {server next : Server} (before : ServerHistory lib stationAddr server)
      (pData : ServerData) (io : ServerIo)
      (handled : ((dataProcess lib stationAddr pData server).run io).1 = some next) :
      ServerHistory lib stationAddr next

/-- The header or the records cannot be read. -/
def AttGetRefused (pData : ServerData) (io : ServerIo) : Prop :=
  let header := (recordHeaderGetSet (.zero 8) getRecord).attempt io.attendance io.faults
  header.1.1 ≠ 0 ∨ ∃ status attInfo attNum,
    ((attRecordGet (List.replicate 10 (.zero 53)) (pData.num 1 2)).attempt header.2.1
      header.2.2).1 =
      some (status, attInfo, attNum) ∧ status ≠ 0

/-- The users cannot be counted, or their CRCs cannot be read. -/
def UserCrcGetRefused (pData : ServerData) (io : ServerIo) : Prop :=
  let counted := userNumGet.attempt io.member io.faults
  counted.1 = none ∨ ∃ userCrc,
    ((userCrcGet (List.replicate 100 (.zero 4)) (pData.num 1 2) (pData.num 3 2)).attempt counted.2.1
      counted.2.2).1 =
      some (none, userCrc)

/-- A request for data that fails. -/
def ServerCmd.Refused (cmd : ServerCmd) (pData : ServerData) (io : ServerIo) : Prop :=
  match cmd with
  | attGet => ¬ pData.IntactAt cmd.crcLenth ∨ AttGetRefused pData io
  | userCrcGet => ¬ pData.IntactAt cmd.crcLenth ∨ UserCrcGetRefused pData io
  | userAdd | userDel | connect | timesync | listReload | attDel => False

def Refused (pData : ServerData) (io : ServerIo) : Prop :=
  ∃ cmd, ServerCmd.ofByte (pData.byte 0) = some cmd ∧ cmd.Refused pData io

/-! ## Two servers with one frame -/

/-- Two servers that have begun a reply. -/
structure Headed (off : Nat) (first second : Server) : Prop where
  left : first.Shaped
  right : second.Shaped
  head : first.buf.field 0 off = second.buf.field 0 off

/-- The answers of two servers, which are the same unless the command is refused. -/
inductive SameAnswer (refused : Prop) :
    Option Server × ServerIo → Option Server × ServerIo → Prop where
  | overrun {io io' : ServerIo} (same : ¬ refused → io = io') : SameAnswer refused
    (none, io) (none, io')
  | answered {first second : Server} {io io' : ServerIo} (left : first.Shaped)
      (right : second.Shaped) (same : ¬ refused → io = io') :
      SameAnswer refused (some first, io) (some second, io')

theorem Server.Shaped.withBuf {server : Server} (shaped : server.Shaped) (buf : Image 1024) :
    (server.withBuf buf).Shaped :=
  ⟨shaped.toSized.withBuf buf, shaped.list⟩

section Answers

variable {refused : Prop} {first second : Server} {off : Nat}

/-- More of the reply. -/
theorem Headed.put (headed : Headed off first second) (bytes : List Byte)
    (inside : off + bytes.length ≤ 1024) :
    Headed (off + bytes.length) (first.withBuf (first.buf.put off bytes))
      (second.withBuf (second.buf.put off bytes)) := by
  refine ⟨headed.left.withBuf _, headed.right.withBuf _, ?_⟩
  rw [Server.withBuf, Server.withBuf, Image.field_put_behind _ inside,
    Image.field_put_behind _ inside, headed.head]

theorem headed_withHead (left : first.Shaped) (right : second.Shaped) (stationAddr : Image 6)
    (cmd : Byte) :
    Headed 13 (first.withHead stationAddr cmd) (second.withHead stationAddr cmd) := by
  have begun : Headed 0 first second := ⟨left, right, rfl⟩
  have destination := begun.put (List.replicate 6 0#8) (by decide)
  have own := destination.put stationAddr.bytes (by rw [Image.size]; decide)
  rw [List.length_replicate, stationAddr.size] at own
  exact own.put [cmd] (by simp)

theorem reply_same (headed : Headed 13 first second) (status result : Byte) (io : ServerIo) :
    SameAnswer refused ((first.reply status result).run io)
      ((second.reply status result).run io) := by
  have whole := (headed.put [status] (by simp)).put [result] (by simp)
  refine .answered whole.left whole.right fun _ => ?_
  have same : Image.field ((first.buf.put 13 [status]).put 14 [result]) 0 15 =
    Image.field ((second.buf.put 13 [status]).put 14 [result]) 0 15 := whole.head
  exact congrArg (fun data => { io with replies := io.replies ++ [data] }) same

theorem refuse_same (left : first.Shaped) (right : second.Shaped) (refuses : refused)
    (io io' : ServerIo) :
    SameAnswer refused (first.refuse.run io) (second.refuse.run io') :=
  .answered (left.withBuf _) (right.withBuf _) fun other => absurd refuses other

theorem replyEntries_same (headed : Headed off first second) (behind : 6 ≤ off)
    (entries : List Byte) (io : ServerIo) :
    SameAnswer refused ((first.replyEntries off entries).run io)
      ((second.replyEntries off entries).run io) := by
  rw [Server.replyEntries, Server.replyEntries, ServerProg.run_ite, ServerProg.run_ite]
  by_cases inside : off + entries.length + 4 ≤ 1024
  · rw [if_pos inside, if_pos inside]
    have filled := headed.put entries (by omega)
    have crc : (first.buf.put off entries).field 6 (off - 6 + entries.length) =
        (second.buf.put off entries).field 6 (off - 6 + entries.length) :=
          field_alike filled.head (by omega)
    have whole :=
      filled.put
        (leBytes 4 (blockCrcCalc ((second.buf.put off entries).field 6 (off - 6 + entries.length))))
      (by rw [length_leBytes]; omega)
    rw [length_leBytes] at whole
    simp only [crc]
    exact .answered whole.left whole.right fun _ =>
      congrArg (fun data => { io with replies := io.replies ++ [data] }) whole.head
  · rw [if_neg inside, if_neg inside]
    exact .overrun fun _ => rfl

end Answers

/-! ## Each command -/

section Commands

variable {first second : Server} {pData : ServerData} {refused : Prop}

theorem Server.Shaped.withUserInfo {server : Server} (shaped : server.Shaped)
    (userInfo : UserInfo) :
    Server.Shaped { server with userInfo := userInfo } :=
  ⟨⟨shaped.attInfo, shaped.userCrc⟩, shaped.list⟩

theorem status_same (headed : Headed 13 first second) (failed : Prop) [Decidable failed]
    (io : ServerIo) :
    SameAnswer refused
      ((if failed then first.reply 1#8 serverNack else first.reply 0#8 serverAck : ServerProg
        (Option Server)).run io)
      ((if failed then second.reply 1#8 serverNack else second.reply 0#8 serverAck : ServerProg
        (Option Server)).run io) := by
  rw [run_ite, run_ite]
  split
  · exact reply_same headed ..
  · exact reply_same headed ..

theorem serverUserDel_same (headed : Headed 13 first second) (io : ServerIo) :
    SameAnswer refused ((serverUserDel pData first).run io)
      ((serverUserDel pData second).run io) := by
  have bound : pData.num 1 2 < 2 ^ 16 := Image.num_lt ..
  have sameId : (first.userInfo.setUserId (pData.num 1 2)).userId =
      (second.userInfo.setUserId (pData.num 1 2)).userId := by
    rw [UserInfo.userId_setUserId _ bound, UserInfo.userId_setUserId _ bound]
  obtain ⟨related, left⟩ :=
    (addDelGetOneUser_alike sameId).run FileState.attempt (io.member, io.faults)
  simp only [serverUserDel, run_bind, run_onMember, FileProg.attempt]
  rw [related, left]
  have kept : Headed 13
      { first with userInfo :=
        (Prog.run FileState.attempt
        (addDelGetOneUser (first.userInfo.setUserId (pData.num 1 2)) delOneUser)
        (io.member, io.faults)).1.2 }
      { second with userInfo :=
        (Prog.run FileState.attempt
        (addDelGetOneUser (second.userInfo.setUserId (pData.num 1 2)) delOneUser)
        (io.member, io.faults)).1.2 } :=
          ⟨headed.left.withUserInfo _, headed.right.withUserInfo _, headed.head⟩
  exact status_same kept _ _

theorem serverListReload_same (lib : CardSearch) (headed : Headed 13 first second) (io : ServerIo) :
    SameAnswer refused ((serverListReload lib first).run io)
      ((serverListReload lib second).run io) := by
  obtain ⟨related, left⟩ :=
    (cardArrayInit_alike lib headed.left.list headed.right.list).run FileState.attempt
    (io.member, io.faults)
  simp only [serverListReload, run_bind, run_onMember, FileProg.attempt]
  rw [left]
  generalize (Prog.run FileState.attempt (cardArrayInit lib first.list) (io.member, io.faults)).1 =
    one at related ⊢
  generalize (Prog.run FileState.attempt (cardArrayInit lib second.list) (io.member, io.faults)).1 =
    two at related ⊢
  cases related with
  | past => exact .overrun fun _ => rfl
  | @returned stored stored' status list list' =>
    have kept : Headed 13 { first with list := stored } { second with list := stored' } :=
      ⟨⟨⟨headed.left.attInfo, headed.left.userCrc⟩, list⟩,
        ⟨⟨headed.right.attInfo, headed.right.userCrc⟩, list'⟩, headed.head⟩
    exact status_same kept _ _

end Commands

/-! ## What the calls for data give -/

section Outcomes

variable (file : FileState) (faults : List Bool)

theorem recordHeaderGet_outcome :
    (∃ status next, status ≠ 0 ∧ ∀ attHeader, ∃ header,
      (recordHeaderGetSet attHeader getRecord).attempt file faults = ((status, header), next)) ∨
    ∃ header next, ∀ attHeader, (recordHeaderGetSet attHeader getRecord).attempt file faults =
      ((0, header), next) := by
  have alike (attHeader : AttHeader) :=
    (recordHeaderGet_alike (.zero 8) attHeader).run FileState.attempt (file, faults)
  rcases ran : (recordHeaderGetSet (.zero 8) getRecord).attempt file faults
    with ⟨⟨status, header⟩, next⟩
  simp only [FileProg.attempt] at ran
  simp only [ran] at alike
  by_cases read : status = 0
  · subst read
    refine .inr ⟨header, next, fun attHeader => ?_⟩
    obtain ⟨⟨same, filled⟩, left⟩ := alike attHeader
    exact Prod.ext (Prod.ext same.symm (filled rfl).symm) left.symm
  · refine .inl ⟨status, next, read, fun attHeader => ?_⟩
    obtain ⟨⟨same, _⟩, left⟩ := alike attHeader
    exact ⟨((recordHeaderGetSet attHeader getRecord).attempt file faults).1.2,
      Prod.ext (Prod.ext same.symm rfl) left.symm⟩

/-- The records that `att_record_get` counts, in an array of `size`. -/
theorem attRecordGet_outcome (size lenth : Nat) :
    (∃ next, ∀ attInfo : List AttInfo, attInfo.length = size →
      (attRecordGet attInfo lenth).attempt file faults = (none, next)) ∨
    ∃ status attNum entries next, ∀ attInfo : List AttInfo, attInfo.length = size →
      ∃ stored, stored.length = size ∧
      stored.take attNum = entries ∧ (attRecordGet attInfo lenth).attempt file faults =
        (some (status, stored, attNum), next) := by
  have blank : (List.replicate size (.zero 53) : List AttInfo).length = size :=
    List.length_replicate
  have alike (attInfo : List AttInfo) (sized : attInfo.length = size) :=
    (attRecordGet_alike blank sized lenth).run FileState.attempt (file, faults)
  rcases ran : (attRecordGet (List.replicate size (.zero 53)) lenth).attempt file faults
    with ⟨got, next⟩
  simp only [FileProg.attempt] at ran
  simp only [ran] at alike
  cases got with
  | none =>
    refine .inl ⟨next, fun attInfo sized => ?_⟩
    obtain ⟨related, left⟩ := alike attInfo sized
    generalize same : (Prog.run FileState.attempt (attRecordGet attInfo lenth) (file, faults)).1 =
      other at related
    cases related with
    | past => exact Prod.ext same left.symm
  | some got =>
    obtain ⟨status, stored, attNum⟩ := got
    refine .inr ⟨status, attNum, stored.take attNum, next, fun attInfo sized => ?_⟩
    obtain ⟨related, left⟩ := alike attInfo sized
    generalize same : (Prog.run FileState.attempt (attRecordGet attInfo lenth) (file, faults)).1 =
      other at related
    cases related with
    | loaded agree => exact ⟨_, agree.right, agree.front.symm, Prod.ext same left.symm⟩

/-- The CRCs that `user_crc_get` counts, in an array of `size`. -/
theorem userCrcGet_outcome (size start num : Nat) :
    (∃ next, ∀ userCrc : List (Image 4), userCrc.length = size →
      (userCrcGet userCrc start num).attempt file faults = (none, next)) ∨
    (∃ next, ∀ userCrc : List (Image 4), userCrc.length = size →
      ∃ stored : List (Image 4), stored.length = size ∧
      (userCrcGet userCrc start num).attempt file faults = (some (none, stored), next)) ∨
    ∃ count entries next, ∀ userCrc : List (Image 4), userCrc.length = size →
      ∃ stored, stored.length = size ∧
      stored.take count = entries ∧ (userCrcGet userCrc start num).attempt file faults =
        (some (some count, stored), next) := by
  have blank : (List.replicate size (.zero 4) : List (Image 4)).length = size :=
    List.length_replicate
  have alike (userCrc : List (Image 4)) (sized : userCrc.length = size) :=
    (userCrcGet_alike blank sized start num).run FileState.attempt (file, faults)
  rcases ran : (userCrcGet (List.replicate size (.zero 4)) start num).attempt file faults
    with ⟨got, next⟩
  simp only [FileProg.attempt] at ran
  simp only [ran] at alike
  rcases got with _ | ⟨_ | count, stored⟩
  · refine .inl ⟨next, fun userCrc sized => ?_⟩
    obtain ⟨related, left⟩ := alike userCrc sized
    generalize same : (Prog.run FileState.attempt (userCrcGet userCrc start num) (file, faults)).1 =
      other at related
    cases related with
    | past => exact Prod.ext same left.symm
  · refine .inr (.inl ⟨next, fun userCrc sized => ?_⟩)
    obtain ⟨related, left⟩ := alike userCrc sized
    generalize same : (Prog.run FileState.attempt (userCrcGet userCrc start num) (file, faults)).1 =
      other at related
    cases related with
    | failed agree => exact ⟨_, agree.right, Prod.ext same left.symm⟩
  · refine .inr (.inr ⟨count, stored.take count, next, fun userCrc sized => ?_⟩)
    obtain ⟨related, left⟩ := alike userCrc sized
    generalize same : (Prog.run FileState.attempt (userCrcGet userCrc start num) (file, faults)).1 =
      other at related
    cases related with
    | loaded agree => exact ⟨_, agree.right, agree.front.symm, Prod.ext same left.symm⟩

end Outcomes

/-! ## Requests for data -/

/-- A request that all servers refuse, or that none does. -/
inductive Requested (refused : Prop) (serve : Server → ServerProg (Option Server)) (io : ServerIo) :
    Prop where
  | refused (refuses : refused) (io' : ServerIo) (unsent : io'.replies = io.replies)
      (each : ∀ server : Server, server.Shaped → ∃ server' : Server, server'.Shaped ∧
        server'.buf = server.buf ∧ (serve server).run io = server'.refuse.run io')
  | served (serves : ¬ refused)
      (each : ∀ first second, Headed 13 first second →
        SameAnswer refused ((serve first).run io) ((serve second).run io))

section Requests

variable {refused : Prop} {serve : Server → ServerProg (Option Server)} {pData : ServerData}
  {io : ServerIo}

theorem Requested.same (requested : Requested refused serve io) {first second : Server}
    (headed : Headed 13 first second) :
    SameAnswer refused ((serve first).run io) ((serve second).run io) := by
  cases requested with
  | refused refuses io' _ each =>
    obtain ⟨one, left, _, ran⟩ := each first headed.left
    obtain ⟨two, right, _, ran'⟩ := each second headed.right
    rw [ran, ran']
    exact refuse_same left right refuses io' io'
  | served _ each => exact each first second headed

/-- The bytes behind the status are those that were there. -/
theorem Requested.reply (requested : Requested refused serve io) (refuses : refused)
    {server : Server} (shaped : server.Shaped) :
    ((serve server).run io).2.replies = io.replies ++
      [(server.buf.put 13 [serverNack]).field 0 22] := by
  cases requested with
  | refused _ io' unsent each =>
    obtain ⟨server', _, kept, ran⟩ := each server shaped
    rw [ran, ← unsent, ← kept]
    rfl
  | served serves _ => exact absurd refuses serves

theorem serverAttGet_requested : Requested (AttGetRefused pData io) (serverAttGet pData) io := by
  have filled {server : Server} (shaped : server.Shaped) (header : AttHeader)
      {stored : List AttInfo} (size : stored.length = 10) :
    Server.Shaped { server with attHeader := header, attInfo := stored } :=
      ⟨⟨size, shaped.userCrc⟩, shaped.list⟩
  have blank : (List.replicate 10 (.zero 53) : List AttInfo).length = 10 := List.length_replicate
  rcases recordHeaderGet_outcome io.attendance io.faults
    with ⟨status, next, failed, each⟩ | ⟨header, next, each⟩
  · have refuses : AttGetRefused pData io := by
      obtain ⟨header, ran⟩ := each (.zero 8)
      refine .inl ?_
      rw [ran]
      exact failed
    refine .refused refuses { io with attendance := next.1, faults := next.2 } rfl
      fun server shaped => ?_
    obtain ⟨header, ran⟩ := each server.attHeader
    refine ⟨{ server with attHeader := header }, filled shaped header shaped.attInfo, rfl, ?_⟩
    simp only [serverAttGet, run_bind, run_onAttendance, ran, if_pos failed]
  have refused_iff : AttGetRefused pData io ↔ ∃ status attInfo attNum,
      ((attRecordGet (List.replicate 10 (.zero 53)) (pData.num 1 2)).attempt next.1 next.2).1 =
        some (status, attInfo, attNum) ∧ status ≠ 0 := by
    unfold AttGetRefused
    simp only [each, ne_eq, not_true_eq_false, false_or]
  rcases attRecordGet_outcome next.1 next.2 10 (pData.num 1 2)
    with ⟨last, past⟩ | ⟨status, attNum, entries, last, loaded⟩
  · have serves : ¬ AttGetRefused pData io := by
      rw [refused_iff, past _ blank]
      rintro ⟨status, attInfo, attNum, some, failed⟩
      cases some
    refine .served serves fun first second headed => ?_
    simp only [serverAttGet, run_bind, run_onAttendance, each, ne_eq, not_true_eq_false, ↓reduceIte,
      past _ headed.left.attInfo, past _ headed.right.attInfo]
    exact .overrun fun _ => rfl
  by_cases read : status = 0
  · have serves : ¬ AttGetRefused pData io := by
      obtain ⟨stored, _, _, ran⟩ := loaded _ blank
      rw [refused_iff, ran]
      rintro ⟨status', attInfo, attNum', same, failed⟩
      cases same
      exact failed read
    refine .served serves fun first second headed => ?_
    obtain ⟨one, left, taken, ran⟩ := loaded _ headed.left.attInfo
    obtain ⟨two, right, taken', ran'⟩ := loaded _ headed.right.attInfo
    simp only [serverAttGet, run_bind, run_onAttendance, each, ran, ran', read, taken, taken',
      ne_eq, not_true_eq_false,
      ↓reduceIte]
    have kept : Headed 13 { first with attHeader := header, attInfo := one }
        { second with attHeader := header, attInfo := two } :=
      ⟨filled headed.left header left, filled headed.right header right, headed.head⟩
    have acked := kept.put [serverAck] (by decide)
    have counted :=
      (acked.put (header.field 0 4) (by rw [Image.length_field]; decide)).put (leBytes 2 attNum)
      (by rw [Image.length_field, length_leBytes]; decide)
    rw [Image.length_field, length_leBytes] at counted
    exact replyEntries_same counted (by decide) _ _
  · have refuses : AttGetRefused pData io := by
      obtain ⟨stored, _, _, ran⟩ := loaded _ blank
      refine refused_iff.mpr ⟨status, stored, attNum, ?_, read⟩
      rw [ran]
    refine .refused refuses { io with attendance := last.1, faults := last.2 } rfl
      fun server shaped => ?_
    obtain ⟨stored, size, _, ran⟩ := loaded _ shaped.attInfo
    refine ⟨{ server with attHeader := header, attInfo := stored },
      filled shaped header size, rfl, ?_⟩
    simp only [serverAttGet, run_bind, run_onAttendance, each, ran, read, ne_eq, not_true_eq_false,
      not_false_eq_true,
      ↓reduceIte]

theorem serverUserCrcGet_requested :
    Requested (UserCrcGetRefused pData io) (serverUserCrcGet pData) io := by
  have filled {server : Server} (shaped : server.Shaped) {stored : List (Image 4)}
      (size : stored.length = 100) :
    Server.Shaped { server with userCrc := stored } := ⟨⟨shaped.attInfo, size⟩, shaped.list⟩
  have blank : (List.replicate 100 (.zero 4) : List (Image 4)).length = 100 := List.length_replicate
  rcases counted : userNumGet.attempt io.member io.faults with ⟨count, next⟩
  cases count with
  | none =>
    have refuses : UserCrcGetRefused pData io := .inl (by rw [counted])
    refine .refused refuses { io with member := next.1, faults := next.2 } rfl fun server shaped =>
      ?_
    refine ⟨server, shaped, rfl, ?_⟩
    simp only [serverUserCrcGet, run_bind, run_onMember, counted]
  | some count =>
    obtain ⟨userNum, userIdMax⟩ := count
    have refused_iff : UserCrcGetRefused pData io ↔ ∃ userCrc,
        ((userCrcGet (List.replicate 100 (.zero 4)) (pData.num 1 2) (pData.num 3 2)).attempt
          next.1 next.2).1 =
          some (none, userCrc) := by
      unfold UserCrcGetRefused
      simp only [counted, reduceCtorEq, false_or]
    rcases userCrcGet_outcome next.1 next.2 100 (pData.num 1 2) (pData.num 3 2) with
      ⟨last, past⟩ | ⟨last, failed⟩ | ⟨count, entries, last, loaded⟩
    · have serves : ¬ UserCrcGetRefused pData io := by
        rw [refused_iff, past _ blank]
        rintro ⟨userCrc, some⟩
        cases some
      refine .served serves fun first second headed => ?_
      simp only [serverUserCrcGet, run_bind, run_onMember, counted, past _ headed.left.userCrc,
        past _ headed.right.userCrc]
      exact .overrun fun _ => rfl
    · have refuses : UserCrcGetRefused pData io := by
        obtain ⟨stored, _, ran⟩ := failed _ blank
        refine refused_iff.mpr ⟨stored, ?_⟩
        rw [ran]
      refine .refused refuses { io with member := last.1, faults := last.2 } rfl
        fun server shaped => ?_
      obtain ⟨stored, size, ran⟩ := failed _ shaped.userCrc
      refine ⟨{ server with userCrc := stored }, filled shaped size, rfl, ?_⟩
      simp only [serverUserCrcGet, run_bind, run_onMember, counted, ran]
    · have serves : ¬ UserCrcGetRefused pData io := by
        obtain ⟨stored, _, _, ran⟩ := loaded _ blank
        rw [refused_iff, ran]
        rintro ⟨userCrc, same⟩
        cases same
      refine .served serves fun first second headed => ?_
      obtain ⟨one, left, taken, ran⟩ := loaded _ headed.left.userCrc
      obtain ⟨two, right, taken', ran'⟩ := loaded _ headed.right.userCrc
      simp only [serverUserCrcGet, run_bind, run_onMember, counted, ran, ran', taken, taken']
      have kept : Headed 13 { first with userCrc := one } { second with userCrc := two } :=
        ⟨filled headed.left left, filled headed.right right, headed.head⟩
      have acked := kept.put [serverAck] (by decide)
      have both :=
        (acked.put (leBytes 2 userIdMax) (by rw [length_leBytes]; decide)).put (leBytes 2 count)
        (by rw [length_leBytes, length_leBytes]; decide)
      rw [length_leBytes, length_leBytes] at both
      exact replyEntries_same both (by decide) _ _

end Requests

/-! ## A whole frame -/

theorem SameAnswer.mono {refused wider : Prop} {one two : Option Server × ServerIo}
    (answers : SameAnswer refused one two) (sub : refused → wider) : SameAnswer wider one two := by
  cases answers with
  | overrun same => exact .overrun fun serves => same (mt sub serves)
  | answered left right same => exact .answered left right fun serves => same (mt sub serves)

section Frames

variable {lib : CardSearch} {stationAddr : Image 6} {pData : ServerData} {io : ServerIo}

theorem Server.Shaped.withHead {server : Server} (shaped : server.Shaped) (stationAddr : Image 6)
    (cmd : Byte) :
    (server.withHead stationAddr cmd).Shaped := shaped.withBuf _

theorem dataProcess_same {first second : Server} (left : first.Shaped) (right : second.Shaped) :
    SameAnswer (Refused pData io) ((dataProcess lib stationAddr pData first).run io)
      ((dataProcess lib stationAddr pData second).run io) := by
  unfold dataProcess
  have headed := headed_withHead left right stationAddr (pData.byte 0)
  cases asked : ServerCmd.ofByte (pData.byte 0) with
  | none => exact .answered left right fun _ => rfl
  | some cmd =>
    by_cases intact : pData.IntactAt cmd.crcLenth
    · simp only [if_pos intact]
      cases cmd with
      | userAdd =>
        simp only [ServerCmd.execute, serverUserAdd, run_bind, run_onMember]
        exact status_same headed _ _
      | userDel => exact serverUserDel_same headed io
      | connect => exact reply_same headed 0#8 serverAck io
      | timesync =>
        simp only [ServerCmd.execute, serverTimesync, run_bind, run_timeInit]
        have timed (time : TimeValue) : Headed 13
            { first.withHead stationAddr (pData.byte 0) with time := time }
            { second.withHead stationAddr (pData.byte 0) with time := time } :=
          ⟨⟨⟨left.attInfo, left.userCrc⟩, left.list⟩,
            ⟨⟨right.attInfo, right.userCrc⟩, right.list⟩, headed.head⟩
        exact reply_same (timed _) 0#8 serverAck _
      | attGet => exact (serverAttGet_requested.same headed).mono fun refuses =>
        ⟨.attGet, asked, .inr refuses⟩
      | listReload => exact serverListReload_same lib headed io
      | attDel =>
        simp only [ServerCmd.execute, serverAttDel, run_bind, run_onAttendance]
        exact status_same headed _ _
      | userCrcGet =>
        exact (serverUserCrcGet_requested.same headed).mono fun refuses =>
          ⟨.userCrcGet, asked, .inr refuses⟩
    · simp only [if_neg intact]
      cases cmd with
      | attGet => exact refuse_same headed.left headed.right ⟨.attGet, asked, .inl intact⟩ io io
      | userCrcGet => exact refuse_same headed.left headed.right ⟨.userCrcGet,
        asked, .inl intact⟩ io io
      | userAdd | userDel | connect | timesync | listReload | attDel =>
        exact reply_same headed 0#8 serverNack io

theorem refused_reply {server : Server} (refuses : Refused pData io) (shaped : server.Shaped) :
    ((dataProcess lib stationAddr pData server).run io).2.replies =
      io.replies ++ [((server.withHead stationAddr (pData.byte 0)).buf.put 13 [serverNack]).field 0
        22] := by
  obtain ⟨cmd, asked, failed⟩ := refuses
  have headed := shaped.withHead stationAddr (pData.byte 0)
  simp only [dataProcess, asked]
  by_cases intact : pData.IntactAt cmd.crcLenth
  · rw [if_pos intact]
    cases cmd with
    | attGet => exact serverAttGet_requested.reply (failed.resolve_left (not_not.mpr intact)) headed
    | userCrcGet =>
      exact serverUserCrcGet_requested.reply (failed.resolve_left (not_not.mpr intact)) headed
    | userAdd | userDel | connect | timesync | listReload | attDel => cases failed
  · rw [if_neg intact]
    cases cmd with
    | attGet | userCrcGet => rfl
    | userAdd | userDel | connect | timesync | listReload | attDel => cases failed

/-- Byte 14 of a refusal is the one that the last reply left. -/
theorem refused_stale {server : Server} (refuses : Refused pData io) (shaped : server.Shaped) :
    ∃ reply, ((dataProcess lib stationAddr pData server).run io).2.replies = io.replies ++ [reply] ∧
      reply.getD 14 0#8 = server.buf.byte 14 := by
  refine ⟨_, refused_reply refuses shaped, ?_⟩
  rw [Image.byte_field (by decide), Image.byte_put_within _ _ _ (by decide), if_neg (by simp)]
  rw [Server.withHead, Server.withBuf, Image.byte_put_within _ _ _ (by decide), if_neg (by simp)]
  rw [Image.byte_put_within _ _ _ (by decide), if_neg (by rw [stationAddr.size]; decide)]
  rw [Image.byte_put_within _ _ _ (by decide), if_neg (by rw [List.length_replicate]; decide)]

theorem Server.shaped_initial : Server.initial.Shaped :=
  ⟨Server.sized_initial, List.length_replicate⟩

theorem ServerHistory.shaped {server : Server} (history : ServerHistory lib stationAddr server) :
    server.Shaped := by
  induction history with
  | initial => exact Server.shaped_initial
  | @frame server next _ pData io handled ih =>
    have answers := @dataProcess_same lib stationAddr pData io server server ih ih
    rcases ran : (dataProcess lib stationAddr pData server).run io with ⟨done, io'⟩
    rw [ran] at answers handled
    cases answers with
    | overrun _ => cases handled
    | answered left _ _ =>
      cases handled
      exact left

/-- After a CONNECT, byte 14 holds its acknowledgement. -/
theorem connected_history :
    ∃ server, ServerHistory lib stationAddr server ∧ server.buf.byte 14 = 0x55#8 := by
  have fits : ([] : List Byte).length + 5 ≤ 5097 := by decide
  have byte : (serverFrame 3#8 []).byte 0 = 3#8 := byte_serverFrame fits
  have intact : (serverFrame 3#8 []).IntactAt ServerCmd.connect.crcLenth := intact_serverFrame fits
  let headed := Server.initial.withHead stationAddr 3#8
  have handled : ((dataProcess lib stationAddr (serverFrame 3#8 []) .initial).run
      (.fresh none none [])).1 =
      some (headed.withBuf ((headed.buf.put 13 [0#8]).put 14 [serverAck])) := by
    unfold dataProcess
    rw [byte]
    simp only [ServerCmd.ofByte, if_pos intact]
    rfl
  refine ⟨_, .frame .initial _ _ handled, ?_⟩
  rw [Server.withBuf, Image.byte_put_within _ _ _ (by decide)]
  rfl

/-- Before the first frame and after a CONNECT, a refusal is answered with other bytes. -/
theorem refused_differ (refuses : Refused pData io) : ∃ first second,
    ServerHistory lib stationAddr first ∧ ServerHistory lib stationAddr second ∧
      ((dataProcess lib stationAddr pData first).run io).2.replies ≠
        ((dataProcess lib stationAddr pData second).run io).2.replies := by
  obtain ⟨server, connected, acked⟩ := @connected_history lib stationAddr
  refine ⟨_, _, .initial, connected, fun equal => ?_⟩
  obtain ⟨reply, sent, old⟩ :=
    @refused_stale lib stationAddr pData _ _ refuses Server.shaped_initial
  obtain ⟨reply', sent', old'⟩ := @refused_stale lib stationAddr pData _ _ refuses connected.shaped
  rw [sent, sent'] at equal
  cases List.append_cancel_left equal
  have zero : Server.initial.buf.byte 14 = 0#8 := Image.byte_zero 14
  rw [old, zero, acked] at old'
  exact absurd old' (by decide)

end Frames

/-- The reply is the same whatever the server has handled before, exactly when the command
is not a request that is refused. -/
theorem replies_determined_iff (lib : CardSearch) (stationAddr : Image 6) (pData : ServerData)
    (member attendance : Option (List Byte)) (faults : List Bool) :
    (∀ first second, ServerHistory lib stationAddr first → ServerHistory lib stationAddr second →
      ((dataProcess lib stationAddr pData first).run (.fresh member attendance faults)).2.replies =
        ((dataProcess lib stationAddr pData second).run
          (.fresh member attendance faults)).2.replies) ↔
      ¬ Refused pData (.fresh member attendance faults) := by
  constructor
  · intro same refuses
    obtain ⟨first, second, before, before', differ⟩ := @refused_differ lib stationAddr _ _ refuses
    exact differ (same first second before before')
  · intro serves first second before before'
    have answers :=
      @dataProcess_same lib stationAddr pData (.fresh member attendance faults) _ _ before.shaped
        before'.shaped
    rcases ran : (dataProcess lib stationAddr pData first).run (.fresh member attendance faults)
      with ⟨done, io⟩
    rcases ran' : (dataProcess lib stationAddr pData second).run (.fresh member attendance faults)
      with ⟨done', io'⟩
    rw [ran, ran'] at answers
    cases answers with
    | overrun same => exact congrArg ServerIo.replies (same serves)
    | answered _ _ same => exact congrArg ServerIo.replies (same serves)

/-- CRCs of users are asked for, and there is no `member.bin`. -/
theorem replies_stale :
    ¬ ∀ first second, ServerHistory (.reference cardCompar_consistent) (.zero 6) first →
    ServerHistory (.reference cardCompar_consistent) (.zero 6) second →
      ((dataProcess (.reference cardCompar_consistent) (.zero 6)
        (serverFrame 10#8 [1#8, 0#8, 1#8, 0#8]) first).run
        (.fresh none none [])).2.replies =
      ((dataProcess (.reference cardCompar_consistent) (.zero 6)
        (serverFrame 10#8 [1#8, 0#8, 1#8, 0#8]) second).run
        (.fresh none none [])).2.replies := by
  have asked : ServerCmd.ofByte ((serverFrame 10#8 [1#8, 0#8, 1#8, 0#8]).byte 0) =
      some .userCrcGet := by
    rw [byte_serverFrame (by decide)]
    rfl
  have missing : (userNumGet.attempt (.fresh none) []).1 = none := by
    rw [FileProg.attempt_ok]
    rfl
  obtain ⟨first, second, before, before', differ⟩ :=
    @refused_differ (.reference cardCompar_consistent) (.zero 6)
    (serverFrame 10#8 [1#8, 0#8, 1#8, 0#8]) (.fresh none none []) ⟨_, asked, .inr (.inl missing)⟩
  exact fun same => differ (same first second before before')

end WifiAccess

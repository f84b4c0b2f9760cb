import Mathlib.Data.Finset.Card
import WifiAccess.Door.Soundness
import WifiAccess.Server.Answers
import WifiAccess.Server.Session
import WifiAccess.User.CardArray

/-! The card list through adds, deletes and reloads: how many users it has room for,
and what it holds right after a reload. -/

namespace WifiAccess

open ServerProg

/-! ## The user file under the commands -/

/-- The record that a command to add or delete a user writes. -/
inductive Writes (pData : ServerData) : UserInfo → Prop where
  | add (asks : Asks pData .userAdd) : Writes pData (.stored 1058 pData.bytes 1)
  | del (asks : Asks pData .userDel) : Writes pData (.zero 1058)

/-- The file with a record in the slot of a user id, if the id has one. -/
def storeUser (bytes : List Byte) (userId : Nat) (user : UserInfo) : List Byte :=
  if userId = 0 then bytes else splice bytes (slotOffset userId) user.bytes

/-- The record of an add has the user id of the frame. -/
theorem userId_added (pData : ServerData) :
    UserInfo.userId (.stored 1058 pData.bytes 1) = pData.num 1 2 :=
  congrArg leValue (window_window pData.bytes (show 0 + 2 ≤ 1058 by decide))

theorem Writes.record {pData : ServerData} {user : UserInfo} (writes : Writes pData user) :
    user = .zero 1058 ∨ user.userId = pData.num 1 2 := by
  cases writes with
  | add asks => exact .inr (userId_added pData)
  | del asks => exact .inl rfl

/-- Adding or deleting on a working disk. -/
theorem addDelGetOneUser_stores (content : Option (List Byte)) (pos : Nat) (full : Bool)
    (user : UserInfo) {cmd : Nat} (changes : cmd = addOneUser ∨ cmd = delOneUser) :
    FileState.bytes ((addDelGetOneUser user cmd).run ⟨content, pos, full⟩).2 =
      storeUser (content.getD []) user.userId (if cmd = addOneUser then user else .zero 1058) := by
  unfold storeUser
  by_cases zero : user.userId = 0
  · rw [addDelGetOneUser_zero zero, if_pos zero]
    rfl
  · rw [if_neg zero]
    rcases changes with rfl | rfl
    · rw [addDelGetOneUser_add zero]
      rfl
    · rw [addDelGetOneUser_del zero]
      rfl

section Steps

variable {pData : ServerData} {server : Server} {io : ServerIo} (lib : CardSearch)
  (stationAddr : Image 6)

/-- What a command has left of the user file and the list. -/
structure Leaves (bytes : List Byte) (list : List CardLink) (state : Server × ServerIo) : Prop where
  working : state.2.faults = []
  member : state.2.member.bytes = bytes
  list : state.1.list = list

/-- An answer changes neither. -/
theorem reply_leaves (server : Server) (status result : Byte) (io : ServerIo)
    (working : io.faults = []) :
    ∃ next : Server × ServerIo, (server.reply status result).run io = (some next.1, next.2) ∧
      Leaves io.member.bytes server.list next ∧
        Answered io.replies next.2.replies status result := by
  obtain ⟨_, replies, ran, answered⟩ := server.reply_run status result io
  have sent : ((server.reply status result).run io).2.replies = replies :=
    congrArg (fun ran => ran.2.replies) ran
  refine ⟨(server.withBuf _, ((server.reply status result).run io).2), rfl, ⟨working, rfl, rfl⟩, ?_⟩
  rwa [sent]

theorem answer_leaves (server : Server) (io : ServerIo) (working : io.faults = []) (status : Int) :
    ∃ next : Server × ServerIo,
      (if status ≠ 0 then server.reply 1#8 serverNack
        else server.reply 0#8 serverAck : ServerProg _).run io =
        (some next.1, next.2) ∧ Leaves io.member.bytes server.list next := by
  rw [run_ite]
  split
  · obtain ⟨next, ran, leaves, -⟩ := reply_leaves server 1#8 serverNack io working
    exact ⟨next, ran, leaves⟩
  · obtain ⟨next, ran, leaves, -⟩ := reply_leaves server 0#8 serverAck io working
    exact ⟨next, ran, leaves⟩

/-- An add or a delete writes its record, whatever the user id. -/
theorem serverStep_writes {user : UserInfo} (writes : Writes pData user)
    (working : io.faults = []) :
    ∃ next, serverStep lib stationAddr (server, io) pData = some next ∧
      Leaves (storeUser io.member.bytes (pData.num 1 2) user) server.list next := by
  obtain ⟨⟨content, pos, full⟩, attendance, faults, clock, replies⟩ := io
  dsimp only at working
  subst working
  cases writes with
  | add asks =>
    have stores := addDelGetOneUser_stores content pos full (.stored 1058 pData.bytes 1) (.inl rfl)
    rw [userId_added, if_pos rfl] at stores
    rw [serverStep_asks asks]
    simp only [ServerCmd.execute, serverUserAdd, run_bind, run_onMember, FileProg.attempt_ok]
    generalize (addDelGetOneUser (.stored 1058 pData.bytes 1) addOneUser).run ⟨content, pos, full⟩ =
      ran at stores ⊢
    obtain ⟨next, answered, leaves⟩ := answer_leaves (server.withHead stationAddr (pData.byte 0))
      ⟨ran.2, attendance, [], clock, replies⟩ rfl ran.1.1
    rw [answered]
    exact ⟨next, rfl, leaves.working, leaves.member.trans stores, leaves.list⟩
  | del asks =>
    have stores :=
      addDelGetOneUser_stores content pos full (server.userInfo.setUserId (pData.num 1 2))
        (.inr rfl)
    rw [server.userInfo.userId_setUserId (Image.num_lt pData 1 2), if_neg (by decide)] at stores
    rw [serverStep_asks asks]
    simp only [ServerCmd.execute, serverUserDel, run_bind, run_onMember, FileProg.attempt_ok,
      Server.withHead, Server.withBuf]
    generalize (addDelGetOneUser (server.userInfo.setUserId (pData.num 1 2)) delOneUser).run
      ⟨content, pos, full⟩ = ran
      at stores ⊢
    obtain ⟨next, answered, leaves⟩ := answer_leaves
      { server.withHead stationAddr (pData.byte 0) with userInfo := ran.1.2 }
        ⟨ran.2, attendance, [], clock, replies⟩ rfl ran.1.1
    simp only [Server.withHead, Server.withBuf] at answered
    rw [answered]
    exact ⟨next, rfl, leaves.working, leaves.member.trans stores, leaves.list⟩

end Steps

/-! ## The live users -/

/-- The user ids that the file has a record for. -/
def liveUsers (bytes : List Byte) : Finset Nat := (liveSlots bytes).toFinset

theorem card_liveUsers (bytes : List Byte) : (liveUsers bytes).card = (liveSlots bytes).length :=
  List.toFinset_card_of_nodup (nodup_liveSlots bytes)

/-- What a command does to the set of live users; user id 0 has no slot. -/
def liveEffect (users : Finset Nat) (pData : ServerData) : Finset Nat :=
  if pData.num 1 2 = 0 then users
  else match ServerCmd.ofByte (pData.byte 0) with
    | some .userAdd => insert (pData.num 1 2) users
    | some .userDel => users.erase (pData.num 1 2)
    | _ => users

section Writes

variable {pData : ServerData} {user : UserInfo} {bytes : List Byte}

theorem UserFile.storeUser (file : UserFile bytes) (writes : Writes pData user) :
    UserFile (storeUser bytes (pData.num 1 2) user) := by
  unfold WifiAccess.storeUser
  split
  · exact file
  · rename_i positive
    exact file.store positive (Image.num_lt pData 1 2) writes.record

theorem UserFile.liveUsers_storeUser (file : UserFile bytes) (writes : Writes pData user) :
    liveUsers (WifiAccess.storeUser bytes (pData.num 1 2) user) =
      liveEffect (liveUsers bytes) pData := by
  unfold WifiAccess.storeUser liveEffect
  by_cases zero : pData.num 1 2 = 0
  · rw [if_pos zero, if_pos zero]
  · rw [if_neg zero, if_neg zero]
    ext other
    rw [liveUsers, List.mem_toFinset, file.mem_liveSlots_store zero (Image.num_lt pData 1 2)
      writes.record]
    cases writes with
    | add asks =>
      rw [asks.1, userId_added]
      simp only [Finset.mem_insert, liveUsers, List.mem_toFinset]
      by_cases same : other = pData.num 1 2
      · rw [if_pos same]
        exact iff_of_true zero (.inl same)
      · rw [if_neg same, or_iff_right same]
    | del asks =>
      rw [asks.1]
      simp only [Finset.mem_erase, liveUsers, List.mem_toFinset]
      by_cases same : other = pData.num 1 2
      · rw [if_pos same]
        exact iff_of_false (fun used => used (leValue_zeros 2)) fun both => both.1 same
      · rw [if_neg same, and_iff_right same]

end Writes

/-! ## A reload -/

section Reload

variable {pData : ServerData} {server : Server} {io : ServerIo} (lib : CardSearch)
  (stationAddr : Image 6)

theorem userFile_header : UserFile (List.replicate 8 0#8) := by
  refine ⟨.inr rfl, by decide, fun userId _ => .inl ?_⟩
  apply Image.ext_byte
  intro i
  rw [slot, Image.byte_stored, getD_zeros, ite_self, Image.byte_zero]

/-- A reload answers with what `card_array_init` returns. -/
theorem serverListReload_run (server : Server) {status : Int} {list : List CardLink}
    {member : FileState} (working : io.faults = [])
    (ran : (cardArrayInit lib server.list).run io.member = (some (status, list), member)) :
    (serverListReload lib server).run io =
      (if status = -1 then Server.reply { server with list := list } 1#8 serverNack
        else Server.reply { server with list := list } 0#8 serverAck : ServerProg _).run
          { io with member := member } := by
  rw [serverListReload, run_bind, run_onMember, working, FileProg.attempt_ok, ran]

/-- Without a user file, or with an empty one, a reload is refused. -/
theorem serverStep_reload_empty (asks : Asks pData .listReload) (working : io.faults = [])
    (empty : io.member.bytes = []) :
    ∃ next, serverStep lib stationAddr (server, io) pData = some next ∧
      (Leaves [] server.list next ∨ Leaves (List.replicate 8 0#8) server.list next) ∧
      Answered io.replies next.2.replies 1#8 serverNack := by
  obtain ⟨member, uncounted, left⟩ : ∃ member, userNumGet.run io.member = (none, member) ∧
      (member.bytes = [] ∨ member.bytes = List.replicate 8 0#8) := by
    obtain ⟨⟨content, pos, full⟩, attendance, faults, clock, replies⟩ := io
    cases content with
    | none => exact ⟨_, userNumGet_missing pos full, .inl rfl⟩
    | some bytes =>
      obtain rfl : bytes = [] := empty
      exact ⟨_, userNumGet_empty pos full, .inr rfl⟩
  let headed := server.withHead stationAddr (pData.byte 0)
  have ran :=
    serverListReload_run lib headed working (cardArrayInit_uncounted lib headed.list uncounted)
  rw [if_pos rfl] at ran
  obtain ⟨next, done, leaves, answered⟩ :=
    reply_leaves headed 1#8 serverNack { io with member := member } working
  refine ⟨next, ?_, ?_, answered⟩
  · rw [serverStep_asks asks, ServerCmd.execute, ran]
    exact congrArg (fun ran => ran.1.map fun server => (server, ran.2)) done
  · rcases left with none_left | header
    · exact .inl ⟨leaves.working, leaves.member.trans none_left, leaves.list⟩
    · exact .inr ⟨leaves.working, leaves.member.trans header, leaves.list⟩

/-- On any other file that adds and deletes have built, a reload with room for the users
succeeds. -/
theorem serverStep_reload (asks : Asks pData .listReload) (working : io.faults = [])
    (file : UserFile io.member.bytes) (nonempty : io.member.bytes ≠ [])
    (room : (liveSlots io.member.bytes).length ≤ server.list.length) :
    ∃ next, serverStep lib stationAddr (server, io) pData = some next ∧
      Leaves io.member.bytes (lib.qsort (overwrite server.list 0 (liveLinks io.member.bytes)))
        next ∧
      Answered io.replies next.2.replies 0#8 serverAck := by
  obtain ⟨⟨content, pos, full⟩, attendance, faults, clock, replies⟩ := io
  obtain ⟨bytes, rfl⟩ : ∃ bytes, content = some bytes := by
    cases content with
    | none => exact absurd rfl nonempty
    | some bytes => exact ⟨bytes, rfl⟩
  have content : FileState.bytes ⟨some bytes, pos, full⟩ = bytes := rfl
  rw [content] at file nonempty room ⊢
  let headed := server.withHead stationAddr (pData.byte 0)
  have lists : headed.list = server.list := rfl
  rw [← lists] at room ⊢
  obtain ⟨member, ran, kept⟩ := file.cardArrayInit nonempty lib headed.list pos full
  rw [if_pos room] at ran
  have answer :=
    @serverListReload_run ⟨⟨some bytes, pos, full⟩, attendance, faults, clock, replies⟩ lib headed _
      _ _ working ran
  rw [if_neg (by decide)] at answer
  obtain ⟨next, done, leaves, answered⟩ := reply_leaves
    { headed with list := lib.qsort (overwrite headed.list 0 (liveLinks bytes)) } 0#8 serverAck
    ⟨member, attendance, faults, clock, replies⟩ working
  refine ⟨next, ?_, ⟨leaves.working, leaves.member.trans ?_, leaves.list⟩, answered⟩
  · rw [serverStep_asks asks, ServerCmd.execute, answer]
    exact congrArg (fun ran => ran.1.map fun server => (server, ran.2)) done
  · exact congrArg (·.getD []) kept

/-- With more users it stores behind the list. -/
theorem serverStep_reload_past (asks : Asks pData .listReload) (working : io.faults = [])
    (file : UserFile io.member.bytes)
    (past : server.list.length < (liveSlots io.member.bytes).length) : serverStep lib stationAddr
      (server, io) pData = none := by
  have none_there : ¬ server.list.length < (liveSlots []).length := by
    rw [liveSlots_empty]
    exact Nat.not_lt_zero _
  obtain ⟨⟨content, pos, full⟩, attendance, faults, clock, replies⟩ := io
  cases content with
  | none => exact absurd past none_there
  | some bytes =>
    have content : FileState.bytes ⟨some bytes, pos, full⟩ = bytes := rfl
    rw [content] at file past
    have nonempty : bytes ≠ [] := by
      rintro rfl
      exact none_there past
    let headed := server.withHead stationAddr (pData.byte 0)
    have lists : headed.list = server.list := rfl
    rw [← lists] at past
    obtain ⟨member, ran, -⟩ := file.cardArrayInit nonempty lib headed.list pos full
    rw [if_neg (Nat.not_le.mpr past)] at ran
    have none_left : ((cardArrayInit lib headed.list).attempt ⟨some bytes, pos, full⟩ faults).1 =
        none := by
      have working : faults = [] := working
      rw [working, FileProg.attempt_ok, ran]
    rw [serverStep_asks asks]
    simp only [ServerCmd.execute, serverListReload, run_bind, run_onMember]
    rw [none_left]
    rfl

end Reload

/-! ## Room in the list -/

section Capacity

variable {server : Server} {io : ServerIo} {reload : ServerData} {moves : List ServerData}
  (lib : CardSearch) (stationAddr : Image 6)

/-- Adds and deletes are all carried out, and keep track of the live users. -/
theorem writes_run (asks : ∀ pData ∈ moves, ∃ user, Writes pData user) (working : io.faults = [])
    (file : UserFile io.member.bytes) :
    ∃ final bytes, runMoves (serverStep lib stationAddr) (server, io) moves = some final ∧
      Leaves bytes server.list final ∧ UserFile bytes ∧
      liveUsers bytes = moves.foldl liveEffect (liveUsers io.member.bytes) := by
  induction moves generalizing server io with
  | nil => exact ⟨_, _, rfl, ⟨working, rfl, rfl⟩, file, rfl⟩
  | cons pData rest ih =>
    obtain ⟨user, writes⟩ := asks pData List.mem_cons_self
    obtain ⟨⟨server', io'⟩, stepped, leaves⟩ :=
      @serverStep_writes pData server io lib stationAddr user writes working
    have stored : io'.member.bytes = storeUser io.member.bytes (pData.num 1 2) user := leaves.member
    have same : server'.list = server.list := leaves.list
    obtain ⟨final, bytes, ran, left, built, users⟩ := @ih server' io'
      (fun pData later => asks pData (List.mem_cons_of_mem _ later)) leaves.working
        (stored ▸ file.storeUser writes)
    refine ⟨final, bytes, ?_, same ▸ left, built, ?_⟩
    · rw [runMoves, stepped]
      exact ran
    · rw [users, stored, file.liveUsers_storeUser writes, List.foldl_cons]

theorem reload_isSome_iff (asks : Asks reload .listReload) (working : io.faults = [])
    (file : UserFile io.member.bytes) :
    (serverStep lib stationAddr (server, io) reload).isSome ↔
      (liveUsers io.member.bytes).card ≤ server.list.length := by
  rw [card_liveUsers]
  by_cases empty : io.member.bytes = []
  · obtain ⟨next, stepped, -⟩ :=
      @serverStep_reload_empty reload server io lib stationAddr asks working empty
    rw [stepped, empty]
    exact iff_of_true rfl (Nat.zero_le _)
  · rcases Nat.lt_or_ge server.list.length (liveSlots io.member.bytes).length with past | room
    · rw [@serverStep_reload_past reload server io lib stationAddr asks working file past]
      exact iff_of_false Bool.false_ne_true (Nat.not_le.mpr past)
    · obtain ⟨next, stepped, -⟩ :=
        @serverStep_reload reload server io lib stationAddr asks working file empty room
      rw [stepped]
      exact iff_of_true rfl room

/-- After adds and deletes with any user ids, a reload stays in the list of 200 entries
exactly when they have left at most 200 users. -/
theorem reload_inBounds_iff (asks : ∀ pData ∈ moves, Asks pData .userAdd ∨ Asks pData .userDel)
    (last : Asks reload .listReload) (size : server.list.length = maxUserNum)
    (working : io.faults = []) (file : UserFile io.member.bytes) :
    ∃ final, runMoves (serverStep lib stationAddr) (server, io) moves = some final ∧
      ((serverStep lib stationAddr final reload).isSome ↔
        (moves.foldl liveEffect (liveUsers io.member.bytes)).card ≤ maxUserNum) := by
  have writes : ∀ pData ∈ moves, ∃ user, Writes pData user := by
    intro pData asked
    rcases asks pData asked with add | del
    · exact ⟨_, .add add⟩
    · exact ⟨_, .del del⟩
  obtain ⟨⟨server', io'⟩, bytes, ran, leaves, built, users⟩ :=
    @writes_run server io moves lib stationAddr writes working file
  have held : io'.member.bytes = bytes := leaves.member
  have same : server'.list = server.list := leaves.list
  have inside :=
    @reload_isSome_iff server' io' reload lib stationAddr last leaves.working (held ▸ built)
  rw [held, users, same, size] at inside
  exact ⟨_, ran, inside⟩

end Capacity

/-- The frame that adds a user. -/
def addFrame (userId cardId : Nat) : ServerData := serverFrame 1#8 (cardRecord userId cardId).bytes

/-- The frame that reloads the list. -/
def reloadFrame : ServerData := serverFrame 8#8 []

theorem asks_addFrame (userId cardId : Nat) : Asks (addFrame userId cardId) .userAdd :=
  asks_serverFrame rfl (by rw [Image.size]; rfl) (by rw [Image.size]; decide)

theorem asks_reloadFrame : Asks reloadFrame .listReload := asks_serverFrame rfl rfl (by decide)

theorem record_addFrame (userId cardId : Nat) :
    Image.stored 1058 (addFrame userId cardId).bytes 1 = cardRecord userId cardId := by
  apply Image.ext
  have params : (addFrame userId cardId).field 1 1058 =
      window (1#8 :: (cardRecord userId cardId).bytes) 1 1058 :=
    field_serverFrame (by rw [Image.size]; decide) (by rw [Image.size])
  have whole := window_all (cardRecord userId cardId).bytes
  rw [Image.size] at whole
  exact params.trans
    ((window_append_right [1#8] (cardRecord userId cardId).bytes 0 1058).trans whole)

theorem num_addFrame {userId : Nat} (bound : userId < 2 ^ 16) (cardId : Nat) :
    (addFrame userId cardId).num 1 2 = userId := by
  rw [← userId_added, record_addFrame, userId_cardRecord bound]

theorem liveEffect_addFrame {userId : Nat} (positive : userId ≠ 0) (bound : userId < 2 ^ 16)
    (cardId : Nat) (users : Finset Nat) :
    liveEffect users (addFrame userId cardId) = insert userId users := by
  rw [liveEffect, num_addFrame bound, if_neg positive, (asks_addFrame userId cardId).1]

/-- Adding users one after the other. -/
theorem foldl_addFrames {count first : Nat} (positive : first ≠ 0) (bound : first + count ≤ 2 ^ 16)
    (users : Finset Nat) :
    ((List.range' first count).map fun userId => addFrame userId userId).foldl liveEffect users =
      (List.range' first count).toFinset ∪ users := by
  induction count generalizing first users with
  | zero => simp
  | succ count ih =>
    rw [List.range'_succ, List.map_cons, List.foldl_cons, liveEffect_addFrame positive (by omega),
      ih (Nat.succ_ne_zero first) (by omega), List.toFinset_cons, Finset.union_insert,
        Finset.insert_union]

/-- With 200 users the list is full. -/
theorem reload_inBounds_full : ∃ final,
    runMoves (serverStep (.reference cardCompar_consistent) (.zero 6))
      (.initial, .fresh none none [])
        ((List.range' 1 200).map fun userId => addFrame userId userId) = some final ∧
      (serverStep (.reference cardCompar_consistent) (.zero 6) final reloadFrame).isSome := by
  have adds : ∀ pData ∈ (List.range' 1 200).map fun userId =>
      addFrame userId userId, Asks pData .userAdd := by
    intro pData asked
    obtain ⟨userId, -, rfl⟩ := List.mem_map.mp asked
    exact asks_addFrame userId userId
  obtain ⟨final, ran, inside⟩ := @reload_inBounds_iff .initial (.fresh none none []) reloadFrame _
    (.reference cardCompar_consistent) (.zero 6) (fun pData asked => .inl (adds pData asked))
      asks_reloadFrame
    List.length_replicate rfl UserFile.empty
  refine ⟨final, ran, inside.mpr ?_⟩
  rw [foldl_addFrames (by decide) (by decide)]
  change ((List.range' 1 200).toFinset ∪ ∅).card ≤ maxUserNum
  rw [Finset.union_empty, List.toFinset_card_of_nodup List.nodup_range', List.length_range']
  decide

/-- With 201 users, the reload stores behind the list. -/
theorem reload_overrun :
    ¬ ∀ (lib : CardSearch) (stationAddr : Image 6) (server : Server) (io : ServerIo)
    (moves : List ServerData) (reload : ServerData),
      (∀ pData ∈ moves, Asks pData .userAdd ∨ Asks pData .userDel) →
    Asks reload .listReload → server.list.length = maxUserNum → io.faults = [] →
      UserFile io.member.bytes →
    ∃ final, runMoves (serverStep lib stationAddr) (server, io) moves = some final ∧
      (serverStep lib stationAddr final reload).isSome := by
  intro always
  let moves := (List.range' 1 201).map fun userId => addFrame userId userId
  have adds : ∀ pData ∈ moves, Asks pData .userAdd := by
    intro pData asked
    obtain ⟨userId, -, rfl⟩ := List.mem_map.mp asked
    exact asks_addFrame userId userId
  obtain ⟨final, ran, inside⟩ :=
    always (.reference cardCompar_consistent) (.zero 6) .initial (.fresh none none []) moves
    reloadFrame (fun pData asked => .inl (adds pData asked)) asks_reloadFrame List.length_replicate
      rfl UserFile.empty
  obtain ⟨⟨server, io⟩, bytes, ran', leaves, built, users⟩ :=
    @writes_run .initial (.fresh none none []) moves
    (.reference cardCompar_consistent) (.zero 6) (fun pData asked => ⟨_, .add (adds pData asked)⟩)
      rfl UserFile.empty
  obtain rfl : final = (server, io) := Option.some.inj (ran.symm.trans ran')
  have held : io.member.bytes = bytes := leaves.member
  have same : server.list = Server.initial.list := leaves.list
  have few :=
    (@reload_isSome_iff server io reloadFrame _ _ asks_reloadFrame leaves.working (held ▸ built)).mp
      inside
  have size : Server.initial.list.length = 200 := List.length_replicate
  rw [held, users, same, size] at few
  have all : moves.foldl liveEffect (liveUsers []) = (List.range' 1 201).toFinset ∪ ∅ :=
    foldl_addFrames Nat.one_ne_zero (by decide) ∅
  have start : liveUsers (ServerIo.fresh none none []).member.bytes = liveUsers [] := rfl
  rw [start, all, Finset.union_empty, List.toFinset_card_of_nodup (List.nodup_range' 1 Nat.one_pos),
    List.length_range'] at few
  exact absurd few (by decide)

end WifiAccess

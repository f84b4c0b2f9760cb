import WifiAccess.Server.Reload

/-! What the card list holds right after a reload, whatever adds, deletes and reloads
have gone before. -/

namespace WifiAccess

open ServerProg

/-- A user file with ids up to the size of the list and cards for all users. -/
structure CardFile (bytes : List Byte) : Prop where
  file : UserFile bytes
  small : ∀ userId ∈ liveSlots bytes, userId ≤ maxUserNum
  card : ∀ userId ∈ liveSlots bytes, (slot bytes userId).cardId ≠ 0

/-- Entries without a user have no card. -/
def Tidy (list : List CardLink) : Prop := ∀ link ∈ list, link.userId = 0 → link.cardId = 0

/-- The commands of a run: adds and deletes of such users, and reloads. -/
inductive CardMove (pData : ServerData) : Prop where
  | add (asks : Asks pData .userAdd) (positive : pData.num 1 2 ≠ 0)
      (small : pData.num 1 2 ≤ maxUserNum) (card : UserInfo.cardId (.stored 1058 pData.bytes 1) ≠ 0)
  | del (asks : Asks pData .userDel) (positive : pData.num 1 2 ≠ 0)
      (small : pData.num 1 2 ≤ maxUserNum)
  | reload (asks : Asks pData .listReload)

structure CardState (state : Server × ServerIo) : Prop where
  working : state.2.faults = []
  member : CardFile state.2.member.bytes
  size : state.1.list.length = maxUserNum
  tidy : Tidy state.1.list

/-- The list is sorted and has exactly the live users, so that a search finds the user
of a card when there is one. -/
structure ListAgrees (lib : CardSearch) (bytes : List Byte) (list : List CardLink) : Prop where
  ordered : Ordered cardCompar list
  users : (usedLinks list).Perm (liveLinks bytes)
  found : ∀ cardId : BitVec 32, cardId ≠ 0#32 →
    (∃ userId ∈ liveSlots bytes, (slot bytes userId).cardId = cardId.toNat) →
    ∃ index, lib.bsearch (cardKey cardId) list = some index ∧
      ∃ userId ∈ liveSlots bytes, (slot bytes userId).cardId = cardId.toNat ∧
        (list.getD index (.zero 6)).userId = userId
  missing : ∀ cardId : BitVec 32, cardId ≠ 0#32 →
    (¬ ∃ userId ∈ liveSlots bytes, (slot bytes userId).cardId = cardId.toNat) →
    lib.bsearch (cardKey cardId) list = none

/-! ## Searching the list -/

section Agreement

variable {bytes : List Byte} {list : List CardLink} {lib : CardSearch}

/-- The entries with a user are the links of live users. -/
theorem mem_liveLinks {link : CardLink} :
    link ∈ liveLinks bytes ↔ ∃ userId ∈ liveSlots bytes, (slot bytes userId).link = link :=
  List.mem_map

/-- Sorted entries that are those of the live users are searched right. -/
theorem ListAgrees.of_users (file : UserFile bytes) (ordered : Ordered cardCompar list)
    (tidy : Tidy list) (users : (usedLinks list).Perm (liveLinks bytes)) :
    ListAgrees lib bytes list := by
  -- an entry with a card that is not 0 has a user, who is live
  have live {link : CardLink} (entry : link ∈ list) (card : link.cardId ≠ 0) :
      ∃ userId ∈ liveSlots bytes, (slot bytes userId).link = link := by
    have used : link ∈ usedLinks list :=
      List.mem_filter.mpr ⟨entry, decide_eq_true fun unused => card (tidy link entry unused)⟩
    exact mem_liveLinks.mp (users.mem_iff.mp used)
  have match_live {cardId : BitVec 32} (nonzero : cardId ≠ 0#32) {index : Nat}
      (searched : lib.bsearch (cardKey cardId) list = some index) : ∃ userId ∈ liveSlots bytes,
        (slot bytes userId).cardId = cardId.toNat ∧
          (list.getD index (.zero 6)).userId = userId := by
    obtain ⟨link, entry, same⟩ := lib.bsearch_found _ _ _ searched
    rw [cardCompar_eq, cardId_cardKey] at same
    have card : link.cardId ≠ 0 := by
      intro zero
      exact nonzero (BitVec.eq_of_toNat_eq (same.trans zero))
    obtain ⟨userId, present, rfl⟩ := live (List.mem_of_getElem? entry) card
    refine ⟨userId, present, (UserInfo.cardId_link _).symm.trans same.symm, ?_⟩
    rw [List.getD_eq_getElem?_getD, entry]
    exact (UserInfo.userId_link _).trans (file.userId_live present)
  refine ⟨ordered, users, ?_, ?_⟩
  · rintro cardId nonzero ⟨userId, present, same⟩
    have entry : (slot bytes userId).link ∈ list :=
      List.mem_of_mem_filter (users.mem_iff.mpr (mem_liveLinks.mpr ⟨userId, present, rfl⟩))
    have searched := lib.bsearch_complete (cardKey cardId) list ordered ⟨_, entry, by
      rw [cardCompar_eq, cardId_cardKey, UserInfo.cardId_link, same]⟩
    obtain ⟨index, found⟩ := Option.isSome_iff_exists.mp searched
    exact ⟨index, found, match_live nonzero found⟩
  · intro cardId nonzero absent
    cases searched : lib.bsearch (cardKey cardId) list with
    | none => rfl
    | some index =>
      obtain ⟨userId, present, same, -⟩ := match_live nonzero searched
      exact absurd ⟨userId, present, same⟩ absent

/-- The entries that a reload does not store over. -/
def leftover (bytes : List Byte) (list : List CardLink) : List CardLink :=
  list.drop (liveSlots bytes).length

theorem overwrite_liveLinks (bytes : List Byte) (list : List CardLink) :
    overwrite list 0 (liveLinks bytes) = liveLinks bytes ++ leftover bytes list := by
  rw [overwrite, List.take_zero, List.nil_append, Nat.zero_add, leftover, liveLinks,
    List.length_map]

theorem UserFile.usedLinks_liveLinks (file : UserFile bytes) :
    usedLinks (liveLinks bytes) = liveLinks bytes := by
  refine List.filter_eq_self.mpr fun link present => ?_
  obtain ⟨userId, live, rfl⟩ := mem_liveLinks.mp present
  rw [UserInfo.userId_link]
  exact decide_eq_true (file.mem_liveSlots.mp live).2

/-- The users in a reloaded list: the live ones, and those left over. -/
theorem UserFile.usedLinks_reloaded (file : UserFile bytes) (lib : CardSearch)
    (list : List CardLink) :
    (usedLinks (lib.qsort (overwrite list 0 (liveLinks bytes)))).Perm
      (liveLinks bytes ++ usedLinks (leftover bytes list)) := by
  have sorted :=
    (lib.qsort_perm (overwrite list 0 (liveLinks bytes))).filter fun link => link.userId ≠ 0
  have live := file.usedLinks_liveLinks
  rw [usedLinks] at live
  rw [overwrite_liveLinks, List.filter_append, live] at sorted
  rwa [overwrite_liveLinks]

theorem tidy_reloaded (lib : CardSearch) (member : CardFile bytes) (tidy : Tidy list) :
    Tidy (lib.qsort (overwrite list 0 (liveLinks bytes))) := by
  intro link entry unused
  rw [(lib.qsort_perm _).mem_iff, overwrite_liveLinks, List.mem_append] at entry
  rcases entry with present | left
  · obtain ⟨userId, live, rfl⟩ := mem_liveLinks.mp present
    rw [UserInfo.userId_link] at unused
    exact absurd unused (member.file.mem_liveSlots.mp live).2
  · exact tidy link (List.mem_of_mem_drop left) unused

theorem listAgrees_iff (lib : CardSearch) (member : CardFile bytes) (tidy : Tidy list) :
    ListAgrees lib bytes (lib.qsort (overwrite list 0 (liveLinks bytes))) ↔
      usedLinks (leftover bytes list) = [] := by
  have users := member.file.usedLinks_reloaded lib list
  constructor
  · intro agrees
    have size := (users.symm.trans agrees.users).length_eq
    rw [List.length_append] at size
    exact List.eq_nil_of_length_eq_zero (by omega)
  · intro none_left
    rw [none_left, List.append_nil] at users
    exact .of_users member.file (lib.qsort_ordered _) (tidy_reloaded lib member tidy) users

end Agreement

/-! ## Runs -/

section Runs

variable {pData reload : ServerData} {moves : List ServerData} {server : Server} {io : ServerIo}
  (lib : CardSearch) (stationAddr : Image 6)

theorem cardFile_of_empty {bytes : List Byte} (file : UserFile bytes)
    (empty : liveSlots bytes = []) : CardFile bytes := by
  refine ⟨file, fun userId live => ?_, fun userId live => ?_⟩ <;> (rw [empty] at live; cases live)

theorem CardFile.length_liveSlots {bytes : List Byte} (member : CardFile bytes) :
    (liveSlots bytes).length ≤ maxUserNum := by
  have few : largestUser bytes ≤ maxUserNum := by
    by_cases users : largestUser bytes = 0
    · rw [users]
      exact Nat.zero_le _
    · exact member.small _ (member.file.largestUser_live users)
  rw [member.file.largestUser_inside.2]
  exact Nat.le_trans (length_usedSlots_le ..) few

/-- An add or a delete of such a user. -/
theorem CardFile.store {bytes : List Byte} (member : CardFile bytes) {user : UserInfo}
    (writes : Writes pData user) (positive : pData.num 1 2 ≠ 0) (small : pData.num 1 2 ≤ maxUserNum)
    (card : user.userId ≠ 0 → user.cardId ≠ 0) :
    CardFile (storeUser bytes (pData.num 1 2) user) := by
  have file := member.file.storeUser writes
  unfold storeUser at file ⊢
  rw [if_neg positive] at file ⊢
  obtain ⟨here, others⟩ :=
    slot_stored positive (@rfl _ (splice bytes (slotOffset (pData.num 1 2)) user.bytes))
  refine ⟨file, fun userId live => ?_, fun userId live => ?_⟩
  · rw [member.file.mem_liveSlots_store positive (Image.num_lt pData 1 2) writes.record] at live
    split at live
    · omega
    · exact member.small userId live
  · have present := (file.mem_liveSlots.mp live).1
    rw [member.file.mem_liveSlots_store positive (Image.num_lt pData 1 2) writes.record] at live
    split at live
    · rename_i same
      rw [same, here]
      exact card live
    · rename_i other
      rw [others userId present other]
      exact member.card userId live

/-- Every command keeps the state. -/
theorem CardState.step {state : Server × ServerIo} (start : CardState state)
    (moved : CardMove pData) :
    ∃ next, serverStep lib stationAddr state pData = some next ∧ CardState next := by
  obtain ⟨server, io⟩ := state
  obtain ⟨working, member, size, tidy⟩ := start
  have stored {user : UserInfo} (writes : Writes pData user)
      (kept : CardFile (storeUser io.member.bytes (pData.num 1 2) user)) :
      ∃ next, serverStep lib stationAddr (server, io) pData = some next ∧ CardState next := by
    obtain ⟨next, stepped, leaves⟩ :=
      @serverStep_writes pData server io lib stationAddr user writes working
    exact ⟨next, stepped, leaves.working, leaves.member ▸ kept,
      leaves.list ▸ size, leaves.list ▸ tidy⟩
  cases moved with
  | add asks positive small card =>
    exact stored (.add asks) (member.store (.add asks) positive small fun _ => card)
  | del asks positive small =>
    exact stored (.del asks) (member.store (.del asks) positive small fun used =>
      absurd (leValue_zeros 2) used)
  | reload asks =>
    by_cases empty : io.member.bytes = []
    · obtain ⟨next, stepped, left, -⟩ :=
        @serverStep_reload_empty pData server io lib stationAddr asks working empty
      refine ⟨next, stepped, ?_⟩
      rcases left with leaves | leaves
      · exact ⟨leaves.working, leaves.member ▸ cardFile_of_empty .empty rfl, leaves.list ▸ size,
          leaves.list ▸ tidy⟩
      · exact ⟨leaves.working, leaves.member ▸ cardFile_of_empty userFile_header rfl,
          leaves.list ▸ size, leaves.list ▸ tidy⟩
    · have room : (liveSlots io.member.bytes).length ≤ server.list.length :=
        size ▸ member.length_liveSlots
      obtain ⟨next, stepped, leaves, -⟩ :=
        @serverStep_reload pData server io lib stationAddr asks working member.file empty room
      refine ⟨next, stepped, leaves.working, leaves.member ▸ member, ?_,
        leaves.list ▸ tidy_reloaded lib member tidy⟩
      rw [leaves.list, (lib.qsort_perm _).length_eq,
        length_overwrite (by rw [liveLinks, List.length_map]; omega)]
      exact size

/-- A whole run keeps it. -/
theorem CardState.run {state : Server × ServerIo} (start : CardState state)
    (moved : ∀ pData ∈ moves, CardMove pData) :
    ∃ final, runMoves (serverStep lib stationAddr) state moves = some final ∧ CardState final := by
  induction moves generalizing state with
  | nil => exact ⟨state, rfl, start⟩
  | cons pData rest ih =>
    obtain ⟨next, stepped, kept⟩ := start.step lib stationAddr (moved pData List.mem_cons_self)
    obtain ⟨final, ran, last⟩ :=
      ih kept fun pData later => moved pData (List.mem_cons_of_mem _ later)
    refine ⟨final, ?_, last⟩
    rw [runMoves, stepped]
    exact ran

/-- In every run, the list agrees with the file right after a successful reload exactly
when none of the entries behind those for the live users had a user before. -/
theorem reload_agrees_iff {state : Server × ServerIo} (start : CardState state)
    (moved : ∀ pData ∈ moves, CardMove pData) (asks : Asks reload .listReload) :
    ∃ before after, runMoves (serverStep lib stationAddr) state moves = some before ∧
      serverStep lib stationAddr before reload = some after ∧
      (Answered before.2.replies after.2.replies 0#8 serverAck →
        (ListAgrees lib after.2.member.bytes after.1.list ↔
          usedLinks (leftover before.2.member.bytes before.1.list) = [])) := by
  obtain ⟨⟨server, io⟩, ran, kept⟩ := start.run lib stationAddr moved
  obtain ⟨working, member, size, tidy⟩ := kept
  by_cases empty : io.member.bytes = []
  · obtain ⟨next, stepped, -, refused⟩ :=
      @serverStep_reload_empty reload server io lib stationAddr asks working empty
    refine ⟨_, next, ran, stepped, fun acked => ?_⟩
    exact absurd (refused.unique acked).2 (by decide)
  · have room : (liveSlots io.member.bytes).length ≤ server.list.length :=
      size ▸ member.length_liveSlots
    obtain ⟨next, stepped, leaves, -⟩ :=
      @serverStep_reload reload server io lib stationAddr asks working member.file empty room
    refine ⟨_, next, ran, stepped, fun _ => ?_⟩
    rw [leaves.member, leaves.list]
    exact listAgrees_iff lib member tidy

end Runs

/-- The frame that deletes a user. -/
def delFrame (userId : Nat) : ServerData := serverFrame 2#8 (leBytes 2 userId)

theorem asks_delFrame (userId : Nat) : Asks (delFrame userId) .userDel :=
  asks_serverFrame rfl (by rw [length_leBytes]; rfl) (by rw [length_leBytes]; decide)

theorem num_delFrame {userId : Nat} (bound : userId < 2 ^ 16) :
    (delFrame userId).num 1 2 = userId := by
  have params :=
    @num_serverFrame 2#8 (leBytes 2 userId) (by rw [length_leBytes]; decide) 1 2
      (by rw [length_leBytes])
  have whole := window_all (leBytes 2 userId)
  rw [length_leBytes] at whole
  have field : window (2#8 :: leBytes 2 userId) 1 2 = leBytes 2 userId :=
    (window_append_right [2#8] (leBytes 2 userId) 0 2).trans whole
  rw [field, leValue_leBytes bound] at params
  exact params

theorem cardId_cardRecord (userId : Nat) {cardId : Nat} (bound : cardId < 2 ^ 32) :
    (cardRecord userId cardId).cardId = cardId := by
  have kept : (cardRecord userId cardId).field 2 4 = Image.field
      ((Image.zero 1058).put 2 (leBytes 4 cardId)) 2 4 :=
    Image.field_put_apart (by simp) (.inr (by simp))
  rw [UserInfo.cardId, Image.num, kept]
  exact Image.num_put _ (by decide) bound

theorem liveSlots_twoUsers : liveSlots twoUsers = [1, 2] := by
  have one : (slot twoUsers 1).userId ≠ 0 := by
    rw [slot_twoUsers.1, userId_cardRecord (by decide)]
    decide
  have two : (slot twoUsers 2).userId ≠ 0 := by
    rw [slot_twoUsers.2, userId_cardRecord (by decide)]
    decide
  rw [userFile_twoUsers.largestUser_inside.2, largestUser_twoUsers, usedSlots_succ, if_pos one,
    usedSlots_succ, if_pos two]
  rfl

theorem bytes_fresh (bytes : List Byte) :
    FileState.bytes (ServerIo.fresh (some bytes) none []).member = bytes := rfl

/-- The list as it is before the first reload, and the file of two users. -/
theorem cardState_twoUsers : CardState (.initial, .fresh (some twoUsers) none []) := by
  refine ⟨rfl, ⟨userFile_twoUsers, fun userId live => ?_, fun userId live => ?_⟩,
    List.length_replicate, fun link entry _ => ?_⟩
  · change userId ∈ liveSlots twoUsers at live
    rw [liveSlots_twoUsers] at live
    simp only [List.mem_cons, List.not_mem_nil, or_false] at live
    rcases live with rfl | rfl <;> decide
  · change userId ∈ liveSlots twoUsers at live
    change (slot twoUsers userId).cardId ≠ 0
    rw [liveSlots_twoUsers] at live
    simp only [List.mem_cons, List.not_mem_nil, or_false] at live
    rcases live with rfl | rfl
    · rw [slot_twoUsers.1, cardId_cardRecord 1 (by decide)]
      decide
    · rw [slot_twoUsers.2, cardId_cardRecord 2 (by decide)]
      decide
  · obtain rfl := List.eq_of_mem_replicate entry
    decide

theorem cardMove_reloadDel : ∀ pData ∈ [reloadFrame, delFrame 2], CardMove pData := by
  intro pData asked
  simp only [List.mem_cons, List.not_mem_nil, or_false] at asked
  rcases asked with rfl | rfl
  · exact .reload asks_reloadFrame
  · exact .del (asks_delFrame 2) (by rw [num_delFrame (by decide)]; decide)
      (by rw [num_delFrame (by decide)]; decide)

/-- The second reload, one of two users being deleted behind the first. -/
theorem reload_agrees_second : ∃ before after,
    runMoves (serverStep (.reference cardCompar_consistent) (.zero 6))
      (.initial, .fresh (some twoUsers) none [])
        [reloadFrame, delFrame 2] = some before ∧
      serverStep (.reference cardCompar_consistent) (.zero 6) before reloadFrame = some after ∧
      (Answered before.2.replies after.2.replies 0#8 serverAck →
        (ListAgrees (.reference cardCompar_consistent) after.2.member.bytes after.1.list ↔
          usedLinks (leftover before.2.member.bytes before.1.list) = [])) :=
  reload_agrees_iff (.reference cardCompar_consistent) (.zero 6) cardState_twoUsers
    cardMove_reloadDel asks_reloadFrame

/-- After a reload with two users, one is deleted: the next reload leaves an entry for it
in the list, or the other user twice. -/
theorem reload_stale : ¬ ∀ (lib : CardSearch) (stationAddr : Image 6) (state : Server × ServerIo)
    (moves : List ServerData)
    (reload : ServerData), CardState state → (∀ pData ∈ moves, CardMove pData) →
      Asks reload .listReload →
    ∃ before after, runMoves (serverStep lib stationAddr) state moves = some before ∧
      serverStep lib stationAddr before reload = some after ∧
      (Answered before.2.replies after.2.replies 0#8 serverAck →
        ListAgrees lib after.2.member.bytes after.1.list) := by
  intro always
  let lib : CardSearch := .reference cardCompar_consistent
  have nonempty {bytes : List Byte} (live : liveSlots bytes ≠ []) : bytes ≠ [] := by
    rintro rfl
    exact live liveSlots_empty
  -- the first reload
  have start : FileState.bytes (ServerIo.fresh (some twoUsers) none []).member = twoUsers :=
    bytes_fresh twoUsers
  have first :=
    @serverStep_reload reloadFrame .initial (.fresh (some twoUsers) none []) lib (.zero 6)
      asks_reloadFrame rfl
    (by rw [start]; exact userFile_twoUsers)
      (by rw [start]; exact nonempty (by rw [liveSlots_twoUsers]; decide))
    (by rw [start, liveSlots_twoUsers, cardState_twoUsers.size]; decide)
  rw [start] at first
  obtain ⟨⟨server, io⟩, reloaded, left, -⟩ := first
  have held : io.member.bytes = twoUsers := left.member
  have sorted : server.list = lib.qsort (overwrite Server.initial.list 0 (liveLinks twoUsers)) :=
    left.list
  have many := (userFile_twoUsers.usedLinks_reloaded lib Server.initial.list).length_eq
  rw [← sorted, List.length_append, liveLinks, List.length_map, liveSlots_twoUsers] at many
  -- the delete
  obtain ⟨⟨server', io'⟩, deleted, left'⟩ :=
    @serverStep_writes (delFrame 2) server io lib (.zero 6) (.zero 1058)
    (.del (asks_delFrame 2)) left.working
  have ran : runMoves (serverStep lib (.zero 6)) (.initial, .fresh (some twoUsers) none [])
      [reloadFrame, delFrame 2] =
      some (server', io') := by
    rw [runMoves, reloaded]
    exact runMoves_single deleted
  obtain ⟨_, same, working, member, size, tidy⟩ :=
    cardState_twoUsers.run lib (.zero 6) cardMove_reloadDel
  obtain rfl := Option.some.inj (ran.symm.trans same)
  have one : (liveSlots io'.member.bytes).length = 1 := by
    have users := userFile_twoUsers.liveUsers_storeUser (.del (asks_delFrame 2))
    rw [← held, ← left'.member, liveEffect, num_delFrame (by decide), if_neg (by decide),
      (asks_delFrame 2).1, held] at users
    have both : liveUsers twoUsers = [1, 2].toFinset := congrArg List.toFinset liveSlots_twoUsers
    rw [← card_liveUsers, users, both]
    decide
  have present : io'.member.bytes ≠ [] := nonempty fun none_left => by
    rw [none_left] at one
    cases one
  -- the second reload
  obtain ⟨before, after, ran', again, agrees⟩ :=
    always lib (.zero 6) _ _ reloadFrame cardState_twoUsers cardMove_reloadDel asks_reloadFrame
  obtain rfl := Option.some.inj (ran.symm.trans ran')
  obtain ⟨next, reloaded', left'', acked⟩ :=
    @serverStep_reload reloadFrame server' io' lib (.zero 6) asks_reloadFrame working
    member.file present (by rw [one, size]; decide)
  obtain rfl := Option.some.inj (reloaded'.symm.trans again)
  have agreed := agrees acked
  rw [left''.member, left''.list, listAgrees_iff lib member tidy, leftover, one, left'.list]
    at agreed
  have parts : usedLinks server.list = usedLinks (server.list.take 1) ++
      usedLinks (server.list.drop 1) := by
    rw [usedLinks, usedLinks, usedLinks, ← List.filter_append, List.take_append_drop]
  have few : (usedLinks (server.list.take 1)).length ≤ 1 :=
    Nat.le_trans (List.length_filter_le ..) (by rw [List.length_take]; omega)
  rw [parts, agreed, List.append_nil] at many
  simp only [List.length_cons, List.length_nil] at many
  omega

end WifiAccess

import WifiAccess.Door.Soundness
import WifiAccess.Door.Visit

/-! A card event among commands. Where the commands leave the entry it has found and the
slot it is about to write alone, it comes to what it comes to in one go after the commands
before its read. -/

namespace WifiAccess

open DoorProg DoorState

/-! ## What is left to do -/

/-- The result of the event, the openings to come and the record whose state is to be
written. -/
structure CheckDue where
  value : Option Unit
  opened : Nat
  stored : Option UserInfo

def CheckPoint.due (device : Device) (event : EventSet) : CheckPoint → CheckDue
  | lookup | entry _ | record .. => ⟨some (), 0, none⟩
  | compare _ user =>
    if user.cardId ≠ device.readCardId.toNat then ⟨some (), 0, none⟩
    else
      match userCheckDecide device event user with
      | none => ⟨none, 0, none⟩
      | some verdict => ⟨some (), verdict.opens.toNat, verdict.stored? device user⟩
  | store user => ⟨some (), 1, some user⟩
  | opening => ⟨some (), 1, none⟩
  | finished value => ⟨value, 0, none⟩

def CheckPoint.beforeRead : CheckPoint → Bool
  | lookup | entry _ | record .. => true
  | compare .. | store _ | opening | finished _ => false

/-- The files once the state has been written. -/
def ServerIo.pend (io : ServerIo) : Option UserInfo → ServerIo
  | none => io
  | some user => io.patch (stateOff user) (stateData user)

/-- An add or a delete is of another user, and a reload finds the whole slot in the file. -/
def ServerCmd.Clears (cmd : ServerCmd) (pData : ServerData) (user : UserInfo) (file : FileState) :
    Prop :=
  user.userId ≠ 0 →
    match cmd with
    | userAdd | userDel => pData.num 1 2 ≠ user.userId
    | listReload => slotOffset user.userId + 1058 ≤ file.bytes.length
    | connect | timesync | attGet | attDel | userCrcGet => True

/-- The read is of the user that the search finds, the card is compared with an entry of its
number, and no command touches the slot of a state to be written. -/
def Visit.Undisturbed (lib : CardSearch) (device : Device) (event : EventSet) (visit : Visit) :
    VisitMove → Prop
  | .check =>
    match visit.point with
    | .record _ userId =>
      ∃ found, lib.bsearch (cardKey device.readCardId) visit.server.list = some found ∧
        (visit.server.list.getD found (.zero 6)).userId = userId
    | .compare index _ => (visit.server.list.getD index (.zero 6)).cardId = device.readCardId.toNat
    | _ => True
  | .command pData =>
    ∀ cmd user, ServerCmd.ofByte (pData.byte 0) = some cmd →
      (visit.point.due device event).stored = some user →
      cmd.Clears pData user visit.io.member

/-- Between two of the commands, the event in one go has the result and opens the door as
often, and with the commands behind it this is what is left. -/
def HandledAt (lib : CardSearch) (stationAddr : Image 6) (device : Device) (event : EventSet)
    (origin : Server × ServerIo) (done : List ServerData) (value : Option Unit) (opened : Nat)
    (now : Server × ServerIo) : Prop :=
  ∃ before after mid ran, done = before ++ after ∧
    runMoves (serverStep lib stationAddr) origin before = some mid ∧
    (userCheck device event).run lib
      (.fresh mid.1.list mid.2.member.content mid.2.attendance.content) = ran ∧
    ran.1 = value ∧ ran.2.opened = opened ∧
    runMoves (serverStep lib stationAddr) (mid.1, mid.2.withContent ran.2.member.content)
      after = some now

section Steps

variable {lib : CardSearch} {stationAddr : Image 6} {device : Device} {event : EventSet}
  {origin : Server × ServerIo} {done : List ServerData}

theorem HandledAt.extend {value : Option Unit} {opened : Nat} {now next : Server × ServerIo}
    {pData : ServerData}
    (handled : HandledAt lib stationAddr device event origin done value opened now)
    (stepped : serverStep lib stationAddr now pData = some next) :
    HandledAt lib stationAddr device event origin (done ++ [pData]) value opened next := by
  obtain ⟨before, after, mid, ran, rfl, reached, checked, result, openings, left⟩ := handled
  refine ⟨before, after ++ [pData], mid, ran, List.append_assoc .., reached, checked, result,
    openings, ?_⟩
  rw [runMoves_append left]
  exact runMoves_single stepped

/-- The event right after all of the commands so far. -/
theorem HandledAt.last {mid : Server × ServerIo} {ran : Option Unit × DoorState}
    (reached : runMoves (serverStep lib stationAddr) origin done = some mid)
    (checked : (userCheck device event).run lib
      (.fresh mid.1.list mid.2.member.content mid.2.attendance.content) = ran) :
    HandledAt lib stationAddr device event origin done ran.1 ran.2.opened
      (mid.1, mid.2.withContent ran.2.member.content) :=
  ⟨done, [], mid, ran, (List.append_nil done).symm, reached, checked, rfl, rfl, rfl⟩

theorem ServerCmd.Clears.spares {cmd : ServerCmd} {pData : ServerData} {user : UserInfo}
    {file : FileState} (clears : cmd.Clears pData user file) (present : file.content.isSome) :
    cmd.Spares pData (stateOff user) (stateData user) file := by
  unfold stateOff stateData
  by_cases zero : user.userId = 0
  · rw [if_pos zero, if_pos zero]
    cases cmd with
    | userAdd | userDel => exact fun _ => .inr (Nat.zero_le _)
    | listReload => exact ⟨present, Nat.zero_le _⟩
    | connect | timesync | attGet | attDel | userCrcGet => trivial
  · have clears := clears zero
    rw [if_neg zero, if_neg zero]
    cases cmd with
    | userAdd | userDel =>
      intro named
      rw [Image.size]
      have other : pData.num 1 2 ≠ user.userId := clears
      generalize user.userId = userId at *
      unfold slotOffset
      omega
    | listReload =>
      refine ⟨present, ?_⟩
      rw [Image.size]
      exact clears
    | connect | timesync | attGet | attDel | userCrcGet => trivial

/-- A command that clears the state to be written does the same before and after it. -/
theorem serverStep_pend {cmd : ServerCmd} {pData : ServerData} {server : Server} {io : ServerIo}
    {next : Server × ServerIo} {stored : Option UserInfo}
    (asked : ServerCmd.ofByte (pData.byte 0) = some cmd) (changes : cmd.changesUsers = true)
    (clears : ∀ user, stored = some user → cmd.Clears pData user io.member)
    (present : stored ≠ none → io.member.content.isSome) (working : io.faults = [])
    (stepped : serverStep lib stationAddr (server, io) pData = some next) :
    serverStep lib stationAddr (server, io.pend stored) pData =
      some (next.1, next.2.pend stored) := by
  cases stored with
  | none => exact stepped
  | some user =>
    have spares := (clears user rfl).spares (present (Option.some_ne_none user))
    rw [ServerIo.pend, serverStep_patched lib stationAddr asked changes (offEntries_state user)
      spares working, stepped]
    rfl

/-! ## The steps of the event -/

/-- The state is written by the iteration itself or behind it. -/
theorem withContent_settle (io : ServerIo) (state : DoorState) (user : UserInfo)
    (verdict : Verdict) :
    io.withContent (state.settle device event user verdict).member.content =
      (io.withContent state.member.content).pend (verdict.stored? device user) := by
  rw [content_settle]
  cases verdict.stored? device user with
  | none => rfl
  | some stored => rfl

/-- What the rest of the event comes to after the read is what one iteration at the read
comes to. -/
theorem handled_read {server : Server} {io : ServerIo} {found index userId : Nat}
    (card : event.Has userCheckCardIn ∨ event.Has userCheckCardOut)
    (reached : runMoves (serverStep lib stationAddr) origin done = some (server, io))
    (searched : lib.bsearch (cardKey device.readCardId) server.list = some found)
    (named : (server.list.getD found (.zero 6)).userId = userId) :
    let fetched :=
  (addDelGetOneUser (.setUserId (.zero 1058) userId) getOneUser).exec io.member.content
    let point : CheckPoint := .afterRead index fetched.1.2
    HandledAt lib stationAddr device event origin done (point.due device event).value
      (point.due device event).opened
      (server, (io.withContent fetched.2).pend (point.due device event).stored) := by
  have matched : (server.list.getD found (.zero 6)).cardId = device.readCardId.toNat := by
    obtain ⟨link, listed, same⟩ := lib.bsearch_found _ _ _ searched
    rw [cardCompar_eq, cardId_cardKey] at same
    rw [List.getD_eq_getElem?_getD, listed, Option.getD_some, same]
  have ran :=
    @userCheck_found lib device event (.fresh server.list io.member.content io.attendance.content)
      found card searched
  have fetched : (addDelGetOneUser (.setUserId (.zero 1058) userId) getOneUser).exec
      io.member.content =
      ((fetch (.fresh io.member.content) (server.list.getD found (.zero 6))).1,
        (fetch (.fresh io.member.content) (server.list.getD found (.zero 6))).2.content) := by
    rw [← named]
    rfl
  simp only [list_fresh, member_fresh, matched] at ran
  rw [fetched]
  generalize fetch (.fresh io.member.content) (server.list.getD found (.zero 6)) = read at ran ⊢
  obtain ⟨⟨status, user⟩, member⟩ := read
  dsimp only [CheckPoint.afterRead] at ran ⊢
  by_cases broken : user.computedCrc ≠ user.crc
  · rw [if_pos (.inl broken)] at ran
    rw [if_pos broken]
    exact .last reached ran
  rw [if_neg broken]
  by_cases other : user.cardId ≠ device.readCardId.toNat
  · rw [if_pos (.inr other)] at ran
    rw [CheckPoint.due, if_pos other]
    exact .last reached ran
  rw [if_neg (not_or_intro broken other)] at ran
  rw [CheckPoint.due, if_neg other]
  cases decided : userCheckDecide device event user with
  | none =>
    simp only [decided] at ran
    exact .last reached ran
  | some verdict =>
    simp only [decided] at ran
    have handled := HandledAt.last reached ran
    rw [opened_settle, opened_withMember, opened_fresh, Nat.zero_add, withContent_settle] at handled
    exact handled

theorem handled_missing {server : Server} {io : ServerIo}
    (card : event.Has userCheckCardIn ∨ event.Has userCheckCardOut)
    (reached : runMoves (serverStep lib stationAddr) origin done = some (server, io))
    (missing : lib.bsearch (cardKey device.readCardId) server.list = none) :
    HandledAt lib stationAddr device event origin done (some ()) 0 (server, io) := by
  have ran :=
    @userCheck_missing lib device event (.fresh server.list io.member.content io.attendance.content)
      card missing
  exact .last reached ran

/-- The record with the swiped number opens the door, and what has been done and is left to
do comes to what one iteration does. -/
structure Visit.Serial (lib : CardSearch) (stationAddr : Image 6) (device : Device)
    (event : EventSet) (origin : Server × ServerIo) (done : List ServerData) (visit : Visit) :
    Prop where
  working : visit.io.faults = []
  present : (visit.point.due device event).stored ≠ none → visit.io.member.content.isSome
  matched : 0 < visit.opened + (visit.point.due device event).opened →
    ∃ user, visit.read = some user ∧ user.cardId = device.readCardId.toNat
  early : visit.point.beforeRead = true →
    visit.opened = 0 ∧ runMoves (serverStep lib stationAddr) origin done =
      some (visit.server, visit.io)
  late : visit.point.beforeRead = false →
    HandledAt lib stationAddr device event origin done (visit.point.due device event).value
      (visit.opened + (visit.point.due device event).opened)
      (visit.server, visit.io.pend (visit.point.due device event).stored)

theorem Visit.Serial.command {visit : Visit} {cmd : ServerCmd} {pData : ServerData}
    {next : Server × ServerIo} (inv : visit.Serial lib stationAddr device event origin done)
    (asked : ServerCmd.ofByte (pData.byte 0) = some cmd) (changes : cmd.changesUsers = true)
    (undisturbed : visit.Undisturbed lib device event (.command pData))
    (stepped : serverStep lib stationAddr (visit.server, visit.io) pData = some next) :
    Visit.Serial lib stationAddr device event origin (done ++ [pData])
      { visit with server := next.1, io := next.2 } := by
  have pended :=
    serverStep_pend asked changes (fun user => undisturbed cmd user asked) inv.present
      inv.working stepped
  refine ⟨serverStep_working lib stationAddr inv.working stepped, fun pending =>
    ?_, inv.matched, fun early => ?_, fun late => ?_⟩
  · exact (serverStep_ready lib stationAddr asked changes ⟨inv.working, inv.present pending⟩
      stepped).present
  · obtain ⟨none_yet, reached⟩ := inv.early early
    refine ⟨none_yet, ?_⟩
    rw [runMoves_append reached]
    exact runMoves_single stepped
  · exact (inv.late late).extend pended

/-- A state is written only on the way to an opening. -/
theorem Verdict.opens_stored {verdict : Verdict} {user stored : UserInfo}
    (writes : verdict.stored? device user = some stored) :
    verdict.opens = true := by
  cases verdict with
  | exit | entry | admin => rfl
  | refused | logged => cases writes

theorem CheckPoint.beforeRead_afterRead (index : Nat) (user : UserInfo) :
    (afterRead index user).beforeRead = false := by
  unfold afterRead
  split
  · rfl
  · rfl

theorem CheckPoint.beforeRead_afterCompare (user : UserInfo) :
    (afterCompare device event user).beforeRead = false := by
  unfold afterCompare
  cases userCheckDecide device event user with
  | none => rfl
  | some verdict =>
    dsimp only
    cases verdict.stored? device user with
    | some stored => rfl
    | none => cases verdict.opens <;> rfl

/-- What is left to do is known when the numbers have been compared. -/
theorem CheckPoint.due_compare (index : Nat) {user : UserInfo}
    (same : user.cardId = device.readCardId.toNat) :
    (compare index user).due device event = (afterCompare device event user).due device event := by
  rw [due, if_neg (not_not_intro same), afterCompare]
  cases userCheckDecide device event user with
  | none => rfl
  | some verdict =>
    dsimp only
    cases writes : verdict.stored? device user with
    | some stored =>
      rw [Verdict.opens_stored writes]
      rfl
    | none => cases verdict.opens <;> rfl

theorem CheckPoint.matched_due {index : Nat} {user : UserInfo}
    (opens : 0 < ((compare index user).due device event).opened) :
    user.cardId = device.readCardId.toNat := by
  by_contra other
  rw [due, if_pos other] at opens
  exact Nat.lt_irrefl 0 opens

theorem CheckPoint.matched_read (index : Nat) {user : UserInfo}
    (opens : 0 < ((afterRead index user).due device event).opened) :
    user.cardId = device.readCardId.toNat := by
  unfold afterRead at opens
  split at opens
  · exact absurd opens (Nat.lt_irrefl 0)
  · exact matched_due opens

theorem Visit.Serial.afterRead {server : Server} {io : ServerIo} {index : Nat} {user : UserInfo}
    (working : io.faults = []) (present : io.member.content.isSome)
    (handled : HandledAt lib stationAddr device event origin done
      ((CheckPoint.afterRead index user).due device event).value
      ((CheckPoint.afterRead index user).due device event).opened
      (server, io.pend ((CheckPoint.afterRead index user).due device event).stored)) :
    Visit.Serial lib stationAddr device event origin done
      ⟨server, io, .afterRead index user, some user, 0⟩ where
  working := working
  present _ := present
  matched opens := ⟨user, rfl, CheckPoint.matched_read index ((Nat.zero_add _).symm ▸ opens)⟩
  early early := by
    rw [CheckPoint.beforeRead_afterRead] at early
    cases early
  late _ := (Nat.zero_add _).symm ▸ handled

theorem Visit.Serial.check {visit next : Visit}
    (card : event.Has userCheckCardIn ∨ event.Has userCheckCardOut)
    (inv : visit.Serial lib stationAddr device event origin done)
    (undisturbed : visit.Undisturbed lib device event .check)
    (stepped : visit.check lib device event = some next) : next.Serial lib stationAddr device event
      origin done := by
  obtain ⟨server, io, point, read, opened⟩ := visit
  obtain ⟨working, present, matched, early, late⟩ := inv
  cases point with
  | lookup =>
    obtain ⟨none_yet, reached⟩ := early rfl
    have opened : opened = 0 := none_yet
    subst opened
    simp only [Visit.check] at stepped
    cases searched : lib.bsearch (cardKey device.readCardId) server.list with
    | none =>
      simp only [searched, Option.some.injEq] at stepped
      subst stepped
      exact ⟨working, fun pending => absurd rfl pending, matched, fun early =>
        absurd early Bool.false_ne_true, fun _ => handled_missing card reached searched⟩
    | some index =>
      simp only [searched, Option.some.injEq] at stepped
      subst stepped
      exact ⟨working, present, matched, fun _ => ⟨rfl, reached⟩, fun late =>
        absurd late.symm Bool.false_ne_true⟩
  | entry index =>
    simp only [Visit.check, Option.some.injEq] at stepped
    subst stepped
    exact ⟨working, present, matched, fun _ => early rfl, fun late =>
      absurd late.symm Bool.false_ne_true⟩
  | record index userId =>
    obtain ⟨none_yet, reached⟩ := early rfl
    obtain ⟨found, searched, named⟩ := undisturbed
    have handled :=
      @handled_read lib stationAddr device event origin done server io found index userId card
        reached searched named
    have opened : opened = 0 := none_yet
    subst opened
    have present := read_present io.member.content (.setUserId (.zero 1058) userId)
    simp only [Visit.check, Visit.exec, Visit.moveTo, Option.some.injEq] at stepped
    generalize (addDelGetOneUser (.setUserId (.zero 1058) userId) getOneUser).exec
      io.member.content = got at handled present stepped
    rw [← stepped]
    exact .afterRead working present handled
  | compare index user =>
    have served : (server.list.getD index (.zero 6)).cardId = device.readCardId.toNat := undisturbed
    have handled := late rfl
    simp only [Visit.check, Visit.moveTo, served] at stepped
    by_cases other : user.cardId ≠ device.readCardId.toNat
    · rw [if_pos other] at stepped
      cases stepped
      rw [CheckPoint.due, if_pos other] at matched handled
      exact ⟨working, fun pending => absurd rfl pending, matched, fun early =>
        absurd early Bool.false_ne_true, fun _ => handled⟩
    · rw [if_neg other, Option.some.injEq] at stepped
      rw [← stepped]
      rw [CheckPoint.due_compare index (not_not.mp other)] at present matched handled
      refine ⟨working, present, matched, fun early => ?_, fun _ => handled⟩
      rw [CheckPoint.beforeRead_afterCompare] at early
      cases early
  | store user =>
    have handled := late rfl
    simp only [Visit.check, Visit.exec, Visit.moveTo, exec_stored, Option.some.injEq] at stepped
    rw [← stepped]
    exact ⟨working, fun pending => absurd rfl pending, matched, fun early =>
      absurd early Bool.false_ne_true, fun _ => handled⟩
  | opening =>
    simp only [Visit.check, Option.some.injEq] at stepped
    subst stepped
    exact ⟨working, fun pending => absurd rfl pending, matched, fun early =>
      absurd early Bool.false_ne_true, fun _ => late rfl⟩
  | finished value => cases stepped

theorem Visit.Serial.step {visit next : Visit} {move : VisitMove}
    (card : event.Has userCheckCardIn ∨ event.Has userCheckCardOut)
    (inv : visit.Serial lib stationAddr device event origin done)
    (undisturbed : visit.Undisturbed lib device event move)
    (stepped : visit.step lib stationAddr device event move = some next) :
    next.Serial lib stationAddr device event origin (done ++ move.frame?.toList) := by
  cases move with
  | check =>
    rw [VisitMove.frame?, Option.toList_none, List.append_nil]
    exact inv.check card undisturbed stepped
  | command pData =>
    simp only [Visit.step] at stepped
    cases asked : ServerCmd.ofByte (pData.byte 0) with
    | none =>
      rw [asked] at stepped
      cases stepped
    | some cmd =>
      simp only [asked] at stepped
      by_cases changes : cmd.changesUsers = true
      · rw [if_pos changes] at stepped
        obtain ⟨left, carried, rfl⟩ := Option.map_eq_some_iff.mp stepped
        exact inv.command asked changes undisturbed carried
      · rw [if_neg changes] at stepped
        cases stepped

theorem Visit.Serial.run {visit final : Visit} {moves : List VisitMove}
    (card : event.Has userCheckCardIn ∨ event.Has userCheckCardOut)
    (inv : visit.Serial lib stationAddr device event origin done)
    (met : MovesMeet (Visit.step lib stationAddr device event)
      (Visit.Undisturbed lib device event) visit moves)
    (ran : runMoves (Visit.step lib stationAddr device event) visit moves = some final) :
    final.Serial lib stationAddr device event origin
      (done ++ moves.filterMap VisitMove.frame?) := by
  induction moves generalizing visit done with
  | nil =>
    cases ran
    rwa [List.filterMap_nil, List.append_nil]
  | cons move rest ih =>
    obtain ⟨next, stepped, remaining⟩ := runMoves_cons ran
    obtain ⟨undisturbed, later⟩ := met
    rw [stepped] at later
    have kept := ih (inv.step card undisturbed stepped) later remaining
    rw [List.append_assoc] at kept
    cases move with
    | command pData => exact kept
    | check => exact kept

end Steps

/-- An event whose commands leave it undisturbed has the result, the openings and the user
file of the event in one go between two of the commands, and opens the door only for a record
with the swiped number. -/
theorem Visit.atomic (lib : CardSearch) (stationAddr : Image 6) (device : Device) (event : EventSet)
    (server : Server) (io : ServerIo) (moves : List VisitMove) (final : Visit)
      (card : event.Has userCheckCardIn ∨ event.Has userCheckCardOut)
    (working : io.faults = [])
    (met : MovesMeet (Visit.step lib stationAddr device event) (Visit.Undisturbed lib device event)
      (.start server io) moves)
    (ran : runMoves (Visit.step lib stationAddr device event) (.start server io) moves =
      some final) :
    (∀ value, final.point = .finished value → ∃ last,
      HandledAt lib stationAddr device event (server, io) (moves.filterMap VisitMove.frame?) value
        final.opened last ∧
        last.1.list = final.server.list ∧ last.2.member.content = final.io.member.content) ∧
      (0 < final.opened → ∃ user, final.read = some user ∧
        user.cardId = device.readCardId.toNat) := by
  have start : Visit.Serial lib stationAddr device event (server, io) [] (.start server io) :=
    ⟨working, fun pending => absurd rfl pending, fun opens => absurd opens (Nat.lt_irrefl 0),
      fun _ => ⟨rfl, rfl⟩,
      fun late => absurd late.symm Bool.false_ne_true⟩
  have serial := start.run card met ran
  rw [List.nil_append] at serial
  constructor
  · intro value ended
    have handled := serial.late (by rw [ended]; rfl)
    rw [ended] at handled
    exact ⟨_, handled, rfl, rfl⟩
  · intro opens
    exact serial.matched (Nat.lt_of_lt_of_le opens (Nat.le_add_right ..))

/-! ## One user, whose card is at the outer reader, and a command after the read -/

section Sole

variable {user : UserInfo} (lib : CardSearch) (stationAddr : Image 6)

def soleServer (user : UserInfo) : Server :=
  { Server.initial with list := user.link :: List.replicate 199 (.zero 6) }

def soleIo (user : UserInfo) : ServerIo := .fresh (some (soleSlot user)) none []

theorem bsearch_soleServer (card : user.cardId = 7) :
    lib.bsearch (cardKey sampleDevice.readCardId) (soleServer user).list = some 0 := by
  have first : cardCompar (cardKey sampleDevice.readCardId) user.link = 0 := by
    rw [cardCompar_eq, cardId_cardKey, user.cardId_link, card]
    rfl
  have rest : CardLink.cardId (.zero 6) = 0 := by decide
  have ordered : Ordered cardCompar (soleServer user).list := by
    refine List.pairwise_cons.mpr ⟨fun link entry => ?_, List.pairwise_replicate.mpr (.inr ?_)⟩
    · rw [List.eq_of_mem_replicate entry, cardCompar_le, rest]
      exact Nat.zero_le _
    · rw [cardCompar_le]
  obtain ⟨index, searched⟩ := Option.isSome_iff_exists.mp
    (lib.bsearch_complete (cardKey sampleDevice.readCardId) _ ordered
      ⟨user.link, List.mem_cons_self, first⟩)
  obtain ⟨link, listed, same⟩ := lib.bsearch_found _ _ _ searched
  cases index with
  | zero => exact searched
  | succ index =>
    have entry : link ∈ List.replicate 199 (Image.zero 6) := List.mem_of_getElem? listed
    rw [List.eq_of_mem_replicate entry, cardCompar_eq, cardId_cardKey, rest] at same
    cases same

theorem read_sole (user : UserInfo) :
    (addDelGetOneUser (.setUserId (.zero 1058) 1) getOneUser).exec (some (soleSlot user)) =
      ((0, user), some (soleSlot user)) := by
  have own : UserInfo.userId (.setUserId (.zero 1058) 1) = 1 :=
    UserInfo.userId_setUserId _ (by decide)
  have size : (soleSlot user).length = 1066 := by simp [soleSlot]
  have whole : ((soleSlot user).drop (slotOffset 1)).take 1058 = user.bytes := by
    rw [← window_inside (by rw [size]; decide)]
    exact congrArg Image.bytes (slot_soleSlot user)
  have loaded : Image.load (UserInfo.setUserId (.zero 1058) 1) user.bytes = user :=
    Image.ext (Image.load_all _ user.size)
  unfold FileProg.exec FileState.fresh
  rw [addDelGetOneUser_get (by rw [own]; decide)]
  simp only [own, Option.getD_some, whole, loaded, Image.length_bytes, if_true]
  rw [grow_within (by rw [size]; decide)]

/-- The user comes in, with an add between the read and the comparison. -/
theorem sole_run {pData : ServerData} (own : user.userId = 1) (valid : user.computedCrc = user.crc)
    (card : user.cardId = 7)
    (decided : userCheckDecide sampleDevice userCheckCardOut user = some .entry)
    (asks : Asks pData .userAdd) :
    ∃ final, runMoves (Visit.step lib stationAddr sampleDevice userCheckCardOut)
      (.start (soleServer user) (soleIo user))
        [.check, .check, .check, .command pData, .check, .check, .check] = some final ∧
      final.point = .finished (some ()) ∧ final.opened = 1 ∧
      final.io.member.content =
        some (splice (storeUser (soleSlot user) (pData.num 1 2) (.stored 1058 pData.bytes 1))
        (stateOff (user.raiseState 0)) (stateData (user.raiseState 0))) ∧
      (pData.num 1 2 ≠ (user.raiseState 0).userId →
        MovesMeet (Visit.step lib stationAddr sampleDevice userCheckCardOut)
        (Visit.Undisturbed lib sampleDevice userCheckCardOut)
          (.start (soleServer user) (soleIo user))
        [.check, .check, .check, .command pData, .check, .check, .check]) := by
  have searched := bsearch_soleServer lib card
  have linked : user.link.userId = 1 := by rw [user.userId_link, own]
  have swiped : user.cardId = sampleDevice.readCardId.toNat := card
  obtain ⟨⟨server, io⟩, carried, left⟩ :=
    @serverStep_writes pData (soleServer user) (soleIo user) lib stationAddr _ (.add asks) rfl
  have list : server.list = (soleServer user).list := left.list
  have served : (server.list.getD 0 (.zero 6)).cardId = sampleDevice.readCardId.toNat := by
    rw [list, ← swiped, ← user.cardId_link]
    rfl
  have first : Visit.step lib stationAddr sampleDevice userCheckCardOut
      (.start (soleServer user) (soleIo user)) .check =
      some ⟨soleServer user, soleIo user, .entry 0, none, 0⟩ := by
    simp only [Visit.step, Visit.check, Visit.start, Visit.moveTo, searched]
  have second : Visit.step lib stationAddr sampleDevice userCheckCardOut
      ⟨soleServer user, soleIo user, .entry 0, none, 0⟩ .check =
        some ⟨soleServer user, soleIo user, .record 0 1, none, 0⟩ := by
    simp only [Visit.step, Visit.check, Visit.moveTo, soleServer, List.getD_cons_zero, linked]
  have third : Visit.step lib stationAddr sampleDevice userCheckCardOut
      ⟨soleServer user, soleIo user, .record 0 1, none, 0⟩ .check =
        some ⟨soleServer user, soleIo user, .compare 0 user, some user, 0⟩ := by
    have content : (soleIo user).member.content = some (soleSlot user) := rfl
    simp only [Visit.step, Visit.check, Visit.exec, Visit.moveTo, content, read_sole,
      CheckPoint.afterRead]
    rw [if_neg (not_not_intro valid)]
    rfl
  have fourth : Visit.step lib stationAddr sampleDevice userCheckCardOut
      ⟨soleServer user, soleIo user, .compare 0 user, some user, 0⟩ (.command pData) =
        some ⟨server, io, .compare 0 user, some user, 0⟩ := by
    simp only [Visit.step, asks.1, ServerCmd.changesUsers, if_true, carried, Option.map_some]
  have fifth : Visit.step lib stationAddr sampleDevice userCheckCardOut
      ⟨server, io, .compare 0 user, some user, 0⟩ .check =
      some ⟨server, io, .store (user.raiseState 0), some user, 0⟩ := by
    simp only [Visit.step, Visit.check, Visit.moveTo, served, CheckPoint.afterCompare, decided]
    rw [if_neg (not_not_intro swiped)]
    rfl
  have sixth : Visit.step lib stationAddr sampleDevice userCheckCardOut
      ⟨server, io, .store (user.raiseState 0), some user, 0⟩ .check =
        some ⟨server, io.pend (some (user.raiseState 0)), .opening, some user, 0⟩ := by
    simp only [Visit.step, Visit.check, Visit.exec, Visit.moveTo, exec_stored]
    rfl
  have seventh : Visit.step lib stationAddr sampleDevice userCheckCardOut
      ⟨server, io.pend (some (user.raiseState 0)), .opening, some user, 0⟩ .check =
        some ⟨server, io.pend (some (user.raiseState 0)), .finished (some ()), some user, 1⟩ := rfl
  refine ⟨⟨server, io.pend (some (user.raiseState 0)), .finished (some ()), some user, 1⟩, ?_, rfl,
    rfl, ?_, fun other => ?_⟩
  · simp only [runMoves, first, second, third, fourth, fifth, sixth, seventh]
  · have bytes : io.member.bytes = storeUser (soleSlot user) (pData.num 1 2)
        (.stored 1058 pData.bytes 1) := left.member
    rw [← bytes]
    rfl
  · simp only [MovesMeet, first, second, third, fourth, fifth, sixth, seventh]
    refine ⟨trivial, trivial, ⟨0, searched, linked⟩, ?_, served, trivial, trivial, trivial⟩
    intro cmd stored asked pending _
    obtain rfl : ServerCmd.userAdd = cmd := Option.some.inj (asks.1.symm.trans asked)
    have due : (CheckPoint.due sampleDevice userCheckCardOut (.compare 0 user)).stored =
        some (user.raiseState 0) := by
      rw [CheckPoint.due, if_neg (not_not_intro swiped), decided]
      rfl
    rw [← Option.some.inj (due.symm.trans pending)]
    exact other

end Sole

/-- The sample user comes in, and its state says so. -/
theorem sampleUser_enters :
    ∃ user : UserInfo, user.userId = 1 ∧ user.cardId = 7 ∧ user.computedCrc = user.crc ∧
    userCheckDecide sampleDevice userCheckCardOut user = some .entry ∧
      (user.raiseState 0).userId = 1 ∧
      (user.raiseState 0).byte 1042 = 1#8 :=
  ⟨(sampleUser 0x40#8 0#8).withCrc, by
    decide +kernel, by decide +kernel, UserInfo.valid_withCrc _, by decide +kernel,
    by decide +kernel, by decide +kernel⟩

/-- The user comes in while another one is added. -/
theorem Visit.atomic_beside :
    ∃ (user : UserInfo) (final : Visit), final.point = .finished (some ()) ∧ final.opened = 1 ∧
    ∃ last, HandledAt (.reference cardCompar_consistent) (.zero 6) sampleDevice userCheckCardOut
      (soleServer user, soleIo user) [addFrame 2 9] (some ()) final.opened last ∧
        last.1.list = final.server.list ∧ last.2.member.content = final.io.member.content := by
  obtain ⟨user, own, card, valid, decided, stored, -⟩ := sampleUser_enters
  obtain ⟨final, ran, ended, opened, -, met⟩ :=
    sole_run (.reference cardCompar_consistent) (.zero 6) own valid card decided (asks_addFrame 2 9)
  have other : (addFrame 2 9).num 1 2 ≠ (user.raiseState 0).userId := by
    rw [num_addFrame (by decide), stored]
    decide
  have atomic :=
    Visit.atomic (.reference cardCompar_consistent) (.zero 6) sampleDevice userCheckCardOut
      (soleServer user)
    (soleIo user) _ final (by decide) rfl (met other) ran
  exact ⟨user, final, ended, opened, atomic.1 (some ()) ended⟩

theorem stateByte {user : UserInfo} (own : user.userId = 1) (bytes : List Byte) :
    (splice bytes (stateOff user) (stateData user)).getD 1050 0#8 = user.byte 1042 := by
  unfold stateOff stateData
  rw [own, if_neg (by decide), if_neg (by decide), getD_splice, Image.size, if_pos (by decide)]
  exact (Image.byte_stored user.bytes 1042 0).trans (if_pos (by decide))

/-- A record that is not active opens no door. -/
theorem unopened_cardRecord {lib : CardSearch} {list : List CardLink} {content : Option (List Byte)}
    {bytes : List Byte} (attendance : Option (List Byte))
    (searched : lib.bsearch (cardKey sampleDevice.readCardId) list = some 0)
    (linked : (list.getD 0 (.zero 6)).userId = 1)
    (stored : content.getD [] = splice bytes (slotOffset 1) (cardRecord 1 7).bytes) :
    ((userCheck sampleDevice userCheckCardOut).run lib (.fresh list content attendance)).2.opened =
      0 := by
  have ran :=
    @userCheck_found lib sampleDevice userCheckCardOut (.fresh list content attendance) 0
      (by decide) searched
  have inside : slotOffset (list.getD 0 (.zero 6)).userId + 1058 ≤
      (FileState.fresh content).bytes.length := by
    rw [linked, FileState.bytes_fresh, stored, length_splice, Image.size]
    exact Nat.le_max_right ..
  obtain ⟨read, -⟩ := fetch_inside (by rw [linked]; decide) inside
  rw [linked, FileState.bytes_fresh, stored, slot, Image.stored_splice] at read
  have inactive : userCheckDecide sampleDevice userCheckCardOut (cardRecord 1 7) =
      some .refused := by decide +kernel
  simp only [list_fresh, member_fresh, read, inactive] at ran
  rw [ran]
  split <;> rfl

/-- The user's record is replaced after it has been read: the door opens, and the state is
written into the new record. -/
theorem Visit.torn : ∃ (user : UserInfo) (moves : List VisitMove) (final : Visit), runMoves
    (Visit.step (.reference cardCompar_consistent) (.zero 6) sampleDevice userCheckCardOut)
      (.start (soleServer user) (soleIo user)) moves = some final ∧
    final.point = .finished (some ()) ∧
    ¬ ∃ last, HandledAt (.reference cardCompar_consistent) (.zero 6) sampleDevice userCheckCardOut
      (soleServer user, soleIo user) (moves.filterMap VisitMove.frame?) (some ())
        final.opened last ∧
        last.2.member.content = final.io.member.content := by
  obtain ⟨user, own, card, valid, decided, stored, raised⟩ := sampleUser_enters
  obtain ⟨final, ran, ended, opened, content, -⟩ :=
    sole_run (.reference cardCompar_consistent) (.zero 6) own valid card decided (asks_addFrame 1 7)
  refine ⟨user, _, final, ran, ended, ?_⟩
  rintro ⟨last, ⟨before, after, mid, ran, split, reached, checked, -, openings, left⟩, same⟩
  have frames : [addFrame 1 7] = before ++ after := split
  rw [num_addFrame (by decide), record_addFrame] at content
  cases before with
  | nil =>
    -- the add comes last, and its state is still there
    obtain rfl := frames
    cases reached
    obtain ⟨next, carried, leaves⟩ := @serverStep_writes (addFrame 1 7) (soleServer user)
      ((soleIo user).withContent ran.2.member.content) (.reference cardCompar_consistent) (.zero 6)
        _ (.add (asks_addFrame 1 7)) rfl
    cases Option.some.inj ((runMoves_single carried).symm.trans left)
    have bytes := leaves.member
    rw [num_addFrame (by decide), record_addFrame, storeUser, if_neg (by decide), FileState.bytes,
      same, content,
      Option.getD_some] at bytes
    have byte := congrArg (fun bytes => bytes.getD 1050 0#8) bytes
    simp only [stateByte stored, raised] at byte
    rw [getD_splice, if_pos (by rw [Image.size]; decide)] at byte
    exact absurd byte (by decide +kernel)
  | cons frame rest =>
    obtain ⟨rfl, rfl, rfl⟩ : addFrame 1 7 = frame ∧ rest = [] ∧ after = [] := by
      obtain ⟨first, others⟩ := List.cons.inj frames
      exact ⟨first, List.append_eq_nil_iff.mp others.symm⟩
    -- the new record opens no door
    obtain ⟨next, carried, leaves⟩ :=
      @serverStep_writes (addFrame 1 7) (soleServer user) (soleIo user)
      (.reference cardCompar_consistent) (.zero 6) _ (.add (asks_addFrame 1 7)) rfl
    cases Option.some.inj ((runMoves_single carried).symm.trans reached)
    have bytes := leaves.member
    rw [num_addFrame (by decide), record_addFrame, storeUser, if_neg (by decide)] at bytes
    have searched := bsearch_soleServer (.reference cardCompar_consistent) card
    rw [← leaves.list] at searched
    have linked : (mid.1.list.getD 0 (.zero 6)).userId = 1 := by
      rw [leaves.list, ← own, ← user.userId_link]
      rfl
    have refused := unopened_cardRecord mid.2.attendance.content searched linked bytes
    rw [checked, openings, opened] at refused
    cases refused

end WifiAccess

import WifiAccess.Door.Soundness

/-! What an iteration does when the read of the user's record fails: the status is
only printed, and the checks go on with what the read has left. -/

namespace WifiAccess

open DoorProg DoorState

/-- How the calls on the user file go until the record is read: `open` fails, `lseek`
fails, or `read` delivers no more than a number of bytes. -/
inductive ReadOutcome where
  | openFails
  | seekFails
  | delivers (count : Nat)

namespace FileState

def failing (outcome : ReadOutcome) : (op : FileOp) → FileState → op.Res × FileState
  | .openCreate, file =>
    match outcome with
    | .openFails => (false, { file with full := false })
    | _ => handle .openCreate file
  | .lseek offset, file =>
    match outcome with
    | .seekFails => (false, { file with full := false })
    | _ => handle (.lseek offset) file
  | .read len, file =>
    match outcome with
    | .delivers count => handle (.read (min len count)) file
    | _ => handle (.read len) file
  | .stat, file => handle .stat file
  | .unlink, file => handle .unlink file
  | .write bytes, file => handle (.write bytes) file
  | .close, file => handle .close file

end FileState

/-- An iteration in which the calls on the user file have this outcome. -/
def DoorState.failing (lib : CardSearch) (outcome : ReadOutcome) :
    (op : DoorOp) → DoorState → op.Res × DoorState
  | .member op, state =>
    ((FileState.failing outcome op state.member).1,
      state.withMember (FileState.failing outcome op state.member).2)
  | .bsearch key, state => handle lib (.bsearch key) state
  | .link index, state => handle lib (.link index) state
  | .attendance op, state => handle lib (.attendance op) state
  | .openDoor, state => handle lib .openDoor state

/-- Neither the door, nor the attendance log, nor a write to the user file. -/
def DoorOp.Harmless : DoorOp → Prop
  | .openDoor | .attendance _ | .member (.write _) | .member .unlink => False
  | .bsearch _ | .link _ | .member _ => True

/-- The iteration ends, and has executed harmless commands only. -/
def DoorProg.Harmless (lib : CardSearch) (outcome : ReadOutcome) (prog : DoorProg (Option Unit))
    (state : DoorState) : Prop :=
  (Prog.run (DoorState.failing lib outcome) prog state).1 = some () ∧
    ∀ op ∈ Prog.trace (DoorState.failing lib outcome) prog state, op.Harmless

/-- The checks from the super administrator's bit on stop the user. -/
def UserInfo.TurnedAway (device : Device) (event : EventSet) (user : UserInfo) : Prop :=
  bitAt user.authority 127 = false ∧
    (user.effective ≠ 1#8 ∨ timeExpired device user = some true ∨
      (timeExpired device user = some false ∧
        (authorityHeld device user = some false ∨
          (authorityHeld device user = some true ∧
            ((event = userCheckCardIn ∧ addrBit user.state device.deviceAddr.toNat = some false) ∨
              (event = userCheckCardOut ∧ addrBit user.state device.deviceAddr.toNat =
                some true))))))

/-- The status and the record that the read leaves, over a cleared record. -/
def fetchFailing (outcome : ReadOutcome) (member : FileState) (link : CardLink) :
    (Int × UserInfo) × FileState :=
  Prog.run (FileState.failing outcome)
    (addDelGetOneUser (UserInfo.setUserId (.zero 1058) link.userId) getOneUser) member

/-- Less than a slot is delivered, and with zeros behind it passes the CRC check, the
card check and the checks that follow. -/
def AcceptsShort (device : Device) (event : EventSet) (bytes : List Byte) (link : CardLink) :
    ReadOutcome → Prop
  | .openFails | .seekFails => False
  | .delivers count =>
    let got := (bytes.drop (slotOffset link.userId)).take (min 1058 count)
    let user := (UserInfo.setUserId (.zero 1058) link.userId).load got
    link.userId ≠ 0 ∧ got.length ≠ 1058 ∧ UserInfo.Valid user ∧ UserInfo.cardId user = link.cardId ∧
      ¬ UserInfo.TurnedAway device event user

section Commands

variable (lib : CardSearch) (outcome : ReadOutcome)

theorem trace_onMember {α : Type} (prog : FileProg α) (state : DoorState) :
    Prog.trace (DoorState.failing lib outcome) (onMember prog) state =
      (Prog.trace (FileState.failing outcome) prog state.member).map .member := by
  induction prog generalizing state with
  | ret value => rfl
  | call op next ih => exact congrArg (DoorOp.member op :: ·) (ih _ _)

theorem failing_onMember {α : Type} (prog : FileProg α) (state : DoorState) :
    Prog.run (DoorState.failing lib outcome) (onMember prog) state =
      ((Prog.run (FileState.failing outcome) prog state.member).1,
        state.withMember (Prog.run (FileState.failing outcome) prog state.member).2) := by
  induction prog generalizing state with
  | ret value => rfl
  | call op next ih => exact ih _ _

/-- A program that opens the door somewhere is not harmless. -/
theorem not_harmless_open {prog : DoorProg (Option Unit)} {state : DoorState}
    (opens : DoorOp.openDoor ∈ Prog.trace (DoorState.failing lib outcome) prog state) :
    ¬ prog.Harmless lib outcome state := fun harmless => harmless.2 _ opens

theorem harmless_done (state : DoorState) : DoorProg.Harmless lib outcome (pure (some ())) state :=
  ⟨rfl, fun _ member => by cases member⟩

theorem not_harmless_none (state : DoorState) : ¬ DoorProg.Harmless lib outcome (pure none) state :=
  fun harmless => by cases harmless.1

/-- The entry in the attendance log begins with a call on its file. -/
theorem trace_addOneAttRecord (device : Device) (user : UserInfo) (event : EventSet)
    (next : Int → DoorProg (Option Unit)) (state : DoorState) : DoorOp.attendance .openCreate ∈
      Prog.trace (DoorState.failing lib outcome)
        (onAttendance (addOneAttRecord device user event) >>= next) state :=
  List.mem_cons_self

theorem not_harmless_log (device : Device) (user : UserInfo) (event : EventSet)
    (next : Int → DoorProg (Option Unit)) (state : DoorState) :
    ¬ DoorProg.Harmless lib outcome (onAttendance (addOneAttRecord device user event) >>= next)
      state :=
  fun harmless => harmless.2 _ (trace_addOneAttRecord lib outcome device user event next state)

/-- Writing a state is followed by the opening of the door. -/
theorem not_harmless_cross (state : Image 16) (userId : Nat) (next : Unit → DoorProg (Option Unit))
    (before : DoorState) :
    ¬ DoorProg.Harmless lib outcome
      (onMember (getSetState state userId setUser) >>= fun _ => openDoor >>= next) before := by
  apply not_harmless_open
  rw [Prog.trace_bind]
  exact List.mem_append_right _ List.mem_cons_self

/-- The checks on a record are harmless exactly if they stop the user. -/
theorem harmless_record (device : Device) (event : EventSet) (user : UserInfo) (state : DoorState) :
    (userCheckRecord device event user).Harmless lib outcome state ↔
      user.TurnedAway device event := by
  have super : (user.authority.getD 15 0#8 &&& (1#8 <<< 7) = 1#8 <<< 7) ↔
      bitAt user.authority 127 = true :=
    mask_eq _ (by decide)
  have apart : userCheckCardIn ≠ userCheckCardOut := by decide
  unfold userCheckRecord UserInfo.TurnedAway
  by_cases admin : bitAt user.authority 127 = true
  · rw [if_pos (super.mpr admin)]
    refine iff_of_false (not_harmless_open lib outcome List.mem_cons_self) fun turned => ?_
    rw [admin] at turned
    cases turned.1
  rw [if_neg (mt super.mp admin)]
  simp only [Bool.not_eq_true] at admin
  by_cases effective : user.effective = 1#8
  swap
  · rw [if_pos effective]
    exact iff_of_true (harmless_done ..) ⟨admin, .inl effective⟩
  rw [if_neg (not_not_intro effective)]
  cases timeExpired device user with
  | none => exact iff_of_false (not_harmless_none lib outcome state) (by simp [effective])
  | some expired =>
    cases expired with
    | true => exact iff_of_true (harmless_done ..) ⟨admin, .inr (.inl rfl)⟩
    | false =>
      simp only [admin, effective, ne_eq,
        not_true_eq_false, Option.some.injEq, Bool.false_eq_true, true_and, false_or]
      cases authorityHeld device user with
      | none => exact iff_of_false (not_harmless_none lib outcome state) (by simp)
      | some held =>
        cases held with
        | false => exact iff_of_true (harmless_done ..) (.inl rfl)
        | true =>
          unfold userCheckSwitch
          by_cases inside : event = userCheckCardIn
          · rw [if_pos inside]
            cases addrBit user.state device.deviceAddr.toNat with
            | none => exact iff_of_false (not_harmless_none lib outcome state) (by simp)
            | some bit =>
              cases bit with
              | false => exact iff_of_true (harmless_done ..) (.inr ⟨rfl, .inl ⟨inside, rfl⟩⟩)
              | true => exact iff_of_false (not_harmless_cross lib outcome _
                _ _ state) (by simp [inside, apart])
          · rw [if_neg inside]
            by_cases outside : event = userCheckCardOut
            · rw [if_pos outside]
              cases addrBit user.state device.deviceAddr.toNat with
              | none => exact iff_of_false (not_harmless_none lib outcome state) (by simp)
              | some bit =>
                cases bit with
                | true => exact iff_of_true (harmless_done ..) (.inr ⟨rfl, .inr ⟨outside, rfl⟩⟩)
                | false =>
                  exact iff_of_false (not_harmless_cross lib outcome _ _ _ state) (by simp [inside])
            · rw [if_neg outside]
              exact iff_of_false (not_harmless_log lib outcome device _ event _ state)
                (by simp [inside, outside])

/-- A record with nothing but a user id is turned away. -/
theorem turnedAway_blank {user : UserInfo} (blank : user.Blank) (device : Device)
    (event : EventSet) :
    user.TurnedAway device event := by
  refine ⟨blank.authority 127, .inl ?_⟩
  rw [blank.effective]
  decide

/-! ## The read -/

theorem addDelGetOneUser_read (user : UserInfo) : addDelGetOneUser user getOneUser = (do
    if ← FileProg.openCreate then
      if ← FileProg.lseek (slotAddr user.userId 0) then
        let got ← FileProg.read 1058
        FileProg.close
        return (if got.length ≠ 1058 then -1 else 0, user.load got)
      else
        FileProg.close
        return (-1, user)
    else
      FileProg.close
      return (-1, user)) := rfl

/-- `open` fails: the record is as before. -/
theorem read_openFails (user : UserInfo) (member : FileState) :
    Prog.trace (FileState.failing .openFails) (addDelGetOneUser user getOneUser) member =
      [.openCreate, .close] ∧
      (Prog.run (FileState.failing .openFails) (addDelGetOneUser user getOneUser) member).1 =
        (-1, user) := by
  rw [addDelGetOneUser_read]
  exact ⟨rfl, rfl⟩

theorem read_seekFails (user : UserInfo) (member : FileState) :
    Prog.trace (FileState.failing .seekFails) (addDelGetOneUser user getOneUser) member =
        [.openCreate, .lseek (slotAddr user.userId 0), .close] ∧
      (Prog.run (FileState.failing .seekFails) (addDelGetOneUser user getOneUser) member).1 =
        (-1, user) := by
  rw [addDelGetOneUser_read]
  exact ⟨rfl, rfl⟩

/-- `read` delivers part of the slot: those bytes are stored over the record. -/
theorem read_delivers (count : Nat) {user : UserInfo} (positive : user.userId ≠ 0)
    (member : FileState) :
    Prog.trace (FileState.failing (.delivers count)) (addDelGetOneUser user getOneUser) member =
        [.openCreate, .lseek (slotAddr user.userId 0), .read 1058, .close] ∧
      let got := (member.bytes.drop (slotOffset user.userId)).take (min 1058 count)
      (Prog.run (FileState.failing (.delivers count)) (addDelGetOneUser user getOneUser) member).1 =
        (if got.length ≠ 1058 then -1 else 0, user.load got) := by
  have small := slotOffset_small user.userId_lt 0 (Nat.zero_le 1058)
  have addr := slotAddr_pos positive user.userId_lt 0 (Nat.zero_le 1058)
  simp only [Nat.add_zero] at addr small
  have opened : Prog.run (FileState.failing (.delivers count)) FileProg.openCreate member =
      FileProg.openCreate.run member := rfl
  have moved (file : FileState) : Prog.run (FileState.failing (.delivers count))
      (FileProg.lseek (slotOffset user.userId)) file =
      (FileProg.lseek (slotOffset user.userId)).run file := rfl
  have fetched (file : FileState) : Prog.run (FileState.failing (.delivers count))
      (FileProg.read 1058) file =
      (FileProg.read (min 1058 count)).run file := rfl
  rw [addDelGetOneUser_read]
  constructor
  · simp only [Prog.trace_bind, opened, addr, moved, FileProg.run_openCreate,
      FileProg.run_lseek small, ↓reduceIte]
    rfl
  · simp only [Prog.run_bind, opened, addr, moved, fetched, FileProg.run_openCreate,
      FileProg.run_lseek small,
      FileProg.run_read, FileState.bytes, Option.getD_some, drop_grow, ↓reduceIte]
    rfl

/-- User id 0 has no slot to seek to. -/
theorem read_delivers_zero (count : Nat) {user : UserInfo} (zero : user.userId = 0)
    (member : FileState) :
    Prog.trace (FileState.failing (.delivers count)) (addDelGetOneUser user getOneUser) member =
        [.openCreate, .lseek (slotAddr 0 0), .close] ∧
      (Prog.run (FileState.failing (.delivers count)) (addDelGetOneUser user getOneUser) member).1 =
        (-1, user) := by
  have moved (file : FileState) : Prog.run (FileState.failing (.delivers count))
      (FileProg.lseek (slotAddr 0 0)) file =
      (FileProg.lseek (slotAddr 0 0)).run file := rfl
  have opened : Prog.run (FileState.failing (.delivers count)) FileProg.openCreate member =
      FileProg.openCreate.run member := rfl
  have negative := slotAddr_zero 0 (by decide)
  rw [addDelGetOneUser_read, zero]
  constructor
  · simp only [Prog.trace_bind, opened, moved, FileProg.run_openCreate,
      FileProg.run_lseek_negative negative,
      Bool.false_eq_true, ↓reduceIte]
    rfl
  · simp only [Prog.run_bind, opened, moved, FileProg.run_openCreate,
      FileProg.run_lseek_negative negative,
      Bool.false_eq_true, ↓reduceIte]
    rfl

theorem trace_fetch (user : UserInfo) (member : FileState) :
    ∀ op ∈ Prog.trace (FileState.failing outcome) (addDelGetOneUser user getOneUser) member,
      (DoorOp.member op).Harmless := by
  have known : ∃ offset, Prog.trace (FileState.failing outcome)
      (addDelGetOneUser user getOneUser) member ⊆
      [.openCreate, .lseek offset, .read 1058, .close] := by
    cases outcome with
    | openFails => exact ⟨0, by rw [(read_openFails user member).1]; simp⟩
    | seekFails => exact ⟨slotAddr user.userId 0, by rw [(read_seekFails user member).1]; simp⟩
    | delivers count =>
      by_cases zero : user.userId = 0
      · exact ⟨slotAddr 0 0, by rw [(read_delivers_zero count zero member).1]; simp⟩
      · exact ⟨slotAddr user.userId 0, by
          rw [(read_delivers count zero member).1]; exact List.Subset.refl _⟩
  obtain ⟨offset, within⟩ := known
  intro op executed
  have listed := within executed
  simp only [List.mem_cons, List.not_mem_nil, or_false] at listed
  rcases listed with rfl | rfl | rfl | rfl <;> trivial

/-- Harmless commands at the start leave the rest to decide. -/
theorem harmless_bind {α : Type} {prog : DoorProg α} {state : DoorState}
    (next : α → DoorProg (Option Unit))
    (calm : ∀ op ∈ Prog.trace (DoorState.failing lib outcome) prog state, op.Harmless) :
    DoorProg.Harmless lib outcome (prog >>= next) state ↔
      (next (Prog.run (DoorState.failing lib outcome) prog state).1).Harmless lib outcome
        (Prog.run (DoorState.failing lib outcome) prog state).2 := by
  unfold DoorProg.Harmless
  rw [Prog.run_bind, Prog.trace_bind]
  constructor
  · rintro ⟨ended, harmless⟩
    exact ⟨ended, fun op member => harmless op (List.mem_append_right _ member)⟩
  · rintro ⟨ended, harmless⟩
    refine ⟨ended, fun op member => ?_⟩
    rcases List.mem_append.mp member with early | late
    · exact calm op early
    · exact harmless op late

/-- A card event that finds an entry: the record is read, and the checks follow. -/
theorem harmless_found {device : Device} {event : EventSet} {state : DoorState} {index : Nat}
    (card : event.Has userCheckCardIn ∨ event.Has userCheckCardOut)
    (found : lib.bsearch (cardKey device.readCardId) state.list = some index) :
    let link := state.list.getD index (.zero 6)
    let user := (fetchFailing outcome state.member link).1.2
    (userCheck device event).Harmless lib outcome state ↔
      ¬ user.Valid ∨ user.cardId ≠ link.cardId ∨ user.TurnedAway device event := by
  intro link user
  have searched : Prog.run (DoorState.failing lib outcome) (bsearch
      (cardKey device.readCardId)) state = (some index, state) := by
    rw [← found]
    rfl
  unfold userCheck
  rw [if_pos card, harmless_bind _ _ _
    (by intro op member; cases List.mem_singleton.mp member; trivial), searched]
  change DoorProg.Harmless lib outcome (DoorProg.link index >>= _) state ↔ _
  rw [harmless_bind _ _ _ (by intro op member; cases List.mem_singleton.mp member; trivial)]
  change DoorProg.Harmless lib outcome (onMember _ >>= _) state ↔ _
  rw [harmless_bind]
  swap
  · rw [trace_onMember]
    intro op member
    obtain ⟨inner, executed, rfl⟩ := List.mem_map.mp member
    exact trace_fetch outcome _ _ inner executed
  rw [failing_onMember]
  change DoorProg.Harmless lib outcome (if user.computedCrc ≠ user.crc then _ else _) _ ↔ _
  by_cases valid : user.Valid
  · have equal : user.computedCrc = user.crc := valid
    rw [if_neg (not_not_intro equal)]
    rw [harmless_bind _ _ _ (by intro op member; cases List.mem_singleton.mp member; trivial)]
    change DoorProg.Harmless lib outcome (if user.cardId ≠ link.cardId then _ else _) _ ↔ _
    by_cases same : user.cardId = link.cardId
    · rw [if_neg (not_not_intro same), harmless_record]
      refine ⟨fun turned => .inr (.inr turned), fun other => ?_⟩
      rcases other with invalid | differ | turned
      · exact (invalid valid).elim
      · exact (differ same).elim
      · exact turned
    · rw [if_pos same]
      exact iff_of_true (harmless_done ..) (.inr (.inl same))
  · have differ : user.computedCrc ≠ user.crc := valid
    rw [if_pos differ]
    exact iff_of_true (harmless_done ..) (.inl valid)

end Commands

/-! ## Failed reads -/

/-- A failed read refuses the card event exactly if it has not delivered, short of a
whole slot, what passes for a record of the card. -/
theorem userCheck_failedRead (lib : CardSearch) (outcome : ReadOutcome) (device : Device)
    (event : EventSet) (state : DoorState) (index : Nat)
    (card : event.Has userCheckCardIn ∨ event.Has userCheckCardOut)
    (found : lib.bsearch (cardKey device.readCardId) state.list = some index) :
    ((fetchFailing outcome state.member (state.list.getD index (.zero 6))).1.1 ≠ 0 →
        (userCheck device event).Harmless lib outcome state) ↔
      ¬ AcceptsShort device event state.member.bytes (state.list.getD index (.zero 6)) outcome := by
  have decided := harmless_found lib outcome card found
  simp only at decided
  rw [decided]
  generalize state.list.getD index (.zero 6) = link
  have own := UserInfo.userId_setUserId (.zero 1058) link.userId_lt
  have blank : UserInfo.TurnedAway device event (.setUserId (.zero 1058) link.userId) :=
    turnedAway_blank (UserInfo.setUserId_blank _) device event
  cases outcome with
  | openFails =>
    rw [fetchFailing, (read_openFails _ _).2]
    exact iff_of_true (fun _ => .inr (.inr blank)) id
  | seekFails =>
    rw [fetchFailing, (read_seekFails _ _).2]
    exact iff_of_true (fun _ => .inr (.inr blank)) id
  | delivers count =>
    by_cases zero : link.userId = 0
    · rw [fetchFailing, (read_delivers_zero count (own.trans zero) _).2]
      exact iff_of_true (fun _ => .inr (.inr blank)) fun accepts => accepts.1 zero
    · have left :=
        (@read_delivers count (.setUserId (.zero 1058) link.userId) (by rwa [own]) state.member).2
      rw [own] at left
      rw [fetchFailing, left, AcceptsShort]
      generalize (state.member.bytes.drop (slotOffset link.userId)).take (min 1058 count) = got
      generalize Image.load (UserInfo.setUserId (.zero 1058) link.userId) got = user
      by_cases short : got.length = 1058
      · simp [short]
      · simp [short, zero, or_iff_not_imp_left]

/-- A super administrator with card 7. -/
def adminSeven : UserInfo := (sampleUser 0x80#8 0#8).withCrc

/-- Two bytes over a blank record reach no further than the user id. -/
private theorem load_blank {got : List Byte} (two : got.length ≤ 2) (userId : Nat) :
    UserInfo.Blank (Image.load (UserInfo.setUserId (.zero 1058) userId) got) := by
  intro i later
  rw [Image.byte_load (by omega), if_neg (by omega)]
  exact UserInfo.setUserId_blank userId i later

/-- The read delivers the user id and nothing of the card number. -/
theorem userCheck_failedRead_cut :
    (fetchFailing (.delivers 2) (soleUser adminSeven none).member adminSeven.link).1.1 ≠ 0 ∧
      (userCheck sampleDevice userCheckCardIn).Harmless (.reference cardCompar_consistent)
        (.delivers 2)
        (soleUser adminSeven none) := by
  have linked : adminSeven.link.userId = 1 := by decide +kernel
  have named : (UserInfo.setUserId (.zero 1058) adminSeven.link.userId).userId = 1 := by
    rw [UserInfo.userId_setUserId _ adminSeven.link.userId_lt, linked]
  have left :=
    (@read_delivers 2 (.setUserId (.zero 1058) adminSeven.link.userId) (by rw [named]; decide)
    (soleUser adminSeven none).member).2
  rw [named] at left
  set got := ((soleUser adminSeven none).member.bytes.drop (slotOffset 1)).take (min 1058 2)
    with shortened
  have two : got.length ≤ 2 := by
    rw [shortened, List.length_take]
    omega
  have failed :
      (fetchFailing (.delivers 2) (soleUser adminSeven none).member adminSeven.link).1.1 ≠ 0 := by
    rw [fetchFailing, left, if_pos (by omega)]
    decide
  refine ⟨failed, ?_⟩
  have refused : ¬ AcceptsShort sampleDevice userCheckCardIn (soleUser adminSeven none).member.bytes
      adminSeven.link (.delivers 2) := by
    intro accepts
    rw [AcceptsShort, linked, ← shortened] at accepts
    obtain ⟨_, _, _, carded, _⟩ := accepts
    have none : UserInfo.cardId (Image.load (UserInfo.setUserId (.zero 1058) 1) got) = 0 :=
      (load_blank two 1).num (Nat.le_refl 2)
    have seven : adminSeven.cardId = 7 := by decide +kernel
    rw [none, adminSeven.cardId_link, seven] at carded
    cases carded
  exact (userCheck_failedRead (.reference cardCompar_consistent) (.delivers 2) sampleDevice
    userCheckCardIn
    (soleUser adminSeven none) 0 (by decide)
    (bsearch_sole _ sampleDevice adminSeven (by decide +kernel))).mpr refused failed

/-- The record without the last byte of its state, which is zero. -/
def cutSlot : List Byte := (soleSlot adminSeven).take 1065

private theorem load_cutSlot :
    Image.load (UserInfo.setUserId (.zero 1058) 1) (adminSeven.bytes.take 1057) = adminSeven := by
  have last : adminSeven.byte 1057 = 0#8 := by decide +kernel
  have short : (adminSeven.bytes.take 1057).length ≤ 1058 := by simp
  apply Image.ext_within
  intro i within
  rw [Image.byte_load short, List.length_take, adminSeven.length_bytes, getD_take]
  by_cases before : i < 1057
  · rw [if_pos (by omega), if_pos before, Image.byte]
  · have index : i = 1057 := by omega
    rw [if_neg (by omega), index, last]
    exact UserInfo.setUserId_blank 1 1057 (by omega)

/-- The file ends one byte before the end of the slot: the read fails and the door opens. -/
theorem userCheck_opensShort :
    ¬ ∀ (lib : CardSearch) (outcome : ReadOutcome) (device : Device) (event : EventSet)
    (state : DoorState) (index : Nat), (event.Has userCheckCardIn ∨ event.Has userCheckCardOut) →
    lib.bsearch (cardKey device.readCardId) state.list = some index →
    (fetchFailing outcome state.member (state.list.getD index (.zero 6))).1.1 ≠ 0 →
    (userCheck device event).Harmless lib outcome state := by
  intro always
  have found :=
    bsearch_sole (.reference cardCompar_consistent) sampleDevice adminSeven (by decide +kernel)
  have card : userCheckCardIn.Has userCheckCardIn ∨
      userCheckCardIn.Has userCheckCardOut := by decide
  have refuses := always _ (.delivers 1058) sampleDevice userCheckCardIn
    (.fresh [adminSeven.link] (some cutSlot) none) 0 card found
  have linked : adminSeven.link.userId = 1 := by decide +kernel
  have got : (cutSlot.drop (slotOffset 1)).take (min 1058 1058) = adminSeven.bytes.take 1057 := by
    simp [cutSlot, soleSlot, slotOffset, List.take_take]
  have accepts : AcceptsShort sampleDevice userCheckCardIn cutSlot adminSeven.link
      (.delivers 1058) := by
    rw [AcceptsShort, linked]
    simp only [got, load_cutSlot]
    refine ⟨by decide, by
      simp, UserInfo.valid_withCrc _, adminSeven.cardId_link.symm, fun turned => ?_⟩
    have admin : bitAt adminSeven.authority 127 = true := by decide +kernel
    have ordinary := turned.1
    rw [admin] at ordinary
    cases ordinary
  exact (userCheck_failedRead _ (.delivers 1058) sampleDevice userCheckCardIn
    (.fresh [adminSeven.link] (some cutSlot) none) 0 card found).mp refuses accepts

end WifiAccess

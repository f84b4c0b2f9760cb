import WifiAccess.Base.Ensures
import WifiAccess.Door.Visit
import WifiAccess.System.Station

/-! One iteration of the check thread while calls on the files may fail. It changes no
record up to its state, and opens the door only on a record of the file that allows it. -/

namespace WifiAccess

open DoorProg DoorState

/-! ## The checks as a program behind their verdict -/

/-- The state is written, the door opened, and an entry added to the log. -/
def crossing (device : Device) (event : EventSet) (user : UserInfo) : DoorProg (Option Unit) := do
  let _ ← onMember (getSetState (.stored 16 user.bytes 1042) user.userId setUser)
  openDoor
  let _ ← onAttendance (addOneAttRecord device user event)
  return some ()

/-- What is done on a verdict. -/
def Verdict.settling (device : Device) (event : EventSet) (user : UserInfo) :
    Verdict → DoorProg (Option Unit)
  | refused => return some ()
  | admin => do
    openDoor
    let _ ← onAttendance (addOneAttRecord device user event)
    return some ()
  | exit => crossing device event (user.clearState device.deviceAddr.toNat)
  | entry => crossing device event (user.raiseState device.deviceAddr.toNat)
  | logged => do
    let _ ← onAttendance (addOneAttRecord device user event)
    return some ()

/-- The checks make no call before their verdict. -/
theorem userCheckRecord_eq (device : Device) (event : EventSet) (user : UserInfo) :
    userCheckRecord device event user =
      match userCheckDecide device event user with
      | none => return none
      | some verdict => verdict.settling device event user := by
  unfold userCheckRecord userCheckDecide
  by_cases admin : user.authority.getD 15 0#8 &&& (1#8 <<< 7) = 1#8 <<< 7
  · rw [if_pos admin, if_pos admin]
    rfl
  rw [if_neg admin, if_neg admin]
  by_cases inactive : user.effective ≠ 1#8
  · rw [if_pos inactive, if_pos inactive]
    rfl
  rw [if_neg inactive, if_neg inactive]
  cases timeExpired device user with
  | none => rfl
  | some expired =>
    cases expired with
    | true => rfl
    | false =>
      cases authorityHeld device user with
      | none => rfl
      | some held =>
        cases held with
        | false => rfl
        | true =>
          unfold userCheckSwitch
          by_cases inside : event = userCheckCardIn
          · rw [if_pos inside, if_pos inside]
            rcases addrBit user.state device.deviceAddr.toNat with _ | _ | _ <;> rfl
          · rw [if_neg inside, if_neg inside]
            by_cases outside : event = userCheckCardOut
            · rw [if_pos outside, if_pos outside]
              rcases addrBit user.state device.deviceAddr.toNat with _ | _ | _ <;> rfl
            · rw [if_neg outside, if_neg outside]
              rfl

/-- An index past the field has no verdict, and the others are as the bits say. -/
theorem addrBit_some {field : List Byte} {addr : Nat} {held : Bool}
    (read : addrBit field addr = some held) :
    held = bitAt field addr := by
  by_cases bound : addr < 128
  · rw [addrBit_eq field bound] at read
    exact (Option.some.inj read).symm
  · rw [addrBit, if_neg (by omega)] at read
    cases read

theorem authorityHeld_some {device : Device} {user : UserInfo} {held : Bool}
    (read : authorityHeld device user = some held) :
    held = (bitAt user.authority 126 || bitAt user.authority device.deviceAddr.toNat) := by
  have everywhere : (user.authority.getD 15 0#8 &&& (1#8 <<< 6) ≠ 0#8) ↔
      bitAt user.authority 126 = true :=
    mask_ne_zero _ (by decide)
  unfold authorityHeld at read
  split at read
  · rename_i set
    rw [everywhere.mp set, Bool.true_or]
    exact (Option.some.inj read).symm
  · rename_i clear
    rw [Bool.eq_false_iff.mpr fun set => clear (everywhere.mpr set), Bool.false_or]
    exact addrBit_some read

theorem userCheckDecide_opens {device : Device} {event : EventSet} {user : UserInfo}
    {verdict : Verdict} (decided : userCheckDecide device event user = some verdict)
    (opens : verdict.opens = true) :
    user.MayCross device event := by
  have super : (user.authority.getD 15 0#8 &&& (1#8 <<< 7) = 1#8 <<< 7) ↔
      bitAt user.authority 127 = true :=
    mask_eq _ (by decide)
  unfold userCheckDecide at decided
  by_cases admin : user.authority.getD 15 0#8 &&& (1#8 <<< 7) = 1#8 <<< 7
  · exact .inl (super.mp admin)
  rw [if_neg admin] at decided
  have closed : (Verdict.refused = verdict ∨ Verdict.logged = verdict) → False := by
    rintro (rfl | rfl) <;> exact absurd opens Bool.false_ne_true
  by_cases effective : user.effective = 1#8
  · rw [if_neg (not_not_intro effective)] at decided
    cases compared : timeExpired device user with
    | none =>
      rw [compared] at decided
      cases decided
    | some expired =>
      rw [compared] at decided
      have meaning := timeExpired_some compared
      cases expired with
      | true => exact (closed (.inl (Option.some.inj decided))).elim
      | false =>
        cases held : authorityHeld device user with
        | none =>
          rw [held] at decided
          cases decided
        | some allowed =>
          rw [held] at decided
          have bits := authorityHeld_some held
          cases allowed with
          | false => exact (closed (.inl (Option.some.inj decided))).elim
          | true =>
            refine .inr ⟨⟨effective, by simpa using meaning, by simpa using bits⟩, ?_⟩
            by_cases inside : event = userCheckCardIn
            · rw [if_pos inside] at decided
              obtain ⟨bit, read, rfl⟩ := Option.map_eq_some_iff.mp decided
              refine .inl ⟨inside, ?_⟩
              rw [← addrBit_some read]
              cases bit with
              | true => rfl
              | false => exact (closed (.inl rfl)).elim
            · rw [if_neg inside] at decided
              by_cases outside : event = userCheckCardOut
              · rw [if_pos outside] at decided
                obtain ⟨bit, read, rfl⟩ := Option.map_eq_some_iff.mp decided
                refine .inr ⟨outside, ?_⟩
                rw [← addrBit_some read]
                cases bit with
                | true => exact (closed (.inl rfl)).elim
                | false => rfl
              · rw [if_neg outside] at decided
                exact (closed (.inr (Option.some.inj decided))).elim
  · rw [if_pos effective] at decided
    exact (closed (.inl (Option.some.inj decided))).elim

/-! ## The calls on the user file -/

/-- Every slot holds the record it held, up to the state. -/
def KeptRecords (before after : List Byte) : Prop :=
  ∀ userId, (slot after userId).field 0 1042 = (slot before userId).field 0 1042

theorem KeptRecords.refl (bytes : List Byte) : KeptRecords bytes bytes := fun _ => rfl

theorem KeptRecords.trans {first second third : List Byte} (one : KeptRecords first second)
    (two : KeptRecords second third) : KeptRecords first third :=
  fun userId => (two userId).trans (one userId)

theorem slot_same {first second : FileState} (same : first.Same second) (userId : Nat) :
    slot first.bytes userId = slot second.bytes userId := by
  apply Image.ext_byte
  intro i
  rw [slot, slot, Image.byte_stored, Image.byte_stored, same]

theorem KeptRecords.of_same {before after : FileState} (same : after.Same before) :
    KeptRecords before.bytes after.bytes :=
  fun userId => congrArg (fun user => user.field 0 1042) (slot_same same userId)

theorem keptRecords_state (bytes : List Byte) (userId : Nat) (state : Image 16) :
    KeptRecords bytes (splice bytes (slotOffset userId + 1042) state.bytes) := by
  intro other
  unfold Image.field slot Image.stored
  rw [window_window _ (by decide), window_window _ (by decide)]
  apply window_splice_apart
  simp only [slotOffset, Image.length_bytes]
  omega

section Calls

open FileProg

/-- Closing, with a value that is known. -/
theorem ensures_close {α : Type} {file : FileState} (value : α) {Post : α → FileState → Prop}
    (post : ∀ next : FileState, next.bytes = file.bytes → Post value next) :
    Ensures (fun _ => True) (do close; return value) file Post :=
  .bind (.close trivial) fun _ next same => .ret trivial (post next same)

/-- What the read of a slot leaves in a cleared record: the slot, or no more than a user id. -/
theorem fetch_ensures {userId : Nat} (bound : userId < 2 ^ 16) (file : FileState) :
    Ensures (fun _ => True) (addDelGetOneUser (.setUserId (.zero 1058) userId) getOneUser) file
      fun got next =>
      next.Same file ∧ (got.2.Blank ∨ (userId ≠ 0 ∧ got.2 = slot file.bytes userId)) := by
  have own := UserInfo.userId_setUserId (.zero 1058) bound
  have blank := UserInfo.setUserId_blank userId
  have bad {bytes : List Byte} (same : ∀ i, bytes.getD i 0#8 = file.bytes.getD i 0#8)
      (middle : FileState)
      (kept : middle.bytes = bytes) : Ensures (fun _ => True)
        (do close; return ((-1 : Int), (UserInfo.setUserId (.zero 1058) userId)))
        middle fun got next => next.Same file ∧
          (got.2.Blank ∨ (userId ≠ 0 ∧ got.2 = slot file.bytes userId)) :=
    ensures_close _ fun next closed => ⟨fun i => by rw [closed, kept, same], .inl blank⟩
  refine .bind (.openCreate trivial) fun opened first atStart => .ite (fun _ => ?_) fun _ =>
    bad (fun _ => rfl) first atStart.1
  refine .bind (.lseek trivial trivial) fun moved second sought =>
    .ite (fun arrived => ?_) fun stayed => ?_
  · obtain ⟨small, pos, grown⟩ := sought.2 arrived
    rw [own] at small pos grown
    have positive : userId ≠ 0 := by
      rintro rfl
      exact slotAddr_zero 0 (by decide) small
    have same (i : Nat) : second.bytes.getD i 0#8 = file.bytes.getD i 0#8 := by
      rw [grown, getD_grow, atStart.1]
    rw [if_neg (by decide), if_neg (by decide), if_pos rfl]
    refine .bind (.read trivial 1058) fun got third read => ensures_close _ fun next closed =>
      ⟨fun i => by rw [closed, read.1, same], ?_⟩
    rcases read.2 with rfl | rfl
    · rcases load_slot second.bytes userId second.pos with blank | whole
      · exact .inl blank
      · refine .inr ⟨positive, whole.trans (Image.ext_byte fun i => ?_)⟩
        rw [Image.byte_stored, slot, Image.byte_stored, same, pos,
          slotAddr_pos positive bound 0 (by decide), Nat.add_zero]
    · left
      rw [Image.load, Image.put_nil]
      exact blank
  · rw [Bool.not_eq_true] at stayed
    exact bad (fun _ => rfl) second ((sought.1 stayed).trans atStart.1)

/-- Storing a state changes no record up to it. -/
theorem setState_ensures (state : Image 16) {userId : Nat} (bound : userId < 2 ^ 16)
    (file : FileState) :
    Ensures (fun _ => True) (getSetState state userId setUser) file fun _ next =>
      KeptRecords file.bytes next.bytes := by
  have bad (middle : FileState) (kept : KeptRecords file.bytes middle.bytes) (status : Int) :
      Ensures (fun _ => True) (do close; return (status, state)) middle fun _ next =>
        KeptRecords file.bytes next.bytes :=
    ensures_close _ fun next closed => by rwa [closed]
  refine .bind (.openCreate trivial) fun opened first atStart => .ite (fun _ => ?_) fun _ =>
    bad first (atStart.1 ▸ .refl _) (-1)
  refine .bind (.lseek trivial trivial) fun moved second sought =>
    .ite (fun arrived => ?_) fun stayed => ?_
  · obtain ⟨small, pos, grown⟩ := sought.2 arrived
    have positive : userId ≠ 0 := by
      rintro rfl
      exact slotAddr_zero 1042 (by decide) small
    have same : KeptRecords file.bytes second.bytes := by
      intro other
      rw [grown, slot_grow, atStart.1]
    rw [if_neg (by decide), if_pos rfl]
    refine .bind (.write trivial trivial) fun count third wrote => ?_
    have kept : KeptRecords file.bytes third.bytes := by
      rcases wrote with ⟨-, stored⟩ | ⟨-, failed⟩
      · rw [stored, pos, slotAddr_pos positive bound 1042 (by decide)]
        exact same.trans (keptRecords_state second.bytes userId state)
      · rwa [failed]
    exact .ite (fun _ => bad third kept (-1)) fun _ => bad third kept 0
  · rw [Bool.not_eq_true] at stayed
    refine bad second ?_ (-1)
    rw [sought.1 stayed, atStart.1]
    exact .refl _

end Calls

/-! ## An iteration -/

namespace DoorProg

variable {α β : Type} (lib : CardSearch) (state : DoorState) (faults : List Bool)

theorem attempt_pure (value : α) :
    (pure value : DoorProg α).attempt lib state faults = (value, state, faults) := rfl

theorem attempt_bind (prog : DoorProg α) (next : α → DoorProg β) :
    (prog >>= next).attempt lib state faults =
      (next (prog.attempt lib state faults).1).attempt lib (prog.attempt lib state faults).2.1
        (prog.attempt lib state faults).2.2 :=
  Prog.run_bind (DoorState.attempt lib) prog next (state, faults)

theorem attempt_onMember (prog : FileProg α) :
    (onMember prog).attempt lib state faults =
      ((prog.attempt state.member faults).1, state.withMember
        (prog.attempt state.member faults).2.1,
        (prog.attempt state.member faults).2.2) := by
  induction prog generalizing state faults with
  | ret value => rfl
  | call op next ih => exact ih _ _ _

theorem attempt_onAttendance (prog : FileProg α) :
    (onAttendance prog).attempt lib state faults =
      ((prog.attempt state.attendance faults).1,
        state.withAttendance (prog.attempt state.attendance faults).2.1,
        (prog.attempt state.attendance faults).2.2) := by
  induction prog generalizing state faults with
  | ret value => rfl
  | call op next ih => exact ih _ _ _

end DoorProg

/-- What a verdict does to the records and the door. -/
theorem settling_attempt (lib : CardSearch) (device : Device) (event : EventSet) (user : UserInfo)
    (verdict : Verdict) (state : DoorState) (faults : List Bool) :
    let final := ((verdict.settling device event user).attempt lib state faults).2.1
    KeptRecords state.member.bytes final.member.bytes ∧
      final.opened = state.opened + verdict.opens.toNat := by
  have crosses (stored : UserInfo) :
      let final := ((crossing device event stored).attempt lib state faults).2.1
      KeptRecords state.member.bytes final.member.bytes ∧ final.opened = state.opened + 1 := by
    have kept :=
      (setState_ensures (.stored 16 stored.bytes 1042) stored.userId_lt state.member faults).2
    simp only [crossing, attempt_bind, attempt_onMember, attempt_onAttendance, attempt_pure]
    exact ⟨kept, rfl⟩
  cases verdict with
  | refused => exact ⟨.refl _, rfl⟩
  | admin | logged =>
    simp only [Verdict.settling, attempt_bind, attempt_onAttendance, attempt_pure]
    exact ⟨.refl _, rfl⟩
  | exit | entry => exact crosses _

/-- Whatever calls fail: an iteration keeps every record up to its state, and opens the door
at most once, on the intact record of a slot that has the card's number and may cross. -/
theorem userCheck_attempt (lib : CardSearch) (device : Device) (event : EventSet)
    (state : DoorState) (faults : List Bool) :
    let final := ((userCheck device event).attempt lib state faults).2.1
    KeptRecords state.member.bytes final.member.bytes ∧
      (final.opened = state.opened ∨ (final.opened = state.opened + 1 ∧
        ∃ userId, userId ≠ 0 ∧ (slot state.member.bytes userId).Valid ∧
          (slot state.member.bytes userId).cardId = device.readCardId.toNat ∧
          (slot state.member.bytes userId).MayCross device event)) := by
  have decides (user : UserInfo) (state : DoorState) (faults : List Bool) :
      let final := ((userCheckRecord device event user).attempt lib state faults).2.1
      KeptRecords state.member.bytes final.member.bytes ∧
        (final.opened = state.opened ∨
          (final.opened = state.opened + 1 ∧ user.MayCross device event)) := by
    rw [userCheckRecord_eq]
    cases decided : userCheckDecide device event user with
    | none => exact ⟨.refl _, .inl rfl⟩
    | some verdict =>
      obtain ⟨kept, opened⟩ := settling_attempt lib device event user verdict state faults
      refine ⟨kept, ?_⟩
      rw [opened]
      cases opens : verdict.opens with
      | false => exact .inl rfl
      | true => exact .inr ⟨rfl, userCheckDecide_opens decided opens⟩
  unfold userCheck
  by_cases card : event.Has userCheckCardIn ∨ event.Has userCheckCardOut
  · rw [if_pos card, attempt_bind]
    have searched : (bsearch (cardKey device.readCardId)).attempt lib state faults =
        (lib.bsearch (cardKey device.readCardId) state.list, state, faults) := rfl
    rw [searched]
    cases found : lib.bsearch (cardKey device.readCardId) state.list with
    | none => exact ⟨.refl _, .inl rfl⟩
    | some index =>
      obtain ⟨link, present, same⟩ := lib.bsearch_found _ _ _ found
      rw [cardCompar_eq, cardId_cardKey] at same
      have entry : state.list.getD index (.zero 6) = link := by
        rw [List.getD_eq_getElem?_getD, present, Option.getD_some]
      have linked (current : DoorState) (faults : List Bool) (list : current.list = state.list) :
          (DoorProg.link index).attempt lib current faults = (link, current, faults) := by
        rw [← entry, ← list]
        rfl
      simp only [attempt_bind, linked _ _ rfl, attempt_onMember]
      obtain ⟨read, shape⟩ := (fetch_ensures link.userId_lt state.member faults).2
      generalize (addDelGetOneUser (.setUserId (.zero 1058) link.userId) getOneUser).attempt
        state.member faults = got at read shape
      obtain ⟨⟨status, user⟩, member, later⟩ := got
      have kept : KeptRecords state.member.bytes member.bytes := .of_same read
      simp only at read shape ⊢
      by_cases broken : user.computedCrc ≠ user.crc
      · rw [if_pos broken]
        exact ⟨kept, .inl rfl⟩
      rw [if_neg broken, attempt_bind, linked _ _ (list_withMember ..)]
      by_cases other : user.cardId ≠ link.cardId
      · rw [if_pos other]
        exact ⟨kept, .inl rfl⟩
      rw [if_neg other]
      obtain ⟨settled, opened⟩ := decides user (state.withMember member) later
      refine ⟨kept.trans settled, ?_⟩
      rcases opened with closed | ⟨opened, may⟩
      · exact .inl closed
      · rcases shape with blank | ⟨positive, whole⟩
        · exact absurd may (blank.no_cross device event)
        · obtain rfl := whole
          exact .inr ⟨opened, link.userId, positive, not_not.mp broken,
            (not_not.mp other).trans same.symm, may⟩
  · rw [if_neg card]
    by_cases finger : event.Has userCheckFingerIn ∨ event.Has userCheckFingerOut
    · rw [if_pos finger]
      obtain ⟨settled, closed | ⟨-, may⟩⟩ := decides (.zero 1058) state faults
      · exact ⟨settled, .inl closed⟩
      · exact absurd may (UserInfo.zero_blank.no_cross device event)
    · rw [if_neg finger]
      exact ⟨.refl _, .inl rfl⟩

end WifiAccess

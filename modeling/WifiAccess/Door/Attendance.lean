import WifiAccess.Att.Refinement
import WifiAccess.Door.Soundness
import WifiAccess.Door.StateBit

/-! The log entry of an iteration against the opening of the door and the change
of the user's in/out bit. -/

namespace WifiAccess

open DoorProg DoorState

namespace Verdict

/-- The new value of the in/out bit: outside for an exit, inside for an entry. -/
def direction : Verdict → Option Bool
  | exit => some false
  | entry => some true
  | refused | admin | logged => none

def logs : Verdict → Bool
  | refused => false
  | admin | exit | entry | logged => true

end Verdict

section Files

variable {state : DoorState} {device : Device} {event : EventSet} {user : UserInfo}

private theorem storeState_full (full : (state.storeState user).member.full = true) :
    user.userId ≠ 0 ∧ (state.storeState user).member.bytes =
      writeState state.member.bytes user := by
  rcases state with ⟨list, ⟨content, pos, before⟩, attendance, opened⟩
  simp only [storeState, member_withMember] at full ⊢
  by_cases zero : user.userId = 0
  · rw [zero, getSetState_zero] at full
    cases full
  · rw [getSetState_set _ zero user.userId_lt]
    exact ⟨zero, rfl⟩

/-- With all calls carried out, the user file changes in a written state only. -/
theorem bytes_settle {verdict : Verdict}
    (full : (state.settle device event user verdict).member.full = true) :
    (state.settle device event user verdict).member.bytes =
      match verdict.direction with
      | none => state.member.bytes
      | some value => writeState state.member.bytes
        (user.setBit device.deviceAddr.toNat value) := by
  rw [member_settle] at full ⊢
  cases verdict with
  | exit => exact (storeState_full full).2
  | entry => exact (storeState_full full).2
  | _ => rfl

theorem userId_settle (bound : device.deviceAddr.toNat < 128) {verdict : Verdict} {value : Bool}
    (full : (state.settle device event user verdict).member.full = true)
    (crossed : verdict.direction = some value) : user.userId ≠ 0 := by
  rw [member_settle] at full
  cases verdict with
  | exit =>
    rw [← user.userId_setBit bound false]
    exact (storeState_full full).1
  | entry =>
    rw [← user.userId_setBit bound true]
    exact (storeState_full full).1
  | _ => cases crossed

theorem bytes_afterRead {lib : CardSearch}
    (full : (afterRead lib device event state).member.full = true) :
    (afterRead lib device event state).member.bytes = state.member.bytes := by
  unfold afterRead at full ⊢
  split
  · rename_i card
    rw [if_pos card] at full
    cases searched : lib.bsearch (cardKey device.readCardId) state.list with
    | none => rfl
    | some index =>
      simp only [searched, member_withMember] at full ⊢
      rw [FileState.bytes, (fetch_full full).2.2.2]
      rfl
  · rfl

theorem attendance_afterRead {lib : CardSearch} :
    (afterRead lib device event state).attendance = state.attendance := by
  unfold afterRead
  split
  · split <;> simp
  · rfl

end Files

/-! ## The log entry -/

/-- The `state` of a log entry for an event. -/
def eventState (event : EventSet) : Byte :=
  if event.Has userCheckCardIn ∨ event.Has userCheckFingerIn then 0#8 else 1#8

theorem state_attInfoOf (device : Device) (user : UserInfo) (event : EventSet) :
    AttInfo.state (attInfoOf device user event).withCrc = eventState event := by
  simp [AttInfo.state, AttInfo.withCrc, Image.sealAt, attInfoOf, Image.byte_put, eventState]

theorem userId_attInfoOf (device : Device) (user : UserInfo) (event : EventSet) :
    AttInfo.userId (attInfoOf device user event).withCrc = user.userId := by
  have fits : user.userId < 256 ^ 2 := user.num_lt 0 2
  have own : leValue (((Image.zero 53).put 0 (leBytes 2 user.userId)).field 0 2) = user.userId :=
    Image.num_put _ (by decide) fits
  simp [AttInfo.userId, Image.num, AttInfo.withCrc, Image.sealAt, attInfoOf, Image.field_put_apart,
    UserInfo.studentId, UserInfo.name, own]

/-- The log gets one entry for each opening; for a user who is no super
administrator, the entry names the user and the direction in which the user's
bit in the file has changed. -/
def LogsOpening (lib : CardSearch) (device : Device) (event : EventSet) (before final : DoorState)
    (log : List AttInfo) : Prop :=
  ∃ added, Refines final.attendance.bytes (log ++ added) ∧ added.length = final.opened ∧
    ∀ user, identify lib device event before = some user → bitAt user.authority 127 = false →
      ∀ entry ∈ added, entry.userId = user.userId ∧ ∃ inside : Bool,
        entry.state = (if inside then 1#8 else 0#8) ∧
        storedBit before.member.bytes user.userId device.deviceAddr.toNat = !inside ∧
        storedBit final.member.bytes user.userId device.deviceAddr.toNat = inside

/-- The event of a user who is let through names one direction, and the bit that
allows it is the one stored for the user id in the record. -/
def OneDirection (lib : CardSearch) (device : Device) (event : EventSet) (before : DoorState) :
    Prop :=
  ∀ user, identify lib device event before = some user → bitAt user.authority 127 = false →
    user.Passes device →
      (event = userCheckCardIn ∧ (bitAt user.state device.deviceAddr.toNat = true →
        storedBit before.member.bytes user.userId device.deviceAddr.toNat = true)) ∨
      (event = userCheckCardOut ∧ (bitAt user.state device.deviceAddr.toNat = false →
        storedBit before.member.bytes user.userId device.deviceAddr.toNat = false))

section Settled

variable {device : Device} {event : EventSet} {before : DoorState} {user : UserInfo}

theorem Refines.log {bytes : List Byte} {log : List AttInfo} (held : Refines bytes log)
    (room : 8 + 53 * (log.length + 1) < 2 ^ 31) (device : Device) (user : UserInfo)
    (event : EventSet) {pos : Nat} {full : Bool} :
    Refines ((addOneAttRecord device user event).run ⟨some bytes, pos, full⟩).2.bytes
      (log ++ [(attInfoOf device user event).withCrc]) := by
  obtain ⟨next, holds, ran⟩ := held.add (attInfoOf device user event) room pos full
  rw [addOneAttRecord, FileProg.run_bind, ran]
  exact holds

/-- What a verdict adds to the log. -/
theorem attendance_added (event : EventSet) (user : UserInfo) {logBytes : List Byte}
    {log : List AttInfo} (held : Refines logBytes log) (room : 8 + 53 * (log.length + 1) < 2 ^ 31)
    (bound : device.deviceAddr.toNat < 128) (start : before.attendance = .fresh (some logBytes))
    (verdict : Verdict) :
    ∃ added, Refines (before.settle device event user verdict).attendance.bytes (log ++ added) ∧
      added.length = verdict.logs.toNat ∧
      ∀ entry ∈ added, entry.userId = user.userId ∧ entry.state = eventState event := by
  rw [attendance_settle, start]
  have entered (logged : UserInfo) (named : logged.userId = user.userId) :
      ∃ added, Refines ((addOneAttRecord device logged event).run (.fresh (some logBytes))).2.bytes
        (log ++ added) ∧
        added.length = 1 ∧ ∀ entry ∈ added, entry.userId = user.userId ∧
          entry.state = eventState event := by
    refine ⟨[(attInfoOf device logged event).withCrc], held.log room device logged event, rfl, ?_⟩
    intro entry member
    rw [List.mem_singleton.mp member]
    exact ⟨(userId_attInfoOf device logged event).trans named, state_attInfoOf device logged event⟩
  cases verdict with
  | refused =>
    refine ⟨[], ?_, rfl, by simp⟩
    rw [List.append_nil]
    exact held
  | admin => exact entered user rfl
  | exit => exact entered _ (user.userId_setBit bound false)
  | entry => exact entered _ (user.userId_setBit bound true)
  | logged => exact entered user rfl

theorem verdict_inside (ordinary : bitAt user.authority 127 = false) (passes : user.Passes device) :
    verdict device userCheckCardIn user =
      if bitAt user.state device.deviceAddr.toNat then .exit else .refused := by
  simp [verdict, ordinary, passes]

theorem verdict_outside (ordinary : bitAt user.authority 127 = false)
    (passes : user.Passes device) :
    verdict device userCheckCardOut user =
      if bitAt user.state device.deviceAddr.toNat then .refused else .entry := by
  have apart : userCheckCardOut ≠ userCheckCardIn := by decide
  simp [verdict, ordinary, passes, apart]

theorem verdict_mixed (ordinary : bitAt user.authority 127 = false) (passes : user.Passes device)
    (inside : event ≠ userCheckCardIn) (outside : event ≠ userCheckCardOut) :
    verdict device event user = .logged := by
  simp [verdict, ordinary, passes, inside, outside]

theorem storedBit_writeState {bytes : List Byte} {addr : Nat} (bound : addr < 128) (value : Bool) :
    storedBit (writeState bytes (user.setBit addr value)) user.userId addr = value := by
  have read := state_writeState bytes (user.setBit addr value)
  rw [user.userId_setBit bound] at read
  rw [storedBit, read, user.bitAt_setBit bound value bound, if_pos rfl]

end Settled

theorem userCheck_logs_needed {lib : CardSearch} {device : Device} {event : EventSet}
    {before : DoorState} {user : UserInfo} {logBytes : List Byte} {log : List AttInfo}
    (held : Refines logBytes log) (room : 8 + 53 * (log.length + 1) < 2 ^ 31)
    (bound : device.deviceAddr.toNat < 128) (found : identify lib device event before = some user)
    (start : before.attendance = .fresh (some logBytes)) (shut : before.opened = 0)
    (faithful : LogsOpening lib device event before
      ((afterRead lib device event before).settle device event user (verdict device event user))
      log) :
    OneDirection lib device event before := by
  intro same again ordinary passes
  cases Option.some.inj (found.symm.trans again)
  have reading : (afterRead lib device event before).attendance = .fresh (some logBytes) :=
    attendance_afterRead.trans start
  obtain ⟨added, holds, count, changes⟩ := faithful
  obtain ⟨actual, refines, size, entries⟩ :=
    attendance_added event user held room bound reading (verdict device event user)
  obtain rfl := List.append_cancel_left (holds.unique refines)
  rw [opened_settle, opened_afterRead, shut, Nat.zero_add, size] at count
  have changed := changes user found ordinary
  by_cases inside : event = userCheckCardIn
  · refine .inl ⟨inside, ?_⟩
    intro bit
    subst inside
    rw [verdict_inside ordinary passes, if_pos bit] at size changed
    obtain ⟨entry, rfl⟩ := List.length_eq_one_iff.mp size
    obtain ⟨_, value, direction, stored, _⟩ := changed entry (List.mem_singleton_self _)
    have out : entry.state = 0#8 := (entries entry (List.mem_singleton_self _)).2
    cases value with
    | false => exact stored
    | true =>
      rw [out] at direction
      cases direction
  by_cases outside : event = userCheckCardOut
  · refine .inr ⟨outside, ?_⟩
    intro bit
    subst outside
    rw [verdict_outside ordinary passes, if_neg (by simp [bit])] at size changed
    obtain ⟨entry, rfl⟩ := List.length_eq_one_iff.mp size
    obtain ⟨_, value, direction, stored, _⟩ := changed entry (List.mem_singleton_self _)
    have into : entry.state = 1#8 := (entries entry (List.mem_singleton_self _)).2
    cases value with
    | true => exact stored
    | false =>
      rw [into] at direction
      cases direction
  · rw [verdict_mixed ordinary passes inside outside] at count
    cases count

theorem userCheck_logs_enough {lib : CardSearch} {device : Device} {event : EventSet}
    {before : DoorState} {user : UserInfo} {logBytes : List Byte} {log : List AttInfo}
    (held : Refines logBytes log) (room : 8 + 53 * (log.length + 1) < 2 ^ 31)
    (bound : device.deviceAddr.toNat < 128) (found : identify lib device event before = some user)
    (start : before.attendance = .fresh (some logBytes)) (shut : before.opened = 0)
    (full : ((afterRead lib device event before).settle device event user
      (verdict device event user)).member.full = true)
    (single : OneDirection lib device event before) :
    LogsOpening lib device event before
      ((afterRead lib device event before).settle device event user (verdict device event user))
        log := by
  have reading : (afterRead lib device event before).attendance = .fresh (some logBytes) :=
    attendance_afterRead.trans start
  have bytes := bytes_settle full
  rw [bytes_afterRead (full_of_settle _ _ _ _ full)] at bytes
  obtain ⟨added, refines, size, entries⟩ :=
    attendance_added event user held room bound reading (verdict device event user)
  refine ⟨added, refines, ?_, ?_⟩
  · rw [size, opened_settle, opened_afterRead, shut, Nat.zero_add]
    cases admin : bitAt user.authority 127
    · by_cases passes : user.Passes device
      · rcases single user found admin passes with ⟨rfl, _⟩ | ⟨rfl, _⟩
        · rw [verdict_inside admin passes]
          split <;> rfl
        · rw [verdict_outside admin passes]
          split <;> rfl
      · simp [verdict, admin, passes, Verdict.logs, Verdict.opens]
    · simp [verdict, admin, Verdict.logs, Verdict.opens]
  · intro same again ordinary entry member
    cases Option.some.inj (found.symm.trans again)
    obtain ⟨named, direction⟩ := entries entry member
    refine ⟨named, ?_⟩
    by_cases passes : user.Passes device
    · rcases single user found ordinary passes with ⟨rfl, agrees⟩ | ⟨rfl, agrees⟩
      · cases bit : bitAt user.state device.deviceAddr.toNat with
        | true =>
          rw [verdict_inside ordinary passes, if_pos bit] at bytes ⊢
          refine ⟨false, direction, agrees bit, ?_⟩
          rw [bytes]
          exact storedBit_writeState bound false
        | false =>
          rw [verdict_inside ordinary passes, if_neg (by simp [bit])] at size
          exact absurd (List.length_pos_of_mem member) (by rw [size]; decide)
      · cases bit : bitAt user.state device.deviceAddr.toNat with
        | false =>
          rw [verdict_outside ordinary passes, if_neg (by simp [bit])] at bytes ⊢
          refine ⟨true, direction, agrees bit, ?_⟩
          rw [bytes]
          exact storedBit_writeState bound true
        | true =>
          rw [verdict_outside ordinary passes, if_pos bit] at size
          exact absurd (List.length_pos_of_mem member) (by rw [size]; decide)
    · have refused : verdict device event user = .refused := by simp [verdict, ordinary, passes]
      rw [refused] at size
      exact absurd (List.length_pos_of_mem member) (by rw [size]; decide)

/-- With all calls on the user file carried out and a valid log, an iteration logs
exactly its openings, with the change of the user's bit, if and only if the event
of a user who is let through names one direction (and the bit consulted is the
stored one of the user id in the record). -/
theorem userCheck_logs_iff (lib : CardSearch) (device : Device) (event : EventSet)
    (list : List CardLink) (member : Option (List Byte)) (logBytes : List Byte) (log : List AttInfo)
    (bound : device.deviceAddr.toNat < 128) (now : FieldsFit timeLayout device.time.fields)
    (limits : ∀ userId, FieldsFit timeLayout (slot (member.getD []) userId).limitFields)
    (held : Refines logBytes log) (room : 8 + 53 * (log.length + 1) < 2 ^ 31) :
    ∃ final, (userCheck device event).run lib (.fresh list member (some logBytes)) =
      (some (), final) ∧
      (final.member.full = true →
        (LogsOpening lib device event (.fresh list member (some logBytes)) final log ↔
          OneDirection lib device event (.fresh list member (some logBytes)))) := by
  refine ⟨_, userCheck_run lib event bound now limits, ?_⟩
  intro full
  cases found : identify lib device event (.fresh list member (some logBytes)) with
  | none =>
    constructor
    · intro _ user known
      rw [found] at known
      cases known
    · intro _
      refine ⟨[], ?_, ?_, by simp⟩
      · rw [List.append_nil, attendance_afterRead]
        exact held
      · rw [opened_afterRead]
        rfl
  | some user =>
    rw [found] at full
    exact ⟨userCheck_logs_needed held room bound found rfl rfl,
      userCheck_logs_enough held room bound found rfl rfl full⟩

theorem full_storeState (state : DoorState) {user : UserInfo} (positive : user.userId ≠ 0) :
    (state.storeState user).member.full = state.member.full := by
  rcases state with ⟨list, ⟨content, pos, before⟩, attendance, opened⟩
  simp only [storeState, member_withMember, getSetState_set _ positive user.userId_lt]

/-! A device with one ordinary user. -/

section Sole

/-- User 1 with card 7, who is no super administrator and may pass here. -/
structure SoleOrdinary (user : UserInfo) : Prop where
  own : user.userId = 1
  valid : user.Valid
  card : user.cardId = 7
  fits : FieldsFit timeLayout user.limitFields
  ordinary : bitAt user.authority 127 = false
  passes : user.Passes sampleDevice

variable {user : UserInfo}

theorem verdict_sole (sole : SoleOrdinary user) (outside : Bool) :
    verdict sampleDevice (if outside then userCheckCardOut else userCheckCardIn) user =
      if bitAt user.state 0 = outside then .refused else if outside then .entry else .exit := by
  have addr : sampleDevice.deviceAddr.toNat = 0 := rfl
  cases outside with
  | true =>
    rw [if_pos rfl, verdict_outside sole.ordinary sole.passes, addr]
    rfl
  | false =>
    rw [if_neg Bool.false_ne_true, verdict_inside sole.ordinary sole.passes, addr]
    cases bitAt user.state 0 <;> rfl

theorem settle_sole (sole : SoleOrdinary user) {state : DoorState}
    (working : state.member.full = true) (event : EventSet) (outside : Bool) :
    (state.settle sampleDevice event user
      (if outside then .entry else .exit)).member.full = true ∧
      (state.settle sampleDevice event user (if outside then .entry else .exit)).member.bytes =
        writeState state.member.bytes (user.setBit 0 outside) := by
  have addr : sampleDevice.deviceAddr.toNat = 0 := rfl
  have positive (value : Bool) : (user.setBit 0 value).userId ≠ 0 := by
    rw [user.userId_setBit (by decide), sole.own]
    decide
  have full : (state.settle sampleDevice event user
      (if outside then .entry else .exit)).member.full = true := by
    have raised : (user.raiseState 0).userId ≠ 0 := positive true
    have cleared : (user.clearState 0).userId ≠ 0 := positive false
    rw [member_settle, addr]
    cases outside with
    | true =>
      rw [if_pos rfl, full_storeState state raised]
      exact working
    | false =>
      rw [if_neg Bool.false_ne_true, full_storeState state cleared]
      exact working
  refine ⟨full, ?_⟩
  rw [bytes_settle full, addr]
  cases outside <;> rfl

end Sole

/-- An ordinary user who comes in is logged behind the record that is there. -/
theorem userCheck_logs_entry : ∃ logBytes final,
    (userCheck sampleDevice userCheckCardOut).run (.reference cardCompar_consistent)
        (soleUser (sampleUser 0x40#8 0#8).withCrc (some logBytes)) = (some (), final) ∧
          final.opened = 1 ∧
      LogsOpening (.reference cardCompar_consistent) sampleDevice userCheckCardOut
        (soleUser (sampleUser 0x40#8 0#8).withCrc (some logBytes)) final
          [AttInfo.withCrc (.zero 53)] := by
  have sole : SoleOrdinary (sampleUser 0x40#8 0#8).withCrc :=
    ⟨by decide +kernel, UserInfo.valid_withCrc _, by
      decide +kernel, by decide +kernel, by decide +kernel, by decide +kernel⟩
  have out : bitAt (sampleUser 0x40#8 0#8).withCrc.state 0 = false := by decide +kernel
  generalize (sampleUser 0x40#8 0#8).withCrc = user at *
  have now : FieldsFit timeLayout sampleDevice.time.fields := by decide
  have limits := limits_sole user sole.fits
  obtain ⟨logBytes, held⟩ : ∃ logBytes, Refines logBytes [AttInfo.withCrc (.zero 53)] :=
    ⟨_, Refines.single⟩
  obtain ⟨found, read⟩ :=
    identify_sole (.reference cardCompar_consistent) sampleDevice userCheckCardOut user
      (some logBytes)
    sole.own sole.valid sole.card (by decide)
  obtain ⟨final, ran, exactly⟩ :=
    userCheck_logs_iff (.reference cardCompar_consistent) sampleDevice userCheckCardOut
    [user.link] (some (soleSlot user)) logBytes _ (by decide) now limits held (by decide)
  have computed :=
    userCheck_identified (.reference cardCompar_consistent) found (by decide) now limits
  have entry : verdict sampleDevice userCheckCardOut user = .entry := by
    have decided : verdict sampleDevice userCheckCardOut user = _ := verdict_sole sole true
    rwa [out, if_neg Bool.false_ne_true] at decided
  rw [entry] at computed
  have same := congrArg Prod.snd (ran.symm.trans computed)
  dsimp only at same
  have full : final.member.full = true := same ▸ (settle_sole sole read userCheckCardOut true).1
  have opened : final.opened = 1 := by
    rw [same, opened_settle, opened_afterRead]
    rfl
  refine ⟨logBytes, final, ran, opened, (exactly full).mpr ?_⟩
  intro again known ordinary passes
  obtain rfl := Option.some.inj (found.symm.trans known)
  refine .inr ⟨rfl, fun _ => ?_⟩
  rw [storedBit, sole.own]
  exact (congrArg (fun record : UserInfo => bitAt record.state 0) (slot_soleSlot user)).trans out

/-- Both directions at once: an ordinary user is logged and the door stays shut. -/
theorem userCheck_logs_shut :
    ∃ final, (userCheck sampleDevice (userCheckCardIn ||| userCheckCardOut)).run
      (.reference cardCompar_consistent)
        (soleUser (sampleUser 0x40#8 0#8).withCrc (some (AttHeader.withCrc (.zero 8)).bytes)) =
          (some (), final) ∧
      final.member.full = true ∧ final.opened = 0 ∧
      (∃ entry, Refines final.attendance.bytes [entry]) ∧
      ¬ LogsOpening (.reference cardCompar_consistent) sampleDevice
        (userCheckCardIn ||| userCheckCardOut)
        (soleUser (sampleUser 0x40#8 0#8).withCrc (some (AttHeader.withCrc (.zero 8)).bytes))
          final [] := by
  have ordinary : bitAt (sampleUser 0x40#8 0#8).withCrc.authority 127 = false := by decide +kernel
  have passes : (sampleUser 0x40#8 0#8).withCrc.Passes sampleDevice := by decide +kernel
  have limits := limits_sole (sampleUser 0x40#8 0#8).withCrc (by decide +kernel)
  obtain ⟨found, read⟩ := identify_sole (.reference cardCompar_consistent) sampleDevice
    (userCheckCardIn ||| userCheckCardOut) (sampleUser 0x40#8 0#8).withCrc
      (some (AttHeader.withCrc (.zero 8)).bytes) (by decide +kernel) (UserInfo.valid_withCrc _)
    (by decide +kernel) (by decide)
  have computed :=
    userCheck_identified (.reference cardCompar_consistent) found (by decide) (by decide) limits
  rw [verdict_mixed ordinary passes (by decide) (by decide)] at computed
  have start : (afterRead (.reference cardCompar_consistent) sampleDevice
      (userCheckCardIn ||| userCheckCardOut)
      (soleUser (sampleUser 0x40#8 0#8).withCrc
        (some (AttHeader.withCrc (.zero 8)).bytes))).attendance =
      .fresh (some (AttHeader.withCrc (.zero 8)).bytes) := attendance_afterRead.trans rfl
  have small : sampleDevice.deviceAddr.toNat < 128 := by decide
  obtain ⟨added, refines, size, _⟩ := attendance_added (userCheckCardIn ||| userCheckCardOut)
    (sampleUser 0x40#8 0#8).withCrc Refines.empty (by decide) small start .logged
  obtain ⟨entry, rfl⟩ := List.length_eq_one_iff.mp size
  have shut := opened_settle (afterRead (.reference cardCompar_consistent) sampleDevice
    (userCheckCardIn ||| userCheckCardOut)
    (soleUser (sampleUser 0x40#8 0#8).withCrc (some (AttHeader.withCrc (.zero 8)).bytes)))
      sampleDevice
    (userCheckCardIn ||| userCheckCardOut) (sampleUser 0x40#8 0#8).withCrc .logged
  rw [opened_afterRead] at shut
  refine ⟨_, computed, ?_, shut, ⟨entry, refines⟩, ?_⟩
  · rw [member_settle]
    exact read
  · rintro ⟨claimed, holds, count, _⟩
    obtain rfl := List.append_cancel_left (holds.unique refines)
    rw [shut] at count
    cases count

end WifiAccess

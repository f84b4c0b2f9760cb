import WifiAccess.Door.Check
import WifiAccess.User.Slots

/-! What an iteration comes to: one of five verdicts on the record it has read,
and what each of them does to the door and the two files. -/

namespace WifiAccess

open DoorProg DoorState

/-- Active, not expired, and allowed at this device or at all. -/
def UserInfo.Passes (device : Device) (user : UserInfo) : Prop :=
  user.effective = 1#8 ∧ (user.isTimeLimit = 1#8 → device.time.fields < user.limitFields) ∧
    (bitAt user.authority 126 = true ∨ bitAt user.authority device.deviceAddr.toNat = true)

instance (device : Device) (user : UserInfo) : Decidable (user.Passes device) :=
  inferInstanceAs (Decidable (_ ∧ (_ → _) ∧ (_ ∨ _)))

inductive Verdict where
  | refused
  | admin
  | exit
  | entry
  | logged
  deriving DecidableEq

def verdict (device : Device) (event : EventSet) (user : UserInfo) : Verdict :=
  if bitAt user.authority 127 then .admin
  else if ¬ user.Passes device then .refused
  else if event = userCheckCardIn then
    if bitAt user.state device.deviceAddr.toNat then .exit else .refused
  else if event = userCheckCardOut then
    if bitAt user.state device.deviceAddr.toNat then .refused else .entry
  else .logged

namespace DoorState

/-- The state written back to the slot of the record's own user id. -/
def storeState (state : DoorState) (user : UserInfo) : DoorState :=
  state.withMember ((getSetState (.stored 16 user.bytes 1042) user.userId setUser).run
    state.member).2

def openOnce (state : DoorState) : DoorState := state.withOpened (state.opened + 1)

def log (state : DoorState) (device : Device) (user : UserInfo) (event : EventSet) : DoorState :=
  state.withAttendance ((addOneAttRecord device user event).run state.attendance).2

def settle (state : DoorState) (device : Device) (event : EventSet) (user : UserInfo) :
    Verdict → DoorState
  | .refused => state
  | .admin => state.openOnce.log device user event
  | .exit =>
    let user := user.clearState device.deviceAddr.toNat
    ((state.storeState user).openOnce).log device user event
  | .entry =>
    let user := user.raiseState device.deviceAddr.toNat
    ((state.storeState user).openOnce).log device user event
  | .logged => state.log device user event

end DoorState

def Verdict.opens : Verdict → Bool
  | admin | exit | entry => true
  | refused | logged => false

/-- The record that the verdict's log entry is made from. -/
def Verdict.logged? (device : Device) (user : UserInfo) : Verdict → Option UserInfo
  | refused => none
  | admin | logged => some user
  | exit => some (user.clearState device.deviceAddr.toNat)
  | entry => some (user.raiseState device.deviceAddr.toNat)

namespace DoorState

variable (state : DoorState) (device : Device) (event : EventSet) (user : UserInfo)

theorem opened_settle (verdict : Verdict) :
    (state.settle device event user verdict).opened = state.opened + verdict.opens.toNat := by
  cases verdict <;> simp [settle, openOnce, log, storeState, Verdict.opens]

theorem member_settle (verdict : Verdict) :
    (state.settle device event user verdict).member =
      match verdict with
      | .exit => (state.storeState (user.clearState device.deviceAddr.toNat)).member
      | .entry => (state.storeState (user.raiseState device.deviceAddr.toNat)).member
      | _ => state.member := by
  cases verdict <;> simp [settle, openOnce, log, storeState]

theorem full_of_settle {verdict : Verdict}
    (full : (state.settle device event user verdict).member.full = true) : state.member.full =
      true := by
  rw [member_settle] at full
  cases verdict with
  | exit =>
    simp only [storeState, member_withMember] at full
    exact FileProg.full_of_run _ full
  | entry =>
    simp only [storeState, member_withMember] at full
    exact FileProg.full_of_run _ full
  | _ => exact full

theorem attendance_settle (verdict : Verdict) :
    (state.settle device event user verdict).attendance =
      match verdict.logged? device user with
      | none => state.attendance
      | some logged => ((addOneAttRecord device logged event).run state.attendance).2 := by
  cases verdict <;> simp [settle, openOnce, log, storeState, Verdict.logged?]

end DoorState

theorem verdict_opens {device : Device} {event : EventSet} {user : UserInfo} :
    (verdict device event user).opens = true ↔ bitAt user.authority 127 = true ∨
      user.Passes device ∧
      ((event = userCheckCardIn ∧ bitAt user.state device.deviceAddr.toNat = true) ∨
        (event = userCheckCardOut ∧ bitAt user.state device.deviceAddr.toNat = false)) := by
  have apart : userCheckCardIn ≠ userCheckCardOut := by decide
  unfold verdict
  by_cases admin : bitAt user.authority 127 = true
  · simp [admin, Verdict.opens]
  by_cases passes : user.Passes device
  · by_cases inside : event = userCheckCardIn
    · cases bitAt user.state device.deviceAddr.toNat <;>
        simp [admin, passes, inside, apart, Verdict.opens]
    · by_cases outside : event = userCheckCardOut
      · cases bitAt user.state device.deviceAddr.toNat <;>
          simp [admin, passes, outside, apart.symm, Verdict.opens]
      · simp [admin, passes, inside, outside, Verdict.opens]
  · simp [admin, passes, Verdict.opens]

theorem addrBit_eq (field : List Byte) {addr : Nat} (bound : addr < 128) :
    addrBit field addr = some (bitAt field addr) := by
  unfold addrBit
  rw [if_pos (by omega)]
  congr 1
  rw [Bool.eq_iff_iff, decide_eq_true_iff]
  exact mask_eq _ (Nat.mod_lt _ (by decide))

theorem timeString_fits {fields : List Nat} (fits : FieldsFit timeLayout fields) :
    timeString fields = some (printFields timeLayout fields) := by
  have length := length_printFields (by decide) fits
  rw [timeString, if_pos (by rw [length]; decide)]

theorem timeExpired_eq {device : Device} {user : UserInfo}
    (now : FieldsFit timeLayout device.time.fields)
    (limit : FieldsFit timeLayout user.limitFields) :
    timeExpired device user =
      some (decide (user.isTimeLimit = 1#8 ∧ ¬ device.time.fields < user.limitFields)) := by
  unfold timeExpired
  split
  · rename_i limited
    have order := strcmp_printFields (by decide) now limit
    rw [timeString_fits now, timeString_fits limit]
    simp only [Option.bind_eq_bind, Option.bind_some, limited, true_and, ← order]
    simp
  · rename_i unlimited
    simp [unlimited]

/-- The comparison has a result only if both texts fit their buffers. -/
theorem timeExpired_some {device : Device} {user : UserInfo} {expired : Bool}
    (compared : timeExpired device user = some expired) :
    expired = decide (user.isTimeLimit = 1#8 ∧ ¬ device.time.fields < user.limitFields) := by
  have fits {fields : List Nat} {text : List Char} (size : fields.length = 6)
      (printed : timeString fields = some text) : FieldsFit timeLayout fields := by
    unfold timeString at printed
    split at printed
    · rename_i short
      exact FieldsFit.of_length (by decide) size (Nat.le_of_lt_succ short)
    · cases printed
  by_cases limited : user.isTimeLimit = 1#8
  · have both := compared
    rw [timeExpired, if_pos limited] at both
    cases now : timeString device.time.fields with
    | none =>
      rw [now] at both
      cases both
    | some nowTime =>
      cases limit : timeString user.limitFields with
      | none =>
        rw [now, limit] at both
        cases both
      | some limitTime =>
        rw [timeExpired_eq (fits rfl now) (fits rfl limit)] at compared
        exact (Option.some.inj compared).symm
  · rw [timeExpired, if_neg limited] at compared
    simp [← Option.some.inj compared, limited]

theorem authorityHeld_eq (device : Device) (user : UserInfo)
    (bound : device.deviceAddr.toNat < 128) :
    authorityHeld device user =
      some (bitAt user.authority 126 || bitAt user.authority device.deviceAddr.toNat) := by
  unfold authorityHeld
  have everywhere : (user.authority.getD 15 0#8 &&& (1#8 <<< 6) ≠ 0#8) ↔
      bitAt user.authority 126 = true :=
    mask_ne_zero _ (by decide)
  split
  · rename_i held
    simp [everywhere.mp held]
  · rename_i held
    rw [addrBit_eq _ bound]
    simp [Bool.eq_false_iff.mpr (fun set => held (everywhere.mpr set))]

theorem userCheckSwitch_run (lib : CardSearch) {device : Device} (user : UserInfo)
    (event : EventSet) (bound : device.deviceAddr.toNat < 128) (state : DoorState)
    (ordinary : bitAt user.authority 127 = false) (passes : user.Passes device) :
    (userCheckSwitch device event user).run lib state =
      (some (), state.settle device event user (verdict device event user)) := by
  unfold userCheckSwitch verdict
  rw [ordinary]
  simp only [Bool.false_eq_true, ↓reduceIte, passes, not_true_eq_false]
  by_cases inside : event = userCheckCardIn
  · rw [if_pos inside, if_pos inside, addrBit_eq _ bound]
    cases bitAt user.state device.deviceAddr.toNat
    · simp [DoorState.settle]
    · simp [DoorState.settle, DoorState.storeState, DoorState.openOnce, DoorState.log]
  · rw [if_neg inside, if_neg inside]
    by_cases outside : event = userCheckCardOut
    · rw [if_pos outside, if_pos outside, addrBit_eq _ bound]
      cases bitAt user.state device.deviceAddr.toNat
      · simp [DoorState.settle, DoorState.storeState, DoorState.openOnce, DoorState.log]
      · simp [DoorState.settle]
    · rw [if_neg outside, if_neg outside]
      simp [DoorState.settle, DoorState.log]

/-- The checks on a record come to a verdict and do what it says, unless a time
overflows its buffer. -/
theorem userCheckRecord_run (lib : CardSearch) {device : Device} (event : EventSet)
    (user : UserInfo) (bound : device.deviceAddr.toNat < 128) (state : DoorState) :
    (timeExpired device user = none ∧
      ((userCheckRecord device event user).run lib state).1 = none) ∨
      (userCheckRecord device event user).run lib state =
        (some (), state.settle device event user (verdict device event user)) := by
  have super : (user.authority.getD 15 0#8 &&& (1#8 <<< 7) = 1#8 <<< 7) ↔
      bitAt user.authority 127 = true :=
    mask_eq _ (by decide)
  unfold userCheckRecord
  by_cases admin : bitAt user.authority 127 = true
  · right
    rw [if_pos (super.mpr admin)]
    simp [verdict, admin, DoorState.settle, DoorState.openOnce, DoorState.log]
  rw [if_neg (mt super.mp admin), authorityHeld_eq device user bound]
  by_cases effective : user.effective = 1#8
  · rw [if_neg (not_not_intro effective)]
    cases compared : timeExpired device user with
    | none => exact .inl ⟨rfl, rfl⟩
    | some expired =>
      right
      have meaning := timeExpired_some compared
      by_cases passes : user.Passes device
      · obtain ⟨_, unexpired, held⟩ := passes
        have current : expired = false := by simpa [meaning] using unexpired
        have allowed : (bitAt user.authority 126 || bitAt user.authority device.deviceAddr.toNat) =
            true := by
          simpa using held
        rw [current, allowed]
        exact userCheckSwitch_run lib user event bound state (by simpa using admin)
          ⟨effective, unexpired, held⟩
      · have refused : verdict device event user = .refused := by
          simp [verdict, admin, passes]
        rw [refused]
        cases expired with
        | true => rfl
        | false =>
          cases held : bitAt user.authority 126 || bitAt user.authority device.deviceAddr.toNat
          · rfl
          · exact absurd ⟨effective, by simpa using meaning.symm, by simpa using held⟩ passes
  · right
    have inactive : ¬ user.Passes device := fun passes => effective passes.1
    rw [if_pos effective]
    simp [verdict, admin, inactive, DoorState.settle]

/-- A record without any bit set beyond its user id is refused. -/
theorem UserInfo.Blank.refused {user : UserInfo} (blank : user.Blank) (device : Device)
    (event : EventSet) :
    verdict device event user = .refused := by
  have inactive : ¬ user.Passes device := by
    intro passes
    have effective := passes.1
    rw [blank.effective] at effective
    exact absurd effective (by decide)
  simp [verdict, blank.authority, inactive]

theorem UserInfo.Blank.num {user : UserInfo} (blank : user.Blank) {off len : Nat}
    (later : 2 ≤ off) :
    user.num off len = 0 := by
  have zeros : user.field off len = List.replicate len 0#8 := by
    apply ext_getD (by simp)
    intro i
    rw [Image.field, getD_window, getD_zeros]
    split
    · exact blank (off + i) (by omega)
    · rfl
  rw [Image.num, zeros, leValue_zeros]

theorem UserInfo.Blank.limitFits {user : UserInfo} (blank : user.Blank) :
    FieldsFit timeLayout user.limitFields := by
  have year : user.year = 0 := blank.num (by decide)
  have month : user.month = 0#8 := blank 58 (by decide)
  have day : user.day = 0#8 := blank 59 (by decide)
  have hour : user.hour = 0#8 := blank 60 (by decide)
  have minutes : user.minutes = 0#8 := blank 61 (by decide)
  have second : user.second = 0#8 := blank 62 (by decide)
  simp [limitFields, timeLayout, FieldsFit, year, month, day, hour, minutes, second]

/-! ## The record an iteration reads -/

/-- The read of the slot that a list entry names, into a cleared record. -/
def fetch (member : FileState) (link : CardLink) : (Int × UserInfo) × FileState :=
  (addDelGetOneUser (UserInfo.setUserId (.zero 1058) link.userId) getOneUser).run member

/-- The record that passes the CRC and card checks of an event. -/
def identify (lib : CardSearch) (device : Device) (event : EventSet) (state : DoorState) :
    Option UserInfo :=
  if event.Has userCheckCardIn ∨ event.Has userCheckCardOut then
    match lib.bsearch (cardKey device.readCardId) state.list with
    | none => none
    | some index =>
      let link := state.list.getD index (.zero 6)
      let user := (fetch state.member link).1.2
      if user.Valid ∧ user.cardId = link.cardId then some user else none
  else none

/-- The state after the read, before the checks. -/
def afterRead (lib : CardSearch) (device : Device) (event : EventSet) (state : DoorState) :
    DoorState :=
  if event.Has userCheckCardIn ∨ event.Has userCheckCardOut then
    match lib.bsearch (cardKey device.readCardId) state.list with
    | none => state
    | some index => state.withMember (fetch state.member (state.list.getD index (.zero 6))).2
  else state

theorem UserInfo.setUserId_blank (userId : Nat) :
    UserInfo.Blank (.setUserId (.zero 1058) userId) := by
  intro i later
  rw [UserInfo.setUserId, Image.byte_put (by simp), if_neg (by rw [length_leBytes]; omega),
    Image.byte_zero]

theorem CardLink.userId_lt (link : CardLink) : link.userId < 2 ^ 16 := link.num_lt 0 2

/-- What is read is the slot, unless nothing but the user id is set. -/
theorem fetch_record (member : FileState) (link : CardLink) :
    (fetch member link).1.2.Blank ∨
      (link.userId ≠ 0 ∧ (fetch member link).1.2 = slot member.bytes link.userId) := by
  obtain ⟨content, pos, full⟩ := member
  have own := UserInfo.userId_setUserId (.zero 1058) link.userId_lt
  by_cases zero : link.userId = 0
  · left
    rw [fetch, addDelGetOneUser_zero (own.trans zero)]
    exact UserInfo.setUserId_blank _
  · have positive : UserInfo.userId (.setUserId (.zero 1058) link.userId) ≠ 0 := by rwa [own]
    rw [fetch, addDelGetOneUser_get positive, own]
    rcases load_slot (content.getD []) link.userId (slotOffset link.userId) with blank | whole
    · exact .inl blank
    · exact .inr ⟨zero, whole⟩

theorem fetch_inside {member : FileState} {link : CardLink} (positive : link.userId ≠ 0)
    (inside : slotOffset link.userId + 1058 ≤ member.bytes.length) :
    (fetch member link).1.2 = slot member.bytes link.userId ∧
      (fetch member link).2.full = member.full := by
  obtain ⟨content, pos, before⟩ := member
  have own := UserInfo.userId_setUserId (.zero 1058) link.userId_lt
  have named : UserInfo.userId (.setUserId (.zero 1058) link.userId) ≠ 0 := by rwa [own]
  have whole : slotOffset link.userId + 1058 ≤ (content.getD []).length := inside
  have size : (((content.getD []).drop (slotOffset link.userId)).take 1058).length =
      1058 := by simp; omega
  rw [fetch, addDelGetOneUser_get named, own]
  simp only [size, beq_self_eq_true, Bool.and_true, and_true]
  rw [← window_inside whole, Image.load_window]
  rfl

/-- A read that transferred all it was asked for found the whole slot in the file. -/
theorem fetch_full {member : FileState} {link : CardLink}
    (full : (fetch member link).2.full = true) :
    link.userId ≠ 0 ∧ slotOffset link.userId + 1058 ≤ member.bytes.length ∧
      (fetch member link).1.2 = slot member.bytes link.userId ∧
      (fetch member link).2.content = some member.bytes := by
  obtain ⟨content, pos, before⟩ := member
  have own := UserInfo.userId_setUserId (.zero 1058) link.userId_lt
  by_cases zero : link.userId = 0
  · rw [fetch, addDelGetOneUser_zero (own.trans zero)] at full
    cases full
  · have positive : UserInfo.userId (.setUserId (.zero 1058) link.userId) ≠ 0 := by rwa [own]
    rw [fetch, addDelGetOneUser_get positive, own] at full
    simp only [Bool.and_eq_true, beq_iff_eq, List.length_take, List.length_drop] at full
    have inside : slotOffset link.userId + 1058 ≤ (content.getD []).length := by omega
    have whole : slotOffset link.userId + 1058 ≤ (FileState.mk content pos before).bytes.length :=
      inside
    refine ⟨zero, inside, (fetch_inside zero whole).1, ?_⟩
    rw [fetch, addDelGetOneUser_get positive, own]
    simp only
    rw [grow_within (by omega)]
    rfl

/-- One iteration: the read, and the verdict on the record if there is one. It has
no result only if a time of the record that was read overflows its buffer. -/
theorem userCheck_cases (lib : CardSearch) {device : Device} (event : EventSet) (state : DoorState)
    (bound : device.deviceAddr.toNat < 128) :
    ((∃ link, timeExpired device (fetch state.member link).1.2 = none) ∧
        ((userCheck device event).run lib state).1 = none) ∨
      (userCheck device event).run lib state =
        (some (), match identify lib device event state with
          | none => afterRead lib device event state
          | some user =>
            (afterRead lib device event state).settle device event user
              (verdict device event user)) := by
  unfold userCheck identify afterRead
  by_cases card : event.Has userCheckCardIn ∨ event.Has userCheckCardOut
  · simp only [card, ↓reduceIte, run_bind, run_bsearch]
    cases found : lib.bsearch (cardKey device.readCardId) state.list with
    | none => exact .inr rfl
    | some index =>
      simp only [run_bind, run_link, run_onMember, run_ite, run_pure, list_withMember]
      have read : (addDelGetOneUser
          (.setUserId (.zero 1058) (state.list.getD index (.zero 6)).userId)
          getOneUser).run state.member = fetch state.member (state.list.getD index (.zero 6)) := rfl
      rw [read]
      generalize state.list.getD index (.zero 6) = link
      by_cases valid : (fetch state.member link).1.2.Valid
      · have equal : (fetch state.member link).1.2.computedCrc =
            (fetch state.member link).1.2.crc := valid
        rw [if_neg (not_not_intro equal)]
        by_cases same : (fetch state.member link).1.2.cardId = link.cardId
        · rw [if_neg (not_not_intro same), if_pos ⟨valid, same⟩]
          rcases userCheckRecord_run lib event (fetch state.member link).1.2 bound
            (state.withMember (fetch state.member link).2) with ⟨overflow, undefined⟩ | settled
          · exact .inl ⟨⟨link, overflow⟩, undefined⟩
          · exact .inr settled
        · rw [if_pos same, if_neg (fun both => same both.2)]
          exact .inr rfl
      · have differ : (fetch state.member link).1.2.computedCrc ≠
            (fetch state.member link).1.2.crc := valid
        rw [if_pos differ, if_neg (fun both => valid both.1)]
        exact .inr rfl
  · right
    simp only [card, ↓reduceIte]
    by_cases finger : event.Has userCheckFingerIn ∨ event.Has userCheckFingerOut
    · -- a fingerprint event leaves the record cleared
      rw [if_pos finger]
      rcases userCheckRecord_run lib event (.zero 1058) bound state with ⟨overflow, _⟩ | settled
      · rw [timeExpired, if_neg (by rw [UserInfo.isTimeLimit, Image.byte_zero]; decide)] at overflow
        cases overflow
      · rw [settled, UserInfo.zero_blank.refused]
        rfl
    · rw [if_neg finger]
      rfl

theorem userCheck_run (lib : CardSearch) {device : Device} (event : EventSet) {state : DoorState}
    (bound : device.deviceAddr.toNat < 128) (now : FieldsFit timeLayout device.time.fields)
    (limits : ∀ userId, FieldsFit timeLayout (slot state.member.bytes userId).limitFields) :
    (userCheck device event).run lib state =
      (some (), match identify lib device event state with
        | none => afterRead lib device event state
        | some user => (afterRead lib device event state).settle device event user
          (verdict device event user)) := by
  rcases userCheck_cases lib event state bound with ⟨⟨link, overflow⟩, _⟩ | ran
  · have limit : FieldsFit timeLayout (fetch state.member link).1.2.limitFields := by
      rcases fetch_record state.member link with blank | ⟨_, whole⟩
      · exact blank.limitFits
      · rw [whole]
        exact limits link.userId
    rw [timeExpired_eq now limit] at overflow
    cases overflow
  · exact ran

theorem userCheck_identified (lib : CardSearch) {device : Device} {event : EventSet}
    {state : DoorState} {user : UserInfo} (found : identify lib device event state = some user)
    (bound : device.deviceAddr.toNat < 128) (now : FieldsFit timeLayout device.time.fields)
    (limits : ∀ userId, FieldsFit timeLayout (slot state.member.bytes userId).limitFields) :
    (userCheck device event).run lib state =
      (some (), (afterRead lib device event state).settle device event user
        (verdict device event user)) := by
  rw [userCheck_run lib event bound now limits, found]

end WifiAccess

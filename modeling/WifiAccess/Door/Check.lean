import WifiAccess.Att.Database
import WifiAccess.Base.Decimal
import WifiAccess.User.Database

/-! `user_check_thread.c`: one iteration of the thread that decides on an event
and opens the door. -/

namespace WifiAccess

/-- `Time_Typedef` without the output control register. -/
structure TimeValue where
  second : Byte
  minute : Byte
  hour : Byte
  week : Byte
  date : Byte
  month : Byte
  year : Byte
  deriving DecidableEq

/-- The bits that `rt_event_recv` delivers together. -/
abbrev EventSet := BitVec 32

def userCheckCardIn : EventSet := 1#32 <<< 0
def userCheckCardOut : EventSet := 1#32 <<< 1
def userCheckFingerIn : EventSet := 1#32 <<< 2
def userCheckFingerOut : EventSet := 1#32 <<< 3

def EventSet.Has (event bit : EventSet) : Prop := event &&& bit ≠ 0#32

instance (event bit : EventSet) : Decidable (event.Has bit) :=
  inferInstanceAs (Decidable (event &&& bit ≠ 0#32))

/-- What an iteration reads besides the card list and the two files. -/
structure Device where
  readCardId : BitVec 32
  time : TimeValue
  deviceAddr : Byte
  stationAddr : Image 6

inductive DoorOp where
  | bsearch (key : CardLink)
  | link (index : Nat)
  | member (op : FileOp)
  | attendance (op : FileOp)
  | openDoor

/-- `bsearch` returns a position in the list, which is read again through it. -/
def DoorOp.Res : DoorOp → Type
  | bsearch _ => Option Nat
  | link _ => CardLink
  | member op => op.Res
  | attendance op => op.Res
  | openDoor => Unit

abbrev DoorProg := Prog DoorOp DoorOp.Res

namespace DoorProg

variable {α : Type}

def bsearch (key : CardLink) : DoorProg (Option Nat) := Prog.perform (DoorOp.bsearch key)
def link (index : Nat) : DoorProg CardLink := Prog.perform (DoorOp.link index)
def openDoor : DoorProg Unit := Prog.perform DoorOp.openDoor

/-- A program on `/member.bin`. -/
def onMember : FileProg α → DoorProg α
  | .ret value => .ret value
  | .call op next => .call (.member op) fun result => onMember (next result)

/-- A program on `/save_io.bin`. -/
def onAttendance : FileProg α → DoorProg α
  | .ret value => .ret value
  | .call op next => .call (.attendance op) fun result => onAttendance (next result)

end DoorProg

open DoorProg

/-- The search key, with only `card_id` set. -/
def cardKey (cardId : BitVec 32) : CardLink := .put (.zero 6) 2 (leBytes 4 cardId.toNat)

def TimeValue.fields (time : TimeValue) : List Nat :=
  [time.year.toNat + 2000, time.month.toNat, time.date.toNat, time.hour.toNat, time.minute.toNat,
    time.second.toNat]

def UserInfo.limitFields (user : UserInfo) : List Nat :=
  [user.year, user.month.toNat, user.day.toNat, user.hour.toNat, user.minutes.toNat,
    user.second.toNat]

/-- `"%04d-%02d-%02d %02d:%02d:%02d"` -/
def timeLayout : List (Nat × List Char) :=
  [(4, ['-']), (2, ['-']), (2, [' ']), (2, [':']), (2, [':']), (2, [])]

/-- `sprintf` into a `char[20]`. A text that overflows it has no result. -/
def timeString (fields : List Nat) : Option (List Char) :=
  if (printFields timeLayout fields).length < 20 then some (printFields timeLayout fields) else none

def timeExpired (device : Device) (user : UserInfo) : Option Bool :=
  if user.isTimeLimit = 1#8 then do
    let nowTime ← timeString device.time.fields
    let limitTime ← timeString user.limitFields
    return decide (strcmp nowTime limitTime ≥ 0)
  else some false

/-- `(field[addr / 8] & (1 << (addr % 8))) == (1 << (addr % 8))`. An index past the
16 bytes of the field has no result. -/
def addrBit (field : List Byte) (addr : Nat) : Option Bool :=
  if addr / 8 < 16 then
    some (decide (field.getD (addr / 8) 0#8 &&& (1#8 <<< (addr % 8)) = 1#8 <<< (addr % 8)))
  else none

def authorityHeld (device : Device) (user : UserInfo) : Option Bool :=
  if user.authority.getD 15 0#8 &&& (1#8 <<< 6) ≠ 0#8 then some true
  else addrBit user.authority device.deviceAddr.toNat

def UserInfo.clearState (user : UserInfo) (addr : Nat) : UserInfo :=
  user.setState (addr / 8) (user.state.getD (addr / 8) 0#8 &&& ~~~(1#8 <<< (addr % 8)))

def UserInfo.raiseState (user : UserInfo) (addr : Nat) : UserInfo :=
  user.setState (addr / 8) (user.state.getD (addr / 8) 0#8 ||| (1#8 <<< (addr % 8)))

/-- The record that `add_one_att_record` fills in, up to its CRC. -/
def attInfoOf (device : Device) (user : UserInfo) (event : EventSet) : AttInfo :=
  let info := (Image.zero 53).put 0 (leBytes 2 user.userId)
  let info := (info.put 2 user.studentId).put 18 user.name
  let info := (info.put 34 [device.deviceAddr]).put 35 device.stationAddr.bytes
  let info :=
    info.put 41 [if event.Has userCheckCardIn ∨ event.Has userCheckFingerIn then 0#8 else 1#8]
  let info := info.put 42 (leBytes 2 (device.time.year.toNat + 2000))
  let info := (info.put 44 [device.time.month]).put 45 [device.time.date]
  ((info.put 46 [device.time.hour]).put 47 [device.time.minute]).put 48 [device.time.second]

/-- `add_one_att_record`: a failed `att_record_add` is only printed. -/
def addOneAttRecord (device : Device) (user : UserInfo) (event : EventSet) : FileProg Int := do
  let _ ← attRecordAdd (attInfoOf device user event)
  return 0

/-- The switch on the event, which compares the whole set, and the log entry. -/
def userCheckSwitch (device : Device) (event : EventSet) (user : UserInfo) :
    DoorProg (Option Unit) := do
  let addr := device.deviceAddr.toNat
  if event = userCheckCardIn then
    match addrBit user.state addr with
    | none => return none
    | some false => return some ()
    | some true =>
      let user := user.clearState addr
      let _ ← onMember (getSetState (.stored 16 user.bytes 1042) user.userId setUser)
      openDoor
      let _ ← onAttendance (addOneAttRecord device user event)
      return some ()
  else if event = userCheckCardOut then
    match addrBit user.state addr with
    | none => return none
    | some true => return some ()
    | some false =>
      let user := user.raiseState addr
      let _ ← onMember (getSetState (.stored 16 user.bytes 1042) user.userId setUser)
      openDoor
      let _ ← onAttendance (addOneAttRecord device user event)
      return some ()
  else
    let _ ← onAttendance (addOneAttRecord device user event)
    return some ()

/-- The checks on the record, from the super administrator's bit on. -/
def userCheckRecord (device : Device) (event : EventSet) (user : UserInfo) :
    DoorProg (Option Unit) := do
  if user.authority.getD 15 0#8 &&& (1#8 <<< 7) = 1#8 <<< 7 then
    openDoor
    let _ ← onAttendance (addOneAttRecord device user event)
    return some ()
  else if user.effective ≠ 1#8 then return some ()
  else
    match timeExpired device user with
    | none => return none
    | some true => return some ()
    | some false =>
      match authorityHeld device user with
      | none => return none
      | some false => return some ()
      | some true => userCheckSwitch device event user

/-- One iteration of `user_check_thread_entry` after `rt_event_recv`, on a cleared
record. A failed read of the record is only printed. -/
def userCheck (device : Device) (event : EventSet) : DoorProg (Option Unit) := do
  let user : UserInfo := .zero 1058
  if event.Has userCheckCardIn ∨ event.Has userCheckCardOut then
    match ← bsearch (cardKey device.readCardId) with
    | none => return some ()
    | some index =>
      let user : UserInfo := user.setUserId (← link index).userId
      let (_, user) ← onMember (addDelGetOneUser user getOneUser)
      if user.computedCrc ≠ user.crc then return some ()
      else if user.cardId ≠ (← link index).cardId then return some ()
      else userCheckRecord device event user
  else if event.Has userCheckFingerIn ∨ event.Has userCheckFingerOut
    then userCheckRecord device event user
  else return some ()

/-! ## Running an iteration -/

/-- The card list, the two files and the number of times the door was opened. -/
structure DoorState where
  list : List CardLink
  member : FileState
  attendance : FileState
  opened : Nat

namespace DoorState

def withMember (state : DoorState) (member : FileState) : DoorState :=
  { state with member := member }

def withAttendance (state : DoorState) (attendance : FileState) : DoorState :=
  { state with attendance := attendance }

def withOpened (state : DoorState) (opened : Nat) : DoorState := { state with opened := opened }

section Fields

variable (state : DoorState) (file : FileState) (opened : Nat)

@[simp] theorem list_withMember : (state.withMember file).list = state.list := (rfl)
@[simp] theorem member_withMember : (state.withMember file).member = file := (rfl)
@[simp] theorem attendance_withMember :
    (state.withMember file).attendance = state.attendance := (rfl)
@[simp] theorem opened_withMember : (state.withMember file).opened = state.opened := (rfl)
@[simp] theorem list_withAttendance : (state.withAttendance file).list = state.list := (rfl)
@[simp] theorem member_withAttendance : (state.withAttendance file).member = state.member := (rfl)
@[simp] theorem attendance_withAttendance : (state.withAttendance file).attendance = file := (rfl)
@[simp] theorem opened_withAttendance : (state.withAttendance file).opened = state.opened := (rfl)
@[simp] theorem list_withOpened : (state.withOpened opened).list = state.list := (rfl)
@[simp] theorem member_withOpened : (state.withOpened opened).member = state.member := (rfl)
@[simp] theorem attendance_withOpened :
    (state.withOpened opened).attendance = state.attendance := (rfl)
@[simp] theorem opened_withOpened : (state.withOpened opened).opened = opened := (rfl)

end Fields

def handle (lib : CardSearch) : (op : DoorOp) → DoorState → op.Res × DoorState
  | .bsearch key, state => (lib.bsearch key state.list, state)
  | .link index, state => (state.list.getD index (.zero 6), state)
  | .member op, state =>
    ((FileState.handle op state.member).1, state.withMember (FileState.handle op state.member).2)
  | .attendance op, state =>
    ((FileState.handle op state.attendance).1,
      state.withAttendance (FileState.handle op state.attendance).2)
  | .openDoor, state => ((), state.withOpened (state.opened + 1))

/-- The state in which an iteration begins. -/
def fresh (list : List CardLink) (member attendance : Option (List Byte)) : DoorState :=
  ⟨list, .fresh member, .fresh attendance, 0⟩

section Fresh

variable (list : List CardLink) (member attendance : Option (List Byte))

@[simp] theorem list_fresh : (fresh list member attendance).list = list := (rfl)
@[simp] theorem member_fresh : (fresh list member attendance).member = .fresh member := (rfl)
@[simp] theorem attendance_fresh :
    (fresh list member attendance).attendance = .fresh attendance := (rfl)
@[simp] theorem opened_fresh : (fresh list member attendance).opened = 0 := (rfl)

end Fresh

end DoorState

namespace DoorProg

variable {α β : Type} (lib : CardSearch)

def run (prog : DoorProg α) (state : DoorState) : α × DoorState :=
  Prog.run (DoorState.handle lib) prog state

@[simp] theorem run_pure (value : α) (state : DoorState) :
    run lib (pure value : DoorProg α) state = (value, state) := (rfl)

@[simp] theorem run_bind (prog : DoorProg α) (next : α → DoorProg β) (state : DoorState) :
    run lib (prog >>= next) state = run lib (next (prog.run lib state).1) (prog.run lib state).2 :=
  Prog.run_bind (DoorState.handle lib) prog next state

@[simp] theorem run_ite (test : Prop) [Decidable test] (yes no : DoorProg α) (state : DoorState) :
    run lib (if test then yes else no) state = if test then yes.run lib state
      else no.run lib state := by
  split <;> rfl

@[simp] theorem run_bsearch (key : CardLink) (state : DoorState) :
    (bsearch key).run lib state = (lib.bsearch key state.list, state) := (rfl)

@[simp] theorem run_link (index : Nat) (state : DoorState) :
    (link index).run lib state = (state.list.getD index (.zero 6), state) := (rfl)

@[simp] theorem run_openDoor (state : DoorState) :
    openDoor.run lib state = ((), state.withOpened (state.opened + 1)) := (rfl)

@[simp] theorem run_onMember (prog : FileProg α) (state : DoorState) :
    (onMember prog).run lib state =
      ((prog.run state.member).1, state.withMember (prog.run state.member).2) := by
  induction prog generalizing state with
  | ret value => rfl
  | call op next ih => exact ih _ _

@[simp] theorem run_onAttendance (prog : FileProg α) (state : DoorState) :
    (onAttendance prog).run lib state =
      ((prog.run state.attendance).1, state.withAttendance (prog.run state.attendance).2) := by
  induction prog generalizing state with
  | ret value => rfl
  | call op next ih => exact ih _ _

end DoorProg

end WifiAccess

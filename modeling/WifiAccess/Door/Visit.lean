import WifiAccess.Door.Verdict
import WifiAccess.Server.Commuting

/-! `user_check_thread.c`: one card event in the steps between which the wifi thread may
carry out commands. -/

namespace WifiAccess

open DoorProg DoorState

/-- What the checks on a record come to. A time or an index that overflows has no verdict. -/
def userCheckDecide (device : Device) (event : EventSet) (user : UserInfo) : Option Verdict :=
  let addr := device.deviceAddr.toNat
  if user.authority.getD 15 0#8 &&& (1#8 <<< 7) = 1#8 <<< 7 then some .admin
  else if user.effective ≠ 1#8 then some .refused
  else
    match timeExpired device user with
    | none => none
    | some true => some .refused
    | some false =>
      match authorityHeld device user with
      | none => none
      | some false => some .refused
      | some true =>
        if event = userCheckCardIn then (addrBit user.state addr).map fun inside =>
          if inside then .exit else .refused
        else if event = userCheckCardOut then (addrBit user.state addr).map fun inside =>
          if inside then .refused else .entry
        else some .logged

/-- The record whose state is written back. -/
def Verdict.stored? (device : Device) (user : UserInfo) : Verdict → Option UserInfo
  | exit => some (user.clearState device.deviceAddr.toNat)
  | entry => some (user.raiseState device.deviceAddr.toNat)
  | refused | admin | logged => none

/-- Where the event is: before the search, with the position of an entry, with its user id,
with the record, with a state to write, before the opening, and through. -/
inductive CheckPoint where
  | lookup
  | entry (index : Nat)
  | record (index userId : Nat)
  | compare (index : Nat) (user : UserInfo)
  | store (user : UserInfo)
  | opening
  | finished (value : Option Unit)

/-- A record whose CRC is wrong ends the event. -/
def CheckPoint.afterRead (index : Nat) (user : UserInfo) : CheckPoint :=
  if user.computedCrc ≠ user.crc then finished (some ()) else compare index user

/-- The checks, and on to the first of the state and the door that the verdict touches. -/
def CheckPoint.afterCompare (device : Device) (event : EventSet) (user : UserInfo) : CheckPoint :=
  match userCheckDecide device event user with
  | none => finished none
  | some verdict =>
    match verdict.stored? device user with
    | some user => store user
    | none => if verdict.opens then opening else finished (some ())

/-- The wifi thread with the globals and the files, and the event with the record that it
has read and the number of times it has opened the door. -/
structure Visit where
  server : Server
  io : ServerIo
  point : CheckPoint
  read : Option UserInfo
  opened : Nat

inductive VisitMove where
  | command (pData : ServerData)
  | check

def VisitMove.frame? : VisitMove → Option ServerData
  | command pData => some pData
  | check => none

/-- What another descriptor has left of the user file. -/
def ServerIo.withContent (io : ServerIo) (content : Option (List Byte)) : ServerIo :=
  { io with member := { io.member with content := content } }

namespace Visit

def start (server : Server) (io : ServerIo) : Visit := ⟨server, io, .lookup, none, 0⟩

def moveTo (visit : Visit) (point : CheckPoint) : Visit := { visit with point := point }

/-- A call on the user file with a descriptor of its own. -/
def exec {α : Type} (visit : Visit) (prog : FileProg α) : α × Visit :=
  let ran := prog.exec visit.io.member.content
  (ran.1, { visit with io := visit.io.withContent ran.2 })

/-- The next step of `user_check_thread_entry` on a card event. The log entry is left out:
the commands do not touch `/save_io.bin`. -/
def check (lib : CardSearch) (device : Device) (event : EventSet) (visit : Visit) : Option Visit :=
  match visit.point with
  | .lookup =>
    match lib.bsearch (cardKey device.readCardId) visit.server.list with
    | none => some (visit.moveTo (.finished (some ())))
    | some index => some (visit.moveTo (.entry index))
  | .entry index =>
    some (visit.moveTo (.record index (visit.server.list.getD index (.zero 6)).userId))
  | .record index userId =>
    let got := visit.exec (addDelGetOneUser (.setUserId (.zero 1058) userId) getOneUser)
    some { got.2.moveTo (.afterRead index got.1.2) with read := some got.1.2 }
  | .compare index user =>
    if user.cardId ≠ (visit.server.list.getD index (.zero 6)).cardId then
      some (visit.moveTo (.finished (some ())))
    else some (visit.moveTo (.afterCompare device event user))
  | .store user =>
    let stored := visit.exec (getSetState (.stored 16 user.bytes 1042) user.userId setUser)
    some (stored.2.moveTo .opening)
  | .opening => some { visit.moveTo (.finished (some ())) with opened := visit.opened + 1 }
  | .finished _ => none

/-- A step of the event, or a whole command that changes users or the list. -/
def step (lib : CardSearch) (stationAddr : Image 6) (device : Device) (event : EventSet)
    (visit : Visit) :
    VisitMove → Option Visit
  | .command pData =>
    match ServerCmd.ofByte (pData.byte 0) with
    | none => none
    | some cmd =>
      if cmd.changesUsers then
        (serverStep lib stationAddr (visit.server, visit.io) pData).map fun next =>
          { visit with server := next.1, io := next.2 }
      else none
  | .check => visit.check lib device event

end Visit

/-! ## The same steps in one go -/

section Alone

variable (lib : CardSearch) {device : Device} {event : EventSet}

/-- The checks on a record come to their verdict and do what it says. -/
theorem userCheckRecord_decides (user : UserInfo) (state : DoorState) :
    (userCheckRecord device event user).run lib state =
      match userCheckDecide device event user with
      | none => (none, state)
      | some verdict => (some (), state.settle device event user verdict) := by
  unfold userCheckRecord userCheckDecide
  by_cases admin : user.authority.getD 15 0#8 &&& (1#8 <<< 7) = 1#8 <<< 7
  · rw [if_pos admin, if_pos admin]
    simp [DoorState.settle, DoorState.openOnce, DoorState.log]
  rw [if_neg admin, if_neg admin]
  by_cases inactive : user.effective ≠ 1#8
  · rw [if_pos inactive, if_pos inactive]
    rfl
  rw [if_neg inactive, if_neg inactive]
  cases timeExpired device user with
  | none => rfl
  | some expired =>
    cases expired with
    | true => rfl
    | false =>
      cases authorityHeld device user with
      | none => rfl
      | some held =>
        cases held with
        | false => rfl
        | true =>
          unfold userCheckSwitch
          by_cases inside : event = userCheckCardIn
          · rw [if_pos inside, if_pos inside]
            rcases addrBit user.state device.deviceAddr.toNat with _ | _ | _ <;>
              simp [DoorState.settle, DoorState.storeState, DoorState.openOnce, DoorState.log]
          · rw [if_neg inside, if_neg inside]
            by_cases outside : event = userCheckCardOut
            · rw [if_pos outside, if_pos outside]
              rcases addrBit user.state device.deviceAddr.toNat with _ | _ | _ <;>
                simp [DoorState.settle, DoorState.storeState, DoorState.openOnce, DoorState.log]
            · rw [if_neg outside, if_neg outside]
              simp [DoorState.settle, DoorState.log]

theorem userCheck_missing {state : DoorState}
    (card : event.Has userCheckCardIn ∨ event.Has userCheckCardOut)
    (missing : lib.bsearch (cardKey device.readCardId) state.list = none) :
    (userCheck device event).run lib state = (some (), state) := by
  simp only [userCheck, if_pos card, run_bind, run_bsearch, missing, run_pure]

/-- One iteration on an entry of the list. -/
theorem userCheck_found {state : DoorState} {index : Nat}
    (card : event.Has userCheckCardIn ∨ event.Has userCheckCardOut)
    (found : lib.bsearch (cardKey device.readCardId) state.list = some index) :
    (userCheck device event).run lib state =
      let link := state.list.getD index (.zero 6)
      let user := (fetch state.member link).1.2
      let read := state.withMember (fetch state.member link).2
      if user.computedCrc ≠ user.crc ∨ user.cardId ≠ link.cardId then (some (), read)
      else
        match userCheckDecide device event user with
        | none => (none, read)
        | some verdict => (some (), read.settle device event user verdict) := by
  unfold userCheck
  rw [if_pos card, run_bind, run_bsearch, found]
  simp only [run_bind, run_link, run_onMember, run_ite, run_pure, list_withMember]
  have read : (addDelGetOneUser (.setUserId (.zero 1058) (state.list.getD index (.zero 6)).userId)
      getOneUser).run state.member =
      fetch state.member (state.list.getD index (.zero 6)) := rfl
  rw [read]
  generalize state.list.getD index (.zero 6) = link
  by_cases broken : (fetch state.member link).1.2.computedCrc ≠ (fetch state.member link).1.2.crc
  · rw [if_pos broken, if_pos (.inl broken)]
  rw [if_neg broken]
  by_cases other : (fetch state.member link).1.2.cardId ≠ link.cardId
  · rw [if_pos other, if_pos (.inr other)]
  · rw [if_neg other, if_neg (not_or_intro broken other)]
    exact userCheckRecord_decides lib (fetch state.member link).1.2
      (state.withMember (fetch state.member link).2)

/-! What is written of a state, and where; user id 0 has no slot. -/

def stateOff (user : UserInfo) : Nat := if user.userId = 0 then 0 else slotOffset user.userId + 1042

def stateData (user : UserInfo) : List Byte :=
  if user.userId = 0 then [] else (Image.stored 16 user.bytes 1042).bytes

theorem content_stored (user : UserInfo) (file : FileState) :
    ((getSetState (.stored 16 user.bytes 1042) user.userId setUser).run file).2.content =
      some (splice file.bytes (stateOff user) (stateData user)) := by
  obtain ⟨content, pos, full⟩ := file
  unfold stateOff stateData
  by_cases zero : user.userId = 0
  · rw [zero, getSetState_zero, if_pos rfl, if_pos rfl]
    exact congrArg some (@splice_window (content.getD []) 0 0 (Nat.zero_le _)).symm
  · rw [getSetState_set _ zero user.userId_lt, if_neg zero, if_neg zero]
    rfl

theorem exec_stored (user : UserInfo) (content : Option (List Byte)) :
    ((getSetState (.stored 16 user.bytes 1042) user.userId setUser).exec content).2 =
      some (splice (content.getD []) (stateOff user) (stateData user)) := by
  unfold FileProg.exec
  rw [content_stored, FileState.bytes_fresh]

theorem offEntries_state (user : UserInfo) : OffEntries (stateOff user) (stateData user) := by
  intro i
  unfold stateOff stateData
  by_cases zero : user.userId = 0
  · rw [if_pos zero, if_pos zero]
    exact .inr (Nat.zero_le _)
  · rw [if_neg zero, if_neg zero, Image.size]
    have present : 0 < user.userId := Nat.pos_of_ne_zero zero
    unfold slotOffset
    generalize user.userId = userId at present
    rcases Nat.lt_or_ge i userId with below | above
    · exact .inl (by omega)
    · exact .inr (by omega)

theorem content_storeState (state : DoorState) (user : UserInfo) :
    (state.storeState user).member.content =
      some (splice state.member.bytes (stateOff user) (stateData user)) := by
  rw [DoorState.storeState, member_withMember, content_stored]

theorem content_settle (state : DoorState) (device : Device) (event : EventSet) (user : UserInfo)
    (verdict : Verdict) :
    (state.settle device event user verdict).member.content =
      match verdict.stored? device user with
      | none => state.member.content
      | some stored => some (splice state.member.bytes (stateOff stored) (stateData stored)) := by
  rw [member_settle]
  cases verdict with
  | exit | entry => exact content_storeState ..
  | refused | admin | logged => rfl

theorem read_present (content : Option (List Byte)) (user : UserInfo) :
    ((addDelGetOneUser user getOneUser).exec content).2.isSome := by
  unfold FileProg.exec FileState.fresh
  by_cases zero : user.userId = 0
  · rw [addDelGetOneUser_zero zero]
    rfl
  · rw [addDelGetOneUser_get zero]
    rfl

end Alone

end WifiAccess

import WifiAccess.Base.Only
import WifiAccess.Base.Run
import WifiAccess.Door.Soundness
import WifiAccess.Server.Answers
import WifiAccess.Server.Session

/-! The whole device between two things that happen to it: a frame from the server, a card
at the door, or a reboot. -/

namespace WifiAccess

open ServerProg

/-- The globals, the files with the clock chip, and the adds and deletes that the server has
seen acknowledged. -/
structure Station where
  server : Server
  io : ServerIo
  acked : List ServerData

inductive StationMove where
  | frame (pData : ServerData)
  | event (device : Device) (event : EventSet)
  | reboot

/-- A door event whose calls on the two files fail as the outcomes to come say. -/
def DoorState.attempt (lib : CardSearch) :
    (op : DoorOp) → DoorState × List Bool → op.Res × (DoorState × List Bool)
  | .bsearch key, (state, faults) => (lib.bsearch key state.list, state, faults)
  | .link index, (state, faults) => (state.list.getD index (.zero 6), state, faults)
  | .member op, (state, faults) =>
    let tried := FileState.attempt op (state.member, faults)
    (tried.1, state.withMember tried.2.1, tried.2.2)
  | .attendance op, (state, faults) =>
    let tried := FileState.attempt op (state.attendance, faults)
    (tried.1, state.withAttendance tried.2.1, tried.2.2)
  | .openDoor, (state, faults) => ((), state.withOpened (state.opened + 1), faults)

def DoorProg.attempt {α : Type} (lib : CardSearch) (prog : DoorProg α) (state : DoorState)
    (faults : List Bool) :
    α × DoorState × List Bool :=
  Prog.run (DoorState.attempt lib) prog (state, faults)

/-- An add or a delete whose answer ends in an acknowledgement. -/
def acknowledges (pData : ServerData) (after : ServerIo) : Bool :=
  match ServerCmd.ofByte (pData.byte 0) with
  | some .userAdd | some .userDel => (after.replies.getLastD []).getD 14 0#8 = serverAck
  | _ => false

namespace Station

/-- What the checks of a card event start from. -/
def door (station : Station) : DoorState :=
  .fresh station.server.list station.io.member.content station.io.attendance.content

def bytes (station : Station) : List Byte := station.io.member.bytes

/-- One iteration of `user_check_thread_entry`. -/
def visit (lib : CardSearch) (device : Device) (event : EventSet) (station : Station) :
    Option Unit × DoorState × List Bool :=
  (userCheck device event).attempt lib station.door station.io.faults

/-- The files as an event has left them. -/
def settled (station : Station) (final : DoorState) (faults : List Bool) : Station :=
  { station with io :=
    { station.io with member := final.member, attendance := final.attendance, faults := faults } }

/-- `user_init_thread_entry`: the globals are zero, the list is loaded, and the log gets a
header if it has none. A list that overflows has no next state. -/
def boot (lib : CardSearch) (station : Station) : Option Station :=
  let loaded :=
    (cardArrayInit lib Server.initial.list).attempt (.fresh station.io.member.content)
      station.io.faults
  let headed :=
    (attDatabaseInit (.zero 8)).attempt (.fresh station.io.attendance.content) loaded.2.2
  loaded.1.map fun (_, list) =>
    { station with
      server := { Server.initial with list := list }
      io := { station.io with
        member := loaded.2.1
        attendance := headed.2.1
        faults := headed.2.2 } }

/-- Every call on a file fails or not, as the outcomes to come say. -/
def step (lib : CardSearch) (stationAddr : Image 6) (station : Station) :
    StationMove → Option Station
  | .frame pData =>
    (serverStep lib stationAddr (station.server, station.io) pData).map fun next =>
      ⟨next.1, next.2, if acknowledges pData next.2 then station.acked ++
        [pData] else station.acked⟩
  | .event device event =>
    let ran := station.visit lib device event
    ran.1.map fun _ => station.settled ran.2.1 ran.2.2
  | .reboot => station.boot lib

end Station

end WifiAccess

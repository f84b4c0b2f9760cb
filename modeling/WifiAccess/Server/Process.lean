import WifiAccess.Base.Faults
import WifiAccess.Door.Check

/-! `server_process.c`: the commands of the server, each checked, carried out and
answered. -/

namespace WifiAccess

/-- The globals and the statics that `data_process` works on. -/
structure Server where
  list : List CardLink
  time : TimeValue
  userInfo : UserInfo
  attHeader : AttHeader
  attInfo : List AttInfo
  userCrc : List (Image 4)
  buf : Image 1024

/-- The receive buffer from the user data of the mesh packet on. -/
abbrev ServerData := Image 5097

inductive ServerCmd where
  | userAdd
  | userDel
  | connect
  | timesync
  | attGet
  | listReload
  | attDel
  | userCrcGet
  deriving DecidableEq

namespace ServerCmd

def ofByte : Byte → Option ServerCmd
  | 0x01#8 => some userAdd
  | 0x02#8 => some userDel
  | 0x03#8 => some connect
  | 0x04#8 => some timesync
  | 0x05#8 => some attGet
  | 0x08#8 => some listReload
  | 0x09#8 => some attDel
  | 0x0A#8 => some userCrcGet
  | _ => none

/-- The command and its parameters, which the CRC covers. -/
def crcLenth : ServerCmd → Nat
  | userAdd => 1 + 1058
  | userDel => 3
  | connect => 1
  | timesync => 9
  | attGet => 3
  | listReload => 1
  | attDel => 3
  | userCrcGet => 5

end ServerCmd

def serverAck : Byte := 0x55#8
def serverNack : Byte := 0xAA#8

inductive ServerOp where
  | member (op : FileOp)
  | attendance (op : FileOp)
  | timeInit (time : TimeValue)
  | wifiSend (data : List Byte)

def ServerOp.Res : ServerOp → Type
  | member op => op.Res
  | attendance op => op.Res
  | timeInit _ => Unit
  | wifiSend _ => Unit

abbrev ServerProg := Prog ServerOp ServerOp.Res

namespace ServerProg

variable {α : Type}

/-- `DS1307_Time_Init`. -/
def timeInit (time : TimeValue) : ServerProg Unit := Prog.perform (ServerOp.timeInit time)

/-- `wifi_send` of a mesh packet. -/
def wifiSend (data : List Byte) : ServerProg Unit := Prog.perform (ServerOp.wifiSend data)

def onMember : FileProg α → ServerProg α
  | .ret value => .ret value
  | .call op next => .call (.member op) fun result => onMember (next result)

def onAttendance : FileProg α → ServerProg α
  | .ret value => .ret value
  | .call op next => .call (.attendance op) fun result => onAttendance (next result)

end ServerProg

open ServerProg

namespace Server

/-- All zero, with the sizes of the declarations. -/
def initial : Server where
  list := List.replicate 200 (.zero 6)
  time := ⟨0#8, 0#8, 0#8, 0#8, 0#8, 0#8, 0#8⟩
  userInfo := .zero 1058
  attHeader := .zero 8
  attInfo := List.replicate 10 (.zero 53)
  userCrc := List.replicate 100 (.zero 4)
  buf := .zero 1024

def withBuf (server : Server) (buf : Image 1024) : Server := { server with buf := buf }

/-- Destination, own address and command. -/
def withHead (server : Server) (stationAddr : Image 6) (cmd : Byte) : Server :=
  server.withBuf (((server.buf.put 0 (List.replicate 6 0#8)).put 6 stationAddr.bytes).put 12 [cmd])

/-- The answer in two bytes. -/
def reply (server : Server) (status result : Byte) : ServerProg (Option Server) := do
  let server := server.withBuf ((server.buf.put 13 [status]).put 14 [result])
  wifiSend (server.buf.field 0 (6 + 9))
  return some server

/-- The answer of the two commands that ask for data, when they have none. -/
def refuse (server : Server) : ServerProg (Option Server) := do
  let server := server.withBuf (server.buf.put 13 [serverNack])
  wifiSend (server.buf.field 0 (6 + 16))
  return some server

/-- The answer with data: entries from `off` on, and the CRC of all from the own
address on. Storing past the reply buffer has no result. -/
def replyEntries (server : Server) (off : Nat) (entries : List Byte) :
    ServerProg (Option Server) := do
  if off + entries.length + 4 ≤ 1024 then
    let buf := server.buf.put off entries
    let crc := blockCrcCalc (buf.field 6 (off - 6 + entries.length))
    let server := server.withBuf (buf.put (off + entries.length) (leBytes 4 crc))
    wifiSend (server.buf.field 0 (off + entries.length + 4))
    return some server
  else return none

end Server

def serverUserAdd (pData : ServerData) (server : Server) : ServerProg (Option Server) := do
  let (status, _) ← onMember (addDelGetOneUser (.stored 1058 pData.bytes 1) addOneUser)
  if status ≠ 0 then server.reply 1#8 serverNack else server.reply 0#8 serverAck

def serverUserDel (pData : ServerData) (server : Server) : ServerProg (Option Server) := do
  let userInfo := server.userInfo.setUserId (pData.num 1 2)
  let (status, userInfo) ← onMember (addDelGetOneUser userInfo delOneUser)
  let server := { server with userInfo := userInfo }
  if status ≠ 0 then server.reply 1#8 serverNack else server.reply 0#8 serverAck

def serverConnect (server : Server) : ServerProg (Option Server) := server.reply 0#8 serverAck

/-- The year arrives as a number of four digits and is kept in a byte. -/
def serverTimesync (pData : ServerData) (server : Server) : ServerProg (Option Server) := do
  let time : TimeValue :=
    { second := pData.byte 7
      minute := pData.byte 6
      hour := pData.byte 5
      week := pData.byte 8
      date := pData.byte 4
      month := pData.byte 3
      year := BitVec.ofInt 8 (pData.num 1 2 - 2000) }
  let server := { server with time := time }
  timeInit time
  server.reply 0#8 serverAck

def serverAttGet (pData : ServerData) (server : Server) : ServerProg (Option Server) := do
  let (status, attHeader) ← onAttendance (recordHeaderGetSet server.attHeader getRecord)
  let server := { server with attHeader := attHeader }
  if status ≠ 0 then server.refuse
  else
    match ← onAttendance (attRecordGet server.attInfo (pData.num 1 2)) with
    | none => return none
    | some (status, attInfo, attNum) =>
      let server := { server with attInfo := attInfo }
      if status ≠ 0 then server.refuse
      else
        let buf := (server.buf.put 13 [serverAck]).put 14 (attHeader.field 0 4)
        let server := server.withBuf (buf.put 18 (leBytes 2 attNum))
        server.replyEntries 20 ((attInfo.take attNum).flatMap Image.bytes)

def serverListReload (lib : CardSearch) (server : Server) : ServerProg (Option Server) := do
  match ← onMember (cardArrayInit lib server.list) with
  | none => return none
  | some (status, list) =>
    let server := { server with list := list }
    if status = -1 then server.reply 1#8 serverNack else server.reply 0#8 serverAck

def serverAttDel (pData : ServerData) (server : Server) : ServerProg (Option Server) := do
  let status ← onAttendance (attRecordDel (pData.num 1 2))
  if status ≠ 0 then server.reply 1#8 serverNack else server.reply 0#8 serverAck

def serverUserCrcGet (pData : ServerData) (server : Server) : ServerProg (Option Server) := do
  match ← onMember userNumGet with
  | none => server.refuse
  | some (_, userIdMax) =>
    match ← onMember (userCrcGet server.userCrc (pData.num 1 2) (pData.num 3 2)) with
    | none => return none
    | some (got, userCrc) =>
      let server := { server with userCrc := userCrc }
      match got with
      | none => server.refuse
      | some userCrcNum =>
        let buf := (server.buf.put 13 [serverAck]).put 14 (leBytes 2 userIdMax)
        let server := server.withBuf (buf.put 16 (leBytes 2 userCrcNum))
        server.replyEntries 18 ((userCrc.take userCrcNum).flatMap Image.bytes)

/-- A command whose CRC is right. -/
def ServerCmd.execute (cmd : ServerCmd) (lib : CardSearch) (pData : ServerData) (server : Server) :
    ServerProg (Option Server) :=
  match cmd with
  | userAdd => serverUserAdd pData server
  | userDel => serverUserDel pData server
  | connect => serverConnect server
  | timesync => serverTimesync pData server
  | attGet => serverAttGet pData server
  | listReload => serverListReload lib server
  | attDel => serverAttDel pData server
  | userCrcGet => serverUserCrcGet pData server

/-- The answer to a wrong CRC. -/
def ServerCmd.crcFailed (cmd : ServerCmd) (server : Server) : ServerProg (Option Server) :=
  match cmd with
  | attGet | userCrcGet => server.refuse
  | userAdd | userDel | connect | timesync | listReload | attDel => server.reply 0#8 serverNack

/-- `data_process`, on the data of the packet and whatever lies behind it. -/
def dataProcess (lib : CardSearch) (stationAddr : Image 6) (pData : ServerData) (server : Server) :
    ServerProg (Option Server) :=
  match ServerCmd.ofByte (pData.byte 0) with
  | none => return some server
  | some cmd =>
    let server := server.withHead stationAddr (pData.byte 0)
    if pData.IntactAt cmd.crcLenth then cmd.execute lib pData server else cmd.crcFailed server

/-! ## Running a command -/

/-- The two files, the outcomes of the calls on them, the clock chip, and the replies. -/
structure ServerIo where
  member : FileState
  attendance : FileState
  faults : List Bool
  clock : Option TimeValue
  replies : List (List Byte)

namespace ServerIo

def handle : (op : ServerOp) → ServerIo → op.Res × ServerIo
  | .member op, io =>
    let (result, file, faults) := FileState.attempt op (io.member, io.faults)
    (result, { io with member := file, faults := faults })
  | .attendance op, io =>
    let (result, file, faults) := FileState.attempt op (io.attendance, io.faults)
    (result, { io with attendance := file, faults := faults })
  | .timeInit time, io => ((), { io with clock := some time })
  | .wifiSend data, io => ((), { io with replies := io.replies ++ [data] })

/-- Nothing open, nothing sent. -/
def fresh (member attendance : Option (List Byte)) (faults : List Bool) : ServerIo :=
  ⟨.fresh member, .fresh attendance, faults, none, []⟩

end ServerIo

namespace ServerProg

variable {α β : Type}

def run (prog : ServerProg α) (io : ServerIo) : α × ServerIo := Prog.run ServerIo.handle prog io

@[simp] theorem run_pure (value : α) (io : ServerIo) :
    run (pure value : ServerProg α) io = (value, io) := (rfl)

@[simp] theorem run_bind (prog : ServerProg α) (next : α → ServerProg β) (io : ServerIo) :
    run (prog >>= next) io = run (next (prog.run io).1) (prog.run io).2 :=
  Prog.run_bind ServerIo.handle prog next io

@[simp] theorem run_ite (test : Prop) [Decidable test] (yes no : ServerProg α) (io : ServerIo) :
    run (if test then yes else no) io = if test then yes.run io else no.run io := by
  split <;> rfl

@[simp] theorem run_timeInit (time : TimeValue) (io : ServerIo) :
    (timeInit time).run io = ((), { io with clock := some time }) := (rfl)

@[simp] theorem run_wifiSend (data : List Byte) (io : ServerIo) :
    (wifiSend data).run io = ((), { io with replies := io.replies ++ [data] }) := (rfl)

@[simp] theorem run_onMember (prog : FileProg α) (io : ServerIo) :
    (onMember prog).run io =
      ((prog.attempt io.member io.faults).1,
        { io with
          member := (prog.attempt io.member io.faults).2.1
          faults := (prog.attempt io.member io.faults).2.2 }) := by
  induction prog generalizing io with
  | ret value => rfl
  | call op next ih => exact ih _ _

@[simp] theorem run_onAttendance (prog : FileProg α) (io : ServerIo) :
    (onAttendance prog).run io =
      ((prog.attempt io.attendance io.faults).1,
        { io with
          attendance := (prog.attempt io.attendance io.faults).2.1
          faults := (prog.attempt io.attendance io.faults).2.2 }) := by
  induction prog generalizing io with
  | ret value => rfl
  | call op next ih => exact ih _ _

end ServerProg

/-! ## Frames of the server -/

/-- A command with its parameters and its CRC. -/
def serverFrame (cmd : Byte) (params : List Byte) : ServerData :=
  Image.sealAt (.ofBytes 5097 (cmd :: params)) (params.length + 1)

section Frames

variable {cmd : Byte} {params : List Byte}

theorem intact_serverFrame (fits : params.length + 5 ≤ 5097) :
    (serverFrame cmd params).IntactAt (params.length + 1) :=
  Image.intactAt_sealAt _ (by omega)

theorem field_serverFrame (fits : params.length + 5 ≤ 5097) {off len : Nat}
    (inside : off + len ≤ params.length + 1) :
    (serverFrame cmd params).field off len = window (cmd :: params) off len := by
  rw [serverFrame, Image.field_sealAt _ (by omega) (.inl inside), Image.field, Image.bytes_ofBytes,
    window_window _ (by omega), Nat.zero_add]

theorem num_serverFrame (fits : params.length + 5 ≤ 5097) {off len : Nat}
    (inside : off + len ≤ params.length + 1) :
    (serverFrame cmd params).num off len = leValue (window (cmd :: params) off len) :=
  congrArg leValue (field_serverFrame fits inside)

theorem byte_serverFrame (fits : params.length + 5 ≤ 5097) :
    (serverFrame cmd params).byte 0 = cmd := by
  have same : (Image.field (serverFrame cmd params) 0 1).getD 0 0#8 = cmd := by
    rw [field_serverFrame fits (by omega)]
    rfl
  rwa [Image.byte_field (by decide)] at same

end Frames

end WifiAccess

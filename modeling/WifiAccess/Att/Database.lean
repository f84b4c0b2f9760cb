import WifiAccess.Base.File
import WifiAccess.Crc.Record

/-! `att_database.c`: the attendance log in `/save_io.bin`, a header of 8 bytes
and one packed record of 53 bytes for each pass. -/

namespace WifiAccess

open FileProg

/-- `att_header_t`: the record count and its CRC. -/
abbrev AttHeader := Image 8

namespace AttHeader

def total (header : AttHeader) : Nat := header.num 0 4

def crc (header : AttHeader) : Nat := header.num 4 4

def setTotal (header : AttHeader) (total : Nat) : AttHeader := header.put 0 (leBytes 4 total)

/-- The CRC of all members before `crc`. -/
def computedCrc (header : AttHeader) : Nat := header.prefixCrc 4

def withCrc (header : AttHeader) : AttHeader := header.sealAt 4

def Valid (header : AttHeader) : Prop := header.IntactAt 4

instance (header : AttHeader) : Decidable header.Valid :=
  inferInstanceAs (Decidable (header.IntactAt 4))

end AttHeader

/-- `att_info_t`: user, device, direction and time of one pass, and their CRC. -/
abbrev AttInfo := Image 53

namespace AttInfo

def userId (info : AttInfo) : Nat := info.num 0 2

/-- 0 for the inside reader, 1 for the outside reader. -/
def state (info : AttInfo) : Byte := info.byte 41

def crc (info : AttInfo) : Nat := info.num 49 4

def withCrc (info : AttInfo) : AttInfo := info.sealAt 49

def Valid (info : AttInfo) : Prop := info.IntactAt 49

end AttInfo

def getRecord : Nat := 0
def setRecord : Nat := 1

/-- `sizeof(att_info_t) * i + sizeof(att_header_t)`, in 32 bits. -/
def recordAddr (i : Nat) : Nat := (8 + 53 * i) % 2 ^ 32

theorem recordAddr_small {i : Nat} (small : 8 + 53 * i < 2 ^ 31) : recordAddr i = 8 + 53 * i := by
  unfold recordAddr
  omega

/-- `att_database_init`: the bytes that `read` leaves in the caller's header are
tested, however few they are. -/
def attDatabaseInit (header : AttHeader) : FileProg (Int × AttHeader) := do
  if ← openCreate then
    if ← lseek 0 then
      let header : AttHeader := header.load (← read 8)
      if header.computedCrc ≠ header.crc then
        let header : AttHeader := (header.setTotal 0).withCrc
        if ← lseek 0 then
          if (← write header.bytes) ≠ 8 then
            close
            return (-1, header)
          else
            close
            return (0, header)
        else
          close
          return (-1, header)
      else
        close
        return (0, header)
    else
      close
      return (-1, header)
  else
    close
    return (-1, header)

/-- `fd_record_header_get_set` on the descriptor that is already open. -/
def fdRecordHeaderGetSet (header : AttHeader) (cmd : Nat) : FileProg (Int × AttHeader) := do
  if ← lseek 0 then
    if cmd = getRecord then
      let got ← read 8
      let header : AttHeader := header.load got
      if got.length ≠ 8 then return (-1, header)
      else if header.crc = header.computedCrc then return (0, header)
      else return (-1, header)
    else if cmd = setRecord then
      let header : AttHeader := header.withCrc
      if (← write header.bytes) ≠ 8 then return (-1, header)
      else return (0, header)
    else return (-1, header)
  else return (-1, header)

/-- `record_header_get_set`, which opens the file itself. -/
def recordHeaderGetSet (header : AttHeader) (cmd : Nat) : FileProg (Int × AttHeader) := do
  if ← openCreate then
    let result ← fdRecordHeaderGetSet header cmd
    close
    return result
  else
    close
    return (-1, header)

/-- `att_record_add`: write the record behind the last one, then count it. -/
def attRecordAdd (info : AttInfo) : FileProg (Int × AttInfo) := do
  if ← openCreate then
    let (status, header) ← fdRecordHeaderGetSet (.zero 8) getRecord
    if status ≠ 0 then
      close
      return (-1, info)
    else if ← lseek (recordAddr header.total) then
      let info : AttInfo := info.withCrc
      if (← write info.bytes) ≠ 53 then
        close
        return (-1, info)
      else
        let (status, _) ← fdRecordHeaderGetSet (header.setTotal (header.total + 1)) setRecord
        close
        return (if status ≠ 0 then -1 else 0, info)
    else
      close
      return (-1, info)
  else return (-1, info)

/-- `att_record_del`: only the count in the header changes. -/
def attRecordDel (num : Nat) : FileProg Int := do
  if ← openCreate then
    let (status, header) ← fdRecordHeaderGetSet (.zero 8) getRecord
    if status ≠ 0 then
      close
      return -1
    else
      let left := if header.total > num then header.total - num else 0
      let (status, _) ← fdRecordHeaderGetSet (header.setTotal left) setRecord
      close
      return if status ≠ 0 then -1 else 0
  else return -1

/-- The read loop of `att_record_get`, counting down from record `i`. It stops at
the first seek or read that fails; a store past the caller's array has no result. -/
def attRecordGetLoop : Nat → List AttInfo → Nat → FileProg (Option (List AttInfo × Nat))
  | 0, attInfo, attCount => return some (attInfo, attCount)
  | i + 1, attInfo, attCount => do
    let addr := recordAddr i
    if addr < 8 then return some (attInfo, attCount)
    else if ← lseek addr then
      let got ← read 53
      match storeEntry attInfo attCount got with
      | none => return none
      | some attInfo =>
        if got.length ≠ 53 then return some (attInfo, attCount)
        else attRecordGetLoop i attInfo (attCount + 1)
    else return some (attInfo, attCount)

/-- `att_record_get`: the request arrives in a `uint8_t`. The result is the
status, the caller's array and the count. -/
def attRecordGet (attInfo : List AttInfo) (lenth : Nat) :
    FileProg (Option (Int × List AttInfo × Nat)) := do
  match ← stat with
  | none => return some (-1, attInfo, 0)
  | some _ =>
    if ← openCreate then
      let (status, header) ← fdRecordHeaderGetSet (.zero 8) getRecord
      if status ≠ 0 then
        close
        return some (-1, attInfo, 0)
      else
        let lenth := lenth % 256
        let lenth := if lenth ≥ header.total then header.total else lenth
        let loaded ← attRecordGetLoop lenth attInfo 0
        close
        return loaded.map fun (attInfo, attCount) => (0, attInfo, attCount)
    else return some (-1, attInfo, 0)

/-- `att_database_wipe`: the results of the two calls after `unlink` are not looked at. -/
def attDatabaseWipe : FileProg (Int × AttHeader) := do
  let header : AttHeader := .zero 8
  if ← unlink then
    let (_, header) ← recordHeaderGetSet header setRecord
    let (_, header) ← attDatabaseInit header
    return (0, header)
  else return (-1, header)

end WifiAccess

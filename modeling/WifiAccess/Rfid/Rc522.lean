import WifiAccess.Base.Image
import WifiAccess.Base.Within

/-! `rc522.c`: the registers of a card reader chip, the exchange with a card, and
`ReadID`. Each register access is one transfer on the SPI bus. -/

namespace WifiAccess

inductive RcOp where
  | readRawRC (address : Byte)
  | writeRawRC (address value : Byte)

def RcOp.Res : RcOp → Type
  | readRawRC _ => Byte
  | writeRawRC _ _ => Unit

abbrev RcProg := Prog RcOp RcOp.Res

inductive PcdStatus where
  | miOk
  | miNotagerr
  | miErr
  deriving DecidableEq

def commandReg : Byte := 0x01#8
def comIEnReg : Byte := 0x02#8
def comIrqReg : Byte := 0x04#8
def errorReg : Byte := 0x06#8
def status2Reg : Byte := 0x08#8
def fifoDataReg : Byte := 0x09#8
def fifoLevelReg : Byte := 0x0A#8
def controlReg : Byte := 0x0C#8
def bitFramingReg : Byte := 0x0D#8
def collReg : Byte := 0x0E#8
def txControlReg : Byte := 0x14#8

def pcdIdle : Byte := 0x00#8
def pcdAuthent : Byte := 0x0E#8
def pcdTransceive : Byte := 0x0C#8

def piccReqall : Byte := 0x52#8
def piccAnticoll1 : Byte := 0x93#8

namespace RcProg

def readRawRC (address : Byte) : RcProg Byte := Prog.perform (RcOp.readRawRC address)
def writeRawRC (address value : Byte) : RcProg Unit := Prog.perform (RcOp.writeRawRC address value)

def setBitMask (reg mask : Byte) : RcProg Unit := do
  let tmp ← readRawRC reg
  writeRawRC reg (tmp ||| mask)

def clearBitMask (reg mask : Byte) : RcProg Unit := do
  let tmp ← readRawRC reg
  writeRawRC reg (tmp &&& ~~~mask)

def writeFifo : List Byte → RcProg Unit
  | [] => return ()
  | value :: rest => do
    writeRawRC fifoDataReg value
    writeFifo rest

def readFifo : Nat → RcProg (List Byte)
  | 0 => return []
  | n + 1 => do
    let value ← readRawRC fifoDataReg
    return value :: (← readFifo n)

/-- The wait for a flag: what is left of the count, and the flags read last. -/
def pollIrq (waitFor : Byte) : Nat → RcProg (Nat × Byte)
  | 0 => return (0, 0#8)
  | i + 1 => do
    let n ← readRawRC comIrqReg
    if i ≠ 0 ∧ n &&& 0x01#8 = 0#8 ∧ n &&& waitFor = 0#8 then pollIrq waitFor i else return (i, n)

end RcProg

open RcProg

/-- What `PcdComMF522` hands back. Its caller passes one buffer for both directions; the
bit count is written only when an answer is taken. -/
structure PcdExchange where
  status : PcdStatus
  buf : Image 18
  unLen : Byte

/-- The bits of an answer, in a `uint8_t`. -/
def answerBits (level lastBits : Byte) : Byte :=
  if lastBits ≠ 0#8 then (level - 1#8) * 8#8 + lastBits else level * 8#8

/-- The bytes of an answer that are taken: at least one and at most `MAXRLEN`. -/
def answerBytes (level : Byte) : Nat :=
  let n := if level = 0#8 then 1#8 else level
  if n.toNat > 18 then 18 else n.toNat

/-- The answer behind the wait. -/
def takeAnswer (command irqEn : Byte) (waited : Nat × Byte) (buf : Image 18) (unLen : Byte) :
    RcProg PcdExchange := do
  if waited.1 ≠ 0 then
    if (← readRawRC errorReg) &&& 0x1B#8 = 0#8 then
      let status := if waited.2 &&& irqEn &&& 0x01#8 ≠ 0#8 then PcdStatus.miNotagerr else .miOk
      if command = pcdTransceive then
        let n ← readRawRC fifoLevelReg
        let lastBits ← readRawRC controlReg
        let bytes ← readFifo (answerBytes n)
        return ⟨status, buf.load bytes, answerBits n (lastBits &&& 0x07#8)⟩
      else return ⟨status, buf, unLen⟩
    else return ⟨.miErr, buf, unLen⟩
  else return ⟨.miErr, buf, unLen⟩

def startSend (command : Byte) : RcProg Unit :=
  if command = pcdTransceive then setBitMask bitFramingReg 0x80#8 else return ()

/-- `PcdComMF522`. -/
def pcdComMF522 (command : Byte) (buf : Image 18) (inLenByte : Nat) (unLen : Byte) :
    RcProg PcdExchange := do
  let irqEn :=
    if command = pcdAuthent then 0x12#8 else if command = pcdTransceive then 0x77#8 else 0x00#8
  let waitFor :=
    if command = pcdAuthent then 0x10#8 else if command = pcdTransceive then 0x30#8 else 0x00#8
  writeRawRC comIEnReg (irqEn ||| 0x80#8)
  clearBitMask comIrqReg 0x80#8
  writeRawRC commandReg pcdIdle
  setBitMask fifoLevelReg 0x80#8
  writeFifo (buf.field 0 inLenByte)
  writeRawRC commandReg command
  startSend command
  let waited ← pollIrq waitFor 256
  clearBitMask bitFramingReg 0x80#8
  let taken ← takeAnswer command irqEn waited buf unLen
  setBitMask controlReg 0x80#8
  writeRawRC commandReg pcdIdle
  return taken

/-- The locals of a function before they are written. -/
structure Locals where
  buf : Image 18
  unLen : Byte

/-- `PcdRequest`, with the card type if one is stored. -/
def pcdRequest (locals : Locals) (reqCode : Byte) : RcProg (PcdStatus × Option (List Byte)) := do
  clearBitMask status2Reg 0x08#8
  writeRawRC bitFramingReg 0x07#8
  setBitMask txControlReg 0x03#8
  let got ← pcdComMF522 pcdTransceive (locals.buf.put 0 [reqCode]) 1 locals.unLen
  return if got.status = .miOk ∧ got.unLen = 0x10#8 then (got.status, some (got.buf.field 0 2))
    else (.miErr, none)

/-- `snr_check` behind the loop over the number. -/
def snrCheck (buf : Image 18) : Byte := (buf.field 0 4).foldl (· ^^^ ·) 0#8

/-- `PcdAnticoll`, with the serial number if one is stored. -/
def pcdAnticoll (locals : Locals) : RcProg (PcdStatus × Option (List Byte)) := do
  clearBitMask status2Reg 0x08#8
  writeRawRC bitFramingReg 0x00#8
  clearBitMask collReg 0x80#8
  let got ← pcdComMF522 pcdTransceive (locals.buf.put 0 [piccAnticoll1, 0x20#8]) 2 locals.unLen
  setBitMask collReg 0x80#8
  return if got.status = .miOk then
      (if snrCheck got.buf ≠ got.buf.byte 4 then .miErr else .miOk, some (got.buf.field 0 4))
    else (got.status, none)

/-- The number that `ReadID` makes of `get_card_id_array`. -/
def cardIdOf (array : List Byte) : BitVec 32 :=
  (array.getD 3 0#8).setWidth 32 + ((array.getD 2 0#8).setWidth 32 <<< 8) +
    ((array.getD 1 0#8).setWidth 32 <<< 16) +
    ((array.getD 0 0#8).setWidth 32 <<< 24)

/-- `ReadID`: the number, where it returns 0. -/
def readID (request anticoll : Locals) : RcProg (Option (BitVec 32)) := do
  let found ← pcdRequest request piccReqall
  if found.1 = .miOk then
    let got ← pcdAnticoll anticoll
    return if got.1 = .miOk then got.2.map cardIdOf else none
  else return none

end WifiAccess

import WifiAccess.Base.Bytes
import WifiAccess.Base.ShiftCrc

/-! `stm32_crc.c`: the CRC unit of the microcontroller and the one routine that
drives it. Every byte is written to the data register as a 32-bit word. -/

namespace WifiAccess

/-- The data register: polynomial `0x04C11DB7`, all ones after a reset. -/
abbrev CrcRegister := BitVec 32

def crcPolynomial : CrcRegister := 0x04C11DB7#32

def crcResetValue : CrcRegister := 0xFFFFFFFF#32

inductive CrcCommand where
  | resetDR
  | writeDR (word : BitVec 32)
  | readDR
  deriving DecidableEq

def CrcCommand.exec (register : CrcRegister) : CrcCommand → CrcRegister
  | resetDR => crcResetValue
  | writeDR word => ShiftCrc.feed crcPolynomial register word
  | readDR => register

/-- The values that the reads of a command sequence return. -/
def crcReads (register : CrcRegister) : List CrcCommand → List CrcRegister
  | [] => []
  | .readDR :: rest => register :: crcReads register rest
  | command :: rest => crcReads (command.exec register) rest

def crcWords (data : List Byte) : List (BitVec 32) := data.map (BitVec.setWidth 32)

/-- The register after a reset and one write per byte. -/
def crc32 (data : List Byte) : CrcRegister :=
  ShiftCrc.feedAll crcPolynomial crcResetValue (crcWords data)

/-- `block_crc_calc` as the commands it gives the unit. -/
def blockCrcCommands (data : List Byte) : List CrcCommand :=
  .resetDR :: (crcWords data).map .writeDR ++ [.readDR]

/-- `block_crc_calc` run with the unit to itself, as the `uint32_t` it returns. -/
def blockCrcCalc (data : List Byte) : Nat :=
  ((crcReads crcResetValue (blockCrcCommands data)).headD crcResetValue).toNat

theorem crcReads_writes (register : CrcRegister) (words : List (BitVec 32)) :
    crcReads register (words.map .writeDR ++ [.readDR]) =
      [ShiftCrc.feedAll crcPolynomial register words] := by
  induction words generalizing register with
  | nil => rfl
  | cons word rest ih => exact ih (ShiftCrc.feed crcPolynomial register word)

/-- Alone on the unit, a call reads the CRC of its data whatever the register held. -/
theorem crcReads_block (register : CrcRegister) (data : List Byte) :
    crcReads register (blockCrcCommands data) = [crc32 data] :=
  crcReads_writes crcResetValue (crcWords data)

theorem blockCrcCalc_eq (data : List Byte) : blockCrcCalc data = (crc32 data).toNat := by
  simp [blockCrcCalc, crcReads_block]

theorem blockCrcCalc_lt (data : List Byte) : blockCrcCalc data < 2 ^ 32 := by
  rw [blockCrcCalc_eq]
  exact (crc32 data).isLt

theorem crc32_snoc (data : List Byte) (byte : Byte) :
    crc32 (data ++ [byte]) = ShiftCrc.feed crcPolynomial (crc32 data) (byte.setWidth 32) := by
  simp [crc32, crcWords, ShiftCrc.feedAll]

theorem crcPolynomial_odd : crcPolynomial.getLsbD 0 = true := by decide

end WifiAccess

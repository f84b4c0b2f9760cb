import WifiAccess.Base.Image
import WifiAccess.Crc.Unit

/-! `esp8266.c` and the receive loop of `wifi_thread.c`: packets cut into frames
of 32 bytes, put together again in one buffer, and checked there. -/

namespace WifiAccess

/-- One SPI transfer: a command byte and up to 31 bytes of the packet. -/
abbrev Frame := Image 32

def startBit : Byte := 1#8 <<< 7
def endBit : Byte := 1#8 <<< 6

namespace Frame

def starts (frame : Frame) : Bool := frame.byte 0 &&& startBit = startBit

def ends (frame : Frame) : Bool := frame.byte 0 &&& endBit = endBit

def len (frame : Frame) : Nat := (frame.byte 0 &&& 0x3f#8).toNat

end Frame

/-! ## Sending -/

/-- The packet that `wifi_send` builds: CRC, command, length, data. -/
def wifiSendPack (cmd : Byte) (data : List Byte) : List Byte :=
  let checked := cmd :: leBytes 2 data.length ++ data
  leBytes 4 (blockCrcCalc checked) ++ checked

/-- The number of frames, and of bytes in the last one. -/
def spiWriteNum (lenth : Nat) : Nat := if lenth % 31 = 0 then lenth / 31 else lenth / 31 + 1

def spiWriteLastByte (lenth : Nat) : Nat := if lenth % 31 = 0 then 31 else lenth % 31

/-- Frame `i` of `esp8266_spi_write`, built over the frame before: what a short last
frame does not fill is left from that one. -/
def spiWriteFrame (pack : List Byte) (num lastByte i : Nat) (buf : Frame) : Frame :=
  let command : Byte := if i ≠ num - 1 then 31#8 else endBit ||| BitVec.ofNat 8 lastByte
  let command : Byte := if i = 0 then command ||| startBit else command
  let buf := buf.put 0 [command]
  if i = num - 1 then
    buf.put 1 (window pack (i * 31) lastByte)
  else buf.put 1 (window pack (i * 31) 31)

/-- The frames from frame `i` on, with the number left to send. -/
def spiWriteLoop (pack : List Byte) (num lastByte : Nat) : Nat → Nat → Frame → List Frame
  | 0, _, _ => []
  | left + 1, i, buf =>
    let buf := spiWriteFrame pack num lastByte i buf
    buf :: spiWriteLoop pack num lastByte left (i + 1) buf

/-- `esp8266_spi_write`, when the slave is ready for every frame. The buffer starts
with whatever is on the stack. -/
def spiWriteFrames (buf : Frame) (pack : List Byte) : List Frame :=
  spiWriteLoop pack (spiWriteNum pack.length) (spiWriteLastByte pack.length)
    (spiWriteNum pack.length) 0 buf

/-! ## Receiving -/

/-- The statics of `esp8266_spi_read` and the receive buffer. -/
structure Rx where
  isReceive : Bool
  packCounter : Nat
  recvLenth : Nat
  isRecvPack : Bool
  recvPack : Image 5120

/-- `recv_pack[base + i] = buf[i + 1]` for the bytes left. An index past one of the
two arrays has no result. -/
def copyLoop (buf : Frame) (base : Nat) : Nat → Nat → Image 5120 → Option (Image 5120)
  | 0, _, recvPack => some recvPack
  | left + 1, i, recvPack =>
    if i + 1 < 32 ∧ base + i < 5120 then
      copyLoop buf base left (i + 1) (recvPack.put (base + i) [buf.byte (i + 1)])
    else none

namespace Rx

def start (rx : Rx) : Rx := { rx with isReceive := true, packCounter := 0, recvLenth := 0 }

/-- The part of `esp8266_spi_read` for a frame of a packet. -/
def take (rx : Rx) (frame : Frame) : Option (Int × Rx) :=
  let recvLenth := (rx.recvLenth + frame.len) % 2 ^ 32
  if frame.ends then
    (copyLoop frame (rx.packCounter * 31) frame.len 0 rx.recvPack).map fun recvPack =>
      (0, ⟨false, rx.packCounter, recvLenth, true, recvPack⟩)
  else
    (copyLoop frame (rx.packCounter * 31) 31 0 rx.recvPack).map fun recvPack =>
      (-1, ⟨rx.isReceive, (rx.packCounter + 1) % 2 ^ 32, recvLenth, rx.isRecvPack, recvPack⟩)

end Rx

/-- `esp8266_spi_read` after the transfer of a frame. -/
def spiRead (rx : Rx) (frame : Frame) : Option (Int × Rx) :=
  if rx.isRecvPack then some (-1, rx)
  else
    let rx := if frame.starts then rx.start else rx
    if rx.isReceive then rx.take frame else some (-1, rx)

/-- Calls of `esp8266_spi_read` one after the other: what they return, and the end. -/
def spiReads (rx : Rx) : List Frame → Option (List Int × Rx)
  | [] => some ([], rx)
  | frame :: rest =>
    match spiRead rx frame with
    | none => none
    | some (result, next) => (spiReads next rest).map fun (results, final) =>
      (result :: results, final)

/-- The receive loop of `wifi_thread_entry`, with `wifi_pack_recv` as the header
bytes it was filled from and the place in the receive buffer it points to. -/
structure Wifi where
  rx : Rx
  packRecv : Image 7
  data : Option Nat
  isRecvWifiPack : Bool

namespace Wifi

def crc (wifi : Wifi) : Nat := wifi.packRecv.num 0 4
def cmd (wifi : Wifi) : Byte := wifi.packRecv.byte 4
def lenth (wifi : Wifi) : Nat := wifi.packRecv.num 5 2

/-- Before the first frame. -/
def initial : Wifi := ⟨⟨false, 0, 0, false, .zero 5120⟩, .zero 7, none, false⟩

/-- The bytes that a reader of `wifi_pack_recv` gets. -/
def dataBytes (wifi : Wifi) : List Byte :=
  match wifi.data with
  | none => []
  | some off => wifi.rx.recvPack.field off wifi.lenth

def withRx (wifi : Wifi) (rx : Rx) : Wifi := { wifi with rx := rx }

/-- Ready for the next packet. -/
def idle (wifi : Wifi) : Wifi := wifi.withRx { wifi.rx with isRecvPack := false }

end Wifi

/-- How one frame ends: the packet is incomplete, or complete and dropped or accepted. -/
inductive Reception where
  | waiting
  | lenthFailed
  | crcFailed
  | accepted
  deriving DecidableEq

/-- The header of a complete packet, copied before the checks. -/
def Wifi.fill (wifi : Wifi) : Wifi :=
  { wifi with packRecv := .ofBytes 7 (wifi.rx.recvPack.field 0 7) }

def Wifi.deliver (wifi : Wifi) : Wifi := { wifi with data := some 7, isRecvWifiPack := true }

/-- The checks on a complete packet. The CRC must not run past the buffer. -/
def Wifi.check (wifi : Wifi) : Option (Reception × Wifi) :=
  if wifi.lenth + 7 ≠ wifi.rx.recvLenth then some (.lenthFailed, wifi.idle)
  else if 7 + wifi.lenth > 5120 then none
  else if wifi.crc ≠ blockCrcCalc (wifi.rx.recvPack.field 4 (3 + wifi.lenth))
    then some (.crcFailed, wifi.idle)
  else some (.accepted, wifi.deliver.idle)

/-- One pass of the receive loop. An accepted packet is dispatched before the next
one, and the receive buffer is not written meanwhile. -/
def wifiStep (wifi : Wifi) (frame : Frame) : Option (Reception × Wifi) :=
  match spiRead wifi.rx frame with
  | none => none
  | some (result, rx) => if result = 0 then (wifi.withRx rx).fill.check else some
      (.waiting, wifi.withRx rx)

/-- The state after one pass. -/
def Wifi.next (wifi : Wifi) (frame : Frame) : Option Wifi := (wifiStep wifi frame).map Prod.snd

/-- The receive loop over a sequence of frames. -/
def receive (wifi : Wifi) : List Frame → Option (List Reception × Wifi)
  | [] => some ([], wifi)
  | frame :: rest =>
    match wifiStep wifi frame with
    | none => none
    | some (reception, next) => (receive next rest).map fun (receptions, final) =>
      (reception :: receptions, final)

/-- A packet as a reader of `wifi_pack_recv` sees it. -/
structure Packet where
  cmd : Byte
  lenth : Nat
  data : List Byte
  deriving DecidableEq

def Wifi.packet (wifi : Wifi) : Packet := ⟨wifi.cmd, wifi.lenth, wifi.dataBytes⟩

/-- The packet that a pass of the loop has accepted. -/
def Reception.packet? (wifi : Wifi) : Reception → List Packet
  | accepted => [wifi.packet]
  | waiting | lenthFailed | crcFailed => []

/-- The packets accepted over a sequence of frames. -/
def deliver (wifi : Wifi) : List Frame → Option (List Packet × Wifi)
  | [] => some ([], wifi)
  | frame :: rest =>
    match wifiStep wifi frame with
    | none => none
    | some (reception, next) =>
      (deliver next rest).map fun (packets, final) => (reception.packet? next ++ packets, final)

/-! ## The copy of a frame -/

theorem copyLoop_eq (buf : Frame) (base left i : Nat) (recvPack : Image 5120) :
    copyLoop buf base left i recvPack =
      if left = 0 ∨ (i + left ≤ 31 ∧ base + i + left ≤ 5120) then
        some (recvPack.put (base + i) (buf.field (i + 1) left)) else none := by
  induction left generalizing i recvPack with
  | zero =>
    have empty : buf.field (i + 1) 0 = [] := List.length_eq_zero_iff.mp (Image.length_field ..)
    rw [if_pos (.inl rfl), copyLoop, empty, Image.put_nil]
  | succ left ih =>
    rw [copyLoop]
    by_cases inside : i + 1 < 32 ∧ base + i < 5120
    · rw [if_pos inside, ih]
      by_cases rest : left = 0 ∨ (i + 1 + left ≤ 31 ∧ base + (i + 1) + left ≤ 5120)
      · rw [if_pos rest, if_pos (by omega)]
        have next : base + (i + 1) = base + i + 1 := by omega
        rw [next, Image.put_cons, ← Image.field_succ]
      · rw [if_neg rest, if_neg (by omega)]
    · rw [if_neg inside, if_neg (by omega)]

theorem receive_cons {wifi final : Wifi} {frame : Frame} {rest : List Frame}
    {receptions : List Reception} (ran : receive wifi (frame :: rest) = some (receptions, final)) :
    ∃ reception next later, wifiStep wifi frame = some (reception, next) ∧
      receive next rest = some (later, final) ∧ receptions = reception :: later := by
  rw [receive] at ran
  split at ran
  · cases ran
  · rename_i reception next stepped
    obtain ⟨⟨later, last⟩, remaining, same⟩ := Option.map_eq_some_iff.mp ran
    obtain ⟨rfl, rfl⟩ := Prod.mk.inj same
    exact ⟨reception, next, later, stepped, remaining, rfl⟩

end WifiAccess

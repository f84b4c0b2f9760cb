import WifiAccess.Base.Bytes
import WifiAccess.Base.Prog

/-! A two-wire bus with one master and one device: the levels of the clock and the data
line, what the device takes from their edges, and the transfer of whole bytes. -/

namespace WifiAccess

/-- What a device does with an address, with a byte that is written to it, and when a byte
is read from it. The first two are acknowledged or not. -/
structure Target (σ : Type) where
  select : Byte → σ → Bool × σ
  write : Byte → σ → Bool × σ
  read : σ → Byte × σ

inductive PinOp where
  | scl (level : Bool)
  | sda (level : Bool)
  | direction (out : Bool)
  | sample

def PinOp.Res : PinOp → Type
  | scl _ => Unit
  | sda _ => Unit
  | direction _ => Unit
  | sample => Bool

/-- Programs of the master on its two pins. -/
abbrev PinProg := Prog PinOp PinOp.Res

namespace PinProg

def scl (level : Bool) : PinProg Unit := Prog.perform (PinOp.scl level)
def sda (level : Bool) : PinProg Unit := Prog.perform (PinOp.sda level)
def direction (out : Bool) : PinProg Unit := Prog.perform (PinOp.direction out)
def sample : PinProg Bool := Prog.perform PinOp.sample

end PinProg

/-! ## Bytes and bits, the highest first -/

def shiftedIn (value : Byte) (bit : Bool) : Byte := (value <<< 1) ||| (if bit then 1#8 else 0#8)

def ofBits (bits : List Bool) : Byte := bits.foldl shiftedIn 0#8

/-- The first bits of a byte. -/
def topBits : Nat → Byte → List Bool
  | 0, _ => []
  | left + 1, value => value.msb :: topBits left (value <<< 1)

theorem ofBits_topBits (value : Byte) : ofBits (topBits 8 value) = value := by
  revert value
  decide

theorem length_topBits (count : Nat) (value : Byte) : (topBits count value).length = count := by
  induction count generalizing value with
  | zero => rfl
  | succ count ih => rw [topBits, List.length_cons, ih]

/-! ## The device on the two lines -/

/-- Waiting for a start, taking bits in, answering on the ninth clock, giving bits out, and
waiting for the master's answer. -/
inductive Phase where
  | idle
  | shiftIn (address : Bool) (bits : List Bool)
  | ackOut (ack sends : Bool)
  | shiftOut (bits : List Bool)
  | ackIn (nack : Bool)

/-- What the device leaves of the data line, which is pulled up. -/
def Phase.released : Phase → Bool
  | ackOut ack _ => !ack
  | shiftOut (bit :: _) => bit
  | idle | shiftIn .. | shiftOut [] | ackIn _ => true

structure Bus (σ : Type) where
  scl : Bool
  sda : Bool
  out : Bool
  phase : Phase
  device : σ

namespace Bus

variable {σ : Type} (target : Target σ) (bus : Bus σ)

/-- The data line. -/
def level : Bool := (!bus.out || bus.sda) && bus.phase.released

/-- A change of the data line while the clock is high is a start or a stop. -/
def turn (after : Bus σ) : Bus σ :=
  if bus.scl then
    if bus.level && !after.level then { after with phase := .shiftIn true [] }
    else if !bus.level && after.level then { after with phase := .idle }
    else after
  else after

/-- The device samples when the clock rises. -/
def rise : Phase :=
  match bus.phase with
  | .shiftIn address bits => .shiftIn address (bits ++ [bus.level])
  | .ackIn _ => .ackIn bus.level
  | .idle => .idle
  | .ackOut ack sends => .ackOut ack sends
  | .shiftOut bits => .shiftOut bits

/-- The next byte to give out. -/
def load : Phase × σ :=
  let next := target.read bus.device
  (.shiftOut (topBits 8 next.1), next.2)

/-- The device moves on when the clock falls. -/
def fall : Phase × σ :=
  match bus.phase with
  | .idle => (.idle, bus.device)
  | .shiftIn address bits =>
    if bits.length = 8 then
      let answer := if address then target.select (ofBits bits) bus.device
          else target.write (ofBits bits) bus.device
      (.ackOut answer.1 (address && (ofBits bits).getLsbD 0), answer.2)
    else (.shiftIn address bits, bus.device)
  | .ackOut ack sends =>
    if ack then
      if sends then bus.load target else (.shiftIn false [], bus.device)
    else (.idle, bus.device)
  | .shiftOut (_ :: bit :: rest) => (.shiftOut (bit :: rest), bus.device)
  | .shiftOut _ => (.ackIn true, bus.device)
  | .ackIn nack => if nack then (.idle, bus.device) else bus.load target

def handle : (op : PinOp) → Bus σ → op.Res × Bus σ
  | .scl level, bus =>
    if level && !bus.scl then ((), { bus with scl := true, phase := bus.rise })
    else if !level && bus.scl then
      ((), { bus with scl := false, phase := (bus.fall target).1, device := (bus.fall target).2 })
    else ((), bus)
  | .sda level, bus => ((), bus.turn { bus with sda := level })
  | .direction out, bus => ((), bus.turn { bus with out := out })
  | .sample, bus => (bus.level, bus)

end Bus

/-! ## Whole bytes -/

inductive WireOp where
  | start
  | stop
  | write (value : Byte)
  | read
  | answer (nack : Bool)

/-- A write is answered with the level of the ninth clock. -/
def WireOp.Res : WireOp → Type
  | start => Unit
  | stop => Unit
  | write _ => Bool
  | read => Byte
  | answer _ => Unit

abbrev WireProg := Prog WireOp WireOp.Res

/-- The bus is free; the device does not listen, expects its address, takes bytes, has a byte
to give, or waits for the answer to one. -/
inductive Link where
  | free
  | deaf
  | addressed
  | taking
  | giving (value : Byte)
  | given
  deriving DecidableEq

namespace Link

variable {σ : Type} (target : Target σ)

/-- The device loads its next byte. -/
def next (device : σ) : Link × σ := (giving (target.read device).1, (target.read device).2)

/-- What an acknowledged byte leads to. -/
def heard (answer : Bool × σ) (sends : Bool) : Link × σ :=
  if answer.1 then
    if sends then next target answer.2 else (taking, answer.2)
  else (deaf, answer.2)

/-- A transfer byte by byte. Out of turn, when two would drive the line, it has no meaning. -/
def handle : (op : WireOp) → Link × σ → Option (op.Res × (Link × σ))
  | .start, (free, device) | .start, (deaf, device) | .start, (addressed, device) | .start,
    (taking, device) =>
    some ((), (addressed, device))
  | .stop, (free, device) | .stop, (deaf, device) | .stop, (addressed, device) | .stop,
    (taking, device) =>
    some ((), (free, device))
  | .write _, (deaf, device) => some (true, (deaf, device))
  | .write value, (addressed, device) =>
    some (!(target.select value device).1, heard target (target.select value device)
      (value.getLsbD 0))
  | .write value, (taking, device) =>
    some (!(target.write value device).1, heard target (target.write value device) false)
  | .read, (deaf, device) => some (0xFF#8, (deaf, device))
  | .read, (giving value, device) => some (value, (given, device))
  | .answer _, (deaf, device) => some ((), (deaf, device))
  | .answer nack, (given, device) => some ((), if nack then (deaf, device) else next target device)
  | _, _ => none

end Link

end WifiAccess

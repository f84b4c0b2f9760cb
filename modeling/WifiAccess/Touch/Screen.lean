import WifiAccess.Base.File
import WifiAccess.Base.Image

/-! `touch_screen.c`: two touch panels behind one driver. The calibration of both is in
`/tp_adj.bin`, 14 bytes each; the commands that read their axes are globals. -/

namespace WifiAccess

open FileProg

/-- `LCD0` outside the door, `LCD1` inside. -/
inductive Panel where
  | lcd0
  | lcd1
  deriving DecidableEq

/-- `_m_tp_dev`. `adj` are the 13 bytes from `xfac` to `touchtype`. -/
structure TpDev where
  x0 : Nat
  y0 : Nat
  x4 : Nat
  y4 : Nat
  sta : Byte
  adj : Image 13

def TpDev.touchtype (dev : TpDev) : Byte := dev.adj.byte 12

/-- What `TP_Read_XY` has read, and by which commands. -/
structure Sample where
  panel : Panel
  rdx : Byte
  rdy : Byte
  deriving DecidableEq

structure Touch where
  cmdRdx : Byte
  cmdRdy : Byte
  dev0 : TpDev
  dev1 : TpDev
  file : Option (List Byte)
  conversions : Nat
  samples : List Sample

/-- The commands for X and Y of a touch type. -/
def axisCommands (touchtype : Byte) : Byte × Byte :=
  if touchtype ≠ 0#8 then (0x90#8, 0xD0#8) else (0xD0#8, 0x90#8)

/-- What is not computed here: the converter's results, the conversion of coordinates in
floating point, and the dialog that calibrates a panel anew. -/
structure TouchEnv where
  adc : Nat → Panel → Byte → BitVec 16
  toScreen : Image 13 → Nat × Nat → Nat × Nat
  tpAdjust : Panel → Touch → Touch

/-- `start`: where the calibration of a panel begins. -/
def Panel.start : Panel → Nat
  | lcd0 => 0
  | lcd1 => 14

namespace Touch

variable (env : TouchEnv) (panel : Panel) (touch : Touch)

def dev : Panel → TpDev
  | .lcd0 => touch.dev0
  | .lcd1 => touch.dev1

def setDev (dev : TpDev) : Panel → Touch
  | .lcd0 => { touch with dev0 := dev }
  | .lcd1 => { touch with dev1 := dev }

/-- `TP_Read_XOY`: of five results the middle three count. -/
def tpReadXoy (xy : Byte) : Nat × Touch :=
  let buf := (List.range 5).map fun i => (env.adc (touch.conversions + i) panel xy).toNat / 2 ^ 3
  (((buf.mergeSort.drop 1).take 3).sum / 3, { touch with conversions := touch.conversions + 5 })

/-- `TP_Read_XY`. -/
def tpReadXy : (Nat × Nat) × Touch :=
  let xtemp := touch.tpReadXoy env panel touch.cmdRdx
  let ytemp := xtemp.2.tpReadXoy env panel xtemp.2.cmdRdy
  ((xtemp.1, ytemp.1), { ytemp.2 with samples := ytemp.2.samples ++
    [⟨panel, touch.cmdRdx, xtemp.2.cmdRdy⟩] })

/-- Within `ERR_RANGE`. -/
def near (first second : Nat) : Bool :=
  (second ≤ first ∧ first < second + 50) ∨ (first ≤ second ∧ second < first + 50)

/-- `TP_Read_XY2`: two samples that agree. -/
def tpReadXy2 : Option (Nat × Nat) × Touch :=
  let first := touch.tpReadXy env panel
  let second := first.2.tpReadXy env panel
  (if near first.1.1 second.1.1 ∧ near first.1.2 second.1.2 then
      some ((first.1.1 + second.1.1) / 2, (first.1.2 + second.1.2) / 2)
    else none, second.2)

/-- The coordinates of a touch, if two samples agree. -/
def located (dev : TpDev) (tp : Bool) (taken : Option (Nat × Nat)) : TpDev :=
  match taken with
  | none => dev
  | some point =>
    let point := if tp then point else env.toScreen dev.adj point
    { dev with x0 := point.1, y0 := point.2 }

def pressed (dev : TpDev) : TpDev :=
  if dev.sta &&& 0x80#8 = 0#8 then { dev with sta := 0xC0#8, x4 := dev.x0, y4 := dev.y0 } else dev

def released (dev : TpDev) : TpDev :=
  if dev.sta &&& 0x80#8 ≠ 0#8 then { dev with sta := dev.sta &&& 0x7F#8 }
  else { dev with x4 := 0, y4 := 0, x0 := 0xFFFF, y0 := 0xFFFF }

/-- `TP_Scan`. The pin `irq` is low while the panel is touched; `tp` asks for the
coordinates as they were read. -/
def tpScan (tp irq : Bool) : Byte × Touch :=
  if irq = false then
    let taken := touch.tpReadXy2 env panel
    let dev := pressed (located env (taken.2.dev panel) tp taken.1)
    (dev.sta &&& 0x80#8, taken.2.setDev dev panel)
  else
    let dev := released (touch.dev panel)
    (dev.sta &&& 0x80#8, touch.setDev dev panel)

/-- The calibration in the file, if its last byte marks it as one. -/
def readAdjdata (start : Nat) : FileProg (Option (List Byte)) := do
  if ← openCreate then
    if ← lseek start then
      let buffer ← read 14
      close
      return if buffer.length = 14 ∧ buffer.getD 13 0#8 = 0x0A#8 then some buffer else none
    else
      close
      close
      return none
  else
    close
    return none

/-- `TP_Get_Adjdata`. -/
def tpGetAdjdata : Bool × Touch :=
  let got := (readAdjdata panel.start).exec touch.file
  match got.1 with
  | none => (false, { touch with file := got.2 })
  | some buffer =>
    let adj : Image 13 := .ofBytes 13 buffer
    (true, { touch.setDev { touch.dev panel with adj := adj } panel with
      cmdRdx := (axisCommands (adj.byte 12)).1
      cmdRdy := (axisCommands (adj.byte 12)).2
      file := got.2 })

/-- The body of the loop in `TP_Init`. -/
def tpInitPanel : Touch :=
  let taken := touch.tpReadXy env panel
  let touch := taken.2.setDev { taken.2.dev panel with x0 := taken.1.1, y0 := taken.1.2 } panel
  let loaded := touch.tpGetAdjdata panel
  let touch := if loaded.1 then loaded.2 else env.tpAdjust panel loaded.2
  (touch.tpGetAdjdata panel).2

/-- `TP_Init`, which gives up when a device of the SPI bus is not found. -/
def tpInit (found0 found1 : Bool) : Byte × Touch :=
  if found0 = false then (0#8, touch)
  else if found1 = false then (0#8, touch)
  else (1#8, (touch.tpInitPanel env .lcd0).tpInitPanel env .lcd1)

end Touch

inductive TouchCall where
  | init (found0 found1 : Bool)
  | getAdjdata (panel : Panel)
  | scan (panel : Panel) (tp irq : Bool)

def Touch.call (env : TouchEnv) (touch : Touch) : TouchCall → Touch
  | .init found0 found1 => (touch.tpInit env found0 found1).2
  | .getAdjdata panel => (touch.tpGetAdjdata panel).2
  | .scan panel tp irq => (touch.tpScan env panel tp irq).2

end WifiAccess

import WifiAccess.Base.Lower
import WifiAccess.Base.TwoWire

/-! `soft_iic.c`: the two-wire bus on two port pins. The delays between the edges are left
out. -/

namespace WifiAccess

open PinProg

/-- `IIC_GPIO_Init`: both pins are outputs, and the bus is free. -/
def iicGpioInit : PinProg Unit := do
  direction true
  sda true
  scl true

def iicStart : PinProg Unit := do
  direction true
  sda true
  scl true
  sda false
  scl false

def iicStop : PinProg Unit := do
  direction true
  sda false
  scl true
  sda true

def iicAck (a : Byte) : PinProg Unit := do
  direction true
  if a ≠ 0#8 then sda true else sda false
  scl true
  scl false

/-- The highest bit on the data line. -/
def iicPutBit (dat : Byte) : PinProg Unit := if dat &&& 0x80#8 ≠ 0#8 then sda true else sda false

/-- The loop of `IIC_Write_Byte`. -/
def iicWriteBits : Nat → Byte → PinProg Unit
  | 0, _ => return ()
  | left + 1, dat => do
    iicPutBit dat
    scl true
    scl false
    iicWriteBits left (dat <<< 1)

def iicWriteByte (dat : Byte) : PinProg Byte := do
  direction true
  iicWriteBits 8 dat
  sda true
  direction false
  scl true
  let iicAck := 0#8 ||| (if ← sample then 1#8 else 0#8)
  scl false
  return iicAck

/-- The loop of `IIC_Read_Byte`. -/
def iicReadBits : Nat → Byte → PinProg Byte
  | 0, x => return x
  | left + 1, x => do
    let x := x <<< 1
    scl true
    let x := if ← sample then x ||| 0x01#8 else x
    scl false
    iicReadBits left x

def iicReadByte : PinProg Byte := do
  sda true
  direction false
  let x ← iicReadBits 8 0#8
  scl false
  return x

/-- The functions of the driver, each for a command of the bus. -/
def iicCarry : (op : WireOp) → PinProg op.Res
  | .start => iicStart
  | .stop => iicStop
  | .write value => do return decide ((← iicWriteByte value) ≠ 0#8)
  | .read => iicReadByte
  | .answer nack => iicAck (if nack then 0x01#8 else 0x00#8)

/-! ## On the wire -/

namespace PinProg

variable {σ α β : Type} (target : Target σ)

def run (prog : PinProg α) (bus : Bus σ) : α × Bus σ := Prog.run (Bus.handle target) prog bus

@[simp] theorem run_pure (value : α) (bus : Bus σ) :
    run target (pure value : PinProg α) bus = (value, bus) := (rfl)

@[simp] theorem run_bind (prog : PinProg α) (next : α → PinProg β) (bus : Bus σ) :
    run target (prog >>= next) bus = run target (next (prog.run target bus).1)
      (prog.run target bus).2 :=
  Prog.run_bind (Bus.handle target) prog next bus

@[simp] theorem run_ite (test : Prop) [Decidable test] (yes no : PinProg α) (bus : Bus σ) :
    run target (if test then yes else no) bus = if test then yes.run target bus
      else no.run target bus := by
  split <;> rfl

section Pins

variable (sda' out : Bool) (phase : Phase) (device : σ)

/-! With the clock low, the data line may change. -/

@[simp] theorem run_sda_low (level : Bool) :
    (sda level).run target ⟨false, sda', out, phase, device⟩ =
      ((), ⟨false, level, out, phase, device⟩) := (rfl)

@[simp] theorem run_direction_low (turned : Bool) :
    (direction turned).run target ⟨false, sda', out, phase, device⟩ =
      ((), ⟨false, sda', turned, phase, device⟩) := (rfl)

@[simp] theorem run_scl_low : (scl false).run target ⟨false, sda', out, phase, device⟩ =
    ((), ⟨false, sda', out, phase, device⟩) := (rfl)

@[simp] theorem run_scl_rise :
    (scl true).run target ⟨false, sda', out, phase, device⟩ =
      ((), ⟨true, sda', out, Bus.rise ⟨false, sda', out, phase, device⟩, device⟩) := (rfl)

@[simp] theorem run_scl_fall :
    (scl false).run target ⟨true, sda', out, phase, device⟩ =
      ((), ⟨false, sda', out, (Bus.fall target ⟨true, sda', out, phase, device⟩).1,
        (Bus.fall target ⟨true, sda', out, phase, device⟩).2⟩) := (rfl)

@[simp] theorem run_sample (bus : Bus σ) : sample.run target bus = (bus.level, bus) := (rfl)

end Pins

end PinProg

/-- The phase of the device between two commands. -/
def Link.phase : Link → Phase
  | free | deaf => .idle
  | addressed => .shiftIn true []
  | taking => .shiftIn false []
  | giving value => .shiftOut (topBits 8 value)
  | given => .ackIn true

/-- The wires between two commands: idle when the bus is free, and otherwise with the clock
low. -/
inductive Follows {σ : Type} : Link × σ → Bus σ → Prop where
  | idle (device : σ) : Follows (.free, device) ⟨true, true, true, .idle, device⟩
  | low {link : Link} (busy : link ≠ .free) (sda out : Bool) (device : σ) :
      Follows (link, device) ⟨false, sda, out, link.phase, device⟩

section Commands

variable {σ : Type} {target : Target σ}

theorem msb_mask (dat : Byte) : dat &&& 0x80#8 ≠ 0#8 ↔ dat.msb = true := by
  revert dat
  decide

theorem iicPutBit_eq (dat : Byte) : iicPutBit dat = sda dat.msb := by
  unfold iicPutBit
  simp only [msb_mask]
  cases dat.msb <;> rfl

/-- The bits that are put on the line. -/
theorem iicWriteBits_sends (left : Nat) (dat : Byte) (address : Bool) (bits : List Bool)
    (sda' : Bool) (device : σ) (eight : bits.length + (left + 1) = 8) : ∃ sda'',
      (iicWriteBits (left + 1) dat).run target ⟨false, sda', true, .shiftIn address bits, device⟩ =
        let sent := bits ++ topBits (left + 1) dat
        let answer := if address then target.select (ofBits sent) device
            else target.write (ofBits sent) device
        ((), ⟨false, sda'', true, .ackOut answer.1 (address && (ofBits sent).getLsbD 0),
          answer.2⟩) := by
  induction left generalizing dat bits sda' with
  | zero =>
    refine ⟨dat.msb, ?_⟩
    have full : (bits ++ [dat.msb]).length = 8 := by simpa using eight
    simp only [iicWriteBits, iicPutBit_eq, run_bind, run_sda_low, run_scl_rise, run_scl_fall,
      Bus.rise, Bus.level,
      Phase.released, Bus.fall, full, topBits, run_pure, Bool.not_true, Bool.false_or,
        Bool.and_true, if_true]
  | succ left ih =>
    have short : (bits ++ [dat.msb]).length ≠ 8 := by
      rw [List.length_append, List.length_singleton]
      omega
    have rest : (bits ++ [dat.msb]).length + (left + 1) = 8 := by
      rw [List.length_append, List.length_singleton]
      omega
    obtain ⟨sda'', ran⟩ := ih (dat <<< 1) (bits ++ [dat.msb]) dat.msb rest
    refine ⟨sda'', ?_⟩
    rw [iicWriteBits, iicPutBit_eq]
    simp only [run_bind, run_sda_low, run_scl_rise, run_scl_fall, Bus.rise, Bus.level,
      Phase.released, Bus.fall, short,
      Bool.not_true, Bool.false_or, Bool.and_true, if_false]
    have sent : bits ++ topBits (left + 1 + 1) dat = bits ++ [dat.msb] ++
        topBits (left + 1) (dat <<< 1) :=
      List.append_cons bits dat.msb (topBits (left + 1) (dat <<< 1))
    rw [ran, sent]

/-- A device that does not listen sees the edges pass. -/
theorem iicWriteBits_deaf (left : Nat) (dat : Byte) (sda' : Bool) (device : σ) : ∃ sda'',
    (iicWriteBits left dat).run target ⟨false, sda', true, .idle, device⟩ =
      ((), ⟨false, sda'', true, .idle, device⟩) := by
  induction left generalizing dat sda' with
  | zero => exact ⟨sda', rfl⟩
  | succ left ih =>
    obtain ⟨sda'', ran⟩ := ih (dat <<< 1) dat.msb
    refine ⟨sda'', ?_⟩
    rw [iicWriteBits, iicPutBit_eq]
    simpa only [run_bind, run_sda_low, run_scl_rise, run_scl_fall, Bus.rise, Bus.fall] using ran

/-- The bits that the device gives out. -/
theorem iicReadBits_gives (bits : List Bool) (bit : Bool) (x : Byte) (sda' : Bool) (device : σ) :
    (iicReadBits (bits.length + 1) x).run target
      ⟨false, sda', false, .shiftOut (bit :: bits), device⟩ =
      ((bit :: bits).foldl shiftedIn x, ⟨false, sda', false, .ackIn true, device⟩) := by
  have taken (x : Byte) (bit : Bool) : (if bit = true then x <<< 1 ||| 0x01#8 else x <<< 1) =
      shiftedIn x bit := by
    cases bit with
    | false => exact (BitVec.or_zero).symm
    | true => rfl
  induction bits generalizing bit x with
  | nil =>
    simp only [List.length_nil, iicReadBits, run_bind, run_scl_rise, run_sample, run_scl_fall,
      run_pure, Bus.rise,
      Bus.level, Bus.fall, Phase.released, Bool.not_false, Bool.true_or, Bool.true_and, taken,
        List.foldl_cons, List.foldl_nil]
  | cons next rest ih =>
    rw [List.length_cons, iicReadBits]
    simp only [run_bind, run_scl_rise, run_sample, run_scl_fall, Bus.rise, Bus.level, Bus.fall,
      Phase.released, Bool.not_false,
      Bool.true_or, Bool.true_and, taken]
    rw [ih, List.foldl_cons, List.foldl_cons, List.foldl_cons]

theorem iicReadBits_deaf (left : Nat) (x : Byte) (sda' : Bool) (device : σ) :
    (iicReadBits left x).run target ⟨false, sda', false, .idle, device⟩ =
      ((List.replicate left true).foldl shiftedIn x, ⟨false, sda', false, .idle, device⟩) := by
  induction left generalizing x with
  | zero => rfl
  | succ left ih =>
    rw [iicReadBits]
    simp only [run_bind, run_scl_rise, run_sample, run_scl_fall, Bus.rise, Bus.level, Bus.fall,
      Phase.released, Bool.not_false,
      Bool.true_or, Bool.true_and, if_true]
    rw [ih, List.replicate_succ, List.foldl_cons]
    rfl

/-- The ninth clock of a byte that the device has taken. -/
theorem iicWriteByte_heard {value : Byte} {address : Bool} (sda' out : Bool) (device : σ) :
    let answer := if address then target.select value device else target.write value device
    let ran := (iicWriteByte value).run target ⟨false, sda', out, .shiftIn address [], device⟩
    decide (ran.1 ≠ 0#8) = !answer.1 ∧
      Follows (Link.heard target answer (address && value.getLsbD 0)) ran.2 := by
  obtain ⟨sda'', sent⟩ := @iicWriteBits_sends σ target 7 value address [] sda' device rfl
  have whole : ofBits (topBits (7 + 1) value) = value := ofBits_topBits value
  simp only [List.nil_append, whole] at sent
  unfold iicWriteByte
  simp only [run_bind, run_direction_low, sent]
  generalize (if address then target.select value device else target.write value device) = answer
  obtain ⟨ack, device'⟩ := answer
  simp only [run_sda_low, run_direction_low, run_scl_rise, run_sample, run_scl_fall, run_pure,
    Bus.rise, Bus.level, Bus.fall,
    Phase.released, Bool.not_false, Bool.true_or, Bool.true_and]
  cases ack with
  | false => exact ⟨rfl, @Follows.low σ .deaf (by decide) true false device'⟩
  | true =>
    cases sends : address && value.getLsbD 0 with
    | false => exact ⟨rfl, @Follows.low σ .taking (by decide) true false device'⟩
    | true => exact ⟨rfl, @Follows.low σ (.giving (target.read device').1) Link.noConfusion true
      false (target.read device').2⟩

theorem iicWriteByte_deaf (value : Byte) (sda' out : Bool) (device : σ) :
    (iicWriteByte value).run target ⟨false, sda', out, .idle, device⟩ =
      (1#8, ⟨false, true, false, .idle, device⟩) := by
  obtain ⟨sda'', sent⟩ := @iicWriteBits_deaf σ target 8 value sda' device
  unfold iicWriteByte
  simp only [run_bind, run_direction_low, sent, run_sda_low, run_scl_rise, run_sample, run_scl_fall,
    run_pure, Bus.rise,
    Bus.level, Bus.fall, Phase.released, Bool.not_false, Bool.true_or, Bool.true_and, if_true]
  rfl

theorem iicReadByte_deaf (sda' out : Bool) (device : σ) :
    iicReadByte.run target ⟨false, sda', out, .idle, device⟩ =
      (0xFF#8, ⟨false, true, false, .idle, device⟩) := by
  have ones : (List.replicate 8 true).foldl shiftedIn 0#8 = 0xFF#8 := by decide
  unfold iicReadByte
  simp only [run_bind, run_sda_low, run_direction_low, iicReadBits_deaf, run_scl_low,
    run_pure, ones]

theorem iicReadByte_gives (value : Byte) (sda' out : Bool) (device : σ) :
    iicReadByte.run target ⟨false, sda', out, .shiftOut (topBits 8 value), device⟩ =
      (value, ⟨false, true, false, .ackIn true, device⟩) := by
  have whole : (value.msb :: topBits 7 (value <<< 1)).foldl shiftedIn 0#8 = value :=
    ofBits_topBits value
  have first : topBits 8 value = value.msb :: topBits 7 (value <<< 1) := rfl
  have given := @iicReadBits_gives σ target (topBits 7 (value <<< 1)) value.msb 0#8 true device
  rw [length_topBits, whole] at given
  unfold iicReadByte
  simp only [run_bind, run_sda_low, run_direction_low, first, given, run_scl_low, run_pure]

theorem iicStart_refines {state after : Link × σ} {bus : Bus σ} {result : Unit}
    (follows : Follows state bus)
    (answered : Link.handle target .start state = some (result, after)) : Follows after
      (iicStart.run target bus).2 := by
  cases follows with
  | idle device =>
    obtain rfl : (Link.addressed, device) = after := congrArg Prod.snd (Option.some.inj answered)
    exact .low (by decide) false true device
  | @low link busy sda' out device =>
    cases link with
    | free => exact absurd rfl busy
    | deaf | addressed | taking =>
      obtain rfl : (Link.addressed, device) = after := congrArg Prod.snd (Option.some.inj answered)
      exact .low (by decide) false true device
    | giving value | given => cases answered

theorem iicStop_refines {state after : Link × σ} {bus : Bus σ} {result : Unit}
    (follows : Follows state bus)
    (answered : Link.handle target .stop state = some (result, after)) : Follows after
      (iicStop.run target bus).2 := by
  cases follows with
  | idle device =>
    obtain rfl : (Link.free, device) = after := congrArg Prod.snd (Option.some.inj answered)
    exact .idle device
  | @low link busy sda' out device =>
    cases link with
    | free => exact absurd rfl busy
    | deaf | addressed | taking =>
      obtain rfl : (Link.free, device) = after := congrArg Prod.snd (Option.some.inj answered)
      exact .idle device
    | giving value | given => cases answered

theorem iicWriteByte_refines {value : Byte} {state after : Link × σ} {bus : Bus σ} {result : Bool}
    (follows : Follows state bus)
    (answered : Link.handle target (.write value) state = some (result, after)) :
    decide (((iicWriteByte value).run target bus).1 ≠ 0#8) = result ∧
      Follows after ((iicWriteByte value).run target bus).2 := by
  cases follows with
  | idle device => cases answered
  | @low link busy sda' out device =>
    cases link with
    | free => exact absurd rfl busy
    | giving other | given => cases answered
    | deaf =>
      obtain ⟨rfl, rfl⟩ := Prod.mk.inj (Option.some.inj answered)
      rw [Link.phase, iicWriteByte_deaf]
      exact ⟨rfl, .low (by decide) true false device⟩
    | addressed =>
      obtain ⟨rfl, rfl⟩ := Prod.mk.inj (Option.some.inj answered)
      exact @iicWriteByte_heard σ target value true sda' out device
    | taking =>
      obtain ⟨rfl, rfl⟩ := Prod.mk.inj (Option.some.inj answered)
      exact @iicWriteByte_heard σ target value false sda' out device

theorem iicReadByte_refines {state after : Link × σ} {bus : Bus σ} {result : Byte}
    (follows : Follows state bus)
    (answered : Link.handle target .read state = some (result, after)) :
    (iicReadByte.run target bus).1 = result ∧ Follows after (iicReadByte.run target bus).2 := by
  cases follows with
  | idle device => cases answered
  | @low link busy sda' out device =>
    cases link with
    | free => exact absurd rfl busy
    | addressed | taking | given => cases answered
    | deaf =>
      obtain ⟨rfl, rfl⟩ := Prod.mk.inj (Option.some.inj answered)
      rw [Link.phase, iicReadByte_deaf]
      exact ⟨rfl, .low (by decide) true false device⟩
    | giving value =>
      obtain ⟨rfl, rfl⟩ := Prod.mk.inj (Option.some.inj answered)
      rw [Link.phase, iicReadByte_gives]
      exact ⟨rfl, .low (by decide) true false device⟩

theorem iicAck_refines {nack : Bool} {state after : Link × σ} {bus : Bus σ} {result : Unit}
    (follows : Follows state bus)
    (answered : Link.handle target (.answer nack) state = some (result, after)) :
    Follows after ((iicAck (if nack then 0x01#8 else 0x00#8)).run target bus).2 := by
  cases follows with
  | idle device => cases answered
  | @low link busy sda' out device =>
    cases link with
    | free => exact absurd rfl busy
    | addressed | taking | giving value => cases answered
    | deaf =>
      obtain rfl : (Link.deaf, device) = after := congrArg Prod.snd (Option.some.inj answered)
      cases nack with
      | false => exact .low (by decide) false true device
      | true => exact .low (by decide) true true device
    | given =>
      obtain rfl : (if nack then (Link.deaf, device) else Link.next target device) = after :=
        congrArg Prod.snd (Option.some.inj answered)
      cases nack with
      | false =>
        exact @Follows.low σ (.giving (target.read device).1) Link.noConfusion false true
          (target.read device).2
      | true => exact .low (by decide) true true device

/-- Each function of the driver is its command on the wire. -/
theorem iicCarry_refines {op : WireOp} {state after : Link × σ} {bus : Bus σ} {result : op.Res}
    (follows : Follows state bus) (answered : Link.handle target op state = some (result, after)) :
    ((iicCarry op).run target bus).1 = result ∧ Follows after ((iicCarry op).run target bus).2 := by
  cases op with
  | start => exact ⟨rfl, iicStart_refines follows answered⟩
  | stop => exact ⟨rfl, iicStop_refines follows answered⟩
  | write value =>
    obtain ⟨acked, kept⟩ := iicWriteByte_refines follows answered
    have written : (iicCarry (.write value)).run target bus =
        (decide (((iicWriteByte value).run target bus).1 ≠ 0#8),
          ((iicWriteByte value).run target bus).2) :=
      run_bind target (iicWriteByte value) (fun ack => pure (decide (ack ≠ 0#8))) bus
    rw [written]
    exact ⟨acked, kept⟩
  | read => exact iicReadByte_refines follows answered
  | answer nack => exact ⟨rfl, iicAck_refines follows answered⟩

/-- A program of whole bytes has the same results and the same effect on the device when it is
carried out edge by edge. -/
theorem iic_refines {α : Type} {prog : WireProg α} {device final : σ} {value : α} {link : Link}
    (ran : prog.runSome (Link.handle target) (.free, device) = some (value, link, final)) :
    let edges := PinProg.run target (Prog.lower iicCarry prog) ⟨true, true, true, .idle, device⟩
    edges.1 = value ∧ Follows (link, final) edges.2 :=
  Prog.lower_refines (Link.handle target) iicCarry_refines (.idle device) ran

end Commands

/-- A device that takes two bytes. -/
theorem iic_refines_two :
    let prog : WireProg Unit := do
      let _ ← Prog.perform WireOp.start
      let _ ← Prog.perform (WireOp.write 0xd0#8)
      let _ ← Prog.perform (WireOp.write 0x12#8)
      Prog.perform WireOp.stop
    let target : Target (List Byte) :=
      ⟨fun _ taken => (true, taken), fun value taken => (true, taken ++ [value]), fun taken =>
        (0#8, taken)⟩
    let edges := PinProg.run target (Prog.lower iicCarry prog) ⟨true, true, true, .idle, []⟩
    edges.1 = () ∧ Follows (.free, [0x12#8]) edges.2 := iic_refines rfl

end WifiAccess

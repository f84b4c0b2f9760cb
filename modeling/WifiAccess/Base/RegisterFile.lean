import WifiAccess.Base.Image
import WifiAccess.Base.Lower
import WifiAccess.Base.TwoWire

/-! A device on the two-wire bus that is a row of registers: the first byte of a write sets
the pointer, which moves on with every byte written or read and wraps around. -/

namespace WifiAccess

structure RegisterFile (n : Nat) where
  regs : Image n
  pointer : Nat
  pointed : Bool

namespace WireProg

def start : WireProg Unit := Prog.perform WireOp.start
def stop : WireProg Unit := Prog.perform WireOp.stop
def write (value : Byte) : WireProg Bool := Prog.perform (WireOp.write value)
def read : WireProg Byte := Prog.perform WireOp.read
def answer (nack : Bool) : WireProg Unit := Prog.perform (WireOp.answer nack)

/-- Whole bytes on the bus, with the device behind them. -/
def transfer {σ α : Type} (target : Target σ) (prog : WireProg α) (state : Link × σ) :
    Option (α × Link × σ) :=
  Prog.runSome (Link.handle target) prog state

section Transfer

variable {σ α β : Type} (target : Target σ)

@[simp] theorem transfer_pure (value : α) (state : Link × σ) :
    transfer target (pure value : WireProg α) state = some (value, state) := (rfl)

@[simp] theorem transfer_bind (prog : WireProg α) (next : α → WireProg β) (state : Link × σ) :
    transfer target (prog >>= next) state =
      (prog.transfer target state).bind fun ran => (next ran.1).transfer target ran.2 :=
  Prog.runSome_bind (Link.handle target) prog next state

@[simp] theorem transfer_ite (test : Prop) [Decidable test] (yes no : WireProg α)
    (state : Link × σ) :
    transfer target (if test then yes else no) state = if test then yes.transfer target state
      else no.transfer target state := by
  split <;> rfl

variable (state : Link × σ)

theorem transfer_write (value : Byte) :
    (write value).transfer target state = Link.handle target (.write value) state :=
  Prog.runSome_perform (Link.handle target) (.write value) state

end Transfer

end WireProg

namespace RegisterFile

variable {n : Nat}

def pointTo (chip : RegisterFile n) (pointer : Nat) : RegisterFile n :=
  { chip with pointer := pointer, pointed := true }

/-- Behind its address, before the first byte. -/
def selected (chip : RegisterFile n) : RegisterFile n := { chip with pointed := false }

def store (chip : RegisterFile n) (value : Byte) : RegisterFile n :=
  { chip with regs := chip.regs.put chip.pointer [value], pointer := (chip.pointer + 1) % n }

def advance (chip : RegisterFile n) : RegisterFile n :=
  { chip with pointer := (chip.pointer + 1) % n }

/-- The device with this address, whose lowest bit tells a read from a write. -/
def target (n : Nat) (own : Byte) : Target (RegisterFile n) where
  select value chip := (decide (value &&& 0xFE#8 = own), chip.selected)
  write value chip :=
    (true, if chip.pointed then chip.store value else chip.pointTo (value.toNat % n))
  read chip := (chip.regs.byte chip.pointer, chip.advance)

/-! ## Loops of a master -/

/-- Bytes written one behind the other. -/
def writeAll : List Byte → WireProg Unit
  | [] => return ()
  | value :: rest => do
    let _ ← WireProg.write value
    writeAll rest

/-- Bytes read one behind the other; the last one is not acknowledged. -/
def readAll : Nat → WireProg (List Byte)
  | 0 => return []
  | left + 1 => do
    let value ← WireProg.read
    WireProg.answer (decide (left = 0))
    return value :: (← readAll left)

section Loops

variable {own : Byte} (chip : RegisterFile n)

theorem transfer_writeAll {values : List Byte} (pointed : chip.pointed = true)
    (inside : chip.pointer + values.length ≤ n) :
    ∃ pointer, (writeAll values).transfer (target n own) (.taking, chip) =
      some ((), .taking, ⟨chip.regs.put chip.pointer values, pointer, true⟩) := by
  induction values generalizing chip with
  | nil =>
    refine ⟨chip.pointer, ?_⟩
    rw [Image.put_nil, ← pointed]
    rfl
  | cons value rest ih =>
    have wrote : (WireProg.write value).transfer (target n own) (.taking, chip) =
        some (false, .taking, chip.store value) := by
      rw [WireProg.transfer_write]
      simp only [Link.handle, target, Link.heard, pointed, if_true, Bool.not_true,
        Bool.false_eq_true, if_false]
      rfl
    rw [List.length_cons] at inside
    rw [writeAll, WireProg.transfer_bind, wrote, Option.bind_some]
    rcases Nat.lt_or_ge (chip.pointer + 1) n with before | last
    · have next : (chip.store value).pointer = chip.pointer + 1 := Nat.mod_eq_of_lt before
      obtain ⟨pointer, ran⟩ := ih (chip.store value) pointed (by rw [next]; omega)
      refine ⟨pointer, ?_⟩
      rw [ran, next, store, Image.put_cons]
    · obtain rfl : rest = [] := List.length_eq_zero_iff.mp (by omega)
      refine ⟨(chip.pointer + 1) % n, ?_⟩
      rw [writeAll, WireProg.transfer_pure, ← pointed]
      rfl

theorem transfer_readAll (left : Nat) (inside : chip.pointer + left + 1 ≤ n) :
    ∃ pointer, (readAll (left + 1)).transfer (target n own) (Link.next (target n own) chip) =
      some (chip.regs.field chip.pointer (left + 1), .deaf,
        ⟨chip.regs, pointer, chip.pointed⟩) := by
  induction left generalizing chip with
  | zero =>
    refine ⟨chip.advance.pointer, ?_⟩
    rw [Image.field_succ]
    rfl
  | succ left ih =>
    have next : chip.advance.pointer = chip.pointer + 1 := Nat.mod_eq_of_lt (by omega)
    obtain ⟨pointer, ran⟩ := ih chip.advance (by rw [next]; omega)
    refine ⟨pointer, ?_⟩
    have took : WireProg.read.transfer (target n own) (Link.next (target n own) chip) =
        some (chip.regs.byte chip.pointer, .given, chip.advance) := rfl
    have answered : (WireProg.answer (decide (left + 1 = 0))).transfer (target n own)
        (.given, chip.advance) =
        some ((), Link.next (target n own) chip.advance) := rfl
    rw [readAll, WireProg.transfer_bind, took, Option.bind_some, WireProg.transfer_bind, answered,
      Option.bind_some,
      WireProg.transfer_bind, ran, Option.bind_some, WireProg.transfer_pure, next,
        Image.field_succ _ _ (left + 1)]
    rfl

end Loops

end RegisterFile

end WifiAccess

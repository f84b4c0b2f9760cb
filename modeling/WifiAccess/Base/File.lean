import WifiAccess.Base.Bytes
import WifiAccess.Base.Prog

/-! One file behind the POSIX calls. Offsets are 32-bit patterns read as signed,
and seeking past the end of a file open for writing extends it with zeros. -/

namespace WifiAccess

inductive FileOp where
  | openCreate
  | stat
  | unlink
  | lseek (offset : Nat)
  | read (len : Nat)
  | write (bytes : List Byte)
  | close

/-- Success flags, the size for `stat`, the bytes or byte count transferred. -/
def FileOp.Res : FileOp → Type
  | openCreate => Bool
  | stat => Option Nat
  | unlink => Bool
  | lseek _ => Bool
  | read _ => List Byte
  | write _ => Nat
  | close => Unit

abbrev FileProg := Prog FileOp FileOp.Res

namespace FileProg

def openCreate : FileProg Bool := Prog.perform FileOp.openCreate
def stat : FileProg (Option Nat) := Prog.perform FileOp.stat
def unlink : FileProg Bool := Prog.perform FileOp.unlink
def lseek (offset : Nat) : FileProg Bool := Prog.perform (FileOp.lseek offset)
def read (len : Nat) : FileProg (List Byte) := Prog.perform (FileOp.read len)
def write (bytes : List Byte) : FileProg Nat := Prog.perform (FileOp.write bytes)
def close : FileProg Unit := Prog.perform FileOp.close

end FileProg

/-- The file, the descriptor's position, and whether every call so far was
carried out in full. -/
structure FileState where
  content : Option (List Byte)
  pos : Nat
  full : Bool

namespace FileState

def bytes (file : FileState) : List Byte := file.content.getD []

/-- A working disk: calls fail only on bad offsets, missing files and short reads. -/
def handle : (op : FileOp) → FileState → op.Res × FileState
  | .openCreate, file => (true, { file with content := some file.bytes, pos := 0 })
  | .stat, file =>
    (file.content.map List.length, { file with full := file.full && file.content.isSome })
  | .unlink, file =>
    (file.content.isSome, { file with content := none, full := file.full && file.content.isSome })
  | .lseek offset, file =>
    if offset < 2 ^ 31 then
      (true, { file with content := some (grow file.bytes offset), pos := offset })
    else (false, { file with full := false })
  | .read len, file =>
    let got := (file.bytes.drop file.pos).take len
    (got, { file with pos := file.pos + got.length, full := file.full && got.length == len })
  | .write bytes, file =>
    (bytes.length, { file with content := some (splice file.bytes file.pos bytes), pos :=
      file.pos + bytes.length })
  | .close, file => ((), file)

/-- A descriptor not yet opened on the given file. -/
def fresh (content : Option (List Byte)) : FileState := ⟨content, 0, true⟩

@[simp] theorem bytes_fresh (content : Option (List Byte)) :
    (fresh content).bytes = content.getD [] := rfl

end FileState

namespace FileProg

variable {α β : Type}

def run (prog : FileProg α) (file : FileState) : α × FileState :=
  Prog.run FileState.handle prog file

/-- Run on a file with no descriptor open yet. -/
def exec (prog : FileProg α) (content : Option (List Byte)) : α × Option (List Byte) :=
  ((prog.run (.fresh content)).1, (prog.run (.fresh content)).2.content)

@[simp] theorem run_pure (value : α) (file : FileState) :
    run (pure value : FileProg α) file = (value, file) := rfl

@[simp] theorem run_bind (prog : FileProg α) (next : α → FileProg β) (file : FileState) :
    run (prog >>= next) file = run (next (prog.run file).1) (prog.run file).2 :=
  Prog.run_bind FileState.handle prog next file

@[simp] theorem run_ite (test : Prop) [Decidable test] (yes no : FileProg α) (file : FileState) :
    run (if test then yes else no) file = if test then yes.run file else no.run file := by
  split <;> rfl

@[simp] theorem run_openCreate (file : FileState) :
    openCreate.run file = (true, { file with content := some file.bytes, pos := 0 }) := rfl

@[simp] theorem run_stat (file : FileState) :
    stat.run file = (file.content.map List.length,
      { file with full := file.full && file.content.isSome }) := rfl

@[simp] theorem run_unlink (file : FileState) :
    unlink.run file =
      (file.content.isSome, { file with content := none, full := file.full &&
        file.content.isSome }) := rfl

theorem run_lseek {offset : Nat} (small : offset < 2 ^ 31) (file : FileState) :
    (lseek offset).run file =
      (true, { file with content := some (grow file.bytes offset), pos := offset }) := by
  change FileState.handle (.lseek offset) file = _
  simp only [FileState.handle, small, ↓reduceIte]
  rfl

theorem run_lseek_negative {offset : Nat} (negative : ¬ offset < 2 ^ 31) (file : FileState) :
    (lseek offset).run file = (false, { file with full := false }) := by
  change FileState.handle (.lseek offset) file = _
  simp only [FileState.handle, negative, ↓reduceIte]
  rfl

theorem run_read (len : Nat) (file : FileState) :
    (read len).run file =
      ((file.bytes.drop file.pos).take len,
        { file with
          pos := file.pos + ((file.bytes.drop file.pos).take len).length
          full := file.full && ((file.bytes.drop file.pos).take len).length == len }) := rfl

/-- A read inside the file transfers all it was asked for. -/
theorem run_read_inside {len : Nat} {bytes : List Byte} {pos : Nat}
    (inside : pos + len ≤ bytes.length) (full : Bool) :
    (read len).run ⟨some bytes, pos, full⟩ = (window bytes pos len,
      ⟨some bytes, pos + len, full⟩) := by
  have whole : ((bytes.drop pos).take len).length = len := by simp; omega
  rw [run_read, window_inside inside]
  simp only [FileState.bytes, Option.getD_some, whole, beq_self_eq_true, Bool.and_true]

@[simp] theorem run_write (bytes : List Byte) (file : FileState) :
    (write bytes).run file =
      (bytes.length,
        { file with
          content := some (splice file.bytes file.pos bytes)
          pos := file.pos + bytes.length }) := rfl

@[simp] theorem run_close (file : FileState) : close.run file = ((), file) := rfl

private theorem handle_not_full (op : FileOp) {file : FileState} (off : file.full = false) :
    (FileState.handle op file).2.full = false := by
  cases op with
  | lseek offset =>
    simp only [FileState.handle]
    split
    · exact off
    · rfl
  | _ => simp [FileState.handle, off]

/-- If every call was carried out at the end, it was so before. -/
theorem full_of_run (prog : FileProg α) {file : FileState} (full : (prog.run file).2.full = true) :
    file.full = true := by
  cases kept : file.full
  · have stays : (prog.run file).2.full = false :=
      Prog.run_invariant FileState.handle (fun file => file.full = false)
        (fun op _ => handle_not_full op)
        prog file kept
    rw [stays] at full
    cases full
  · rfl

end FileProg

end WifiAccess

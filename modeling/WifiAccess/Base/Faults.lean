import WifiAccess.Base.File

/-! File calls that may fail: each one is carried out as on a working disk, or fails
and leaves the file alone. What a write takes is in the file from then on: a close, or the
power, that fails before FatFs has stored what it keeps back is no such fault. -/

namespace WifiAccess

/-- The result of a call that fails. -/
def FileOp.failed : (op : FileOp) → op.Res
  | .openCreate => false
  | .stat => none
  | .unlink => false
  | .lseek _ => false
  | .read _ => []
  | .write _ => (0 : Nat)
  | .close => ()

namespace FileState

/-- A call with the outcomes decided for the calls to come: `true` for a failure, and
none left when all will be carried out. -/
def attempt (op : FileOp) (state : FileState × List Bool) : op.Res × FileState × List Bool :=
  match state.2 with
  | true :: faults => (op.failed, { state.1 with full := false }, faults)
  | false :: faults => ((handle op state.1).1, (handle op state.1).2, faults)
  | [] => ((handle op state.1).1, (handle op state.1).2, [])

theorem attempt_cases (op : FileOp) (file : FileState) (faults : List Bool) : ∃ later,
    attempt op (file, faults) = ((handle op file).1, (handle op file).2, later) ∨
      attempt op (file, faults) = (op.failed, { file with full := false }, later) := by
  match faults with
  | true :: faults => exact ⟨faults, .inr rfl⟩
  | false :: faults => exact ⟨faults, .inl rfl⟩
  | [] => exact ⟨[], .inl rfl⟩

/-- A call fails when the next outcome says so, and the others follow. -/
theorem attempt_eq (op : FileOp) (file : FileState) (faults : List Bool) :
    attempt op (file, faults) =
      if faults.getD 0 false then (op.failed, { file with full := false }, faults.tail)
      else ((handle op file).1, (handle op file).2, faults.tail) := by
  match faults with
  | true :: _ | false :: _ | [] => rfl

theorem getD_tail (faults : List Bool) (i : Nat) :
    faults.tail.getD i false = faults.getD (i + 1) false := by
  cases faults <;> rfl

/-- The same bytes, read with zeros past the end. -/
def Same (first second : FileState) : Prop := ∀ i, first.bytes.getD i 0#8 = second.bytes.getD i 0#8

theorem Same.refl (file : FileState) : Same file file := fun _ => rfl

theorem Same.trans {first second third : FileState} (one : Same first second)
    (two : Same second third) :
    Same first third := fun i => (one i).trans (two i)

end FileState

namespace FileProg

variable {α β : Type}

/-- Run with the outcomes of the calls. -/
def attempt (prog : FileProg α) (file : FileState) (faults : List Bool) :
    α × FileState × List Bool :=
  Prog.run FileState.attempt prog (file, faults)

@[simp] theorem attempt_pure (value : α) (file : FileState) (faults : List Bool) :
    attempt (pure value : FileProg α) file faults = (value, file, faults) := rfl

@[simp] theorem attempt_bind (prog : FileProg α) (next : α → FileProg β) (file : FileState)
    (faults : List Bool) :
    attempt (prog >>= next) file faults =
      attempt (next (prog.attempt file faults).1) (prog.attempt file faults).2.1
        (prog.attempt file faults).2.2 :=
  Prog.run_bind FileState.attempt prog next (file, faults)

@[simp] theorem attempt_ite (test : Prop) [Decidable test] (yes no : FileProg α) (file : FileState)
    (faults : List Bool) : attempt (if test then yes else no) file faults =
      if test then yes.attempt file faults else no.attempt file faults := by
  split <;> rfl

/-! ## Each call with its outcomes -/

section Calls

variable (file : FileState) (faults : List Bool)

theorem attempt_openCreate :
    ∃ opened next later, openCreate.attempt file faults = (opened, next, later) ∧
    next.Same file ∧ (opened = true → next.pos = 0 ∧ next.bytes = file.bytes) := by
  obtain ⟨later, carried | failed⟩ := FileState.attempt_cases .openCreate file faults
  · exact ⟨_, _, later, carried, .refl _, fun _ => ⟨rfl, rfl⟩⟩
  · refine ⟨_, _, later, failed, .refl _, fun opened => ?_⟩
    cases opened

theorem attempt_lseek (offset : Nat) :
    ∃ moved next later, (lseek offset).attempt file faults = (moved, next, later) ∧
    next.Same file ∧ (moved = true → offset < 2 ^ 31 ∧ next.pos = offset ∧
      next.bytes = grow file.bytes offset) := by
  obtain ⟨later, carried | failed⟩ := FileState.attempt_cases (.lseek offset) file faults
  · refine ⟨_, _, later, carried, ?_⟩
    by_cases small : offset < 2 ^ 31
    · have handled : FileState.handle (.lseek offset) file = _ := run_lseek small file
      rw [handled]
      exact ⟨fun i => getD_grow file.bytes offset i, fun _ => ⟨small, rfl, rfl⟩⟩
    · have handled : FileState.handle (.lseek offset) file = _ := run_lseek_negative small file
      rw [handled]
      refine ⟨.refl _, fun moved => ?_⟩
      cases moved
  · refine ⟨_, _, later, failed, .refl _, fun moved => ?_⟩
    cases moved

theorem attempt_write (bytes : List Byte) :
    ∃ count next later, (write bytes).attempt file faults = (count, next, later) ∧
    ((count = bytes.length ∧ next.bytes = splice file.bytes file.pos bytes) ∨
      (count = 0 ∧ next.Same file)) := by
  obtain ⟨later, carried | failed⟩ := FileState.attempt_cases (.write bytes) file faults
  · exact ⟨_, _, later, carried, .inl ⟨rfl, rfl⟩⟩
  · exact ⟨_, _, later, failed, .inr ⟨rfl, .refl _⟩⟩

theorem attempt_read (len : Nat) :
    ∃ got next later, (read len).attempt file faults = (got, next, later) ∧
    next.bytes = file.bytes ∧ (got = (file.bytes.drop file.pos).take len ∨ got = []) := by
  obtain ⟨later, carried | failed⟩ := FileState.attempt_cases (.read len) file faults
  · exact ⟨_, _, later, carried, rfl, .inl rfl⟩
  · exact ⟨_, _, later, failed, rfl, .inr rfl⟩

theorem attempt_close :
    ∃ next later, close.attempt file faults = ((), next, later) ∧ next.bytes = file.bytes := by
  obtain ⟨later, carried | failed⟩ := FileState.attempt_cases .close file faults
  · exact ⟨_, later, carried, rfl⟩
  · exact ⟨_, later, failed, rfl⟩

/-! The outcome of a call is the first of those to come. -/

theorem openCreate_outcome : openCreate.attempt file faults =
    if faults.getD 0 false then (false, { file with full := false }, faults.tail)
    else (true, { file with content := some file.bytes, pos := 0 }, faults.tail) :=
  FileState.attempt_eq .openCreate file faults

theorem lseek_outcome {offset : Nat} (small : offset < 2 ^ 31) :
    (lseek offset).attempt file faults =
    if faults.getD 0 false then (false, { file with full := false }, faults.tail)
    else (true, { file with content := some (grow file.bytes offset), pos := offset },
      faults.tail) := by
  have handled : FileState.handle (.lseek offset) file = _ := run_lseek small file
  have outcome := FileState.attempt_eq (.lseek offset) file faults
  rw [handled] at outcome
  exact outcome

theorem read_outcome (len : Nat) : (read len).attempt file faults =
    if faults.getD 0 false then ([], { file with full := false }, faults.tail)
    else (((read len).run file).1, ((read len).run file).2, faults.tail) :=
      FileState.attempt_eq (.read len) file faults

theorem write_outcome (bytes : List Byte) : (write bytes).attempt file faults =
    if faults.getD 0 false then (0, { file with full := false }, faults.tail)
    else (bytes.length,
      { file with content := some (splice file.bytes file.pos bytes), pos :=
        file.pos + bytes.length }, faults.tail) :=
  FileState.attempt_eq (.write bytes) file faults

theorem close_outcome : close.attempt file faults =
    if faults.getD 0 false then
      ((), { file with full := false }, faults.tail)
    else ((), file, faults.tail) :=
  FileState.attempt_eq .close file faults

end Calls

/-- Without a failure to come, a program runs as on a working disk. -/
theorem attempt_ok (prog : FileProg α) (file : FileState) :
    prog.attempt file [] = ((prog.run file).1, (prog.run file).2, []) := by
  induction prog generalizing file with
  | ret value => rfl
  | call op next ih => exact ih (FileState.handle op file).1 (FileState.handle op file).2

/-- The outcomes of the calls of a program that are all carried out, and those behind. -/
theorem attempt_carried (prog : FileProg α) (file : FileState) (later : List Bool) :
    prog.attempt file (List.replicate (Prog.trace FileState.handle prog file).length false ++
      later) =
      ((prog.run file).1, (prog.run file).2, later) := by
  induction prog generalizing file with
  | ret value => rfl
  | call op next ih => exact ih (FileState.handle op file).1 (FileState.handle op file).2

end FileProg

end WifiAccess

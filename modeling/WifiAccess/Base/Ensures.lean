import WifiAccess.Base.Faults

/-! Programs on one file whose calls may fail and which may be cut short after any
call: what holds of the file's bytes all along, and of the result at the end. -/

namespace WifiAccess.FileProg

variable {α β : Type} {Holds : List Byte → Prop}

/-- `Holds` is true of the bytes at every moment, and `Post` of the result and the file
at the end, whatever the outcomes of the calls. -/
def Ensures (Holds : List Byte → Prop) (prog : FileProg α) (file : FileState)
    (Post : α → FileState → Prop) : Prop :=
  ∀ faults, prog.Throughout FileState.attempt (fun state => Holds state.1.bytes) (file, faults) ∧
    Post (prog.attempt file faults).1 (prog.attempt file faults).2.1

namespace Ensures

variable {prog : FileProg α} {file : FileState} {Post Other : α → FileState → Prop}

/-- At the moment of a power failure. -/
theorem cut (ensures : Ensures Holds prog file Post) (count : Nat) (faults : List Bool) :
    Holds (prog.cut FileState.attempt count (file, faults)).1.bytes :=
  (ensures faults).1.cut FileState.attempt count

theorem ret {value : α} (holds : Holds file.bytes) (post : Post value file) :
    Ensures Holds (Pure.pure value : FileProg α) file Post := fun _ => ⟨holds, post⟩

theorem bind {next : α → FileProg β} {Last : β → FileState → Prop}
    (first : Ensures Holds prog file Post)
    (second : ∀ value middle, Post value middle → Ensures Holds (next value) middle Last) :
    Ensures Holds (prog >>= next) file Last := by
  intro faults
  obtain ⟨early, reached⟩ := first faults
  obtain ⟨late, final⟩ := second _ _ reached (prog.attempt file faults).2.2
  refine ⟨(Prog.throughout_bind FileState.attempt).mpr ⟨early, late⟩, ?_⟩
  rw [attempt_bind]
  exact final

/-- A test whose outcome the conditions on the branches may use. -/
theorem ite {test : Prop} [Decidable test] {yes no : FileProg α}
    (left : test → Ensures Holds yes file Post) (right : ¬ test → Ensures Holds no file Post) :
    Ensures Holds (if test then yes else no)
      file Post := by
  split
  · rename_i met
    exact left met
  · rename_i unmet
    exact right unmet

/-- One call: carried out, or failed with the bytes as before. -/
private theorem perform {op : FileOp} {Post : op.Res → FileState → Prop} (holds : Holds file.bytes)
    (after : Holds (FileState.handle op file).2.bytes)
    (carried : Post (FileState.handle op file).1 (FileState.handle op file).2)
    (failed : Post op.failed { file with full := false }) : Ensures Holds (Prog.perform op)
      file Post := by
  intro faults
  have known := FileState.attempt_cases op file faults
  obtain ⟨later, done | lost⟩ := known
  · have state : FileState.attempt op (file, faults) =
        ((FileState.handle op file).1, (FileState.handle op file).2, later) := done
    refine ⟨⟨holds, ?_⟩, ?_⟩
    · change Holds (FileState.attempt op (file, faults)).2.1.bytes
      rw [state]
      exact after
    · change Post (FileState.attempt op (file, faults)).1 (FileState.attempt op (file, faults)).2.1
      rw [state]
      exact carried
  · refine ⟨⟨holds, ?_⟩, ?_⟩
    · change Holds (FileState.attempt op (file, faults)).2.1.bytes
      rw [lost]
      exact holds
    · change Post (FileState.attempt op (file, faults)).1 (FileState.attempt op (file, faults)).2.1
      rw [lost]
      exact failed

section Calls

theorem openCreate (holds : Holds file.bytes) : Ensures Holds openCreate file fun opened next =>
    next.bytes = file.bytes ∧ (opened = true → next.pos = 0) := by
  refine perform holds holds ⟨rfl, fun _ => rfl⟩ ⟨rfl, fun opened => ?_⟩
  cases opened

theorem lseek {offset : Nat} (holds : Holds file.bytes) (grown : Holds (grow file.bytes offset)) :
    Ensures Holds (lseek offset) file fun moved next => (moved = false → next.bytes = file.bytes) ∧
      (moved = true → offset < 2 ^ 31 ∧ next.pos = offset ∧
        next.bytes = grow file.bytes offset) := by
  have failed : (FileOp.lseek offset).failed = false := rfl
  by_cases small : offset < 2 ^ 31
  · have handled : FileState.handle (.lseek offset) file = _ := run_lseek small file
    apply perform holds
    · rw [handled]
      exact grown
    · rw [handled]
      exact ⟨fun moved => (by cases moved), fun _ => ⟨small, rfl, rfl⟩⟩
    · exact ⟨fun _ => rfl, fun moved => by cases moved⟩
  · have handled : FileState.handle (.lseek offset) file = _ := run_lseek_negative small file
    apply perform holds
    · rw [handled]
      exact holds
    · rw [handled]
      exact ⟨fun _ => rfl, fun moved => by cases moved⟩
    · exact ⟨fun _ => rfl, fun moved => by cases moved⟩

theorem read (holds : Holds file.bytes) (len : Nat) : Ensures Holds (read len) file fun got next =>
    next.bytes = file.bytes ∧ (got = (file.bytes.drop file.pos).take len ∨ got = []) :=
  perform holds holds ⟨rfl, .inl rfl⟩ ⟨rfl, .inr rfl⟩

theorem write {bytes : List Byte} (holds : Holds file.bytes)
    (written : Holds (splice file.bytes file.pos bytes)) :
    Ensures Holds (write bytes) file fun count next =>
      (count = bytes.length ∧ next.bytes = splice file.bytes file.pos bytes) ∨
        (count = 0 ∧ next.bytes = file.bytes) :=
  perform holds written (.inl ⟨rfl, rfl⟩) (.inr ⟨rfl, rfl⟩)

theorem close (holds : Holds file.bytes) :
    Ensures Holds close file fun _ next => next.bytes = file.bytes :=
  perform holds holds rfl rfl

end Calls

end Ensures

end WifiAccess.FileProg

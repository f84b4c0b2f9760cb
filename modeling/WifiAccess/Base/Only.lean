import WifiAccess.Base.Faults

/-! Programs that call no more than some of the commands, or end with no more than some of the
values, whatever the answers. What those commands keep, such a program keeps. -/

namespace WifiAccess

variable {Op : Type} {Res : Op → Type} {α β σ : Type}

namespace Prog

/-- Every command of the program is an allowed one. -/
def Only (allowed : Op → Prop) : Prog Op Res α → Prop
  | ret _ => True
  | call op next => allowed op ∧ ∀ result, (next result).Only allowed

namespace Only

variable {allowed : Op → Prop}

theorem ret (value : α) : Only allowed (Pure.pure value : Prog Op Res α) := trivial

theorem perform {op : Op} (permitted : allowed op) :
    Only allowed (Prog.perform op : Prog Op Res (Res op)) :=
  ⟨permitted, fun _ => trivial⟩

theorem bind {prog : Prog Op Res α} {next : α → Prog Op Res β} (first : Only allowed prog)
    (second : ∀ value, Only allowed (next value)) : Only allowed (prog >>= next) := by
  induction prog with
  | ret value => exact second value
  | call op rest ih => exact ⟨first.1, fun result => ih result (first.2 result)⟩

theorem ite {test : Prop} [Decidable test] {yes no : Prog Op Res α} (left : Only allowed yes)
    (right : Only allowed no) :
    Only allowed (if test then yes else no) := by
  split
  · exact left
  · exact right

/-- What the allowed commands keep, a run keeps. -/
theorem invariant {prog : Prog Op Res α} (only : Only allowed prog)
    (handle : (op : Op) → σ → Res op × σ) {Inv : σ → Prop}
    (keeps : ∀ op state, allowed op → Inv state → Inv (handle op state).2) {state : σ}
    (start : Inv state) :
    Inv (prog.run handle state).2 := by
  induction prog generalizing state with
  | ret value => exact start
  | call op next ih => exact ih _ (only.2 _) (keeps op state only.1 start)

end Only

/-- Whatever the answers, the value at the end is as described. -/
def Returns (Post : α → Prop) : Prog Op Res α → Prop
  | ret value => Post value
  | call _ next => ∀ result, (next result).Returns Post

namespace Returns

variable {Post : α → Prop} {Then : β → Prop}

theorem pure {value : α} (post : Post value) :
    Returns Post (Pure.pure value : Prog Op Res α) := post

/-- What comes last decides. -/
theorem bind {prog : Prog Op Res α} {next : α → Prog Op Res β}
    (later : ∀ value, Returns Then (next value)) :
    Returns Then (prog >>= next) := by
  induction prog with
  | ret value => exact later value
  | call op rest ih => exact fun result => ih result

theorem ite {test : Prop} [Decidable test] {yes no : Prog Op Res α} (left : test → Returns Post yes)
    (right : ¬ test → Returns Post no) : Returns Post (if test then yes else no) := by
  by_cases holds : test
  · rw [if_pos holds]
    exact left holds
  · rw [if_neg holds]
    exact right holds

theorem run {prog : Prog Op Res α} (returns : Returns Post prog)
    (handle : (op : Op) → σ → Res op × σ) (state : σ) :
    Post (prog.run handle state).1 := by
  induction prog generalizing state with
  | ret value => exact returns
  | call op next ih => exact ih _ (returns _) _

end Returns

end Prog

/-- Calls that write no byte. -/
def FileOp.Reading : FileOp → Prop
  | write _ | unlink => False
  | openCreate | stat | lseek _ | read _ | close => True

namespace FileProg

/-- A program that only reads. -/
def Reads (prog : FileProg α) : Prop := Prog.Only FileOp.Reading prog

/-- Reading leaves every byte as it was, whatever calls fail. -/
theorem attempt_reading {op : FileOp} (reading : op.Reading) (file : FileState)
    (faults : List Bool) :
    (FileState.attempt op (file, faults)).2.1.Same file := by
  obtain ⟨later, carried | failed⟩ := FileState.attempt_cases op file faults
  · rw [carried]
    cases op with
    | openCreate | stat | read _ | close => exact .refl _
    | lseek offset =>
      intro i
      simp only [FileState.handle]
      split
      · exact getD_grow file.bytes offset i
      · rfl
    | write _ | unlink => cases reading
  · rw [failed]
    exact .refl _

theorem Reads.same {prog : FileProg α} (reads : prog.Reads) (file : FileState)
    (faults : List Bool) :
    (prog.attempt file faults).2.1.Same file :=
  reads.invariant FileState.attempt (fun _ state reading kept =>
    (attempt_reading reading state.1 state.2).trans kept) (.refl file)

end FileProg

end WifiAccess

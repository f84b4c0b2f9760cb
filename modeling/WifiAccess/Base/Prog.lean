import Mathlib.Init

/-! Programs over the commands of a device. One tree is run against a handler,
and cut or interleaved at any command. -/

namespace WifiAccess

variable {Op : Type} {Res : Op → Type} {α β σ : Type}

inductive Prog (Op : Type) (Res : Op → Type) (α : Type) where
  | ret (value : α)
  | call (op : Op) (next : Res op → Prog Op Res α)

namespace Prog

def bind : Prog Op Res α → (α → Prog Op Res β) → Prog Op Res β
  | ret value, next => next value
  | call op rest, next => call op fun result => (rest result).bind next

instance : Monad (Prog Op Res) where
  pure := ret
  bind := bind

/-- A single command. -/
def perform (op : Op) : Prog Op Res (Res op) := call op ret

/-- Run against a device that answers every command at once. -/
def run (handle : (op : Op) → σ → Res op × σ) : Prog Op Res α → σ → α × σ
  | ret value, state => (value, state)
  | call op next, state => (next (handle op state).1).run handle (handle op state).2

variable (handle : (op : Op) → σ → Res op × σ)

@[simp] theorem run_pure (value : α) (state : σ) :
    (pure value : Prog Op Res α).run handle state = (value, state) := rfl

@[simp] theorem run_perform (op : Op) (state : σ) :
    (perform op : Prog Op Res (Res op)).run handle state = handle op state := rfl

@[simp] theorem run_bind (prog : Prog Op Res α) (next : α → Prog Op Res β) (state : σ) :
    (prog >>= next).run handle state =
      (next (prog.run handle state).1).run handle (prog.run handle state).2 := by
  induction prog generalizing state with
  | ret value => rfl
  | call op rest ih => exact ih (handle op state).1 (handle op state).2

@[simp] theorem run_map (prog : Prog Op Res α) (f : α → β) (state : σ) :
    (f <$> prog).run handle state = (f (prog.run handle state).1, (prog.run handle state).2) :=
  run_bind handle prog (fun value => pure (f value)) state

@[simp] theorem run_ite (test : Prop) [Decidable test] (yes no : Prog Op Res α) (state : σ) :
    (if test then yes else no).run handle state =
      if test then yes.run handle state else no.run handle state := by
  split <;> rfl

/-- What every command preserves, a whole run preserves. -/
theorem run_invariant (Inv : σ → Prop) (keeps : ∀ op state, Inv state → Inv (handle op state).2)
    (prog : Prog Op Res α) (state : σ) (start : Inv state) : Inv (prog.run handle state).2 := by
  induction prog generalizing state with
  | ret value => exact start
  | call op next ih => exact ih _ _ (keeps op state start)

/-! ## The commands of a run, and the states between them -/

/-- The commands that a run executes. -/
def trace (handle : (op : Op) → σ → Res op × σ) : Prog Op Res α → σ → List Op
  | ret _, _ => []
  | call op next, state => op :: (next (handle op state).1).trace handle (handle op state).2

/-- The state after the first commands of a run. -/
def cut (handle : (op : Op) → σ → Res op × σ) : Nat → Prog Op Res α → σ → σ
  | 0, _, state => state
  | _ + 1, ret _, state => state
  | count + 1, call op next, state => (next (handle op state).1).cut handle count
    (handle op state).2

/-- What holds at the start, after each command and at the end. -/
def Throughout (handle : (op : Op) → σ → Res op × σ) (Holds : σ → Prop) : Prog Op Res α → σ → Prop
  | ret _, state => Holds state
  | call op next, state => Holds state ∧ (next (handle op state).1).Throughout handle Holds
    (handle op state).2

@[simp] theorem trace_pure (value : α) (state : σ) :
    (pure value : Prog Op Res α).trace handle state = [] := rfl

@[simp] theorem trace_perform (op : Op) (state : σ) :
    (perform op : Prog Op Res (Res op)).trace handle state = [op] := rfl

@[simp] theorem trace_bind (prog : Prog Op Res α) (next : α → Prog Op Res β) (state : σ) :
    (prog >>= next).trace handle state =
      prog.trace handle state ++ (next (prog.run handle state).1).trace handle
        (prog.run handle state).2 := by
  induction prog generalizing state with
  | ret value => rfl
  | call op rest ih => exact congrArg (op :: ·) (ih (handle op state).1 (handle op state).2)

theorem Throughout.cut {Holds : σ → Prop} {prog : Prog Op Res α} {state : σ}
    (always : prog.Throughout handle Holds state) (count : Nat) :
    Holds (prog.cut handle count state) := by
  induction count generalizing prog state with
  | zero =>
    cases prog with
    | ret value => exact always
    | call op next => exact always.1
  | succ count ih =>
    cases prog with
    | ret value => exact always
    | call op next => exact ih always.2

theorem Throughout.run {Holds : σ → Prop} {prog : Prog Op Res α} {state : σ}
    (always : prog.Throughout handle Holds state) : Holds (prog.run handle state).2 := by
  induction prog generalizing state with
  | ret value => exact always
  | call op next ih => exact ih _ always.2

theorem throughout_bind {Holds : σ → Prop} {prog : Prog Op Res α} {next : α → Prog Op Res β}
    {state : σ} :
    (prog >>= next).Throughout handle Holds state ↔ prog.Throughout handle Holds state ∧
      (next (prog.run handle state).1).Throughout handle Holds (prog.run handle state).2 := by
  induction prog generalizing state with
  | ret value =>
    refine ⟨fun always => ⟨?_, always⟩, fun both => both.2⟩
    change (next value).Throughout handle Holds state at always
    cases started : next value with
    | ret result =>
      rw [started] at always
      exact always
    | call op rest =>
      rw [started] at always
      exact always.1
  | call op rest ih =>
    change _ ∧ (rest _ >>= next).Throughout handle Holds _ ↔
      (_ ∧ (rest _).Throughout handle Holds _) ∧ _
    rw [ih, and_assoc]
    rfl

end Prog

end WifiAccess

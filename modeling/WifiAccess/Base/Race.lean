import WifiAccess.Base.Lower
import WifiAccess.Base.Run

/-! Two programs on one device, each with state of its own, whose commands come in any
order. -/

namespace WifiAccess

variable {Op : Type} {Res : Op → Type} {α β σ τ Shared Own : Type}

namespace Prog

/-- A run of so many commands, each of which has a meaning when it comes. -/
def Ends (handle : (op : Op) → σ → Option (Res op × σ)) : Nat → Prog Op Res α → σ → α → σ → Prop
  | 0, prog, state, value, final => prog = ret value ∧ state = final
  | left + 1, prog, state, value, final =>
    ∃ op next answer, prog = call op next ∧ handle op state = some answer ∧
      Ends handle left (next answer.1) answer.2 value final

section Ends

variable {handle : (op : Op) → σ → Option (Res op × σ)} {state middle final : σ}

theorem ends_pure (value : α) (state : σ) :
    Ends handle 0 (pure value : Prog Op Res α) state value state := ⟨rfl, rfl⟩

theorem ends_perform {op : Op} {answer : Res op × σ} (answered : handle op state = some answer) :
    Ends handle 1 (perform op) state answer.1 answer.2 := ⟨op, ret, answer, rfl, answered, rfl, rfl⟩

theorem ends_bind {first second : Nat} {prog : Prog Op Res α} {next : α → Prog Op Res β} {value : α}
    {result : β} (ends : Ends handle first prog state value middle)
    (later : Ends handle second (next value) middle result final) :
    Ends handle (first + second) (prog >>= next) state result final := by
  induction first generalizing prog state with
  | zero =>
    obtain ⟨rfl, rfl⟩ := ends
    rw [Nat.zero_add]
    exact later
  | succ first ih =>
    obtain ⟨op, rest, answer, rfl, answered, ends⟩ := ends
    rw [Nat.add_right_comm]
    exact ⟨op, fun result => rest result >>= next, answer, rfl, answered, ih ends⟩

theorem Ends.ret {left : Nat} {value result : α}
    (ends : Ends handle left (ret value) state result final) :
    left = 0 ∧ state = final := by
  cases left with
  | zero => exact ⟨rfl, ends.2⟩
  | succ left =>
    obtain ⟨op, next, answer, same, -⟩ := ends
    cases same

end Ends

end Prog

instance (prog : Prog Op Res α) : Decidable (∃ value, prog = .ret value) :=
  match prog with
  | .ret value => .isTrue ⟨value, rfl⟩
  | .call _ _ => .isFalse fun ⟨_, same⟩ => by cases same

inductive Turn where
  | first
  | second
  deriving DecidableEq

/-- What the programs share, and for each of them what is left of it and what is its own. -/
structure Race (Op : Type) (Res : Op → Type) (Shared Own α β : Type) where
  shared : Shared
  first : Prog Op Res α
  firstOwn : Own
  second : Prog Op Res β
  secondOwn : Own

namespace Race

variable (handle : (op : Op) → Shared × Own → Option (Res op × Shared × Own))

/-- One command of one of the programs. -/
def step (race : Race Op Res Shared Own α β) : Turn → Option (Race Op Res Shared Own α β)
  | .first =>
    match race.first with
    | .ret _ => none
    | .call op next =>
      (handle op (race.shared, race.firstOwn)).map fun answer =>
        { race with shared := answer.2.1, first := next answer.1, firstOwn := answer.2.2 }
  | .second =>
    match race.second with
    | .ret _ => none
    | .call op next =>
      (handle op (race.shared, race.secondOwn)).map fun answer =>
        { race with shared := answer.2.1, second := next answer.1, secondOwn := answer.2.2 }

/-- Both programs have returned. -/
def Finished (race : Race Op Res Shared Own α β) : Prop :=
  (∃ value, race.first = .ret value) ∧ ∃ value, race.second = .ret value

instance (race : Race Op Res Shared Own α β) : Decidable race.Finished :=
  inferInstanceAs (Decidable (_ ∧ _))

variable {handle} {race next : Race Op Res Shared Own α β}

theorem step_first_call {op : Op} {rest : Res op → Prog Op Res α} {answer : Res op × Shared × Own}
    (called : race.first = .call op rest)
    (answered : handle op (race.shared, race.firstOwn) = some answer) :
    race.step handle .first = some
      { race with shared := answer.2.1, first := rest answer.1, firstOwn := answer.2.2 } := by
  rw [step, called]
  simp only [answered, Option.map_some]

theorem step_second_call {op : Op} {rest : Res op → Prog Op Res β} {answer : Res op × Shared × Own}
    (called : race.second = .call op rest)
    (answered : handle op (race.shared, race.secondOwn) = some answer) :
    race.step handle .second = some
      { race with shared := answer.2.1, second := rest answer.1, secondOwn := answer.2.2 } := by
  rw [step, called]
  simp only [answered, Option.map_some]

theorem step_first_ret {value : α} (returned : race.first = .ret value) :
    race.step handle .first = none := by
  rw [step, returned]

theorem step_second_ret {value : β} (returned : race.second = .ret value) :
    race.step handle .second = none := by
  rw [step, returned]

end Race

end WifiAccess

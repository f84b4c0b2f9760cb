import WifiAccess.Base.Prog

/-! Programs whose commands are carried out by programs over other commands, and what
such a device has to keep for the two levels to agree. -/

namespace WifiAccess

variable {Op Below : Type} {Res : Op → Type} {ResBelow : Below → Type} {α β σ τ : Type}

namespace Prog

/-- The program one level down. -/
def lower (carry : (op : Op) → Prog Below ResBelow (Res op)) : Prog Op Res α → Prog Below ResBelow α
  | ret value => ret value
  | call op next => carry op >>= fun result => (next result).lower carry

/-- Run against a device that has no meaning for a command at a wrong time. -/
def runSome (handle : (op : Op) → σ → Option (Res op × σ)) : Prog Op Res α → σ → Option (α × σ)
  | ret value, state => some (value, state)
  | call op next, state =>
    match handle op state with
    | none => none
    | some answer => (next answer.1).runSome handle answer.2

variable (handle : (op : Op) → σ → Option (Res op × σ))

@[simp] theorem runSome_pure (value : α) (state : σ) :
    (pure value : Prog Op Res α).runSome handle state = some (value, state) := rfl

@[simp] theorem runSome_perform (op : Op) (state : σ) :
    (perform op : Prog Op Res (Res op)).runSome handle state = handle op state := by
  unfold perform runSome
  cases handle op state <;> rfl

@[simp] theorem runSome_bind (prog : Prog Op Res α) (next : α → Prog Op Res β) (state : σ) :
    (prog >>= next).runSome handle state =
      (prog.runSome handle state).bind fun ran => (next ran.1).runSome handle ran.2 := by
  induction prog generalizing state with
  | ret value => rfl
  | call op rest ih =>
    have first : (call op rest >>= next) = call op fun result => rest result >>= next := rfl
    rw [first, runSome, runSome]
    cases handle op state with
    | none => rfl
    | some answer => exact ih answer.1 answer.2

/-- Forward simulation: where each command below has the answer of the command above and
keeps the relation, so has every program. -/
theorem lower_refines {carry : (op : Op) → Prog Below ResBelow (Res op)}
    {below : (op : Below) → τ → ResBelow op × τ} {Rel : σ → τ → Prop}
    (refines : ∀ {op state under result after}, Rel state under →
      handle op state = some (result, after) → ((carry op).run below under).1 = result ∧
      Rel after ((carry op).run below under).2)
    {prog : Prog Op Res α} {state final : σ} {under : τ} {value : α} (start : Rel state under)
    (ran : prog.runSome handle state = some (value, final)) :
    ((prog.lower carry).run below under).1 = value ∧
      Rel final ((prog.lower carry).run below under).2 := by
  induction prog generalizing state under with
  | ret result =>
    obtain ⟨rfl, rfl⟩ := Prod.mk.inj (Option.some.inj ran)
    exact ⟨rfl, start⟩
  | call op next ih =>
    rw [runSome] at ran
    cases answered : handle op state with
    | none =>
      rw [answered] at ran
      cases ran
    | some answer =>
      rw [answered] at ran
      obtain ⟨same, kept⟩ := refines start answered
      rw [lower, run_bind, same]
      exact ih answer.1 kept ran

end Prog

end WifiAccess

import WifiAccess.Base.Prog

/-! Two programs on one device that make the same calls: what is related in their data
stays related. -/

namespace WifiAccess

namespace Prog

variable {Op : Type} {Res : Op → Type} {α β γ δ σ : Type}

/-- The programs make the same calls, whatever the results are, and end with related
values. -/
inductive Alike (Rel : α → β → Prop) : Prog Op Res α → Prog Op Res β → Prop where
  | ret {first : α} {second : β} (related : Rel first second) : Alike Rel (.ret first) (.ret second)
  | call (op : Op) {first : Res op → Prog Op Res α} {second : Res op → Prog Op Res β}
      (later : ∀ result, Alike Rel (first result) (second result)) : Alike Rel (.call op first)
      (.call op second)

variable {Rel : α → β → Prop} {Then : γ → δ → Prop}

theorem alike_pure {first : α} {second : β} (related : Rel first second) :
    Alike Rel (pure first : Prog Op Res α) (pure second) := .ret related

theorem alike_refl (prog : Prog Op Res α) : Alike (· = ·) prog prog := by
  induction prog with
  | ret value => exact .ret rfl
  | call op next ih => exact .call op ih

theorem alike_bind {first : Prog Op Res α} {second : Prog Op Res β} {next : α → Prog Op Res γ}
    {after : β → Prog Op Res δ} (alike : Alike Rel first second)
    (later : ∀ one two, Rel one two → Alike Then (next one) (after two)) :
    Alike Then (first >>= next) (second >>= after) := by
  induction alike with
  | ret related => exact later _ _ related
  | call op _ ih => exact .call op ih

/-- What both do first. -/
theorem alike_both {prog : Prog Op Res α} {next : α → Prog Op Res γ} {after : α → Prog Op Res δ}
    (later : ∀ value, Alike Then (next value) (after value)) : Alike Then (prog >>= next)
      (prog >>= after) := by
  induction prog with
  | ret value => exact later value
  | call op _ ih => exact .call op ih

theorem alike_ite {test : Prop} [Decidable test] {yes no : Prog Op Res α} {yes' no' : Prog Op Res β}
    (left : test → Alike Rel yes yes') (right : ¬ test → Alike Rel no no') :
    Alike Rel (if test then yes else no) (if test then yes' else no') := by
  by_cases holds : test
  · rw [if_pos holds, if_pos holds]
    exact left holds
  · rw [if_neg holds, if_neg holds]
    exact right holds

theorem Alike.mono {Wider : α → β → Prop} {first : Prog Op Res α} {second : Prog Op Res β}
    (alike : Alike Rel first second) (wider : ∀ one two, Rel one two → Wider one two) :
    Alike Wider first second := by
  induction alike with
  | ret related => exact .ret (wider _ _ related)
  | call op _ ih => exact .call op ih

/-- Programs that make the same calls leave the device alike. -/
theorem Alike.run {first : Prog Op Res α} {second : Prog Op Res β} (alike : Alike Rel first second)
    (handle : (op : Op) → σ → Res op × σ) (state : σ) :
    Rel (first.run handle state).1 (second.run handle state).1 ∧
      (first.run handle state).2 = (second.run handle state).2 := by
  induction alike generalizing state with
  | ret related => exact ⟨related, rfl⟩
  | call op _ ih => exact ih _ _

end Prog

end WifiAccess

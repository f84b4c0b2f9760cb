import WifiAccess.Base.Only

/-! How many commands a program makes at most, and what it gathers from the answers. -/

namespace WifiAccess.Prog

variable {Op : Type} {Res : Op → Type} {α β σ : Type}

/-- No more than `most` commands, whatever the answers. -/
def Within : Nat → Prog Op Res α → Prop
  | _, ret _ => True
  | most, call _ next => 0 < most ∧ ∀ result, (next result).Within (most - 1)

namespace Within

variable {most more : Nat} {prog : Prog Op Res α}

theorem ret (most : Nat) (value : α) : (pure value : Prog Op Res α).Within most := trivial

theorem perform (op : Op) : (Prog.perform op : Prog Op Res (Res op)).Within 1 :=
  ⟨Nat.one_pos, fun _ => trivial⟩

theorem mono (within : prog.Within most) (enough : most ≤ more) : prog.Within more := by
  induction prog generalizing most more with
  | ret value => trivial
  | call op next ih =>
    refine ⟨Nat.lt_of_lt_of_le within.1 enough, fun result => ih result (within.2 result) ?_⟩
    exact Nat.sub_le_sub_right enough 1

theorem bind {next : α → Prog Op Res β} (first : prog.Within most)
    (second : ∀ value, (next value).Within more) :
    (prog >>= next).Within (most + more) := by
  induction prog generalizing most with
  | ret value => exact (second value).mono (Nat.le_add_left more most)
  | call op rest ih =>
    refine ⟨Nat.add_pos_left first.1 more, fun result => ?_⟩
    rw [Nat.sub_add_comm first.1]
    exact ih result (first.2 result)

/-- One part after the other, within a given total. -/
theorem after (first : prog.Within most) (fits : most ≤ more) {next : α → Prog Op Res β}
    (second : ∀ value, (next value).Within (more - most)) : (prog >>= next).Within more := by
  have both := first.bind second
  rwa [Nat.add_sub_cancel' fits] at both

theorem ite {test : Prop} [Decidable test] {yes no : Prog Op Res α} (left : yes.Within most)
    (right : no.Within most) :
    (if test then yes else no).Within most := by
  split
  · exact left
  · exact right

theorem length_trace (within : prog.Within most) (handle : (op : Op) → σ → Res op × σ) (state : σ) :
    (prog.trace handle state).length ≤ most := by
  induction prog generalizing most state with
  | ret value => exact Nat.zero_le most
  | call op next ih =>
    have later := ih _ (within.2 (handle op state).1) (handle op state).2
    have some_left := within.1
    rw [trace, List.length_cons]
    omega

end Within

/-- Every command of a run is an allowed one. -/
theorem Only.trace {allowed : Op → Prop} {prog : Prog Op Res α} (only : prog.Only allowed)
    (handle : (op : Op) → σ → Res op × σ) (state : σ) : ∀ op ∈ prog.trace handle state,
      allowed op := by
  induction prog generalizing state with
  | ret value => exact fun _ member => absurd member List.not_mem_nil
  | call op next ih =>
    intro other member
    rcases List.mem_cons.mp member with rfl | later
    · exact only.1
    · exact ih _ (only.2 _) _ other later

/-- What `pick` takes from the commands of a run and their answers, in their order. -/
def gather (pick : (op : Op) → Res op → Option β) (handle : (op : Op) → σ → Res op × σ) :
    Prog Op Res α → σ → List β
  | ret _, _ => []
  | call op next, state =>
    (pick op (handle op state).1).toList ++
      (next (handle op state).1).gather pick handle (handle op state).2

section Gather

variable {γ : Type} (pick : (op : Op) → Res op → Option γ) (handle : (op : Op) → σ → Res op × σ)

@[simp] theorem gather_pure (value : α) (state : σ) :
    (pure value : Prog Op Res α).gather pick handle state = [] := rfl

@[simp] theorem gather_perform (op : Op) (state : σ) :
    (perform op : Prog Op Res (Res op)).gather pick handle state =
      (pick op (handle op state).1).toList :=
  List.append_nil _

@[simp] theorem gather_bind (prog : Prog Op Res α) (next : α → Prog Op Res β) (state : σ) :
    (prog >>= next).gather pick handle state =
      prog.gather pick handle state ++ (next (prog.run handle state).1).gather pick handle
        (prog.run handle state).2 := by
  induction prog generalizing state with
  | ret value => rfl
  | call op rest ih =>
    change _ ++ (rest _ >>= next).gather pick handle _ = (_ ++ _) ++ _
    rw [ih, List.append_assoc]
    rfl

@[simp] theorem gather_ite (test : Prop) [Decidable test] (yes no : Prog Op Res α) (state : σ) :
    (if test then yes else no).gather pick handle state =
      if test then yes.gather pick handle state else no.gather pick handle state := by
  split <;> rfl

/-- Nothing is taken from commands that `pick` skips. -/
theorem Only.gather_eq_nil {allowed : Op → Prop} {prog : Prog Op Res α} (only : prog.Only allowed)
    (skips : ∀ op, allowed op → ∀ result, pick op result = none) (state : σ) : prog.gather pick
      handle state = [] := by
  induction prog generalizing state with
  | ret value => rfl
  | call op next ih => rw [gather, skips op only.1, ih _ (only.2 _), Option.toList_none,
    List.append_nil]

end Gather

end WifiAccess.Prog

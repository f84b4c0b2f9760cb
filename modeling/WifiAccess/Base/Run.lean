import Mathlib.Init

/-! Runs of a partial step function, and the invariants of the runs whose steps
all meet a condition on the state they start from. -/

namespace WifiAccess

variable {State Move : Type} (step : State → Move → Option State)

/-- The state after a sequence of moves, if each of them was possible. -/
def runMoves : State → List Move → Option State
  | state, [] => some state
  | state, move :: rest =>
    match step state move with
    | none => none
    | some next => runMoves next rest

/-- Every move of the run meets `guard` in the state it is made from. -/
def MovesMeet (guard : State → Move → Prop) : State → List Move → Prop
  | _, [] => True
  | state, move :: rest =>
    guard state move ∧
      match step state move with
      | none => True
      | some next => MovesMeet guard next rest

instance MovesMeet.decide (guard : State → Move → Prop)
    [∀ state move, Decidable (guard state move)] :
    (state : State) → (moves : List Move) → Decidable (MovesMeet step guard state moves)
  | _, [] => inferInstanceAs (Decidable True)
  | state, move :: rest =>
    have : Decidable (match step state move with
        | none => True
        | some next => MovesMeet step guard next rest) :=
      match step state move with
      | none => inferInstanceAs (Decidable True)
      | some next => MovesMeet.decide guard next rest
    inferInstanceAs (Decidable (_ ∧ _))

variable {step}

theorem runMoves_cons {state final : State} {move : Move} {rest : List Move}
    (ran : runMoves step state (move :: rest) = some final) :
    ∃ next, step state move = some next ∧ runMoves step next rest = some final := by
  unfold runMoves at ran
  split at ran
  · cases ran
  · rename_i next stepped
    exact ⟨next, stepped, ran⟩

theorem runMoves_ahead {state next : State} {move : Move} (stepped : step state move = some next)
    (rest : List Move) :
    runMoves step state (move :: rest) = runMoves step next rest := by
  rw [runMoves, stepped]

theorem runMoves_single {state next : State} {move : Move} (stepped : step state move = some next) :
    runMoves step state [move] = some next := by
  simp only [runMoves, stepped]

theorem runMoves_append_bind (first second : List Move) (state : State) :
    runMoves step state (first ++ second) = (runMoves step state first).bind
      (runMoves step · second) := by
  induction first generalizing state with
  | nil => rfl
  | cons move rest ih =>
    rw [List.cons_append, runMoves, runMoves]
    split
    · rfl
    · exact ih _

theorem runMoves_append {first second : List Move} {state middle : State}
    (reached : runMoves step state first = some middle) :
    runMoves step state (first ++ second) = runMoves step middle second := by
  rw [runMoves_append_bind, reached, Option.bind_some]

/-- When every guarded move matches a move of an abstract machine that always
moves on, every guarded run matches the abstract run. -/
theorem runMoves_simulates {Abstract : Type} {effect : Abstract → Move → Abstract}
    {guard : Abstract → Move → Prop} {Rel : State → Abstract → Prop}
    (simulates : ∀ {state abstract move}, Rel state abstract → guard abstract move →
      ∃ next, step state move = some next ∧ Rel next (effect abstract move))
    {moves : List Move} {state : State} {abstract : Abstract} (start : Rel state abstract)
    (met : MovesMeet (fun current move => some (effect current move)) guard abstract moves) :
    ∃ final, runMoves step state moves = some final ∧ Rel final (moves.foldl effect abstract) := by
  induction moves generalizing state abstract with
  | nil => exact ⟨state, rfl, start⟩
  | cons move rest ih =>
    obtain ⟨guarded, later⟩ := met
    obtain ⟨next, stepped, related⟩ := simulates start guarded
    obtain ⟨final, ran, last⟩ := ih related later
    refine ⟨final, ?_, last⟩
    rw [runMoves, stepped]
    exact ran

/-- Where every guarded move matches a move of an abstract machine, so does every guarded run. -/
theorem runMoves_follows {Abstract : Type} {effect : Abstract → Move → Abstract}
    {guard : Abstract → Move → Prop} {Rel : State → Abstract → Prop}
    (follows : ∀ {state abstract move next}, Rel state abstract → guard abstract move →
      step state move = some next → Rel next (effect abstract move))
    {moves : List Move} {state final : State} {abstract : Abstract} (start : Rel state abstract)
    (met : MovesMeet (fun current move => some (effect current move)) guard abstract moves)
    (ran : runMoves step state moves = some final) : Rel final (moves.foldl effect abstract) := by
  induction moves generalizing state abstract with
  | nil => exact Option.some.inj ran ▸ start
  | cons move rest ih =>
    obtain ⟨guarded, later⟩ := met
    obtain ⟨next, stepped, remaining⟩ := runMoves_cons ran
    exact ih (follows start guarded stepped) later remaining

/-- A property kept by every guarded move holds at the end of a guarded run. -/
theorem runMoves_invariant {guard : State → Move → Prop} {Inv : State → Prop}
    (keeps : ∀ {state move next}, Inv state → guard state move →
      step state move = some next → Inv next)
    {moves : List Move} {state final : State} (start : Inv state)
    (met : MovesMeet step guard state moves) (ran : runMoves step state moves = some final) :
    Inv final := by
  induction moves generalizing state with
  | nil => exact Option.some.inj ran ▸ start
  | cons move rest ih =>
    obtain ⟨next, stepped, remaining⟩ := runMoves_cons ran
    obtain ⟨guarded, later⟩ := met
    rw [stepped] at later
    exact ih (keeps start guarded stepped) later remaining

/-- A property kept by every move holds at the end of a run. -/
theorem runMoves_keeps {Inv : State → Prop}
    (keeps : ∀ {state move next}, Inv state → step state move = some next → Inv next)
    {moves : List Move} {state final : State} (start : Inv state)
    (ran : runMoves step state moves = some final) :
    Inv final := by
  induction moves generalizing state with
  | nil => exact Option.some.inj ran ▸ start
  | cons move rest ih =>
    obtain ⟨next, stepped, remaining⟩ := runMoves_cons ran
    exact ih (keeps start stepped) remaining

/-- Where every guarded move is possible and keeps a property, so does every guarded run. -/
theorem runMoves_progress {guard : State → Move → Prop} {Inv : State → Prop}
    (moves_on : ∀ {state move}, Inv state → guard state move →
      ∃ next, step state move = some next ∧ Inv next)
    {moves : List Move} {state : State} (start : Inv state)
      (met : MovesMeet step guard state moves) :
    ∃ final, runMoves step state moves = some final ∧ Inv final := by
  induction moves generalizing state with
  | nil => exact ⟨state, rfl, start⟩
  | cons move rest ih =>
    obtain ⟨guarded, later⟩ := met
    obtain ⟨next, stepped, kept⟩ := moves_on start guarded
    rw [stepped] at later
    rw [runMoves, stepped]
    exact ih kept later

/-- A property that a move keeps exactly if it meets the guard holds at the end of
exactly the runs whose moves all meet it. -/
theorem runMoves_iff {Inv Holds : State → Prop} {guard : State → Move → Prop}
    (decides : ∀ {state move next}, Inv state → step state move = some next → Inv next ∧
      (Holds next ↔ Holds state ∧ guard state move))
    {moves : List Move} {state final : State} (start : Inv state)
    (ran : runMoves step state moves = some final) :
    Holds final ↔ Holds state ∧ MovesMeet step guard state moves := by
  induction moves generalizing state with
  | nil =>
    cases ran
    exact (and_iff_left trivial).symm
  | cons move rest ih =>
    obtain ⟨next, stepped, remaining⟩ := runMoves_cons ran
    obtain ⟨kept, decided⟩ := decides start stepped
    rw [ih kept remaining, decided, MovesMeet, stepped, and_assoc]

/-- Where a move is possible exactly when it meets the guard, so is a run. -/
theorem runMoves_isSome {Inv : State → Prop} {guard : State → Move → Prop}
    (decides : ∀ {state move}, Inv state → ((step state move).isSome ↔ guard state move))
    (keeps : ∀ {state move next}, Inv state → step state move = some next → Inv next)
    {moves : List Move} {state : State} (start : Inv state) : (runMoves step state moves).isSome ↔
      MovesMeet step guard state moves := by
  induction moves generalizing state with
  | nil => exact iff_of_true rfl trivial
  | cons move rest ih =>
    rw [runMoves, MovesMeet, ← decides start]
    cases stepped : step state move with
    | none => simp
    | some next =>
      rw [Option.isSome_some, eq_self, true_and]
      exact ih (keeps start stepped)

end WifiAccess

import Mathlib.Data.List.Basic

/-! `rfid_thread.c`: the polling loop over the inside and the outside reader, and
when it reports a card. -/

namespace WifiAccess

/-- The variables that `rc522_thread_entry` keeps for one reader: the card read
last, and the timer of its events. -/
structure Reader where
  oldCardId : BitVec 32
  timer : Nat
  timerEn : Bool
  isOverTime : Bool
  deriving DecidableEq

namespace Reader

/-- The old card is not initialised. -/
def initial (oldCardId : BitVec 32) : Reader := ⟨oldCardId, 0, false, false⟩

/-- The handling of one `ReadID`: whether an event is sent, and the variables. -/
def poll (reader : Reader) : Option (BitVec 32) → Bool × Reader
  | none => (false, reader)
  | some cardId =>
    let reader :=
      if reader.oldCardId ≠ cardId then
        { reader with isOverTime := false, oldCardId := cardId }
      else reader
    if reader.isOverTime = false then (true, { reader with isOverTime := true, timerEn := true })
    else (false, reader)

/-- The timer at the end of an iteration. -/
def tick (reader : Reader) : Reader :=
  if reader.timerEn then
    if reader.timer + 1 ≥ 50 then { reader with isOverTime := false, timer := 0, timerEn := false }
    else { reader with timer := reader.timer + 1 }
  else reader

def iterate (reader : Reader) (result : Option (BitVec 32)) : Reader := (reader.poll result).2.tick

/-- The variables after a sequence of iterations. -/
def after (reader : Reader) (results : List (Option (BitVec 32))) : Reader :=
  results.foldl iterate reader

/-- The iteration sends an event. -/
def Sends (reader : Reader) (result : Option (BitVec 32)) : Prop := (reader.poll result).1 = true

instance (reader : Reader) (result : Option (BitVec 32)) : Decidable (reader.Sends result) :=
  inferInstanceAs (Decidable (_ = true))

/-- No iteration of the sequence sends an event. -/
def Quiet : Reader → List (Option (BitVec 32)) → Prop
  | _, [] => True
  | reader, result :: rest => ¬ reader.Sends result ∧ Quiet (reader.iterate result) rest

instance decideQuiet :
    (reader : Reader) → (results : List (Option (BitVec 32))) → Decidable (reader.Quiet results)
  | _, [] => inferInstanceAs (Decidable True)
  | reader, result :: rest =>
    have := decideQuiet (reader.iterate result) rest
    inferInstanceAs (Decidable (_ ∧ _))

end Reader

/-- The two readers of the loop. -/
structure Rc522 where
  inside : Reader
  outside : Reader

/-- One iteration: both readers are polled, then both timers are advanced. -/
def Rc522.iterate (thread : Rc522) (results : Option (BitVec 32) × Option (BitVec 32)) : Rc522 :=
  let inside := (thread.inside.poll results.1).2
  let outside := (thread.outside.poll results.2).2
  ⟨inside.tick, outside.tick⟩

namespace Reader

/-! ## One iteration -/

/-- Between iterations the timer runs exactly while an event is recent. -/
structure Sound (reader : Reader) : Prop where
  same : reader.isOverTime = reader.timerEn
  below : reader.timer < 50
  stopped : reader.timerEn = false → reader.timer = 0

theorem sound_initial (oldCardId : BitVec 32) : (initial oldCardId).Sound :=
  ⟨rfl, Nat.zero_lt_succ 49, fun _ => rfl⟩

/-- The timer after one more iteration, which stops it at 50. -/
def running (cardId : BitVec 32) (elapsed : Nat) : Reader :=
  if elapsed + 1 ≥ 50 then initial cardId else ⟨cardId, elapsed + 1, true, true⟩

variable {reader : Reader} {cardId : BitVec 32}

/-- A card is reported when it is new or when no event is recent. -/
theorem sends_iff (sound : reader.Sound) (result : Option (BitVec 32)) :
    reader.Sends result ↔ ∃ cardId, result = some cardId ∧
      (reader.oldCardId ≠ cardId ∨ reader.timerEn = false) := by
  cases result with
  | none => simp [Sends, poll]
  | some cardId =>
    by_cases changed : reader.oldCardId = cardId
    · by_cases recent : reader.timerEn
      · simp [Sends, poll, changed, sound.same, recent]
      · simp [Sends, poll, changed, sound.same, recent]
    · simp [Sends, poll, changed]

theorem iterate_sends (sends : reader.Sends (some cardId)) :
    reader.iterate (some cardId) = running cardId reader.timer := by
  by_cases changed : reader.oldCardId = cardId
  · cases over_time : reader.isOverTime
    · simp [iterate, poll, changed, over_time, tick, running, initial]
    · simp [Sends, poll, changed, over_time] at sends
  · simp [iterate, poll, changed, tick, running, initial]

/-- Without an event the card stays, and a timer that runs goes on. -/
theorem iterate_silent (sound : reader.Sound) {result : Option (BitVec 32)}
    (silent : ¬ reader.Sends result) :
    reader.iterate result = if reader.timerEn then running reader.oldCardId reader.timer
      else reader := by
  obtain ⟨oldCardId, timer, timerEn, isOverTime⟩ := reader
  obtain rfl : isOverTime = timerEn := sound.same
  cases result with
  | none => cases isOverTime <;> simp [iterate, poll, tick, running, initial]
  | some cardId =>
    rw [sends_iff sound] at silent
    simp at silent
    obtain ⟨rfl, rfl⟩ := silent
    simp [iterate, poll, tick, running, initial]

theorem sound_running (cardId : BitVec 32) (elapsed : Nat) : (running cardId elapsed).Sound := by
  unfold running
  split
  · exact sound_initial cardId
  · exact ⟨rfl, by simp only; omega, fun off => by cases off⟩

theorem Sound.iterate (sound : reader.Sound) (result : Option (BitVec 32)) :
    (reader.iterate result).Sound := by
  by_cases sends : reader.Sends result
  · obtain ⟨cardId, rfl, _⟩ := (sends_iff sound result).mp sends
    rw [iterate_sends sends]
    exact sound_running cardId reader.timer
  · rw [iterate_silent sound sends]
    split
    · exact sound_running ..
    · exact sound

theorem Sound.after (sound : reader.Sound) (results : List (Option (BitVec 32))) :
    (reader.after results).Sound := by
  induction results generalizing reader with
  | nil => exact sound
  | cons result rest ih => exact ih (sound.iterate result)

/-! ## Sequences of iterations -/

variable {results : List (Option (BitVec 32))}

/-- The card read last, or else the card that the variable held at the start. -/
def lastRead (oldCardId : BitVec 32) (results : List (Option (BitVec 32))) : BitVec 32 :=
  results.foldl (fun last result => result.getD last) oldCardId

theorem Sound.oldCardId_after (sound : reader.Sound) (results : List (Option (BitVec 32))) :
    (reader.after results).oldCardId = lastRead reader.oldCardId results := by
  induction results generalizing reader with
  | nil => rfl
  | cons result rest ih =>
    have kept : (reader.iterate result).oldCardId = result.getD reader.oldCardId := by
      by_cases sends : reader.Sends result
      · obtain ⟨cardId, rfl, _⟩ := (sends_iff sound result).mp sends
        rw [iterate_sends sends]
        unfold running
        split <;> rfl
      · have same : result.getD reader.oldCardId = reader.oldCardId := by
          rw [sends_iff sound] at sends
          cases result with
          | none => rfl
          | some cardId =>
            by_contra changed
            exact sends ⟨cardId, rfl, .inl fun same => changed same.symm⟩
        rw [iterate_silent sound sends, same]
        unfold running
        split
        · split <;> rfl
        · rfl
    have rest_read := ih (sound.iterate result)
    rw [kept] at rest_read
    exact rest_read

theorem sends_running {elapsed : Nat} :
    (running cardId elapsed).Sends (some cardId) ↔ 50 ≤ elapsed + 1 := by
  rw [sends_iff (sound_running cardId elapsed)]
  unfold running
  split
  · simp [initial]
    omega
  · simp
    omega

/-- Between two events only the last card is read, and the timer counts the iterations. -/
theorem quiet_running {elapsed : Nat} (quiet : (running cardId elapsed).Quiet results) :
    (running cardId elapsed).after results = running cardId (elapsed + results.length) ∧
      ∀ result ∈ results, result = none ∨ result = some cardId := by
  induction results generalizing elapsed with
  | nil => exact ⟨rfl, fun _ member => by cases member⟩
  | cons result rest ih =>
    obtain ⟨silent, later⟩ := quiet
    have card : (running cardId elapsed).oldCardId = cardId := by
      unfold running
      split <;> rfl
    have next : (running cardId elapsed).iterate result = running cardId (elapsed + 1) := by
      rw [iterate_silent (sound_running cardId elapsed) silent, card]
      rcases Nat.lt_or_ge (elapsed + 1) 50 with early | late
      · simp [running, Nat.not_le.mpr early]
      · have stopped : 50 ≤ elapsed + 1 + 1 := by omega
        simp [running, late, stopped, initial]
    have same : result = none ∨ result = some cardId := by
      cases result with
      | none => exact .inl rfl
      | some other =>
        by_contra differ
        apply silent
        rw [sends_iff (sound_running cardId elapsed), card]
        refine ⟨other, rfl, .inl fun equal => differ (.inr ?_)⟩
        rw [equal]
    rw [next] at later
    obtain ⟨reached, cards⟩ := ih later
    constructor
    · change ((running cardId elapsed).iterate result).after rest = _
      rw [next, reached, List.length_cons]
      congr 1
      omega
    · intro other member
      rcases List.mem_cons.mp member with rfl | tail
      · exact same
      · exact cards other tail

/-- A sequence with an event has a first one. -/
theorem first_event (loud : ¬ reader.Quiet results) : ∃ before result later,
    results = before ++ result :: later ∧ reader.Quiet before ∧
      (reader.after before).Sends result := by
  induction results generalizing reader with
  | nil => exact (loud trivial).elim
  | cons result rest ih =>
    by_cases sends : reader.Sends result
    · exact ⟨[], result, rest, rfl, trivial, sends⟩
    · obtain ⟨before, found, later, split, quiet, sent⟩ := ih fun quiet => loud ⟨sends, quiet⟩
      exact ⟨result :: before, found, later, by rw [split, List.cons_append], ⟨sends, quiet⟩, sent⟩

theorem quiet_append {first second : List (Option (BitVec 32))} :
    reader.Quiet (first ++ second) ↔ reader.Quiet first ∧ (reader.after first).Quiet second := by
  induction first generalizing reader with
  | nil => simp [Quiet, after]
  | cons result rest ih =>
    change _ ∧ Quiet _ (rest ++ second) ↔ (_ ∧ Quiet _ rest) ∧
      Quiet ((reader.iterate result).after rest) second
    rw [ih, and_assoc]

/-! ## Debouncing -/

/-- A card other than the one read last is reported at once, and a card reported
again is reported 50 iterations later at the earliest. -/
structure Debounced (reader : Reader) (results : List (Option (BitVec 32))) : Prop where
  reports : ∀ before cardId later, results = before ++ some cardId :: later →
    lastRead reader.oldCardId before ≠ cardId → (reader.after before).Sends (some cardId)
  spaced : ∀ before cardId between later, results = before ++ some cardId ::
    (between ++ some cardId :: later) →
    (reader.after before).Sends (some cardId) →
    (reader.after (before ++ [some cardId])).Quiet between →
    (reader.after (before ++ some cardId :: between)).Sends (some cardId) → 50 ≤ between.length + 1

/-- A card that takes the place of another while the timer still runs for that one is
not read again between the end of the timer and 50 iterations after its first reading. -/
def TimerOutlasts (reader : Reader) (results : List (Option (BitVec 32))) : Prop :=
  ∀ before cardId between later, results = before ++ some cardId ::
    (between ++ some cardId :: later) →
    lastRead reader.oldCardId before ≠ cardId →
      (∀ result ∈ between, result = none ∨ result = some cardId) →
    50 ≤ (reader.after before).timer + (between.length + 1) → 50 ≤ between.length + 1

theorem after_append (first second : List (Option (BitVec 32))) :
    reader.after (first ++ second) = (reader.after first).after second := List.foldl_append ..

theorem reports_change (sound : reader.Sound) {before : List (Option (BitVec 32))}
    (changed : lastRead reader.oldCardId before ≠ cardId) : (reader.after before).Sends
      (some cardId) := by
  rw [sends_iff (sound.after before), sound.oldCardId_after]
  exact ⟨cardId, rfl, .inl changed⟩

/-- The loop debounces a sequence exactly if no timer ends too early for the card
that is reported under it. -/
theorem debounced_iff (oldCardId : BitVec 32) (results : List (Option (BitVec 32))) :
    (initial oldCardId).Debounced results ↔ (initial oldCardId).TimerOutlasts results := by
  have sound := sound_initial oldCardId
  constructor
  · intro debounced before cardId between later split changed cards late
    have sent := reports_change sound changed
    have started : (initial oldCardId).after (before ++ [some cardId]) =
        running cardId ((initial oldCardId).after before).timer := by
      rw [after_append]
      exact iterate_sends sent
    -- the reading of the card at the end is an event, or comes after one
    have loud : ¬ ((initial oldCardId).after (before ++ [some cardId])).Quiet
        (between ++ [some cardId]) := by
      rw [quiet_append, started]
      rintro ⟨quiet, last, _⟩
      rw [(quiet_running quiet).1, sends_running] at last
      omega
    obtain ⟨pause, result, tail, parts, quiet, again⟩ := first_event loud
    have same : result = some cardId := by
      obtain ⟨other, rfl, _⟩ := (sends_iff (sound.after _ |>.after _) result).mp again
      have member : some other ∈ between ++ [some cardId] := by
        rw [parts]
        simp
      rcases List.mem_append.mp member with inside | atEnd
      · rcases cards _ inside with none_read | read
        · cases none_read
        · exact read
      · exact List.mem_singleton.mp atEnd
    subst same
    have short : pause.length ≤ between.length := by
      have sizes := congrArg List.length parts
      simp at sizes
      omega
    have whole : results = before ++ some cardId :: (pause ++ some cardId :: (tail ++ later)) := by
      have joined : between ++ some cardId :: later = (between ++ [some cardId]) ++ later := by simp
      rw [split, joined, parts]
      simp
    have apart := debounced.spaced before cardId pause (tail ++ later) whole sent quiet (by
      have merged : before ++ some cardId :: pause = (before ++ [some cardId]) ++ pause := by simp
      rw [merged, after_append]
      exact again)
    omega
  · intro outlasts
    refine ⟨fun before cardId later _ changed => reports_change sound changed, ?_⟩
    intro before cardId between later split sent quiet again
    have started : (initial oldCardId).after (before ++ [some cardId]) =
        running cardId ((initial oldCardId).after before).timer := by
      rw [after_append]
      exact iterate_sends sent
    rw [started] at quiet
    obtain ⟨reached, cards⟩ := quiet_running quiet
    have merged : before ++ some cardId :: between = (before ++ [some cardId]) ++ between := by simp
    rw [merged, after_append, started, reached, sends_running] at again
    by_cases changed : lastRead (initial oldCardId).oldCardId before = cardId
    · -- an event for the card that was there already starts its own timer
      obtain ⟨_, same, old | stopped⟩ := (sends_iff (sound.after before) _).mp sent
      · cases same
        exact (old ((sound.oldCardId_after before).trans changed)).elim
      · rw [(sound.after before).stopped stopped] at again
        omega
    · exact outlasts before cardId between later split changed cards (by omega)

/-- Card 1, 30 iterations later card 2, and card 2 again after 20 more. -/
theorem debounced_early : ¬ ∀ oldCardId results, (initial oldCardId).Debounced results := by
  intro always
  have apart :=
    (always 0#32 (some 1#32 :: List.replicate 29 none ++ some 2#32 ::
      (List.replicate 19 none ++ [some 2#32]))).spaced
    (some 1#32 :: List.replicate 29 none) 2#32 (List.replicate 19 none) [] rfl (by decide)
      (by decide) (by decide)
  revert apart
  decide

end Reader

end WifiAccess

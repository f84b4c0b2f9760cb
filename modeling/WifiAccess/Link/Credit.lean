import WifiAccess.Base.Run
import WifiAccess.Link.Frame

/-! `esp8266_spi_write` statement by statement, with the ready interrupt between any
two statements. -/

namespace WifiAccess

/-- The next statement of `esp8266_spi_write`; `away` between two calls. -/
inductive WriteAt where
  | away
  | fill
  | readyTest
  | timeTest
  | countDown
  | clear
  | timeoutTest
  | transmit
  deriving DecidableEq

/-- The flag `wr_rdy`, the locals of the call, what the last call returned, the frames
sent so far and the number of ready signals. -/
structure Writer where
  wrRdy : Bool
  next : WriteAt
  pack : List Byte
  i : Nat
  t : Nat
  buf : Frame
  result : Int
  sent : List Frame
  signals : Nat

inductive WriteMove where
  | call (stack : Frame) (pack : Option (List Byte))
  | statement
  | ready

namespace Writer

/-- As `esp8266_init` leaves it, with the slave ready. -/
def initial : Writer := ⟨true, .away, [], 0, 0, .zero 32, 0, [], 0⟩

def goto (writer : Writer) (next : WriteAt) : Writer := { writer with next := next }

def giveBack (writer : Writer) (result : Int) : Writer :=
  { writer with next := .away, result := result }

/-- The call up to its loop, for the null pointer or a packet. -/
def begin (writer : Writer) (stack : Frame) : Option (List Byte) → Writer
  | none => writer.giveBack (-1)
  | some pack => { writer with next := .fill, pack := pack, i := 0, t := 50000, buf := stack }

def num (writer : Writer) : Nat := spiWriteNum writer.pack.length

/-- The buffer with the frame of this pass. -/
def filled (writer : Writer) : Frame :=
  spiWriteFrame writer.pack writer.num (spiWriteLastByte writer.pack.length) writer.i writer.buf

/-- One statement of the call. -/
def statement (writer : Writer) : Option Writer :=
  match writer.next with
  | .away => none
  | .fill =>
    if writer.i < writer.num then some { writer with next := .readyTest, buf := writer.filled }
    else some (writer.giveBack 0)
  | .readyTest => some (writer.goto (if writer.wrRdy then .clear else .timeTest))
  | .timeTest => some (writer.goto (if writer.t = 0 then .clear else .countDown))
  | .countDown => some { writer with next := .readyTest, t := writer.t - 1 }
  | .clear => some { writer with next := .timeoutTest, wrRdy := false }
  | .timeoutTest => some (if writer.t = 0 then writer.giveBack (-1) else writer.goto .transmit)
  | .transmit => some { writer with next := .fill, i := writer.i + 1, sent := writer.sent ++
    [writer.buf] }

/-- A call starts when the one before has returned. The slave signals once for each
frame that it has received. -/
def step (writer : Writer) : WriteMove → Option Writer
  | .call stack pack => if writer.next = .away then some (writer.begin stack pack) else none
  | .statement => writer.statement
  | .ready =>
    if writer.signals < writer.sent.length then
      some { writer with wrRdy := true, signals := writer.signals + 1 } else none

/-- The frames that may still be sent without another signal: one for the flag, and one
for a call that has taken the flag and goes on to the transfer. -/
def credit (writer : Writer) : Nat :=
  writer.wrRdy.toNat +
    (writer.next = .transmit ∨ (writer.next = .timeoutTest ∧ writer.t ≠ 0) : Bool).toNat

/-- Every signal, and the initial one, has been used for one frame or still can be. -/
def Balanced (writer : Writer) : Prop := 1 + writer.signals = writer.sent.length + writer.credit

/-- The flag is not set when it is cleared by a call that has run out of time. -/
def KeepsReady (writer : Writer) : WriteMove → Prop
  | .statement => writer.next = .clear → writer.t = 0 → writer.wrRdy = false
  | .call .. | .ready => True

instance (writer : Writer) : (move : WriteMove) → Decidable (writer.KeepsReady move)
  | .statement => inferInstanceAs (Decidable (_ → _ → _))
  | .call .. | .ready => inferInstanceAs (Decidable True)

/-- No more frames than signals, and the wait ends with the flag or without time. -/
structure Inv (writer : Writer) : Prop where
  covered : writer.sent.length + writer.credit ≤ 1 + writer.signals
  waited : writer.next = .clear → writer.wrRdy = true ∨ writer.t = 0

/-- The next call has a frame to spend as soon as the slave has answered the last. -/
def Usable (writer : Writer) : Prop :=
  writer.next = .away → writer.signals = writer.sent.length → ∀ stack pack, pack ≠ [] →
    ∃ later, runMoves step writer (.call stack (some pack) :: .replicate 5 .statement) =
      some later ∧
      later.sent.length = writer.sent.length + 1

/-! ## The balance of a step -/

theorem inv_initial : initial.Inv where
  covered := by decide
  waited := by intro at_clear; cases at_clear

/-- What a statement does to the account: nothing, or a frame for its credit, or the
loss of the flag. -/
theorem statement_account {writer next : Writer}
    (waited : writer.next = .clear → writer.wrRdy = true ∨ writer.t = 0)
    (stepped : writer.statement = some next) :
    next.signals = writer.signals ∧
      (writer.KeepsReady .statement → next.sent.length + next.credit = writer.sent.length +
        writer.credit) ∧
      (¬ writer.KeepsReady .statement → next.sent.length + next.credit + 1 = writer.sent.length +
        writer.credit) := by
  unfold statement at stepped
  simp only [KeepsReady, credit]
  cases at_next : writer.next with
  | away => simp [at_next] at stepped
  | fill =>
    simp only [at_next] at stepped
    split at stepped <;> cases stepped <;> simp [giveBack]
  | readyTest =>
    simp only [at_next] at stepped
    cases flag : writer.wrRdy <;> cases stepped <;> simp [goto, flag]
  | timeTest =>
    simp only [at_next] at stepped
    by_cases out : writer.t = 0 <;> cases stepped <;> simp [goto, out]
  | countDown =>
    simp only [at_next] at stepped
    cases stepped
    simp
  | clear =>
    simp only [at_next] at stepped
    cases stepped
    -- the flag goes to the frame that follows, unless the time is used up
    by_cases out : writer.t = 0
    · cases flag : writer.wrRdy <;> simp [out]
    · have flag : writer.wrRdy = true := (waited at_next).resolve_right out
      simp [out, flag]
  | timeoutTest =>
    simp only [at_next] at stepped
    by_cases out : writer.t = 0
    · rw [if_pos out] at stepped
      cases stepped
      simp [giveBack, out]
    · rw [if_neg out] at stepped
      cases stepped
      simp [goto, out]
  | transmit =>
    simp only [at_next] at stepped
    cases stepped
    simp [Nat.add_right_comm, Nat.add_assoc]

theorem statement_waited {writer next : Writer} (stepped : writer.statement = some next)
    (at_clear : next.next = .clear) : next.wrRdy = true ∨ next.t = 0 := by
  unfold statement at stepped
  cases at_next : writer.next with
  | away => simp [at_next] at stepped
  | countDown | clear | transmit =>
    simp only [at_next] at stepped
    cases stepped
    cases at_clear
  | fill | timeoutTest =>
    simp only [at_next] at stepped
    split at stepped <;> cases stepped <;> cases at_clear
  | readyTest =>
    simp only [at_next] at stepped
    cases flag : writer.wrRdy with
    | false =>
      rw [flag] at stepped
      cases stepped
      cases at_clear
    | true =>
      cases stepped
      exact .inl flag
  | timeTest =>
    simp only [at_next] at stepped
    by_cases out : writer.t = 0
    · rw [if_pos out] at stepped
      cases stepped
      exact .inr out
    · rw [if_neg out] at stepped
      cases stepped
      cases at_clear

theorem call_account {writer : Writer} (away : writer.next = .away) (stack : Frame)
    (pack : Option (List Byte)) :
    (writer.begin stack pack).signals = writer.signals ∧
      (writer.begin stack pack).sent = writer.sent ∧
      (writer.begin stack pack).credit = writer.credit ∧
        (writer.begin stack pack).next ≠ .clear := by
  cases pack <;> simp [begin, giveBack, credit, away]

theorem step_balance {writer next : Writer} {move : WriteMove} (inv : writer.Inv)
    (stepped : writer.step move = some next) :
    next.Inv ∧ (next.Balanced ↔ writer.Balanced ∧ writer.KeepsReady move) := by
  obtain ⟨covered, waited⟩ := inv
  unfold Balanced
  cases move with
  | call stack pack =>
    rw [step] at stepped
    split at stepped
    · rename_i away
      cases stepped
      obtain ⟨signals, sent, credit, inner⟩ := call_account away stack pack
      rw [signals, sent, credit]
      refine ⟨⟨by rwa [signals, sent, credit], fun at_clear => absurd at_clear inner⟩, ?_⟩
      exact (and_iff_left trivial).symm
    · cases stepped
  | ready =>
    rw [step] at stepped
    split at stepped
    · rename_i owed
      -- a signal is owed only after the last credit has been spent
      have spent : writer.credit = 0 := by omega
      cases stepped
      simp only [credit] at spent covered ⊢
      simp only [Nat.add_eq_zero_iff, Bool.toNat_eq_zero] at spent
      obtain ⟨flag, taken⟩ := spent
      simp only [flag, taken] at covered ⊢
      constructor
      · refine ⟨?_, fun _ => .inl rfl⟩
        simp only [credit, taken, Bool.toNat_true, Bool.toNat_false]
        omega
      · simp [KeepsReady]
        omega
    · cases stepped
  | statement =>
    obtain ⟨signals, kept, lost⟩ := statement_account waited stepped
    by_cases keeps : writer.KeepsReady .statement
    · have account := kept keeps
      refine ⟨⟨by omega, statement_waited stepped⟩, ?_⟩
      simp only [keeps, and_true]
      omega
    · have account := lost keeps
      refine ⟨⟨by omega, statement_waited stepped⟩, ?_⟩
      simp only [keeps, and_false, iff_false]
      omega

/-! ## Runs -/

theorem runStatements_succ {writer later : Writer} {count : Nat}
    (stepped : writer.statement = some later) :
    runMoves step writer (.replicate (count + 1) .statement) =
      runMoves step later (.replicate count .statement) := by
  rw [List.replicate_succ, runMoves]
  simp only [step, stepped]

/-- With the flag set and time left, a call goes from the start of a pass to the end of
its transfer. -/
theorem pass_sends {writer : Writer} (start : writer.next = .fill) (inside : writer.i < writer.num)
    (flag : writer.wrRdy = true) (time : writer.t ≠ 0) :
    runMoves step writer (.replicate 5 .statement) =
      some { writer with
        next := .fill, buf := writer.filled, wrRdy := false, i := writer.i + 1, sent :=
  writer.sent ++ [writer.filled] } := by
  obtain ⟨wrRdy, next, pack, i, t, buf, result, sent, signals⟩ := writer
  cases start
  cases flag
  generalize final : filled _ = frame
  have fills : statement ⟨true, .fill, pack, i, t, buf, result, sent, signals⟩ =
      some ⟨true, .readyTest, pack, i, t, frame, result, sent, signals⟩ := by
    rw [← final]
    exact if_pos inside
  have taken : statement ⟨false, .timeoutTest, pack, i, t, frame, result, sent, signals⟩ =
      some ⟨false, .transmit, pack, i, t, frame, result, sent, signals⟩ :=
        congrArg some (if_neg time)
  rw [runStatements_succ fills, runStatements_succ rfl, runStatements_succ rfl]
  exact (runStatements_succ taken).trans rfl

theorem usable_of_balanced {writer : Writer} (balanced : writer.Balanced) : writer.Usable := by
  intro away answered stack pack nonempty
  have flag : writer.wrRdy = true := by
    cases flag : writer.wrRdy with
    | true => rfl
    | false => simp [Balanced, credit, away, flag, answered] at balanced
  have frames : 0 < spiWriteNum pack.length := by
    have := List.length_pos_iff.mpr nonempty
    unfold spiWriteNum
    split <;> omega
  have begun : writer.step (.call stack (some pack)) = some (writer.begin stack (some pack)) :=
    if_pos away
  have time : (writer.begin stack (some pack)).t ≠ 0 := by simp [begin]
  have enters : runMoves step writer (.call stack (some pack) :: .replicate 5 .statement) =
      runMoves step (writer.begin stack (some pack)) (.replicate 5 .statement) := by
    rw [runMoves, begun]
  have sends := @pass_sends (writer.begin stack (some pack)) rfl frames flag time
  exact ⟨_, enters.trans sends, List.length_append⟩

/-! ## The frames of a call -/

/-- The frames that a call has still to send. -/
def rest (writer : Writer) : List Frame :=
  let later := spiWriteLoop writer.pack writer.num (spiWriteLastByte writer.pack.length)
  match writer.next with
  | .away => []
  | .fill => later (writer.num - writer.i) writer.i writer.buf
  | _ => writer.buf :: later (writer.num - (writer.i + 1)) (writer.i + 1) writer.buf

/-- The frames sent and to be sent are `target`, and a call that has failed has some of them
left. -/
def Sends (target : List Frame) (writer : Writer) : Prop :=
  (writer.next = .away ∧ writer.result = -1 ∧ ∃ unsent, unsent ≠ [] ∧ writer.sent ++
    unsent = target) ∨
    ((writer.next = .away → writer.result = 0) ∧ writer.sent ++ writer.rest = target)

theorem statement_sends {target : List Frame} {writer next : Writer} (sends : Sends target writer)
    (stepped : writer.statement = some next) : Sends target next := by
  unfold statement at stepped
  rcases sends with ⟨away, failed⟩ | ⟨-, same⟩
  · simp [away] at stepped
  · cases at_next : writer.next with
    | away => simp [at_next] at stepped
    | fill =>
      simp only [at_next] at stepped
      split at stepped
      · rename_i inside
        cases stepped
        have left : writer.num - writer.i = (writer.num - (writer.i + 1)) + 1 := by omega
        refine .inr ⟨fun away => (by cases away), ?_⟩
        rw [← same]
        simp only [rest, at_next, left, spiWriteLoop]
        rfl
      · rename_i finished
        cases stepped
        have none_left : writer.num - writer.i = 0 := by omega
        refine .inr ⟨fun _ => rfl, ?_⟩
        rw [← same]
        simp only [rest, at_next, none_left, spiWriteLoop]
        rfl
    | readyTest =>
      simp only [at_next] at stepped
      cases stepped
      refine .inr ⟨fun away => ?_, ?_⟩
      · cases flag : writer.wrRdy <;> simp [goto, flag] at away
      · rw [← same]
        cases flag : writer.wrRdy <;> simp [rest, at_next, goto, num]
    | timeTest =>
      simp only [at_next] at stepped
      cases stepped
      refine .inr ⟨fun away => ?_, ?_⟩
      · by_cases out : writer.t = 0 <;> simp [goto, out] at away
      · rw [← same]
        by_cases out : writer.t = 0 <;> simp [rest, at_next, goto, num, out]
    | countDown | clear =>
      simp only [at_next] at stepped
      cases stepped
      refine .inr ⟨fun away => (by cases away), ?_⟩
      rw [← same]
      simp [rest, at_next, num]
    | timeoutTest =>
      simp only [at_next] at stepped
      split at stepped <;> cases stepped
      · refine .inl ⟨rfl, rfl, writer.rest, ?_, same⟩
        simp [rest, at_next]
      · refine .inr ⟨fun away => (by cases away), ?_⟩
        rw [← same]
        simp [rest, at_next, goto, num]
    | transmit =>
      simp only [at_next] at stepped
      cases stepped
      refine .inr ⟨fun away => (by cases away), ?_⟩
      rw [← same]
      simp [rest, at_next, num]

theorem moves_send {target : List Frame} {moves : List WriteMove} {writer final : Writer}
    (alone : ∀ move ∈ moves, move = .statement ∨ move = .ready) (sends : Sends target writer)
    (ran : runMoves step writer moves = some final) : Sends target final := by
  induction moves generalizing writer with
  | nil =>
    cases ran
    exact sends
  | cons move later ih =>
    obtain ⟨next, stepped, remaining⟩ := runMoves_cons ran
    obtain ⟨one, others⟩ := List.forall_mem_cons.mp alone
    refine ih others ?_ remaining
    rcases one with rfl | rfl
    · exact statement_sends sends stepped
    · rw [step] at stepped
      split at stepped <;> cases stepped
      exact sends

/-- Whenever the signals come, a call that returns 0 has sent the frames of its packet, and one
that returns -1 the first of them, but not all. -/
theorem call_sends {writer final : Writer} {stack : Frame} {pack : List Byte}
    {moves : List WriteMove} (alone : ∀ move ∈ moves, move = .statement ∨ move = .ready)
    (ran : runMoves step (writer.begin stack (some pack)) moves = some final)
    (returned : final.next = .away) :
    (final.result = 0 ∧ final.sent = writer.sent ++ spiWriteFrames stack pack) ∨
      (final.result = -1 ∧ ∃ unsent, unsent ≠ [] ∧ final.sent ++ unsent = writer.sent ++
        spiWriteFrames stack pack) := by
  have start : Sends (writer.sent ++ spiWriteFrames stack pack) (writer.begin stack (some pack)) :=
    .inr ⟨fun away => (by cases away), rfl⟩
  rcases moves_send alone start ran with ⟨-, failed⟩ | ⟨succeeded, same⟩
  · exact .inr failed
  · rw [rest, returned, List.append_nil] at same
    exact .inl ⟨succeeded returned, same⟩

/-- Three frames, with the signal for each as soon as it has been sent. -/
theorem call_sends_three :
    ∃ final, runMoves step (initial.begin (.zero 32) (some (List.replicate 70 7#8)))
      ((List.replicate 3 (.replicate 5 .statement ++ [.ready])).flatten ++ [.statement]) =
        some final ∧
    final.sent.length = 3 ∧ final.sent = spiWriteFrames (.zero 32) (List.replicate 70 7#8) := by
  let moves : List WriteMove :=
    (List.replicate 3 (.replicate 5 .statement ++ [.ready])).flatten ++ [.statement]
  have runs : ((runMoves step (initial.begin (.zero 32) (some (List.replicate 70 7#8))) moves).any
      fun final =>
      decide (final.next = .away ∧ final.result = 0 ∧ final.sent.length = 3)) = true := by
        decide +kernel
  obtain ⟨final, ran, ended⟩ := Option.any_eq_true _ _ |>.mp runs
  obtain ⟨returned, succeeded, three⟩ := of_decide_eq_true ended
  have alone : ∀ move ∈ moves, move = .statement ∨ move = .ready := by
    intro move member
    cases move with
    | call stack pack => simp [moves] at member
    | statement => exact .inl rfl
    | ready => exact .inr rfl
  refine ⟨final, ran, three, ?_⟩
  rcases call_sends alone ran returned with ⟨-, sent⟩ | ⟨failed, -⟩
  · exact sent
  · rw [succeeded] at failed
    cases failed

/-- Over any run, the signals and the frames stay in balance exactly if no call that
has run out of time clears the flag while it is set. -/
theorem readyCredit {moves : List WriteMove} {final : Writer}
    (ran : runMoves step initial moves = some final) :
    (final.Balanced ↔ MovesMeet step KeepsReady initial moves) ∧
      (final.Balanced → final.Usable) := by
  have balanced : initial.Balanced := rfl
  refine ⟨?_, usable_of_balanced⟩
  rw [runMoves_iff step_balance inv_initial ran]
  exact and_iff_right balanced

theorem readyCredit_one : ∃ final,
    runMoves step initial (.call (.zero 32) (some [7#8]) :: .replicate 6 .statement ++ [.ready]) =
      some final ∧
      final.signals = 1 ∧ final.Balanced ∧ final.Usable := by
  have ran : runMoves step initial (.call (.zero 32) (some [7#8]) ::
      .replicate 6 .statement ++ [.ready]) =
      some ⟨true, .away, [7#8], 1, 50000, (initial.begin (.zero 32) (some [7#8])).filled, 0,
        [(initial.begin (.zero 32) (some [7#8])).filled], 1⟩ := rfl
  obtain ⟨exactly, usable⟩ := readyCredit ran
  have balanced := exactly.mpr (by decide)
  exact ⟨_, ran, rfl, balanced, usable balanced⟩

/-! ## A signal at the end of the wait -/

/-- One pass of the polling loop without the flag. -/
def poll : List WriteMove := .replicate 3 .statement

theorem poll_run {writer : Writer} {t : Nat} (start : writer.next = .readyTest)
    (flag : writer.wrRdy = false) (time : writer.t = t + 1) :
    runMoves step writer poll = some { writer with t := t } := by
  obtain ⟨wrRdy, next, pack, i, left, buf, result, sent, signals⟩ := writer
  cases start
  cases flag
  cases time
  rfl

theorem polls_run {writer : Writer} {t : Nat} (start : writer.next = .readyTest)
    (flag : writer.wrRdy = false) (time : writer.t = t) :
    runMoves step writer (List.replicate t poll).flatten =
      some { writer with t := 0 } := by
  induction t generalizing writer with
  | zero =>
    cases writer
    cases time
    rfl
  | succ t ih =>
    rw [List.replicate_succ, List.flatten_cons, runMoves_append (poll_run start flag time)]
    exact ih start flag rfl

/-- The second of two calls waits its 50000 polls, and the signal for the first frame
comes before the flag is cleared. -/
def lateReady : List WriteMove :=
  .call (.zero 32) (some [7#8]) :: .replicate 6 .statement ++
    ([.call (.zero 32) (some [7#8]), .statement] ++
    ((List.replicate 50000 poll).flatten ++
      [.statement, .statement, .ready, .statement, .statement]))

theorem readyCredit_lost : ∃ final, runMoves step initial lateReady = some final ∧
    final.result = -1 ∧ final.signals = final.sent.length ∧ ¬ final.Balanced ∧ ¬ final.Usable := by
  let frame := (initial.begin (.zero 32) (some [7#8])).filled
  have first : runMoves step initial (.call (.zero 32) (some [7#8]) :: .replicate 6 .statement) =
      some ⟨false, .away, [7#8], 1, 50000, frame, 0, [frame], 0⟩ := rfl
  have enter : runMoves step ⟨false, .away, [7#8], 1, 50000, frame, 0, [frame], 0⟩
      [.call (.zero 32) (some [7#8]), .statement] =
        some ⟨false, .readyTest, [7#8], 0, 50000, frame, 0, [frame], 0⟩ := rfl
  have waits : runMoves step ⟨false, .readyTest, [7#8], 0, 50000, frame, 0, [frame], 0⟩
      (List.replicate 50000 poll).flatten =
        some ⟨false, .readyTest, [7#8], 0, 0, frame, 0, [frame], 0⟩ :=
    polls_run rfl rfl rfl
  refine ⟨⟨false, .away, [7#8], 0, 0, frame, -1, [frame], 1⟩, ?_, rfl, rfl, ?_, ?_⟩
  · rw [lateReady, runMoves_append first, runMoves_append enter, runMoves_append waits]
    rfl
  · intro balanced
    cases balanced
  · intro usable
    obtain ⟨later, ran, sent⟩ := usable rfl rfl (.zero 32) [7#8] (List.cons_ne_nil _ _)
    cases ran
    cases sent

end Writer

end WifiAccess

import WifiAccess.Base.Run
import WifiAccess.Crc.Unit

/-! The CRC unit shared by threads of different priorities. A thread may start a
call between any two commands of a call of lower priority, and runs it to its end
before the interrupted call goes on. -/

namespace WifiAccess

/-- A call in progress: how many of its commands the unit has executed. -/
structure CrcCall where
  priority : Nat
  data : List Byte
  executed : Nat
  deriving DecidableEq

/-- Calls in progress, the running one first, and the calls that have returned. -/
structure CrcSharing where
  register : CrcRegister
  active : List CrcCall
  returned : List (List Byte × CrcRegister)
  deriving DecidableEq

inductive CrcMove where
  | call (priority : Nat) (data : List Byte)
  | command

/-- A lower number is a higher priority, as in the kernel's thread table. -/
def CrcSharing.step (shared : CrcSharing) : CrcMove → Option CrcSharing
  | .call priority data =>
    if shared.active.all (priority < ·.priority) then
      some { shared with active := ⟨priority, data, 0⟩ :: shared.active }
    else none
  | .command =>
    match shared.active with
    | [] => none
    | top :: below =>
      match (blockCrcCommands top.data)[top.executed]? with
      | none => none
      | some .readDR =>
        some { shared with active := below, returned := (top.data, shared.register) ::
          shared.returned }
      | some command =>
        some { shared with
          register := command.exec shared.register
          active := { top with executed := top.executed + 1 } :: below }

def CrcSharing.idle (register : CrcRegister) : CrcSharing := ⟨register, [], []⟩

/-- Every call that has returned got the value it gets when run alone. -/
def CrcSharing.Correct (shared : CrcSharing) : Prop :=
  ∀ entry ∈ shared.returned, entry.2.toNat = blockCrcCalc entry.1

/-- The bytes a call past its reset has written to the unit. -/
def CrcCall.written (call : CrcCall) : List Byte := call.data.take (call.executed - 1)

/-- If the running call is about to end inside a call past its reset, its data
has the same CRC as the bytes the interrupted call has written. -/
def CrcCall.LeavesRegister : List CrcCall → Prop
  | top :: below :: _ =>
    top.executed = top.data.length + 1 → 1 ≤ below.executed → crc32 top.data = crc32 below.written
  | _ => True

instance CrcCall.decideLeaves : (calls : List CrcCall) → Decidable (LeavesRegister calls)
  | top :: below :: _ =>
    inferInstanceAs (Decidable
      (top.executed = top.data.length + 1 → 1 ≤ below.executed →
        crc32 top.data = crc32 below.written))
  | [_] => inferInstanceAs (Decidable True)
  | [] => inferInstanceAs (Decidable True)

def CrcSharing.Undisturbed (shared : CrcSharing) : CrcMove → Prop
  | .call _ _ => True
  | .command => CrcCall.LeavesRegister shared.active

instance (shared : CrcSharing) : (move : CrcMove) → Decidable (shared.Undisturbed move)
  | .call _ _ => inferInstanceAs (Decidable True)
  | .command => CrcCall.decideLeaves shared.active

/-- Once past its reset, the running call finds in the register the CRC of what
it has written. -/
def CrcSharing.Tracks (shared : CrcSharing) : Prop :=
  (∀ top ∈ shared.active.head?, 1 ≤ top.executed → shared.register = crc32 top.written) ∧
    (∀ call ∈ shared.active, call.executed ≤ call.data.length + 1) ∧ shared.Correct

theorem crcCommand_reset (data : List Byte) : (blockCrcCommands data)[0]? = some .resetDR := rfl

theorem crcCommand_write {data : List Byte} {i : Nat} (inside : i < data.length) :
    (blockCrcCommands data)[i + 1]? = some (.writeDR (data[i].setWidth 32)) := by
  simp [blockCrcCommands, crcWords, List.getElem?_append_left, inside]

theorem crcCommand_read (data : List Byte) :
    (blockCrcCommands data)[data.length + 1]? = some .readDR := by
  simp [blockCrcCommands, crcWords]

theorem crcCommand_past {data : List Byte} {i : Nat} (past : data.length + 1 < i) :
    (blockCrcCommands data)[i]? = none := by
  simp [blockCrcCommands, crcWords]
  omega

theorem CrcSharing.step_call {shared next : CrcSharing} {priority : Nat} {data : List Byte}
    (stepped : shared.step (.call priority data) = some next) :
    next = { shared with active := ⟨priority, data, 0⟩ :: shared.active } := by
  simp only [step] at stepped
  split at stepped
  · exact (Option.some.inj stepped).symm
  · cases stepped

/-- What one command does: the reset, one of the writes, or the read that returns. -/
theorem CrcSharing.step_command {shared next : CrcSharing}
    (stepped : shared.step .command = some next) :
    ∃ top below, shared.active = top :: below ∧
      ((top.executed = 0 ∧ next = { shared with
          register := crcResetValue, active := { top with executed := 1 } :: below }) ∨
        (∃ i, ∃ inside : i < top.data.length, top.executed = i + 1 ∧ next = { shared with
          register := ShiftCrc.feed crcPolynomial shared.register (top.data[i].setWidth 32)
          active := { top with executed := i + 2 } :: below }) ∨
        (top.executed = top.data.length + 1 ∧ next = { shared with
          active := below, returned := (top.data, shared.register) :: shared.returned })) := by
  simp only [step] at stepped
  split at stepped
  · cases stepped
  rename_i top below active
  refine ⟨top, below, active, ?_⟩
  rcases top with ⟨priority, data, executed⟩
  simp only at stepped ⊢
  rcases Nat.lt_trichotomy executed (data.length + 1) with early | last | past
  · cases executed with
    | zero =>
      rw [crcCommand_reset] at stepped
      exact .inl ⟨rfl, (Option.some.inj stepped).symm⟩
    | succ i =>
      have inside : i < data.length := by omega
      rw [crcCommand_write inside] at stepped
      exact .inr (.inl ⟨i, inside, rfl, (Option.some.inj stepped).symm⟩)
  · rw [last, crcCommand_read] at stepped
    exact .inr (.inr ⟨last, (Option.some.inj stepped).symm⟩)
  · rw [crcCommand_past past] at stepped
    cases stepped

theorem CrcSharing.tracks_idle (register : CrcRegister) : (idle register).Tracks :=
  ⟨by simp [idle], by simp [idle], by simp [Correct, idle]⟩

private theorem written_next {data : List Byte} {i : Nat} (inside : i < data.length) :
    crc32 (data.take (i + 1)) =
      ShiftCrc.feed crcPolynomial (crc32 (data.take i)) (data[i].setWidth 32) := by
  rw [List.take_succ_eq_append_getElem inside, crc32_snoc]

private theorem CrcCall.written_all {call : CrcCall} (last : call.executed = call.data.length + 1) :
    call.written = call.data := by
  simp [written, last]

theorem CrcSharing.tracks_step {shared next : CrcSharing} {move : CrcMove} (tracks : shared.Tracks)
    (undisturbed : shared.Undisturbed move) (stepped : shared.step move = some next) :
    next.Tracks := by
  obtain ⟨holds, bounded, correct⟩ := tracks
  cases move with
  | call priority data =>
    obtain rfl := step_call stepped
    refine ⟨?_, ?_, correct⟩
    · intro top isTop started
      cases Option.mem_some.mp isTop
      simp at started
    · intro call member
      rcases List.mem_cons.mp member with new | old
      · simp [new]
      · exact bounded call old
  | command =>
    obtain ⟨top, below, active, effect⟩ := step_command stepped
    have others : ∀ call ∈ below, call.executed ≤ call.data.length + 1 :=
      fun call member => bounded call (by simp [active, member])
    have topHolds : 1 ≤ top.executed → shared.register = crc32 top.written :=
      holds top (by simp [active])
    rcases effect with ⟨_, rfl⟩ | ⟨i, inside, position, rfl⟩ | ⟨last, rfl⟩
    · refine ⟨?_, ?_, correct⟩
      · intro call isTop _
        cases Option.mem_some.mp isTop
        rfl
      · simpa using others
    · refine ⟨?_, ?_, correct⟩
      · intro call isTop _
        cases Option.mem_some.mp isTop
        simp only [CrcCall.written, position, Nat.add_sub_cancel] at topHolds
        simp only [CrcCall.written, Nat.add_one_sub_one, topHolds (by omega)]
        exact (written_next inside).symm
      · simpa using ⟨by omega, others⟩
    · have own : shared.register = crc32 top.data := by
        rw [topHolds (by omega), top.written_all last]
      refine ⟨?_, others, ?_⟩
      · intro call isTop started
        cases below with
        | nil => simp at isTop
        | cons interrupted rest =>
          cases Option.mem_some.mp isTop
          simp only [Undisturbed, active, CrcCall.LeavesRegister] at undisturbed
          rw [own, undisturbed last started]
      · intro entry member
        rcases List.mem_cons.mp member with new | old
        · rw [new, own, blockCrcCalc_eq]
        · exact correct entry old

private theorem crcReads_rest (register : CrcRegister) {data : List Byte} {k : Nat}
    (inside : k ≤ data.length) :
    crcReads register ((blockCrcCommands data).drop (k + 1)) =
      [ShiftCrc.feedAll crcPolynomial register (crcWords (data.drop k))] := by
  have rest : (blockCrcCommands data).drop (k + 1) =
      (crcWords (data.drop k)).map .writeDR ++ [.readDR] := by
    simp [blockCrcCommands, crcWords, List.drop_append_of_le_length, inside, List.map_drop]
  rw [rest, crcReads_writes]

/-- The condition is needed: a call that goes on with a foreign register, and is
not interrupted again, returns a wrong value. -/
theorem CrcCall.disturbed_wrong {call : CrcCall} {register : CrcRegister}
    (started : 1 ≤ call.executed) (bounded : call.executed ≤ call.data.length + 1)
    (foreign : register ≠ crc32 call.written) :
    ∃ value, crcReads register ((blockCrcCommands call.data).drop call.executed) = [value] ∧
      value.toNat ≠ blockCrcCalc call.data := by
  obtain ⟨k, position⟩ := Nat.exists_eq_add_of_le' started
  refine ⟨_, by rw [position, crcReads_rest register (by omega)], ?_⟩
  intro same
  have whole : crc32 call.data =
      ShiftCrc.feedAll crcPolynomial (crc32 (call.data.take k)) (crcWords (call.data.drop k)) := by
    rw [crc32, crc32, ← ShiftCrc.feedAll_append, crcWords, crcWords, crcWords, ← List.map_append,
      List.take_append_drop]
  rw [blockCrcCalc_eq, whole] at same
  apply foreign
  rw [written, position]
  exact ShiftCrc.feedAll_injective crcPolynomial_odd _ (BitVec.eq_of_toNat_eq same)

/-- Calls on the shared unit return the CRC of their own data in every run in
which no call leaves a foreign register behind for the call it interrupted. -/
theorem blockCrc_shared (register : CrcRegister) (moves : List CrcMove) (shared : CrcSharing)
    (met : MovesMeet CrcSharing.step CrcSharing.Undisturbed (.idle register) moves)
    (ran : runMoves CrcSharing.step (.idle register) moves = some shared) : shared.Correct :=
  (runMoves_invariant CrcSharing.tracks_step (CrcSharing.tracks_idle register) met ran).2.2

/-- The wifi thread preempts the door thread before its reset, and after it with
the same byte as the one written. -/
def harmlessPreemptions : List CrcMove :=
  [.call 19 [1#8, 2#8], .call 5 [7#8], .command, .command, .command, .command, .command,
    .call 5 [1#8], .command, .command, .command, .command, .command]

theorem blockCrc_shared_preempted :
    ∃ shared : CrcSharing, shared.returned.length = 3 ∧ shared.Correct := by
  have returned : (runMoves CrcSharing.step (.idle 0#32) harmlessPreemptions).map
      (·.returned.length) = some 3 := by decide +kernel
  obtain ⟨shared, ran, three⟩ := Option.map_eq_some_iff.mp returned
  exact ⟨shared, three, blockCrc_shared 0#32 harmlessPreemptions shared (by decide +kernel) ran⟩

/-- The wifi thread runs a call between two writes of the door thread's call. -/
def splitCall : List CrcMove :=
  [.call 19 [1#8, 2#8], .command, .command, .call 5 [7#8], .command, .command, .command,
    .command, .command]

theorem blockCrc_shared_interleaved : ¬ ∀ (register : CrcRegister) (moves : List CrcMove)
    (shared : CrcSharing), runMoves CrcSharing.step (.idle register) moves = some shared →
      shared.Correct := by
  intro always
  have wrong : (runMoves CrcSharing.step (.idle 0#32) splitCall).map
      (fun final => final.returned.all fun entry => entry.2.toNat = blockCrcCalc entry.1) =
        some false := by decide +kernel
  obtain ⟨shared, ran, differs⟩ := Option.map_eq_some_iff.mp wrong
  have right := List.all_eq_true.mpr fun entry member =>
    decide_eq_true (always 0#32 splitCall shared ran entry member)
  rw [right] at differs
  cases differs

end WifiAccess

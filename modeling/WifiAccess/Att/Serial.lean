import WifiAccess.Att.Interleaving

/-! Orders of the calls that leave what the two operations leave one after the other. -/

namespace WifiAccess

open FileProg Prog

/-- How many calls the addition and the deletion have made. -/
structure Progress where
  adds : Nat
  dels : Nat

namespace Progress

def start : Progress := ⟨0, 0⟩

def next (progress : Progress) : Turn → Progress
  | .first => { progress with adds := progress.adds + 1 }
  | .second => { progress with dels := progress.dels + 1 }

/-- While the deletion has the file open the addition does no more than open it and seek to its
start, and from its read of the header to its close the deletion makes no call. -/
def Apart (progress : Progress) : Turn → Prop
  | .first => progress.adds < 2 ∨ progress.dels = 0 ∨ progress.dels = 6
  | .second => progress.adds ≤ 2 ∨ progress.adds = 8

instance (progress : Progress) : (turn : Turn) → Decidable (progress.Apart turn)
  | .first => inferInstanceAs (Decidable (_ ∨ _))
  | .second => inferInstanceAs (Decidable (_ ∨ _))

/-- The calls that are still to come. -/
def Allows (progress : Progress) : Turn → Prop
  | .first => progress.adds < 8
  | .second => progress.dels < 6

instance (progress : Progress) : (turn : Turn) → Decidable (progress.Allows turn)
  | .first => inferInstanceAs (Decidable (progress.adds < 8))
  | .second => inferInstanceAs (Decidable (progress.dels < 6))

end Progress

abbrev AttRace := Race FileOp FileOp.Res Volume Fil (Int × AttInfo) Int

/-- Both operations before their first call, with what the memory of their descriptors holds. -/
def attRace (vol : Volume) (first second : Fil) (info : AttInfo) (num : Nat) : AttRace :=
  ⟨vol, attRecordAdd info, { first with isOpen := false }, attRecordDel num,
    { second with isOpen := false }⟩

/-- An addition that has read nothing yet. -/
inductive Early (info : AttInfo) (size : Nat) : Nat → FileProg (Int × AttInfo) → Fil → Prop
  | shut {fp : Fil} (closed : fp.isOpen = false) : Early info size 0 (attRecordAdd info) fp
  | opened {next : Bool → FileProg (Int × AttInfo)} {fp : Fil}
      (called : attRecordAdd info = .call .openCreate next) :
      Early info size 1 (next true) (Fatfs.fOpen ⟨fun _ => 0#8, size⟩ fp)
  | sought {next later : Bool → FileProg (Int × AttInfo)} {fp : Fil}
      (called : attRecordAdd info = .call .openCreate next)
      (seeks : next true = .call (.lseek 0) later) : Early info size 2 (later true)
        (Fatfs.fOpen ⟨fun _ => 0#8, size⟩ fp)

/-- What is left of the program ends the session with these records. -/
structure EndsWith (fs : Fatfs) {α : Type} (limit left : Nat) (prog : FileProg α) (value : α)
    (state : Volume × Fil) (session : Session) (log : List AttInfo) : Prop where
  carries : fs.Carries session state
  ends : ∃ final, Ends (Session.handle limit) left prog session value (.shut final) ∧
    Refines final log ∧ final.length + 53 < 2 ^ 32

section Calls

variable {fs : Fatfs} {α : Type} {limit left : Nat} {prog : FileProg α} {value : α}
  {state : Volume × Fil} {session : Session} {log : List AttInfo}

/-- The next call. -/
theorem EndsWith.step (endsWith : EndsWith fs limit (left + 1) prog value state session log) :
    ∃ op next result after session',
    prog = .call op next ∧ fs.handle op state = some (result, after) ∧
      EndsWith fs limit left (next result) value after session' log ∧
        (limit ≤ session.bytes.length → session'.bytes.length = session.bytes.length) ∧
          (after.1.size = state.1.size ∨ after.1.size = session'.bytes.length) := by
  obtain ⟨final, ⟨op, next, ⟨result, session'⟩, called, answered, ends⟩, refines⟩ := endsWith.ends
  obtain ⟨after, handled, carries, size⟩ := endsWith.carries.step answered
  exact ⟨op, next, result, after, session', called, handled, ⟨carries, final, ends, refines⟩,
    Session.length_step answered, size⟩

/-- Behind the last call. -/
theorem EndsWith.done (endsWith : EndsWith fs limit 0 prog value state session log) :
    prog = .ret value ∧ state.2.isOpen = false ∧ ∃ final, state.1.Holds final ∧ Refines final log ∧
      final.length + 53 < 2 ^ 32 := by
  obtain ⟨final, ⟨returned, rfl⟩, refines⟩ := endsWith.ends
  obtain ⟨vol, fp⟩ := state
  obtain ⟨closed, holds⟩ := endsWith.carries
  exact ⟨returned, closed, final, holds, refines⟩

end Calls

/-- How far both operations are, when neither gets in the way of the other. -/
inductive Stage (fs : Fatfs) (log : List AttInfo) (info : AttInfo) (num size : Nat) :
    AttRace → Progress → Prop
  | early {race : AttRace} {progress : Progress} {left : Nat} {session : Session}
      (few : progress.adds ≤ 2) (adding : Early info size progress.adds race.first race.firstOwn)
      (kept : race.shared.size = size) (counted : progress.dels + left = 6)
      (same : session.bytes.length = size)
      (deleting : EndsWith fs size left race.second 0 (race.shared, race.secondOwn) session
        (log.take (log.length - num)))
      (unread : progress.dels = 0 → race.second = attRecordDel num ∧ race.secondOwn.isOpen = false ∧
        ∃ bytes, race.shared.Holds bytes ∧ Refines bytes log ∧ bytes.length + 53 < 2 ^ 32) :
      Stage fs log info num size race progress
  | adding {race : AttRace} {progress : Progress} {limit left : Nat} {session : Session}
      (read : 3 ≤ progress.adds) (none_yet : progress.dels = 0) (counted : progress.adds + left = 8)
      (adding : EndsWith fs limit left race.first (0, info.withCrc) (race.shared, race.firstOwn)
        session (log ++ [info.withCrc]))
      (second : race.second = attRecordDel num) (closed : race.secondOwn.isOpen = false) :
      Stage fs log info num size race progress
  | deleting {race : AttRace} {progress : Progress} {limit left : Nat} {session : Session}
      (added : progress.adds = 8) (counted : progress.dels + left = 6)
      (first : race.first = .ret (0, info.withCrc))
      (deleting : EndsWith fs limit left race.second 0 (race.shared, race.secondOwn) session
        ((log ++ [info.withCrc]).take (log.length + 1 - num))) :
      Stage fs log info num size race progress
  | last {race : AttRace} {progress : Progress} {limit left : Nat} {session : Session}
      (read : 3 ≤ progress.adds) (deleted : progress.dels = 6) (counted : progress.adds + left = 8)
      (second : race.second = .ret 0)
      (adding : EndsWith fs limit left race.first (0, info.withCrc) (race.shared, race.firstOwn)
        session (log.take (log.length - num) ++ [info.withCrc])) :
      Stage fs log info num size race progress

section Steps

variable {fs : Fatfs} {log : List AttInfo} {info : AttInfo} {num size : Nat} {progress : Progress}
  {race : AttRace}

theorem fOpen_congr {vol : Volume} (kept : vol.size = size) (fp : Fil) :
    Fatfs.fOpen ⟨fun _ => 0#8, size⟩ fp = Fatfs.fOpen vol fp := by
  rw [Fatfs.fOpen, Fatfs.fOpen, kept]

/-- Seeking to the start of a file that has just been opened. -/
theorem fLseek_start (vol opened : Volume) (fp : Fil) :
    fs.fLseek vol (Fatfs.fOpen opened fp) 0 = (vol, Fatfs.fOpen opened fp) := by
  rw [Fatfs.fLseek, if_neg (fun off => off (Nat.zero_mod _))]
  exact congrArg _ (if_neg (Nat.not_lt_zero _))

/-- What is left of an addition that has read nothing, on a file that nobody else has open. -/
theorem Early.endsWith {adds : Nat} {prog : FileProg (Int × AttInfo)} {fp : Fil}
    (early : Early info size adds prog fp) (fs : Fatfs) {vol : Volume} {bytes : List Byte}
    {records : List AttInfo} (holds : vol.Holds bytes) (kept : vol.size = size)
    (refines : Refines bytes records) (room : 8 + 53 * (records.length + 1) < 2 ^ 31)
    (small : bytes.length + 53 < 2 ^ 32) :
    ∃ limit left session,
    adds + left = 8 ∧ EndsWith fs limit left prog (0, info.withCrc) (vol, fp) session
      (records ++ [info.withCrc]) := by
  obtain ⟨final, ends, after⟩ :=
    @attRecordAdd_ends (max bytes.length (8 + 53 * (records.length + 1))) bytes records refines room
    small info (Nat.le_refl _)
  cases early with
  | shut closed => exact ⟨_, 8, .shut bytes, rfl, ⟨closed, holds⟩, final, ends, after⟩
  | opened called =>
    rename_i next fp
    rw [fOpen_congr kept]
    obtain ⟨op, rest, answer, called', answered, ends⟩ := ends
    rw [called] at called'
    cases called'
    cases answered
    exact ⟨_, 7, .opened bytes 0, rfl, Fatfs.opened_fOpen holds fp, final, ends, after⟩
  | sought called seeks =>
    rename_i next later fp
    rw [fOpen_congr kept]
    obtain ⟨op, rest, answer, called', answered, ends⟩ := ends
    rw [called] at called'
    cases called'
    cases answered
    obtain ⟨op, rest, answer, seeks', answered, ends⟩ := ends
    rw [seeks] at seeks'
    cases seeks'
    cases answered
    exact ⟨_, 6, .opened bytes 0, rfl, Fatfs.opened_fOpen holds fp, final, ends, after⟩

/-- A call of the addition. -/
theorem Stage.first (room : 8 + 53 * (log.length + 1) < 2 ^ 31)
    (stage : Stage fs log info num size race progress) (allowed : progress.Allows .first)
    (apart : progress.Apart .first) : ∃ next,
    race.step fs.handle .first = some next ∧
      Stage fs log info num size next (progress.next .first) := by
  obtain ⟨adds, dels⟩ := progress
  have allowed : adds < 8 := allowed
  -- the addition goes on alone
  have goes {limit left : Nat} {session : Session} {records : List AttInfo}
      (counted : adds + left = 8)
      (endsWith : EndsWith fs limit left race.first (0, info.withCrc) (race.shared, race.firstOwn)
        session records) :
      ∃ next session' left', race.step fs.handle .first = some next ∧ next.second = race.second ∧
        next.secondOwn = race.secondOwn ∧ adds + 1 + left' = 8 ∧
        EndsWith fs limit left' next.first (0, info.withCrc) (next.shared, next.firstOwn) session'
          records := by
    obtain ⟨left, rfl⟩ := Nat.exists_eq_add_of_le' (show 1 ≤ left by omega)
    obtain ⟨op, next, result, after, session', called, handled, later, -⟩ := endsWith.step
    exact ⟨_, session', left, Race.step_first_call called handled, rfl, rfl, by omega, later⟩
  cases stage with
  | @early left session few adding kept counted same deleting unread =>
    have few : adds ≤ 2 := few
    rcases Nat.lt_or_ge adds 2 with opening | behind
    · -- the file is opened, or its start sought
      obtain ⟨shared, first, firstOwn, second, secondOwn⟩ := race
      have adding : Early info size adds first firstOwn := adding
      cases adding with
      | shut closed =>
        obtain ⟨next, called⟩ : ∃ next, attRecordAdd info = .call .openCreate next := ⟨_, rfl⟩
        have handled : fs.handle .openCreate (shared, firstOwn) =
            some (true, shared, Fatfs.fOpen shared firstOwn) := by
          rw [Fatfs.handle, if_neg (by rw [closed]; exact Bool.false_ne_true)]
          rfl
        refine ⟨_, Race.step_first_call called handled,
          .early (show 0 + 1 ≤ 2 by decide) ?_ kept counted same deleting unread⟩
        rw [← fOpen_congr kept]
        exact .opened called
      | @opened next fp called =>
        obtain ⟨later, seeks⟩ : ∃ later, next true = .call (.lseek 0) later := by
          cases called
          exact ⟨_, rfl⟩
        have handled : fs.handle (.lseek 0) (shared, Fatfs.fOpen ⟨fun _ => 0#8, size⟩ fp) =
            some (true, shared, Fatfs.fOpen ⟨fun _ => 0#8, size⟩ fp) := by
          rw [Fatfs.handle, fLseek_start]
          rfl
        exact ⟨_, Race.step_first_call seeks handled,
          .early (show 1 + 1 ≤ 2 by decide) (.sought called seeks) kept counted same
            deleting unread⟩
      | sought called seeks => exact absurd opening (Nat.lt_irrefl 2)
    · -- the header is read
      have counts : dels = 0 ∨ dels = 6 := by
        rcases apart with less | none_yet | done
        · exact absurd less (Nat.not_lt.mpr behind)
        · exact .inl none_yet
        · exact .inr done
      rcases counts with rfl | rfl
      · obtain ⟨second, closed, bytes, holds, refines, small⟩ := unread rfl
        obtain ⟨limit, left, session, counted, endsWith⟩ :=
          adding.endsWith fs holds kept refines room small
        obtain ⟨next, session', left', stepped, sameSecond, sameOwn, counted, later⟩ :=
          goes counted endsWith
        exact ⟨next, stepped, .adding (show 3 ≤ adds + 1 by omega) rfl counted later
          (sameSecond.trans second) (sameOwn ▸ closed)⟩
      · obtain rfl : left = 0 := Nat.add_left_cancel counted
        obtain ⟨returned, closed, bytes, holds, refines, small⟩ := deleting.done
        have fewer : (log.take (log.length - num)).length ≤ log.length := List.length_take_le' ..
        obtain ⟨limit, left, session, counted, endsWith⟩ :=
          adding.endsWith fs holds kept refines (by omega) small
        obtain ⟨next, session', left', stepped, sameSecond, sameOwn, counted, later⟩ :=
          goes counted endsWith
        exact ⟨next, stepped, .last (show 3 ≤ adds + 1 by omega) rfl counted
          (sameSecond.trans returned) later⟩
  | adding read none_yet counted adding second closed =>
    obtain ⟨next, session', left', stepped, sameSecond, sameOwn, counted, later⟩ :=
      goes counted adding
    exact ⟨next, stepped, .adding (Nat.le_succ_of_le read) none_yet counted later
      (sameSecond.trans second) (sameOwn ▸ closed)⟩
  | deleting added counted first deleting => exact absurd added (Nat.ne_of_lt allowed)
  | last read deleted counted second adding =>
    obtain ⟨next, session', left', stepped, sameSecond, sameOwn, counted, later⟩ :=
      goes counted adding
    exact ⟨next, stepped, .last (Nat.le_succ_of_le read) deleted counted
      (sameSecond.trans second) later⟩

/-- A call of the deletion. -/
theorem Stage.second (stage : Stage fs log info num size race progress)
    (allowed : progress.Allows .second) (apart : progress.Apart .second) : ∃ next,
    race.step fs.handle .second = some next ∧
      Stage fs log info num size next (progress.next .second) := by
  obtain ⟨adds, dels⟩ := progress
  have allowed : dels < 6 := allowed
  -- the deletion goes on alone, behind the addition
  have goes {limit left : Nat} {session : Session} (added : adds = 8) (counted : dels + left = 6)
      (first : race.first = .ret (0, info.withCrc))
      (endsWith : EndsWith fs limit left race.second 0 (race.shared, race.secondOwn) session
        ((log ++ [info.withCrc]).take (log.length + 1 - num))) :
      ∃ next, race.step fs.handle .second = some next ∧
        Stage fs log info num size next (Progress.next ⟨adds, dels⟩ .second) := by
    obtain ⟨left, rfl⟩ := Nat.exists_eq_add_of_le' (show 1 ≤ left by omega)
    obtain ⟨op, next, result, after, session', called, handled, later, -⟩ := endsWith.step
    exact ⟨_, Race.step_second_call called handled,
      .deleting added (show dels + 1 + left = 6 by omega) first later⟩
  cases stage with
  | @early left session few adding kept counted same deleting unread =>
    have counted : dels + left = 6 := counted
    obtain ⟨left, rfl⟩ := Nat.exists_eq_add_of_le' (show 1 ≤ left by omega)
    obtain ⟨op, next, result, after, session', called, handled, later, steady, sizes⟩ :=
      deleting.step
    have length : session'.bytes.length = size := (steady same.ge).trans same
    have size' : after.1.size = size := sizes.elim (·.trans kept) (·.trans length)
    exact ⟨_, Race.step_second_call called handled,
      .early few adding size' (show dels + 1 + left = 6 by omega) length later
      fun none_yet => absurd none_yet (Nat.succ_ne_zero dels)⟩
  | @adding limit left session read none_yet counted adding second closed =>
    have read : 3 ≤ adds := read
    have none_yet : dels = 0 := none_yet
    obtain rfl : adds = 8 := by
      rcases apart with less | done
      · exact absurd (show adds ≤ 2 from less) (by omega)
      · exact done
    obtain rfl : left = 0 := Nat.add_left_cancel counted
    obtain ⟨returned, -, bytes, holds, refines, small⟩ := adding.done
    obtain ⟨final, ends, after⟩ :=
      @attRecordDel_ends bytes.length bytes _ refines num small (Nat.le_refl _)
    rw [List.length_append, List.length_singleton] at after
    have deleting : EndsWith fs bytes.length 6 race.second 0 (race.shared, race.secondOwn)
        (.shut bytes)
        ((log ++ [info.withCrc]).take (log.length + 1 - num)) :=
      ⟨⟨closed, holds⟩, final, second ▸ ends, after⟩
    exact goes rfl (show dels + 6 = 6 by omega) returned deleting
  | deleting added counted first deleting => exact goes added counted first deleting
  | last read deleted counted second adding => exact absurd deleted (Nat.ne_of_lt allowed)

theorem Stage.advances (room : 8 + 53 * (log.length + 1) < 2 ^ 31) {turn : Turn}
    (stage : Stage fs log info num size race progress)
    (apart : progress.Allows turn ∧ progress.Apart turn) : ∃ next,
    race.step fs.handle turn = some next ∧
      Stage fs log info num size next (progress.next turn) := by
  cases turn with
  | first => exact stage.first room apart.1 apart.2
  | second => exact stage.second apart.1 apart.2

/-- Behind their last calls the programs have returned. -/
theorem Stage.allows {turn : Turn} {next : AttRace}
    (stage : Stage fs log info num size race progress)
    (stepped : race.step fs.handle turn = some next) : progress.Allows turn := by
  obtain ⟨adds, dels⟩ := progress
  by_contra made
  have stuck (returned : race.step fs.handle turn = none) : False := by
    rw [returned] at stepped
    cases stepped
  cases turn with
  | first =>
    have made : 8 ≤ adds := Nat.le_of_not_lt made
    cases stage with
    | early few => exact absurd (show adds ≤ 2 from few) (by omega)
    | @adding limit left session read none_yet counted adding =>
      have counted : adds + left = 8 := counted
      obtain rfl : left = 0 := by omega
      exact stuck (Race.step_first_ret adding.done.1)
    | deleting added counted first => exact stuck (Race.step_first_ret first)
    | @last limit left session read deleted counted second adding =>
      have counted : adds + left = 8 := counted
      obtain rfl : left = 0 := by omega
      exact stuck (Race.step_first_ret adding.done.1)
  | second =>
    have made : 6 ≤ dels := Nat.le_of_not_lt made
    cases stage with
    | @early left session few adding kept counted same deleting =>
      have counted : dels + left = 6 := counted
      obtain rfl : left = 0 := by omega
      exact stuck (Race.step_second_ret deleting.done.1)
    | adding read none_yet => exact absurd (show dels = 0 from none_yet) (by omega)
    | @deleting limit left session added counted first deleting =>
      have counted : dels + left = 6 := counted
      obtain rfl : left = 0 := by omega
      exact stuck (Race.step_second_ret deleting.done.1)
    | last read deleted counted second => exact stuck (Race.step_second_ret second)

theorem Stage.step (room : 8 + 53 * (log.length + 1) < 2 ^ 31) {turn : Turn} {next : AttRace}
    (stage : Stage fs log info num size race progress) (apart : progress.Apart turn)
    (stepped : race.step fs.handle turn = some next) : Stage fs log info num size next
      (progress.next turn) := by
  obtain ⟨after, reached, later⟩ := stage.advances room ⟨stage.allows stepped, apart⟩
  cases Option.some.inj (stepped.symm.trans reached)
  exact later

/-- What is left when both have returned. -/
theorem Stage.final (room : 8 + 53 * (log.length + 1) < 2 ^ 31)
    (stage : Stage fs log info num size race progress) (finished : race.Finished) :
    ∃ left, race.shared.Holds left ∧
      (Refines left ((log ++ [info.withCrc]).take (log.length + 1 - num)) ∨
        Refines left (log.take (log.length - num) ++ [info.withCrc])) := by
  obtain ⟨⟨added, first⟩, removed, second⟩ := finished
  cases stage with
  | early few adding kept counted same deleting =>
    -- the addition still has to read
    obtain ⟨final, ends, -⟩ := deleting.ends
    rw [second] at ends
    obtain ⟨rfl, -⟩ := ends.ret
    obtain ⟨-, -, bytes, holds, refines, small⟩ := deleting.done
    have fewer : (log.take (log.length - num)).length ≤ log.length := List.length_take_le' ..
    obtain ⟨limit, left, session, counted, endsWith⟩ :=
      adding.endsWith fs holds kept refines (by omega) small
    obtain ⟨final, ends, -⟩ := endsWith.ends
    rw [first] at ends
    obtain ⟨rfl, -⟩ := ends.ret
    exact absurd counted (by omega)
  | adding read none_yet counted adding unread =>
    rw [unread] at second
    cases second
  | deleting at_end counted returned deleting =>
    obtain ⟨final, ends, -⟩ := deleting.ends
    rw [second] at ends
    obtain ⟨rfl, -⟩ := ends.ret
    obtain ⟨-, -, bytes, holds, refines, small⟩ := deleting.done
    exact ⟨bytes, holds, .inl refines⟩
  | last read deleted counted returned adding =>
    obtain ⟨final, ends, -⟩ := adding.ends
    rw [first] at ends
    obtain ⟨rfl, -⟩ := ends.ret
    obtain ⟨-, -, bytes, holds, refines, small⟩ := adding.done
    exact ⟨bytes, holds, .inr refines⟩

theorem Stage.start {vol : Volume} {bytes : List Byte} (holds : vol.Holds bytes)
    (held : Refines bytes log) (small : bytes.length + 53 < 2 ^ 32) (first second : Fil) :
    Stage fs log info num vol.size (attRace vol first second info num) .start := by
  obtain ⟨final, ends, after⟩ :=
    @attRecordDel_ends bytes.length bytes log held num small (Nat.le_refl _)
  have deleting : EndsWith fs vol.size 6 (attRecordDel num) 0 (vol, { second with isOpen := false })
      (.shut bytes)
      (log.take (log.length - num)) := ⟨⟨rfl, holds⟩, final, holds.size ▸ ends, after⟩
  exact .early (show 0 ≤ 2 by decide) (.shut rfl) rfl (show 0 + 6 = 6 by decide)
    (show (Session.shut bytes).bytes.length = _ from holds.size.symm) deleting
    fun _ => ⟨rfl, rfl, bytes, holds, held, small⟩

end Steps

/-! ## Whole runs -/

section Race

variable {fs : Fatfs} {vol : Volume} {bytes : List Byte} {log : List AttInfo} {first second : Fil}
  {info : AttInfo} {num : Nat} {schedule : List Turn} {race : AttRace}

/-- An addition and a deletion, each on a descriptor of its own, whose calls on the log file come
in any order leave what one of them leaves after the other, when the deletion makes no call
between the addition's read of the header and its close, and the addition at most opens the file
and seeks to its start while the deletion has it open. -/
theorem attRace_serial (holds : vol.Holds bytes) (held : Refines bytes log)
    (room : 8 + 53 * (log.length + 1) < 2 ^ 31) (small : bytes.length + 53 < 2 ^ 32)
    (apart : MovesMeet (fun progress turn => some (Progress.next progress turn)) Progress.Apart
      .start schedule)
    (ran : runMoves (Race.step fs.handle) (attRace vol first second info num) schedule = some race)
    (finished : race.Finished) : ∃ left, race.shared.Holds left ∧
      (Refines left ([AttCommand.add info, .del num].foldl AttCommand.effect log) ∨
        Refines left ([AttCommand.del num, .add info].foldl AttCommand.effect log)) := by
  have addDel : [AttCommand.add info, .del num].foldl AttCommand.effect log =
      (log ++ [info.withCrc]).take (log.length + 1 - num) := by
    simp only [List.foldl_cons, List.foldl_nil, AttCommand.effect, List.length_append,
      List.length_singleton]
  have delAdd : [AttCommand.del num, .add info].foldl AttCommand.effect log =
      log.take (log.length - num) ++ [info.withCrc] := rfl
  rw [addDel, delAdd]
  have stage :=
    runMoves_follows (Stage.step room) (Stage.start holds held small first second) apart ran
  exact stage.final room finished

/-- Both have returned when all their calls are made. -/
theorem Stage.finished {size : Nat} (stage : Stage fs log info num size race ⟨8, 6⟩) :
    race.Finished := by
  cases stage with
  | early few => exact absurd (show 8 ≤ 2 from few) (by decide)
  | adding read none_yet => exact absurd (show 6 = 0 from none_yet) (by decide)
  | @deleting limit left session added counted first deleting =>
    obtain rfl : left = 0 := Nat.add_left_cancel counted
    exact ⟨⟨_, first⟩, _, deleting.done.1⟩
  | @last limit left session read deleted counted second adding =>
    obtain rfl : left = 0 := Nat.add_left_cancel counted
    exact ⟨⟨_, adding.done.1⟩, _, second⟩

end Race

/-- The addition opens the file, the deletion opens it, the addition seeks to the start, the
deletion does the rest of its work, and then the addition does. -/
theorem attRace_serial_within : ∃ (fs : Fatfs) (vol : Volume) (fp : Fil) (race : AttRace),
    runMoves (Race.step fs.handle) (attRace vol fp fp (.zero 53) 1)
      ([.first, .second, .first] ++ List.replicate 5 .second ++ List.replicate 6 .first) =
        some race ∧
      ∃ left, race.shared.Holds left ∧
        (Refines left ([AttCommand.add (.zero 53), .del 1].foldl AttCommand.effect
          [AttInfo.withCrc (.zero 53)]) ∨
          Refines left ([AttCommand.del 1, .add (.zero 53)].foldl AttCommand.effect
            [AttInfo.withCrc (.zero 53)])) := by
  let fs : Fatfs := ⟨512, 8, by decide, by decide⟩
  let fp : Fil := ⟨false, 0, 0, none, fun _ => 0#8, false, false⟩
  let schedule : List Turn :=
    [.first, .second, .first] ++ List.replicate 5 .second ++ List.replicate 6 .first
  have allowed : MovesMeet (fun progress turn => some (Progress.next progress turn))
      (fun progress turn => progress.Allows turn ∧ progress.Apart turn) .start schedule := by decide
  have apart : MovesMeet (fun progress turn => some (Progress.next progress turn)) Progress.Apart
      .start schedule := by decide
  have start :=
    @Stage.start fs _ (.zero 53) 1 _ _ (Volume.holds_of _) Refines.single (by decide) fp fp
  obtain ⟨race, ran, stage⟩ := runMoves_simulates (Stage.advances (by decide)) start allowed
  exact ⟨fs, _, fp, race, ran,
    attRace_serial (Volume.holds_of _) Refines.single (by decide) (by decide) apart ran
      stage.finished⟩

theorem Volume.Holds.total {vol : Volume} {left : List Byte} {log : List AttInfo}
    (holds : vol.Holds left) (refines : Refines left log) :
    leValue ((List.range 4).map vol.cells) = log.length := by
  have inside := refines.inside
  have picked : ∀ k < 4, vol.cells k = left.getD (0 + k) 0#8 := fun k bound => by
    rw [Nat.zero_add]
    exact holds.cells k (by omega)
  have header : window (window left 0 8) 0 4 = window left 0 4 := window_window left (by decide)
  rw [← refines.total, AttHeader.total, Image.num, Image.field, Image.stored, header,
    window_inside (by omega),
    Fatfs.map_range_eq picked (by omega)]

/-- The deletion reads the header, the addition runs, and the deletion writes the header:
the added record is lost with the one that was deleted. -/
theorem attRace_lost :
    ¬ ∀ (fs : Fatfs) (vol : Volume) (bytes : List Byte) (log : List AttInfo) (first second : Fil)
    (info : AttInfo) (num : Nat) (schedule : List Turn) (race : AttRace),
    vol.Holds bytes → Refines bytes log →
    8 + 53 * (log.length + 1) < 2 ^ 31 → bytes.length + 53 < 2 ^ 32 →
    runMoves (Race.step fs.handle) (attRace vol first second info num) schedule = some race →
    race.Finished →
    ∃ left, race.shared.Holds left ∧
      (Refines left ([AttCommand.add info, .del num].foldl AttCommand.effect log) ∨
        Refines left ([AttCommand.del num, .add info].foldl AttCommand.effect log)) := by
  intro serial
  let bytes :=
    splice (splice (AttHeader.withCrc (.zero 8)).bytes 8 (AttInfo.withCrc (.zero 53)).bytes) 0
      (AttHeader.withCrc (.setTotal (.stored 8 (AttHeader.withCrc (.zero 8)).bytes 0) 1)).bytes
  let fp : Fil := ⟨false, 0, 0, none, fun _ => 0#8, false, false⟩
  let schedule : List Turn :=
    List.replicate 3 .second ++ List.replicate 8 .first ++ List.replicate 3 .second
  have lost : (runMoves (Race.step (Fatfs.handle ⟨512, 8, by decide, by decide⟩))
      (attRace (.of bytes) fp fp (.zero 53) 1) schedule).any fun race =>
        decide race.Finished && leValue ((List.range 4).map race.shared.cells) == 0 := by
    decide +kernel
  obtain ⟨race, ran, ended⟩ := Option.any_eq_true _ _ |>.mp lost
  rw [Bool.and_eq_true, decide_eq_true_eq, beq_iff_eq] at ended
  obtain ⟨left, holds, outcome⟩ :=
    serial _ _ _ _ _ _ _ _ _ _ (Volume.holds_of bytes) Refines.single (by decide)
      (by decide) ran ended.1
  rcases outcome with kept | kept
  · exact absurd (ended.2.symm.trans (holds.total kept)) (by decide)
  · exact absurd (ended.2.symm.trans (holds.total kept)) (by decide)

end WifiAccess

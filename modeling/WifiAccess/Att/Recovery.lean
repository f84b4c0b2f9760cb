import WifiAccess.Att.Refinement
import WifiAccess.Base.Ensures

/-! The log after a power failure or failed calls: what `att_record_add` may leave,
and what `att_database_init` makes of it. -/

namespace WifiAccess

open FileProg

section HeaderSpecs

variable {Holds : List Byte → Prop} {file : FileState}

theorem ensures_headerGet (holds : Holds file.bytes) (header : AttHeader)
    (inside : 8 ≤ file.bytes.length) :
    Ensures Holds (fdRecordHeaderGetSet header getRecord) file fun result next =>
      next.bytes = file.bytes ∧ (result.1 = 0 → result.2 = .stored 8 file.bytes 0) := by
  unfold fdRecordHeaderGetSet
  refine (Ensures.lseek holds (by rwa [grow_zero])).bind fun moved middle ⟨stayed, placed⟩ => ?_
  cases moved with
  | false => exact .ret (stayed rfl ▸ holds) ⟨stayed rfl, fun done => by simp at done⟩
  | true =>
    obtain ⟨_, start, same⟩ := placed rfl
    rw [grow_zero] at same
    have kept : Holds middle.bytes := same ▸ holds
    refine (Ensures.read kept 8).bind fun got next ⟨unchanged, delivered⟩ => ?_
    have last : next.bytes = file.bytes := unchanged.trans same
    have still : Holds next.bytes := last ▸ holds
    refine .ite (fun _ => .ret still ⟨last, fun done => by simp at done⟩) fun whole => ?_
    have all : got = window file.bytes 0 8 := by
      rcases delivered with whole_read | none_read
      · rw [whole_read, same, start, window_inside (by omega)]
      · simp [none_read] at whole
    refine .ite (fun _ => .ret still ⟨last, fun _ => ?_⟩) fun _ =>
      .ret still ⟨last, fun done => by simp at done⟩
    simp only [all, Image.load_window]

theorem ensures_headerSet (holds : Holds file.bytes) (header : AttHeader)
    (written : Holds (splice file.bytes 0 header.withCrc.bytes)) :
    Ensures Holds (fdRecordHeaderGetSet header setRecord) file fun result next => Holds next.bytes ∧
      (result.1 = 0 → next.bytes = splice file.bytes 0 header.withCrc.bytes) := by
  unfold fdRecordHeaderGetSet
  refine (Ensures.lseek holds (by rwa [grow_zero])).bind fun moved middle ⟨stayed, placed⟩ => ?_
  cases moved with
  | false =>
    have kept : Holds middle.bytes := stayed rfl ▸ holds
    exact .ret kept ⟨kept, fun done => by simp at done⟩
  | true =>
    obtain ⟨_, start, same⟩ := placed rfl
    rw [grow_zero] at same
    have kept : Holds middle.bytes := same ▸ holds
    have replaced : splice middle.bytes middle.pos header.withCrc.bytes =
        splice file.bytes 0 header.withCrc.bytes := by
      rw [start, same]
    refine (Ensures.write kept (replaced ▸ written)).bind fun count next outcome => ?_
    rcases outcome with ⟨whole, stored⟩ | ⟨none_written, unchanged⟩
    · have last := stored.trans replaced
      exact .ite (fun short => (short (by rw [whole]; simp)).elim) fun _ =>
        .ret (last ▸ written) ⟨last ▸ written, fun _ => last⟩
    · have last : Holds next.bytes := unchanged ▸ kept
      exact .ite (fun _ => .ret last ⟨last, fun done => by simp at done⟩) fun short =>
        (short (by rw [none_written]; decide)).elim

end HeaderSpecs

/-! ## Adding a record -/

/-- The log with or without the record. -/
def Atomic (log : List AttInfo) (info : AttInfo) (bytes : List Byte) : Prop :=
  Refines bytes log ∨ Refines bytes (log ++ [info.withCrc])

/-- At every moment the file holds the old log or the new one, and the new one if the
call reports success. -/
theorem ensures_attRecordAdd {file : FileState} {log : List AttInfo} (held : Refines file.bytes log)
    (info : AttInfo) (size : file.bytes.length < 2 ^ 32) :
    Ensures (Atomic log info) (attRecordAdd info) file fun result next =>
      result.1 = 0 → Refines next.bytes (log ++ [info.withCrc]) := by
  have room := held.inside
  unfold attRecordAdd
  refine (Ensures.openCreate (.inl held)).bind fun opened first ⟨same, _⟩ => ?_
  have holds : Atomic log info first.bytes := same ▸ .inl held
  refine .ite (fun _ => ?_) fun _ => .ret holds fun done => by simp at done
  refine (ensures_headerGet holds (.zero 8) (by rw [same]; omega)).bind fun (status, header) second
    ⟨kept, loaded⟩ => ?_
  have unchanged : second.bytes = file.bytes := kept.trans same
  have holds : Atomic log info second.bytes := unchanged ▸ .inl held
  refine .ite (fun _ => (Ensures.close holds).bind fun _ last closed =>
    .ret (closed ▸ holds) fun done => by simp at done)
    fun ok => ?_
  obtain rfl : header = .stored 8 file.bytes 0 := by
    rw [← same]
    exact loaded (not_not.mp ok)
  have addr : recordAddr (AttHeader.total (.stored 8 file.bytes 0)) = 8 + 53 * log.length := by
    rw [held.total, recordAddr]
    omega
  have grown : Atomic log info (grow second.bytes (8 + 53 * log.length)) := by
    rw [unchanged]
    exact .inl (held.grown _)
  rw [addr]
  refine (Ensures.lseek holds grown).bind fun moved third ⟨stayed, placed⟩ => ?_
  cases moved with
  | false =>
    have holds : Atomic log info third.bytes := stayed rfl ▸ holds
    exact (Ensures.close holds).bind fun _ last closed =>
      .ret (closed ▸ holds) fun done => by simp at done
  | true =>
    obtain ⟨small, start, same⟩ := placed rfl
    have holds : Atomic log info third.bytes := same ▸ grown
    have behind : splice third.bytes third.pos info.withCrc.bytes =
        splice file.bytes (8 + 53 * log.length) info.withCrc.bytes := by
      rw [same, start, unchanged, splice_grow]
    have recorded : Refines (splice file.bytes (8 + 53 * log.length) info.withCrc.bytes) log :=
      held.behind info.withCrc.bytes (Nat.le_refl _)
    refine (Ensures.write holds (behind ▸ .inl recorded)).bind fun count fourth outcome => ?_
    rcases outcome with ⟨whole, stored⟩ | ⟨none_written, lost⟩
    · have stored := stored.trans behind
      refine .ite (fun short => (short (by rw [whole]; simp)).elim) fun _ => ?_
      have counted := held.appended info (by omega)
      rw [held.total]
      refine (ensures_headerSet (stored ▸ .inl recorded) _
        (by rw [stored]; exact .inr counted)).bind
        fun (status, _) fifth ⟨atomic, done⟩ => (Ensures.close atomic).bind fun _ last closed =>
          .ret (closed ▸ atomic) ?_
      intro success
      have zero : status = 0 := by
        by_contra failed
        simp [failed] at success
      rw [closed, done zero, stored]
      exact counted
    · have holds : Atomic log info fourth.bytes := lost ▸ holds
      exact .ite (fun _ => (Ensures.close holds).bind fun _ last closed =>
        .ret (closed ▸ holds) fun done => by simp at done)
        fun short => (short (by rw [none_written]; decide)).elim

/-- `att_database_init` succeeds and leaves a file that holds this log under the header
in RAM. -/
def Recovers (ram : AttHeader) (content : Option (List Byte)) (log : List AttInfo) : Prop :=
  ∃ next, (attDatabaseInit ram).exec content = ((0, .stored 8 next 0), some next) ∧ Refines next log

/-- A file that holds a log is recovered as it is. -/
theorem Refines.recovers {content : Option (List Byte)} {log : List AttInfo}
    (held : Refines (content.getD []) log) (ram : AttHeader) : Recovers ram content log := by
  have room := held.inside
  have loaded : ram.load ((content.getD []).take 8) = .stored 8 (content.getD []) 0 := by
    rw [← Image.load_window ram (content.getD []) 0, window_inside (by omega), List.drop_zero]
  have ran := attDatabaseInit_valid 0 true ram content (by rw [loaded]; exact held.valid)
  rw [loaded] at ran
  refine ⟨content.getD [], ?_, held⟩
  rw [FileProg.exec, FileState.fresh, ran]

/-- However `att_record_add` is cut short, and whichever of its calls fail, the log is
recovered with the record or without it, and with it after a success. The size of a
file fits in 32 bits. -/
theorem attRecordAdd_crash {bytes : List Byte} {log : List AttInfo} (held : Refines bytes log)
    (size : bytes.length < 2 ^ 32) (info : AttInfo) (ram : AttHeader) (faults : List Bool)
    (count : Nat) :
    let stopped := ((attRecordAdd info).cut FileState.attempt count (.fresh (some bytes), faults)).1
    let ran := (attRecordAdd info).attempt (.fresh (some bytes)) faults
    (Recovers ram stopped.content log ∨ Recovers ram stopped.content (log ++ [info.withCrc])) ∧
      (Recovers ram ran.2.1.content log ∨ Recovers ram ran.2.1.content (log ++ [info.withCrc])) ∧
      (ran.1.1 = 0 → Recovers ram ran.2.1.content (log ++ [info.withCrc])) := by
  intro stopped ran
  have start : Refines (FileState.fresh (some bytes)).bytes log := held
  have ensured := ensures_attRecordAdd start info size
  refine ⟨?_, ?_, fun success => ((ensured faults).2 success).recovers ram⟩
  · exact (ensured.cut count faults).imp (fun old => old.recovers ram) fun new => new.recovers ram
  · exact ((ensured faults).1.run FileState.attempt).imp (fun old => old.recovers ram) fun new =>
      new.recovers ram

/-- The power fails between the two writes, on a log of one record. -/
theorem attRecordAdd_crash_between : ∃ bytes, Refines bytes [AttInfo.withCrc (.zero 53)] ∧
    let stopped :=
  ((attRecordAdd (.put (.zero 53) 0 [2#8])).cut FileState.attempt 6 (.fresh (some bytes), [])).1
    Recovers (.zero 8) stopped.content [AttInfo.withCrc (.zero 53)] ∨
      Recovers (.zero 8) stopped.content [AttInfo.withCrc (.zero 53),
        AttInfo.withCrc (.put (.zero 53) 0 [2#8])] :=
  ⟨_, Refines.single,
    (attRecordAdd_crash Refines.single (by simp only [length_splice, Image.length_bytes]; decide)
      (.put (.zero 53) 0 [2#8])
      (.zero 8) [] 6).1⟩

/-! ## Starting up -/

/-- A header whose CRC is right at the start of the file. -/
def HasHeader (bytes : List Byte) : Prop := 8 ≤ bytes.length ∧ AttHeader.Valid (.stored 8 bytes 0)

/-- What a start with this outcome owes: after a success the file has a header, the one
in RAM, and records can be added; a file that had one is unchanged. -/
structure Established (content : Option (List Byte)) (ran : (Int × AttHeader) × FileState) :
    Prop where
  header : ran.1.1 = 0 → HasHeader ran.2.bytes ∧ ran.1.2 = .stored 8 ran.2.bytes 0
  adds : ran.1.1 = 0 → 8 + 53 * ran.1.2.total < 2 ^ 31 →
    ∀ info, ((attRecordAdd info).exec ran.2.content).1.1 = 0
  unchanged : HasHeader (content.getD []) → ran.2.bytes = content.getD []

/-- The bytes that the read of the header delivers. -/
def headerRead (bytes : List Byte) (faults : List Bool) : List Byte :=
  if faults.getD 2 false then [] else bytes.take 8

/-- The header that is tested: those bytes over what the caller's struct held. -/
def headerTested (ram : AttHeader) (bytes : List Byte) (faults : List Bool) : AttHeader :=
  ram.load (headerRead bytes faults)

section Outcomes

variable (ram : AttHeader) (content : Option (List Byte)) (faults : List Bool)

/-- `open` or the first seek fails. -/
theorem attDatabaseInit_unread (fails : faults.getD 0 false = true ∨ faults.getD 1 false = true) :
    ((attDatabaseInit ram).attempt (.fresh content) faults).1.1 = -1 ∧
      ((attDatabaseInit ram).attempt (.fresh content) faults).2.1.bytes = content.getD [] := by
  unfold attDatabaseInit
  cases opens : faults.getD 0 false with
  | true =>
    simp only [attempt_bind, openCreate_outcome, opens, ↓reduceIte, Bool.false_eq_true,
      close_outcome, attempt_pure]
    refine ⟨trivial, ?_⟩
    split <;> rfl
  | false =>
    have seeks : faults.getD 1 false = true := by
      simpa only [opens, Bool.false_eq_true, false_or] using fails
    simp only [attempt_bind, openCreate_outcome, opens, ↓reduceIte, Bool.false_eq_true,
      FileState.getD_tail,
      lseek_outcome _ _ (show 0 < 2 ^ 31 by decide), seeks, close_outcome, attempt_pure]
    refine ⟨trivial, ?_⟩
    split <;> rfl

/-- Behind the read of the header. -/
private theorem attDatabaseInit_read (opens : faults.getD 0 false = false)
    (seeks : faults.getD 1 false = false) :
    let tested := headerTested ram (content.getD []) faults
    ∃ file, file.content = some (content.getD []) ∧
      (attDatabaseInit ram).attempt (.fresh content) faults =
      FileProg.attempt (do
        if tested.computedCrc ≠ tested.crc then
          let header : AttHeader := (tested.setTotal 0).withCrc
          if ← lseek 0 then
            if (← write header.bytes) ≠ 8 then
              close
              return (-1, header)
            else
              close
              return (0, header)
          else
            close
            return (-1, header)
        else
          close
          return (0, tested)) file faults.tail.tail.tail := by
  have opened : openCreate.attempt (.fresh content) faults =
      (true, ⟨some (content.getD []), 0, true⟩, faults.tail) := by
    rw [openCreate_outcome, opens]
    rfl
  have moved : (lseek 0).attempt ⟨some (content.getD []), 0, true⟩ faults.tail =
      (true, ⟨some (content.getD []), 0, true⟩, faults.tail.tail) := by
    rw [lseek_outcome _ _ (by decide), FileState.getD_tail, seeks, grow_zero]
    rfl
  have fetched : ∃ next, (FileProg.read 8).attempt ⟨some (content.getD []), 0, true⟩
      faults.tail.tail =
      (headerRead (content.getD []) faults, next, faults.tail.tail.tail) ∧
        next.content = some (content.getD []) := by
    rw [read_outcome, FileState.getD_tail, FileState.getD_tail, headerRead]
    cases faults.getD 2 false with
    | true => exact ⟨_, rfl, rfl⟩
    | false => exact ⟨_, rfl, rfl⟩
  obtain ⟨next, delivered, kept⟩ := fetched
  refine ⟨next, kept, ?_⟩
  unfold attDatabaseInit
  simp only [attempt_bind, opened, moved, delivered, ↓reduceIte]
  rfl

/-- A header that passes its test stays. -/
theorem attDatabaseInit_kept (opens : faults.getD 0 false = false)
    (seeks : faults.getD 1 false = false)
    (valid : (headerTested ram (content.getD []) faults).Valid) :
    ((attDatabaseInit ram).attempt (.fresh content) faults).1 =
      (0, headerTested ram (content.getD []) faults) ∧
      ((attDatabaseInit ram).attempt (.fresh content) faults).2.1.content =
        some (content.getD []) := by
  have same : (headerTested ram (content.getD []) faults).computedCrc =
      (headerTested ram (content.getD []) faults).crc := valid
  obtain ⟨file, kept, reached⟩ := attDatabaseInit_read ram content faults opens seeks
  rw [reached]
  simp only [same, ne_eq, not_true_eq_false, ↓reduceIte, attempt_bind, close_outcome,
    attempt_pure, true_and]
  split <;> exact kept

/-- A header that fails its test is replaced by that of an empty log, unless the seek
or the write fails. -/
theorem attDatabaseInit_renewed (opens : faults.getD 0 false = false)
    (seeks : faults.getD 1 false = false)
    (invalid : ¬ (headerTested ram (content.getD []) faults).Valid) :
    let ran := (attDatabaseInit ram).attempt (.fresh content) faults
    let empty := ((headerTested ram (content.getD []) faults).setTotal 0).withCrc
    if faults.getD 3 false = true ∨ faults.getD 4 false = true then
      ran.1.1 = -1 ∧ ran.2.1.bytes = content.getD []
    else ran.1 = (0, empty) ∧ ran.2.1.content = some (splice (content.getD []) 0 empty.bytes) := by
  have differ : (headerTested ram (content.getD []) faults).computedCrc ≠
      (headerTested ram (content.getD []) faults).crc := invalid
  obtain ⟨file, kept, reached⟩ := attDatabaseInit_read ram content faults opens seeks
  have bytes : file.bytes = content.getD [] := by rw [FileState.bytes, kept, Option.getD_some]
  simp only [reached]
  simp only [differ, ne_eq, not_false_eq_true, ↓reduceIte, attempt_bind,
    lseek_outcome _ _ (show 0 < 2 ^ 31 by decide),
    FileState.getD_tail, Nat.reduceAdd, grow_zero]
  cases third : faults.getD 3 false with
  | true =>
    simp only [true_or, ↓reduceIte, Bool.false_eq_true, attempt_bind, close_outcome,
      attempt_pure, true_and]
    split <;> exact bytes
  | false =>
    simp only [Bool.false_eq_true, ↓reduceIte, false_or, attempt_bind, write_outcome,
      FileState.getD_tail, Nat.reduceAdd]
    cases fourth : faults.getD 4 false with
    | true =>
      have short : ¬ 0 = 8 := by decide
      simp only [short, ↓reduceIte, not_false_eq_true, attempt_bind, close_outcome,
        attempt_pure, true_and]
      split <;> exact bytes
    | false =>
      simp only [Bool.false_eq_true, ↓reduceIte, Image.length_bytes, not_true_eq_false,
        attempt_bind, close_outcome,
        attempt_pure, true_and]
      have stored : FileState.bytes { file with content := some file.bytes, pos := 0 } =
          content.getD [] := bytes
      rw [stored]
      split <;> rfl

end Outcomes

/-- Two headers that pass their test agree when their counts do. -/
theorem AttHeader.ext_total {first second : AttHeader} (one : first.Valid) (two : second.Valid)
    (same : first.total = second.total) : first = second := by
  have counts : first.field 0 4 = second.field 0 4 := leValue_inj (by simp) same
  have crcs : first.field 4 4 = second.field 4 4 := by
    apply leValue_inj (by simp)
    have left : first.prefixCrc 4 = first.num 4 4 := one
    have right : second.prefixCrc 4 = second.num 4 4 := two
    rw [Image.prefixCrc, counts] at left
    exact left.symm.trans right
  have whole (header : AttHeader) : header.bytes = header.field 0 4 ++ header.field 4 4 := by
    have all := window_all header.bytes
    rw [header.length_bytes] at all
    rw [← header.field_add 0 4 4]
    exact all.symm
  apply Image.ext
  rw [whole first, whole second, counts, crcs]

theorem hasHeader_splice {header : AttHeader} (valid : header.Valid) (bytes : List Byte) :
    HasHeader (splice bytes 0 header.bytes) ∧
      Image.stored 8 (splice bytes 0 header.bytes) 0 = header := by
  have stored : Image.stored 8 (splice bytes 0 header.bytes) 0 = header :=
    header.stored_splice bytes 0
  refine ⟨⟨?_, ?_⟩, stored⟩
  · rw [length_splice, header.length_bytes]
    omega
  · rwa [stored]

/-- With a header in the file a record can be added. -/
theorem HasHeader.adds {bytes : List Byte} (header : HasHeader bytes)
    (small : 8 + 53 * AttHeader.total (.stored 8 bytes 0) < 2 ^ 31) (info : AttInfo) :
    ((attRecordAdd info).exec (some bytes)).1.1 = 0 := by
  rw [FileProg.exec, FileState.fresh, attRecordAdd_run 0 true info header.1 header.2 small]

/-- Writing the header of an empty log changes nothing if the file holds it already. -/
theorem splice_empty_iff {bytes : List Byte} (header : HasHeader bytes) {empty : AttHeader}
    (valid : empty.Valid) (none_counted : empty.total = 0) :
    splice bytes 0 empty.bytes = bytes ↔ AttHeader.total (.stored 8 bytes 0) = 0 := by
  constructor
  · intro same
    rw [← same, (hasHeader_splice valid bytes).2, none_counted]
  · intro counted
    have equal : empty = .stored 8 bytes 0 :=
      AttHeader.ext_total valid header.2 (none_counted.trans counted.symm)
    have kept := splice_window bytes (show 0 + 8 ≤ bytes.length by have := header.1; omega)
    rw [equal]
    exact kept

/-! The condition for a start to keep what it owes. -/

/-- A read that delivers less than a header leaves one in RAM that passes its test only
if it is that of the file, and one that fails it only if the file has none, or counts no
record, or cannot be written. -/
def ReadSuffices (ram : AttHeader) (bytes : List Byte) (faults : List Bool) : Prop :=
  faults.getD 0 false = false → faults.getD 1 false = false → (headerRead bytes faults).length < 8 →
    if (headerTested ram bytes faults).Valid then
      HasHeader bytes ∧ headerTested ram bytes faults = .stored 8 bytes 0
    else HasHeader bytes → (faults.getD 3 false = true ∨ faults.getD 4 false = true) ∨
      AttHeader.total (.stored 8 bytes 0) = 0

/-- A whole header was read. -/
private theorem headerTested_whole {bytes : List Byte} {faults : List Bool} (ram : AttHeader)
    (whole : 8 ≤ (headerRead bytes faults).length) : 8 ≤ bytes.length ∧
      headerTested ram bytes faults = .stored 8 bytes 0 := by
  unfold headerTested
  cases delivered : faults.getD 2 false with
  | true =>
    simp only [headerRead, delivered, ↓reduceIte, List.length_nil] at whole
    omega
  | false =>
    simp only [headerRead, delivered, Bool.false_eq_true, ↓reduceIte, List.length_take] at whole ⊢
    refine ⟨by omega, ?_⟩
    rw [← Image.load_window ram bytes 0, window_inside (by omega), List.drop_zero]

theorem attDatabaseInit_established_iff (ram : AttHeader) (content : Option (List Byte))
    (faults : List Bool) :
    Established content (((attDatabaseInit ram).attempt (.fresh content) faults).1,
        ((attDatabaseInit ram).attempt (.fresh content) faults).2.1) ↔
          ReadSuffices ram (content.getD []) faults := by
  generalize ran : (attDatabaseInit ram).attempt (.fresh content) faults = result
  by_cases reads : faults.getD 0 false = false ∧ faults.getD 1 false = false
  swap
  · -- nothing is read, and the call fails
    have fails : faults.getD 0 false = true ∨ faults.getD 1 false = true := by
      cases opens : faults.getD 0 false
      · cases seeks : faults.getD 1 false
        · exact (reads ⟨opens, seeks⟩).elim
        · exact .inr rfl
      · exact .inl rfl
    have unread := attDatabaseInit_unread ram content faults fails
    rw [ran] at unread
    refine iff_of_true ⟨fun success => ?_, fun success => ?_, fun _ => unread.2⟩ fun opens seeks =>
      (reads ⟨opens, seeks⟩).elim
    · rw [unread.1] at success
      cases success
    · rw [unread.1] at success
      cases success
  obtain ⟨opens, seeks⟩ := reads
  by_cases valid : (headerTested ram (content.getD []) faults).Valid
  · obtain ⟨returned, kept⟩ := attDatabaseInit_kept ram content faults opens seeks valid
    rw [ran] at returned kept
    have bytes : result.2.1.bytes = content.getD [] := by
      rw [FileState.bytes, kept, Option.getD_some]
    simp only [ReadSuffices, opens, seeks, valid, ↓reduceIte, forall_const]
    constructor
    · intro established _
      have header := established.header (by rw [returned])
      rw [returned, bytes] at header
      exact header
    · intro enough
      have own : HasHeader (content.getD []) ∧ headerTested ram (content.getD []) faults =
          .stored 8 (content.getD []) 0 := by
        rcases Nat.lt_or_ge (headerRead (content.getD []) faults).length 8 with short | whole
        · exact enough short
        · obtain ⟨inside, same⟩ := headerTested_whole ram whole
          exact ⟨⟨inside, same ▸ valid⟩, same⟩
      refine ⟨fun _ => ?_, fun _ small info => ?_, fun _ => bytes⟩
      · rw [returned, bytes]
        exact own
      · rw [returned, own.2] at small
        rw [kept]
        exact own.1.adds small info
  · have renewed := attDatabaseInit_renewed ram content faults opens seeks valid
    simp only [ran] at renewed
    simp only [ReadSuffices, opens, seeks, valid, ↓reduceIte, forall_const]
    split at renewed
    · rename_i fails
      refine iff_of_true ⟨fun success => ?_, fun success => ?_, fun _ => renewed.2⟩ fun _ _ =>
        .inl fails
      · rw [renewed.1] at success
        cases success
      · rw [renewed.1] at success
        cases success
    · rename_i carried
      obtain ⟨returned, stored⟩ := renewed
      have intact :=
        AttHeader.valid_withCrc ((headerTested ram (content.getD []) faults).setTotal 0)
      have counted : ((headerTested ram (content.getD []) faults).setTotal 0).withCrc.total = 0 :=
        AttHeader.total_setTotal _ (by decide)
      obtain ⟨header, written⟩ := hasHeader_splice intact (content.getD [])
      have bytes := congrArg (Option.getD · []) stored
      simp only [Option.getD_some] at bytes
      change result.2.1.bytes = _ at bytes
      constructor
      · intro established _ had
        have unchanged := established.unchanged had
        rw [bytes, splice_empty_iff had intact counted] at unchanged
        exact .inr unchanged
      · intro enough
        refine ⟨fun _ => ?_, fun _ small info => ?_, fun had => ?_⟩
        · rw [returned, bytes]
          exact ⟨header, written.symm⟩
        · rw [returned] at small
          rw [stored]
          exact header.adds (by rwa [written]) info
        · rw [bytes, splice_empty_iff had intact counted]
          rcases Nat.lt_or_ge (headerRead (content.getD []) faults).length 8 with short | whole
          · exact (enough short had).resolve_left carried
          · obtain ⟨_, same⟩ := headerTested_whole ram whole
            exact (valid (same ▸ had.2)).elim

/-- On a working disk that is to say: the file has the 8 bytes of a header, or the
bytes it has, over the header in RAM, do not pass for one. -/
theorem readSuffices_working (ram : AttHeader) (bytes : List Byte) :
    ReadSuffices ram bytes [] ↔ 8 ≤ bytes.length ∨ ¬ AttHeader.Valid (ram.load bytes) := by
  have read : headerRead bytes [] = bytes.take 8 := rfl
  unfold ReadSuffices headerTested
  rw [read]
  rcases Nat.lt_or_ge bytes.length 8 with short | whole
  · have none_there : ¬ HasHeader bytes := fun header => absurd header.1 (by omega)
    rw [List.take_of_length_le (by omega)]
    by_cases valid : AttHeader.Valid (ram.load bytes)
    · simp [valid, none_there, short]
    · simp [valid, none_there]
  · simp [whole]

/-- A start keeps what it owes under exactly these conditions, with failed calls and
without. -/
theorem attDatabaseInit_establishes (ram : AttHeader) (content : Option (List Byte)) :
    (∀ faults, Established content (((attDatabaseInit ram).attempt (.fresh content) faults).1,
        ((attDatabaseInit ram).attempt (.fresh content) faults).2.1) ↔
          ReadSuffices ram (content.getD []) faults) ∧
      (Established content ((attDatabaseInit ram).run (.fresh content)) ↔
        8 ≤ (content.getD []).length ∨ ¬ AttHeader.Valid (ram.load (content.getD []))) := by
  refine ⟨attDatabaseInit_established_iff ram content, ?_⟩
  rw [← readSuffices_working, ← attDatabaseInit_established_iff, attempt_ok]

/-- The file is missing, and the header in RAM is that of an empty log. -/
theorem attDatabaseInit_stale : ¬ ∀ (ram : AttHeader) (content : Option (List Byte)),
    Established content ((attDatabaseInit ram).run (.fresh content)) := by
  intro always
  have kept := (attDatabaseInit_establishes (AttHeader.withCrc (.zero 8)) none).2.mp (always _ none)
  have unread : (AttHeader.withCrc (.zero 8)).load ((none : Option (List Byte)).getD []) =
      AttHeader.withCrc (.zero 8) :=
    Image.put_nil _ 0
  rw [unread] at kept
  rcases kept with whole | invalid
  · exact absurd whole (by decide)
  · exact invalid (AttHeader.valid_withCrc _)

end WifiAccess

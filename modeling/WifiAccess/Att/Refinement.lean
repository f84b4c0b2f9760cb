import WifiAccess.Att.Database
import WifiAccess.Base.Run

/-! The log file refines a list of records: each operation of `att_database.c`
does to the file what a list operation does to the records it holds. -/

namespace WifiAccess

open FileProg

theorem AttHeader.total_lt (header : AttHeader) : header.total < 2 ^ 32 := header.num_lt 0 4

theorem AttHeader.valid_withCrc (header : AttHeader) : header.withCrc.Valid :=
  header.intactAt_sealAt (by decide)

theorem AttHeader.total_withCrc (header : AttHeader) : header.withCrc.total = header.total :=
  congrArg leValue (header.field_sealAt (by decide) (by decide))

theorem AttHeader.total_setTotal (header : AttHeader) {total : Nat} (fits : total < 2 ^ 32) :
    (header.setTotal total).withCrc.total = total := by
  rw [total_withCrc]
  exact header.num_put (by decide) fits

theorem AttInfo.valid_withCrc (info : AttInfo) : info.withCrc.Valid :=
  info.intactAt_sealAt (by decide)

/-! ## What each operation does to the file -/

section Specs

variable {bytes : List Byte} (pos : Nat) (full : Bool)

theorem fdRecordHeaderGetSet_get (header : AttHeader) (inside : 8 ≤ bytes.length) :
    (fdRecordHeaderGetSet header getRecord).run ⟨some bytes, pos, full⟩ =
      ((if AttHeader.Valid (.stored 8 bytes 0) then 0 else -1, .stored 8 bytes 0),
        ⟨some bytes, 8, full⟩) := by
  by_cases valid : AttHeader.Valid (.stored 8 bytes 0)
  · have same : AttHeader.crc (.stored 8 bytes 0) = AttHeader.computedCrc (.stored 8 bytes 0) :=
      valid.symm
    simp [fdRecordHeaderGetSet, run_lseek, FileState.bytes, getRecord, run_read_inside,
      inside, valid, same]
  · have differ : ¬ AttHeader.crc (.stored 8 bytes 0) = AttHeader.computedCrc (.stored 8 bytes 0) :=
      fun same => valid same.symm
    simp [fdRecordHeaderGetSet, run_lseek, FileState.bytes, getRecord, run_read_inside, inside,
      valid, differ]

theorem fdRecordHeaderGetSet_set (header : AttHeader) :
    (fdRecordHeaderGetSet header setRecord).run ⟨some bytes, pos, full⟩ =
      ((0, header.withCrc), ⟨some (splice bytes 0 header.withCrc.bytes), 8, full⟩) := by
  simp [fdRecordHeaderGetSet, run_lseek, FileState.bytes, setRecord, getRecord]

/-- With a valid header in the file the record goes behind the last one. -/
theorem attRecordAdd_run (info : AttInfo) (inside : 8 ≤ bytes.length)
    (valid : AttHeader.Valid (.stored 8 bytes 0))
    (small : 8 + 53 * AttHeader.total (.stored 8 bytes 0) < 2 ^ 31) :
    (attRecordAdd info).run ⟨some bytes, pos, full⟩ =
      ((0, info.withCrc),
        ⟨some (splice (splice bytes (8 + 53 * AttHeader.total (.stored 8 bytes 0))
          info.withCrc.bytes) 0
          (AttHeader.withCrc
            (.setTotal (.stored 8 bytes 0) (AttHeader.total (.stored 8 bytes 0) + 1))).bytes),
          8, full⟩) := by
  simp [attRecordAdd, fdRecordHeaderGetSet_get, fdRecordHeaderGetSet_set, run_lseek small,
    FileState.bytes,
    inside, valid, recordAddr_small small]

theorem attRecordDel_run (num : Nat) (inside : 8 ≤ bytes.length)
    (valid : AttHeader.Valid (.stored 8 bytes 0)) :
    (attRecordDel num).run ⟨some bytes, pos, full⟩ =
      (0, ⟨some (splice bytes 0
        (AttHeader.withCrc
          (.setTotal (.stored 8 bytes 0) (AttHeader.total (.stored 8 bytes 0) - num))).bytes),
        8, full⟩) := by
  have left : (if AttHeader.total (.stored 8 bytes 0) > num
      then AttHeader.total (.stored 8 bytes 0) - num
      else 0) = AttHeader.total (.stored 8 bytes 0) - num := by split <;> omega
  simp [attRecordDel, fdRecordHeaderGetSet_get, fdRecordHeaderGetSet_set, FileState.bytes,
    inside, valid, left]

/-- A header that passes its check, as loaded over the caller's, is left alone. -/
theorem attDatabaseInit_valid (header : AttHeader) (content : Option (List Byte))
    (valid : AttHeader.Valid (header.load ((content.getD []).take 8))) :
    (attDatabaseInit header).run ⟨content, pos, full⟩ =
      ((0, header.load ((content.getD []).take 8)),
        ⟨some (content.getD []), min 8 (content.getD []).length,
          full && min 8 (content.getD []).length == 8⟩) := by
  have same : AttHeader.computedCrc (header.load ((content.getD []).take 8)) =
      AttHeader.crc (header.load ((content.getD []).take 8)) := valid
  simp [attDatabaseInit, run_lseek, run_read, FileState.bytes, same]

/-- Any other header is replaced by that of an empty log. -/
theorem attDatabaseInit_invalid (header : AttHeader) (content : Option (List Byte))
    (invalid : ¬ AttHeader.Valid (header.load ((content.getD []).take 8))) :
    ∃ empty : AttHeader, empty.Valid ∧ empty.total = 0 ∧
      (attDatabaseInit header).run ⟨content, pos, full⟩ =
        ((0, empty), ⟨some (splice (content.getD []) 0 empty.bytes), 8,
          full && min 8 (content.getD []).length == 8⟩) := by
  refine ⟨_, AttHeader.valid_withCrc (.setTotal (header.load ((content.getD []).take 8)) 0),
    AttHeader.total_setTotal _ (by decide), ?_⟩
  have differ : ¬ AttHeader.computedCrc (header.load ((content.getD []).take 8)) =
      AttHeader.crc (header.load ((content.getD []).take 8)) := invalid
  simp [attDatabaseInit, run_lseek, run_read, FileState.bytes, differ]

theorem AttHeader.total_zero : (AttHeader.withCrc (.zero 8)).total = 0 := by
  rw [AttHeader.total_withCrc, AttHeader.total, Image.num, Image.field, Image.zero, window_zeros,
    leValue_zeros]

/-- The new file is a header only; the second call finds it valid. -/
theorem attDatabaseWipe_run :
    attDatabaseWipe.run ⟨some bytes, pos, full⟩ =
      ((0, AttHeader.withCrc (.zero 8)), ⟨some (AttHeader.withCrc (.zero 8)).bytes, 8, full⟩) := by
  have whole : (AttHeader.withCrc (.zero 8)).bytes.length = 8 := Image.length_bytes _
  have same : Image.load (AttHeader.withCrc (.zero 8))
      ((AttHeader.withCrc (.zero 8)).bytes.take 8) =
      AttHeader.withCrc (.zero 8) := by
    apply Image.ext
    rw [Image.load_all _ (by simp), List.take_of_length_le (by simp)]
  have valid := AttHeader.valid_withCrc (.zero 8)
  have again := attDatabaseInit_valid 8 full (AttHeader.withCrc (.zero 8))
    (some (AttHeader.withCrc (.zero 8)).bytes) (by simpa [same] using valid)
  simp [attDatabaseWipe, recordHeaderGetSet, fdRecordHeaderGetSet_set, FileState.bytes, again, same]

end Specs

/-! ## The refinement -/

/-- A file that holds exactly these records, in this order. -/
structure Refines (bytes : List Byte) (log : List AttInfo) : Prop where
  valid : AttHeader.Valid (.stored 8 bytes 0)
  total : AttHeader.total (.stored 8 bytes 0) = log.length
  inside : 8 + 53 * log.length ≤ bytes.length
  record : ∀ i, (bound : i < log.length) → Image.stored 53 bytes (8 + 53 * i) = log[i]
  intact : ∀ info ∈ log, info.Valid

/-- The header written last decides which of the records in place are the log. -/
theorem Refines.of_header {bytes : List Byte} {header : AttHeader} {log : List AttInfo}
    (valid : header.Valid) (total : header.total = log.length)
    (inside : 8 + 53 * log.length ≤ max bytes.length 8)
    (record : ∀ i, (bound : i < log.length) → Image.stored 53 bytes (8 + 53 * i) = log[i])
    (intact : ∀ info ∈ log, info.Valid) : Refines (splice bytes 0 header.bytes) log := by
  have stored : Image.stored 8 (splice bytes 0 header.bytes) 0 = header :=
    header.stored_splice bytes 0
  refine ⟨?_, ?_, ?_, ?_, intact⟩
  · rwa [stored]
  · rwa [stored]
  · rw [length_splice, header.length_bytes]
    omega
  · intro i bound
    rw [Image.stored_splice_apart (by rw [header.length_bytes]; omega)]
    exact record i bound

/-- A file holds at most one list of records. -/
theorem Refines.unique {bytes : List Byte} {first second : List AttInfo}
    (left : Refines bytes first) (right : Refines bytes second) : first = second := by
  have size : first.length = second.length := left.total.symm.trans right.total
  apply List.ext_getElem size
  intro i inLeft inRight
  rw [← left.record i inLeft, ← right.record i inRight]

theorem Refines.small_total {bytes : List Byte} {log : List AttInfo} (held : Refines bytes log)
    (room : 8 + 53 * (log.length + 1) < 2 ^ 31) :
    8 + 53 * AttHeader.total (.stored 8 bytes 0) < 2 ^ 31 := by
  rw [held.total]
  omega

/-- What a record behind the last one does before it is counted. -/
theorem Refines.behind {bytes : List Byte} {log : List AttInfo} (held : Refines bytes log)
    {off : Nat} (written : List Byte) (past : 8 + 53 * log.length ≤ off) : Refines
      (splice bytes off written) log := by
  have header : Image.stored 8 (splice bytes off written) 0 = Image.stored 8 bytes 0 :=
    Image.stored_splice_apart (.inl (by omega))
  refine ⟨?_, ?_, ?_, ?_, held.intact⟩
  · rw [header]
    exact held.valid
  · rw [header]
    exact held.total
  · rw [length_splice]
    exact Nat.le_trans held.inside (Nat.le_max_left ..)
  · intro i bound
    rw [Image.stored_splice_apart (.inl (by omega))]
    exact held.record i bound

theorem Refines.grown {bytes : List Byte} {log : List AttInfo} (held : Refines bytes log)
    (size : Nat) :
    Refines (grow bytes size) log := by
  have same (n off : Nat) : Image.stored n (grow bytes size) off = Image.stored n bytes off :=
    Image.ext (window_grow ..)
  refine ⟨?_, ?_, ?_, ?_, held.intact⟩
  · rw [same]
    exact held.valid
  · rw [same]
    exact held.total
  · rw [length_grow]
    exact Nat.le_trans held.inside (Nat.le_max_left ..)
  · intro i bound
    rw [same]
    exact held.record i bound

/-- The new record takes the place behind the last one, and is counted. -/
theorem Refines.appended {bytes : List Byte} {log : List AttInfo} (held : Refines bytes log)
    (info : AttInfo) (fits : log.length + 1 < 2 ^ 32) :
    Refines (splice (splice bytes (8 + 53 * log.length) info.withCrc.bytes) 0
      (AttHeader.withCrc (.setTotal (.stored 8 bytes 0) (log.length + 1))).bytes)
        (log ++ [info.withCrc]) := by
  apply Refines.of_header (AttHeader.valid_withCrc _)
  · rw [AttHeader.total_setTotal _ fits, List.length_append, List.length_singleton]
  · simp
    omega
  · intro i bound
    rcases Nat.lt_or_ge i log.length with old | new
    · rw [Image.stored_splice_apart (by omega), List.getElem_append_left old]
      exact held.record i old
    · have last : i = log.length := by
        rw [List.length_append, List.length_singleton] at bound
        omega
      subst last
      rw [Image.stored_splice]
      simp
  · intro record member
    rcases List.mem_append.mp member with old | new
    · exact held.intact record old
    · rw [List.mem_singleton.mp new]
      exact info.valid_withCrc

/-- Appending, when all calls are carried out. -/
theorem Refines.add {bytes : List Byte} {log : List AttInfo} (held : Refines bytes log)
    (info : AttInfo) (room : 8 + 53 * (log.length + 1) < 2 ^ 31) (pos : Nat) (full : Bool) :
    ∃ next, Refines next (log ++ [info.withCrc]) ∧
      (attRecordAdd info).run ⟨some bytes, pos, full⟩ =
        ((0, info.withCrc), ⟨some next, 8, full⟩) := by
  have start := held.inside
  have ran := attRecordAdd_run pos full info (by omega) held.valid (held.small_total room)
  rw [held.total] at ran
  exact ⟨_, held.appended info (by omega), ran⟩

/-- The last records are no longer counted. -/
theorem Refines.shortened {bytes : List Byte} {log : List AttInfo} (held : Refines bytes log)
    (num : Nat) :
    Refines (splice bytes 0
      (AttHeader.withCrc (.setTotal (.stored 8 bytes 0) (log.length - num))).bytes)
      (log.take (log.length - num)) := by
  have start := held.inside
  have fits := AttHeader.total_lt (.stored 8 bytes 0)
  rw [held.total] at fits
  apply Refines.of_header (AttHeader.valid_withCrc _)
  · rw [AttHeader.total_setTotal _ (by omega), List.length_take]
    omega
  · rw [List.length_take]
    omega
  · intro i bound
    rw [List.getElem_take]
    exact held.record i (by rw [List.length_take] at bound; omega)
  · intro record member
    exact held.intact record (List.mem_of_mem_take member)

/-- Deleting, when all calls are carried out. -/
theorem Refines.del {bytes : List Byte} {log : List AttInfo} (held : Refines bytes log) (num : Nat)
    (pos : Nat) (full : Bool) :
    ∃ next, Refines next (log.take (log.length - num)) ∧
      (attRecordDel num).run ⟨some bytes, pos, full⟩ = (0, ⟨some next, 8, full⟩) := by
  have start := held.inside
  have ran := attRecordDel_run pos full num (by omega) held.valid
  rw [held.total] at ran
  exact ⟨_, held.shortened num, ran⟩

/-! ## Runs -/

inductive AttCommand where
  | init
  | add (info : AttInfo)
  | del (num : Nat)
  | wipe

/-- The file, and the header in RAM that `att_database_init` is called with. -/
structure AttStore where
  header : AttHeader
  file : Option (List Byte)

namespace AttStore

/-- The status of a call and what it leaves behind. -/
def exec (store : AttStore) : AttCommand → Int × AttStore
  | .init =>
    let ((status, header), file) := (attDatabaseInit store.header).exec store.file
    (status, ⟨header, file⟩)
  | .add info =>
    let ((status, _), file) := (attRecordAdd info).exec store.file
    (status, { store with file := file })
  | .del num =>
    let (status, file) := (attRecordDel num).exec store.file
    (status, { store with file := file })
  | .wipe =>
    let ((status, header), file) := attDatabaseWipe.exec store.file
    (status, ⟨header, file⟩)

/-- A call that reports success. -/
def step (store : AttStore) (command : AttCommand) : Option AttStore :=
  if (store.exec command).1 = 0 then some (store.exec command).2 else none

def Holds (store : AttStore) (log : List AttInfo) : Prop :=
  ∃ bytes, store.file = some bytes ∧ Refines bytes log

end AttStore

/-- What a call is for. -/
def AttCommand.effect (log : List AttInfo) : AttCommand → List AttInfo
  | init => log
  | add info => log ++ [info.withCrc]
  | del num => log.take (log.length - num)
  | wipe => []

/-- Before every command there is room for one more record below 2 GiB. -/
def AttCommand.HasRoom (log : List AttInfo) (commands : List AttCommand) : Prop :=
  MovesMeet (fun log command => some (AttCommand.effect log command))
    (fun log _ => 8 + 53 * (log.length + 1) < 2 ^ 31) log commands

/-- `att_database_init` on a file with a valid header changes no byte. -/
theorem AttStore.init_valid (ram : AttHeader) {bytes : List Byte} (inside : 8 ≤ bytes.length)
    (valid : AttHeader.Valid (.stored 8 bytes 0)) :
    (AttStore.mk ram (some bytes)).step .init = some ⟨.stored 8 bytes 0, some bytes⟩ := by
  have loaded : ram.load (bytes.take 8) = .stored 8 bytes 0 := by
    rw [← Image.load_window ram bytes 0, window_inside inside, List.drop_zero]
  have ran := attDatabaseInit_valid 0 true ram (some bytes)
    (by simpa [loaded] using valid)
  simp [step, exec, FileProg.exec, FileState.fresh, ran, loaded]

private theorem AttStore.init_invalid {store : AttStore}
    (invalid : ¬ AttHeader.Valid (store.header.load ((store.file.getD []).take 8))) :
    ∃ next, store.step .init = some next ∧ next.Holds [] := by
  obtain ⟨empty, valid, total, ran⟩ :=
    attDatabaseInit_invalid 0 true store.header store.file invalid
  refine ⟨⟨empty, some (splice (store.file.getD []) 0 empty.bytes)⟩, ?_, _, rfl, ?_⟩
  · simp [step, exec, FileProg.exec, FileState.fresh, ran]
  · exact Refines.of_header valid total (by simp) (by simp) (by simp)

theorem Refines.empty : Refines (AttHeader.withCrc (.zero 8)).bytes [] := by
  rw [← splice_nil (AttHeader.withCrc (.zero 8)).bytes]
  exact Refines.of_header (AttHeader.valid_withCrc (.zero 8)) AttHeader.total_zero (by simp)
    (by simp) (by simp)

/-- A file that holds one record. -/
theorem Refines.single :
    Refines (splice (splice (AttHeader.withCrc (.zero 8)).bytes 8
      (AttInfo.withCrc (.zero 53)).bytes) 0
    (AttHeader.withCrc (.setTotal (.stored 8 (AttHeader.withCrc (.zero 8)).bytes 0) 1)).bytes)
      [AttInfo.withCrc (.zero 53)] :=
  Refines.empty.appended (.zero 53) (by decide)

theorem AttStore.step_refines {store : AttStore} {log : List AttInfo} (command : AttCommand)
    (held : store.Holds log) (room : 8 + 53 * (log.length + 1) < 2 ^ 31) :
    ∃ next, store.step command = some next ∧ next.Holds (command.effect log) := by
  obtain ⟨ram, file⟩ := store
  obtain ⟨bytes, rfl, refines⟩ := held
  cases command with
  | init =>
    have start := refines.inside
    exact ⟨_, init_valid ram (by omega) refines.valid, bytes, rfl, refines⟩
  | add info =>
    obtain ⟨next, holds, ran⟩ := refines.add info room 0 true
    exact ⟨⟨ram, some next⟩, by
      simp [step, exec, FileProg.exec, FileState.fresh, ran], next, rfl, holds⟩
  | del num =>
    obtain ⟨next, holds, ran⟩ := refines.del num 0 true
    exact ⟨⟨ram, some next⟩, by
      simp [step, exec, FileProg.exec, FileState.fresh, ran], next, rfl, holds⟩
  | wipe =>
    have ran := @attDatabaseWipe_run bytes 0 true
    exact ⟨_, by simp [step, exec, FileProg.exec, FileState.fresh, ran]; rfl, _, rfl, Refines.empty⟩

private theorem AttStore.run_refines {store : AttStore} {log : List AttInfo}
    {commands : List AttCommand}
    (start : (¬ AttHeader.Valid (store.header.load ((store.file.getD []).take 8)) ∧ log = []) ∨
      store.Holds log)
    (room : AttCommand.HasRoom log (.init :: commands)) :
    ∃ final, runMoves step store (.init :: commands) = some final ∧
      final.Holds (commands.foldl AttCommand.effect log) := by
  obtain ⟨first, later⟩ := room
  have begun : ∃ next, store.step .init = some next ∧ next.Holds log := by
    rcases start with ⟨invalid, rfl⟩ | held
    · exact init_invalid invalid
    · exact step_refines .init held first
  obtain ⟨next, stepped, held⟩ := begun
  obtain ⟨final, ran, last⟩ := runMoves_simulates (step_refines _) held later
  refine ⟨final, ?_, last⟩
  rw [runMoves, stepped]
  exact ran

/-- The 53 bytes of record `i`. -/
def AttStore.recordBytes (store : AttStore) (i : Nat) : List Byte :=
  window (store.file.getD []) (8 + 53 * i) 53

private theorem AttStore.Holds.recordBytes {store : AttStore} {log : List AttInfo}
    (held : store.Holds log) {i : Nat} (bound : i < log.length) :
    store.recordBytes i = log[i].bytes := by
  obtain ⟨bytes, file, refines⟩ := held
  rw [AttStore.recordBytes, file]
  exact congrArg Image.bytes (refines.record i bound)

/-- At every point of a run the file holds the records that the calls so far have
left. The run starts with `att_database_init`, on a file whose header fails its
check or one that holds a log already. Adding a record changes no byte of the
earlier ones, and `att_database_init` leaves any file with a valid header alone. -/
theorem attDatabase_refines (store : AttStore) (log : List AttInfo) (commands : List AttCommand)
    (start : (¬ AttHeader.Valid (store.header.load ((store.file.getD []).take 8)) ∧ log = []) ∨
      store.Holds log)
    (room : AttCommand.HasRoom log (.init :: commands)) :
    (∃ final, runMoves AttStore.step store (.init :: commands) = some final ∧
      final.Holds (commands.foldl AttCommand.effect log)) ∧
    (∀ (current next : AttStore) (held : List AttInfo) (info : AttInfo), current.Holds held →
      8 + 53 * (held.length + 1) < 2 ^ 31 → current.step (.add info) = some next →
      ∀ i < held.length, next.recordBytes i = current.recordBytes i) ∧
    (∀ (ram : AttHeader) (bytes : List Byte), 8 ≤ bytes.length →
      AttHeader.Valid (.stored 8 bytes 0) →
      (AttStore.mk ram (some bytes)).step .init = some ⟨.stored 8 bytes 0, some bytes⟩) := by
  refine ⟨AttStore.run_refines start room, ?_, fun ram bytes inside =>
    AttStore.init_valid ram inside⟩
  intro current next held info holds fits stepped i bound
  obtain ⟨after, reached, appended⟩ := AttStore.step_refines (.add info) holds fits
  cases Option.some.inj (stepped.symm.trans reached)
  simp only [AttCommand.effect] at appended
  have longer : i < (held ++ [info.withCrc]).length := by
    rw [List.length_append]
    omega
  rw [appended.recordBytes longer, holds.recordBytes bound, List.getElem_append_left bound]

/-- A boot without a file, one pass and its deletion. -/
theorem attDatabase_refines_fresh :
    ∃ final, runMoves AttStore.step ⟨.zero 8, none⟩ [.init, .add (.zero 53), .del 1] = some final ∧
      final.Holds [] :=
  (attDatabase_refines ⟨.zero 8, none⟩ [] [.add (.zero 53), .del 1]
    (.inl ⟨by unfold AttHeader.Valid; decide +kernel, rfl⟩)
    ⟨by decide, by decide, by decide, trivial⟩).1

end WifiAccess

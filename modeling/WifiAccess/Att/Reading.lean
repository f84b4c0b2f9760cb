import WifiAccess.Att.Refinement

/-! `att_record_get` against the records of the log: it counts down from the
number asked for, so it returns the oldest records. -/

namespace WifiAccess

open FileProg

/-- The first records of a file, whatever its header says. -/
def firstRecords (bytes : List Byte) (count : Nat) : List AttInfo :=
  (List.range count).map fun i => .stored 53 bytes (8 + 53 * i)

@[simp] theorem length_firstRecords (bytes : List Byte) (count : Nat) :
    (firstRecords bytes count).length = count := by
  simp [firstRecords]

theorem firstRecords_succ (bytes : List Byte) (count : Nat) :
    firstRecords bytes (count + 1) = firstRecords bytes count ++
      [.stored 53 bytes (8 + 53 * count)] := by
  simp [firstRecords, List.range_succ]

theorem Refines.firstRecords {bytes : List Byte} {log : List AttInfo} (held : Refines bytes log)
    {count : Nat} (bound : count ≤ log.length) : firstRecords bytes count = log.take count := by
  apply List.ext_getElem
  · simp [bound]
  · intro i inside _
    rw [length_firstRecords] at inside
    simp only [WifiAccess.firstRecords, List.getElem_map, List.getElem_range, List.getElem_take]
    exact held.record i (by omega)

section Loop

variable {bytes : List Byte} (full : Bool)

/-- With the records in the file, the loop stores them from the last one down. -/
theorem attRecordGetLoop_run {count : Nat} (small : 8 + 53 * count < 2 ^ 31)
    (inside : 8 + 53 * count ≤ bytes.length) (attInfo : List AttInfo) {attCount : Nat}
    (room : attCount + count ≤ attInfo.length) (pos : Nat) :
    ∃ pos', (attRecordGetLoop count attInfo attCount).run ⟨some bytes, pos, full⟩ =
      (some (overwrite attInfo attCount (firstRecords bytes count).reverse, attCount + count),
        ⟨some bytes, pos', full⟩) := by
  induction count generalizing attInfo attCount pos with
  | zero => exact ⟨pos, by simp [attRecordGetLoop, firstRecords]⟩
  | succ count ih =>
    have within : attCount < attInfo.length := by omega
    have addr := recordAddr_small (i := count) (by omega)
    have place : ¬ 8 + 53 * count < 8 := by omega
    have entry : attInfo[attCount]? = some attInfo[attCount] := List.getElem?_eq_getElem within
    have seek := run_lseek (show 8 + 53 * count < 2 ^ 31 by omega) ⟨some bytes, pos, full⟩
    have grown : grow bytes (8 + 53 * count) = bytes := grow_within (by omega)
    simp only [FileState.bytes, Option.getD_some, grown] at seek
    have fetched := run_read_inside (show 8 + 53 * count + 53 ≤ bytes.length by omega) full
    obtain ⟨pos', ran⟩ := ih (by omega) (by omega)
      (attInfo.set attCount (.stored 53 bytes (8 + 53 * count)))
      (show attCount + 1 + count ≤ _ by rw [List.length_set]; omega) (8 + 53 * count + 53)
    refine ⟨pos', ?_⟩
    have total : attCount + 1 + count = attCount + (count + 1) := by omega
    rw [overwrite_set within, total] at ran
    simp only [attRecordGetLoop, addr, place, run_bind, seek, fetched, storeEntry, entry,
      Image.load_window, length_window, ↓reduceIte, ne_eq, not_true_eq_false, ran,
        firstRecords_succ,
      List.reverse_append, List.reverse_singleton, List.singleton_append]

/-- A whole call, when the header passes its check and the records are there. -/
theorem attRecordGet_run {lenth total : Nat} (attInfo : List AttInfo)
    (valid : AttHeader.Valid (.stored 8 bytes 0))
    (counted : AttHeader.total (.stored 8 bytes 0) = total)
    (inside : 8 + 53 * min (lenth % 256) total ≤ bytes.length)
    (room : min (lenth % 256) total ≤ attInfo.length) (pos : Nat) :
    ∃ pos', (attRecordGet attInfo lenth).run ⟨some bytes, pos, full⟩ =
      (some (0, overwrite attInfo 0 (firstRecords bytes (min (lenth % 256) total)).reverse,
        min (lenth % 256) total),
        ⟨some bytes, pos', full⟩) := by
  have clipped : (if lenth % 256 ≥ total then total else lenth % 256) =
      min (lenth % 256) total := by
    rcases Nat.lt_or_ge (lenth % 256) total with less | more
    · rw [if_neg (by omega), Nat.min_eq_left (by omega)]
    · rw [if_pos more, Nat.min_eq_right more]
  have asked : lenth % 256 < 256 := Nat.mod_lt _ (by decide)
  obtain ⟨pos', ran⟩ := attRecordGetLoop_run full (by omega) inside attInfo
    (show 0 + min (lenth % 256) total ≤ _ by omega) 8
  rw [Nat.zero_add] at ran
  refine ⟨pos', ?_⟩
  have header := @fdRecordHeaderGetSet_get bytes 0 full (.zero 8) (by omega)
  rw [if_pos valid] at header
  simp [attRecordGet, FileState.bytes, header, counted, clipped, ran]

end Loop

/-! ## The caller's array -/

/-- With room for the records asked for, the loop stays in the array on any file. -/
theorem attRecordGetLoop_within {count attCount : Nat} {attInfo : List AttInfo}
    (room : attCount + count ≤ attInfo.length) (file : FileState) :
    ∃ stored got final, (attRecordGetLoop count attInfo attCount).run file =
      (some (stored, got), final) ∧
      stored.length = attInfo.length ∧ got ≤ attCount + count := by
  induction count generalizing attInfo attCount file with
  | zero => exact ⟨attInfo, attCount, file, rfl, rfl, Nat.le_refl _⟩
  | succ count ih =>
    have within : attCount < attInfo.length := by omega
    simp only [attRecordGetLoop, run_ite, run_bind]
    split
    · exact ⟨attInfo, attCount, _, rfl, rfl, by omega⟩
    · split
      · simp only [storeEntry_inside within]
        rw [run_ite]
        split
        · exact ⟨_, attCount, _, rfl, List.length_set .., by omega⟩
        · have room (entry : AttInfo) : attCount + 1 + count ≤
              (attInfo.set attCount entry).length := by
            rw [List.length_set]
            omega
          obtain ⟨stored, got, final, ran, size, bound⟩ := ih (room _) _
          exact ⟨stored, got, final, ran, size.trans (List.length_set ..), by omega⟩
      · exact ⟨attInfo, attCount, _, rfl, rfl, by omega⟩

/-- When all records asked for are in the file but not in the array, the loop leaves
the array. -/
theorem attRecordGetLoop_overrun {bytes : List Byte} {count attCount : Nat} {attInfo : List AttInfo}
    (small : 8 + 53 * count < 2 ^ 31) (inside : 8 + 53 * count ≤ bytes.length)
    (within : attCount ≤ attInfo.length) (exceeds : attInfo.length < attCount + count) (pos : Nat)
    (full : Bool) :
    ((attRecordGetLoop count attInfo attCount).run ⟨some bytes, pos, full⟩).1 = none := by
  induction count generalizing attInfo attCount pos with
  | zero => omega
  | succ count ih =>
    have addr := recordAddr_small (i := count) (by omega)
    have place : ¬ 8 + 53 * count < 8 := by omega
    have seek := run_lseek (show 8 + 53 * count < 2 ^ 31 by omega) ⟨some bytes, pos, full⟩
    have grown : grow bytes (8 + 53 * count) = bytes := grow_within (by omega)
    simp only [FileState.bytes, Option.getD_some, grown] at seek
    have fetched := run_read_inside (show 8 + 53 * count + 53 ≤ bytes.length by omega) full
    simp only [attRecordGetLoop, addr, place, run_bind, seek, fetched, ↓reduceIte]
    rcases Nat.lt_or_ge attCount attInfo.length with room | past
    · simp only [storeEntry_inside room, length_window, ne_eq, not_true_eq_false, ↓reduceIte]
      exact ih (by omega) (by omega) (by rw [List.length_set]; omega)
        (by rw [List.length_set]; omega) _
    · have some_byte : window bytes (8 + 53 * count) 53 ≠ [] := by
        intro empty
        have size := length_window bytes (8 + 53 * count) 53
        rw [empty] at size
        cases size
      simp only [storeEntry_past past, some_byte, ↓reduceIte, run_pure]

/-- A file that ends before the first record to be read ends the loop at once. -/
theorem attRecordGetLoop_short {bytes : List Byte} {count : Nat} {attInfo : List AttInfo}
    (small : 8 + 53 * count < 2 ^ 31) (short : bytes.length < 8 + 53 * (count + 1))
    (room : 0 < attInfo.length) (pos : Nat) (full : Bool) :
    ∃ stored, ((attRecordGetLoop (count + 1) attInfo 0).run ⟨some bytes, pos, full⟩).1 =
      some (stored, 0) ∧
      stored.length = attInfo.length := by
  have addr := recordAddr_small (i := count) small
  have place : ¬ 8 + 53 * count < 8 := by omega
  have few : ((List.drop (8 + 53 * count) (grow bytes (8 + 53 * count))).take 53).length ≠ 53 := by
    rw [drop_grow, List.length_take, List.length_drop]
    omega
  refine ⟨attInfo.set 0
    (attInfo[0].load ((List.drop (8 + 53 * count) (grow bytes (8 + 53 * count))).take 53)), ?_,
    List.length_set ..⟩
  simp only [attRecordGetLoop, addr, place, run_bind, run_lseek small, run_read, FileState.bytes,
    Option.getD_some,
    storeEntry_inside room, ↓reduceIte, few, ne_eq, not_false_eq_true, run_pure]

/-- A whole call, when the header passes its check. -/
theorem attRecordGet_loop {bytes : List Byte} (attInfo : List AttInfo) (lenth : Nat)
    (inside : 8 ≤ bytes.length) (valid : AttHeader.Valid (.stored 8 bytes 0)) (pos : Nat)
    (full : Bool) :
    ((attRecordGet attInfo lenth).run ⟨some bytes, pos, full⟩).1 =
      (((attRecordGetLoop (min (lenth % 256) (AttHeader.total (.stored 8 bytes 0))) attInfo 0).run
        ⟨some bytes, 8, full⟩).1).map fun (attInfo, attCount) => (0, attInfo, attCount) := by
  have clipped (total : Nat) : (if lenth % 256 ≥ total then total else lenth % 256) =
      min (lenth % 256) total := by
    rcases Nat.lt_or_ge (lenth % 256) total with less | more
    · rw [if_neg (by omega), Nat.min_eq_left (by omega)]
    · rw [if_pos more, Nat.min_eq_right more]
  have header := @fdRecordHeaderGetSet_get bytes 0 full (.zero 8) inside
  rw [if_pos valid] at header
  simp [attRecordGet, FileState.bytes, header, clipped]

theorem attRecordGet_served {bytes : List Byte} {attInfo : List AttInfo} {lenth : Nat}
    (inside : 8 ≤ bytes.length) (valid : AttHeader.Valid (.stored 8 bytes 0))
    (some_room : 0 < attInfo.length)
    (fits : min (lenth % 256) (AttHeader.total (.stored 8 bytes 0)) ≤ attInfo.length ∨
      bytes.length < 8 + 53 * min (lenth % 256) (AttHeader.total (.stored 8 bytes 0)))
    (pos : Nat) (full : Bool) :
    ∃ stored got, ((attRecordGet attInfo lenth).run ⟨some bytes, pos, full⟩).1 =
      some (0, stored, got) ∧
      stored.length = attInfo.length ∧ got ≤ attInfo.length := by
  rw [attRecordGet_loop attInfo lenth inside valid]
  have asked : lenth % 256 < 256 := Nat.mod_lt _ (by decide)
  generalize min_eq : min (lenth % 256) (AttHeader.total (.stored 8 bytes 0)) = count at *
  rcases fits with room | short
  · obtain ⟨stored, got, final, ran, size, bound⟩ :=
      attRecordGetLoop_within (show 0 + count ≤ attInfo.length by omega) ⟨some bytes, 8, full⟩
    exact ⟨stored, got, by rw [ran]; rfl, size, by omega⟩
  · cases count with
    | zero => omega
    | succ count =>
      obtain ⟨stored, ran, size⟩ :=
        attRecordGetLoop_short (show 8 + 53 * count < 2 ^ 31 by omega) short some_room 8 full
      exact ⟨stored, 0, by rw [ran]; rfl, size, Nat.zero_le _⟩

theorem attRecordGet_overrun {bytes : List Byte} {attInfo : List AttInfo} {lenth : Nat}
    (inside : 8 ≤ bytes.length) (valid : AttHeader.Valid (.stored 8 bytes 0))
    (exceeds : attInfo.length < min (lenth % 256) (AttHeader.total (.stored 8 bytes 0)))
    (present : 8 + 53 * min (lenth % 256) (AttHeader.total (.stored 8 bytes 0)) ≤ bytes.length)
    (pos : Nat) (full : Bool) :
    ((attRecordGet attInfo lenth).run ⟨some bytes, pos, full⟩).1 = none := by
  rw [attRecordGet_loop attInfo lenth inside valid]
  have asked : lenth % 256 < 256 := Nat.mod_lt _ (by decide)
  rw [attRecordGetLoop_overrun (by omega) present (Nat.zero_le _) (by omega)]
  rfl

/-- Of the records asked for, and of those there are, the oldest ones are returned. -/
theorem Refines.get {bytes : List Byte} {log : List AttInfo} (held : Refines bytes log)
    {lenth : Nat} (attInfo : List AttInfo) (room : min (lenth % 256) log.length ≤ attInfo.length)
    (pos : Nat) (full : Bool) :
    ∃ pos', (attRecordGet attInfo lenth).run ⟨some bytes, pos, full⟩ =
      (some (0, overwrite attInfo 0 (log.take (min (lenth % 256) log.length)).reverse,
        min (lenth % 256) log.length), ⟨some bytes, pos', full⟩) := by
  have start := held.inside
  obtain ⟨pos', ran⟩ := attRecordGet_run full attInfo held.valid held.total (by omega) room pos
  rw [held.firstRecords (Nat.min_le_right ..)] at ran
  exact ⟨pos', ran⟩

/-- What a reader of the newest records first expects. -/
def ReturnsNewest (log : List AttInfo) (num : Nat) : Option (Int × List AttInfo × Nat) → Prop
  | none => False
  | some (status, attInfo, attCount) => status = 0 ∧ attCount = min num log.length ∧ ∀ i < min num
      log.length, attInfo[i]? = log[log.length - 1 - i]?

theorem take_eq_drop_iff {α : Type} {log : List α} {count : Nat} (bound : count ≤ log.length) :
    (∀ i < count, log[count - 1 - i]? = log[log.length - 1 - i]?) ↔
      log.take count = log.drop (log.length - count) := by
  constructor
  · intro same
    apply List.ext_getElem?
    intro i
    rw [List.getElem?_take, List.getElem?_drop]
    split
    · rename_i inside
      have mirrored := same (count - 1 - i) (by omega)
      have front : count - 1 - (count - 1 - i) = i := by omega
      have back : log.length - 1 - (count - 1 - i) = log.length - count + i := by omega
      rwa [front, back] at mirrored
    · rw [List.getElem?_eq_none (by omega)]
  · intro same i inside
    have mirrored := congrArg (fun records => records[count - 1 - i]?) same
    have back : log.length - count + (count - 1 - i) = log.length - 1 - i := by omega
    rwa [List.getElem?_take, if_pos (by omega), List.getElem?_drop, back] at mirrored

/-- The newest records are returned exactly when all are asked for, or when the
first ones of the log are the same as the last ones. -/
theorem attRecordGet_newest_iff (bytes : List Byte) (log : List AttInfo) (num : Nat)
    (attInfo : List AttInfo) (held : Refines bytes log) (room : num ≤ attInfo.length) :
    ReturnsNewest log num ((attRecordGet attInfo num).exec (some bytes)).1 ↔
      log.length ≤ num % 256 ∨ (num < 256 ∧ log.take num = log.drop (log.length - num)) := by
  have narrowed : num % 256 ≤ num := Nat.mod_le ..
  obtain ⟨_, ran⟩ := @Refines.get _ _ held num attInfo (by omega) 0 true
  have size : (log.take (min (num % 256) log.length)).reverse.length =
      min (num % 256) log.length := by simp
  rw [exec, FileState.fresh, ran]
  simp only [ReturnsNewest, true_and]
  have stored {i : Nat} (inside : i < min (num % 256) log.length) :
      (overwrite attInfo 0 (log.take (min (num % 256) log.length)).reverse)[i]? =
        log[min (num % 256) log.length - 1 - i]? := by
    rw [getElem?_overwrite (by rw [size]; omega), size, if_pos (by omega),
      List.getElem?_reverse (by simp; omega),
      List.length_take, List.getElem?_take, if_pos (by omega)]
    congr 1
    omega
  constructor
  · rintro ⟨count, newest⟩
    rcases Nat.lt_or_ge (num % 256) log.length with less | all
    · right
      have whole : num % 256 = num := by omega
      have clipped : min num log.length = num := by omega
      rw [whole, clipped] at stored newest
      refine ⟨by omega, (take_eq_drop_iff (by omega)).mp ?_⟩
      intro i inside
      exact (stored inside).symm.trans (newest i inside)
    · exact .inl all
  · intro enough
    have count : min (num % 256) log.length = min num log.length := by omega
    rw [count] at stored
    refine ⟨count, ?_⟩
    intro i inside
    rw [count, stored inside]
    rcases Nat.lt_or_ge num log.length with less | all
    · obtain ⟨_, same⟩ := enough.resolve_left (by omega)
      rw [Nat.min_eq_left (by omega)] at inside ⊢
      exact (take_eq_drop_iff (by omega)).mpr same i inside
    · rw [Nat.min_eq_right all]

/-- A record of the given user. -/
def sampleInfo (userId : Byte) : AttInfo := AttInfo.withCrc (.put (.zero 53) 0 [userId])

theorem Refines.pair : ∃ bytes, Refines bytes [sampleInfo 1, sampleInfo 2] := by
  obtain ⟨first, one, _⟩ := Refines.empty.add (.put (.zero 53) 0 [1#8]) (by decide) 0 true
  obtain ⟨bytes, two, _⟩ := one.add (.put (.zero 53) 0 [2#8]) (by decide) 0 true
  exact ⟨bytes, two⟩

/-- A log of two records, both of them asked for. -/
theorem attRecordGet_newest_two :
    ∃ bytes, Refines bytes [sampleInfo 1, sampleInfo 2] ∧
      ReturnsNewest [sampleInfo 1, sampleInfo 2] 2
        ((attRecordGet [.zero 53, .zero 53] 2).exec (some bytes)).1 := by
  obtain ⟨bytes, held⟩ := Refines.pair
  exact ⟨bytes, held, (attRecordGet_newest_iff bytes _ 2 [.zero 53, .zero 53] held (by decide)).mpr
    (.inl (by decide))⟩

/-- Of two records the older one is returned. -/
theorem attRecordGet_oldest :
    ∃ bytes, Refines bytes [sampleInfo 1, sampleInfo 2] ∧
      ¬ ReturnsNewest [sampleInfo 1, sampleInfo 2] 1
        ((attRecordGet [.zero 53] 1).exec (some bytes)).1 := by
  obtain ⟨bytes, held⟩ := Refines.pair
  refine ⟨bytes, held, ?_⟩
  obtain ⟨_, ran⟩ := @Refines.get _ _ held 1 [.zero 53] (by decide) 0 true
  rintro returned
  rw [exec, FileState.fresh, ran] at returned
  have same := returned.2.2 0 (by decide)
  have differ : sampleInfo 1 ≠ sampleInfo 2 := by decide +kernel
  exact differ (Option.some.inj same)

end WifiAccess

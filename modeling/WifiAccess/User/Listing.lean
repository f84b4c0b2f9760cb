import WifiAccess.User.Slots

/-! The operations that go through all slots of the user file: `user_num_get`,
`user_crc_get` and `card_array_init`. -/

namespace WifiAccess

open FileProg

/-! ## Counting the users -/

section Count

variable {bytes : List Byte} {pos : Nat} {full : Bool} {left i userNum maxUserNum : Nat}

/-- A pass of the loop that reads the user id of a slot. -/
theorem userNumGetLoop_step {offset : Nat} (addr : (1058 * i + 8) % 2 ^ 32 = offset)
    (small : offset < 2 ^ 31) (inside : offset + 2 ≤ bytes.length) :
    (userNumGetLoop (left + 1) i userNum maxUserNum).run ⟨some bytes, pos, full⟩ =
      (if leValue (window bytes offset 2) ≠ 0 then
        userNumGetLoop left (i + 1) ((userNum + 1) % 2 ^ 16)
          (max maxUserNum (leValue (window bytes offset 2)))
      else userNumGetLoop left (i + 1) userNum maxUserNum).run ⟨some bytes, offset + 2, full⟩ := by
  have grown : grow bytes offset = bytes := grow_within (by omega)
  have larger (userId : Nat) : (if userId > maxUserNum then userId else maxUserNum) =
      max maxUserNum userId := by
    split <;> omega
  have fetched := run_read_inside inside full
  simp only [userNumGetLoop, addr, run_bind, run_lseek small, FileState.bytes, Option.getD_some,
    grown, fetched,
    length_window, larger, ↓reduceIte, ne_eq, not_true_eq_false]

/-- A pass that cannot read a user id ends the loop without a result. -/
theorem userNumGetLoop_end {offset : Nat} (addr : (1058 * i + 8) % 2 ^ 32 = offset)
    (outside : ¬ (offset < 2 ^ 31 ∧ offset + 2 ≤ bytes.length)) :
    ((userNumGetLoop (left + 1) i userNum maxUserNum).run ⟨some bytes, pos, full⟩).1 = none := by
  by_cases small : offset < 2 ^ 31
  · have few : ((bytes.drop offset).take 2).length ≠ 2 := by
      rw [List.length_take, List.length_drop]
      omega
    simp only [userNumGetLoop, addr, run_bind, run_lseek small, run_read, FileState.bytes,
      Option.getD_some, drop_grow,
      few, ↓reduceIte, ne_eq, not_false_eq_true, run_pure]
  · simp only [userNumGetLoop, addr, run_bind, run_lseek_negative small, Bool.false_eq_true,
      ↓reduceIte, run_pure]

/-- Counting that succeeds has not changed the file. -/
theorem userNumGetLoop_keeps {counted : Nat × Nat} (bound : maxUserNum < 2 ^ 16)
    (ran : ((userNumGetLoop left i userNum maxUserNum).run ⟨some bytes, pos, full⟩).1 =
      some counted) :
    counted.2 < 2 ^ 16 ∧
      ∃ pos', ((userNumGetLoop left i userNum maxUserNum).run ⟨some bytes, pos, full⟩).2 =
        ⟨some bytes, pos', full⟩ := by
  induction left generalizing i userNum maxUserNum pos with
  | zero =>
    cases ran
    exact ⟨bound, pos, rfl⟩
  | succ left ih =>
    obtain ⟨offset, addr⟩ : ∃ offset, (1058 * i + 8) % 2 ^ 32 = offset := ⟨_, rfl⟩
    by_cases inside : offset < 2 ^ 31 ∧ offset + 2 ≤ bytes.length
    · have fits : leValue (window bytes offset 2) < 2 ^ 16 := by
        have bound := leValue_lt (window bytes offset 2)
        rwa [length_window] at bound
      rw [userNumGetLoop_step addr inside.1 inside.2] at ran ⊢
      split at ran
      · rename_i used
        rw [if_pos used]
        exact ih (by omega) ran
      · rename_i free
        rw [if_neg free]
        exact ih bound ran
    · rw [userNumGetLoop_end addr inside] at ran
      cases ran

/-- A program on an existing file that goes on with its size. -/
theorem run_statOpen {α : Type} (loop : Nat → FileProg (Option α)) (bytes : List Byte) (pos : Nat)
    (full : Bool) :
    (do
      match ← stat with
      | none => return none
      | some size =>
        if ← openCreate then
          let counted ← loop size
          close
          return counted
        else
          close
          return none : FileProg (Option α)).run ⟨some bytes, pos, full⟩ =
      (loop bytes.length).run ⟨some bytes, 0, full⟩ := by
  simp [FileState.bytes]

-- through a program with a free loop: the bound of the loop must not be evaluated
theorem userNumGet_run (bytes : List Byte) (pos : Nat) (full : Bool) :
    userNumGet.run ⟨some bytes, pos, full⟩ =
      (userNumGetLoop ((bytes.length + (2 ^ 32 - 8)) % 2 ^ 32 / 1058) 0 0 0).run
        ⟨some bytes, 0, full⟩ :=
  run_statOpen (fun size => userNumGetLoop ((size + (2 ^ 32 - 8)) % 2 ^ 32 / 1058) 0 0 0)
    bytes pos full

/-- Without a file there is nothing to count. -/
theorem userNumGet_missing (pos : Nat) (full : Bool) :
    userNumGet.run ⟨none, pos, full⟩ = (none, ⟨none, pos, false⟩) := by
  simp [userNumGet]

/-- An empty file is counted as very long, and grows by the first seek. -/
theorem userNumGet_empty (pos : Nat) (full : Bool) :
    userNumGet.run ⟨some [], pos, full⟩ = (none, ⟨some (List.replicate 8 0#8), 8, false⟩) := by
  obtain ⟨left, many⟩ : ∃ left, (([] : List Byte).length + (2 ^ 32 - 8)) % 2 ^ 32 / 1058 = left +
      1 := ⟨4059514, by simp⟩
  have seek : (lseek ((1058 * 0 + 8) % 2 ^ 32)).run ⟨some [], 0, full⟩ =
      (true, ⟨some (List.replicate 8 0#8), 8, full⟩) := run_lseek (by decide) _
  have fetched : (FileProg.read 2).run ⟨some (List.replicate 8 0#8), 8, full⟩ =
      ([], ⟨some (List.replicate 8 0#8), 8, false⟩) := by
    simp [run_read, FileState.bytes]
  rw [userNumGet_run, many]
  simp only [userNumGetLoop, run_bind, seek, fetched, ↓reduceIte]
  rfl
/-- A second call counts the same. -/
theorem userNumGet_keeps {content : Option (List Byte)} {counted : Nat × Nat}
    (ran : (userNumGet.run ⟨content, pos, full⟩).1 = some counted) :
    counted.2 < 2 ^ 16 ∧ ∃ bytes pos', content = some bytes ∧
      (userNumGet.run ⟨content, pos, full⟩).2 = ⟨some bytes, pos', full⟩ ∧
      ∀ pos, (userNumGet.run ⟨content, pos, full⟩) = (some counted, ⟨some bytes, pos', full⟩) := by
  cases content with
  | none => simp [userNumGet] at ran
  | some bytes =>
    rw [userNumGet_run] at ran
    obtain ⟨bound, pos', kept⟩ := userNumGetLoop_keeps (by decide) ran
    refine ⟨bound, bytes, pos', rfl, ?_, fun pos => ?_⟩
    · rw [userNumGet_run, kept]
    · rw [userNumGet_run]
      exact Prod.ext ran kept

end Count

/-! ## Collecting the CRCs -/

section Crcs

variable {bytes : List Byte} {pos : Nat} {full : Bool} {left i getCount : Nat}
  {crc : List (Image 4)}

/-- A pass of the loop that reads a whole CRC into the array. -/
theorem userCrcGetLoop_step (positive : i ≠ 0) (bound : i < 2 ^ 16) (room : getCount < crc.length)
    (inside : slotOffset i + 1038 + 4 ≤ bytes.length) :
    (userCrcGetLoop (left + 1) i getCount crc).run ⟨some bytes, pos, full⟩ =
      (userCrcGetLoop left (i + 1) (getCount + 1)
        (crc.set getCount (.stored 4 bytes (slotOffset i + 1038)))).run
        ⟨some bytes, slotOffset i + 1038 + 4, full⟩ := by
  have addr := slotAddr_pos positive bound 1038 (by decide)
  have small := slotOffset_small bound 1038 (by decide)
  have grown : grow bytes (slotOffset i + 1038) = bytes := grow_within (by omega)
  have fetched := run_read_inside inside full
  simp only [userCrcGetLoop, addr, run_bind, run_lseek small, FileState.bytes, Option.getD_some,
    grown, fetched,
    storeEntry_inside room, Image.load_window, length_window, ↓reduceIte, ne_eq, not_true_eq_false]

/-- Any other pass is the last one. -/
theorem userCrcGetLoop_end (positive : i ≠ 0) (bound : i < 2 ^ 16)
    (outside : bytes.length < slotOffset i + 1038 + 4) :
    ((userCrcGetLoop (left + 1) i getCount crc).run ⟨some bytes, pos, full⟩).1 =
      (storeEntry crc getCount ((bytes.drop (slotOffset i + 1038)).take 4)).map fun crc =>
        (none, crc) := by
  have addr := slotAddr_pos positive bound 1038 (by decide)
  have small := slotOffset_small bound 1038 (by decide)
  have few : ((bytes.drop (slotOffset i + 1038)).take 4).length ≠ 4 := by
    rw [List.length_take, List.length_drop]
    omega
  simp only [userCrcGetLoop, addr, run_bind, run_lseek small, run_read, FileState.bytes,
    Option.getD_some, drop_grow,
    ↓reduceIte]
  cases storeEntry crc getCount ((bytes.drop (slotOffset i + 1038)).take 4) with
  | none => rfl
  | some crc =>
    simp only [few, ne_eq, not_false_eq_true, ↓reduceIte]
    rfl

/-- A byte for an entry behind the array has nowhere to go. -/
theorem userCrcGetLoop_past (positive : i ≠ 0) (bound : i < 2 ^ 16) (past : crc.length ≤ getCount)
    (present : slotOffset i + 1038 < bytes.length) :
    ((userCrcGetLoop (left + 1) i getCount crc).run ⟨some bytes, pos, full⟩).1 = none := by
  have addr := slotAddr_pos positive bound 1038 (by decide)
  have small := slotOffset_small bound 1038 (by decide)
  have some_byte : (bytes.drop (slotOffset i + 1038)).take 4 ≠ [] := by
    intro empty
    have size := congrArg List.length empty
    rw [List.length_take, List.length_drop, List.length_nil] at size
    omega
  simp only [userCrcGetLoop, addr, run_bind, run_lseek small, run_read, FileState.bytes,
    Option.getD_some, drop_grow,
    storeEntry_past past, some_byte, ↓reduceIte, run_pure]

/-- The loop stays in the array when the array has room, or when the file ends before
the entry behind the array. -/
theorem userCrcGetLoop_served (positive : i ≠ 0) (bound : i + left ≤ 2 ^ 16)
    (within : getCount ≤ crc.length)
    (fits : getCount + left ≤ crc.length ∨ bytes.length ≤
      slotOffset (i + (crc.length - getCount)) + 1038) :
    ∃ got stored, ((userCrcGetLoop left i getCount crc).run ⟨some bytes, pos, full⟩).1 =
      some (got, stored) ∧
      stored.length = crc.length ∧ ∀ count, got = some count → count ≤ crc.length := by
  induction left generalizing i getCount crc pos with
  | zero =>
    refine ⟨some getCount, crc, rfl, rfl, fun count same => ?_⟩
    cases same
    exact within
  | succ left ih =>
    rcases Nat.lt_or_ge bytes.length (slotOffset i + 1038 + 4) with outside | inside
    · rw [userCrcGetLoop_end positive (by omega) outside]
      rcases Nat.lt_or_ge getCount crc.length with room | past
      · rw [storeEntry_inside room]
        exact ⟨none, _, rfl, List.length_set .., fun _ same => by cases same⟩
      · have ended : bytes.drop (slotOffset i + 1038) = [] := by
          have reached : i + (crc.length - getCount) = i := by omega
          rw [reached] at fits
          exact List.drop_eq_nil_iff.mpr (by omega)
        rw [storeEntry_past past, ended, List.take_nil, if_pos rfl]
        exact ⟨none, crc, rfl, rfl, fun _ same => by cases same⟩
    · have room : getCount < crc.length := by
        rcases fits with room | ends
        · omega
        · by_contra past
          have reached : i + (crc.length - getCount) = i := by omega
          rw [reached] at ends
          omega
      rw [userCrcGetLoop_step positive (by omega) room inside]
      have index : i + 1 + (crc.length - (getCount + 1)) = i + (crc.length - getCount) := by omega
      obtain ⟨got, stored, ran, size, few⟩ := @ih (slotOffset i + 1038 + 4) (i + 1)
        (getCount + 1) (crc.set getCount (.stored 4 bytes (slotOffset i + 1038)))
          (by omega) (by omega)
        (by rw [List.length_set]; omega) (by rw [List.length_set, index]; omega)
      rw [List.length_set] at size few
      exact ⟨got, stored, ran, size, few⟩

theorem userCrcGetLoop_overrun (positive : i ≠ 0) (bound : i + left ≤ 2 ^ 16)
    (within : getCount ≤ crc.length) (exceeds : crc.length < getCount + left)
    (present : slotOffset (i + (crc.length - getCount)) + 1038 < bytes.length) :
    ((userCrcGetLoop left i getCount crc).run ⟨some bytes, pos, full⟩).1 = none := by
  induction left generalizing i getCount crc pos with
  | zero => omega
  | succ left ih =>
    rcases Nat.lt_or_ge getCount crc.length with room | past
    · have farther : slotOffset i + 1058 ≤ slotOffset (i + (crc.length - getCount)) := by
        unfold slotOffset
        omega
      rw [userCrcGetLoop_step positive (by omega) room (by omega)]
      have index : i + 1 + (crc.length - (getCount + 1)) = i + (crc.length - getCount) := by omega
      exact ih (by omega) (by omega) (by rw [List.length_set]; omega)
        (by rw [List.length_set]; omega)
        (by rw [List.length_set, index]; exact present)
    · have reached : i + (crc.length - getCount) = i := by omega
      rw [reached] at present
      exact userCrcGetLoop_past positive (by omega) past present

/-- The number of CRCs asked for, up to the largest user id. -/
def clippedNum (start num userIdMax : Nat) : Nat :=
  if start + num > userIdMax then userIdMax - start + 1 else num

theorem clippedNum_bound {start num userIdMax : Nat} (inside : start ≤ userIdMax) :
    start + clippedNum start num userIdMax ≤ userIdMax + 1 := by
  unfold clippedNum
  split <;> omega

/-- A whole call, when the users can be counted. -/
theorem userCrcGet_loop {content : Option (List Byte)} {userNum userIdMax : Nat}
    (counted : (userNumGet.run ⟨content, pos, full⟩).1 = some (userNum, userIdMax))
    (crc : List (Image 4)) (start num : Nat) :
    ∃ bytes, content = some bytes ∧ ((userCrcGet crc start num).run ⟨content, pos, full⟩).1 =
      if start > userIdMax then some (some 0, crc)
      else if start = 0 then some (none, crc)
      else (((userCrcGetLoop (clippedNum start num userIdMax) start 0 crc).run
        ⟨some bytes, 0, full⟩).1).map
        fun (getCount, crc) => (getCount.map (· % 2 ^ 16), crc) := by
  obtain ⟨-, bytes, pos', rfl, ran, -⟩ := userNumGet_keeps counted
  refine ⟨bytes, rfl, ?_⟩
  have whole : userNumGet.run ⟨some bytes, pos, full⟩ =
      (some (userNum, userIdMax), ⟨some bytes, pos', full⟩) :=
    Prod.ext counted ran
  unfold userCrcGet clippedNum
  simp only [run_bind, whole, run_ite, run_pure, run_openCreate, FileState.bytes, Option.getD_some,
    ↓reduceIte, run_close]
  split
  · rfl
  · split <;> rfl

/-- The call stays in the array unless it is asked for more than the array holds and
the file has them. -/
theorem userCrcGet_served {content : Option (List Byte)} {userNum userIdMax start num : Nat}
    {crc : List (Image 4)}
    (counted : (userNumGet.run ⟨content, pos, full⟩).1 = some (userNum, userIdMax))
    (fits : start ≠ 0 → start ≤ userIdMax → clippedNum start num userIdMax ≤ crc.length ∨
      (content.getD []).length ≤ slotOffset (start + crc.length) + 1038) :
    ∃ got stored, ((userCrcGet crc start num).run ⟨content, pos, full⟩).1 = some (got, stored) ∧
      stored.length = crc.length ∧ ∀ count, got = some count → count ≤ crc.length := by
  have largest := (userNumGet_keeps counted).1
  obtain ⟨bytes, rfl, ran⟩ := userCrcGet_loop counted crc start num
  rw [ran]
  by_cases beyond : start > userIdMax
  · rw [if_pos beyond]
    refine ⟨some 0, crc, rfl, rfl, fun count same => ?_⟩
    cases same
    exact Nat.zero_le _
  · rw [if_neg beyond]
    by_cases zero : start = 0
    · rw [if_pos zero]
      exact ⟨none, crc, rfl, rfl, fun count same => by cases same⟩
    · have bound := @clippedNum_bound start num userIdMax (by omega)
      rw [if_neg zero]
      obtain ⟨got, stored, looped, size, few⟩ :=
        @userCrcGetLoop_served bytes 0 full (clippedNum start num userIdMax)
        start 0 crc zero (by omega) (Nat.zero_le _)
          (by have := fits zero (by omega); simpa using this)
      rw [looped]
      refine ⟨got.map (· % 2 ^ 16), stored, rfl, size, fun count same => ?_⟩
      obtain ⟨whole, found, rfl⟩ := Option.map_eq_some_iff.mp same
      exact Nat.le_trans (Nat.mod_le ..) (few whole found)

theorem userCrcGet_overrun {bytes : List Byte} {userNum userIdMax start num : Nat}
    {crc : List (Image 4)}
    (counted : (userNumGet.run ⟨some bytes, pos, full⟩).1 = some (userNum, userIdMax))
    (positive : start ≠ 0) (inside : start ≤ userIdMax)
    (exceeds : crc.length < clippedNum start num userIdMax)
    (present : slotOffset (start + crc.length) + 1038 < bytes.length) :
    ((userCrcGet crc start num).run ⟨some bytes, pos, full⟩).1 = none := by
  have largest := (userNumGet_keeps counted).1
  have bound := @clippedNum_bound start num userIdMax inside
  obtain ⟨_, same, ran⟩ := userCrcGet_loop counted crc start num
  cases same
  rw [ran, if_neg (by omega), if_neg positive,
    userCrcGetLoop_overrun positive (by omega) (Nat.zero_le _) (by omega) (by simpa using present)]
  rfl

end Crcs

end WifiAccess

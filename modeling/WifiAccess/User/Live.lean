import WifiAccess.User.Listing
import WifiAccess.User.Refinement

/-! Files of whole slots: how many users `user_num_get` finds, and which slots a
file has that adds and deletes have built. -/

namespace WifiAccess

open FileProg

/-- The number of whole slots. -/
def slotCount (bytes : List Byte) : Nat := (bytes.length - 8) / 1058

/-- The slots with a user id, among a number of them from one on. -/
def usedSlots (bytes : List Byte) (first count : Nat) : List Nat :=
  (List.range' first count).filter fun userId => (slot bytes userId).userId ≠ 0

def liveSlots (bytes : List Byte) : List Nat := usedSlots bytes 1 (slotCount bytes)

theorem liveSlots_empty : liveSlots [] = [] := rfl

/-- The largest user id of some slots, or a bound below. -/
def largestId (bytes : List Byte) (least : Nat) (slots : List Nat) : Nat :=
  slots.foldl (fun largest userId => max largest (slot bytes userId).userId) least

theorem usedSlots_succ (bytes : List Byte) (first count : Nat) : usedSlots bytes first (count + 1) =
    if (slot bytes first).userId ≠ 0 then first :: usedSlots bytes (first + 1) count
    else usedSlots bytes (first + 1) count := by
  simp only [usedSlots, List.range'_succ, List.filter_cons, decide_eq_true_eq]

theorem length_usedSlots_le (bytes : List Byte) (first count : Nat) :
    (usedSlots bytes first count).length ≤ count := by
  have bound :=
    List.length_filter_le (fun userId => decide ((slot bytes userId).userId ≠ 0))
      (List.range' first count)
  rwa [List.length_range'] at bound

theorem mem_usedSlots {bytes : List Byte} {first count userId : Nat} :
    userId ∈ usedSlots bytes first count ↔ (first ≤ userId ∧ userId < first + count) ∧
      (slot bytes userId).userId ≠ 0 := by
  simp [usedSlots, List.mem_range'_1]

theorem nodup_liveSlots (bytes : List Byte) : (liveSlots bytes).Nodup :=
  List.Pairwise.filter _ (List.nodup_range' 1 Nat.one_pos)

/-- The user id of a slot is what the loops over the file read first. -/
theorem slot_userId (bytes : List Byte) (i : Nat) :
    (slot bytes (i + 1)).userId = leValue (window bytes (8 + 1058 * i) 2) := by
  have off : slotOffset (i + 1) = 8 + 1058 * i := by
    unfold slotOffset
    omega
  rw [slot, off]
  exact congrArg leValue (window_window bytes (by decide))

/-! ## Counting -/

section Count

variable {bytes : List Byte} {pos : Nat} {full : Bool}

theorem userNumGetLoop_slots {left i userNum least : Nat}
    (inside : 8 + 1058 * (i + left) ≤ bytes.length) (few : i + left < 2 ^ 16)
    (counted : userNum ≤ i) :
    ((userNumGetLoop left i userNum least).run ⟨some bytes, pos, full⟩).1 =
      some (userNum + (usedSlots bytes (i + 1) left).length,
        largestId bytes least (usedSlots bytes (i + 1) left)) := by
  induction left generalizing i userNum least pos with
  | zero => rfl
  | succ left ih =>
    have addr : (1058 * i + 8) % 2 ^ 32 = 8 + 1058 * i := by omega
    rw [userNumGetLoop_step addr (by omega) (by omega), ← slot_userId, usedSlots_succ]
    by_cases used : (slot bytes (i + 1)).userId ≠ 0
    · rw [if_pos used, if_pos used, Nat.mod_eq_of_lt (by omega),
        ih (by omega) (by omega) (by omega)]
      simp only [largestId, List.foldl_cons, List.length_cons, Option.some.injEq,
        Prod.mk.injEq, and_true]
      omega
    · rw [if_neg used, if_neg used, ih (by omega) (by omega) (by omega)]

/-- The users and the largest user id of all whole slots. -/
theorem userNumGet_slots (header : 8 ≤ bytes.length) (few : slotCount bytes < 2 ^ 16) :
    ∃ pos', userNumGet.run ⟨some bytes, pos, full⟩ =
      (some ((liveSlots bytes).length, largestId bytes 0 (liveSlots bytes)),
        ⟨some bytes, pos', full⟩) := by
  have slots : (bytes.length + (2 ^ 32 - 8)) % 2 ^ 32 / 1058 = slotCount bytes := by
    have small : bytes.length - 8 < 1058 * 2 ^ 16 := by
      unfold slotCount at few
      omega
    have size : (bytes.length + (2 ^ 32 - 8)) % 2 ^ 32 = bytes.length - 8 := by omega
    rw [size, slotCount]
  have inside : 8 + 1058 * (0 + slotCount bytes) ≤ bytes.length := by
    unfold slotCount
    omega
  have counted :=
    @userNumGetLoop_slots bytes 0 full (slotCount bytes) 0 0 0 inside (by omega) (Nat.le_refl 0)
  rw [Nat.zero_add] at counted
  have ran : (userNumGet.run ⟨some bytes, pos, full⟩).1 =
      some ((liveSlots bytes).length, largestId bytes 0 (liveSlots bytes)) := by
    rw [userNumGet_run, slots]
    exact counted
  obtain ⟨_, _, pos', same, kept, _⟩ := userNumGet_keeps ran
  cases same
  exact ⟨pos', Prod.ext ran kept⟩

end Count

/-! ## The largest user id -/

theorem le_largestId {bytes : List Byte} {least userId : Nat} {slots : List Nat}
    (used : userId ∈ slots) :
    (slot bytes userId).userId ≤ largestId bytes least slots := by
  have above (least : Nat) (slots : List Nat) : least ≤ largestId bytes least slots := by
    induction slots generalizing least with
    | nil => exact Nat.le_refl least
    | cons first rest ih =>
      exact Nat.le_trans (Nat.le_max_left ..) (ih (max least (slot bytes first).userId))
  induction slots generalizing least with
  | nil => cases used
  | cons first rest ih =>
    rcases List.mem_cons.mp used with rfl | later
    · exact Nat.le_trans (Nat.le_max_right ..) (above _ rest)
    · exact ih later

/-- The largest user id is that of a slot. -/
theorem largestId_of_slot (bytes : List Byte) (least : Nat) (slots : List Nat) :
    largestId bytes least slots = least ∨ ∃ userId ∈ slots, largestId bytes least slots =
      (slot bytes userId).userId := by
  induction slots generalizing least with
  | nil => exact .inl rfl
  | cons first rest ih =>
    rcases ih (max least (slot bytes first).userId) with same | ⟨userId, used, same⟩
    · rcases Nat.le_total least (slot bytes first).userId with up | down
      · exact .inr ⟨first, List.mem_cons_self, same.trans (Nat.max_eq_right up)⟩
      · exact .inl (same.trans (Nat.max_eq_left down))
    · exact .inr ⟨userId, List.mem_cons_of_mem first used, same⟩

theorem usedSlots_add (bytes : List Byte) (first some more : Nat) :
    usedSlots bytes first (some + more) =
    usedSlots bytes first some ++ usedSlots bytes (first + some) more := by
  have parts := @List.range'_append first some more 1
  rw [Nat.one_mul] at parts
  rw [usedSlots, ← parts, List.filter_append]
  rfl

/-! ## Files that adds and deletes build -/

/-- A header and whole slots, each one zero or with the record of its own user id. -/
structure UserFile (bytes : List Byte) : Prop where
  whole : bytes = [] ∨ bytes.length = 8 + 1058 * slotCount bytes
  few : slotCount bytes < 2 ^ 16
  own : ∀ userId, userId ≠ 0 → slot bytes userId = .zero 1058 ∨ (slot bytes userId).userId = userId

theorem UserFile.empty : UserFile [] :=
  ⟨.inl rfl, by decide, fun userId _ => .inl (UserTable.record_empty userId)⟩

section Built

variable {bytes : List Byte}

/-- Storing a record in its slot, or zeros. -/
theorem UserFile.store (file : UserFile bytes) {user : UserInfo} {userId : Nat}
    (positive : userId ≠ 0) (bound : userId < 2 ^ 16)
    (record : user = .zero 1058 ∨ user.userId = userId) :
    UserFile (splice bytes (slotOffset userId) user.bytes) := by
  obtain ⟨here, others⟩ :=
    slot_stored positive (@rfl _ (splice bytes (slotOffset userId) user.bytes))
  have size : (splice bytes (slotOffset userId) user.bytes).length =
      max bytes.length (slotOffset userId + 1058) := by
    rw [length_splice, user.size]
  have few := file.few
  have length : bytes.length = 0 ∨ bytes.length = 8 + 1058 * slotCount bytes :=
    file.whole.imp_left (congrArg List.length)
  have grown : (splice bytes (slotOffset userId) user.bytes).length = 8 + 1058 *
      max (slotCount bytes) userId := by
    rw [size]
    unfold slotOffset
    rcases length with empty | slots
    · have none_there : slotCount bytes = 0 := by
        unfold slotCount
        omega
      omega
    · omega
  have count : slotCount (splice bytes (slotOffset userId) user.bytes) =
      max (slotCount bytes) userId := by
    rw [slotCount, grown]
    omega
  refine ⟨.inr (count ▸ grown), by omega, fun other present => ?_⟩
  by_cases same : other = userId
  · rw [same, here]
    exact record
  · rw [others other present same]
    exact file.own other present

theorem UserFile.mem_liveSlots (file : UserFile bytes) {userId : Nat} :
    userId ∈ liveSlots bytes ↔ userId ≠ 0 ∧ (slot bytes userId).userId ≠ 0 := by
  rw [liveSlots, mem_usedSlots]
  constructor
  · rintro ⟨⟨first, _⟩, used⟩
    exact ⟨by omega, used⟩
  · rintro ⟨positive, used⟩
    refine ⟨⟨by omega, ?_⟩, used⟩
    by_contra past
    -- behind the last slot there are only zeros
    have size : bytes.length ≤ slotOffset userId := by
      unfold slotOffset
      rcases file.whole with empty | slots
      · rw [empty]
        exact Nat.zero_le _
      · omega
    apply used
    have zero : slot bytes userId = .zero 1058 := by
      apply Image.ext_byte
      intro i
      rw [slot, Image.byte_stored, getD_past (by omega), Image.byte_zero, ite_self]
    rw [zero]
    decide

theorem UserFile.mem_liveSlots_store (file : UserFile bytes) {user : UserInfo} {userId : Nat}
    (positive : userId ≠ 0) (bound : userId < 2 ^ 16)
    (record : user = .zero 1058 ∨ user.userId = userId) {other : Nat} :
    other ∈ liveSlots (splice bytes (slotOffset userId) user.bytes) ↔
      if other = userId then user.userId ≠ 0 else other ∈ liveSlots bytes := by
  obtain ⟨here, others⟩ :=
    slot_stored positive (@rfl _ (splice bytes (slotOffset userId) user.bytes))
  rw [(file.store positive bound record).mem_liveSlots, file.mem_liveSlots]
  by_cases same : other = userId
  · rw [if_pos same, same, here, and_iff_right positive]
  · rw [if_neg same]
    refine and_congr_right fun present => ?_
    rw [others other present same]

/-- A slot in use has the record of its own user id. -/
theorem UserFile.userId_live (file : UserFile bytes) {userId : Nat}
    (live : userId ∈ liveSlots bytes) :
    (slot bytes userId).userId = userId := by
  obtain ⟨positive, used⟩ := file.mem_liveSlots.mp live
  rcases file.own userId positive with zero | own
  · rw [zero] at used
    exact absurd (by decide) used
  · exact own

/-- The largest id of a live user. -/
def largestUser (bytes : List Byte) : Nat := largestId bytes 0 (liveSlots bytes)

theorem UserFile.le_largestUser (file : UserFile bytes) {userId : Nat}
    (live : userId ∈ liveSlots bytes) :
    userId ≤ largestUser bytes := by
  have least := @le_largestId bytes 0 userId _ live
  rwa [file.userId_live live] at least

theorem UserFile.largestUser_live (file : UserFile bytes) (positive : largestUser bytes ≠ 0) :
    largestUser bytes ∈ liveSlots bytes := by
  rcases largestId_of_slot bytes 0 (liveSlots bytes) with zero | ⟨userId, live, same⟩
  · exact absurd zero positive
  · rw [file.userId_live live] at same
    rw [largestUser, same]
    exact live

/-- All slots in use lie in front of the largest user's, and the file holds these. -/
theorem UserFile.largestUser_inside (file : UserFile bytes) : largestUser bytes ≤ slotCount bytes ∧
    liveSlots bytes = usedSlots bytes 1 (largestUser bytes) := by
  have inside : largestUser bytes ≤ slotCount bytes := by
    by_cases positive : largestUser bytes ≠ 0
    · have within := (mem_usedSlots.mp (file.largestUser_live positive)).1
      omega
    · omega
  refine ⟨inside, ?_⟩
  have parts := usedSlots_add bytes 1 (largestUser bytes) (slotCount bytes - largestUser bytes)
  have total : largestUser bytes + (slotCount bytes - largestUser bytes) =
      slotCount bytes := by omega
  rw [total] at parts
  have rest : usedSlots bytes (1 + largestUser bytes) (slotCount bytes - largestUser bytes) =
      [] := by
    apply List.eq_nil_iff_forall_not_mem.mpr
    intro userId used
    have bounds := mem_usedSlots.mp used
    have live : userId ∈ liveSlots bytes := mem_usedSlots.mpr ⟨by omega, bounds.2⟩
    have least := file.le_largestUser live
    omega
  rw [rest, List.append_nil] at parts
  exact parts

/-- `user_num_get` on a file that is not empty. -/
theorem UserFile.userNumGet (file : UserFile bytes) (nonempty : bytes ≠ []) (pos : Nat)
    (full : Bool) :
    ∃ pos', userNumGet.run ⟨some bytes, pos, full⟩ =
      (some ((liveSlots bytes).length, largestUser bytes), ⟨some bytes, pos', full⟩) := by
  have size := file.whole.resolve_left nonempty
  exact userNumGet_slots (by omega) file.few

end Built

/-- A record with nothing but its user id and a card. -/
def cardRecord (userId cardId : Nat) : UserInfo :=
  UserInfo.setUserId ((Image.zero 1058).put 2 (leBytes 4 cardId)) userId

theorem userId_cardRecord {userId : Nat} (bound : userId < 2 ^ 16) (cardId : Nat) :
    (cardRecord userId cardId).userId = userId :=
  UserInfo.userId_setUserId _ bound

/-- The file with users 1 and 2. -/
def twoUsers : List Byte :=
  splice (splice [] (slotOffset 1) (cardRecord 1 1).bytes) (slotOffset 2) (cardRecord 2 2).bytes

theorem userFile_twoUsers : UserFile twoUsers :=
  (UserFile.empty.store Nat.one_ne_zero (by decide) (.inr (userId_cardRecord (by decide) 1))).store
    (by decide) (by decide) (.inr (userId_cardRecord (by decide) 2))

theorem slot_twoUsers : slot twoUsers 1 = cardRecord 1 1 ∧ slot twoUsers 2 = cardRecord 2 2 := by
  obtain ⟨first, -⟩ :=
    slot_stored Nat.one_ne_zero (@rfl _ (splice [] (slotOffset 1) (cardRecord 1 1).bytes))
  obtain ⟨second, others⟩ := slot_stored (show 2 ≠ 0 by decide) (@rfl _ twoUsers)
  exact ⟨(others 1 Nat.one_ne_zero (by decide)).trans first, second⟩

theorem largestUser_twoUsers : largestUser twoUsers = 2 := by
  have count : slotCount twoUsers = 2 := by
    rw [slotCount, twoUsers, length_splice, length_splice, Image.size, Image.size]
    decide
  have inside := userFile_twoUsers.largestUser_inside.1
  have live : 2 ∈ liveSlots twoUsers := by
    rw [userFile_twoUsers.mem_liveSlots, slot_twoUsers.2, userId_cardRecord (by decide)]
    decide
  have least := userFile_twoUsers.le_largestUser live
  omega

/-! ## Files of any length -/

/-- The number of whole slots with a user id, and the largest one, 0 when there is none. -/
structure CountsSlots (bytes : List Byte) (userNum maxUserId : Nat) : Prop where
  users : userNum = (liveSlots bytes).length
  bound : ∀ userId ∈ liveSlots bytes, (slot bytes userId).userId ≤ maxUserId
  reached : (liveSlots bytes = [] ∧ maxUserId = 0) ∨
    ∃ userId ∈ liveSlots bytes, (slot bytes userId).userId = maxUserId

theorem countsSlots_largestUser (bytes : List Byte) :
    CountsSlots bytes (liveSlots bytes).length (largestUser bytes) := by
  refine ⟨rfl, fun userId => le_largestId, ?_⟩
  rcases largestId_of_slot bytes 0 (liveSlots bytes) with zero | ⟨userId, live, same⟩
  · left
    refine ⟨List.eq_nil_iff_forall_not_mem.mpr fun userId live => ?_, zero⟩
    have used := (mem_usedSlots.mp live).2
    have least := @le_largestId bytes 0 userId _ live
    omega
  · exact .inr ⟨userId, live, same.symm⟩

/-- A file that ends within the header: its size minus the header wraps around, and the
first user id cannot be read. -/
theorem userNumGet_short {bytes : List Byte} (short : bytes.length < 8) (pos : Nat) (full : Bool) :
    (userNumGet.run ⟨some bytes, pos, full⟩).1 = none := by
  obtain ⟨left, many⟩ : ∃ left, (bytes.length + (2 ^ 32 - 8)) % 2 ^ 32 / 1058 = left + 1 :=
    ⟨(bytes.length + (2 ^ 32 - 8)) % 2 ^ 32 / 1058 - 1, by omega⟩
  rw [userNumGet_run, many]
  have addr : (1058 * 0 + 8) % 2 ^ 32 = 8 := rfl
  exact userNumGetLoop_end addr (by omega)

theorem exec_fst {α : Type} (prog : FileProg α) (content : Option (List Byte)) :
    (prog.exec content).1 = (prog.run (.fresh content)).1 := rfl

theorem not_counts_short {bytes : List Byte} (short : bytes.length < 8) :
    ¬ ∃ userNum maxUserId, (userNumGet.exec (some bytes)).1 = some (userNum, maxUserId) ∧
      CountsSlots bytes userNum maxUserId := by
  rintro ⟨userNum, maxUserId, counted, -⟩
  rw [exec_fst, FileState.fresh, userNumGet_short short] at counted
  cases counted

/-- The whole slots are counted exactly when the file has a whole header. -/
theorem userNumGet_counts_iff (bytes : List Byte) (few : slotCount bytes < 2 ^ 16) :
    (∃ userNum maxUserId, (userNumGet.exec (some bytes)).1 = some (userNum, maxUserId) ∧
      CountsSlots bytes userNum maxUserId) ↔ 8 ≤ bytes.length := by
  constructor
  · intro counts
    by_contra short
    exact not_counts_short (by omega) counts
  · intro header
    obtain ⟨_, ran⟩ := @userNumGet_slots bytes 0 true header few
    refine ⟨_, _, ?_, countsSlots_largestUser bytes⟩
    rw [exec_fst, FileState.fresh, ran]
    rfl

/-- Two whole slots. -/
theorem userNumGet_counts_two :
    ∃ userNum maxUserId, (userNumGet.exec (some twoUsers)).1 = some (userNum, maxUserId) ∧
    CountsSlots twoUsers userNum maxUserId := by
  have header : 8 ≤ twoUsers.length := by
    rw [twoUsers, length_splice, Image.size]
    unfold slotOffset
    omega
  exact (userNumGet_counts_iff twoUsers userFile_twoUsers.few).mpr header

/-- An existing file without a byte. -/
theorem userNumGet_uncounted :
    ¬ ∃ userNum maxUserId, (userNumGet.exec (some [])).1 = some (userNum, maxUserId) ∧
    CountsSlots [] userNum maxUserId := not_counts_short (by decide)

end WifiAccess

import Mathlib.Logic.Function.Basic
import WifiAccess.User.Slots

/-! The user file refines a map from user ids to records: each operation on one
user answers and does what a map operation does. -/

namespace WifiAccess

open FileProg

/-- A call of `add_del_get_one_user` or `get_set_state` with the caller's struct. -/
inductive UserOp where
  | add (user : UserInfo)
  | del (user : UserInfo)
  | get (user : UserInfo)
  | getState (state : Image 16) (userId : BitVec 16)
  | setState (state : Image 16) (userId : BitVec 16)

namespace UserOp

def userId : UserOp → Nat
  | add user | del user | get user => user.userId
  | getState _ userId | setState _ userId => userId.toNat

/-- The return value, and what the caller's struct holds afterwards. -/
def prog : UserOp → FileProg (Int × List Byte)
  | add user => do
    let (result, user) ← addDelGetOneUser user addOneUser
    return (result, user.bytes)
  | del user => do
    let (result, user) ← addDelGetOneUser user delOneUser
    return (result, user.bytes)
  | get user => do
    let (result, user) ← addDelGetOneUser user getOneUser
    return (result, user.bytes)
  | getState state userId => do
    let (result, state) ← getSetState state userId.toNat getUser
    return (result, state.bytes)
  | setState state userId => do
    let (result, state) ← getSetState state userId.toNat setUser
    return (result, state.bytes)

end UserOp

/-! ## The map -/

/-- A record for each user id, and how far the file reaches. -/
structure UserTable where
  record : Nat → UserInfo
  extent : Nat

namespace UserTable

def ofBytes (bytes : List Byte) : UserTable := ⟨slot bytes, bytes.length⟩

def reach (table : UserTable) (off : Nat) : UserTable :=
  { table with extent := max table.extent off }

def store (table : UserTable) (userId : Nat) (user : UserInfo) : UserTable :=
  ⟨Function.update table.record userId user, max table.extent (slotOffset userId + 1058)⟩

/-- No slot of an empty file holds anything. -/
theorem record_empty (userId : Nat) : (ofBytes []).record userId = .zero 1058 := by
  apply Image.ext_byte
  intro i
  simp [ofBytes, slot, Image.byte_stored]

end UserTable

def UserInfo.withState (user : UserInfo) (state : Image 16) : UserInfo := user.put 1042 state.bytes

namespace UserOp

/-- What the operation does to the map; user id 0 has no slot. -/
def effect (table : UserTable) (op : UserOp) : UserTable :=
  if op.userId = 0 then table
  else match op with
    | add user => table.store user.userId user
    | del user => table.store user.userId (.zero 1058)
    | get user => table.reach (slotOffset user.userId)
    | getState _ userId => table.reach (slotOffset userId.toNat + 1042)
    | setState state userId => table.store userId.toNat
      ((table.record userId.toNat).withState state)

/-- What the operation hands back, unless it fails. -/
def answer (table : UserTable) (op : UserOp) : Option (List Byte) :=
  if op.userId = 0 then none
  else match op with
    | add user => some user.bytes
    | del _ => some (Image.zero 1058).bytes
    | get user =>
      if slotOffset user.userId + 1058 ≤ table.extent then
        some (table.record user.userId).bytes
      else none
    | getState _ userId =>
      if slotOffset userId.toNat + 1058 ≤ table.extent then
        some (table.record userId.toNat).state
      else none
    | setState state _ => some state.bytes

end UserOp

/-- A return value of 0 with the answer, or of -1 without one. -/
def Answers (result : Int × List Byte) : Option (List Byte) → Prop
  | some bytes => result = (0, bytes)
  | none => result.1 = -1

/-- The file holds the records of the map in their slots. -/
structure HoldsTable (bytes : List Byte) (table : UserTable) : Prop where
  extent : bytes.length = table.extent
  record : ∀ userId, userId ≠ 0 → slot bytes userId = table.record userId

theorem HoldsTable.ofBytes (bytes : List Byte) : HoldsTable bytes (.ofBytes bytes) :=
  ⟨rfl, fun _ _ => rfl⟩

/-! ## Slots that are written -/

theorem slot_splice_other {bytes written : List Byte} {userId other off : Nat}
    (positive : userId ≠ 0) (nonzero : other ≠ 0) (apart : other ≠ userId)
    (inside : off + written.length ≤ 1058) :
    slot (splice bytes (slotOffset userId + off) written) other = slot bytes other := by
  apply Image.stored_splice_apart
  unfold slotOffset
  omega

/-- A record stored in its slot is there, and the others are as they were. -/
theorem slot_stored {before after : List Byte} {userId : Nat} {user : UserInfo}
    (positive : userId ≠ 0) (stored : after = splice before (slotOffset userId) user.bytes) :
    slot after userId = user ∧ ∀ other, other ≠ 0 → other ≠ userId →
      slot after other = slot before other := by
  subst stored
  refine ⟨Image.stored_splice user before (slotOffset userId), fun other present apart => ?_⟩
  exact @slot_splice_other before user.bytes userId other 0 positive present apart (by simp)

theorem slot_grow (bytes : List Byte) (size userId : Nat) :
    slot (grow bytes size) userId = slot bytes userId := by
  apply Image.ext
  exact window_grow ..

theorem slot_splice_state (bytes : List Byte) (userId : Nat) (state : Image 16) :
    slot (splice bytes (slotOffset userId + 1042) state.bytes) userId =
      (slot bytes userId).withState state := by
  apply Image.ext_byte
  intro i
  rw [UserInfo.withState, Image.byte_put (by simp), slot, slot, Image.byte_stored,
    Image.byte_stored, getD_splice,
    state.length_bytes]
  by_cases inside : i < 1058
  · rw [if_pos inside, if_pos inside]
    by_cases written : 1042 ≤ i
    · have index : slotOffset userId + i - (slotOffset userId + 1042) = i - 1042 := by omega
      rw [if_pos (by omega), if_pos (by omega), index]
    · rw [if_neg (by omega), if_neg (by omega)]
  · rw [if_neg inside, if_neg (by omega), if_neg inside]

theorem UserInfo.valid_withState (user : UserInfo) (state : Image 16) :
    (user.withState state).Valid ↔ user.Valid := by
  have kept {off len : Nat} (before : off + len ≤ 1042) : (user.withState state).field off len =
      user.field off len :=
    Image.field_put_apart (by simp) (.inl before)
  simp only [Valid, Image.IntactAt, Image.prefixCrc, Image.num,
    kept (show 0 + 1038 ≤ 1042 by decide),
    kept (show 1038 + 4 ≤ 1042 by decide)]

namespace HoldsTable

variable {bytes : List Byte} {table : UserTable}

theorem grow (holds : HoldsTable bytes table) (off : Nat) :
    HoldsTable (grow bytes off) (table.reach off) := by
  refine ⟨?_, fun userId positive => (slot_grow ..).trans (holds.record userId positive)⟩
  rw [length_grow, holds.extent]
  rfl

theorem store (holds : HoldsTable bytes table) {userId : Nat} (positive : userId ≠ 0)
    (user : UserInfo) :
    HoldsTable (splice bytes (slotOffset userId) user.bytes) (table.store userId user) := by
  constructor
  · simp [UserTable.store, holds.extent]
  · intro other nonzero
    by_cases same : other = userId
    · subst same
      simp [UserTable.store, slot]
    · have kept :=
        @slot_splice_other bytes user.bytes userId other 0 positive nonzero same (by simp)
      rw [Nat.add_zero] at kept
      simp [UserTable.store, Function.update_of_ne same, kept, holds.record other nonzero]

theorem storeState (holds : HoldsTable bytes table) {userId : Nat} (positive : userId ≠ 0)
    (state : Image 16) :
    HoldsTable (splice bytes (slotOffset userId + 1042) state.bytes)
      (table.store userId ((table.record userId).withState state)) := by
  constructor
  · simp [UserTable.store, holds.extent, Nat.add_assoc]
  · intro other nonzero
    by_cases same : other = userId
    · subst same
      simp [UserTable.store, slot_splice_state, holds.record other nonzero]
    · rw [slot_splice_other positive nonzero same (by simp), holds.record other nonzero]
      simp [UserTable.store, Function.update_of_ne same]

end HoldsTable

/-! ## Runs -/

/-- A read of a whole struct inside the file, and a short one. -/
theorem load_inside {n : Nat} (positive : 0 < n) (image : Image n) (bytes : List Byte) (off : Nat) :
    Answers (if ((bytes.drop off).take n).length = n then 0 else -1,
      (image.load ((bytes.drop off).take n)).bytes)
      (if off + n ≤ bytes.length then some (Image.stored n bytes off).bytes else none) := by
  by_cases inside : off + n ≤ bytes.length
  · have whole : ((bytes.drop off).take n).length = n := by simp; omega
    rw [if_pos inside, if_pos whole, ← window_inside inside, Image.load_window]
    rfl
  · rw [if_neg inside]
    have short : ((bytes.drop off).take n).length ≠ n := by simp; omega
    simp only [Answers, short, ↓reduceIte]

/-- One operation on the file answers as the map does and keeps it in step. -/
theorem UserOp.refines (op : UserOp) {content : Option (List Byte)} {table : UserTable}
    (holds : HoldsTable (content.getD []) table) :
    Answers (op.prog.exec content).1 (op.answer table) ∧
      HoldsTable ((op.prog.exec content).2.getD []) (op.effect table) := by
  unfold answer effect
  by_cases zero : op.userId = 0
  · rw [if_pos zero, if_pos zero]
    cases op with
    | add user =>
      have ran := @addDelGetOneUser_zero content 0 true user zero addOneUser
      simp only [exec, FileState.fresh, prog, run_bind, run_pure, ran]
      exact ⟨rfl, holds⟩
    | del user =>
      have ran := @addDelGetOneUser_zero content 0 true user zero delOneUser
      simp only [exec, FileState.fresh, prog, run_bind, run_pure, ran]
      exact ⟨rfl, holds⟩
    | get user =>
      have ran := @addDelGetOneUser_zero content 0 true user zero getOneUser
      simp only [exec, FileState.fresh, prog, run_bind, run_pure, ran]
      exact ⟨rfl, holds⟩
    | getState state userId =>
      have ran := @getSetState_zero content 0 true state getUser
      have same : userId.toNat = 0 := zero
      simp only [exec, FileState.fresh, prog, run_bind, run_pure, same, ran]
      exact ⟨rfl, holds⟩
    | setState state userId =>
      have ran := @getSetState_zero content 0 true state setUser
      have same : userId.toNat = 0 := zero
      simp only [exec, FileState.fresh, prog, run_bind, run_pure, same, ran]
      exact ⟨rfl, holds⟩
  · rw [if_neg zero, if_neg zero]
    cases op with
    | add user =>
      have ran := @addDelGetOneUser_add content 0 true user zero
      simp only [exec, FileState.fresh, prog, run_bind, run_pure, ran]
      exact ⟨rfl, holds.store zero user⟩
    | del user =>
      have ran := @addDelGetOneUser_del content 0 true user zero
      simp only [exec, FileState.fresh, prog, run_bind, run_pure, ran]
      exact ⟨rfl, holds.store zero (.zero 1058)⟩
    | get user =>
      have ran := @addDelGetOneUser_get content 0 true user zero
      simp only [exec, FileState.fresh, prog, run_bind, run_pure, ran]
      refine ⟨?_, holds.grow _⟩
      rw [← holds.extent, ← holds.record user.userId zero]
      exact load_inside (by decide) user _ _
    | getState state userId =>
      have ran := @getSetState_get content 0 true state userId.toNat zero userId.isLt
      simp only [exec, FileState.fresh, prog, run_bind, run_pure, ran]
      refine ⟨?_, holds.grow _⟩
      have field : (slot (content.getD []) userId.toNat).state =
          (Image.stored 16 (content.getD []) (slotOffset userId.toNat + 1042)).bytes :=
            window_window _ (by decide)
      rw [← holds.extent, ← holds.record userId.toNat zero, field]
      exact load_inside (by decide) state _ _
    | setState state userId =>
      have ran := @getSetState_set content 0 true state userId.toNat zero userId.isLt
      simp only [exec, FileState.fresh, prog, run_bind, run_pure, ran]
      exact ⟨rfl, holds.storeState zero state⟩

/-- The file after a sequence of operations. -/
def UserOp.runAll (content : Option (List Byte)) (ops : List UserOp) : Option (List Byte) :=
  ops.foldl (fun content op => (op.prog.exec content).2) content

theorem UserOp.runAll_holds {content : Option (List Byte)} {table : UserTable}
    (holds : HoldsTable (content.getD []) table) (ops : List UserOp) :
    HoldsTable ((runAll content ops).getD []) (ops.foldl effect table) := by
  induction ops generalizing content table with
  | nil => exact holds
  | cons op rest ih => exact ih (op.refines holds).2

/-- An operation leaves the records of all other users alone. -/
theorem UserOp.record_effect (table : UserTable) (op : UserOp) {userId : Nat}
    (apart : userId ≠ op.userId) :
    (op.effect table).record userId = table.record userId := by
  unfold effect
  split
  · rfl
  · cases op with
    | get user => rfl
    | getState state id => rfl
    | _ => exact Function.update_of_ne apart ..

/-- A state that is written leaves every record as valid as it was. -/
theorem UserOp.valid_setState (table : UserTable) (state : Image 16) (userId : BitVec 16)
    (other : Nat) :
    ((effect table (setState state userId)).record other).Valid ↔ (table.record other).Valid := by
  by_cases same : other = userId.toNat
  · subst same
    unfold effect
    split
    · rfl
    · simp only [UserTable.store, Function.update_self]
      exact UserInfo.valid_withState ..
  · rw [record_effect table _ same]

/-- After any sequence of operations on any file, the slots hold the map that the
operations build from its records, the next operation answers as the map does, no
slot but its own changes, and a state that is written spoils no record. -/
theorem memberBin_refines (content : Option (List Byte)) (ops : List UserOp) (op : UserOp) :
    let table := ops.foldl UserOp.effect (.ofBytes (content.getD []))
    let reached := UserOp.runAll content ops
    let next := (op.prog.exec reached).2
    HoldsTable (reached.getD []) table ∧ Answers (op.prog.exec reached).1 (op.answer table) ∧
      HoldsTable (next.getD []) (op.effect table) ∧
      (∀ userId, userId ≠ 0 → userId ≠ op.userId →
        slot (next.getD []) userId = slot (reached.getD []) userId) ∧
      ∀ state userId, op = .setState state userId → ∀ other, other ≠ 0 →
        ((slot (next.getD []) other).Valid ↔ (slot (reached.getD []) other).Valid) := by
  intro table reached next
  have holds : HoldsTable (reached.getD []) table := UserOp.runAll_holds (.ofBytes _) ops
  obtain ⟨answers, kept⟩ := op.refines holds
  refine ⟨holds, answers, kept, ?_, ?_⟩
  · intro userId positive apart
    rw [kept.record userId positive, holds.record userId positive]
    exact op.record_effect table apart
  · rintro state userId rfl other positive
    rw [kept.record other positive, holds.record other positive]
    exact UserOp.valid_setState table state userId other

end WifiAccess

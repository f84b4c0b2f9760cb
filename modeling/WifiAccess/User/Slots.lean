import WifiAccess.User.Database

/-! Slots of the user file, and what the operations on one user do to it. -/

namespace WifiAccess

open FileProg

/-- Where the slot of a user id starts. -/
def slotOffset (userId : Nat) : Nat := 8 + 1058 * (userId - 1)

theorem slotAddr_pos {userId : Nat} (positive : userId ≠ 0) (bound : userId < 2 ^ 16) (off : Nat)
    (inside : off ≤ 1058) : slotAddr userId off = slotOffset userId + off := by
  unfold slotAddr slotOffset
  omega

theorem slotOffset_small {userId : Nat} (bound : userId < 2 ^ 16) (off : Nat)
    (inside : off ≤ 1058) :
    slotOffset userId + off < 2 ^ 31 := by
  unfold slotOffset
  omega

/-- User id 0 addresses a negative offset. -/
theorem slotAddr_zero (off : Nat) (inside : off ≤ 1042) : ¬ slotAddr 0 off < 2 ^ 31 := by
  unfold slotAddr
  omega

/-- The record in the slot of a user id, zero past the end of the file. -/
def slot (bytes : List Byte) (userId : Nat) : UserInfo := .stored 1058 bytes (slotOffset userId)

namespace UserInfo

theorem userId_lt (user : UserInfo) : user.userId < 2 ^ 16 := user.num_lt 0 2

theorem userId_setUserId (user : UserInfo) {userId : Nat} (bound : userId < 2 ^ 16) :
    (user.setUserId userId).userId = userId :=
  user.num_put (by decide) (by omega)

theorem valid_withCrc (user : UserInfo) : user.withCrc.Valid := user.intactAt_sealAt (by decide)

/-- A record whose bytes after the user id are all zero. -/
def Blank (user : UserInfo) : Prop := ∀ i, 2 ≤ i → user.byte i = 0#8

theorem byte_authority (user : UserInfo) {i : Nat} (inside : i < 16) :
    user.authority.getD i 0#8 = user.byte (39 + i) := Image.byte_field inside

theorem byte_state (user : UserInfo) {i : Nat} (inside : i < 16) :
    user.state.getD i 0#8 = user.byte (1042 + i) := Image.byte_field inside

theorem Blank.authority {user : UserInfo} (blank : user.Blank) (k : Nat) :
    bitAt user.authority k = false := by
  unfold bitAt
  by_cases inside : k / 8 < 16
  · rw [user.byte_authority inside, blank _ (by omega)]
    simp
  · rw [getD_past (by simp [UserInfo.authority]; omega)]
    simp

theorem Blank.effective {user : UserInfo} (blank : user.Blank) : user.effective = 0#8 :=
  blank 6 (by decide)

theorem zero_blank : UserInfo.Blank (.zero 1058) := fun i _ => Image.byte_zero i

end UserInfo

/-- What a read leaves in a cleared record that holds only a user id. -/
theorem load_slot (bytes : List Byte) (userId off : Nat) :
    let loaded := (UserInfo.setUserId (.zero 1058) userId).load ((bytes.drop off).take 1058)
    UserInfo.Blank loaded ∨ loaded = .stored 1058 bytes off := by
  intro loaded
  have short : ((bytes.drop off).take 1058).length ≤ 1058 := by
    rw [List.length_take]
    omega
  have byte (i : Nat) : Image.byte loaded i =
      if i < ((bytes.drop off).take 1058).length then ((bytes.drop off).take 1058).getD i 0#8
      else if i < 2 then (leBytes 2 userId).getD i 0#8 else 0#8 := by
    have cleared : Image.byte (UserInfo.setUserId (.zero 1058) userId) i =
        if 0 ≤ i ∧ i < 0 + (leBytes 2 userId).length then (leBytes 2 userId).getD (i - 0) 0#8
        else Image.byte (.zero 1058) i := Image.byte_put (by simp) i
    simp only [Nat.zero_le, true_and, Nat.zero_add, Nat.sub_zero, length_leBytes, Image.byte_zero]
      at cleared
    rw [← cleared]
    exact Image.byte_load short i
  rcases Nat.lt_or_ge ((bytes.drop off).take 1058).length 2 with few | most
  · left
    intro i later
    rw [byte, if_neg (by omega), if_neg (by omega)]
  · right
    apply Image.ext_byte
    intro i
    rw [byte, Image.byte_stored]
    split
    · rename_i within
      rw [if_pos (by omega), getD_take, if_pos (by omega), getD_drop]
    · rename_i outside
      rw [if_neg (by omega)]
      split
      · rw [getD_past]
        rw [List.length_take, List.length_drop] at outside
        omega
      · rfl

/-- The card list entry made from a record. -/
def UserInfo.link (user : UserInfo) : CardLink := .stored 6 user.bytes 0

theorem UserInfo.userId_link (user : UserInfo) : user.link.userId = user.userId := by
  unfold CardLink.userId UserInfo.userId Image.num Image.field UserInfo.link Image.stored
  rw [window_window _ (by decide)]

theorem UserInfo.cardId_link (user : UserInfo) : user.link.cardId = user.cardId := by
  unfold CardLink.cardId UserInfo.cardId Image.num Image.field UserInfo.link Image.stored
  rw [window_window _ (by decide)]

/-- A file that consists of the header and one slot. -/
def soleSlot (user : UserInfo) : List Byte := List.replicate 8 0#8 ++ user.bytes

theorem slot_soleSlot (user : UserInfo) : slot (soleSlot user) 1 = user := by
  apply Image.ext
  have right := window_append_right (List.replicate 8 0#8) user.bytes 0 1058
  rw [List.length_replicate] at right
  have all := window_all user.bytes
  rw [user.size] at all
  exact right.trans all

section Specs

variable {content : Option (List Byte)} {pos : Nat} {full : Bool}

/-- Reading a user: the file only grows, up to the start of the slot. -/
theorem addDelGetOneUser_get {user : UserInfo} (positive : user.userId ≠ 0) :
    let off := slotOffset user.userId
    let got := ((content.getD []).drop off).take 1058
    (addDelGetOneUser user getOneUser).run ⟨content, pos, full⟩ =
      ((if got.length = 1058 then 0 else -1, user.load got),
        ⟨some (grow (content.getD []) off), off + got.length, full && got.length == 1058⟩) := by
  have small := slotOffset_small user.userId_lt 0 (Nat.zero_le 1058)
  have addr := slotAddr_pos positive user.userId_lt 0 (Nat.zero_le 1058)
  simp only [Nat.add_zero] at addr small
  simp [addDelGetOneUser, run_lseek small, addr, run_read, FileState.bytes, getOneUser, addOneUser,
    delOneUser, drop_grow]

/-- User id 0 fails in the seek. -/
theorem addDelGetOneUser_zero {user : UserInfo} (zero : user.userId = 0) (cmd : Nat) :
    (addDelGetOneUser user cmd).run ⟨content, pos, full⟩ =
      ((-1, user), ⟨some (content.getD []), 0, false⟩) := by
  simp [addDelGetOneUser, zero, run_lseek_negative (slotAddr_zero 0 (by decide)), FileState.bytes]

theorem addDelGetOneUser_add {user : UserInfo} (positive : user.userId ≠ 0) :
    let off := slotOffset user.userId
    (addDelGetOneUser user addOneUser).run ⟨content, pos, full⟩ =
      ((0, user), ⟨some (splice (content.getD []) off user.bytes), off + 1058, full⟩) := by
  have small := slotOffset_small user.userId_lt 0 (Nat.zero_le 1058)
  have addr := slotAddr_pos positive user.userId_lt 0 (Nat.zero_le 1058)
  simp only [Nat.add_zero] at addr small
  simp [addDelGetOneUser, run_lseek small, addr, FileState.bytes, addOneUser]

theorem addDelGetOneUser_del {user : UserInfo} (positive : user.userId ≠ 0) :
    let off := slotOffset user.userId
    (addDelGetOneUser user delOneUser).run ⟨content, pos, full⟩ =
      ((0, .zero 1058), ⟨some (splice (content.getD []) off (Image.zero 1058).bytes),
        off + 1058, full⟩) := by
  have small := slotOffset_small user.userId_lt 0 (Nat.zero_le 1058)
  have addr := slotAddr_pos positive user.userId_lt 0 (Nat.zero_le 1058)
  simp only [Nat.add_zero] at addr small
  simp [addDelGetOneUser, run_lseek small, addr, FileState.bytes, addOneUser, delOneUser]

theorem getSetState_set (state : Image 16) {userId : Nat} (positive : userId ≠ 0)
    (bound : userId < 2 ^ 16) :
    let off := slotOffset userId + 1042
    (getSetState state userId setUser).run ⟨content, pos, full⟩ =
      ((0, state), ⟨some (splice (content.getD []) off state.bytes), off + 16, full⟩) := by
  have small := slotOffset_small bound 1042 (by decide)
  have addr := slotAddr_pos positive bound 1042 (by decide)
  simp [getSetState, run_lseek small, addr, FileState.bytes, setUser, getUser]

/-- Reading a state: the file only grows, up to the start of the state. -/
theorem getSetState_get (state : Image 16) {userId : Nat} (positive : userId ≠ 0)
    (bound : userId < 2 ^ 16) :
    let off := slotOffset userId + 1042
    let got := ((content.getD []).drop off).take 16
    (getSetState state userId getUser).run ⟨content, pos, full⟩ =
      ((if got.length = 16 then 0 else -1, state.load got),
        ⟨some (grow (content.getD []) off), off + got.length, full && got.length == 16⟩) := by
  have small := slotOffset_small bound 1042 (by decide)
  have addr := slotAddr_pos positive bound 1042 (by decide)
  simp [getSetState, run_lseek small, addr, run_read, FileState.bytes, getUser, drop_grow]

theorem getSetState_zero (state : Image 16) (cmd : Nat) :
    (getSetState state 0 cmd).run ⟨content, pos, full⟩ =
      ((-1, state), ⟨some (content.getD []), 0, false⟩) := by
  simp [getSetState, run_lseek_negative (slotAddr_zero 1042 (by decide)), FileState.bytes]

end Specs

end WifiAccess

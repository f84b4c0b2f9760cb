import WifiAccess.Base.File
import WifiAccess.Base.Search
import WifiAccess.Crc.Record

/-! `p_database.c`: the user records in `/member.bin`, a header of 8 bytes and
one packed slot of 1058 bytes for each user id. -/

namespace WifiAccess

open FileProg

/-- `user_info_t`. The CRC covers the members before it, so not the state. -/
abbrev UserInfo := Image 1058

namespace UserInfo

def userId (user : UserInfo) : Nat := user.num 0 2
def cardId (user : UserInfo) : Nat := user.num 2 4
def effective (user : UserInfo) : Byte := user.byte 6
def studentId (user : UserInfo) : List Byte := user.field 7 16
def name (user : UserInfo) : List Byte := user.field 23 16
def authority (user : UserInfo) : List Byte := user.field 39 16
def isTimeLimit (user : UserInfo) : Byte := user.byte 55
def year (user : UserInfo) : Nat := user.num 56 2
def month (user : UserInfo) : Byte := user.byte 58
def day (user : UserInfo) : Byte := user.byte 59
def hour (user : UserInfo) : Byte := user.byte 60
def minutes (user : UserInfo) : Byte := user.byte 61
def second (user : UserInfo) : Byte := user.byte 62
def crc (user : UserInfo) : Nat := user.num 1038 4
def state (user : UserInfo) : List Byte := user.field 1042 16

def setUserId (user : UserInfo) (userId : Nat) : UserInfo := user.put 0 (leBytes 2 userId)

/-- Store one byte of the state. -/
def setState (user : UserInfo) (index : Nat) (value : Byte) : UserInfo :=
  user.put (1042 + index) [value]

/-- The CRC of the first `sizeof(user_info_t) - 4 - 16` bytes. -/
def computedCrc (user : UserInfo) : Nat := user.prefixCrc 1038

def Valid (user : UserInfo) : Prop := user.IntactAt 1038

instance (user : UserInfo) : Decidable user.Valid :=
  inferInstanceAs (Decidable (user.IntactAt 1038))

def withCrc (user : UserInfo) : UserInfo := user.sealAt 1038

end UserInfo

/-- `card_id_user_id_link_t`, the first 6 bytes of a slot. -/
abbrev CardLink := Image 6

namespace CardLink

def userId (link : CardLink) : Nat := link.num 0 2
def cardId (link : CardLink) : Nat := link.num 2 4

end CardLink

def maxUserNum : Nat := 200

def addOneUser : Nat := 0
def delOneUser : Nat := 1
def getOneUser : Nat := 2

def getUser : Nat := 0
def setUser : Nat := 1

/-- `sizeof(user_info_t) * (user_id - 1) + off + HEADER_SIZE`, in 32 bits. -/
def slotAddr (userId off : Nat) : Nat :=
  (8 + off + 1058 * ((2 ^ 32 - 1 + userId) % 2 ^ 32)) % 2 ^ 32

/-- `card_compar`: larger card numbers first. -/
def cardCompar (a b : CardLink) : Int :=
  if a.cardId > b.cardId then -1
  else if a.cardId < b.cardId then 1
  else 0

theorem cardCompar_le {a b : CardLink} : cardCompar a b ≤ 0 ↔ b.cardId ≤ a.cardId := by
  unfold cardCompar
  split
  · simp
    omega
  · split
    · simp
      omega
    · simp
      omega

theorem cardCompar_eq {a b : CardLink} : cardCompar a b = 0 ↔ a.cardId = b.cardId := by
  unfold cardCompar
  split
  · simp
    omega
  · split
    · simp
      omega
    · simp
      omega

theorem cardCompar_consistent : Consistent cardCompar where
  total a b := by
    rw [cardCompar_le, cardCompar_le]
    exact Nat.le_total ..
  trans a b c first second := by
    rw [cardCompar_le] at *
    exact Nat.le_trans second first

/-- The C library's search and sort at the order of the card list. -/
abbrev CardSearch := SearchLib cardCompar

/-- The loop of `user_num_get`, with the slots left to read and the next slot's index. -/
def userNumGetLoop : Nat → Nat → Nat → Nat → FileProg (Option (Nat × Nat))
  | 0, _, userNum, maxUserNum => return some (userNum, maxUserNum)
  | left + 1, i, userNum, maxUserNum => do
    if ← lseek ((1058 * i + 8) % 2 ^ 32) then
      let got ← read 2
      if got.length ≠ 2 then return none
      else if leValue got ≠ 0 then
        userNumGetLoop left (i + 1) ((userNum + 1) % 2 ^ 16)
          (if leValue got > maxUserNum then leValue got else maxUserNum)
      else userNumGetLoop left (i + 1) userNum maxUserNum
    else return none

/-- `user_num_get`: the number of users and the largest user id. A size below
`HEADER_SIZE` wraps around. -/
def userNumGet : FileProg (Option (Nat × Nat)) := do
  match ← stat with
  | none => return none
  | some size =>
    if ← openCreate then
      let counted ← userNumGetLoop ((size + (2 ^ 32 - 8)) % 2 ^ 32 / 1058) 0 0 0
      close
      return counted
    else
      close
      return none

/-- `add_del_get_one_user` on the slot of the caller's `user_id`. -/
def addDelGetOneUser (user : UserInfo) (cmd : Nat) : FileProg (Int × UserInfo) := do
  if ← openCreate then
    if ← lseek (slotAddr user.userId 0) then
      if cmd = addOneUser then
        if (← write user.bytes) ≠ 1058 then
          close
          return (-1, user)
        else
          close
          return (0, user)
      else if cmd = delOneUser then
        let user : UserInfo := .zero 1058
        if (← write user.bytes) ≠ 1058 then
          close
          return (-1, user)
        else
          close
          return (0, user)
      else if cmd = getOneUser then
        let got ← read 1058
        close
        return (if got.length ≠ 1058 then -1 else 0, user.load got)
      else
        close
        return (-1, user)
    else
      close
      return (-1, user)
  else
    close
    return (-1, user)

/-- The loop of `user_crc_get`, with the reads left, the next user id and the
number of entries stored. A store past the caller's array has no result. -/
def userCrcGetLoop :
    Nat → Nat → Nat → List (Image 4) → FileProg (Option (Option Nat × List (Image 4)))
  | 0, _, getCount, crc => return some (some getCount, crc)
  | left + 1, i, getCount, crc => do
    if ← lseek (slotAddr i 1038) then
      let got ← read 4
      match storeEntry crc getCount got with
      | none => return none
      | some crc =>
        if got.length ≠ 4 then return some (none, crc)
        else userCrcGetLoop left (i + 1) (getCount + 1) crc
    else return some (none, crc)

/-- `user_crc_get`: the count is absent when the call fails. -/
def userCrcGet (crc : List (Image 4)) (start num : Nat) :
    FileProg (Option (Option Nat × List (Image 4))) := do
  match ← userNumGet with
  | none => return some (none, crc)
  | some (_, userIdMax) =>
    if start > userIdMax then return some (some 0, crc)
    else if start = 0 then return some (none, crc)
    else
      let num := if start + num > userIdMax then userIdMax - start + 1 else num
      if ← openCreate then
        let loaded ← userCrcGetLoop num start 0 crc
        close
        return loaded.map fun (getCount, crc) => (getCount.map (· % 2 ^ 16), crc)
      else return some (none, crc)

/-- `get_set_state` on the 16 state bytes of a slot. -/
def getSetState (state : Image 16) (userId cmd : Nat) : FileProg (Int × Image 16) := do
  if ← openCreate then
    if ← lseek (slotAddr userId 1042) then
      if cmd = getUser then
        let got ← read 16
        close
        return (if got.length ≠ 16 then -1 else 0, state.load got)
      else if cmd = setUser then
        if (← write state.bytes) ≠ 16 then
          close
          return (-1, state)
        else
          close
          return (0, state)
      else
        close
        return (-1, state)
    else
      close
      return (-1, state)
  else
    close
    return (-1, state)

/-- The loop of `card_array_init`, from slot `i` up, over the caller's array. A
store past the array has no result. -/
def cardArrayInitLoop :
    Nat → Nat → Nat → List CardLink → FileProg (Option (Option Nat × List CardLink))
  | 0, _, effectiveNum, cardArray => return some (some effectiveNum, cardArray)
  | left + 1, i, effectiveNum, cardArray => do
    if ← lseek (slotAddr i 0) then
      let got ← read 6
      match storeEntry cardArray effectiveNum got with
      | none => return none
      | some cardArray =>
        if got.length ≠ 6 then return some (none, cardArray)
        else if CardLink.userId (cardArray.getD effectiveNum (.zero 6)) ≠ 0
          then cardArrayInitLoop left (i + 1) (effectiveNum + 1) cardArray
        else cardArrayInitLoop left (i + 1) effectiveNum cardArray
    else return some (none, cardArray)

/-- `card_array_init`. The array is sorted only when the count agrees with
`user_num_get`. -/
def cardArrayInit (lib : CardSearch) (cardArray : List CardLink) :
    FileProg (Option (Int × List CardLink)) := do
  match ← userNumGet with
  | none => return some (-1, cardArray)
  | some (userNum, maxUserId) =>
    if ← openCreate then
      match ← cardArrayInitLoop maxUserId 1 0 cardArray with
      | none => return none
      | some (effectiveNum, cardArray) =>
        close
        if effectiveNum.map (· % 2 ^ 16) = some userNum then return some (0, lib.qsort cardArray)
        else return some (-1, cardArray)
    else
      close
      return some (-1, cardArray)

end WifiAccess

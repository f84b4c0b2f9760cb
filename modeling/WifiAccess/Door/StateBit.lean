import WifiAccess.Door.Verdict

/-! The in/out bits of the users: what setting one of them in a record, and
writing the state back, changes. -/

namespace WifiAccess

open FileProg

/-- The state bit of a device address in the slot of a user id. -/
def storedBit (bytes : List Byte) (userId addr : Nat) : Bool := bitAt (slot bytes userId).state addr

/-- The write-back of a record's state to the slot of its user id. -/
def writeState (bytes : List Byte) (user : UserInfo) : List Byte :=
  splice bytes (slotOffset user.userId + 1042) (Image.stored 16 user.bytes 1042).bytes

namespace UserInfo

/-- `state[addr / 8] |= (1 << (addr % 8))`, or `&= ~` of it. -/
def setBit (user : UserInfo) (addr : Nat) (value : Bool) : UserInfo :=
  if value then user.raiseState addr else user.clearState addr

variable (user : UserInfo) {addr : Nat}

theorem byte_setState {index : Nat} (inside : index < 16) (value : Byte) (i : Nat) :
    (user.setState index value).byte i = if i = 1042 + index then value else user.byte i := by
  rw [setState, Image.byte_put (by simp; omega)]
  by_cases here : i = 1042 + index
  · subst here
    simp
  · rw [if_neg (by simp; omega), if_neg here]

/-- The new value of the byte that holds the bit. -/
def bitByte (user : UserInfo) (addr : Nat) (value : Bool) : Byte :=
  if value then user.byte (1042 + addr / 8) ||| (1#8 <<< (addr % 8))
  else user.byte (1042 + addr / 8) &&& ~~~(1#8 <<< (addr % 8))

theorem byte_setBit (bound : addr < 128) (value : Bool) (i : Nat) :
    (user.setBit addr value).byte i = if i = 1042 + addr / 8 then user.bitByte addr value
      else user.byte i := by
  have inside : addr / 8 < 16 := by omega
  unfold setBit bitByte
  cases value
  · simp only [Bool.false_eq_true, ↓reduceIte, clearState, user.byte_setState inside,
      user.byte_state inside]
  · simp only [↓reduceIte, raiseState, user.byte_setState inside, user.byte_state inside]

theorem getLsbD_bitByte (value : Bool) (j : Nat) :
    (user.bitByte addr value).getLsbD j =
      if j = addr % 8 then value else (user.byte (1042 + addr / 8)).getLsbD j := by
  have bit : addr % 8 < 8 := Nat.mod_lt _ (by decide)
  unfold bitByte
  cases value
  · simp only [Bool.false_eq_true, ↓reduceIte, getLsbD_mask_clear _ bit]
  · simp only [↓reduceIte, getLsbD_mask_or _ bit]

theorem bitAt_state {k : Nat} (inside : k < 128) :
    bitAt user.state k = (user.byte (1042 + k / 8)).getLsbD (k % 8) := by
  rw [bitAt, user.byte_state (by omega)]

theorem bitAt_setBit (bound : addr < 128) (value : Bool) {k : Nat} (inside : k < 128) :
    bitAt (user.setBit addr value).state k = if k = addr then value else bitAt user.state k := by
  rw [bitAt_state _ inside, bitAt_state _ inside, byte_setBit _ bound]
  by_cases same : k = addr
  · subst same
    rw [if_pos rfl, if_pos rfl, getLsbD_bitByte, if_pos rfl]
  · rw [if_neg same]
    split
    · rename_i byte
      rw [getLsbD_bitByte, if_neg (by omega)]
      congr 2
      omega
    · rfl

theorem field_setBit (bound : addr < 128) (value : Bool) {off len : Nat}
    (before : off + len ≤ 1042) :
    (user.setBit addr value).field off len = user.field off len := by
  apply ext_getD (by simp)
  intro i
  rw [Image.field, Image.field, getD_window, getD_window]
  split
  · have byte := user.byte_setBit bound value (off + i)
    rw [if_neg (by omega)] at byte
    exact byte
  · rfl

theorem userId_setBit (bound : addr < 128) (value : Bool) :
    (user.setBit addr value).userId = user.userId :=
  congrArg leValue (user.field_setBit bound value (by decide))

end UserInfo

theorem length_writeState {bytes : List Byte} {user : UserInfo}
    (inside : slotOffset user.userId + 1058 ≤ bytes.length) : (writeState bytes user).length =
      bytes.length := by
  simp [writeState]
  omega

/-- What is read back of a state that was written. -/
theorem state_writeState (bytes : List Byte) (user : UserInfo) :
    (slot (writeState bytes user) user.userId).state = user.state := by
  unfold UserInfo.state Image.field slot Image.stored writeState
  rw [window_window _ (by decide)]
  have same :=
    window_splice_same bytes (slotOffset user.userId + 1042) (Image.stored 16 user.bytes 1042).bytes
  rw [Image.length_bytes] at same
  exact same

/-- Writing back a record that was read from its own slot changes one bit of the file. -/
theorem bitAt_writeState {bytes : List Byte} {user : UserInfo} {addr : Nat} (bound : addr < 128)
    (value : Bool) (own : slot bytes user.userId = user) (k : Nat) :
    bitAt (writeState bytes (user.setBit addr value)) k =
      if k = 8 * (slotOffset user.userId + 1042) + addr then value else bitAt bytes k := by
  have stored (i : Nat) (inside : i < 1058) : user.byte i =
      bytes.getD (slotOffset user.userId + i) 0#8 := by
    have byte := congrArg (fun record : UserInfo => record.byte i) own
    rw [slot, Image.byte_stored, if_pos inside] at byte
    exact byte.symm
  unfold bitAt writeState
  rw [getD_splice, Image.length_bytes, user.userId_setBit bound]
  by_cases state : slotOffset user.userId + 1042 ≤ k / 8 ∧
    k / 8 < slotOffset user.userId + 1042 + 16
  · have written : (Image.stored 16 (user.setBit addr value).bytes 1042).bytes.getD
        (k / 8 - (slotOffset user.userId + 1042)) 0#8 =
        (user.setBit addr value).byte (k / 8 - slotOffset user.userId) := by
      have index : 1042 + (k / 8 - (slotOffset user.userId + 1042)) = k / 8 -
          slotOffset user.userId := by omega
      rw [Image.stored, getD_window, if_pos (by omega), Image.byte, index]
    rw [if_pos state, written, user.byte_setBit bound]
    by_cases byte : k / 8 - slotOffset user.userId = 1042 + addr / 8
    · rw [if_pos byte, user.getLsbD_bitByte]
      by_cases bit : k % 8 = addr % 8
      · rw [if_pos bit, if_pos (by omega)]
      · have index : slotOffset user.userId + (1042 + addr / 8) = k / 8 := by omega
        rw [if_neg bit, if_neg (by omega), stored _ (by omega), index]
    · have index : slotOffset user.userId + (k / 8 - slotOffset user.userId) = k / 8 := by omega
      rw [if_neg byte, if_neg (by omega), stored _ (by omega), index]
  · rw [if_neg state, if_neg (by omega)]

end WifiAccess

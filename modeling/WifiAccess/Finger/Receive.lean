import WifiAccess.Base.Image
import WifiAccess.Base.Run

/-! The receive handlers of `finger_print.c`. A finger print module answers with a frame
of 8 bytes in `receive_pack`; some of the commands announce more bytes there, which go
to `receiveMore`. -/

namespace WifiAccess

inductive Usart where
  | usart2
  | usart3
  deriving DecidableEq

/-- The flags and the counter that each port has of its own. -/
structure FingerPort where
  shortOk : Bool
  longOk : Bool
  receiveLen : Nat

def cmdHead : Byte := 0xF5#8
def cmdTail : Byte := 0xF5#8

/-- `Recieve_Pack`. -/
abbrev RecievePack := Image 8

namespace RecievePack

variable (pack : RecievePack)

def head : Byte := pack.byte 0
def cmd : Byte := pack.byte 1
def q1 : Byte := pack.byte 2
def q2 : Byte := pack.byte 3
def q3 : Byte := pack.byte 4
def none : Byte := pack.byte 5
def chk : Byte := pack.byte 6
def tail : Byte := pack.byte 7

def checkSum : Byte := pack.cmd ^^^ pack.q1 ^^^ pack.q2 ^^^ pack.q3 ^^^ pack.none

/-- The commands whose answer has more than 8 bytes. -/
def Announces : Prop := pack.cmd ∈ [0x26#8, 0x24#8, 0x23#8, 0x31#8, 0x2B#8]

instance : Decidable (Announces pack) := inferInstanceAs (Decidable (_ ∈ _))

/-- `Q2 + (Q3 << 8)`, kept in 8 bits. -/
def announced : Nat := (pack.q2.toNat + pack.q3.toNat * 2 ^ 8) % 2 ^ 8

/-- Not the beginning of a frame. -/
def Bad : Prop := pack.head ≠ cmdHead ∨ pack.none ≠ 0#8

instance : Decidable (Bad pack) := inferInstanceAs (Decidable (_ ∨ _))

end RecievePack

/-- The globals of the driver. `receiveMode` is 1 while an announced packet is received. -/
structure Finger where
  usart2 : FingerPort
  usart3 : FingerPort
  receivePack : RecievePack
  receiveMode : Bool
  dataLen : Nat
  receiveMore : Image 200
  txBuf : Image 207

namespace Finger

def initial : Finger :=
  ⟨⟨false, false, 0⟩, ⟨false, false, 0⟩, .zero 8, false, 0, .zero 200, .zero 207⟩

variable (finger : Finger) (usart : Usart)

def port : Usart → FingerPort
  | .usart2 => finger.usart2
  | .usart3 => finger.usart3

def setPort (port : FingerPort) : Usart → Finger
  | .usart2 => { finger with usart2 := port }
  | .usart3 => { finger with usart3 := port }

def receiveLen : Nat := (finger.port usart).receiveLen

abbrev setLen (len : Nat) : Finger :=
  finger.setPort { finger.port usart with receiveLen := len } usart

abbrev setShortOk (ok : Bool) : Finger :=
  finger.setPort { finger.port usart with shortOk := ok } usart

abbrev setLongOk (ok : Bool) : Finger :=
  finger.setPort { finger.port usart with longOk := ok } usart

/-- `for(i = 0;i < bound;i++) {receiveMore[i] = 0;}` with an 8-bit `i`. An index past
the array has no result, so that `i` never wraps around. -/
def clearMore (bound i : Nat) (more : Image 200) : Option (Image 200) :=
  if i < bound then
    if 200 ≤ i then none else clearMore bound ((i + 1) % 2 ^ 8) (more.put i [0#8])
  else some more
termination_by 200 - i

/-- `for(i = 1;i <= last;i++) {CheckSum ^= receiveMore[i];}`. -/
def sumMore (more : Image 200) (last i : Nat) (checkSum : Byte) : Option Byte :=
  if i ≤ last then
    if 200 ≤ i then none else sumMore more last ((i + 1) % 2 ^ 8) (checkSum ^^^ more.byte i)
  else some checkSum
termination_by 200 - i

/-- Whether the frame is sound. A command that announces more bytes makes room for them. -/
def transmitData : Option (Bool × Finger) :=
  let pack := finger.receivePack
  let ret : Bool := pack.checkSum = pack.chk ∧ pack.head = 0xF5#8 ∧ pack.tail = 0xF5#8
  if pack.Announces then
    (clearMore (pack.announced + 3) 0 finger.receiveMore).map fun more =>
      (ret, { (finger.setLen .usart2 0).setLen .usart3 0 with
        receiveMode := true
        dataLen := pack.announced
        receiveMore := more })
  else some (ret, finger)

/-- `receive_pack.buf[receive_len++]`. What is no beginning of a frame is cleared. -/
def storeShort (byte : Byte) : Finger :=
  let stored : RecievePack := finger.receivePack.put (finger.receiveLen usart) [byte]
  if stored.Bad then { finger with receivePack := .zero 8 }.setLen usart 0
  else { finger with receivePack := stored }.setLen usart (finger.receiveLen usart + 1)

/-- The tail of the last frame, taken for a head, is not counted. -/
def dropMark : Finger :=
  if finger.receivePack.cmd = 0xF5#8 then
    finger.setLen usart (finger.receiveLen usart - 1)
  else finger

/-- `if(receive_len >= 8)`. -/
def checkShort : Option Finger :=
  if 8 ≤ finger.receiveLen usart then
    finger.transmitData.map fun (ret, finger) => finger.setShortOk usart ret
  else some finger

/-- A byte of a frame. -/
def receiveShort (byte : Byte) : Option Finger :=
  if finger.receiveLen usart < 8 then
    ((finger.storeShort usart byte).dropMark usart).checkShort usart
  else none

/-- `receiveMore[receive_len++]`. -/
def storeLong (byte : Byte) : Finger :=
  { finger with
    receiveMore := finger.receiveMore.put (finger.receiveLen usart) [byte] }.setLen usart
      (finger.receiveLen usart + 1)

/-- `if(receiveMore[0] != 0xF5)`. -/
def checkHead : Option Finger :=
  if finger.receiveMore.byte 0 ≠ 0xF5#8 then
    (clearMore (finger.dataLen + 3) 0 finger.receiveMore).map fun more =>
      { finger with receiveMode := false, receiveMore := more }.setLen usart 0
  else some finger

/-- `if(receive_len >= dataLen + 3)`. -/
def checkFull : Option Finger :=
  if finger.dataLen + 3 ≤ finger.receiveLen usart then
    if finger.dataLen + 2 < 200 then
      (sumMore finger.receiveMore finger.dataLen 1 0#8).map fun checkSum =>
        { finger with receiveMode := false }.setLongOk usart
          (finger.receiveMore.byte (finger.dataLen + 2) = 0xF5#8 ∧
          finger.receiveMore.byte (finger.dataLen + 1) = checkSum)
    else none
  else some finger

/-- A byte of an announced packet. -/
def receiveLong (byte : Byte) : Option Finger :=
  if finger.receiveLen usart < 200 then
    ((finger.storeLong usart byte).checkHead usart).bind (checkFull · usart)
  else none

/-- The next byte goes to `receive_pack`. -/
def Short : Prop := finger.receiveMode = false ∧ (finger.port usart).shortOk = false

instance : Decidable (finger.Short usart) := inferInstanceAs (Decidable (_ ∧ _))

/-- `USART2_IRQHandler1` and `USART3_IRQHandler1`, when a byte has come. No result means
an index past `receive_pack` or `receiveMore`. -/
def receive (byte : Byte) : Option Finger :=
  if finger.Short usart then finger.receiveShort usart byte
  else if (finger.port usart).longOk = false then finger.receiveLong usart byte
  else some finger

def step (finger : Finger) (arrival : Usart × Byte) : Option Finger :=
  finger.receive arrival.1 arrival.2

/-! ## What each part needs and leaves -/

theorem clearMore_isSome (bound : Nat) {i : Nat} (inside : i ≤ 200) (more : Image 200) :
    (clearMore bound i more).isSome ↔ bound ≤ 200 := by
  fun_induction clearMore bound i more with
  | case1 i more running past => simp; omega
  | case2 i more running within ih =>
    have wrap : (i + 1) % 2 ^ 8 = i + 1 := by omega
    rw [wrap] at ih ⊢
    exact ih (by omega)
  | case3 i more finished => simp; omega

theorem sumMore_eq {more : Image 200} {last i : Nat} (inside : last < 200)
    (from_start : i ≤ last + 1) (checkSum : Byte) :
    sumMore more last i checkSum =
      some ((more.field i (last + 1 - i)).foldl (· ^^^ ·) checkSum) := by
  fun_induction sumMore more last i checkSum with
  | case1 i checkSum running past => omega
  | case2 i checkSum running within ih =>
    have wrap : (i + 1) % 2 ^ 8 = i + 1 := by omega
    have more_left : last + 1 - i = last + 1 - (i + 1) + 1 := by omega
    rw [wrap] at ih ⊢
    rw [ih (by omega), more_left, Image.field_succ, List.foldl_cons]
  | case3 i checkSum finished =>
    have done : last + 1 - i = 0 := by omega
    rw [done]
    rfl

section Setters

variable (finger : Finger) (usart : Usart) (port : FingerPort) (len : Nat) (ok : Bool)

@[simp] theorem port_setPort :
    (finger.setPort port usart).port usart = port := by cases usart <;> rfl

@[simp] theorem receiveLen_setLen :
    (finger.setLen usart len).receiveLen usart = len := by cases usart <;> rfl

@[simp] theorem receivePack_setPort :
    (finger.setPort port usart).receivePack = finger.receivePack := by cases usart <;> rfl

@[simp] theorem receiveMode_setPort :
    (finger.setPort port usart).receiveMode = finger.receiveMode := by cases usart <;> rfl

@[simp] theorem dataLen_setPort :
    (finger.setPort port usart).dataLen = finger.dataLen := by cases usart <;> rfl

@[simp] theorem receiveMore_setPort :
    (finger.setPort port usart).receiveMore = finger.receiveMore := by cases usart <;> rfl

end Setters

/-! ## Safety -/

/-- The buffer that the next byte goes to is not full, and a frame that the byte
completes announces at most 197 bytes. -/
def HasRoom (finger : Finger) (arrival : Usart × Byte) : Prop :=
  if finger.Short arrival.1 then
    finger.receiveLen arrival.1 < 8 ∧
      (finger.receiveLen arrival.1 = 7 → ¬ finger.receivePack.Bad → finger.receivePack.Announces →
        finger.receivePack.announced ≤ 197)
  else (finger.port arrival.1).longOk = false → finger.receiveLen arrival.1 < 200

instance (finger : Finger) (arrival : Usart × Byte) : Decidable (finger.HasRoom arrival) :=
  inferInstanceAs (Decidable (if finger.Short arrival.1 then _ else _))

/-- The announced length in use fits `receiveMore`. -/
abbrev Fits (finger : Finger) : Prop := finger.dataLen ≤ 197

section Safety

variable {finger next : Finger} {usart : Usart}

theorem transmitData_isSome :
    finger.transmitData.isSome ↔
      (finger.receivePack.Announces → finger.receivePack.announced ≤ 197) := by
  unfold transmitData
  dsimp only
  split
  · rename_i announces
    rw [Option.isSome_map, clearMore_isSome _ (by omega)]
    simp only [announces, true_imp_iff]
    omega
  · rename_i silent
    simp only [silent, Option.isSome_some, false_imp_iff]

theorem transmitData_fits {ret : Bool} (fits : finger.Fits)
    (sent : finger.transmitData = some (ret, next)) : next.Fits := by
  have room := transmitData_isSome.mp (Option.isSome_of_eq_some sent)
  unfold transmitData at sent
  dsimp only at sent
  split at sent
  · rename_i announces
    obtain ⟨more, -, made⟩ := Option.map_eq_some_iff.mp sent
    cases made
    exact room announces
  · cases sent
    exact fits

section Tail

variable (pack : RecievePack) (byte : Byte)

theorem byte_put_tail {i : Nat} (before : i < 7) : (pack.put 7 [byte]).byte i = pack.byte i := by
  rw [Image.byte_put (by simp), if_neg (by omega)]

/-- The tail does not matter to what the frame announces. -/
theorem bad_put_tail : RecievePack.Bad (pack.put 7 [byte]) ↔ pack.Bad := by
  simp [RecievePack.Bad, RecievePack.head, RecievePack.none, byte_put_tail]

theorem cmd_put_tail : RecievePack.cmd (pack.put 7 [byte]) = pack.cmd :=
  byte_put_tail pack byte (by decide)

theorem announced_put_tail : RecievePack.announced (pack.put 7 [byte]) = pack.announced := by
  simp [RecievePack.announced, RecievePack.q2, RecievePack.q3, byte_put_tail]

end Tail

theorem not_announces {pack : RecievePack} (mark : pack.cmd = 0xF5#8) : ¬ pack.Announces := by
  rw [RecievePack.Announces, mark]
  decide

/-- The eighth byte of what began as a frame makes it full. No other byte does. -/
theorem storeShort_full (byte : Byte) (inside : finger.receiveLen usart < 8) :
    (finger.receiveLen usart = 7 ∧ ¬ finger.receivePack.Bad ∧ finger.receivePack.cmd ≠ 0xF5#8 ∧
      (finger.storeShort usart byte).dropMark usart =
        { finger with receivePack := finger.receivePack.put 7 [byte] }.setLen usart 8) ∨
    (¬ (finger.receiveLen usart = 7 ∧ ¬ finger.receivePack.Bad ∧ finger.receivePack.cmd ≠ 0xF5#8) ∧
      ((finger.storeShort usart byte).dropMark usart).receiveLen usart < 8) := by
  unfold storeShort
  by_cases bad : RecievePack.Bad (finger.receivePack.put (finger.receiveLen usart) [byte])
  · right
    have zero : RecievePack.cmd (.zero 8) ≠ 0xF5#8 := by decide
    rw [if_pos bad, dropMark, receivePack_setPort, if_neg zero, receiveLen_setLen]
    refine ⟨?_, by decide⟩
    rintro ⟨last, sound, -⟩
    rw [last, bad_put_tail] at bad
    exact sound bad
  · by_cases mark : RecievePack.cmd (finger.receivePack.put (finger.receiveLen usart) [byte]) =
      0xF5#8
    · right
      rw [if_neg bad, dropMark, receivePack_setPort, if_pos mark, receiveLen_setLen,
        receiveLen_setLen]
      refine ⟨?_, inside⟩
      rintro ⟨last, -, other⟩
      rw [last, cmd_put_tail] at mark
      exact other mark
    · rw [if_neg bad, dropMark, receivePack_setPort, if_neg mark, receiveLen_setLen]
      by_cases last : finger.receiveLen usart = 7
      · rw [last, bad_put_tail] at bad
        rw [last, cmd_put_tail] at mark
        rw [last]
        exact .inl ⟨rfl, bad, mark, rfl⟩
      · exact .inr ⟨fun full => last full.1, by omega⟩

theorem checkShort_isSome : (finger.checkShort usart).isSome ↔
    (8 ≤ finger.receiveLen usart → finger.receivePack.Announces →
      finger.receivePack.announced ≤ 197) := by
  unfold checkShort
  split
  · rename_i full
    rw [Option.isSome_map, transmitData_isSome]
    simp only [full, true_imp_iff]
  · rename_i short
    simp only [short, Option.isSome_some, false_imp_iff]

theorem receiveShort_isSome (byte : Byte) :
    (finger.receiveShort usart byte).isSome ↔ finger.receiveLen usart < 8 ∧
      (finger.receiveLen usart = 7 → ¬ finger.receivePack.Bad → finger.receivePack.Announces →
        finger.receivePack.announced ≤ 197) := by
  by_cases inside : finger.receiveLen usart < 8
  · rw [receiveShort, if_pos inside, checkShort_isSome]
    rcases storeShort_full byte inside with ⟨last, sound, other, full⟩ | ⟨unfinished, short⟩
    · rw [full, receiveLen_setLen, receivePack_setPort]
      have same : RecievePack.Announces (finger.receivePack.put 7 [byte]) ↔
          finger.receivePack.Announces := by
        rw [RecievePack.Announces, cmd_put_tail, RecievePack.Announces]
      simp [last, sound, same, announced_put_tail]
    · refine iff_of_true (fun full => absurd full (by omega))
        ⟨inside, fun last sound announces => ?_⟩
      exact absurd announces
        (not_announces (by_contra fun other => unfinished ⟨last, sound, other⟩))
  · simp [receiveShort, inside]

theorem dataLen_storeShort (byte : Byte) :
    (finger.storeShort usart byte).dataLen = finger.dataLen := by
  unfold storeShort
  dsimp only
  split <;> exact dataLen_setPort ..

theorem dataLen_dropMark : (finger.dropMark usart).dataLen = finger.dataLen := by
  unfold dropMark
  split
  · exact dataLen_setPort ..
  · rfl

theorem receiveShort_fits {byte : Byte} (fits : finger.Fits)
    (taken : finger.receiveShort usart byte = some next) :
    next.Fits := by
  have filled : ((finger.storeShort usart byte).dropMark usart).Fits := by
    rw [Fits, dataLen_dropMark, dataLen_storeShort]
    exact fits
  unfold receiveShort checkShort at taken
  split at taken
  · split at taken
    · obtain ⟨⟨ret, sent⟩, made, rfl⟩ := Option.map_eq_some_iff.mp taken
      have kept := transmitData_fits filled made
      rwa [Fits, dataLen_setPort]
    · cases taken
      exact filled
  · cases taken

/-- A packet that fits is checked without leaving `receiveMore`. -/
theorem checkHead_fits (fits : finger.Fits) :
    ∃ next, finger.checkHead usart = some next ∧ next.Fits := by
  unfold checkHead
  split
  · have room : (clearMore (finger.dataLen + 3) 0 finger.receiveMore).isSome :=
      (clearMore_isSome _ (by decide) _).mpr (by omega)
    obtain ⟨more, cleared⟩ := Option.isSome_iff_exists.mp room
    rw [cleared]
    refine ⟨_, rfl, ?_⟩
    rwa [Fits, dataLen_setPort]
  · exact ⟨_, rfl, fits⟩

theorem checkFull_fits (fits : finger.Fits) :
    ∃ next, finger.checkFull usart = some next ∧ next.Fits := by
  unfold checkFull
  split
  · rw [if_pos (by omega), sumMore_eq (by omega) (by omega)]
    refine ⟨_, rfl, ?_⟩
    rwa [Fits, dataLen_setPort]
  · exact ⟨_, rfl, fits⟩

theorem receiveLong_fits (byte : Byte) (fits : finger.Fits)
    (inside : finger.receiveLen usart < 200) :
    ∃ next, finger.receiveLong usart byte = some next ∧ next.Fits := by
  have stored : (finger.storeLong usart byte).Fits := by rwa [Fits, storeLong, dataLen_setPort]
  obtain ⟨headed, checked, kept⟩ := checkHead_fits stored
  rw [receiveLong, if_pos inside, checked]
  exact checkFull_fits kept

theorem step_isSome {arrival : Usart × Byte} (fits : finger.Fits) :
    (finger.step arrival).isSome ↔ finger.HasRoom arrival := by
  unfold step receive HasRoom
  by_cases short : finger.Short arrival.1
  · rw [if_pos short, if_pos short]
    exact receiveShort_isSome _
  · rw [if_neg short, if_neg short]
    split
    · rename_i unfinished
      simp only [unfinished, true_imp_iff]
      constructor
      · intro taken
        by_contra full
        rw [receiveLong, if_neg full] at taken
        cases taken
      · intro inside
        obtain ⟨next, taken, -⟩ := receiveLong_fits arrival.2 fits inside
        rw [taken, Option.isSome_some]
    · rename_i finished
      exact iff_of_true rfl fun unfinished => absurd unfinished finished

theorem step_fits {arrival : Usart × Byte} (fits : finger.Fits)
    (taken : finger.step arrival = some next) :
    next.Fits := by
  unfold step receive at taken
  split at taken
  · exact receiveShort_fits fits taken
  · split at taken
    · have inside : finger.receiveLen arrival.1 < 200 := by
        by_contra full
        rw [receiveLong, if_neg full] at taken
        cases taken
      obtain ⟨after, reached, kept⟩ := receiveLong_fits arrival.2 fits inside
      cases Option.some.inj (taken.symm.trans reached)
      exact kept
    · cases taken
      exact fits

end Safety

/-- Bytes from the lines of both ports, in any order and number, are received without an
index past `receive_pack` or `receiveMore` exactly when each comes while there is room
for it. -/
theorem receive_safe_iff (arrivals : List (Usart × Byte)) :
    (runMoves step .initial arrivals).isSome ↔ MovesMeet step HasRoom .initial arrivals :=
  runMoves_isSome step_isSome step_fits (show initial.Fits by decide)

/-- The counter is left at 8 by a frame that fails its check. The next byte is stored
past `receive_pack`. -/
theorem receive_past_pack :
    ¬ ∀ arrivals : List (Usart × Byte), (runMoves step .initial arrivals).isSome := by
  intro safe
  have taken :=
    safe ([0xF5#8, 0x09#8, 0#8, 0#8, 0#8, 0#8, 0#8, 0xF5#8, 0xF5#8].map (Usart.usart2, ·))
  revert taken
  decide

end Finger

end WifiAccess

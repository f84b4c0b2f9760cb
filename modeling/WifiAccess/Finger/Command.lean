import WifiAccess.Finger.Receive

/-! `TxAndRsCmd` of `finger_print.c`: a command goes out, and the driver waits until the
handler has counted the bytes of the answer, or the time is up. -/

namespace WifiAccess

def ackSuccess : Byte := 0x00#8
def ackFail : Byte := 0x01#8
def ackFull : Byte := 0x04#8
def ackNoUser : Byte := 0x05#8
def ackTimeout : Byte := 0x08#8

def cmdUserCnt : Byte := 0x09#8
def cmdGetEigen : Byte := 0x23#8
def cmdUpEigen : Byte := 0x31#8
def cmdDownAdd : Byte := 0x41#8
def cmdDownMatchOne : Byte := 0x42#8
def cmdDownMatchN : Byte := 0x43#8

/-- What a command has given to `TxByte`, and its status with the globals it leaves. -/
structure Exchange where
  sent : List Byte
  result : Option (Byte × Finger)

namespace Exchange

/-- What is done with the answer. -/
def andThen (exchange : Exchange) (next : Byte → Finger → Exchange) : Exchange :=
  match exchange.result with
  | none => exchange
  | some (status, finger) =>
      ⟨exchange.sent ++ (next status finger).sent, (next status finger).result⟩

/-- `if (m == ACK_SUCCESS && receive_pack.pack.Q3 == ACK_SUCCESS)`. -/
def acked (exchange : Exchange) : Exchange :=
  { exchange with
    result := exchange.result.map fun (status, finger) =>
      (if status = ackSuccess ∧ finger.receivePack.q3 = ackSuccess then ackSuccess
        else ackFail, finger) }

@[simp] theorem sent_acked (exchange : Exchange) : exchange.acked.sent = exchange.sent := rfl

theorem sent_andThen {exchange : Exchange} {status : Byte} {finger : Finger}
    (result : exchange.result = some (status, finger)) (next : Byte → Finger → Exchange) :
    (exchange.andThen next).sent = exchange.sent ++
      (next status finger).sent := by
  simp only [andThen, result]

theorem sent_andThen_silent {exchange : Exchange} {next : Byte → Finger → Exchange}
    (silent : ∀ status finger, (next status finger).sent = []) : (exchange.andThen next).sent =
      exchange.sent := by
  unfold andThen
  split
  · rfl
  · rw [silent, List.append_nil]

end Exchange

/-- The bytes that come before each look at the counter. -/
abbrev Polls := List (List (Usart × Byte))

/-- Exclusive or of all bytes. -/
def xorSum (bytes : List Byte) : Byte := bytes.foldl (· ^^^ ·) 0#8

/-- Bytes between the marks, with their check byte. -/
def frame (bytes : List Byte) : List Byte := cmdHead :: bytes ++ [xorSum bytes, cmdTail]

theorem foldl_xor (bytes : List Byte) (start : Byte) :
    bytes.foldl (· ^^^ ·) start = start ^^^ xorSum bytes := by
  have moved := @List.foldl_assoc _ (fun first second : Byte => first ^^^ second) _ bytes start 0#8
  rwa [BitVec.xor_zero] at moved

theorem xorSum_append (first second : List Byte) :
    xorSum (first ++ second) = xorSum first ^^^ xorSum second := by
  rw [xorSum, List.foldl_append, foldl_xor]
  rfl

namespace Finger

variable (usart : Usart) (finger : Finger)

/-- `while (receive_len < Rcnt && RsTimeCnt > 0) RsTimeCnt--;`. -/
def await (rcnt : Nat) : Nat → Polls → Finger → Option Finger
  | 0, polls, finger => runMoves step finger (polls.headD [])
  | count + 1, polls, finger =>
    (runMoves step finger (polls.headD [])).bind fun finger =>
      if finger.receiveLen usart < rcnt then await rcnt count polls.tail finger else some finger

/-- Before the answer. `receiveMode` is left as it is. -/
def cleared : Finger := { finger with receivePack := .zero 8 }.setPort ⟨false, false, 0⟩ usart

/-- What the answer is worth. -/
def status (rcnt : Nat) : Byte :=
  if finger.receiveLen usart ≠ rcnt then ackTimeout
  else if finger.receivePack.head ≠ cmdHead then ackFail
  else if finger.receivePack.tail ≠ cmdTail then ackFail
  else if finger.receivePack.cmd ≠ finger.txBuf.byte 0 then ackFail
  else ackSuccess

/-- The first `scnt` bytes of `gTxBuf`, and an answer of `rcnt` bytes. -/
def txAndRsCmd (scnt rcnt delay : Nat) (polls : Polls) : Exchange :=
  { sent := frame (finger.txBuf.field 0 scnt)
    result := (await usart rcnt (delay * 120000) polls (finger.cleared usart)).map fun finger =>
      (finger.status usart rcnt, finger) }

/-- Bytes of `gTxBuf` from an index on. -/
def fill (off : Nat) (bytes : List Byte) : Finger :=
  { finger with txBuf := finger.txBuf.put off bytes }

/-- `getUserCount`. -/
def getUserCount (polls : Polls) : Exchange :=
  ((finger.fill 0 [cmdUserCnt, 0#8, 0#8, 0#8, 0#8]).txAndRsCmd usart 5 8 10 polls).acked

/-- `getEigen`: take a picture and send its template. -/
def getEigen (polls : Polls) : Exchange :=
  ((finger.fill 0 [cmdGetEigen, 0#8, 0#8, 0#8, 0#8]).txAndRsCmd usart 5 207 100 polls).acked

/-- `uploadEigen`: send the template of a user. -/
def uploadEigen (userNum : BitVec 16) (polls : Polls) : Exchange :=
  ((finger.fill 0 [cmdUpEigen, (userNum >>> 8).setWidth 8, (userNum &&& 0xFF#16).setWidth 8, 0#8,
    0#8]).txAndRsCmd usart
    5 207 100 polls).acked

/-! ## On a silent line -/

theorem await_silent (rcnt count : Nat) : await usart rcnt count [] finger = some finger := by
  induction count with
  | zero => rfl
  | succ count ih =>
    refine (Option.bind_some ..).trans ?_
    split
    · exact ih
    · rfl

theorem sent_getUserCount (polls : Polls) :
    (finger.getUserCount usart polls).sent = frame [cmdUserCnt, 0#8, 0#8, 0#8, 0#8] :=
  congrArg frame (finger.txBuf.field_put_same (by decide))

theorem getUserCount_silent : ∃ status, (finger.getUserCount usart []).result =
    some (status, (finger.fill 0 [cmdUserCnt, 0#8, 0#8, 0#8, 0#8]).cleared usart) := by
  simp only [getUserCount, Exchange.acked, txAndRsCmd, await_silent, Option.map_some]
  exact ⟨_, rfl⟩

end Finger

end WifiAccess

import WifiAccess.Finger.Command

/-! The commands of `finger_print.c` that pass a template to the module, as they appear
on the line. -/

namespace WifiAccess

/-- `USER_MAX_CNT`. -/
def userMaxCnt : Nat := 1001

/-- `(Q1 << 8) + Q2`. -/
def RecievePack.userCount (pack : RecievePack) : Nat := pack.q1.toNat * 2 ^ 8 + pack.q2.toNat

namespace Finger

variable (usart : Usart) (finger : Finger) (eigen : Nat → Byte)

/-- `ResetFingerFlag`. -/
def resetFingerFlag : Finger := { initial with txBuf := finger.txBuf }

/-- `for(i = 11;i < last;i++) {gTxBuf[i] = eigen[i-11];}`. -/
def copyEigen (last : Nat) : Finger := finger.fill 11 ((List.range (last - 11)).map eigen)

/-- `downloadAndMatchONE`. -/
def downloadAndMatchOne (userNum : BitVec 16) (polls : Polls) : Exchange :=
  (((finger.fill 0 [cmdDownMatchOne, 0#8, 0xC4#8, 0#8, 0#8, 0x86#8, cmdTail, cmdHead,
    (userNum >>> 8).setWidth 8,
    (userNum &&& 0xFF#16).setWidth 8, 0#8]).copyEigen eigen 205).txAndRsCmd usart 204 8
      10 polls).acked

/-- `downloadAndMatchN`. -/
def downloadAndMatchN (polls : Polls) : Exchange :=
  (((finger.fill 0 [cmdDownMatchN, 0#8, 0xC4#8, 0#8, 0#8, 0x87#8, cmdTail, cmdHead, 0#8, 0#8,
    0#8]).copyEigen eigen
    205).txAndRsCmd usart 204 8 10 polls).andThen fun status finger =>
      ⟨[], some (if status = ackSuccess then ackSuccess
        else if finger.receivePack.q3 = ackNoUser then ackNoUser else ackFail, finger)⟩

/-- `downloadAddUser`, which asks for the number of users first. -/
def downloadAddUser (userNum : BitVec 16) (lim : Byte) (countPolls polls : Polls) : Exchange :=
  (finger.getUserCount usart countPolls).andThen fun _ finger =>
    if userMaxCnt ≤ finger.receivePack.userCount then ⟨[], some (ackFull, finger)⟩
    else
      ((((finger.resetFingerFlag.fill 0 [cmdDownAdd, 0#8, 0xC4#8, 0#8, 0#8, 0x85#8,
        cmdTail, cmdHead,
        (userNum >>> 8).setWidth 8, (userNum &&& 0xFF#16).setWidth 8, lim]).copyEigen eigen
          204).resetFingerFlag).txAndRsCmd
          usart 204 8 10 polls).acked

/-! ## The frames -/

/-- The 193 bytes of a template. -/
def template : List Byte := (List.range 193).map eigen

/-- A command frame that announces 196 bytes, and the frame that they follow in. -/
def downloadFrames (cmd : Byte) (payload : List Byte) : List Byte :=
  frame [cmd, 0#8, 0xC4#8, 0#8, 0#8] ++ frame payload

theorem length_frame (bytes : List Byte) : (frame bytes).length = bytes.length + 3 := by
  simp [frame]

/-- The command's check byte and the two marks leave nothing of it in the checksum. -/
theorem xorSum_command {cmd chk : Byte} (sum : xorSum [cmd, 0#8, 0xC4#8, 0#8, 0#8] = chk)
    (payload : List Byte) :
    xorSum ([cmd, 0#8, 0xC4#8, 0#8, 0#8, chk, cmdTail, cmdHead] ++ payload) = xorSum payload := by
  have split : [cmd, 0#8, 0xC4#8, 0#8, 0#8, chk, cmdTail, cmdHead] =
    [cmd, 0#8, 0xC4#8, 0#8, 0#8] ++ [chk] ++ [cmdTail, cmdHead] := rfl
  have marks : xorSum [cmdTail, cmdHead] = 0#8 := by decide
  have single : xorSum [chk] = chk := BitVec.zero_xor
  rw [split, xorSum_append, xorSum_append, xorSum_append, sum, marks, single, BitVec.xor_self,
    BitVec.xor_zero,
    BitVec.zero_xor]

/-- Both frames are checked and marked by what `TxAndRsCmd` does for one. -/
theorem frame_download {cmd chk : Byte} (sum : xorSum [cmd, 0#8, 0xC4#8, 0#8, 0#8] = chk)
    (payload : List Byte) :
    frame ([cmd, 0#8, 0xC4#8, 0#8, 0#8, chk, cmdTail, cmdHead] ++ payload) =
      downloadFrames cmd payload := by
  rw [downloadFrames, frame, frame, frame, xorSum_command sum, sum]
  rfl

/-- What the driver has put in `gTxBuf`, whatever was there before. -/
theorem field_copyEigen (head : List Byte) (size : head.length = 11) {last : Nat}
    (enough : 204 ≤ last) (room : last ≤ 207) :
    ((finger.fill 0 head).copyEigen eigen last).txBuf.field 0 204 = head ++ template eigen := by
  have copied : ((List.range (last - 11)).map eigen).length = last - 11 := by simp
  have front : ((finger.fill 0 head).copyEigen eigen last).txBuf.field 0 11 = head := by
    rw [copyEigen, fill, Image.field_put_apart (by omega) (.inl (by omega)), fill, ← size]
    exact Image.field_put_same _ (by omega)
  have back : ((finger.fill 0 head).copyEigen eigen last).txBuf.field 11 (last - 11) =
      (List.range (last - 11)).map eigen := by
    have same :=
      @Image.field_put_same 207 (finger.fill 0 head).txBuf 11
        ((List.range (last - 11)).map eigen) (by omega)
    rwa [copied] at same
  have more : last - 11 = 193 + (last - 204) := by omega
  rw [more, Image.field_add, List.range_add, List.map_append] at back
  have whole := ((finger.fill 0 head).copyEigen eigen last).txBuf.field_add 0 11 193
  rw [Nat.zero_add, front, (List.append_inj back (by simp)).1] at whole
  exact whole

/-! ## What is transmitted -/

/-- A command frame of 8 bytes and a data frame of 199, which one `TxAndRsCmd` of 204
bytes sends with one checksum. -/
structure Downloads (sent : List Byte) (cmd : Byte) (payload : List Byte) : Prop where
  size : sent.length = 207
  command : sent.take 8 = frame [cmd, 0#8, 0xC4#8, 0#8, 0#8]
  data : sent.drop 8 = frame payload
  announced : payload.length = (0xC4#8).toNat
  running : ∃ buffered, buffered.length = 204 ∧ sent = frame buffered ∧
    xorSum buffered = xorSum payload

theorem length_payload (first second third : Byte) :
    ([first, second, third] ++ template eigen).length = 196 := by
  simp [template]

theorem downloads_frames {cmd : Byte} {payload : List Byte} (size : payload.length = 196) :
    Downloads (downloadFrames cmd payload) cmd payload := by
  have first : (frame [cmd, 0#8, 0xC4#8, 0#8, 0#8]).length = 8 := rfl
  refine ⟨?_, List.take_left' first, List.drop_left' first, size, ?_⟩
  · rw [downloadFrames, List.length_append, first, length_frame, size]
  · refine ⟨_, ?_, (frame_download rfl payload).symm, ?_⟩
    · simp [size]
    · exact xorSum_command rfl payload

theorem length_downloadFrames (cmd first second third : Byte) :
    (downloadFrames cmd ([first, second, third] ++ template eigen)).length = 207 :=
  (downloads_frames (length_payload eigen first second third)).size

section Sent

variable (userNum : BitVec 16) (lim : Byte) (polls : Polls)

theorem sent_downloadAndMatchOne : (finger.downloadAndMatchOne usart eigen userNum polls).sent =
    downloadFrames cmdDownMatchOne
      ([(userNum >>> 8).setWidth 8, (userNum &&& 0xFF#16).setWidth 8, 0#8] ++ template eigen) := by
  rw [downloadAndMatchOne, Exchange.sent_acked, txAndRsCmd,
    field_copyEigen _ _ _ rfl (by decide) (by decide)]
  exact frame_download (by decide) _

theorem sent_downloadAndMatchN : (finger.downloadAndMatchN usart eigen polls).sent =
    downloadFrames cmdDownMatchN ([0#8, 0#8, 0#8] ++ template eigen) := by
  rw [downloadAndMatchN, Exchange.sent_andThen_silent fun _ _ => rfl, txAndRsCmd,
    field_copyEigen _ _ _ rfl (by decide) (by decide)]
  exact frame_download (by decide) _

/-- The number of users is asked for before. -/
theorem sent_downloadAddUser {countPolls : Polls} {status : Byte} {left : Finger}
    (counted : (finger.getUserCount usart countPolls).result = some (status, left))
    (free : left.receivePack.userCount < userMaxCnt) : (finger.downloadAddUser usart eigen userNum
      lim countPolls polls).sent =
    frame [cmdUserCnt, 0#8, 0#8, 0#8, 0#8] ++ downloadFrames cmdDownAdd
      ([(userNum >>> 8).setWidth 8, (userNum &&& 0xFF#16).setWidth 8, lim] ++ template eigen) := by
  rw [downloadAddUser, Exchange.sent_andThen counted, sent_getUserCount,
    if_neg (Nat.not_le_of_lt free),
    Exchange.sent_acked, txAndRsCmd]
  have copied :=
    field_copyEigen left.resetFingerFlag eigen
      [cmdDownAdd, 0#8, 0xC4#8, 0#8, 0#8, 0x85#8, cmdTail, cmdHead,
    (userNum >>> 8).setWidth 8, (userNum &&& 0xFF#16).setWidth 8, lim] rfl
      (show 204 ≤ 204 by decide) (by decide)
  refine congrArg _ ((congrArg frame copied).trans (frame_download (by decide) _))

end Sent

theorem userCount_cleared : (finger.cleared usart).receivePack.userCount = 0 := by
  have zero : RecievePack.userCount (.zero 8) = 0 := by decide
  rw [cleared, receivePack_setPort]
  exact zero

/-- The frames that a template is passed in. `downloadAddUser` asks for the number of
users first; they follow when there is room for one more. -/
theorem download_frames (userNum : BitVec 16) (lim : Byte) (countPolls polls : Polls) :
    Downloads (finger.downloadAndMatchOne usart eigen userNum polls).sent cmdDownMatchOne
      ([(userNum >>> 8).setWidth 8, (userNum &&& 0xFF#16).setWidth 8, 0#8] ++ template eigen) ∧
    Downloads (finger.downloadAndMatchN usart eigen polls).sent cmdDownMatchN
      ([0#8, 0#8, 0#8] ++ template eigen) ∧
    ∀ status left, (finger.getUserCount usart countPolls).result = some (status, left) →
      left.receivePack.userCount < userMaxCnt → ∃ frames,
        (finger.downloadAddUser usart eigen userNum lim countPolls polls).sent =
          frame [cmdUserCnt, 0#8, 0#8, 0#8, 0#8] ++ frames ∧
        Downloads frames cmdDownAdd
          ([(userNum >>> 8).setWidth 8, (userNum &&& 0xFF#16).setWidth 8, lim] ++
            template eigen) := by
  refine ⟨?_, ?_, fun status left counted free =>
    ⟨_, sent_downloadAddUser _ _ _ _ _ _ counted free, ?_⟩⟩
  · rw [sent_downloadAndMatchOne]
    exact downloads_frames (length_payload ..)
  · rw [sent_downloadAndMatchN]
    exact downloads_frames (length_payload ..)
  · exact downloads_frames (length_payload ..)

/-- A module that does not answer is taken for an empty one. -/
theorem download_frames_silent : ∃ frames,
    (initial.downloadAddUser .usart2 (fun _ => 0xF5#8) 7#16 1#8 [] []).sent =
      frame [cmdUserCnt, 0#8, 0#8, 0#8, 0#8] ++ frames ∧
    Downloads frames cmdDownAdd ([0#8, 7#8, 1#8] ++ template fun _ => 0xF5#8) := by
  obtain ⟨status, counted⟩ := getUserCount_silent .usart2 initial
  exact (download_frames .usart2 initial (fun _ => 0xF5#8) 7#16 1#8 [] []).2.2 status _ counted
    (by rw [userCount_cleared]; decide)

/-- The query comes before the 207 bytes. -/
theorem downloadAddUser_query :
    ¬ ∀ (usart : Usart) (finger : Finger) (eigen : Nat → Byte) (userNum : BitVec 16)
    (lim : Byte) (countPolls polls : Polls) (status : Byte) (left : Finger),
    (finger.getUserCount usart countPolls).result = some (status, left) →
      left.receivePack.userCount < userMaxCnt →
    (finger.downloadAddUser usart eigen userNum lim countPolls polls).sent.length = 207 := by
  intro exactly
  obtain ⟨status, counted⟩ := getUserCount_silent .usart2 initial
  have free : ((initial.fill 0 [cmdUserCnt, 0#8, 0#8, 0#8, 0#8]).cleared
      .usart2).receivePack.userCount < userMaxCnt := by
    rw [userCount_cleared]
    decide
  have sent := exactly .usart2 initial (fun _ => 0#8) 1#16 0#8 [] [] status _ counted free
  rw [sent_downloadAddUser _ _ _ _ _ _ counted free, List.length_append] at sent
  have size :=
    length_downloadFrames (fun _ => 0#8) cmdDownAdd ((1#16 >>> 8).setWidth 8)
      ((1#16 &&& 0xFF#16).setWidth 8) 0#8
  have query : (frame [cmdUserCnt, 0#8, 0#8, 0#8, 0#8]).length = 8 := rfl
  omega

end Finger

end WifiAccess

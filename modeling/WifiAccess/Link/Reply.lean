import WifiAccess.Link.Mailbox

/-! What a caller of `wait_ack` learns from a reply: the test for an error text reads
three bytes of the receive buffer, however few the reply has. -/

namespace WifiAccess

/-- A packet as it was received and accepted, with anything behind it. -/
structure Received (pack : List Byte) (wifi : Wifi) : Prop where
  stored : wifi.rx.recvPack.field 0 pack.length = pack
  header : wifi.packRecv = .ofBytes 7 pack
  data : wifi.data = some 7

section Bytes

variable {pack : List Byte} {wifi : Wifi}

theorem Received.field (received : Received pack wifi) {off len : Nat}
    (inside : off + len ≤ pack.length) :
    wifi.rx.recvPack.field off len = window pack off len := by
  have part : wifi.rx.recvPack.field off len = window (wifi.rx.recvPack.field 0 pack.length)
      off len := by
    rw [Image.field, Image.field, window_window _ inside, Nat.zero_add]
  rw [part, received.stored]

theorem Received.byte (received : Received pack wifi) {i : Nat} (inside : i < pack.length) :
    wifi.rx.recvPack.byte i = pack.getD i 0#8 := by
  have read : wifi.rx.recvPack.byte i = (wifi.rx.recvPack.field 0 pack.length).getD i 0#8 := by
    rw [Image.byte_field inside, Nat.zero_add]
  rw [read, received.stored]

theorem Received.cmd (received : Received pack wifi) : wifi.cmd = pack.getD 4 0#8 := by
  rw [Wifi.cmd, received.header, Image.ofBytes, Image.byte_stored, if_pos (by decide), Nat.zero_add]

end Bytes

/-! ## The answer -/

/-- `"err"` -/
def errText : List Byte := [0x65#8, 0x72#8, 0x72#8]

/-- `wait_ack` while nothing is received. The first poll takes a packet that is there;
otherwise the last one gives up. -/
def waitAck (wifi : Wifi) (cmd : Byte) : Option Int :=
  if wifi.isRecvWifiPack then waitAckResult { wifi with isRecvWifiPack := false } cmd else some (-1)

/-- Whatever lies behind the reply, the result is the same. -/
def AnswersReply (pack : List Byte) (cmd : Byte) : Prop :=
  ∀ first second, Received pack first → Received pack second → first.isRecvWifiPack = true →
    second.isRecvWifiPack = true → waitAck first cmd = waitAck second cmd

/-- A reply of fewer than three data bytes is not reported as an error. -/
def NoStaleError (pack : List Byte) (cmd : Byte) : Prop :=
  ∀ wifi, Received pack wifi → wifi.isRecvWifiPack = true → pack.length < 7 + 3 →
    waitAck wifi cmd ≠ some (-3)

/-- The reply is one to another command, has three data bytes, or does not begin like
the error text. -/
def ReplyDecides (pack : List Byte) (cmd : Byte) : Prop :=
  pack.getD 4 0#8 ≠ cmd ∨ 7 + 3 ≤ pack.length ∨ ¬ pack.drop 7 <+: errText

theorem waitAck_received {pack : List Byte} {wifi : Wifi} (received : Received pack wifi)
    (there : wifi.isRecvWifiPack = true) (cmd : Byte) :
    waitAck wifi cmd = some (if pack.getD 4 0#8 ≠ cmd then -2
      else if wifi.rx.recvPack.field 7 3 = errText then -3 else 0) := by
  have tested : wifi.rx.recvPack.field 7 3 = errText ↔ wifi.rx.recvPack.byte 7 = 0x65#8 ∧
      wifi.rx.recvPack.byte (7 + 1) = 0x72#8 ∧ wifi.rx.recvPack.byte (7 + 2) = 0x72#8 := by
    have none_left : wifi.rx.recvPack.field (7 + 1 + 1 + 1) 0 = [] :=
      List.eq_nil_of_length_eq_zero (by simp)
    rw [Image.field_succ, Image.field_succ, Image.field_succ, none_left]
    simp [errText]
  have taken : Wifi.cmd { wifi with isRecvWifiPack := false } = pack.getD 4 0#8 := received.cmd
  rw [waitAck, if_pos there, waitAckResult, taken]
  simp only [received.data, ← tested]
  split
  · rfl
  · split <;> rfl

/-- The receive buffer with these bytes, and the packet at its start taken for accepted. -/
def mailHolding (pack behind : List Byte) : Wifi :=
  ⟨⟨false, 0, 0, false, .ofBytes 5120 (pack ++ behind)⟩, .ofBytes 7 pack, some 7, true⟩

theorem received_mailHolding {pack : List Byte} (fits : pack.length ≤ 5120) (behind : List Byte) :
    Received pack (mailHolding pack behind) := by
  refine ⟨?_, rfl, rfl⟩
  show window (window (pack ++ behind) 0 5120) 0 pack.length = pack
  rw [window_window _ (by omega), window_append_left (by omega), window_all]

section Decides

variable {pack : List Byte} {wifi : Wifi}

/-- The bytes behind a reply can complete an error text. -/
private theorem field_completed {rest : List Byte} (header : 7 ≤ pack.length)
    (completes : pack.drop 7 ++ rest = errText) :
    (mailHolding pack rest).rx.recvPack.field 7 3 = errText := by
  have parts : pack ++ rest = pack.take 7 ++ errText := by
    rw [← completes, ← List.append_assoc, List.take_append_drop]
  have size : (pack.take 7).length = 7 := by
    rw [List.length_take]
    omega
  have behind := window_append_right (pack.take 7) errText 0 3
  rw [size] at behind
  show window (window (pack ++ rest) 0 5120) 7 3 = errText
  rw [window_window _ (by decide), parts]
  exact behind

private theorem field_zeros (short : pack.length < 7 + 3) :
    (mailHolding pack []).rx.recvPack.field 7 3 ≠ errText := by
  intro text
  have last := congrArg (List.getD · 2 0#8) text
  simp only [Image.byte_field (show 2 < 3 by decide)] at last
  have zero : (mailHolding pack []).rx.recvPack.byte (7 + 2) = 0#8 := by
    change (Image.stored 5120 (pack ++ []) 0).byte (7 + 2) = 0#8
    rw [Image.byte_stored, if_pos (by decide), List.append_nil, getD_past (by omega)]
  rw [zero] at last
  exact absurd last (by decide)

private theorem field_decided (received : Received pack wifi) (header : 7 ≤ pack.length)
    (short : pack.length < 7 + 3) (differs : ¬ pack.drop 7 <+: errText) :
    wifi.rx.recvPack.field 7 3 ≠ errText := by
  intro text
  obtain ⟨count, size⟩ := Nat.exists_eq_add_of_le header
  have delivered : wifi.rx.recvPack.field 7 count = pack.drop 7 := by
    rw [received.field (by omega), window_inside (by omega), List.take_of_length_le]
    rw [List.length_drop]
    omega
  have split := wifi.rx.recvPack.field_add 7 count (3 - count)
  rw [Nat.add_sub_of_le (by omega), text, delivered] at split
  exact differs ⟨_, split.symm⟩

end Decides

/-- The result is determined, and no reply is taken for an error by what lies behind
it, for exactly the replies that decide the answer themselves. -/
theorem waitAck_decided_iff (pack : List Byte) (cmd : Byte) (header : 7 ≤ pack.length)
    (fits : pack.length ≤ 5120) :
    (AnswersReply pack cmd ↔ ReplyDecides pack cmd) ∧
      (NoStaleError pack cmd ↔ ReplyDecides pack cmd) := by
  have stale (undecided : ¬ ReplyDecides pack cmd) : pack.getD 4 0#8 = cmd ∧ pack.length < 7 + 3 ∧
      ∃ rest, waitAck (mailHolding pack rest) cmd = some (-3) := by
    simp only [ReplyDecides, not_or, not_not] at undecided
    obtain ⟨same, short, rest, completes⟩ := undecided
    refine ⟨same, by omega, rest, ?_⟩
    rw [waitAck_received (received_mailHolding fits rest) rfl, if_neg (not_not_intro same),
      if_pos (field_completed header completes)]
  constructor
  · constructor
    · intro answers
      by_contra undecided
      obtain ⟨same, short, rest, error⟩ := stale undecided
      have equal :=
        answers _ _ (received_mailHolding fits rest) (received_mailHolding fits []) rfl rfl
      rw [error, waitAck_received (received_mailHolding fits []) rfl, if_neg (not_not_intro same),
        if_neg (field_zeros short)] at equal
      cases equal
    · intro decides first second one two firstThere secondThere
      rw [waitAck_received one firstThere, waitAck_received two secondThere]
      rcases decides with other | long | differs
      · rw [if_pos other, if_pos other]
      · rw [one.field long, two.field long]
      · rcases Nat.lt_or_ge pack.length (7 + 3) with short | long
        · rw [if_neg (field_decided one header short differs),
            if_neg (field_decided two header short differs)]
        · rw [one.field long, two.field long]
  · constructor
    · intro clean
      by_contra undecided
      obtain ⟨_, short, rest, error⟩ := stale undecided
      exact clean _ (received_mailHolding fits rest) rfl short error
    · intro decides wifi received there short
      rw [waitAck_received received there]
      rcases decides with other | long | differs
      · rw [if_pos other]
        decide
      · omega
      · rw [if_neg (field_decided received header short differs)]
        split <;> decide

/-- An empty reply to command 7, which has its CRC. -/
def emptyReply : List Byte := wifiSendPack 7#8 []

/-- Three data bytes decide. -/
theorem waitAck_decided_three : AnswersReply (wifiSendPack 7#8 [1#8, 2#8, 3#8]) 7#8 :=
  (waitAck_decided_iff (wifiSendPack 7#8 [1#8, 2#8, 3#8]) 7#8 (by decide) (by decide)).1.mpr
    (.inr (.inl (by decide)))

/-- An empty reply is an error after an earlier error text. -/
theorem waitAck_staleError : ¬ AnswersReply emptyReply 7#8 ∧ ¬ NoStaleError emptyReply 7#8 := by
  have undecided : ¬ ReplyDecides emptyReply 7#8 := by
    rintro (other | long | differs)
    · exact other (by decide)
    · exact absurd long (by decide)
    · rw [List.drop_eq_nil_of_le (by decide)] at differs
      exact differs List.nil_prefix
  have both := waitAck_decided_iff emptyReply 7#8 (by decide) (by decide)
  exact ⟨mt both.1.mp undecided, mt both.2.mp undecided⟩

end WifiAccess

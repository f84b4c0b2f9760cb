import WifiAccess.Base.Run
import WifiAccess.Link.Senders

/-! `esp8266_cmd.c`: a thread waits for a reply in `wifi_pack_recv`, while the
receive loop of the wifi thread goes on. -/

namespace WifiAccess

/-- The tests of `wait_ack` on a packet that has been taken: another command, an
error text, or success. The three bytes are read whatever the length. -/
def waitAckResult (wifi : Wifi) (cmd : Byte) : Option Int :=
  if wifi.cmd ≠ cmd then some (-2)
  else
    match wifi.data with
    | none => none
    | some off =>
      if wifi.rx.recvPack.byte off = 0x65#8 ∧ wifi.rx.recvPack.byte (off + 1) = 0x72#8 ∧
          wifi.rx.recvPack.byte (off + 2) = 0x72#8 then some (-3)
      else some 0

/-- Where a thread that asks and waits is: elsewhere, in the polling loop of `wait_ack`
with the polls left, behind it, returned, or through with reading the reply. -/
inductive Caller where
  | away
  | waiting (cmd : Byte) (time : Nat)
  | taken (cmd : Byte)
  | answered (cmd : Byte) (result : Int)
  | finished (cmd : Byte) (read : Packet)

/-- Between the end of the polling and the end of the reading. -/
def Caller.reads : Caller → Bool
  | taken _ => true
  | answered _ result => result = 0
  | away | waiting .. | finished .. => false

/-- The wifi thread, a caller, the packets accepted so far, and how many of them had
been when the caller cleared the flag. -/
structure Mail where
  wifi : Wifi
  caller : Caller
  accepted : List Packet
  since : Nat

inductive MailMove where
  | frame (frame : Frame)
  | call (cmd : Byte)
  | poll
  | compare
  | read

namespace Mail

def initial : Mail := ⟨.initial, .away, [], 0⟩

def withFlag (mail : Mail) (flag : Bool) (caller : Caller) : Mail :=
  ⟨{ mail.wifi with isRecvWifiPack := flag }, caller, mail.accepted, mail.since⟩

def withCaller (mail : Mail) (caller : Caller) : Mail := { mail with caller := caller }

/-- A frame is received at any time; the caller clears the flag and sends, polls once
a millisecond and at most 1000 times, and reads the packet after a result of 0. -/
def step (mail : Mail) : MailMove → Option Mail
  | .frame frame =>
    (wifiStep mail.wifi frame).map fun (reception, wifi) =>
      ⟨wifi, mail.caller, mail.accepted ++ reception.packet? wifi, mail.since⟩
  | .call cmd =>
    match mail.caller with
    | .waiting .. | .taken .. => none
    | _ => some { mail.withFlag false (.waiting cmd 1000) with since := mail.accepted.length }
  | .poll =>
    match mail.caller with
    | .waiting cmd time =>
      if mail.wifi.isRecvWifiPack then some (mail.withFlag false (.taken cmd))
      else if time - 1 = 0 then some (mail.withCaller (.answered cmd (-1)))
      else some (mail.withCaller (.waiting cmd (time - 1)))
    | _ => none
  | .compare =>
    match mail.caller with
    | .taken cmd => (waitAckResult mail.wifi cmd).map fun result =>
      mail.withCaller (.answered cmd result)
    | _ => none
  | .read =>
    match mail.caller with
    | .answered cmd 0 => some (mail.withCaller (.finished cmd mail.wifi.packet))
    | _ => none

/-- A packet is in the mailbox, or taken from it and not yet read. -/
def Pending (mail : Mail) : Prop := mail.wifi.isRecvWifiPack = true ∨ mail.caller.reads = true

/-- No packet starts while one is pending. -/
def Quiet (mail : Mail) : MailMove → Prop
  | .frame frame => mail.Pending → frame.starts = false
  | _ => True

/-- What the caller may rely on: a packet that is taken came after the flag was
cleared, and a result of 0 is about the command that was sent. -/
def CallerKnows (mail : Mail) : Caller → Prop
  | .away => True
  | .waiting _ _ => mail.wifi.isRecvWifiPack = true → mail.since < mail.accepted.length
  | .taken _ => mail.since < mail.accepted.length
  | .answered cmd result => result = 0 → mail.since < mail.accepted.length ∧ mail.wifi.cmd = cmd
  | .finished cmd read => read ∈ mail.accepted.drop mail.since ∧ read.cmd = cmd

/-- What is pending is the last packet that passed the checks. -/
structure Inv (mail : Mail) : Prop where
  idle : mail.wifi.rx.isRecvPack = false
  since : mail.since ≤ mail.accepted.length
  pending : mail.Pending → mail.accepted.getLast? = some mail.wifi.packet ∧
    mail.wifi.rx.isReceive = false
  caller : mail.CallerKnows mail.caller

end Mail

/-! ## The receive loop and the mailbox -/

/-- Between packets a frame that starts none changes nothing. -/
theorem wifiStep_ignored {wifi : Wifi} {frame : Frame} (idle : wifi.rx.isRecvPack = false)
    (stopped : wifi.rx.isReceive = false) (startless : frame.starts = false) :
    wifiStep wifi frame = some (.waiting, wifi) := by
  have same : wifi.rx.started frame = wifi.rx := if_neg (by simp [startless])
  rw [wifiStep, spiRead_idle idle, same, stopped]
  rfl

/-- The first frame of a longer packet goes to the start of the buffer. -/
theorem wifiStep_begun {wifi : Wifi} {frame : Frame} (idle : wifi.rx.isRecvPack = false)
    (starts : frame.starts = true) (inner : frame.ends = false) :
    ∃ rx, wifiStep wifi frame = some (.waiting, wifi.withRx rx) ∧
      rx.recvPack = wifi.rx.recvPack.put 0 (frame.field 1 31) := by
  have begun : wifi.rx.started frame = wifi.rx.start := if_pos starts
  obtain ⟨rx, taken, stored⟩ : ∃ rx, wifi.rx.start.take frame = some (-1, rx) ∧
      rx.recvPack = wifi.rx.recvPack.put 0 (frame.field 1 31) :=
    ⟨_, Rx.take_middle inner (.inr ⟨Nat.le_refl _, show 0 * 31 + 31 ≤ 5120 by decide⟩), rfl⟩
  have receiving : wifi.rx.start.isReceive = true := rfl
  refine ⟨rx, ?_, stored⟩
  rw [wifiStep, spiRead_idle idle, begun, if_pos receiving, taken]
  rfl

theorem Wifi.check_flag {wifi final : Wifi} {reception : Reception}
    (checked : wifi.check = some (reception, final)) :
    (reception = .accepted ∧ final.isRecvWifiPack = true) ∨
      (reception.packet? final = [] ∧ final.isRecvWifiPack = wifi.isRecvWifiPack) := by
  unfold check at checked
  split at checked
  · cases checked
    exact .inr ⟨rfl, rfl⟩
  · split at checked
    · cases checked
    · split at checked
      · cases checked
        exact .inr ⟨rfl, rfl⟩
      · cases checked
        exact .inl ⟨rfl, rfl⟩

/-- A pass of the loop puts a packet into the mailbox or leaves the flag alone. -/
theorem wifiStep_flag {wifi next : Wifi} {frame : Frame} {reception : Reception}
    (idle : wifi.rx.isRecvPack = false) (stepped : wifiStep wifi frame = some (reception, next)) :
    (reception.packet? next = [next.packet] ∧ next.isRecvWifiPack = true ∧
      next.rx.isReceive = false) ∨
      (reception.packet? next = [] ∧ next.isRecvWifiPack = wifi.isRecvWifiPack) := by
  have ended := wifiStep_cases idle stepped
  unfold wifiStep at stepped
  split at stepped
  · cases stepped
  · split at stepped
    · rcases Wifi.check_flag stepped with ⟨rfl, set⟩ | kept
      · obtain ⟨waiting, _⟩ | ⟨_, _, stopped⟩ := ended
        · cases waiting
        · exact .inl ⟨rfl, set, stopped⟩
      · exact .inr kept
    · cases stepped
      exact .inr ⟨rfl, rfl⟩

namespace Mail

theorem Inv.frame {mail next : Mail} {frame : Frame} (inv : mail.Inv)
    (quiet : mail.Quiet (.frame frame)) (stepped : mail.step (.frame frame) = some next) :
    next.Inv := by
  obtain ⟨⟨reception, wifi⟩, passed, rfl⟩ := Option.map_eq_some_iff.mp stepped
  by_cases pending : mail.Pending
  · -- the frame is ignored
    rw [wifiStep_ignored inv.idle (inv.pending pending).2 (quiet pending)] at passed
    cases passed
    simpa [Reception.packet?] using inv
  · have shut : mail.wifi.isRecvWifiPack = false := by
      by_contra set
      exact pending (.inl (by simpa using set))
    have unread : mail.caller.reads = false := by
      by_contra reads
      exact pending (.inr (by simpa using reads))
    have idle := wifiStep_idle inv.idle passed
    have grown := inv.since
    have knows := inv.caller
    rcases wifiStep_flag inv.idle passed with ⟨packet, set, stopped⟩ | ⟨packet, kept⟩
    · simp only [packet]
      refine ⟨idle, by simp; omega, fun _ => ⟨by simp, stopped⟩, ?_⟩
      cases caller : mail.caller with
      | away => trivial
      | waiting cmd time =>
        intro _
        simp
        omega
      | taken cmd => simp [caller, Caller.reads] at unread
      | answered cmd result =>
        intro success
        simp [caller, Caller.reads, success] at unread
      | finished cmd read =>
        rw [caller] at knows
        refine ⟨?_, knows.2⟩
        simp only [List.drop_append_of_le_length grown]
        exact List.mem_append_left _ knows.1
    · simp only [packet, List.append_nil]
      rw [shut] at kept
      refine ⟨idle, grown, ?_, ?_⟩
      · rintro (set | still)
        · rw [kept] at set
          cases set
        · exact absurd (.inr still) pending
      · cases caller : mail.caller with
        | away => trivial
        | waiting cmd time =>
          intro set
          rw [kept] at set
          cases set
        | taken cmd => simp [caller, Caller.reads] at unread
        | answered cmd result =>
          intro success
          simp [caller, Caller.reads, success] at unread
        | finished cmd read =>
          rw [caller] at knows
          exact knows

theorem mem_drop_of_getLast {α : Type} {xs : List α} {x : α} {count : Nat}
    (last : xs.getLast? = some x) (more : count < xs.length) : x ∈ xs.drop count := by
  apply List.mem_of_getLast?
  rw [List.getLast?_drop, if_neg (by omega), last]

theorem waitAckResult_zero {wifi : Wifi} {cmd : Byte} (success : waitAckResult wifi cmd = some 0) :
    wifi.cmd = cmd := by
  unfold waitAckResult at success
  by_contra differ
  rw [if_pos differ] at success
  cases success

theorem Inv.call {mail next : Mail} {cmd : Byte} (inv : mail.Inv)
    (stepped : mail.step (.call cmd) = some next) :
    next.Inv := by
  have called : next = { mail.withFlag false (.waiting cmd 1000)
      with since := mail.accepted.length } := by
    simp only [step] at stepped
    split at stepped
    · cases stepped
    · cases stepped
    · exact (Option.some.inj stepped).symm
  subst called
  refine ⟨inv.idle, Nat.le_refl _, ?_, ?_⟩
  · rintro (set | reads)
    · cases set
    · cases reads
  · intro set
    cases set

theorem Inv.poll {mail next : Mail} (inv : mail.Inv) (stepped : mail.step .poll = some next) :
    next.Inv := by
  have knows := inv.caller
  cases caller : mail.caller with
  | waiting cmd time =>
    rw [caller] at knows
    simp only [step, caller] at stepped
    by_cases set : mail.wifi.isRecvWifiPack = true
    · rw [if_pos set] at stepped
      cases stepped
      exact ⟨inv.idle, inv.since, fun _ => inv.pending (.inl set), knows set⟩
    · rw [if_neg set] at stepped
      have empty {other : Caller}
          (unread : other.reads = false) : ¬ (mail.withCaller other).Pending := by
        rintro (full | reads)
        · exact set full
        · rw [show (mail.withCaller other).caller = other from rfl, unread] at reads
          cases reads
      split at stepped
      · cases stepped
        exact ⟨inv.idle, inv.since, fun pending => absurd pending (empty rfl), fun failed => by
          cases failed⟩
      · cases stepped
        exact ⟨inv.idle, inv.since, fun pending => absurd pending (empty rfl), fun full =>
          absurd full set⟩
  | _ =>
    simp only [step, caller] at stepped
    cases stepped

theorem Inv.compare {mail next : Mail} (inv : mail.Inv) (stepped : mail.step .compare = some next) :
    next.Inv := by
  have knows := inv.caller
  cases caller : mail.caller with
  | taken cmd =>
    rw [caller] at knows
    simp only [step, caller] at stepped
    obtain ⟨result, compared, rfl⟩ := Option.map_eq_some_iff.mp stepped
    have pending := inv.pending (.inr (by rw [caller]; rfl))
    refine ⟨inv.idle, inv.since, fun _ => pending, ?_⟩
    rintro rfl
    exact ⟨knows, waitAckResult_zero compared⟩
  | _ =>
    simp only [step, caller] at stepped
    cases stepped

theorem Inv.read {mail next : Mail} (inv : mail.Inv) (stepped : mail.step .read = some next) :
    next.Inv := by
  have knows := inv.caller
  simp only [step] at stepped
  split at stepped
  · rename_i cmd caller
    cases stepped
    rw [caller] at knows
    obtain ⟨more, same⟩ := knows rfl
    have pending := inv.pending (.inr (by rw [caller]; rfl))
    refine ⟨inv.idle, inv.since, fun _ => pending, ?_⟩
    exact ⟨mem_drop_of_getLast pending.1 more, same⟩
  · cases stepped

theorem Inv.step {mail next : Mail} {move : MailMove} (inv : mail.Inv) (quiet : mail.Quiet move)
    (stepped : mail.step move = some next) : next.Inv := by
  cases move with
  | frame frame => exact inv.frame quiet stepped
  | call cmd => exact inv.call stepped
  | poll => exact inv.poll stepped
  | compare => exact inv.compare stepped
  | read => exact inv.read stepped

theorem Inv.start : initial.Inv := by
  refine ⟨rfl, Nat.le_refl _, ?_, trivial⟩
  rintro (set | reads)
  · cases set
  · cases reads

end Mail

/-- In every run in which no packet starts while one is pending, the mailbox holds the
last packet that passed the checks, and so does a caller after a result of 0: that
packet came after the flag was cleared, with the caller's command, and is what is read. -/
theorem mailbox (moves : List MailMove) (mail : Mail)
    (quiet : MovesMeet Mail.step Mail.Quiet .initial moves)
    (ran : runMoves Mail.step .initial moves = some mail) :
    (mail.wifi.isRecvWifiPack = true → mail.accepted.getLast? = some mail.wifi.packet) ∧
      (∀ cmd, mail.caller = .answered cmd 0 →
        mail.wifi.packet ∈ mail.accepted.drop mail.since ∧ mail.wifi.packet.cmd = cmd) ∧
      ∀ cmd read, mail.caller = .finished cmd read → read ∈ mail.accepted.drop mail.since ∧
        read.cmd = cmd := by
  have inv :=
    runMoves_invariant (fun inv quiet stepped => Mail.Inv.step inv quiet stepped)
      Mail.Inv.start quiet ran
  have knows := inv.caller
  refine ⟨fun set => (inv.pending (.inl set)).1, ?_, ?_⟩
  · intro cmd caller
    rw [caller] at knows
    obtain ⟨more, same⟩ := knows rfl
    exact ⟨Mail.mem_drop_of_getLast (inv.pending (.inr (by rw [caller]; rfl))).1 more, same⟩
  · intro cmd read caller
    rw [caller] at knows
    exact knows

/-! A reply of one byte in one frame. -/

def sampleReply : Packet := sentPacket 7#8 [1#8]

theorem sampleReply_frame : ∃ frame, ∀ wifi : Wifi, wifi.rx.isRecvPack = false →
    ∃ next, wifiStep wifi frame = some (.accepted, next) ∧ next.packet = sampleReply := by
  have single : (spiWriteFrames (.zero 32) (wifiSendPack 7#8 [1#8])).length = 1 := by
    rw [spiWriteFrames, length_spiWriteLoop, length_wifiSendPack]
    rfl
  obtain ⟨frame, alone⟩ := List.length_eq_one_iff.mp single
  refine ⟨frame, fun wifi idle => ?_⟩
  obtain ⟨final, delivered, _⟩ :=
    deliver_packet 7#8 (show [1#8].length ≤ 5113 by decide) idle (.zero 32)
  rw [alone] at delivered
  obtain ⟨reception, next, later, stepped, remaining, packets⟩ := deliver_cons delivered
  cases remaining
  rw [List.append_nil] at packets
  cases reception with
  | accepted => exact ⟨final, stepped, (List.cons.inj packets).1.symm⟩
  | _ => cases packets

/-- The reply arrives after the call. -/
theorem mailbox_reply : ∃ moves mail, runMoves Mail.step .initial moves = some mail ∧
    mail.wifi.isRecvWifiPack = true ∧ mail.wifi.packet = sampleReply ∧
      mail.accepted.getLast? = some mail.wifi.packet := by
  obtain ⟨frame, received⟩ := sampleReply_frame
  have called : Mail.step .initial (.call 7#8) = some ⟨.initial, .waiting 7#8 1000, [], 0⟩ := rfl
  obtain ⟨next, stepped, packet⟩ := received .initial rfl
  have arrived : Mail.step ⟨.initial, .waiting 7#8 1000, [], 0⟩ (.frame frame) =
      some ⟨next, .waiting 7#8 1000, [next.packet], 0⟩ := by
    simp [Mail.step, stepped, Reception.packet?]
  have ran : runMoves Mail.step .initial [.call 7#8, .frame frame] =
      some ⟨next, .waiting 7#8 1000, [next.packet], 0⟩ := by
    simp only [runMoves, called, arrived]
  have set : next.isRecvWifiPack = true := by
    rcases wifiStep_flag rfl stepped with ⟨_, set, _⟩ | ⟨packet, _⟩
    · exact set
    · cases packet
  refine ⟨_, _, ran, set, packet, (mailbox _ _ ?_ ran).1 set⟩
  refine ⟨trivial, ?_⟩
  rw [called]
  refine ⟨?_, ?_⟩
  · rintro (full | reads)
    · cases full
    · cases reads
  · rw [arrived]
    trivial

/-- A frame that starts a packet of zeros. -/
def firstFrame : Frame := .put (.zero 32) 0 [0x80#8]

/-- Behind the reply the next packet starts, and its first bytes are in the place of the
reply's while the flag is still set. -/
theorem mailbox_overwritten : ∃ moves mail, runMoves Mail.step .initial moves = some mail ∧
    mail.wifi.isRecvWifiPack = true ∧ mail.accepted.getLast? ≠ some mail.wifi.packet := by
  obtain ⟨frame, received⟩ := sampleReply_frame
  obtain ⟨next, stepped, packet⟩ := received .initial rfl
  have arrived : Mail.step .initial (.frame frame) = some ⟨next, .away, [next.packet], 0⟩ := by
    simp [Mail.step, Mail.initial, stepped, Reception.packet?]
  have set : next.isRecvWifiPack = true := by
    rcases wifiStep_flag rfl stepped with ⟨_, set, _⟩ | ⟨packet, _⟩
    · exact set
    · cases packet
  have idle := wifiStep_idle rfl stepped
  obtain ⟨rx, begun, overwritten⟩ :=
    wifiStep_begun idle (show firstFrame.starts = true by decide) (by decide)
  have begins : Mail.step ⟨next, .away, [next.packet], 0⟩ (.frame firstFrame) =
      some ⟨next.withRx rx, .away, [next.packet], 0⟩ := by
    simp [Mail.step, begun, Reception.packet?]
  refine ⟨[.frame frame, .frame firstFrame], ⟨next.withRx rx, .away, [next.packet], 0⟩, ?_, set, ?_⟩
  · simp only [runMoves, arrived, begins]
  · have lenth : next.lenth = 1 := congrArg Packet.lenth packet
    have read : (next.withRx rx).dataBytes = rx.recvPack.field 7 next.lenth := by
      rw [Wifi.dataBytes, show (next.withRx rx).data = next.data from rfl,
        (wifiStep_accepted stepped).2]
      rfl
    have zeros : (next.withRx rx).dataBytes = [0#8] := by
      have inside : 0 + (Image.field firstFrame 1 31).length ≤ 5120 := by
        rw [Image.length_field]; decide
      rw [read, lenth, overwritten, Image.field_succ, Image.byte_put inside, if_pos (by simp)]
      rfl
    intro same
    have data := congrArg Packet.data (Option.some.inj same)
    rw [packet] at data
    have kept : [1#8] = (next.withRx rx).dataBytes := data
    rw [zeros] at kept
    cases kept

end WifiAccess

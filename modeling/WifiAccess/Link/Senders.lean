import WifiAccess.Link.RoundTrip

/-! Two threads in `wifi_send` at once: their frames carry no mark of their packet. -/

namespace WifiAccess

/-- The elements of two lists mixed, each list in its own order. -/
inductive Interleaving {α : Type} : List α → List α → List α → Prop where
  | nil : Interleaving [] [] []
  | left {first second mixed : List α} {head : α} (rest : Interleaving first second mixed) :
      Interleaving (head :: first) second (head :: mixed)
  | right {first second mixed : List α} {head : α} (rest : Interleaving first second mixed) :
      Interleaving first (head :: second) (head :: mixed)

namespace Interleaving

variable {α : Type} {first second mixed : List α}

theorem symm (mix : Interleaving first second mixed) : Interleaving second first mixed := by
  induction mix with
  | nil => exact nil
  | left _ ih => exact right ih
  | right _ ih => exact left ih

theorem append (first second : List α) : Interleaving first second (first ++ second) := by
  induction first with
  | nil =>
    induction second with
    | nil => exact nil
    | cons _ _ ih => exact right ih
  | cons _ _ ih => exact left ih

theorem eq_of_nil (mix : Interleaving [] second mixed) : mixed = second := by
  generalize empty : ([] : List α) = first at mix
  induction mix with
  | nil => rfl
  | left _ _ => cases empty
  | right _ ih => rw [ih empty]

theorem mem (mix : Interleaving first second mixed) {x : α} (member : x ∈ mixed) :
    x ∈ first ∨ x ∈ second := by
  induction mix with
  | nil => cases member
  | left _ ih =>
    rcases List.mem_cons.mp member with rfl | later
    · exact .inl (List.mem_cons_self ..)
    · exact (ih later).imp_left (List.mem_cons_of_mem _)
  | right _ ih =>
    rcases List.mem_cons.mp member with rfl | later
    · exact .inr (List.mem_cons_self ..)
    · exact (ih later).imp_right (List.mem_cons_of_mem _)

/-- Up to the head of the second list, all elements are from the first. -/
theorem split_head {head : α} (mix : Interleaving first (head :: second) mixed) :
    ∃ before after rest, first = before ++ after ∧ mixed = before ++ head :: rest ∧
      Interleaving after second rest := by
  generalize whole : head :: second = all at mix
  induction mix with
  | nil => cases whole
  | left _ ih =>
    obtain ⟨before, after, rest, rfl, rfl, later⟩ := ih whole
    exact ⟨_ :: before, after, rest, rfl, rfl, later⟩
  | right rest _ =>
    obtain ⟨rfl, rfl⟩ := List.cons.inj whole
    exact ⟨[], _, _, rfl, rfl, rest⟩

end Interleaving

/-! ## What a sequence of frames can deliver -/

theorem deliver_cons {wifi final : Wifi} {frame : Frame} {rest : List Frame} {packets : List Packet}
    (ran : deliver wifi (frame :: rest) = some (packets, final)) :
    ∃ reception next later, wifiStep wifi frame = some (reception, next) ∧
      deliver next rest = some (later, final) ∧ packets = reception.packet? next ++ later := by
  rw [deliver] at ran
  split at ran
  · cases ran
  · rename_i reception next stepped
    obtain ⟨⟨later, last⟩, remaining, same⟩ := Option.map_eq_some_iff.mp ran
    obtain ⟨rfl, rfl⟩ := Prod.mk.inj same
    exact ⟨reception, next, later, stepped, remaining, rfl⟩

theorem deliver_append {wifi : Wifi} {first second : List Frame} :
    deliver wifi (first ++ second) =
      (deliver wifi first).bind fun (packets, next) =>
        (deliver next second).map fun (more, final) => (packets ++ more, final) := by
  induction first generalizing wifi with
  | nil => simp [deliver]
  | cons frame rest ih =>
    rw [List.cons_append, deliver, deliver]
    cases wifiStep wifi frame with
    | none => rfl
    | some passed =>
      obtain ⟨reception, next⟩ := passed
      simp only [ih]
      cases deliver next rest with
      | none => rfl
      | some delivered =>
        simp only [Option.map_some, Option.bind_some, Option.map_map]
        congr 1
        funext more
        simp

/-- A pass of the loop waits for more, or ends a packet at a frame with the end bit. -/
theorem wifiStep_cases {wifi next : Wifi} {frame : Frame} {reception : Reception}
    (idle : wifi.rx.isRecvPack = false) (stepped : wifiStep wifi frame = some (reception, next)) :
    (reception = .waiting ∧ next.rx.isReceive = (wifi.rx.started frame).isReceive) ∨
      ((wifi.rx.started frame).isReceive = true ∧ frame.ends = true ∧
        next.rx.isReceive = false) := by
  rw [wifiStep, spiRead_idle idle] at stepped
  by_cases receiving : (wifi.rx.started frame).isReceive = true
  · rw [if_pos receiving, Rx.take] at stepped
    by_cases last : frame.ends = true
    · right
      rw [if_pos last] at stepped
      cases copied : copyLoop frame ((wifi.rx.started frame).packCounter * 31) frame.len 0
        (wifi.rx.started frame).recvPack with
      | none =>
        rw [copied] at stepped
        cases stepped
      | some recvPack =>
        rw [copied] at stepped
        simp only [Option.map_some, ↓reduceIte] at stepped
        rw [Wifi.check_rx stepped]
        exact ⟨receiving, last, rfl⟩
    · left
      rw [if_neg last] at stepped
      cases copied : copyLoop frame ((wifi.rx.started frame).packCounter * 31) 31 0
        (wifi.rx.started frame).recvPack with
      | none =>
        rw [copied] at stepped
        cases stepped
      | some recvPack =>
        rw [copied] at stepped
        cases stepped
        exact ⟨rfl, rfl⟩
  · rw [if_neg receiving] at stepped
    cases stepped
    exact .inl ⟨rfl, rfl⟩

theorem deliver_idle {wifi final : Wifi} {frames : List Frame} {packets : List Packet}
    (idle : wifi.rx.isRecvPack = false) (ran : deliver wifi frames = some (packets, final)) :
    final.rx.isRecvPack = false := by
  induction frames generalizing wifi packets with
  | nil =>
    cases ran
    exact idle
  | cons frame rest ih =>
    obtain ⟨_, next, later, stepped, remaining, _⟩ := deliver_cons ran
    exact ih (wifiStep_idle idle stepped) remaining

/-- Without a frame that ends a packet none is delivered. -/
theorem deliver_no_end {wifi final : Wifi} {frames : List Frame} {packets : List Packet}
    (idle : wifi.rx.isRecvPack = false) (endless : ∀ frame ∈ frames, frame.ends = false)
    (ran : deliver wifi frames = some (packets, final)) : packets = [] := by
  induction frames generalizing wifi packets with
  | nil =>
    cases ran
    rfl
  | cons frame rest ih =>
    obtain ⟨reception, next, later, stepped, remaining, rfl⟩ := deliver_cons ran
    have none_later := ih (wifiStep_idle idle stepped)
      (fun other member => endless other (List.mem_cons_of_mem _ member)) remaining
    rcases wifiStep_cases idle stepped with ⟨rfl, _⟩ | ⟨_, last, _⟩
    · rw [none_later]
      rfl
    · rw [endless frame (List.mem_cons_self ..)] at last
      cases last

theorem Reception.length_packet? (reception : Reception) (wifi : Wifi) :
    (reception.packet? wifi).length ≤ 1 := by
  cases reception <;> simp [packet?]

/-- Without a frame that starts a packet at most the one under way is delivered. -/
theorem deliver_no_start {wifi final : Wifi} {frames : List Frame} {packets : List Packet}
    (idle : wifi.rx.isRecvPack = false) (startless : ∀ frame ∈ frames, frame.starts = false)
    (ran : deliver wifi frames = some (packets, final)) : packets.length ≤
      wifi.rx.isReceive.toNat := by
  induction frames generalizing wifi packets with
  | nil =>
    cases ran
    exact Nat.zero_le _
  | cons frame rest ih =>
    obtain ⟨reception, next, later, stepped, remaining, rfl⟩ := deliver_cons ran
    have few := ih (wifiStep_idle idle stepped)
      (fun other member => startless other (List.mem_cons_of_mem _ member)) remaining
    have same : wifi.rx.started frame = wifi.rx :=
      if_neg (by simp [startless frame (List.mem_cons_self ..)])
    have one := reception.length_packet? next
    rw [List.length_append]
    rcases wifiStep_cases idle stepped with ⟨rfl, kept⟩ | ⟨receiving, _, stopped⟩
    · rw [kept, same] at few
      simpa [Reception.packet?] using few
    · rw [same] at receiving
      rw [stopped, Bool.toNat_false] at few
      rw [receiving, Bool.toNat_true]
      omega

/-- Frames after one start deliver at most one packet. -/
theorem deliver_one_start {wifi final : Wifi} {frame : Frame} {rest : List Frame}
    {packets : List Packet} (idle : wifi.rx.isRecvPack = false)
    (startless : ∀ frame ∈ rest, frame.starts = false)
    (ran : deliver wifi (frame :: rest) = some (packets, final)) : packets.length ≤ 1 := by
  obtain ⟨reception, next, later, stepped, remaining, rfl⟩ := deliver_cons ran
  have few := deliver_no_start (wifiStep_idle idle stepped) startless remaining
  have bool := Bool.toNat_le next.rx.isReceive
  have one := reception.length_packet? next
  rw [List.length_append]
  rcases wifiStep_cases idle stepped with ⟨rfl, _⟩ | ⟨_, _, stopped⟩
  · simp [Reception.packet?]
    omega
  · rw [stopped, Bool.toNat_false] at few
    omega

theorem wifiStep_accepted {wifi next : Wifi} {frame : Frame}
    (stepped : wifiStep wifi frame = some (.accepted, next)) : next.lenth ≤ 5113 ∧
      next.data = some 7 := by
  unfold wifiStep at stepped
  split at stepped
  · cases stepped
  · split at stepped
    · obtain ⟨_, fits, _, rfl⟩ := Wifi.check_accepted stepped
      exact ⟨fits, rfl⟩
    · cases stepped

theorem deliver_fits {wifi final : Wifi} {frames : List Frame} {packets : List Packet}
    (ran : deliver wifi frames = some (packets, final)) : ∀ packet ∈ packets,
      packet.lenth ≤ 5113 := by
  induction frames generalizing wifi packets with
  | nil =>
    cases ran
    simp
  | cons frame rest ih =>
    obtain ⟨reception, next, later, stepped, remaining, rfl⟩ := deliver_cons ran
    intro packet member
    rcases List.mem_append.mp member with now | after
    · cases reception with
      | accepted =>
        rw [List.mem_singleton.mp now]
        exact (wifiStep_accepted stepped).1
      | _ => cases now
    · exact ih remaining packet after

/-! ## The frames of two packets -/

theorem spiWriteLoop_carries {pack : List Byte} {left i j : Nat} {buf frame : Frame}
    (sent : (spiWriteLoop pack (spiWriteNum pack.length) (spiWriteLastByte pack.length) left i
      buf)[j]? = some frame) :
    Carries pack (i + j) frame := by
  induction left generalizing i j buf with
  | zero => cases sent
  | succ left ih =>
    rw [spiWriteLoop] at sent
    cases j with
    | zero =>
      cases sent
      exact spiWriteFrame_carries pack i buf
    | succ j =>
      have later := ih (by simpa using sent)
      rwa [Nat.add_assoc, Nat.add_comm 1 j] at later

/-- The frames of one packet: only the first starts one, and only the last ends one. -/
structure OnePacket (head : Frame) (tail : List Frame) : Prop where
  starts : head.starts = true
  startless : ∀ frame ∈ tail, frame.starts = false
  endless : ∀ before after, head :: tail = before ++ after → after ≠ [] →
    ∀ frame ∈ before, frame.ends = false

theorem spiWriteFrames_onePacket {pack : List Byte} (positive : 0 < pack.length) (buf : Frame) :
    ∃ head tail, spiWriteFrames buf pack = head :: tail ∧ OnePacket head tail := by
  have count : (spiWriteFrames buf pack).length = spiWriteNum pack.length := length_spiWriteLoop ..
  have some_frame := spiWriteNum_pos positive
  obtain ⟨head, tail, frames⟩ := List.exists_cons_of_length_pos (count ▸ some_frame)
  have carried {j : Nat} {frame : Frame} (here : (head :: tail)[j]? = some frame) :
    Carries pack j frame := by
    rw [← frames] at here
    have carries := spiWriteLoop_carries here
    rwa [Nat.zero_add] at carries
  refine ⟨head, tail, frames, ?_, ?_, ?_⟩
  · have carries : Carries pack 0 head := carried rfl
    rw [carries.starts]
    rfl
  · intro frame member
    obtain ⟨j, here⟩ := List.mem_iff_getElem?.mp member
    have carries : Carries pack (j + 1) frame := carried here
    rw [carries.starts]
    simp
  · intro before after parts nonempty frame member
    obtain ⟨j, here⟩ := List.mem_iff_getElem?.mp member
    obtain ⟨inside, _⟩ := List.getElem?_eq_some_iff.mp here
    have carries : Carries pack j frame :=
      carried (by rw [parts, List.getElem?_append_left inside, here])
    have size := congrArg List.length (frames.trans parts)
    rw [count, List.length_append] at size
    have more := List.length_pos_iff.mpr nonempty
    rw [carries.ends]
    exact decide_eq_false (by omega)

/-- Unless the second packet starts after the end of the first, one is lost. -/
theorem OnePacket.mixed {head other : Frame} {tail rest mixed : List Frame}
    (one : OnePacket head tail)
    (two : OnePacket other rest) (mix : Interleaving tail (other :: rest) mixed) {wifi final : Wifi}
    {packets : List Packet} (idle : wifi.rx.isRecvPack = false)
    (ran : deliver wifi (head :: mixed) = some (packets, final)) :
    head :: mixed = (head :: tail) ++ (other :: rest) ∨ packets.length ≤ 1 := by
  obtain ⟨before, after, later, rfl, rfl, behind⟩ := mix.split_head
  by_cases whole : after = []
  · subst whole
    rw [behind.eq_of_nil]
    simp
  · right
    rw [← List.cons_append, deliver_append] at ran
    obtain ⟨⟨early, middle⟩, first, ran⟩ := Option.bind_eq_some_iff.mp ran
    obtain ⟨⟨late, last⟩, second, same⟩ := Option.map_eq_some_iff.mp ran
    obtain ⟨rfl, rfl⟩ := Prod.mk.inj same
    have none_early :=
      deliver_no_end idle (one.endless (head :: before) after (by simp) whole) first
    have startless : ∀ frame ∈ later, frame.starts = false := by
      intro frame member
      rcases behind.mem member with mine | theirs
      · exact one.startless frame (List.mem_append_right _ mine)
      · exact two.startless frame theirs
    have few := deliver_one_start (deliver_idle idle first) startless second
    rwa [none_early, List.nil_append]

/-- What `wifi_send` was called with. -/
def sentPacket (cmd : Byte) (data : List Byte) : Packet := ⟨cmd, data.length, data⟩

theorem deliver_of_receive {frames : List Frame} {left : Nat} {wifi final : Wifi}
    (ran : receive wifi frames = some (List.replicate left .waiting ++ [.accepted], final)) :
    deliver wifi frames = some ([final.packet], final) := by
  induction frames generalizing left wifi with
  | nil =>
    have receptions := congrArg Prod.fst (Option.some.inj ran)
    cases left <;> cases receptions
  | cons frame rest ih =>
    obtain ⟨reception, next, later, stepped, remaining, receptions⟩ := receive_cons ran
    cases left with
    | zero =>
      obtain ⟨rfl, rfl⟩ := List.cons.inj receptions
      cases rest with
      | nil =>
        cases remaining
        simp [deliver, stepped, Reception.packet?]
      | cons other rest =>
        obtain ⟨_, _, _, _, _, more⟩ := receive_cons remaining
        cases more
    | succ left =>
      obtain ⟨rfl, rfl⟩ := List.cons.inj receptions
      simp [deliver, stepped, ih remaining, Reception.packet?]

theorem deliver_packet (cmd : Byte) {data : List Byte} (short : data.length ≤ 5113) {wifi : Wifi}
    (idle : wifi.rx.isRecvPack = false) (buf : Frame) :
    ∃ final, deliver wifi (spiWriteFrames buf (wifiSendPack cmd data)) =
      some ([sentPacket cmd data], final) ∧
      final.rx.isRecvPack = false := by
  obtain ⟨left, rx, final, _, _, _, _, ran, sent, lenth, bytes, last⟩ :=
    receive_packet cmd short idle buf
  refine ⟨final, ?_, last⟩
  rw [deliver_of_receive ran, Wifi.packet, sent, lenth, bytes]
  rfl

/-- Two packets sent one after the other are both accepted. -/
theorem deliver_both (cmd cmd' : Byte) {data data' : List Byte} (short : data.length ≤ 5113)
    (short' : data'.length ≤ 5113) {wifi : Wifi} (idle : wifi.rx.isRecvPack = false)
    (buf buf' : Frame) :
    ∃ final, deliver wifi (spiWriteFrames buf (wifiSendPack cmd data) ++
      spiWriteFrames buf' (wifiSendPack cmd' data')) =
      some ([sentPacket cmd data, sentPacket cmd' data'], final) := by
  obtain ⟨middle, first, between⟩ := deliver_packet cmd short idle buf
  obtain ⟨final, second, _⟩ := deliver_packet cmd' short' between buf'
  refine ⟨final, ?_⟩
  rw [deliver_append, first, Option.bind_some]
  simp only [second]
  rfl

/-- With the frames of two senders mixed in any way, both packets are accepted
exactly when one packet is sent whole before the other and both fit the buffer. -/
theorem senders_iff (wifi : Wifi) (cmd cmd' : Byte) (data data' : List Byte) (buf buf' : Frame)
    (frames : List Frame) (idle : wifi.rx.isRecvPack = false)
    (mix : Interleaving (spiWriteFrames buf (wifiSendPack cmd data))
      (spiWriteFrames buf' (wifiSendPack cmd' data')) frames) :
    (∃ packets final, deliver wifi frames = some (packets, final) ∧
        packets.Perm [sentPacket cmd data, sentPacket cmd' data']) ↔
      (frames = spiWriteFrames buf (wifiSendPack cmd data) ++
        spiWriteFrames buf' (wifiSendPack cmd' data') ∨
          frames = spiWriteFrames buf' (wifiSendPack cmd' data') ++
            spiWriteFrames buf (wifiSendPack cmd data)) ∧
        data.length ≤ 5113 ∧ data'.length ≤ 5113 := by
  constructor
  · rintro ⟨packets, final, ran, perm⟩
    refine ⟨?_, ?_, ?_⟩
    · obtain ⟨head, tail, frames₁, one⟩ := spiWriteFrames_onePacket
        (show 0 < (wifiSendPack cmd data).length by rw [length_wifiSendPack]; omega) buf
      obtain ⟨other, rest, frames₂, two⟩ := spiWriteFrames_onePacket
        (show 0 < (wifiSendPack cmd' data').length by rw [length_wifiSendPack]; omega) buf'
      rw [frames₁, frames₂] at mix ⊢
      have both : packets.length = 2 := perm.length_eq
      cases mix with
      | left later => exact .inl ((one.mixed two later idle ran).resolve_right (by omega))
      | right later => exact .inr ((two.mixed one later.symm idle ran).resolve_right (by omega))
    · exact deliver_fits ran (sentPacket cmd data) (perm.mem_iff.mpr (List.mem_cons_self ..))
    · exact deliver_fits ran (sentPacket cmd' data')
        (perm.mem_iff.mpr (List.mem_cons_of_mem _ (List.mem_singleton_self _)))
  · rintro ⟨rfl | rfl, short, short'⟩
    · obtain ⟨final, ran⟩ := deliver_both cmd cmd' short short' idle buf buf'
      exact ⟨_, final, ran, .refl _⟩
    · obtain ⟨final, ran⟩ := deliver_both cmd' cmd short' short idle buf' buf
      exact ⟨_, final, ran, .swap ..⟩

/-- A reply of four frames, and a request behind it. -/
theorem senders_ordered :
    ∃ packets final, deliver .initial
      (spiWriteFrames (.zero 32) (wifiSendPack 6#8 (List.replicate 100 3#8)) ++
        spiWriteFrames (.zero 32) (wifiSendPack 9#8 [1#8, 2#8])) = some (packets, final) ∧
      packets.Perm [sentPacket 6#8 (List.replicate 100 3#8), sentPacket 9#8 [1#8, 2#8]] :=
  (senders_iff .initial 6#8 9#8 (List.replicate 100 3#8) [1#8, 2#8] (.zero 32) (.zero 32) _ rfl
    (.append ..)).mpr
    ⟨.inl rfl, by decide, by decide⟩

/-- A request between the two frames of a reply. -/
theorem senders_mixed :
    ∃ frames, Interleaving (spiWriteFrames (.zero 32) (wifiSendPack 6#8 (List.replicate 25 0#8)))
      (spiWriteFrames (.zero 32) (wifiSendPack 7#8 [])) frames ∧
    ¬ ∃ packets final, deliver .initial frames = some (packets, final) ∧
      packets.Perm [sentPacket 6#8 (List.replicate 25 0#8), sentPacket 7#8 []] := by
  obtain ⟨head, tail, frames, one⟩ := spiWriteFrames_onePacket
    (show 0 < (wifiSendPack 6#8 (List.replicate 25 0#8)).length by rw [length_wifiSendPack]; decide)
      (.zero 32)
  obtain ⟨other, rest, frames', two⟩ := spiWriteFrames_onePacket
    (show 0 < (wifiSendPack 7#8 []).length by rw [length_wifiSendPack]; decide) (.zero 32)
  have second : tail.length = 1 := by
    have size : (head :: tail).length = 2 := by
      rw [← frames, spiWriteFrames, length_spiWriteLoop, length_wifiSendPack]
      decide
    simpa using size
  have single : rest = [] := by
    have size : (other :: rest).length = 1 := by
      rw [← frames', spiWriteFrames, length_spiWriteLoop, length_wifiSendPack]
      decide
    simpa using size
  obtain ⟨last, rfl⟩ := List.length_eq_one_iff.mp second
  subst single
  rw [frames, frames']
  have mix : Interleaving [last] [other] [other, last] := .right (.left .nil)
  refine ⟨[head, other, last], .left mix, ?_⟩
  rintro ⟨packets, final, ran, perm⟩
  have both : packets.length = 2 := perm.length_eq
  rcases one.mixed two mix rfl ran with ordered | lost
  · obtain ⟨_, rfl, _⟩ := List.cons.inj ordered |>.imp id List.cons.inj
    have started := two.starts
    rw [one.startless _ (List.mem_singleton_self _)] at started
    cases started
  · omega

end WifiAccess

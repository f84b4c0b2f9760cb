import Mathlib.Data.List.Chain
import WifiAccess.Base.Run
import WifiAccess.Door.Attendance

/-! Anti-passback: over a run of swipes, entries and exits of a user alternate,
and the user file follows them with one bit. -/

namespace WifiAccess

open DoorProg DoorState

/-- A card at one of the two readers. -/
structure Swipe where
  cardId : BitVec 32
  outside : Bool
  time : TimeValue

def Swipe.event (swipe : Swipe) : EventSet :=
  if swipe.outside then userCheckCardOut else userCheckCardIn

/-- The user id of the record that was let through, and the direction. -/
structure Opening where
  userId : Nat
  entry : Bool
  deriving DecidableEq

/-- What stays fixed while no server command arrives. -/
structure Site where
  lib : CardSearch
  list : List CardLink
  deviceAddr : Byte
  stationAddr : Image 6

def Site.device (site : Site) (swipe : Swipe) : Device :=
  ⟨swipe.cardId, swipe.time, site.deviceAddr, site.stationAddr⟩

/-- The two files between events, and the openings so far. -/
structure Passage where
  member : Option (List Byte)
  attendance : Option (List Byte)
  openings : List Opening

namespace Passage

def bytes (state : Passage) : List Byte := state.member.getD []

/-- The state an iteration starts from. -/
def door (site : Site) (state : Passage) : DoorState :=
  .fresh site.list state.member state.attendance

/-- The state after an iteration that ended in `final`. -/
def record (state : Passage) (final : DoorState) (opening : Opening) : Passage :=
  ⟨final.member.content, final.attendance.content, state.openings ++
    List.replicate final.opened opening⟩

@[simp] theorem bytes_record (state : Passage) (final : DoorState) (opening : Opening) :
    (state.record final opening).bytes = final.member.bytes := (rfl)

@[simp] theorem openings_record (state : Passage) (final : DoorState) (opening : Opening) :
    (state.record final opening).openings = state.openings ++
      List.replicate final.opened opening := (rfl)

/-- One event. It has no next state when the iteration has no result or a call on
the user file fails. -/
def step (site : Site) (state : Passage) (swipe : Swipe) : Option Passage :=
  let ran := (userCheck (site.device swipe) swipe.event).run site.lib (state.door site)
  let user := identify site.lib (site.device swipe) swipe.event (state.door site)
  if ran.1.isSome ∧ ran.2.member.full = true then
    some (state.record ran.2 ⟨user.elim 0 UserInfo.userId, swipe.outside⟩)
  else none

/-- The directions of a user's openings. -/
def directions (state : Passage) (userId : Nat) : List Bool :=
  (state.openings.filter fun opening => opening.userId = userId).map Opening.entry

end Passage

/-- Each slot holds its own user id or none. -/
def OwnSlots (bytes : List Byte) : Prop :=
  ∀ userId, userId ≠ 0 → userId < 2 ^ 16 → (slot bytes userId).userId = userId ∨
    (slot bytes userId).userId = 0

/-! ## The bits of the file -/

theorem storedBit_eq (bytes : List Byte) (userId : Nat) {addr : Nat} (bound : addr < 128) :
    storedBit bytes userId addr = bitAt bytes (8 * (slotOffset userId + 1042) + addr) := by
  have byte : slotOffset userId + (1042 + addr / 8) = (8 * (slotOffset userId + 1042) + addr) /
      8 := by omega
  have bit : addr % 8 = (8 * (slotOffset userId + 1042) + addr) % 8 := by omega
  rw [storedBit, UserInfo.bitAt_state _ bound, slot, Image.byte_stored,
    if_pos (by omega), byte, bit]
  rfl

/-- The members of every record, up to the CRC, are as they were. -/
def SameRecords (first second : List Byte) : Prop :=
  first.length = second.length ∧ ∀ userId, (slot first userId).field 0 1042 =
    (slot second userId).field 0 1042

theorem field_of_same {first second : UserInfo} (same : first.field 0 1042 = second.field 0 1042)
    {off len : Nat} (inside : off + len ≤ 1042) : first.field off len = second.field off len := by
  have part (user : UserInfo) : user.field off len = window (user.field 0 1042) off len := by
    rw [Image.field, Image.field, window_window _ inside, Nat.zero_add]
  rw [part, part, same]

theorem byte_of_same {first second : UserInfo} (same : first.field 0 1042 = second.field 0 1042)
    {i : Nat} (inside : i < 1042) : first.byte i = second.byte i := by
  have one := @Image.byte_field 1058 first 0 1042 i inside
  rw [same, Image.byte_field inside, Nat.zero_add] at one
  exact one.symm

theorem limitFields_of_same {first second : UserInfo}
    (same : first.field 0 1042 = second.field 0 1042) :
    first.limitFields = second.limitFields := by
  have year : first.year = second.year := congrArg leValue (field_of_same same (by decide))
  have byte {i : Nat} (inside : i < 1042) : first.byte i = second.byte i := byte_of_same same inside
  simp only [UserInfo.limitFields, UserInfo.month, UserInfo.day, UserInfo.hour, UserInfo.minutes,
    UserInfo.second, year,
    byte (show 58 < 1042 by decide), byte (show 59 < 1042 by decide),
      byte (show 60 < 1042 by decide),
    byte (show 61 < 1042 by decide), byte (show 62 < 1042 by decide)]

/-- The checks but for the direction read the record up to its state. -/
theorem passes_of_same {first second : UserInfo} (same : first.field 0 1042 = second.field 0 1042)
    {device : Device} (passes : first.Passes device) : second.Passes device := by
  have authority : first.authority = second.authority := field_of_same same (by decide)
  obtain ⟨effective, current, held⟩ := passes
  refine ⟨(byte_of_same same (by decide)).symm.trans effective, fun limited => ?_, authority ▸ held⟩
  rw [← limitFields_of_same same]
  exact current ((byte_of_same same (by decide)).trans limited)

theorem valid_of_same {first second : UserInfo} (same : first.field 0 1042 = second.field 0 1042) :
    first.Valid ↔ second.Valid := by
  have checked : first.field 0 1038 = second.field 0 1038 := field_of_same same (by decide)
  have crc : first.field 1038 4 = second.field 1038 4 := field_of_same same (by decide)
  simp only [UserInfo.Valid, Image.IntactAt, Image.prefixCrc, Image.num, checked, crc]

theorem SameRecords.refl (bytes : List Byte) : SameRecords bytes bytes := ⟨rfl, fun _ => rfl⟩

theorem SameRecords.trans {first second third : List Byte} (one : SameRecords first second)
    (two : SameRecords second third) : SameRecords first third :=
  ⟨one.1.trans two.1, fun userId => (one.2 userId).trans (two.2 userId)⟩

theorem SameRecords.authority {first second : List Byte} (same : SameRecords first second)
    (userId : Nat) :
    (slot first userId).authority = (slot second userId).authority :=
  field_of_same (same.2 userId) (by decide)

theorem SameRecords.ownSlots {first second : List Byte} (same : SameRecords first second)
    (own : OwnSlots first) : OwnSlots second := by
  intro userId positive bound
  have userIds : (slot first userId).userId = (slot second userId).userId :=
    congrArg leValue (field_of_same (same.2 userId) (by decide))
  rw [← userIds]
  exact own userId positive bound

theorem SameRecords.writeState {bytes : List Byte} {user : UserInfo}
    (inside : slotOffset user.userId + 1058 ≤ bytes.length) : SameRecords bytes
      (writeState bytes user) := by
  refine ⟨(length_writeState inside).symm, ?_⟩
  intro userId
  unfold Image.field slot Image.stored WifiAccess.writeState
  rw [window_window _ (by decide), window_window _ (by decide)]
  apply Eq.symm
  apply window_splice_apart
  simp only [slotOffset, Image.length_bytes]
  omega

/-! ## One event -/

/-- What an event does: nothing to the openings and the file, an administrator's
opening, or a crossing that the user's stored bit allowed and turns. -/
inductive Effect (addr : Nat) (outside : Bool) (state next : Passage) : Prop where
  | nothing (bytes : next.bytes = state.bytes) (openings : next.openings = state.openings)
  | admin (userId : Nat) (bytes : next.bytes = state.bytes)
      (super : userId ≠ 0 → bitAt (slot state.bytes userId).authority 127 = true)
      (openings : next.openings = state.openings ++ [⟨userId, outside⟩])
  | crossing (user : UserInfo) (positive : user.userId ≠ 0)
      (own : slot state.bytes user.userId = user)
      (inside : slotOffset user.userId + 1058 ≤ state.bytes.length)
      (allowed : bitAt user.state addr = !outside)
      (bytes : next.bytes = writeState state.bytes (user.setBit addr outside))
      (openings : next.openings = state.openings ++ [⟨user.userId, outside⟩])

namespace Passage

variable {site : Site} {state next : Passage} {swipe : Swipe}

/-- The verdicts on a swipe. -/
theorem verdict_swipe (device : Device) (swipe : Swipe) (user : UserInfo) :
    (bitAt user.authority 127 = true ∧ verdict device swipe.event user = .admin) ∨
      verdict device swipe.event user = .refused ∨
      (bitAt user.state device.deviceAddr.toNat = (!swipe.outside) ∧
        verdict device swipe.event user = if swipe.outside then .entry else .exit) := by
  cases admin : bitAt user.authority 127 with
  | true => exact .inl ⟨rfl, by simp [verdict, admin]⟩
  | false =>
    right
    by_cases passes : user.Passes device
    · cases outside : swipe.outside with
      | true =>
        have event : swipe.event = userCheckCardOut := by simp [Swipe.event, outside]
        rw [event, verdict_outside admin passes]
        cases bitAt user.state device.deviceAddr.toNat <;> simp
      | false =>
        have event : swipe.event = userCheckCardIn := by simp [Swipe.event, outside]
        rw [event, verdict_inside admin passes]
        cases bitAt user.state device.deviceAddr.toNat <;> simp
    · exact .inl (by simp [verdict, admin, passes])

theorem step_effect (bound : site.deviceAddr.toNat < 128) (own : OwnSlots state.bytes)
    (stepped : step site state swipe = some next) :
    Effect site.deviceAddr.toNat swipe.outside state next := by
  simp only [step, Option.ite_none_right_eq_some, Option.some.injEq] at stepped
  obtain ⟨⟨defined, full⟩, rfl⟩ := stepped
  rcases @userCheck_cases site.lib (site.device swipe) swipe.event (state.door site) bound with
    ⟨_, undefined⟩ | ran
  · rw [undefined] at defined
    cases defined
  rw [ran] at full ⊢
  cases found : identify site.lib (site.device swipe) swipe.event (state.door site) with
  | none =>
    simp only [found] at full ⊢
    refine .nothing ?_ ?_
    · rw [bytes_record, bytes_afterRead full]
      rfl
    · simp [opened_afterRead, door]
  | some user =>
    obtain ⟨_, link, _, _, read, _, _, after⟩ := identify_some found
    simp only [found, Option.elim_some] at full ⊢
    have reading := full_of_settle _ _ _ _ full
    have unread : (afterRead site.lib (site.device swipe) swipe.event
        (state.door site)).member.bytes = state.bytes :=
      bytes_afterRead reading
    rw [after, member_withMember] at reading
    obtain ⟨positive, inside, whole, _⟩ := fetch_full reading
    have stored : slot state.bytes link.userId = user := whole.symm.trans read
    have named : user.userId ≠ 0 → user.userId = link.userId := by
      intro nonzero
      rcases own link.userId positive link.userId_lt with same | zero
      · rwa [stored] at same
      · rw [stored] at zero
        exact absurd zero nonzero
    have bytes := bytes_settle full
    rw [unread] at bytes
    have opened :=
      opened_settle (afterRead site.lib (site.device swipe) swipe.event (state.door site))
      (site.device swipe) swipe.event user (verdict (site.device swipe) swipe.event user)
    rw [opened_afterRead, door, opened_fresh, Nat.zero_add] at opened
    rcases verdict_swipe (site.device swipe) swipe user
      with ⟨super, admin⟩ | refused | ⟨allowed, crossing⟩
    · rw [admin] at bytes opened ⊢
      refine .admin user.userId ((bytes_record ..).trans bytes) ?_
        (by rw [openings_record, door, opened]; rfl)
      intro nonzero
      rwa [named nonzero, stored]
    · rw [refused] at bytes opened ⊢
      exact .nothing ((bytes_record ..).trans bytes)
        (by rw [openings_record, door, opened]; simp [Verdict.opens])
    · have turned : (verdict (site.device swipe) swipe.event user).direction =
          some swipe.outside := by
        rw [crossing]
        cases swipe.outside <;> rfl
      have opens : (verdict (site.device swipe) swipe.event user).opens = true := by
        rw [crossing]
        cases swipe.outside <;> rfl
      have nonzero := userId_settle bound full turned
      rw [turned] at bytes
      rw [opens] at opened
      refine .crossing user nonzero ?_ ?_ allowed ((bytes_record ..).trans bytes)
        (by rw [openings_record, door, opened]; rfl)
      · rw [named nonzero, stored]
      · rw [named nonzero]
        exact inside

end Passage

namespace Effect

variable {addr : Nat} {outside : Bool} {state next : Passage}

theorem same (bound : addr < 128) (effect : Effect addr outside state next) :
    SameRecords state.bytes next.bytes := by
  cases effect with
  | nothing bytes _ =>
    rw [bytes]
    exact .refl _
  | admin _ bytes _ _ =>
    rw [bytes]
    exact .refl _
  | crossing user _ _ inside _ bytes _ =>
    rw [bytes]
    apply SameRecords.writeState
    rwa [user.userId_setBit bound]

/-- A bit of the file changes only for the one user who crosses. -/
theorem frame (bound : addr < 128) (effect : Effect addr outside state next) {k : Nat}
    (changed : bitAt next.bytes k ≠ bitAt state.bytes k) :
    ∃ userId, next.openings = state.openings ++ [⟨userId, outside⟩] ∧
      k = 8 * (slotOffset userId + 1042) + addr := by
  cases effect with
  | nothing bytes _ => exact absurd (by rw [bytes]) changed
  | admin _ bytes _ _ => exact absurd (by rw [bytes]) changed
  | crossing user _ own _ _ bytes openings =>
    refine ⟨user.userId, openings, ?_⟩
    by_contra elsewhere
    rw [bytes, bitAt_writeState bound outside own, if_neg elsewhere] at changed
    exact changed rfl

private theorem directions_append {userId : Nat} {opening : Opening}
    (openings : next.openings = state.openings ++ [opening]) :
    next.directions userId =
      state.directions userId ++ if opening.userId = userId then [opening.entry] else [] := by
  unfold Passage.directions
  rw [openings, List.filter_append, List.map_append]
  split <;> simp_all

/-- For a user without the super administrator's bit, an event does nothing, or is
a crossing that the stored bit allowed and turns. -/
theorem turns (bound : addr < 128) (effect : Effect addr outside state next) {userId : Nat}
    (positive : userId ≠ 0) (ordinary : bitAt (slot state.bytes userId).authority 127 = false) :
    (storedBit next.bytes userId addr = storedBit state.bytes userId addr ∧
        next.directions userId = state.directions userId) ∨
      (storedBit state.bytes userId addr = (!outside) ∧ storedBit next.bytes userId addr = outside ∧
        next.directions userId = state.directions userId ++ [outside]) := by
  cases effect with
  | nothing bytes openings =>
    exact .inl ⟨by rw [bytes], by rw [Passage.directions, openings, Passage.directions]⟩
  | admin other bytes super openings =>
    left
    refine ⟨by rw [bytes], ?_⟩
    have apart : other ≠ userId := by
      rintro rfl
      rw [super positive] at ordinary
      cases ordinary
    rw [directions_append openings, if_neg apart, List.append_nil]
  | crossing user nonzero own _ allowed bytes openings =>
    rw [directions_append openings, bytes, storedBit_eq _ _ bound, storedBit_eq _ _ bound,
      bitAt_writeState bound outside own]
    by_cases mine : user.userId = userId
    · right
      subst mine
      rw [if_pos rfl, if_pos rfl, ← storedBit_eq _ _ bound, storedBit, own]
      exact ⟨allowed, rfl, rfl⟩
    · left
      have apart : slotOffset userId ≠ slotOffset user.userId := by
        unfold slotOffset
        omega
      rw [if_neg (by omega), if_neg mine, List.append_nil]
      exact ⟨rfl, rfl⟩

end Effect

/-! ## Runs -/

/-- The openings of a user alternate, starting against the first stored bit, and
the stored bit is the last direction. -/
def Alternates (addr : Nat) (first : List Byte) (state : Passage) (userId : Nat) : Prop :=
  (storedBit first userId addr :: state.directions userId).IsChain (· ≠ ·) ∧
    storedBit state.bytes userId addr = (state.directions userId).getLastD
      (storedBit first userId addr)

theorem Alternates.step {addr : Nat} {first : List Byte} {outside : Bool} {state next : Passage}
    {userId : Nat} (alternates : Alternates addr first state userId) (bound : addr < 128)
    (effect : Effect addr outside state next) (positive : userId ≠ 0)
    (ordinary : bitAt (slot state.bytes userId).authority 127 = false) : Alternates addr first
      next userId := by
  obtain ⟨chain, stored⟩ := alternates
  unfold Alternates
  rcases effect.turns bound positive ordinary with ⟨kept, same⟩ | ⟨before, after, more⟩
  · rw [kept, same]
    exact ⟨chain, stored⟩
  · rw [more, after]
    constructor
    · rw [← List.cons_append]
      apply chain.append (List.isChain_singleton outside)
      intro last isLast new isNew
      rw [List.getLast?_cons, ← List.getLastD_eq_getLast?, ← stored, before] at isLast
      cases Option.mem_some.mp isLast
      cases Option.mem_some.mp isNew
      simp
    · simp

/-- What every state of a run keeps of the file it started from. -/
structure PassbackInv (addr : Nat) (first : List Byte) (state : Passage) : Prop where
  same : SameRecords first state.bytes
  alternates : ∀ userId, userId ≠ 0 → bitAt (slot first userId).authority 127 = false →
    Alternates addr first state userId

theorem PassbackInv.step {site : Site} {first : List Byte} {state next : Passage} {swipe : Swipe}
    (inv : PassbackInv site.deviceAddr.toNat first state) (bound : site.deviceAddr.toNat < 128)
    (own : OwnSlots first) (stepped : Passage.step site state swipe = some next) :
    PassbackInv site.deviceAddr.toNat first next := by
  have effect := Passage.step_effect bound (inv.same.ownSlots own) stepped
  refine ⟨inv.same.trans (effect.same bound), ?_⟩
  intro userId positive ordinary
  rw [inv.same.authority] at ordinary
  exact (inv.alternates userId positive (by rwa [inv.same.authority])).step bound effect
    positive ordinary

theorem Passage.run_keeps {site : Site} {member attendance : Option (List Byte)}
    {swipes : List Swipe} {state : Passage} (bound : site.deviceAddr.toNat < 128)
    (own : OwnSlots (member.getD []))
    (ran : runMoves (Passage.step site) ⟨member, attendance, []⟩ swipes = some state) :
    PassbackInv site.deviceAddr.toNat (member.getD []) state := by
  refine runMoves_keeps (fun inv stepped => PassbackInv.step inv bound own stepped) ?_ ran
  exact ⟨.refl _, fun userId _ _ => ⟨List.isChain_singleton _, rfl⟩⟩

/-- In every run of events between server commands, the openings of a user without
the super administrator's bit alternate and the stored bit is the last direction;
and an event changes at most the one bit of the user it lets through. -/
theorem passback (site : Site) (member attendance : Option (List Byte)) (swipes : List Swipe)
    (state : Passage) (bound : site.deviceAddr.toNat < 128) (own : OwnSlots (member.getD []))
    (ran : runMoves (Passage.step site) ⟨member, attendance, []⟩ swipes = some state) :
    (∀ userId, userId ≠ 0 → bitAt (slot (member.getD []) userId).authority 127 = false →
        (storedBit (member.getD []) userId site.deviceAddr.toNat :: state.directions userId).IsChain
          (· ≠ ·) ∧
          storedBit state.bytes userId site.deviceAddr.toNat =
            (state.directions userId).getLastD
              (storedBit (member.getD []) userId site.deviceAddr.toNat)) ∧
      ∀ swipe next, Passage.step site state swipe = some next →
        next.bytes.length = state.bytes.length ∧
          (∀ k, bitAt next.bytes k ≠ bitAt state.bytes k → ∃ userId,
            next.openings = state.openings ++ [⟨userId, swipe.outside⟩] ∧
              k = 8 * (slotOffset userId + 1042) + site.deviceAddr.toNat) ∧
          ∀ userId, (slot next.bytes userId).Valid ↔ (slot state.bytes userId).Valid := by
  have inv := Passage.run_keeps bound own ran
  refine ⟨inv.alternates, ?_⟩
  intro swipe next stepped
  have effect := Passage.step_effect bound (inv.same.ownSlots own) stepped
  have same := effect.same bound
  exact ⟨same.1.symm, fun k changed => effect.frame bound changed,
    fun userId => valid_of_same (same.2 userId).symm⟩

theorem ownSlots_sole {user : UserInfo} (own : user.userId = 1) : OwnSlots (soleSlot user) := by
  intro userId positive _
  by_cases first : userId = 1
  · rw [first, slot_soleSlot, own]
    exact .inl rfl
  · right
    have past : (soleSlot user).length ≤ slotOffset userId := by
      simp [soleSlot, slotOffset]
      omega
    have zeros : (slot (soleSlot user) userId).field 0 2 = List.replicate 2 0#8 := by
      rw [Image.field, slot, Image.stored, window_window _ (by decide)]
      apply ext_getD (by simp)
      intro i
      rw [getD_window, getD_zeros, getD_past (by omega), ite_self]
    rw [UserInfo.userId, Image.num, zeros, leValue_zeros]

section Sole

variable {user : UserInfo}

theorem SoleOrdinary.setBit (sole : SoleOrdinary user) (value : Bool) :
    SoleOrdinary (user.setBit 0 value) := by
  have same : user.field 0 1042 = (user.setBit 0 value).field 0 1042 :=
    (user.field_setBit (by decide) value (by decide)).symm
  have authority : user.authority = (user.setBit 0 value).authority :=
    field_of_same same (by decide)
  have card : user.cardId = (user.setBit 0 value).cardId :=
    congrArg leValue (field_of_same same (by decide))
  exact ⟨(user.userId_setBit (by decide) value).trans sole.own, (valid_of_same same).mp sole.valid,
    card ▸ sole.card,
    limitFields_of_same same ▸ sole.fits, authority ▸ sole.ordinary,
      passes_of_same same sole.passes⟩

theorem writeState_soleSlot (own : user.userId = 1) (value : Bool) :
    writeState (soleSlot user) (user.setBit 0 value) = soleSlot (user.setBit 0 value) := by
  have state : slotOffset (user.setBit 0 value).userId + 1042 = 1050 := by
    rw [user.userId_setBit (by decide), own]
    rfl
  rw [writeState, state]
  apply ext_getD
  · simp [soleSlot]
  intro i
  rw [getD_splice, Image.length_bytes, soleSlot, soleSlot, getD_append, getD_append,
    List.length_replicate]
  by_cases before : i < 8
  · rw [if_neg (by omega), if_pos before, if_pos before]
  · rw [if_neg before, if_neg before, Image.stored, getD_window]
    have byte := user.byte_setBit (show 0 < 128 by decide) value (i - 8)
    by_cases inside : 1050 ≤ i ∧ i < 1050 + 16
    · have index : 1042 + (i - 1050) = i - 8 := by omega
      rw [if_pos inside, if_pos (by omega), index]
    · rw [if_neg inside]
      by_cases past : 1058 ≤ i - 8
      · rw [getD_past (by rw [Image.length_bytes]; exact past),
          getD_past (by rw [Image.length_bytes]; exact past)]
      · rw [if_neg (by omega)] at byte
        exact byte.symm

/-- The device with one user. -/
def soleSite (user : UserInfo) : Site := ⟨.reference cardCompar_consistent, [user.link], 0, .zero 6⟩

/-- The user's card at one of the readers. -/
def soleSwipe (outside : Bool) : Swipe := ⟨7#32, outside, ⟨0, 0, 0, 0, 0, 0, 0⟩⟩

/-- A swipe of the user's card: the door opens in the direction that the stored bit allows, and
the file has the new bit. -/
theorem soleSite_swipe (sole : SoleOrdinary user) (outside : Bool) (attendance : Option (List Byte))
    (openings : List Opening) :
    ∃ next, Passage.step (soleSite user) ⟨some (soleSlot user), attendance, openings⟩
      (soleSwipe outside) = some next ∧
      next.bytes = soleSlot (if bitAt user.state 0 = outside then user else user.setBit 0 outside) ∧
      next.openings = openings ++ if bitAt user.state 0 = outside then [] else [⟨1, outside⟩] := by
  have swiped : (soleSwipe outside).event.Has userCheckCardIn ∨
      (soleSwipe outside).event.Has userCheckCardOut := by
    cases outside <;> decide
  obtain ⟨found, read⟩ :=
    identify_sole (soleSite user).lib sampleDevice (soleSwipe outside).event user
      attendance sole.own
    sole.valid sole.card swiped
  have verdict : verdict sampleDevice (soleSwipe outside).event user = _ :=
    verdict_sole sole outside
  have computed :=
    userCheck_identified (soleSite user).lib found (by decide) (by decide)
      (limits_sole user sole.fits)
  have unread := bytes_afterRead read
  have shut : (afterRead (soleSite user).lib sampleDevice (soleSwipe outside).event
      (soleUser user attendance)).opened = 0 :=
    opened_afterRead
  rw [verdict] at computed
  generalize afterRead (soleSite user).lib sampleDevice (soleSwipe outside).event
    (soleUser user attendance) = before at *
  have stepped {final : DoorState} (full : final.member.full = true)
      (ran : (userCheck sampleDevice (soleSwipe outside).event).run (soleSite user).lib
        (soleUser user attendance) = (some (), final)) :
      Passage.step (soleSite user) ⟨some (soleSlot user), attendance, openings⟩
        (soleSwipe outside) =
        some (Passage.record ⟨some (soleSlot user), attendance, openings⟩ final ⟨1, outside⟩) := by
    have site : (soleSite user).device (soleSwipe outside) = sampleDevice := rfl
    have door : Passage.door (soleSite user) ⟨some (soleSlot user), attendance, openings⟩ =
        soleUser user attendance := rfl
    have side : (soleSwipe outside).outside = outside := rfl
    simp only [Passage.step, site, door, side, ran, found, full, sole.own, Option.isSome_some,
      and_self, ↓reduceIte,
      Option.elim_some]
  by_cases same : bitAt user.state 0 = outside
  · rw [if_pos same] at computed
    refine ⟨_, stepped read computed, ?_, ?_⟩
    · rw [if_pos same]
      exact unread
    · rw [if_pos same, Passage.openings_record, shut]
      rfl
  · obtain ⟨full, bytes⟩ := settle_sole sole read (soleSwipe outside).event outside
    rw [if_neg same] at computed
    refine ⟨_, stepped full computed, ?_, ?_⟩
    · rw [if_neg same, ← writeState_soleSlot sole.own]
      exact bytes.trans (congrArg (writeState · _) unread)
    · rw [if_neg same, Passage.openings_record, opened_settle, shut]
      cases outside <;> rfl

theorem soleSite_setBit (value : Bool) : soleSite (user.setBit 0 value) = soleSite user := by
  have same : (user.setBit 0 value).link = user.link :=
    Image.ext (user.field_setBit (by decide) value (by decide))
  rw [soleSite, same, soleSite]

/-- The next swipe, behind any state whose file has the user's record. -/
theorem soleSite_next (sole : SoleOrdinary user) {state : Passage}
    (held : state.bytes = soleSlot user) (outside : Bool) :
    ∃ next, Passage.step (soleSite user) state (soleSwipe outside) = some next ∧
      next.bytes = soleSlot (if bitAt user.state 0 = outside then user else user.setBit 0 outside) ∧
      next.openings = state.openings ++ if bitAt user.state 0 = outside then []
        else [⟨1, outside⟩] := by
  obtain ⟨member, attendance, openings⟩ := state
  have present : member = some (soleSlot user) := by
    cases member with
    | none => cases held
    | some bytes => exact congrArg some held
  rw [present]
  exact soleSite_swipe sole outside attendance openings

end Sole

/-- The user comes in, is turned away when the card is shown outside once more, and goes out. -/
theorem passback_visit :
    ∃ state, runMoves (Passage.step (soleSite (sampleUser 0x40#8 0#8).withCrc))
        ⟨some (soleSlot (sampleUser 0x40#8 0#8).withCrc), none, []⟩
          [soleSwipe true, soleSwipe true, soleSwipe false] = some state ∧
      state.directions 1 = [true, false] ∧ storedBit state.bytes 1 0 = false := by
  have sole : SoleOrdinary (sampleUser 0x40#8 0#8).withCrc :=
    ⟨by decide +kernel, UserInfo.valid_withCrc _, by
      decide +kernel, by decide +kernel, by decide +kernel, by decide +kernel⟩
  have out : bitAt (sampleUser 0x40#8 0#8).withCrc.state 0 = false := by decide +kernel
  generalize (sampleUser 0x40#8 0#8).withCrc = user at *
  have inside : bitAt (user.setBit 0 true).state 0 = true := by
    rw [user.bitAt_setBit (by decide) true (by decide), if_pos rfl]
  obtain ⟨first, entered, held, openings⟩ := soleSite_swipe sole true none []
  rw [out, if_neg Bool.false_ne_true] at held openings
  obtain ⟨second, refused, kept, same⟩ := soleSite_next (sole.setBit true) held true
  rw [inside, if_pos rfl] at kept same
  obtain ⟨third, left, -, both⟩ := soleSite_next (sole.setBit true) kept false
  rw [inside, if_neg Bool.false_ne_true.symm, same, openings] at both
  rw [soleSite_setBit] at refused left
  have addr : (soleSite user).deviceAddr.toNat = 0 := rfl
  have ran : runMoves (Passage.step (soleSite user)) ⟨some (soleSlot user), none, []⟩
      [soleSwipe true, soleSwipe true, soleSwipe false] = some third := by
    rw [runMoves_ahead entered, runMoves_ahead refused, runMoves_ahead left, runMoves]
  obtain ⟨alternates, _⟩ :=
    passback (soleSite user) (some (soleSlot user)) none _ _ (by rw [addr]; decide)
    (ownSlots_sole sole.own) ran
  have directions : third.directions 1 = [true, false] := by
    rw [Passage.directions, both]
    rfl
  have last :=
    (alternates 1 (by decide) (by rw [Option.getD_some, slot_soleSlot]; exact sole.ordinary)).2
  rw [directions] at last
  exact ⟨third, ran, directions, last⟩

end WifiAccess

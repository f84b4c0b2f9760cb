import WifiAccess.Door.Verdict

/-! The door opens only on a record that is in its slot, intact, and entitled. -/

namespace WifiAccess

open DoorProg DoorState

/-- What a record must say for the door to open on an event: the super
administrator's bit, or a pass in the direction that its state allows. -/
def UserInfo.MayCross (device : Device) (event : EventSet) (user : UserInfo) : Prop :=
  bitAt user.authority 127 = true ∨ user.Passes device ∧
    ((event = userCheckCardIn ∧ bitAt user.state device.deviceAddr.toNat = true) ∨
      (event = userCheckCardOut ∧ bitAt user.state device.deviceAddr.toNat = false))

theorem UserInfo.Blank.no_cross {user : UserInfo} (blank : user.Blank) (device : Device)
    (event : EventSet) :
    ¬ user.MayCross device event := by
  intro may
  have opens := verdict_opens.mpr may
  rw [blank.refused] at opens
  cases opens

theorem cardId_cardKey (cardId : BitVec 32) : (cardKey cardId).cardId = cardId.toNat :=
  Image.num_put _ (by decide) cardId.isLt

theorem slot_past {bytes : List Byte} {userId : Nat} (past : bytes.length ≤ slotOffset userId) :
    (slot bytes userId).Blank := by
  intro i _
  rw [slot, Image.byte_stored]
  split
  · rw [getD_past (by omega)]
  · rfl

section Identified

variable {lib : CardSearch} {device : Device} {event : EventSet} {state : DoorState}
  {user : UserInfo}

/-- Where an identified record comes from. -/
theorem identify_some (found : identify lib device event state = some user) :
    ∃ index link, lib.bsearch (cardKey device.readCardId) state.list = some index ∧
      state.list[index]? = some link ∧ (fetch state.member link).1.2 = user ∧ user.Valid ∧
      user.cardId = device.readCardId.toNat ∧
      afterRead lib device event state = state.withMember (fetch state.member link).2 := by
  unfold identify at found
  split at found
  · rename_i card
    split at found
    · cases found
    · rename_i index searched
      obtain ⟨link, present, same⟩ := lib.bsearch_found _ _ _ searched
      rw [cardCompar_eq, cardId_cardKey] at same
      simp only [List.getD_eq_getElem?_getD, present, Option.getD_some] at found
      split at found
      · rename_i checks
        obtain ⟨valid, card_id⟩ := checks
        obtain rfl := Option.some.inj found
        refine ⟨index, link, searched, present, rfl, valid, card_id.trans same.symm, ?_⟩
        unfold afterRead
        rw [if_pos card, searched]
        simp [present]
      · cases found
  · cases found

theorem opened_afterRead : (afterRead lib device event state).opened = state.opened := by
  unfold afterRead
  split
  · split <;> simp
  · rfl

end Identified

theorem slot_zero_blank {bytes : List Byte} {userId : Nat} (zero : slot bytes userId = .zero 1058) :
    (slot bytes userId).Blank := by
  rw [zero]
  exact UserInfo.zero_blank

section Iteration

variable (lib : CardSearch) {device : Device} (event : EventSet) (list : List CardLink)
  {member : Option (List Byte)} (attendance : Option (List Byte))

private theorem userCheck_opened (bound : device.deviceAddr.toNat < 128)
    (now : FieldsFit timeLayout device.time.fields)
    (limits : ∀ userId, FieldsFit timeLayout (slot (member.getD []) userId).limitFields) :
    ∃ final, (userCheck device event).run lib (.fresh list member attendance) = (some (), final) ∧
      (0 < final.opened →
        ∃ index link, lib.bsearch (cardKey device.readCardId) list = some index ∧
          list[index]? = some link ∧
          link.userId ≠ 0 ∧
          (final.member.full = true → slotOffset link.userId + 1058 ≤ (member.getD []).length) ∧
          (slot (member.getD []) link.userId).computedCrc =
            (slot (member.getD []) link.userId).crc ∧
          (slot (member.getD []) link.userId).cardId = device.readCardId.toNat ∧
          (slot (member.getD []) link.userId).MayCross device event) := by
  refine ⟨_, userCheck_run lib event bound now limits, ?_⟩
  cases found : identify lib device event (.fresh list member attendance) with
  | none =>
    intro opened
    rw [opened_afterRead] at opened
    cases opened
  | some user =>
    intro opened
    simp only [opened_settle, opened_afterRead] at opened
    have opens : (verdict device event user).opens = true := by
      cases shut : (verdict device event user).opens
      · rw [shut] at opened
        cases opened
      · rfl
    have may : user.MayCross device event := verdict_opens.mp opens
    obtain ⟨index, link, searched, present, read, valid, card, after⟩ := identify_some found
    rw [list_fresh] at searched present
    rw [member_fresh] at read after
    rcases fetch_record (FileState.fresh member) link with blank | ⟨positive, whole⟩
    · rw [← read] at may
      exact absurd may (blank.no_cross device event)
    · rw [FileState.bytes_fresh] at whole
      rw [← read, whole] at valid card may
      refine ⟨index, link, searched, present, positive, ?_, valid, card, may⟩
      intro full
      have reading := full_of_settle _ _ _ _ full
      rw [after, member_withMember] at reading
      have inside := (fetch_full reading).2.1
      rwa [FileState.bytes_fresh] at inside

end Iteration

/-- One iteration, whatever the card list and the two files hold: the door opens
only on an entry for the card that was read whose slot holds an intact record of
that card with the right to cross. A cleared slot, user id 0, and a slot past the
end of the file do not open it. -/
theorem userCheck_sound (lib : CardSearch) (device : Device) (event : EventSet)
    (list : List CardLink) (member attendance : Option (List Byte))
    (bound : device.deviceAddr.toNat < 128) (now : FieldsFit timeLayout device.time.fields)
    (limits : ∀ userId, FieldsFit timeLayout (slot (member.getD []) userId).limitFields) :
    ∃ final, (userCheck device event).run lib (.fresh list member attendance) = (some (), final) ∧
      (0 < final.opened →
        ∃ index link, lib.bsearch (cardKey device.readCardId) list = some index ∧
          list[index]? = some link ∧
          link.userId ≠ 0 ∧
          (final.member.full = true → slotOffset link.userId + 1058 ≤ (member.getD []).length) ∧
          (slot (member.getD []) link.userId).computedCrc =
            (slot (member.getD []) link.userId).crc ∧
          (slot (member.getD []) link.userId).cardId = device.readCardId.toNat ∧
          (slot (member.getD []) link.userId).MayCross device event) ∧
      (∀ index link, lib.bsearch (cardKey device.readCardId) list = some index →
        list[index]? = some link →
        link.userId = 0 ∨ slot (member.getD []) link.userId = .zero 1058 ∨
          (member.getD []).length ≤ slotOffset link.userId ∨
          (final.member.full = true ∧ (member.getD []).length < slotOffset link.userId + 1058) →
        final.opened = 0) := by
  obtain ⟨final, ran, sound⟩ := userCheck_opened lib event list attendance bound now limits
  refine ⟨final, ran, sound, ?_⟩
  intro index link searched present absent
  by_contra opened
  obtain ⟨same, entry, found, listed, positive, whole, _, _, may⟩ :=
    sound (Nat.pos_of_ne_zero opened)
  cases Option.some.inj (searched.symm.trans found)
  cases Option.some.inj (present.symm.trans listed)
  rcases absent with zero | zero | past | ⟨full, short⟩
  · exact positive zero
  · exact (slot_zero_blank zero).no_cross device event may
  · exact (slot_past past).no_cross device event may
  · exact absurd (whole full) (by omega)

/-! A device with one user, user id 1. -/

section Sole

variable (lib : CardSearch) (device : Device) (event : EventSet) (user : UserInfo)
  (attendance : Option (List Byte))

def soleUser : DoorState := .fresh [user.link] (some (soleSlot user)) attendance

theorem bsearch_sole (card : user.cardId = device.readCardId.toNat) :
    lib.bsearch (cardKey device.readCardId) [user.link] = some 0 := by
  have key : cardCompar (cardKey device.readCardId) user.link = 0 := by
    rw [cardCompar_eq, cardId_cardKey, user.cardId_link, card]
  have present := lib.bsearch_complete (cardKey device.readCardId) [user.link]
    (List.pairwise_singleton _ _) ⟨user.link, List.mem_singleton_self _, key⟩
  obtain ⟨index, searched⟩ := Option.isSome_iff_exists.mp present
  obtain ⟨entry, listed, _⟩ := lib.bsearch_found _ _ _ searched
  obtain ⟨inside, rfl⟩ := List.getElem?_eq_some_iff.mp listed
  have first : index = 0 := by simpa using inside
  rw [searched, first]

theorem identify_sole (own : user.userId = 1) (valid : user.Valid)
    (card : user.cardId = device.readCardId.toNat)
    (swiped : event.Has userCheckCardIn ∨ event.Has userCheckCardOut) :
    identify lib device event (soleUser user attendance) = some user ∧
      (afterRead lib device event (soleUser user attendance)).member.full = true := by
  have searched := bsearch_sole lib device user card
  have linked : user.link.userId = 1 := by rw [user.userId_link, own]
  have inside : slotOffset user.link.userId + 1058 ≤
      (FileState.fresh (some (soleSlot user))).bytes.length := by
    simp [linked, soleSlot, slotOffset]
  obtain ⟨read, full⟩ := fetch_inside (by rw [linked]; decide) inside
  rw [linked, FileState.bytes_fresh, Option.getD_some, slot_soleSlot] at read
  unfold identify afterRead
  rw [if_pos swiped, if_pos swiped]
  simp only [soleUser, list_fresh, member_fresh, searched, List.getD_cons_zero, read,
    member_withMember]
  rw [if_pos ⟨valid, user.cardId_link.symm⟩, full]
  exact ⟨rfl, rfl⟩

theorem limits_sole (fits : FieldsFit timeLayout user.limitFields) (userId : Nat) :
    FieldsFit timeLayout (slot (soleSlot user) userId).limitFields := by
  by_cases own : userId ≤ 1
  · have same : slotOffset userId = slotOffset 1 := by
      unfold slotOffset
      omega
    have first : slot (soleSlot user) userId = user := by
      rw [slot, same]
      exact slot_soleSlot user
    rwa [first]
  · apply UserInfo.Blank.limitFits
    apply slot_past
    simp [soleSlot, slotOffset]
    omega

end Sole

/-- User 1 with card 7, before the CRC is filled in. -/
def sampleUser (authority state : Byte) : UserInfo :=
  ((((Image.zero 1058).put 0 [1#8]).put 2 [7#8, 0#8, 0#8, 0#8, 1#8]).put 54 [authority]).put 1042
    [state]

def sampleDevice : Device := ⟨7#32, ⟨0, 0, 0, 0, 0, 0, 0⟩, 0, .zero 6⟩

/-- A super administrator gets in. -/
theorem userCheck_sound_admin :
    ∃ final, (userCheck sampleDevice userCheckCardIn).run (.reference cardCompar_consistent)
        (soleUser (sampleUser 0x80#8 0#8).withCrc none) = (some (), final) ∧
      final.opened = 1 ∧ (slot (soleSlot (sampleUser 0x80#8 0#8).withCrc) 1).MayCross sampleDevice
        userCheckCardIn := by
  have now : FieldsFit timeLayout sampleDevice.time.fields := by decide
  have limits := limits_sole (sampleUser 0x80#8 0#8).withCrc (by decide +kernel)
  have admin : (verdict sampleDevice userCheckCardIn (sampleUser 0x80#8 0#8).withCrc) = .admin := by
    have super : bitAt (sampleUser 0x80#8 0#8).withCrc.authority 127 = true := by decide +kernel
    rw [verdict, if_pos super]
  obtain ⟨final, ran, sound, _⟩ :=
    userCheck_sound (.reference cardCompar_consistent) sampleDevice userCheckCardIn
    [(sampleUser 0x80#8 0#8).withCrc.link] (some (soleSlot (sampleUser 0x80#8 0#8).withCrc)) none
      (by decide) now limits
  have found := (identify_sole (.reference cardCompar_consistent) sampleDevice userCheckCardIn
    (sampleUser 0x80#8 0#8).withCrc none (by decide +kernel) (UserInfo.valid_withCrc _)
      (by decide +kernel)
    (by decide)).1
  have computed :=
    userCheck_identified (.reference cardCompar_consistent) found (by decide) now limits
  have opened : final.opened = 1 := by
    have same := congrArg (fun result => result.2.opened) (ran.symm.trans computed)
    simp only [opened_settle, opened_afterRead, admin] at same
    exact same
  obtain ⟨index, link, _, listed, _, _, _, _, may⟩ := sound (by omega)
  obtain ⟨inside, rfl⟩ := List.getElem?_eq_some_iff.mp listed
  have first : index = 0 := by simpa using inside
  subst first
  have linked : (sampleUser 0x80#8 0#8).withCrc.link.userId = 1 := by decide +kernel
  simp only [List.getElem_cons_zero, linked] at may
  exact ⟨final, ran, opened, may⟩

end WifiAccess

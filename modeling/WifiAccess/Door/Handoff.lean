import WifiAccess.Base.Run
import WifiAccess.Door.Check
import WifiAccess.Door.Reader

/-! `rfid_thread.c` and `user_check_thread.c`: how a card that is read reaches the thread
that decides on it, by one event set and one card number for both readers. -/

namespace WifiAccess

inductive Side where
  | inside
  | outside
  deriving DecidableEq

def Side.event : Side → EventSet
  | inside => userCheckCardIn
  | outside => userCheckCardOut

def userCheckEvents : EventSet :=
  userCheckCardIn ||| userCheckCardOut ||| userCheckFingerIn ||| userCheckFingerOut

namespace Rc522

def reader (thread : Rc522) : Side → Reader
  | .inside => thread.inside
  | .outside => thread.outside

def withReader (thread : Rc522) (side : Side) (reader : Reader) : Rc522 :=
  match side with
  | .inside => { thread with inside := reader }
  | .outside => { thread with outside := reader }

def tick (thread : Rc522) : Rc522 := ⟨thread.inside.tick, thread.outside.tick⟩

end Rc522

/-- Where `rc522_thread_entry` is in its loop. -/
inductive ReaderAt where
  | read (side : Side)
  | send (side : Side)
  | timers
  deriving DecidableEq

def Side.next : Side → ReaderAt
  | inside => .read .outside
  | outside => .timers

/-- Where `user_check_thread_entry` is: in an iteration, its sleep in `open_door` included,
suspended in `rt_event_recv`, or behind it with the event and without the number. -/
inductive CheckAt where
  | checking
  | suspended
  | received (event : EventSet)

/-- The event that has come out of the set without its number. -/
def CheckAt.due : CheckAt → List EventSet
  | received event => [event]
  | checking | suspended => []

/-- A reader's event and the number of the card. -/
structure CardEvent where
  event : EventSet
  cardId : BitVec 32
  deriving DecidableEq

/-- The globals and the two threads, with all that has been read and sent, and what
`userCheck` was run on. -/
structure Handoff where
  thread : Rc522
  readerAt : ReaderAt
  readCardId : BitVec 32
  events : EventSet
  checkAt : CheckAt
  reads : List CardEvent
  sent : List CardEvent
  decided : List CardEvent

inductive HandoffMove where
  | read (result : Option (BitVec 32))
  | send
  | tick
  | receive
  | take

namespace Handoff

/-- The last card numbers are not initialised. -/
def initial (oldInCardId oldOutCardId : BitVec 32) : Handoff :=
  ⟨⟨.initial oldInCardId, .initial oldOutCardId⟩, .read .inside, 0#32, 0#32, .checking, [], [], []⟩

/-- `rt_event_send`, which hands the bits to a thread that is suspended. -/
def eventSend (handoff : Handoff) (set : EventSet) : Handoff :=
  let events := handoff.events ||| set
  match handoff.checkAt with
  | .suspended =>
    let received := userCheckEvents &&& events
    if received ≠ 0#32 then
      { handoff with events := events &&& ~~~received, checkAt := .received received }
    else { handoff with events := events }
  | .checking | .received _ => { handoff with events := events }

/-- `rt_event_recv`. -/
def eventRecv (handoff : Handoff) : Handoff :=
  if handoff.events &&& userCheckEvents ≠ 0#32 then
    { handoff with
      events := handoff.events &&& ~~~userCheckEvents
      checkAt := .received (handoff.events &&& userCheckEvents) }
  else { handoff with checkAt := .suspended }

/-- The moves of the two threads. The number is taken for an event of a card only. -/
def step (handoff : Handoff) : HandoffMove → Option Handoff
  | .read result =>
    match handoff.readerAt with
    | .read side =>
      let (sends, reader) := (handoff.thread.reader side).poll result
      some { handoff with
        thread := handoff.thread.withReader side reader
        readerAt := if sends then .send side else side.next
        readCardId := result.getD handoff.readCardId
        reads := handoff.reads ++ result.toList.map (⟨side.event, ·⟩) }
    | .send _ | .timers => none
  | .send =>
    match handoff.readerAt with
    | .send side =>
      some { handoff.eventSend side.event with
        readerAt := side.next
        sent := handoff.sent ++ [⟨side.event, (handoff.thread.reader side).oldCardId⟩] }
    | .read _ | .timers => none
  | .tick =>
    match handoff.readerAt with
    | .timers => some { handoff with thread := handoff.thread.tick, readerAt := .read .inside }
    | .read _ | .send _ => none
  | .receive =>
    match handoff.checkAt with
    | .checking => some handoff.eventRecv
    | .suspended | .received _ => none
  | .take =>
    match handoff.checkAt with
    | .received event =>
      if event.Has userCheckCardIn ∨ event.Has userCheckCardOut then
        some { handoff with checkAt := .checking, decided := handoff.decided ++
          [⟨event, handoff.readCardId⟩] }
      else some { handoff with checkAt := .checking }
    | .checking | .suspended => none

/-- The events that are received or in the set. -/
def held (handoff : Handoff) : List EventSet :=
  handoff.checkAt.due ++ if handoff.events = 0#32 then [] else [handoff.events]

/-- Every event that was sent has been decided once, with its number, or is held as it was
sent. None is left where `user_check` waits. -/
structure HandedOff (handoff : Handoff) : Prop where
  one_by_one : ∃ pending, handoff.sent = handoff.decided ++ pending ∧
    pending.map CardEvent.event = handoff.held
  settled : handoff.checkAt = .suspended → handoff.decided = handoff.sent

/-- The number that was read last. -/
def lastRead (handoff : Handoff) : BitVec 32 :=
  (handoff.reads.getLast?.map CardEvent.cardId).getD 0#32

/-- No event is sent while another is in the set, and when the number is taken, the card
that was read last at either reader is the one of the event that is due. -/
def Undisturbed (handoff : Handoff) : HandoffMove → Prop
  | .send => handoff.events = 0#32
  | .take => handoff.sent[handoff.decided.length]?.map CardEvent.cardId = some handoff.lastRead
  | .read _ | .tick | .receive => True

instance (handoff : Handoff) : (move : HandoffMove) → Decidable (handoff.Undisturbed move)
  | .send => inferInstanceAs (Decidable (handoff.events = 0#32))
  | .take => inferInstanceAs (Decidable (_ = some _))
  | .read _ | .tick | .receive => inferInstanceAs (Decidable True)

/-! ## Bits of cards -/

/-- The sets of the two bits that the readers send. -/
def cardEvents : List EventSet :=
  [0#32, userCheckCardIn, userCheckCardOut, userCheckCardIn ||| userCheckCardOut]

section Bits

variable {event : EventSet}

theorem cardEvents_received (card : event ∈ cardEvents) : event &&& userCheckEvents = event := by
  simp only [cardEvents, List.mem_cons, List.not_mem_nil, or_false] at card
  rcases card with rfl | rfl | rfl | rfl <;> decide

theorem cardEvents_cleared (card : event ∈ cardEvents) : event &&& ~~~userCheckEvents = 0#32 := by
  simp only [cardEvents, List.mem_cons, List.not_mem_nil, or_false] at card
  rcases card with rfl | rfl | rfl | rfl <;> decide

theorem cardEvents_has (card : event ∈ cardEvents) (present : event ≠ 0#32) :
    event.Has userCheckCardIn ∨ event.Has userCheckCardOut := by
  simp only [cardEvents, List.mem_cons, List.not_mem_nil, or_false] at card
  rcases card with rfl | rfl | rfl | rfl
  · exact absurd rfl present
  · exact .inl (by decide)
  · exact .inr (by decide)
  · exact .inl (by decide)

theorem cardEvents_sent (card : event ∈ cardEvents) (side : Side) :
    event ||| side.event ∈ cardEvents ∧ event ||| side.event ≠ 0#32 := by
  simp only [cardEvents, List.mem_cons, List.not_mem_nil, or_false] at card ⊢
  rcases card with rfl | rfl | rfl | rfl <;> cases side <;> decide

end Bits

/-! ## Swipes in order -/

/-- What is sent is decided, or held one by one. -/
def OneByOne (sent decided : List CardEvent) (held : List EventSet) : Prop :=
  ∃ pending, sent = decided ++ pending ∧ pending.map CardEvent.event = held

section Order

variable {sent decided : List CardEvent} {held : List EventSet}

theorem oneByOne_sent (read : CardEvent) :
    OneByOne (sent ++ [read]) decided (held ++ [read.event]) ↔ OneByOne sent decided held := by
  constructor
  · rintro ⟨pending, whole, events⟩
    rcases List.eq_nil_or_concat pending with rfl | ⟨before, last, rfl⟩
    · cases held <;> cases events
    · rw [List.concat_eq_append, ← List.append_assoc] at whole
      obtain ⟨same, _⟩ := List.append_inj' whole rfl
      rw [List.concat_eq_append, List.map_append] at events
      exact ⟨before, same, (List.append_inj' events rfl).1⟩
  · rintro ⟨pending, rfl, rfl⟩
    exact ⟨pending ++ [read], List.append_assoc .., List.map_append ..⟩

/-- An event that is merged is lost. -/
theorem not_oneByOne_of_few (few : decided.length + held.length < sent.length) :
    ¬ OneByOne sent decided held := by
  rintro ⟨pending, rfl, rfl⟩
  rw [List.length_append, List.length_map] at few
  exact Nat.lt_irrefl _ few

theorem oneByOne_taken (event : EventSet) (cardId : BitVec 32) :
    OneByOne sent (decided ++ [⟨event, cardId⟩]) held ↔
      OneByOne sent decided (event :: held) ∧ sent[decided.length]?.map CardEvent.cardId =
        some cardId := by
  constructor
  · rintro ⟨pending, rfl, rfl⟩
    refine ⟨⟨⟨event, cardId⟩ :: pending, by simp, rfl⟩, ?_⟩
    simp
  · rintro ⟨⟨pending, rfl, events⟩, card⟩
    cases pending with
    | nil => cases events
    | cons first rest =>
      obtain ⟨firstEvent, firstCard⟩ := first
      obtain ⟨rfl, rfl⟩ := List.cons.inj events
      rw [List.getElem?_append_right (Nat.le_refl _), Nat.sub_self] at card
      cases Option.some.inj card
      exact ⟨rest, by simp, rfl⟩

end Order

/-! ## One move -/

/-- What every move keeps. -/
structure Inv (handoff : Handoff) : Prop where
  few : handoff.decided.length + handoff.held.length ≤ handoff.sent.length
  readCardId : handoff.readCardId = handoff.lastRead
  events : handoff.events ∈ cardEvents
  received : ∀ event, handoff.checkAt = .received event → event ∈ cardEvents ∧ event ≠ 0#32
  suspended : handoff.checkAt = .suspended → handoff.events = 0#32

section Moves

variable {handoff next : Handoff}

theorem Inv.handsOff_iff (inv : handoff.Inv) :
    handoff.HandedOff ↔ OneByOne handoff.sent handoff.decided handoff.held := by
  refine ⟨HandedOff.one_by_one, fun one_by_one => ⟨one_by_one, fun waits => ?_⟩⟩
  obtain ⟨pending, whole, events⟩ := one_by_one
  rw [held, waits, inv.suspended waits] at events
  rw [whole, List.map_eq_nil_iff.mp events, List.append_nil]

theorem Inv.decides {guard : Prop} (inv : handoff.Inv) (kept : next.Inv)
    (order : OneByOne next.sent next.decided next.held ↔
      OneByOne handoff.sent handoff.decided handoff.held ∧ guard) :
    next.Inv ∧ (next.HandedOff ↔ handoff.HandedOff ∧ guard) :=
  ⟨kept, by rw [kept.handsOff_iff, inv.handsOff_iff, order]⟩

theorem read_decides {result : Option (BitVec 32)} (inv : handoff.Inv)
    (stepped : handoff.step (.read result) = some next) :
    next.Inv ∧ (next.HandedOff ↔ handoff.HandedOff ∧ handoff.Undisturbed (.read result)) := by
  dsimp only [step] at stepped
  split at stepped
  · cases stepped
    refine inv.decides ⟨inv.few, ?_, inv.events, inv.received, inv.suspended⟩
      (and_iff_left trivial).symm
    cases result with
    | none =>
      show handoff.readCardId = ((handoff.reads ++ []).getLast?.map CardEvent.cardId).getD 0#32
      rw [List.append_nil]
      exact inv.readCardId
    | some cardId => simp [lastRead]
  · cases stepped
  · cases stepped

theorem tick_decides (inv : handoff.Inv) (stepped : handoff.step .tick = some next) :
    next.Inv ∧ (next.HandedOff ↔ handoff.HandedOff ∧ handoff.Undisturbed .tick) := by
  dsimp only [step] at stepped
  split at stepped
  · cases stepped
    exact inv.decides ⟨inv.few, inv.readCardId, inv.events, inv.received, inv.suspended⟩
      (and_iff_left trivial).symm
  · cases stepped
  · cases stepped

theorem eventSend_suspended (waits : handoff.checkAt = .suspended) (empty : handoff.events = 0#32)
    (side : Side) :
    handoff.eventSend side.event =
      { handoff with events := 0#32, checkAt := .received side.event } := by
  unfold eventSend
  rw [waits, empty]
  cases side <;> rfl

theorem eventSend_running (runs : handoff.checkAt ≠ .suspended) (set : EventSet) :
    handoff.eventSend set = { handoff with events := handoff.events ||| set } := by
  unfold eventSend
  split
  · exact absurd ‹_› runs
  · rfl
  · rfl

theorem held_suspended (inv : handoff.Inv) (waits : handoff.checkAt = .suspended) :
    handoff.held = [] := by
  rw [held, waits, inv.suspended waits]
  rfl

/-- Into the set an event goes alone, or is merged. -/
theorem set_decides {side : Side} {cardId : BitVec 32} (inv : handoff.Inv)
    (runs : handoff.checkAt ≠ .suspended) (checkAt : next.checkAt = handoff.checkAt)
    (events : next.events = handoff.events ||| side.event)
    (sent : next.sent = handoff.sent ++ [⟨side.event, cardId⟩])
    (decided : next.decided = handoff.decided) (readCardId : next.readCardId = next.lastRead) :
    next.Inv ∧ (next.HandedOff ↔ handoff.HandedOff ∧ handoff.events = 0#32) := by
  obtain ⟨card, present⟩ := cardEvents_sent inv.events side
  have held' : next.held = handoff.checkAt.due ++ [handoff.events ||| side.event] := by
    rw [held, checkAt, events, if_neg present]
  have few := inv.few
  have received : ∀ event, next.checkAt = .received event → event ∈ cardEvents ∧ event ≠ 0#32 := by
    rw [checkAt]
    exact inv.received
  have suspended : next.checkAt = .suspended → next.events = 0#32 :=
    fun waits => absurd (checkAt.symm.trans waits) runs
  by_cases empty : handoff.events = 0#32
  · have alone : handoff.held = handoff.checkAt.due := by rw [held, if_pos empty, List.append_nil]
    rw [empty, BitVec.zero_or] at held'
    rw [alone] at few
    refine inv.decides ⟨?_, readCardId, events ▸ card, received, suspended⟩ ?_
    · rw [held', sent, decided, List.length_append, List.length_append]
      exact Nat.add_le_add_right few 1
    · rw [held', sent, decided, alone, and_iff_left empty]
      exact oneByOne_sent ⟨side.event, cardId⟩
  · have merged : handoff.held = handoff.checkAt.due ++ [handoff.events] := by
      rw [held, if_neg empty]
    rw [merged, List.length_append, List.length_singleton] at few
    have lost : next.decided.length + next.held.length < next.sent.length := by
      rw [held', sent, decided, List.length_append, List.length_append, List.length_singleton,
        List.length_singleton]
      omega
    refine inv.decides ⟨Nat.le_of_lt lost, readCardId, events ▸ card, received, suspended⟩ ?_
    exact iff_of_false (not_oneByOne_of_few lost) fun kept => empty kept.2

/-- To a thread that waits an event goes at once. -/
theorem send_decides (inv : handoff.Inv) (stepped : handoff.step .send = some next) :
    next.Inv ∧ (next.HandedOff ↔ handoff.HandedOff ∧ handoff.Undisturbed .send) := by
  have few := inv.few
  dsimp only [step] at stepped
  split at stepped
  · rename_i side _
    by_cases waits : handoff.checkAt = .suspended
    · have empty := inv.suspended waits
      have nothing := held_suspended inv waits
      obtain ⟨bit, set⟩ := cardEvents_sent (List.mem_cons_self : 0#32 ∈ cardEvents) side
      rw [BitVec.zero_or] at bit set
      rw [eventSend_suspended waits empty] at stepped
      cases stepped
      refine inv.decides ⟨?_, inv.readCardId, List.mem_cons_self, fun event received => ?_, nofun⟩
        ?_
      · rw [nothing] at few
        show handoff.decided.length + 1 ≤ (handoff.sent ++ _).length
        rw [List.length_append]
        exact Nat.add_le_add_right few 1
      · cases received
        exact ⟨bit, set⟩
      · have order :=
          @oneByOne_sent handoff.sent handoff.decided []
            ⟨side.event, (handoff.thread.reader side).oldCardId⟩
        rw [nothing, and_iff_left (show handoff.Undisturbed .send from empty)]
        exact order
    · rw [eventSend_running waits] at stepped
      cases stepped
      exact set_decides inv waits rfl rfl rfl rfl inv.readCardId
  · cases stepped
  · cases stepped

theorem receive_decides (inv : handoff.Inv) (stepped : handoff.step .receive = some next) :
    next.Inv ∧ (next.HandedOff ↔ handoff.HandedOff ∧ handoff.Undisturbed .receive) := by
  dsimp only [step] at stepped
  split at stepped
  · rename_i checks
    unfold eventRecv at stepped
    rw [cardEvents_received inv.events, cardEvents_cleared inv.events] at stepped
    by_cases empty : handoff.events = 0#32
    · have nothing : handoff.held = [] := by rw [held, checks, empty]; rfl
      rw [if_neg (not_not.mpr empty)] at stepped
      cases stepped
      have nothing' : held { handoff with checkAt := .suspended } = [] := by
        rw [held, if_pos empty]; rfl
      refine inv.decides ⟨?_, inv.readCardId, inv.events, fun _ => nofun, fun _ => empty⟩ ?_
      · rw [nothing', ← nothing]
        exact inv.few
      · rw [nothing', nothing]
        exact (and_iff_left trivial).symm
    · have one : handoff.held = [handoff.events] := by rw [held, checks, if_neg empty]; rfl
      rw [if_pos empty] at stepped
      cases stepped
      have one' : held { handoff with events := 0#32, checkAt := .received handoff.events } =
          [handoff.events] := rfl
      refine inv.decides ⟨?_, inv.readCardId, List.mem_cons_self, fun event received => ?_, nofun⟩
        ?_
      · rw [one', ← one]
        exact inv.few
      · cases received
        exact ⟨inv.events, empty⟩
      · rw [one', one]
        exact (and_iff_left trivial).symm
  · cases stepped
  · cases stepped

theorem take_decides (inv : handoff.Inv) (stepped : handoff.step .take = some next) :
    next.Inv ∧ (next.HandedOff ↔ handoff.HandedOff ∧ handoff.Undisturbed .take) := by
  dsimp only [step] at stepped
  split at stepped
  · rename_i event received
    obtain ⟨card, present⟩ := inv.received event received
    have few := inv.few
    have due : handoff.held = event :: if handoff.events = 0#32 then [] else [handoff.events] := by
      rw [held, received]
      rfl
    rw [if_pos (cardEvents_has card present)] at stepped
    cases stepped
    refine inv.decides ⟨?_, inv.readCardId, inv.events, fun _ => nofun, nofun⟩ ?_
    · rw [due, List.length_cons] at few
      rw [List.length_append, List.length_singleton]
      show handoff.decided.length + 1 +
        (if handoff.events = 0#32 then [] else [handoff.events]).length ≤ handoff.sent.length
      omega
    · rw [due, inv.readCardId]
      exact oneByOne_taken event handoff.lastRead
  · cases stepped
  · cases stepped

theorem step_decides {move : HandoffMove} (inv : handoff.Inv)
    (stepped : handoff.step move = some next) :
    next.Inv ∧ (next.HandedOff ↔ handoff.HandedOff ∧ handoff.Undisturbed move) := by
  cases move with
  | read result => exact read_decides inv stepped
  | send => exact send_decides inv stepped
  | tick => exact tick_decides inv stepped
  | receive => exact receive_decides inv stepped
  | take => exact take_decides inv stepped

end Moves

/-! ## The number of an event -/

theorem poll_sends {reader : Reader} {result : Option (BitVec 32)} (sends : reader.Sends result) :
    result = some (reader.poll result).2.oldCardId := by
  cases result with
  | none => cases sends
  | some cardId =>
    by_cases changed : reader.oldCardId = cardId
    · by_cases recent : reader.isOverTime <;> simp [Reader.poll, changed, recent]
    · simp [Reader.poll, changed]

/-- What is sent was read at the same reader, the event that comes next just before. -/
structure ReadFirst (handoff : Handoff) : Prop where
  sent : handoff.sent.Sublist handoff.reads
  sending : ∀ side, handoff.readerAt = .send side → ∃ before,
    handoff.reads = before ++ [⟨side.event, (handoff.thread.reader side).oldCardId⟩] ∧
      handoff.sent.Sublist before

theorem next_ne_send (side other : Side) : side.next ≠ .send other := by cases side <;> nofun

theorem reader_withReader (thread : Rc522) (side : Side) (reader : Reader) :
    (thread.withReader side reader).reader side = reader := by cases side <;> rfl

theorem eventSend_reads (handoff : Handoff) (set : EventSet) :
    (handoff.eventSend set).reads = handoff.reads := by
  unfold eventSend
  split
  · dsimp only
    split <;> rfl
  · rfl
  · rfl

theorem step_readFirst {handoff next : Handoff} {move : HandoffMove} (kept : handoff.ReadFirst)
    (stepped : handoff.step move = some next) : next.ReadFirst := by
  cases move with
  | read result =>
    dsimp only [step] at stepped
    split at stepped
    · rename_i side _
      cases stepped
      refine ⟨kept.sent.trans (List.sublist_append_left ..), fun other sends => ?_⟩
      by_cases sent : ((handoff.thread.reader side).poll result).1 = true
      · obtain rfl : side = other := ReaderAt.send.inj ((if_pos sent).symm.trans sends)
        refine ⟨handoff.reads, ?_, kept.sent⟩
        rw [reader_withReader]
        exact congrArg (fun read : Option (BitVec 32) => handoff.reads ++
          read.toList.map (⟨side.event, ·⟩)) (poll_sends sent)
      · exact absurd ((if_neg sent).symm.trans sends) (next_ne_send side other)
    · cases stepped
    · cases stepped
  | send =>
    dsimp only [step] at stepped
    split at stepped
    · rename_i side sends
      cases stepped
      obtain ⟨before, reads, sent⟩ := kept.sending side sends
      refine ⟨?_, fun other sends => absurd sends (next_ne_send side other)⟩
      rw [eventSend_reads, reads]
      exact sent.append (List.Sublist.refl _)
    · cases stepped
    · cases stepped
  | tick =>
    dsimp only [step] at stepped
    split at stepped
    · cases stepped
      exact ⟨kept.sent, nofun⟩
    · cases stepped
    · cases stepped
  | receive =>
    dsimp only [step] at stepped
    split at stepped
    · rw [← Option.some.inj stepped, eventRecv]
      split <;> exact ⟨kept.sent, kept.sending⟩
    · cases stepped
    · cases stepped
  | take =>
    dsimp only [step] at stepped
    split at stepped
    · split at stepped <;> cases stepped <;> exact ⟨kept.sent, kept.sending⟩
    · cases stepped
    · cases stepped

/-- Every event was sent for a number that its reader has read. -/
theorem sent_reads {oldInCardId oldOutCardId : BitVec 32} {moves : List HandoffMove}
    {final : Handoff} (ran : runMoves step (initial oldInCardId oldOutCardId) moves = some final) :
    final.sent.Sublist final.reads :=
  have start : (initial oldInCardId oldOutCardId).ReadFirst := ⟨List.Sublist.slnil, nofun⟩
  (runMoves_keeps step_readFirst start ran).sent

/-! ## Whole runs -/

theorem inv_initial (oldInCardId oldOutCardId : BitVec 32) :
    (initial oldInCardId oldOutCardId).Inv :=
  ⟨Nat.le_refl _, rfl, List.mem_cons_self, nofun, fun _ => rfl⟩

/-- Every swipe reaches `user_check` as it was sent, exactly in the runs in which no event
is sent on top of another and no number is read on top of one that is due. -/
theorem handedOff_iff (oldInCardId oldOutCardId : BitVec 32) (moves : List HandoffMove)
    (final : Handoff) (ran : runMoves step (initial oldInCardId oldOutCardId) moves = some final) :
    final.HandedOff ↔ MovesMeet step Undisturbed (initial oldInCardId oldOutCardId) moves := by
  have start : (initial oldInCardId oldOutCardId).HandedOff := ⟨⟨[], rfl, rfl⟩, nofun⟩
  rw [runMoves_iff step_decides (inv_initial oldInCardId oldOutCardId) ran, and_iff_right start]

/-- A card inside at a thread that waits, a card outside while it is busy, and a round without
a card. -/
theorem handedOff_two : ∃ final, runMoves step (initial 0#32 0#32)
      [.receive, .read (some 1#32), .send, .take, .read (some 2#32), .send, .receive, .take, .tick,
        .read none, .read none,
        .tick, .receive] = some final ∧
    final.decided = [⟨userCheckCardIn, 1#32⟩, ⟨userCheckCardOut, 2#32⟩] ∧ final.HandedOff := by
  let moves : List HandoffMove :=
    [.receive, .read (some 1#32), .send, .take, .read (some 2#32), .send, .receive, .take,
    .tick, .read none, .read none, .tick, .receive]
  have runs : ((runMoves step (initial 0#32 0#32) moves).any fun final =>
      final.decided = [⟨userCheckCardIn, 1#32⟩, ⟨userCheckCardOut, 2#32⟩]) = true := by decide
  obtain ⟨final, ran, decided⟩ := Option.any_eq_true _ _ |>.mp runs
  exact ⟨final, ran, of_decide_eq_true decided,
    (handedOff_iff 0#32 0#32 moves final ran).mpr (by decide)⟩

/-- The door is held open for card 1 while card 2 is read outside and card 3 inside. -/
theorem swipes_merged : ¬ ∀ oldInCardId oldOutCardId moves final,
    runMoves step (initial oldInCardId oldOutCardId) moves = some final → final.HandedOff := by
  intro always
  obtain ⟨⟨pending, whole, _⟩, _⟩ :=
    always 0#32 0#32 [.receive, .read (some 1#32), .send, .take, .read (some 2#32), .send,
    .tick, .read (some 3#32), .send, .receive, .take] _ rfl
  have second : some (⟨userCheckCardOut, 2#32⟩ : CardEvent) =
      some ⟨userCheckCardIn ||| userCheckCardOut, 3#32⟩ :=
    congrArg (·[1]?) whole
  exact absurd second (by decide)

end Handoff

end WifiAccess

import WifiAccess.Kernel.Event

/-! No wake-up is lost and no flag is handed out twice, whatever the order of the calls. -/

namespace WifiAccess

variable {ι : Type}

/-! ## What is told about a flag -/

/-- What a note says of flag `i`: that it was set, that it was taken, or nothing. -/
def EventNote.tells (i : Nat) : EventNote ι → Option Bool
  | sent set => if set.getLsbD i then some true else none
  | received reception => if reception.clears && reception.recved.getLsbD i
    then some false else none
  | reset => some false

/-- The last that is told about flag `i` is that it was sent. -/
def flagged (notes : List (EventNote ι)) (i : Nat) : Bool :=
  ((notes.filterMap (EventNote.tells i)).getLast?).getD false

/-- Whatever a thread was handed was sent and not taken before. -/
def Accounted (notes : List (EventNote ι)) : Prop :=
  ∀ before reception after, notes = before ++ .received reception :: after →
    reception.recved ≠ 0#32 ∧ ∀ i, reception.recved.getLsbD i = true → flagged before i = true

/-- The object holds the flags that are sent and not taken. -/
structure Balanced (notes : List (EventNote ι)) (held : EventSet) : Prop where
  held : ∀ i, held.getLsbD i = flagged notes i
  accounted : Accounted notes

@[simp] theorem flagged_snoc (notes : List (EventNote ι)) (note : EventNote ι) (i : Nat) :
    flagged (notes ++ [note]) i = (note.tells i).getD (flagged notes i) := by
  unfold flagged
  rw [List.filterMap_append]
  cases told : note.tells i with
  | none => simp [told]
  | some value => simp [told]

theorem Accounted.snoc {notes : List (EventNote ι)} {note : EventNote ι}
    (accounted : Accounted notes)
    (fine : ∀ reception, note = .received reception → reception.recved ≠ 0#32 ∧
      ∀ i, reception.recved.getLsbD i = true → flagged notes i = true) :
    Accounted (notes ++ [note]) := by
  intro before reception after whole
  rcases List.eq_nil_or_concat after with rfl | ⟨earlier, last, rfl⟩
  · obtain ⟨rfl, same⟩ := List.append_inj' whole rfl
    exact fine reception (List.head_eq_of_cons_eq same)
  · rw [List.concat_eq_append, ← List.cons_append, ← List.append_assoc] at whole
    exact accounted before reception earlier (List.append_inj' whole rfl).1

namespace Balanced

variable {notes : List (EventNote ι)} {held : EventSet}

theorem nil : Balanced ([] : List (EventNote ι)) 0#32 := by
  refine ⟨fun i => by simp [flagged], fun before reception after whole => ?_⟩
  cases before <;> cases whole

theorem sent (balanced : Balanced notes held) (set : EventSet) :
    Balanced (notes ++ [.sent set]) (held ||| set) := by
  refine ⟨fun i => ?_, balanced.accounted.snoc fun reception same => by cases same⟩
  rw [flagged_snoc, BitVec.getLsbD_or, balanced.held, EventNote.tells]
  cases set.getLsbD i <;> simp

theorem reset (balanced : Balanced notes held) : Balanced (notes ++ [.reset]) 0#32 := by
  refine ⟨fun i => ?_, balanced.accounted.snoc fun reception same => by cases same⟩
  rw [flagged_snoc, EventNote.tells, Option.getD_some, BitVec.getLsbD_zero]

/-- A reception of flags that are there. -/
theorem received (balanced : Balanced notes held) {reception : FlagReception ι}
    (present : reception.recved ≠ 0#32)
    (inside : ∀ i, reception.recved.getLsbD i = true → held.getLsbD i = true) :
    Balanced (notes ++ [.received reception]) (reception.leaves held) := by
  refine ⟨fun i => ?_, balanced.accounted.snoc fun other same => ?_⟩
  · rw [flagged_snoc, EventNote.tells, FlagReception.leaves]
    cases clears : reception.clears with
    | false => simp [balanced.held]
    | true =>
      rw [if_pos rfl, BitVec.getLsbD_and, BitVec.getLsbD_not, balanced.held, Bool.true_and]
      by_cases small : i < 32
      · cases reception.recved.getLsbD i <;> simp [small]
      · have past (flags : EventSet) : flags.getLsbD i = false :=
          BitVec.getLsbD_of_ge flags i (by omega)
        rw [← balanced.held, past held]
        simp [past]
  · obtain rfl := EventNote.received.inj same
    exact ⟨present, fun i bit => (balanced.held i).symm.trans (inside i bit)⟩

end Balanced

/-! ## One wait -/

section Match

variable {eventInfo : Byte} {set held fewer recved : EventSet}

/-- What a wait is handed is some of the flags it names, and they are all there. -/
theorem eventMatch_some (found : eventMatch eventInfo set held = some recved) (named : set ≠ 0#32) :
    recved ≠ 0#32 ∧ recved = set &&& held := by
  unfold eventMatch at found
  split at found
  · split at found
    · rename_i all
      obtain rfl := Option.some.inj found
      exact ⟨named, all.symm⟩
    · cases found
  · split at found
    · split at found
      · rename_i any
        obtain rfl := Option.some.inj found
        exact ⟨any, rfl⟩
      · cases found
    · cases found

/-- A wait that some flags do not satisfy is not satisfied by fewer. -/
theorem eventMatch_none (unmet : eventMatch eventInfo set held = none)
    (less : fewer &&& held = fewer) :
    eventMatch eventInfo set fewer = none := by
  have part : set &&& fewer = set &&& held &&& fewer := by
    rw [BitVec.and_assoc, BitVec.and_comm held, less]
  unfold eventMatch at unmet ⊢
  split at unmet
  · rename_i all
    rw [if_pos all]
    split at unmet
    · cases unmet
    · rename_i lacks
      refine if_neg fun met => lacks ?_
      calc set &&& held = set &&& fewer &&& held := by rw [met]
        _ = set &&& (fewer &&& held) := BitVec.and_assoc set fewer held
        _ = set := by rw [less, met]
  · rename_i notAll
    rw [if_neg notAll]
    split at unmet
    · rename_i any
      rw [if_pos any]
      split at unmet
      · cases unmet
      · rename_i empty
        refine if_neg fun met => empty fun zero => met ?_
        rw [part, zero, BitVec.zero_and]
    · rename_i notAny
      rw [if_neg notAny]

end Match

/-! ## The walk over the suspended threads -/

/-- Each of the threads waits for some flag, and those that are there do not satisfy it. -/
def Waiting (threads : List (EventWaiter ι)) (held : EventSet) : Prop :=
  ∀ waiter ∈ threads, waiter.eventSet ≠ 0#32 ∧ waiter.received held = none

theorem FlagReception.leaves_fewer (reception : FlagReception ι) (held : EventSet) :
    reception.leaves held &&& held = reception.leaves held := by
  unfold leaves
  split
  · rw [BitVec.and_assoc, BitVec.and_comm _ held, ← BitVec.and_assoc, BitVec.and_self]
  · exact BitVec.and_self

theorem resumeLoop_fewer (threads : List (EventWaiter ι)) (held : EventSet) :
    (resumeLoop held threads).1 &&& held = (resumeLoop held threads).1 := by
  induction threads generalizing held with
  | nil => exact BitVec.and_self
  | cons thread rest ih =>
    unfold resumeLoop
    cases met : thread.received held with
    | none => exact ih held
    | some recved =>
      have once := (thread.reception recved).leaves_fewer held
      have later := ih ((thread.reception recved).leaves held)
      calc (resumeLoop ((thread.reception recved).leaves held) rest).1 &&& held
          = (resumeLoop ((thread.reception recved).leaves held) rest).1 &&&
            ((thread.reception recved).leaves held &&& held) := by
            rw [← BitVec.and_assoc, later]
        _ = (resumeLoop ((thread.reception recved).leaves held) rest).1 := by rw [once, later]

/-- Nobody who stays suspended could go on with the flags that are left. -/
theorem resumeLoop_waiting {threads : List (EventWaiter ι)}
    (named : ∀ waiter ∈ threads, waiter.eventSet ≠ 0#32) (held : EventSet) :
    Waiting (resumeLoop held threads).2.1 (resumeLoop held threads).1 := by
  induction threads generalizing held with
  | nil => exact fun _ member => absurd member List.not_mem_nil
  | cons thread rest ih =>
    have others := fun waiter member => named waiter (List.mem_cons_of_mem thread member)
    unfold resumeLoop
    cases met : thread.received held with
    | some recved => exact ih others _
    | none =>
      intro waiter member
      rcases List.mem_cons.mp member with rfl | later
      · exact ⟨named waiter List.mem_cons_self, eventMatch_none met (resumeLoop_fewer rest held)⟩
      · exact ih others held waiter later

/-- What the walk hands out was there, and is taken out of what is left. -/
theorem resumeLoop_balanced {threads : List (EventWaiter ι)}
    (named : ∀ waiter ∈ threads, waiter.eventSet ≠ 0#32) {notes : List (EventNote ι)}
    {held : EventSet} (balanced : Balanced notes held) :
    Balanced (notes ++ (resumeLoop held threads).2.2.map .received)
      (resumeLoop held threads).1 := by
  induction threads generalizing notes held with
  | nil =>
    rw [resumeLoop, List.map_nil, List.append_nil]
    exact balanced
  | cons thread rest ih =>
    have others := fun waiter member => named waiter (List.mem_cons_of_mem thread member)
    unfold resumeLoop
    cases met : thread.received held with
    | none => exact ih others balanced
    | some recved =>
      obtain ⟨present, part⟩ := eventMatch_some met (named thread List.mem_cons_self)
      have handed : Balanced (notes ++ [.received (thread.reception recved)])
          ((thread.reception recved).leaves held) := by
        refine balanced.received present fun i bit => ?_
        have both : (thread.eventSet &&& held).getLsbD i = true := part ▸ bit
        rw [BitVec.getLsbD_and, Bool.and_eq_true] at both
        exact both.2
      have walked := ih others handed
      rw [List.append_assoc] at walked
      exact walked

/-! ## Runs -/

/-- What every call keeps. -/
structure EventInv (history : EventHistory ι) : Prop where
  waiting : Waiting history.event.suspendThread history.event.set
  balanced : Balanced history.notes history.event.set

/-- Clearing what is waited for takes no more than what is handed out. -/
theorem and_not_and (held set : EventSet) : held &&& ~~~set = held &&& ~~~(held &&& set) := by
  apply BitVec.eq_of_getLsbD_eq
  intro i small
  simp only [BitVec.getLsbD_and, BitVec.getLsbD_not, small, decide_true, Bool.true_and]
  cases held.getLsbD i <;> simp

section Runs

variable [DecidableEq ι] {history next : EventHistory ι}

theorem EventInv.send (inv : EventInv history) {set : EventSet}
    (stepped : history.step (.send set) = some next) :
    EventInv next := by
  obtain rfl := Option.some.inj stepped
  have noted := inv.balanced.sent set
  have named := fun waiter member => (inv.waiting waiter member).1
  unfold RtEvent.rtEventSend
  split
  · rename_i zero
    subst zero
    rw [BitVec.or_zero] at noted
    exact ⟨inv.waiting, noted⟩
  · have walked := resumeLoop_balanced named noted
    rw [List.append_assoc] at walked
    exact ⟨resumeLoop_waiting named _, walked⟩

theorem EventInv.recv (inv : EventInv history) {thread : ι} {priority : Nat} {set : EventSet}
    {option : Byte} {timeout : Int}
    (stepped : history.step (.recv thread priority set option timeout) = some next) :
    EventInv next := by
  dsimp only [EventHistory.step] at stepped
  split at stepped
  · cases stepped
  · obtain rfl := Option.some.inj stepped
    have same : EventInv ⟨history.event, history.notes ++
        ([] : List (FlagReception ι)).map .received⟩ := by
      rw [List.map_nil, List.append_nil]
      exact inv
    unfold RtEvent.rtEventRecv
    by_cases named : set = 0#32
    · simp only [named, if_true]
      exact same
    · simp only [named, if_false]
      cases met : eventMatch option set history.event.set with
      | some recved =>
        obtain ⟨present, part⟩ := eventMatch_some met named
        rw [part, BitVec.and_comm] at present
        have inside (i : Nat) (bit : (history.event.set &&& set).getLsbD i = true) :
            history.event.set.getLsbD i = true := by
          rw [BitVec.getLsbD_and, Bool.and_eq_true] at bit
          exact bit.1
        let reception : FlagReception ι := ⟨thread, history.event.set &&& set, clearsEvent option⟩
        have handed : Balanced (history.notes ++ [.received reception])
            (reception.leaves history.event.set) :=
          inv.balanced.received present inside
        have left : (if clearsEvent option then history.event.set &&& ~~~set
            else history.event.set) =
            reception.leaves history.event.set := by rw [FlagReception.leaves, ← and_not_and]
        change EventInv
          ⟨⟨history.event.flag, if clearsEvent option then _ else _, history.event.suspendThread⟩,
          history.notes ++ [.received reception]⟩
        rw [left]
        refine ⟨fun waiter member => ⟨(inv.waiting waiter member).1, ?_⟩, handed⟩
        exact eventMatch_none (inv.waiting waiter member).2 (reception.leaves_fewer _)
      | none =>
        by_cases once : timeout = 0
        · simp only [once, if_true]
          exact same
        · simp only [once, if_false]
          refine ⟨fun waiter member => ?_, same.balanced⟩
          rcases mem_rtIpcListSuspend.mp member with rfl | old
          · exact ⟨named, met⟩
          · exact inv.waiting waiter old

theorem EventInv.step (inv : EventInv history) {move : EventMove ι}
    (stepped : history.step move = some next) : EventInv next := by
  cases move with
  | send set => exact inv.send stepped
  | recv thread priority set option timeout => exact inv.recv stepped
  | timeout thread =>
    dsimp only [EventHistory.step] at stepped
    split at stepped
    · obtain rfl := Option.some.inj stepped
      exact ⟨fun waiter member => inv.waiting waiter (List.mem_of_mem_filter member), inv.balanced⟩
    · cases stepped
  | reset =>
    obtain rfl := Option.some.inj stepped
    exact ⟨fun _ member => absurd member List.not_mem_nil, inv.balanced.reset⟩

/-- In every run of sends, receptions, timeouts and resets, no thread stays suspended that the
flags in the object satisfy; the object holds exactly the flags that were sent and not
taken since; and whatever a thread is handed was. -/
theorem event_delivers {flag : RtIpcFlag} {moves : List (EventMove ι)} {final : EventHistory ι}
    (ran : runMoves EventHistory.step (.initial flag) moves = some final) :
    (∀ waiter ∈ final.event.suspendThread, waiter.received final.event.set = none) ∧
      (∀ i, final.event.set.getLsbD i = flagged final.notes i) ∧ Accounted final.notes := by
  have start : EventInv (.initial flag : EventHistory ι) :=
    ⟨fun _ member => absurd member List.not_mem_nil, .nil⟩
  have inv := runMoves_keeps (fun inv stepped => inv.step stepped) start ran
  exact ⟨fun waiter member => (inv.waiting waiter member).2, inv.balanced.held,
    inv.balanced.accounted⟩

/-- A thread waits, another flag is sent, then the one it waits for. -/
theorem event_delivers_one :
    let final : EventHistory Nat :=
  ⟨⟨RtIpcFlag.fifo, 2#32, []⟩, [.sent 2#32, .sent 1#32, .received ⟨0, 1#32, true⟩]⟩
    (∀ waiter ∈ final.event.suspendThread, waiter.received final.event.set = none) ∧
      (∀ i, final.event.set.getLsbD i = flagged final.notes i) ∧ Accounted final.notes := by
  intro final
  have ran : runMoves EventHistory.step (.initial RtIpcFlag.fifo)
      [.recv 0 5 1#32 (rtEventFlagOr ||| rtEventFlagClear) (-1), .send 2#32, .send 1#32] =
        some final := rfl
  exact event_delivers ran

end Runs

end WifiAccess

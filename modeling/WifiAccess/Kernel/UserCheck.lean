import WifiAccess.Door.Handoff
import WifiAccess.Kernel.Delivery

/-! The event object of the door: what `user_check_thread_entry` and the readers do to it are
calls of the kernel. -/

namespace WifiAccess

/-- `RT_EVENT_FLAG_CLEAR | RT_EVENT_FLAG_OR`. -/
def userCheckOption : Byte := rtEventFlagClear ||| rtEventFlagOr

/-- `RT_WAITING_FOREVER`. -/
def rtWaitingForever : Int := -1

/-- `user_check_thread` in the list of the object, while it is suspended. -/
def CheckAt.waiters (priority : Nat) : CheckAt → List (EventWaiter Unit)
  | suspended => [⟨(), priority, userCheckEvents, userCheckOption, false⟩]
  | checking | received _ => []

/-- What the thread has been handed so far. -/
def handedSets (notes : List (EventNote Unit)) : List EventSet :=
  notes.filterMap fun note =>
    match note with
    | .received reception => some reception.recved
    | .sent _ | .reset => none

/-- What was sent so far. -/
def sentSets (notes : List (EventNote Unit)) : List EventSet :=
  notes.filterMap fun note =>
    match note with
    | .sent set => some set
    | .received _ | .reset => none

@[simp] theorem handedSets_append (first second : List (EventNote Unit)) :
    handedSets (first ++ second) = handedSets first ++ handedSets second := List.filterMap_append

@[simp] theorem sentSets_append (first second : List (EventNote Unit)) :
    sentSets (first ++ second) = sentSets first ++ sentSets second := List.filterMap_append

namespace Handoff

/-- The call of the kernel that a move is, if it is one. -/
def kernelCalls (priority : Nat) (handoff : Handoff) : HandoffMove → List (EventMove Unit)
  | .send =>
    match handoff.readerAt with
    | .send side => [.send side.event]
    | .read _ | .timers => []
  | .receive => [.recv () priority userCheckEvents userCheckOption rtWaitingForever]
  | .read _ | .tick | .take => []

/-- The object holds the flags, was sent what the readers have sent, and has handed out what
the thread has decided and what is due. The thread is suspended on it when it waits. -/
structure Backed (priority : Nat) (handoff : Handoff) (kernel : EventHistory Unit) : Prop where
  flag : kernel.event.flag = RtIpcFlag.fifo
  set : kernel.event.set = handoff.events
  suspended : kernel.event.suspendThread = handoff.checkAt.waiters priority
  sent : sentSets kernel.notes = handoff.sent.map CardEvent.event
  handed : handedSets kernel.notes = handoff.decided.map CardEvent.event ++ handoff.checkAt.due

theorem eventMatch_userCheck (held : EventSet) :
    eventMatch userCheckOption userCheckEvents held =
      if userCheckEvents &&& held ≠ 0#32 then some (userCheckEvents &&& held) else none := rfl

theorem clears_userCheck : clearsEvent userCheckOption = true := by decide

theorem leaves_userCheck (priority : Nat) (recved held : EventSet) :
    ((⟨(), priority, userCheckEvents, userCheckOption, false⟩ : EventWaiter Unit).reception
      recved).leaves held =
      held &&& ~~~recved := by
  rw [EventWaiter.reception, FlagReception.leaves, clears_userCheck, if_pos rfl]

section Moves

variable {priority : Nat} {handoff next : Handoff} {kernel : EventHistory Unit}

theorem kernelCalls_send {side : Side} (at_ : handoff.readerAt = .send side) :
    kernelCalls priority handoff .send = [.send side.event] := by
  simp only [kernelCalls, at_]

/-- `rt_event_send` by a reader. -/
theorem backed_send (backed : Backed priority handoff kernel) {read : CardEvent}
    (named : read.event ≠ 0#32) (readerAt : ReaderAt) :
    ∃ after, kernel.step (.send read.event) = some after ∧
      Backed priority { handoff.eventSend read.event with readerAt := readerAt, sent :=
        handoff.sent ++ [read] } after := by
  refine ⟨_, rfl, ?_⟩
  have handed := backed.handed
  have noted : handedSets (kernel.notes ++ [.sent read.event]) = handedSets kernel.notes := by
    rw [handedSets_append]
    exact List.append_nil _
  have sent : sentSets (kernel.notes ++ [.sent read.event]) =
      (handoff.sent ++ [read]).map CardEvent.event := by
    rw [sentSets_append, backed.sent, List.map_append]
    rfl
  unfold RtEvent.rtEventSend
  rw [if_neg named, backed.set, backed.suspended]
  by_cases waits : handoff.checkAt = .suspended
  · have met : (⟨(), priority, userCheckEvents, userCheckOption, false⟩ : EventWaiter Unit).received
        (handoff.events ||| read.event) = _ := eventMatch_userCheck (handoff.events ||| read.event)
    unfold eventSend
    rw [waits] at handed ⊢
    simp only [CheckAt.waiters, resumeLoop, met]
    by_cases any : userCheckEvents &&& (handoff.events ||| read.event) = 0#32
    · simp only [any, ne_eq, not_true, if_false, List.map_nil]
      exact ⟨backed.flag, rfl, rfl, sent, noted.trans handed⟩
    · simp only [any, ne_eq, not_false_eq_true, if_true, List.map_cons, List.map_nil]
      refine ⟨backed.flag, leaves_userCheck priority _ _, rfl, ?_, ?_⟩
      · rw [List.append_cons, sentSets_append, sent]
        exact List.append_nil _
      · rw [List.append_cons, handedSets_append, noted, handed]
        exact congrArg (· ++ [_]) (List.append_nil _)
  · have nobody : handoff.checkAt.waiters priority = [] := by
      cases at_ : handoff.checkAt with
      | suspended => exact absurd at_ waits
      | checking => rfl
      | received event => rfl
    rw [nobody, eventSend_running waits]
    exact ⟨backed.flag, rfl, nobody.symm, sent, noted.trans handed⟩

/-- `rt_event_recv` by `user_check_thread`. -/
theorem backed_receive (backed : Backed priority handoff kernel)
    (checks : handoff.checkAt = .checking) :
    ∃ after, kernel.step (.recv () priority userCheckEvents userCheckOption rtWaitingForever) =
      some after ∧
      Backed priority handoff.eventRecv after := by
  have handed := backed.handed
  have alone := backed.suspended
  rw [checks] at handed alone
  have free : ¬ (kernel.isSuspended () = true ∨ userCheckOption &&&
      (rtEventFlagAnd ||| rtEventFlagOr) = 0#8) := by
    rintro (held | meaningless)
    · rw [EventHistory.isSuspended, alone] at held
      cases held
    · exact absurd meaningless (by decide)
  have named : userCheckEvents ≠ 0#32 := by decide
  have forever : rtWaitingForever ≠ 0 := by decide
  refine ⟨_, if_neg free, ?_⟩
  unfold RtEvent.rtEventRecv eventRecv
  simp only [named, if_false, eventMatch_userCheck, backed.set, clears_userCheck, if_true]
  rw [BitVec.and_comm userCheckEvents]
  by_cases any : handoff.events &&& userCheckEvents = 0#32
  · simp only [any, ne_eq, not_true, if_false, forever, List.map_nil, List.append_nil]
    refine ⟨backed.flag, rfl, ?_, backed.sent, handed⟩
    rw [alone, backed.flag]
    rfl
  · simp only [any, ne_eq, not_false_eq_true, if_true, List.map_cons, List.map_nil]
    refine ⟨backed.flag, rfl, alone, ?_, ?_⟩
    · rw [sentSets_append, backed.sent]
      exact List.append_nil _
    · rw [handedSets_append, handed]
      exact congrArg (· ++ [_]) (List.append_nil _)

/-- A move is the calls of the kernel that go with it. -/
theorem backed_step {move : HandoffMove} (inv : handoff.Inv)
    (backed : Backed priority handoff kernel) (stepped : handoff.step move = some next) :
    ∃ after, runMoves EventHistory.step kernel (kernelCalls priority handoff move) = some after ∧
      Backed priority next after := by
  cases move with
  | read result =>
    dsimp only [step] at stepped
    split at stepped
    · cases stepped
      exact ⟨kernel, rfl, backed.flag, backed.set, backed.suspended, backed.sent, backed.handed⟩
    · cases stepped
    · cases stepped
  | tick =>
    dsimp only [step] at stepped
    split at stepped
    · cases stepped
      exact ⟨kernel, rfl, backed.flag, backed.set, backed.suspended, backed.sent, backed.handed⟩
    · cases stepped
    · cases stepped
  | send =>
    dsimp only [step] at stepped
    split at stepped
    · rename_i side at_
      cases stepped
      let read : CardEvent := ⟨side.event, (handoff.thread.reader side).oldCardId⟩
      have bit : side.event ≠ 0#32 := by cases side <;> decide
      have named : read.event ≠ 0#32 := bit
      obtain ⟨after, called, kept⟩ := backed_send backed named side.next
      rw [kernelCalls_send at_]
      exact ⟨after, runMoves_single called, kept⟩
    · cases stepped
    · cases stepped
  | receive =>
    dsimp only [step] at stepped
    split at stepped
    · rename_i checks
      cases stepped
      obtain ⟨after, called, kept⟩ := backed_receive backed checks
      exact ⟨after, runMoves_single called, kept⟩
    · cases stepped
    · cases stepped
  | take =>
    dsimp only [step] at stepped
    split at stepped
    · rename_i event received
      obtain ⟨card, present⟩ := inv.received event received
      rw [if_pos (cardEvents_has card present)] at stepped
      cases stepped
      have handed := backed.handed
      have alone := backed.suspended
      rw [received] at handed alone
      refine ⟨kernel, rfl, backed.flag, backed.set, alone, backed.sent, ?_⟩
      rw [handed, List.map_append, List.append_assoc]
      rfl
    · cases stepped
    · cases stepped

theorem backed_run {moves : List HandoffMove} {final : Handoff} (inv : handoff.Inv)
    (backed : Backed priority handoff kernel) (ran : runMoves step handoff moves = some final) :
    ∃ calls after, runMoves EventHistory.step kernel calls = some after ∧
      Backed priority final after := by
  induction moves generalizing handoff kernel with
  | nil =>
    cases ran
    exact ⟨[], kernel, rfl, backed⟩
  | cons move rest ih =>
    obtain ⟨next, stepped, remaining⟩ := runMoves_cons ran
    obtain ⟨middle, first, kept⟩ := backed_step inv backed stepped
    obtain ⟨calls, after, second, last⟩ := ih (step_decides inv stepped).1 kept remaining
    exact ⟨kernelCalls priority handoff move ++ calls, after,
      (runMoves_append first).trans second, last⟩

end Moves

/-- Every run of the readers and of `user_check_thread` is a run of the kernel's event object:
its flags are those of the object, the thread is suspended on it when it waits, and what the
object was sent and has handed out is what the readers have sent and the thread has decided
or is about to, in this order. -/
theorem handoff_onKernel (priority : Nat) (oldInCardId oldOutCardId : BitVec 32)
    (moves : List HandoffMove) {final : Handoff}
    (ran : runMoves step (initial oldInCardId oldOutCardId) moves = some final) :
    ∃ calls kernel, runMoves EventHistory.step (.initial RtIpcFlag.fifo) calls = some kernel ∧
      Backed priority final kernel :=
  backed_run (inv_initial oldInCardId oldOutCardId) ⟨rfl, rfl, rfl, rfl, rfl⟩ ran

/-- A card at a thread that waits. -/
theorem handoff_onKernel_one : ∃ final,
    runMoves step (initial 0#32 0#32) [.receive, .read (some 1#32), .send, .take] = some final ∧
      ∃ calls kernel, runMoves EventHistory.step (.initial RtIpcFlag.fifo) calls = some kernel ∧
        Backed 5 final kernel :=
  ⟨_, rfl, handoff_onKernel 5 0#32 0#32 [.receive, .read (some 1#32), .send, .take] rfl⟩

end Handoff

end WifiAccess

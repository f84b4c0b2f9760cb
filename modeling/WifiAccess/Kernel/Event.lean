import WifiAccess.Base.Run
import WifiAccess.Door.Check

/-! `ipc.c`: the event objects of the kernel. Each function changes the object with the
interrupts disabled, so threads and interrupt handlers take turns. -/

namespace WifiAccess

def rtEventFlagAnd : Byte := 0x01#8
def rtEventFlagOr : Byte := 0x02#8
def rtEventFlagClear : Byte := 0x04#8

/-- `RT_IPC_FLAG_FIFO` and `RT_IPC_FLAG_PRIO`, the order in which threads are suspended. -/
inductive RtIpcFlag where
  | fifo
  | prio

variable {ι : Type}

/-- A suspended thread, with what it waits for and whether its timer runs. -/
structure EventWaiter (ι : Type) where
  thread : ι
  currentPriority : Nat
  eventSet : EventSet
  eventInfo : Byte
  timed : Bool

/-- What a thread is handed, and whether it takes the flags out of the object. -/
structure FlagReception (ι : Type) where
  thread : ι
  recved : EventSet
  clears : Bool

structure RtEvent (ι : Type) where
  flag : RtIpcFlag
  set : EventSet
  suspendThread : List (EventWaiter ι)

/-- The flags that satisfy a wait for `set`: all of it, or any of it. -/
def eventMatch (eventInfo : Byte) (set held : EventSet) : Option EventSet :=
  if eventInfo &&& rtEventFlagAnd ≠ 0#8 then
    if set &&& held = set then some set else none
  else if eventInfo &&& rtEventFlagOr ≠ 0#8 then
    if set &&& held ≠ 0#32 then some (set &&& held) else none
  else none

def clearsEvent (eventInfo : Byte) : Bool := decide (eventInfo &&& rtEventFlagClear ≠ 0#8)

namespace EventWaiter

def received (waiter : EventWaiter ι) (held : EventSet) : Option EventSet :=
  eventMatch waiter.eventInfo waiter.eventSet held

def reception (waiter : EventWaiter ι) (recved : EventSet) : FlagReception ι :=
  ⟨waiter.thread, recved, clearsEvent waiter.eventInfo⟩

end EventWaiter

/-- The flags that are left behind a reception. -/
def FlagReception.leaves (reception : FlagReception ι) (held : EventSet) : EventSet :=
  if reception.clears then held &&& ~~~reception.recved else held

/-- The walk over the suspended threads: the flags that are left, the threads that stay
suspended, and what the others are handed. -/
def resumeLoop :
    EventSet → List (EventWaiter ι) → EventSet × List (EventWaiter ι) × List (FlagReception ι)
  | held, [] => (held, [], [])
  | held, thread :: rest =>
    match thread.received held with
    | some recved =>
      let later := resumeLoop ((thread.reception recved).leaves held) rest
      (later.1, later.2.1, thread.reception recved :: later.2.2)
    | none =>
      let later := resumeLoop held rest
      (later.1, thread :: later.2.1, later.2.2)

/-- `rt_ipc_list_suspend`: at the end, or before the first thread of a lower priority. -/
def rtIpcListSuspend {α : Type} (flag : RtIpcFlag) (priority : α → Nat) (list : List α)
    (thread : α) : List α :=
  match flag with
  | .fifo => list ++ [thread]
  | .prio =>
    list.takeWhile (fun other => decide (priority other ≤ priority thread)) ++
      thread :: list.dropWhile (fun other => decide (priority other ≤ priority thread))

theorem mem_rtIpcListSuspend {α : Type} {flag : RtIpcFlag} {priority : α → Nat} {list : List α}
    {thread waiter : α} :
    waiter ∈ rtIpcListSuspend flag priority list thread ↔ waiter = thread ∨ waiter ∈ list := by
  unfold rtIpcListSuspend
  cases flag with
  | fifo => rw [List.mem_append, List.mem_singleton, or_comm]
  | prio =>
    have whole : waiter ∈ list ↔ waiter ∈ list.takeWhile
        (fun other => decide (priority other ≤ priority thread)) ∨
        waiter ∈ list.dropWhile (fun other => decide (priority other ≤ priority thread)) := by
      rw [← List.mem_append, List.takeWhile_append_dropWhile]
    rw [List.mem_append, List.mem_cons, whole]
    exact or_left_comm

namespace RtEvent

/-- `rt_event_init`. -/
def init (flag : RtIpcFlag) : RtEvent ι := ⟨flag, 0#32, []⟩

/-- `rt_event_send`, with what the threads that it resumes are handed. -/
def rtEventSend (event : RtEvent ι) (set : EventSet) : RtEvent ι × List (FlagReception ι) :=
  if set = 0#32 then (event, [])
  else
    let walked := resumeLoop (event.set ||| set) event.suspendThread
    (⟨event.flag, walked.1, walked.2.1⟩, walked.2.2)

/-- `rt_event_recv` up to the point where the thread has its flags, has failed, or is
suspended. -/
def rtEventRecv (event : RtEvent ι) (thread : ι) (priority : Nat) (set : EventSet) (option : Byte)
    (timeout : Int) :
    RtEvent ι × List (FlagReception ι) :=
  if set = 0#32 then (event, [])
  else
    match eventMatch option set event.set with
    | some _ =>
      ({ event with set := if clearsEvent option then event.set &&& ~~~set else event.set },
        [⟨thread, event.set &&& set, clearsEvent option⟩])
    | none =>
      if timeout = 0 then (event, [])
      else
        ({ event with suspendThread :=
            rtIpcListSuspend event.flag EventWaiter.currentPriority event.suspendThread ⟨thread,
              priority, set, option, decide (timeout > 0)⟩ }, [])

/-- `rt_event_control` with `RT_IPC_CMD_RESET`. -/
def reset (event : RtEvent ι) : RtEvent ι := ⟨event.flag, 0#32, []⟩

end RtEvent

/-! ## Runs -/

inductive EventMove (ι : Type) where
  | send (set : EventSet)
  | recv (thread : ι) (priority : Nat) (set : EventSet) (option : Byte) (timeout : Int)
  | timeout (thread : ι)
  | reset

/-- What has happened to the flags of an object. -/
inductive EventNote (ι : Type) where
  | sent (set : EventSet)
  | received (reception : FlagReception ι)
  | reset

/-- An event object, with all that has happened to its flags. -/
structure EventHistory (ι : Type) where
  event : RtEvent ι
  notes : List (EventNote ι)

namespace EventHistory

variable [DecidableEq ι]

def initial (flag : RtIpcFlag) : EventHistory ι := ⟨.init flag, []⟩

def isSuspended (history : EventHistory ι) (thread : ι) : Bool :=
  history.event.suspendThread.any fun waiter => decide (waiter.thread = thread)

/-- A thread that is suspended makes no calls, and the option of a call names one of the two
ways to wait. Only the timer of a thread that waits for a limited time runs. -/
def step (history : EventHistory ι) : EventMove ι → Option (EventHistory ι)
  | .send set =>
    let sent := history.event.rtEventSend set
    some ⟨sent.1, history.notes ++ .sent set :: sent.2.map .received⟩
  | .recv thread priority set option timeout =>
    if history.isSuspended thread ∨ option &&& (rtEventFlagAnd ||| rtEventFlagOr) = 0#8 then none
    else
      let called := history.event.rtEventRecv thread priority set option timeout
      some ⟨called.1, history.notes ++ called.2.map .received⟩
  | .timeout thread =>
    if history.event.suspendThread.any fun waiter => decide (waiter.thread = thread) &&
      waiter.timed then
      some ⟨{ history.event with suspendThread := history.event.suspendThread.filter fun waiter =>
        waiter.thread ≠ thread },
        history.notes⟩
    else none
  | .reset => some ⟨history.event.reset, history.notes ++ [.reset]⟩

end EventHistory

end WifiAccess

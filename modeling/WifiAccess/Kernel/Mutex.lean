import Mathlib.Logic.Function.Basic
import WifiAccess.Kernel.Event

/-! `ipc.c`: the mutexes of the kernel. A thread that waits lends its priority to the owner. -/

namespace WifiAccess

variable {ι : Type}

/-- A suspended thread, and whether its timer runs. -/
structure MutexWaiter (ι : Type) where
  thread : ι
  timed : Bool

structure RtMutex (ι : Type) where
  flag : RtIpcFlag
  value : BitVec 16
  originalPriority : Nat
  hold : Byte
  owner : Option ι
  suspendThread : List (MutexWaiter ι)

/-- What a call of `rt_mutex_take` comes to. -/
inductive MutexTaken where
  | taken
  | timedOut
  | suspended

/-- `rt_thread_control` of the owner, when a more urgent thread waits. -/
def lendPriority [DecidableEq ι] (priority : ι → Nat) (owner thread : ι) : ι → Nat :=
  if priority thread < priority owner then
    Function.update priority owner (priority thread)
  else priority

/-- `rt_thread_control` of the owner, when it has given the mutex back. -/
def restorePriority [DecidableEq ι] (priority : ι → Nat) (owner : ι) (original : Nat) : ι → Nat :=
  if original ≠ priority owner then Function.update priority owner original else priority

namespace RtMutex

/-- `rt_mutex_init`. -/
def init (flag : RtIpcFlag) : RtMutex ι := ⟨flag, 1#16, 0xFF, 0#8, none, []⟩

variable [DecidableEq ι] (mutex : RtMutex ι) (priority : ι → Nat)

/-- `rt_mutex_take` up to the point where the thread has the mutex, has failed, or is
suspended. It reads the priority of the owner, and has no result where there is none. -/
def rtMutexTake (thread : ι) (time : Int) : Option (RtMutex ι × (ι → Nat) × MutexTaken) :=
  if mutex.owner = some thread then some ({ mutex with hold := mutex.hold + 1#8 }, priority, .taken)
  else if mutex.value > 0#16 then
    some (⟨mutex.flag, mutex.value - 1#16, priority thread, mutex.hold + 1#8, some thread,
      mutex.suspendThread⟩, priority, .taken)
  else if time = 0 then some (mutex, priority, .timedOut)
  else
    match mutex.owner with
    | none => none
    | some owner =>
      let lent := lendPriority priority owner thread
      let list := rtIpcListSuspend mutex.flag (fun waiter => lent waiter.thread) mutex.suspendThread
        ⟨thread, decide (time > 0)⟩
      some ({ mutex with suspendThread := list }, lent, .suspended)

/-- `rt_mutex_release` by its owner, with the thread that it hands the mutex to. -/
def rtMutexRelease (owner : ι) : RtMutex ι × (ι → Nat) × Option ι :=
  let hold := mutex.hold - 1#8
  if hold = 0#8 then
    let restored := restorePriority priority owner mutex.originalPriority
    match mutex.suspendThread with
    | next :: rest =>
      (⟨mutex.flag, mutex.value, restored next.thread, hold + 1#8, some next.thread, rest⟩,
        restored, some next.thread)
    | [] => (⟨mutex.flag, mutex.value + 1#16, 0xFF, hold, none, []⟩, restored, none)
  else ({ mutex with hold := hold }, priority, none)

end RtMutex

/-! ## Runs -/

inductive MutexMove (ι : Type) where
  | take (thread : ι) (time : Int)
  | release (thread : ι)
  | timeout (thread : ι)
  | control (thread : ι) (priority : Nat)

/-- A call that has returned `RT_EOK`. -/
inductive MutexNote (ι : Type) where
  | took (thread : ι)
  | released (thread : ι) deriving DecidableEq

/-- A mutex, the current priorities of the threads, and all that has happened to it. -/
structure MutexHistory (ι : Type) where
  mutex : RtMutex ι
  priority : ι → Nat
  notes : List (MutexNote ι)

namespace MutexHistory

variable [DecidableEq ι]

def initial (flag : RtIpcFlag) (priority : ι → Nat) : MutexHistory ι := ⟨.init flag, priority, []⟩

def isSuspended (history : MutexHistory ι) (thread : ι) : Bool :=
  history.mutex.suspendThread.any fun waiter => decide (waiter.thread = thread)

/-- A thread that is suspended makes no calls. A release by another thread than the owner
fails, and a thread that is handed the mutex returns from its call. -/
def step (history : MutexHistory ι) : MutexMove ι → Option (MutexHistory ι)
  | .take thread time =>
    if history.isSuspended thread then none
    else
      (history.mutex.rtMutexTake history.priority thread time).map fun called =>
        match called.2.2 with
        | .taken => ⟨called.1, called.2.1, history.notes ++ [.took thread]⟩
        | .timedOut | .suspended => ⟨called.1, called.2.1, history.notes⟩
  | .release thread =>
    if history.isSuspended thread then none
    else if history.mutex.owner = some thread then
      let called := history.mutex.rtMutexRelease history.priority thread
      some ⟨called.1, called.2.1, history.notes ++ .released thread :: called.2.2.toList.map .took⟩
    else some history
  | .timeout thread =>
    if history.mutex.suspendThread.any fun waiter => decide (waiter.thread = thread) &&
      waiter.timed then
      let list := history.mutex.suspendThread.filter fun waiter => waiter.thread ≠ thread
      some { history with mutex := { history.mutex with suspendThread := list } }
    else none
  | .control thread priority =>
    some { history with priority := Function.update history.priority thread priority }

/-- How often the thread has taken the mutex without releasing it. -/
def depth (notes : List (MutexNote ι)) (thread : ι) : Nat :=
  notes.count (.took thread) - notes.count (.released thread)

end MutexHistory

end WifiAccess

import Mathlib.Data.List.Nodup
import Mathlib.Data.List.Perm.Basic
import WifiAccess.Kernel.Mutex

/-! Who has a mutex, and at what priority, whatever the order of the calls. -/

namespace WifiAccess

variable {ι : Type} [DecidableEq ι]

theorem rtIpcListSuspend_perm {α : Type} (flag : RtIpcFlag) (priority : α → Nat) (list : List α)
    (thread : α) :
    (rtIpcListSuspend flag priority list thread).Perm (thread :: list) := by
  cases flag with
  | fifo => exact List.perm_append_singleton thread list
  | prio =>
    refine List.perm_middle.trans (List.Perm.cons thread ?_)
    rw [List.takeWhile_append_dropWhile]

namespace MutexHistory

variable {history next : MutexHistory ι} {thread : ι}

/-! ## One call -/

/-- What `rt_mutex_take` does: the owner nests, a free mutex is taken, nothing happens, or the
thread waits. -/
theorem take_cases {time : Int} (stepped : history.step (.take thread time) = some next) :
    history.isSuspended thread = false ∧
      ((history.mutex.owner = some thread ∧
          next = ⟨{ history.mutex with hold := history.mutex.hold + 1#8 }, history.priority,
            history.notes ++ [.took thread]⟩) ∨
        (0#16 < history.mutex.value ∧
          next = ⟨⟨history.mutex.flag, history.mutex.value - 1#16, history.priority thread,
            history.mutex.hold + 1#8, some thread,
            history.mutex.suspendThread⟩, history.priority, history.notes ++ [.took thread]⟩) ∨
        next = history ∨
        ∃ owner, history.mutex.owner = some owner ∧ owner ≠ thread ∧
          let lent := lendPriority history.priority owner thread
          let list :=
            rtIpcListSuspend history.mutex.flag (fun waiter => lent waiter.thread)
              history.mutex.suspendThread
            ⟨thread, decide (time > 0)⟩
          next = ⟨{ history.mutex with suspendThread := list }, lent, history.notes⟩) := by
  obtain ⟨mutex, priority, notes⟩ := history
  dsimp only [step] at stepped
  by_cases waits : isSuspended ⟨mutex, priority, notes⟩ thread = true
  · simp only [waits, if_true] at stepped
    cases stepped
  rw [if_neg waits] at stepped
  refine ⟨Bool.eq_false_iff.mpr waits, ?_⟩
  obtain ⟨called, ran, same⟩ := Option.map_eq_some_iff.mp stepped
  dsimp only at ran ⊢
  unfold RtMutex.rtMutexTake at ran
  by_cases own : mutex.owner = some thread
  · rw [if_pos own] at ran
    cases ran
    exact .inl ⟨own, same.symm⟩
  rw [if_neg own] at ran
  by_cases free : mutex.value > 0#16
  · rw [if_pos free] at ran
    cases ran
    exact .inr (.inl ⟨free, same.symm⟩)
  rw [if_neg free] at ran
  by_cases once : time = 0
  · rw [if_pos once] at ran
    cases ran
    exact .inr (.inr (.inl same.symm))
  rw [if_neg once] at ran
  cases held : mutex.owner with
  | none =>
    rw [held] at ran
    cases ran
  | some owner =>
    rw [held] at ran
    cases ran
    refine .inr (.inr (.inr ⟨owner, rfl, ?_, held ▸ same.symm⟩))
    rintro rfl
    exact own held

/-- What `rt_mutex_release` does: it fails, the owner is one level further out, the mutex is
free, or the first thread that waits has it. -/
theorem release_cases (stepped : history.step (.release thread) = some next) :
    (history.mutex.owner ≠ some thread ∧ next = history) ∨
      (history.mutex.owner = some thread ∧ history.mutex.hold - 1#8 ≠ 0#8 ∧
        next = ⟨{ history.mutex with hold := history.mutex.hold - 1#8 }, history.priority,
          history.notes ++ [.released thread]⟩) ∨
      (history.mutex.owner = some thread ∧ history.mutex.hold - 1#8 = 0#8 ∧
        let restored := restorePriority history.priority thread history.mutex.originalPriority
        (history.mutex.suspendThread = [] ∧
          next = ⟨⟨history.mutex.flag, history.mutex.value + 1#16, 0xFF, 0#8, none, []⟩, restored,
            history.notes ++ [.released thread]⟩) ∨
        ∃ waiter rest, history.mutex.suspendThread = waiter :: rest ∧
          next = ⟨⟨history.mutex.flag, history.mutex.value, restored waiter.thread, 1#8,
            some waiter.thread, rest⟩, restored,
            history.notes ++ [.released thread, .took waiter.thread]⟩) := by
  obtain ⟨mutex, priority, notes⟩ := history
  dsimp only [step] at stepped
  by_cases waits : isSuspended ⟨mutex, priority, notes⟩ thread = true
  · simp only [waits, if_true] at stepped
    cases stepped
  rw [if_neg waits] at stepped
  dsimp only
  by_cases own : mutex.owner = some thread
  · rw [if_pos own] at stepped
    unfold RtMutex.rtMutexRelease at stepped
    right
    by_cases last : mutex.hold - 1#8 = 0#8
    · right
      refine ⟨own, last, ?_⟩
      simp only [last, if_true] at stepped
      cases list : mutex.suspendThread with
      | nil =>
        simp only [list] at stepped
        exact .inl ⟨rfl, (Option.some.inj stepped).symm⟩
      | cons waiter rest =>
        simp only [list] at stepped
        exact .inr ⟨waiter, rest, rfl, (Option.some.inj stepped).symm⟩
    · left
      simp only [last, if_false] at stepped
      exact ⟨own, last, (Option.some.inj stepped).symm⟩
  · rw [if_neg own] at stepped
    exact .inl ⟨own, (Option.some.inj stepped).symm⟩

/-! ## Who has it -/

/-- How often a thread has taken it and released it. -/
def takes (history : MutexHistory ι) (thread : ι) : Nat := history.notes.count (.took thread)

def releases (history : MutexHistory ι) (thread : ι) : Nat := history.notes.count (.released thread)

/-- What holds of the fields after any calls. -/
structure Sane (history : MutexHistory ι) : Prop where
  free : history.mutex.owner = none → history.mutex.value = 1#16 ∧ history.mutex.hold = 0#8 ∧
    history.mutex.suspendThread = []
  busy : ∀ owner, history.mutex.owner = some owner → history.mutex.value = 0#16
  waiting : ∀ waiter ∈ history.mutex.suspendThread, history.mutex.owner ≠ some waiter.thread
  apart : (history.mutex.suspendThread.map MutexWaiter.thread).Nodup

/-- The count of the owner is what it has taken and not released. -/
structure Counted (history : MutexHistory ι) : Prop where
  held : ∀ owner, history.mutex.owner = some owner → history.releases owner < history.takes owner ∧
    history.takes owner ≤ history.releases owner + 256 ∧
    history.mutex.hold.toNat = (history.takes owner - history.releases owner) % 256
  others : ∀ thread, history.mutex.owner ≠ some thread →
    history.takes thread = history.releases thread

/-- The thread does not have it 256 times when it takes it. -/
def Shallow (history : MutexHistory ι) : MutexMove ι → Prop
  | .take thread _ => depth history.notes thread < 256
  | .release _ | .timeout _ | .control _ _ => True

instance : (history : MutexHistory ι) → (move : MutexMove ι) → Decidable (Shallow history move)
  | history, .take thread _ => inferInstanceAs (Decidable (depth history.notes thread < 256))
  | _, .release _ => inferInstanceAs (Decidable True)
  | _, .timeout _ => inferInstanceAs (Decidable True)
  | _, .control _ _ => inferInstanceAs (Decidable True)

omit [DecidableEq ι] in
theorem sane_initial (flag : RtIpcFlag) (priority : ι → Nat) : (initial flag priority).Sane where
  free _ := ⟨rfl, rfl, rfl⟩
  busy _ own := by cases own
  waiting _ member := absurd member List.not_mem_nil
  apart := List.nodup_nil

theorem counted_initial (flag : RtIpcFlag) (priority : ι → Nat) :
    (initial flag priority).Counted where
  held _ own := by cases own
  others _ _ := rfl

theorem not_waiting (free : history.isSuspended thread = false) :
    ∀ waiter ∈ history.mutex.suspendThread, waiter.thread ≠ thread := by
  intro waiter member same
  have found : history.isSuspended thread = true :=
    List.any_eq_true.mpr ⟨waiter, member, decide_eq_true same⟩
  rw [free] at found
  cases found

theorem count_took (notes : List (MutexNote ι)) (thread other : ι) :
    (notes ++ [MutexNote.took thread]).count (MutexNote.took other) =
      notes.count (MutexNote.took other) + if other = thread then 1 else 0 := by
  rw [List.count_append, List.count_singleton]
  by_cases same : other = thread
  · simp [same]
  · have differ : ¬ thread = other := fun equal => same equal.symm
    simp [same, differ]

theorem count_took_released (notes : List (MutexNote ι)) (thread other : ι) :
    (notes ++ [MutexNote.took thread]).count (MutexNote.released other) =
      notes.count (MutexNote.released other) := by
  rw [List.count_append, List.count_singleton]
  simp

theorem count_released (notes : List (MutexNote ι)) (thread other : ι) :
    (notes ++ [MutexNote.released thread]).count (MutexNote.released other) =
      notes.count (MutexNote.released other) + if other = thread then 1 else 0 := by
  rw [List.count_append, List.count_singleton]
  by_cases same : other = thread
  · simp [same]
  · have differ : ¬ thread = other := fun equal => same equal.symm
    simp [same, differ]

theorem count_released_took (notes : List (MutexNote ι)) (thread other : ι) :
    (notes ++ [MutexNote.released thread]).count (MutexNote.took other) =
      notes.count (MutexNote.took other) := by
  rw [List.count_append, List.count_singleton]
  simp

theorem toNat_hold_add (hold : Byte) : (hold + 1#8).toNat = (hold.toNat + 1) % 256 := by
  simp [BitVec.toNat_add]

theorem toNat_hold_sub (hold : Byte) : (hold - 1#8).toNat = (hold.toNat + 255) % 256 := by
  rw [BitVec.toNat_sub]
  simp only [BitVec.toNat_ofNat]
  omega

omit [DecidableEq ι] in
theorem Sane.unowned (sane : history.Sane) (available : 0#16 < history.mutex.value) :
    history.mutex.owner = none := by
  cases held : history.mutex.owner with
  | none => rfl
  | some owner =>
    rw [sane.busy owner held] at available
    exact absurd available (by decide)

omit [DecidableEq ι] in
theorem not_owner {other : ι} (own : history.mutex.owner = some thread) (differs : other ≠ thread) :
    history.mutex.owner ≠ some other :=
  fun same => differs (Option.some.inj (own.symm.trans same)).symm

theorem Sane.take (sane : history.Sane) {time : Int}
    (stepped : history.step (.take thread time) = some next) : next.Sane := by
  obtain ⟨awake, outcome⟩ := take_cases stepped
  rcases outcome with ⟨own, rfl⟩ | ⟨available, rfl⟩ | rfl | ⟨owner, own, other, rfl⟩
  · refine ⟨fun free => ?_, sane.busy, sane.waiting, sane.apart⟩
    rw [own] at free
    cases free
  · refine ⟨fun free => (by cases free), fun owner _ => ?_, fun waiter member same =>
      ?_, sane.apart⟩
    · rw [(sane.free (sane.unowned available)).1]
      rfl
    · exact not_waiting awake waiter member (Option.some.inj same).symm
  · exact sane
  · have queued := rtIpcListSuspend_perm history.mutex.flag
      (fun waiter => lendPriority history.priority owner thread waiter.thread)
        history.mutex.suspendThread
      ⟨thread, decide (time > 0)⟩
    refine ⟨fun free => ?_, sane.busy, fun waiter member => ?_, ?_⟩
    · rw [own] at free
      cases free
    · rcases List.mem_cons.mp (queued.mem_iff.mp member) with rfl | old
      · exact not_owner own other.symm
      · exact sane.waiting waiter old
    · rw [(queued.map MutexWaiter.thread).nodup_iff, List.map_cons, List.nodup_cons]
      refine ⟨fun member => ?_, sane.apart⟩
      obtain ⟨waiter, old, same⟩ := List.mem_map.mp member
      exact not_waiting awake waiter old same

theorem Sane.release (sane : history.Sane) (stepped : history.step (.release thread) = some next) :
    next.Sane := by
  rcases release_cases stepped
    with ⟨-, rfl⟩ | ⟨own, more, rfl⟩ | ⟨own, last, ⟨empty, rfl⟩ | ⟨waiter, rest, list, rfl⟩⟩
  · exact sane
  · refine ⟨fun free => ?_, sane.busy, sane.waiting, sane.apart⟩
    rw [own] at free
    cases free
  · exact ⟨fun _ => ⟨congrArg (· + 1) (sane.busy thread own), rfl, rfl⟩, fun owner same =>
      (by cases same),
      fun _ member => absurd member List.not_mem_nil, List.nodup_nil⟩
  · have apart := sane.apart
    rw [list, List.map_cons, List.nodup_cons] at apart
    refine ⟨fun free => (by cases free), fun _ _ => sane.busy thread own,
      fun later queued same => ?_, apart.2⟩
    exact apart.1 (List.mem_map.mpr ⟨later, queued, (Option.some.inj same).symm⟩)

theorem Sane.step {move : MutexMove ι} (sane : history.Sane)
    (stepped : history.step move = some next) : next.Sane := by
  cases move with
  | take thread time => exact sane.take stepped
  | release thread => exact sane.release stepped
  | timeout thread =>
    dsimp only [MutexHistory.step] at stepped
    split at stepped
    · obtain rfl := Option.some.inj stepped
      refine ⟨fun free => ?_, sane.busy, fun waiter member =>
        sane.waiting waiter (List.mem_of_mem_filter member),
        sane.apart.sublist (List.filter_sublist.map _)⟩
      obtain ⟨value, hold, empty⟩ := sane.free free
      exact ⟨value, hold, by rw [empty]; rfl⟩
    · cases stepped
  | control thread priority =>
    obtain rfl := Option.some.inj stepped
    exact ⟨sane.free, sane.busy, sane.waiting, sane.apart⟩

/-- The last release is that of a thread that has it once. -/
theorem Counted.last (counted : history.Counted) (own : history.mutex.owner = some thread)
    (last : history.mutex.hold - 1#8 = 0#8) : history.takes thread =
      history.releases thread + 1 := by
  obtain ⟨less, most, hold⟩ := counted.held thread own
  have none_left := congrArg BitVec.toNat last
  rw [toNat_hold_sub] at none_left
  simp only [BitVec.toNat_ofNat] at none_left
  omega

theorem Counted.take (counted : history.Counted) (sane : history.Sane) {time : Int}
    (shallow : history.Shallow (.take thread time))
    (stepped : history.step (.take thread time) = some next) :
    next.Counted := by
  have few : history.takes thread - history.releases thread < 256 := shallow
  rcases (take_cases stepped).2 with ⟨own, rfl⟩ | ⟨available, rfl⟩ | rfl | ⟨owner, own, other, rfl⟩
  · obtain ⟨less, most, hold⟩ := counted.held thread own
    refine ⟨fun owner same => ?_, fun other differs => ?_⟩
    · obtain rfl : thread = owner := Option.some.inj (own.symm.trans same)
      simp only [takes, releases] at less most hold few ⊢
      rw [count_took, count_took_released, toNat_hold_add, if_pos rfl]
      exact ⟨by omega, by omega, by omega⟩
    · have apart : other ≠ thread := fun same => differs (same ▸ own)
      have even := counted.others other differs
      simp only [takes, releases] at even ⊢
      rw [count_took, count_took_released, if_neg apart]
      exact even
  · have nobody := sane.unowned available
    have even (other : ι) := counted.others other fun same => by
      rw [nobody] at same
      cases same
    simp only [takes, releases] at even
    refine ⟨fun owner same => ?_, fun other differs => ?_⟩
    · obtain rfl : thread = owner := Option.some.inj same
      simp only [takes, releases]
      rw [count_took, count_took_released, toNat_hold_add, if_pos rfl, (sane.free nobody).2.1, even]
      exact ⟨by omega, by omega, by simp⟩
    · have apart : other ≠ thread := fun same => differs (congrArg some same.symm)
      simp only [takes, releases]
      rw [count_took, count_took_released, if_neg apart]
      exact even other
  · exact counted
  · exact ⟨counted.held, counted.others⟩

theorem Counted.release (counted : history.Counted) (sane : history.Sane)
    (stepped : history.step (.release thread) = some next) : next.Counted := by
  rcases release_cases stepped
    with ⟨-, rfl⟩ | ⟨own, more, rfl⟩ | ⟨own, last, ⟨empty, rfl⟩ | ⟨waiter, rest, list, rfl⟩⟩
  · exact counted
  · obtain ⟨less, most, hold⟩ := counted.held thread own
    have several : (history.mutex.hold - 1#8).toNat ≠ 0 :=
      fun zero => more (BitVec.eq_of_toNat_eq zero)
    rw [toNat_hold_sub] at several
    refine ⟨fun owner same => ?_, fun other differs => ?_⟩
    · obtain rfl : thread = owner := Option.some.inj (own.symm.trans same)
      simp only [takes, releases] at less most hold several ⊢
      rw [count_released, count_released_took, toNat_hold_sub, if_pos rfl]
      exact ⟨by omega, by omega, by omega⟩
    · have apart : other ≠ thread := fun same => differs (same ▸ own)
      have even := counted.others other differs
      simp only [takes, releases] at even ⊢
      rw [count_released, count_released_took, if_neg apart]
      exact even
  · refine ⟨fun owner same => (by cases same), fun other _ => ?_⟩
    have one := counted.last own last
    simp only [takes, releases] at one ⊢
    rw [count_released, count_released_took]
    by_cases same : other = thread
    · rw [if_pos same, same]
      exact one
    · have even := counted.others other (not_owner own same)
      rw [if_neg same]
      exact even
  · have one := counted.last own last
    have member : waiter ∈ history.mutex.suspendThread := list ▸ List.mem_cons_self
    have differs : waiter.thread ≠ thread := fun same => sane.waiting waiter member (same ▸ own)
    have counts (other : ι) :
        (history.notes ++ [MutexNote.released thread, MutexNote.took waiter.thread]).count
          (MutexNote.took other) =
            history.takes other + (if other = waiter.thread then 1 else 0) ∧
          (history.notes ++ [MutexNote.released thread, MutexNote.took waiter.thread]).count
            (MutexNote.released other) =
            history.releases other + if other = thread then 1 else 0 := by
      rw [List.append_cons, count_took, count_took_released, count_released, count_released_took]
      exact ⟨rfl, rfl⟩
    refine ⟨fun owner same => ?_, fun other awake => ?_⟩
    · obtain rfl : waiter.thread = owner := Option.some.inj same
      have even := counted.others waiter.thread (not_owner own differs)
      simp only [takes, releases, (counts _).1, (counts _).2, if_true, differs, if_false] at even ⊢
      rw [even]
      exact ⟨by omega, by omega, by simp⟩
    · have out : other ≠ waiter.thread := fun equal => awake (congrArg some equal.symm)
      simp only [takes, releases, (counts _).1, (counts _).2, out, if_false]
      by_cases mine : other = thread
      · simp only [takes, releases] at one
        rw [if_pos mine, mine]
        exact one
      · have even := counted.others other (not_owner own mine)
        rw [if_neg mine]
        exact even

theorem Counted.step {move : MutexMove ι} (counted : history.Counted) (sane : history.Sane)
    (shallow : history.Shallow move) (stepped : history.step move = some next) : next.Counted := by
  cases move with
  | take thread time => exact counted.take sane shallow stepped
  | release thread => exact counted.release sane stepped
  | timeout thread =>
    dsimp only [MutexHistory.step] at stepped
    split at stepped
    · obtain rfl := Option.some.inj stepped
      exact ⟨counted.held, counted.others⟩
    · cases stepped
  | control thread priority =>
    obtain rfl := Option.some.inj stepped
    exact ⟨counted.held, counted.others⟩

/-- A thread that is not suspended comes back from its call, or waits for an owner. -/
theorem Sane.take_isSome (sane : history.Sane) (awake : history.isSuspended thread = false)
    (time : Int) :
    (history.step (.take thread time)).isSome := by
  dsimp only [MutexHistory.step]
  rw [awake, if_neg Bool.false_ne_true, Option.isSome_map]
  unfold RtMutex.rtMutexTake
  by_cases own : history.mutex.owner = some thread
  · rw [if_pos own]
    rfl
  rw [if_neg own]
  by_cases free : history.mutex.value > 0#16
  · rw [if_pos free]
    rfl
  rw [if_neg free]
  by_cases once : time = 0
  · rw [if_pos once]
    rfl
  rw [if_neg once]
  cases held : history.mutex.owner with
  | none =>
    rw [(sane.free held).1] at free
    exact absurd Nat.one_pos free
  | some owner => rfl

/-- In every run in which no thread takes the mutex more than 256 times without releasing it,
at most one thread has it, and that one is its owner; nobody waits for a mutex that is free;
and no call reads the priority of an owner that is not there. -/
theorem mutex_exclusive (flag : RtIpcFlag) (priority : ι → Nat) {moves : List (MutexMove ι)}
    {final : MutexHistory ι} (shallow : MovesMeet step Shallow (initial flag priority) moves)
    (ran : runMoves step (initial flag priority) moves = some final) :
    (∀ first second, 0 < depth final.notes first → 0 < depth final.notes second → first = second) ∧
      (∀ thread, final.mutex.owner = some thread ↔ 0 < depth final.notes thread) ∧
      (final.mutex.owner = none → final.mutex.suspendThread = []) ∧
      ∀ thread time, final.isSuspended thread = false →
        (final.step (.take thread time)).isSome := by
  obtain ⟨sane, counted⟩ : final.Sane ∧ final.Counted :=
    @runMoves_invariant _ _ _ _ (fun history => history.Sane ∧ history.Counted)
      (fun inv guarded stepped => ⟨inv.1.step stepped, inv.2.step inv.1 guarded stepped⟩) _ _ _
      ⟨sane_initial flag priority, counted_initial flag priority⟩ shallow ran
  have owns (thread : ι) : final.mutex.owner = some thread ↔ 0 < depth final.notes thread := by
    constructor
    · exact fun own => Nat.sub_pos_of_lt (counted.held thread own).1
    · intro has
      by_contra other
      exact absurd has
        (Nat.not_lt.mpr (Nat.sub_eq_zero_of_le (Nat.le_of_eq (counted.others thread other))).le)
  refine ⟨fun first second one two => ?_, owns, fun free => (sane.free free).2.2,
    fun thread time awake => sane.take_isSome awake time⟩
  exact Option.some.inj (((owns first).mpr one).symm.trans ((owns second).mpr two))

/-- One thread waits until the other gives the mutex back. -/
theorem mutex_exclusive_two :
    let final : MutexHistory Bool :=
      ⟨⟨RtIpcFlag.fifo, 0#16, 7, 1#8, some true, []⟩, fun _ =>
        7, [.took false, .released false, .took true]⟩
    (∀ first second, 0 < depth final.notes first → 0 < depth final.notes second → first = second) ∧
      (∀ thread, final.mutex.owner = some thread ↔ 0 < depth final.notes thread) ∧
      (final.mutex.owner = none → final.mutex.suspendThread = []) ∧
      ∀ thread time, final.isSuspended thread = false → (final.step (.take thread time)).isSome :=
  @mutex_exclusive Bool _ RtIpcFlag.fifo (fun _ => 7)
    [.take false 0, .take true (-1), .release false]
    ⟨⟨RtIpcFlag.fifo, 0#16, 7, 1#8, some true, []⟩, fun _ =>
      7, [.took false, .released false, .took true]⟩ (by decide) rfl

/-- The owner takes it again and again. -/
theorem nested_run (flag : RtIpcFlag) (priority : ι → Nat) (thread : ι) (count : Nat) :
    runMoves step (initial flag priority) (List.replicate (count + 1) (.take thread 0)) =
      some ⟨⟨flag, 0#16, priority thread, BitVec.ofNat 8 (count + 1), some thread, []⟩, priority,
        List.replicate (count + 1) (.took thread)⟩ := by
  induction count with
  | zero =>
    refine runMoves_single ?_
    have called : RtMutex.rtMutexTake ⟨flag, 1#16, 0xFF, 0#8, none, []⟩ priority thread 0 =
        some (⟨flag, 0#16, priority thread, 1#8, some thread, []⟩, priority, .taken) := by
      simp [RtMutex.rtMutexTake]
    simp [MutexHistory.step, initial, isSuspended, RtMutex.init, called]
  | succ count ih =>
    rw [@List.replicate_succ' (count + 1), runMoves_append ih]
    refine runMoves_single ?_
    have hold : BitVec.ofNat 8 (count + 1) + 1#8 = BitVec.ofNat 8 (count + 1 + 1) :=
      (BitVec.ofNat_add ..).symm
    have called : RtMutex.rtMutexTake ⟨flag, 0#16, priority thread, BitVec.ofNat 8 (count + 1),
        some thread, []⟩ priority thread 0 =
        some (⟨flag, 0#16, priority thread, BitVec.ofNat 8 (count + 1) + 1#8, some thread, []⟩,
          priority, .taken) := by
      unfold RtMutex.rtMutexTake
      rw [if_pos rfl]
    simp [MutexHistory.step, isSuspended, called, hold, @List.replicate_succ' (count + 1)]

theorem count_rounds (count : Nat) (thread other : ι) :
    (List.replicate count (MutexNote.took thread)).count (.took other) = if thread = other
      then count else 0 := by
  simp [List.count_replicate]

theorem count_rounds_released (count : Nat) (thread other : ι) :
    (List.replicate count (MutexNote.took thread)).count (.released other) = 0 := by
  simp [List.count_replicate]

/-- At 257 the count of 8 bits starts anew, and the first release gives the mutex away. -/
theorem mutex_nested : ¬ ∀ (moves : List (MutexMove Bool)) (final : MutexHistory Bool),
    runMoves step (initial RtIpcFlag.fifo fun _ => 7) moves = some final →
      ∀ first second, 0 < depth final.notes first → 0 < depth final.notes second →
        first = second := by
  intro exclusive
  have deep := nested_run RtIpcFlag.fifo (fun _ => 7) false 256
  have ran : runMoves step (initial RtIpcFlag.fifo fun _ => 7)
      (List.replicate 257 (.take false 0) ++ [.release false, .take true 0]) =
        some ⟨⟨RtIpcFlag.fifo, 0#16, 7, 1#8, some true, []⟩, fun _ => 7,
          List.replicate 257 (.took false) ++ [.released false] ++ [.took true]⟩ :=
            (runMoves_append deep).trans rfl
  have counts (thread : Bool) :
      depth (List.replicate 257 (MutexNote.took false) ++ [.released false] ++ [.took true])
        thread = if thread then 1 else 256 := by
    unfold depth
    rw [count_took, count_took_released, count_released, count_released_took, count_rounds,
      count_rounds_released]
    cases thread <;> rfl
  exact Bool.false_ne_true (exclusive _ _ ran false true (counts false ▸ Nat.succ_pos 255)
    (counts true ▸ Nat.one_pos))

/-! ## At what priority -/

theorem lendPriority_apply (priority : ι → Nat) (owner thread other : ι) :
    lendPriority priority owner thread other = if other = owner
      then min (priority thread) (priority owner) else priority other := by
  unfold lendPriority
  split
  · rename_i urgent
    rw [Function.update_apply]
    split
    · exact (Nat.min_eq_left (Nat.le_of_lt urgent)).symm
    · rfl
  · rename_i calm
    split
    · rename_i same
      rw [same]
      exact (Nat.min_eq_right (Nat.not_lt.mp calm)).symm
    · rfl

theorem restorePriority_apply (priority : ι → Nat) (owner other : ι) (original : Nat) :
    restorePriority priority owner original other = if other = owner then original
      else priority other := by
  unfold restorePriority
  split
  · exact Function.update_apply ..
  · rename_i same
    split
    · rename_i equal
      rw [equal]
      exact (not_not.mp same).symm
    · rfl

/-- The list of `RT_IPC_FLAG_PRIO` stays in the order of the priorities. -/
theorem rtIpcListSuspend_ordered {α : Type} {priority : α → Nat} {list : List α} (thread : α)
    (ordered : list.Pairwise fun first second => priority first ≤ priority second) :
    (rtIpcListSuspend RtIpcFlag.prio priority list thread).Pairwise fun first second =>
      priority first ≤ priority second := by
  have unfolded (list : List α) : rtIpcListSuspend RtIpcFlag.prio priority list thread =
      list.takeWhile (fun other => decide (priority other ≤ priority thread)) ++
        thread :: list.dropWhile (fun other => decide (priority other ≤ priority thread)) := rfl
  induction list with
  | nil => exact List.pairwise_singleton _ thread
  | cons first rest ih =>
    obtain ⟨least, later⟩ := List.pairwise_cons.mp ordered
    by_cases before : priority first ≤ priority thread
    · have same : rtIpcListSuspend RtIpcFlag.prio priority (first :: rest) thread =
          first :: rtIpcListSuspend RtIpcFlag.prio priority rest thread := by
        simp only [unfolded, List.takeWhile_cons, List.dropWhile_cons, before, decide_true, if_true,
          List.cons_append]
      rw [same, List.pairwise_cons]
      refine ⟨fun other member => ?_, ih later⟩
      rcases List.mem_cons.mp ((rtIpcListSuspend_perm ..).mem_iff.mp member) with rfl | old
      · exact before
      · exact least other old
    · have same : rtIpcListSuspend RtIpcFlag.prio priority (first :: rest) thread = thread ::
          first :: rest := by
        simp [unfolded, before]
      rw [same, List.pairwise_cons]
      refine ⟨fun other member => ?_, ordered⟩
      have urgent := Nat.le_of_not_le before
      rcases List.mem_cons.mp member with rfl | old
      · exact urgent
      · exact urgent.trans (least other old)

/-- The owner lends the priority of the most urgent thread that waits, and every other thread
has its own. -/
structure Inherits (base : ι → Nat) (history : MutexHistory ι) : Prop where
  flag : history.mutex.flag = RtIpcFlag.prio
  own : ∀ thread, history.mutex.owner ≠ some thread → history.priority thread = base thread
  lent : ∀ owner, history.mutex.owner = some owner → history.mutex.originalPriority = base owner ∧
    history.priority owner ≤ base owner ∧ ∀ waiter ∈ history.mutex.suspendThread,
      history.priority owner ≤ base waiter.thread
  ordered : history.mutex.suspendThread.Pairwise fun first second =>
    base first.thread ≤ base second.thread

/-- Nobody else changes a priority. -/
def Owned : MutexMove ι → Prop
  | .control _ _ => False
  | .take _ _ | .release _ | .timeout _ => True

instance : (move : MutexMove ι) → Decidable (Owned move)
  | .control _ _ => inferInstanceAs (Decidable False)
  | .take _ _ => inferInstanceAs (Decidable True)
  | .release _ => inferInstanceAs (Decidable True)
  | .timeout _ => inferInstanceAs (Decidable True)

variable {base : ι → Nat}

theorem Inherits.take (inherits : history.Inherits base) (sane : history.Sane) {time : Int}
    (stepped : history.step (.take thread time) = some next) : next.Inherits base := by
  rcases (take_cases stepped).2 with ⟨own, rfl⟩ | ⟨available, rfl⟩ | rfl | ⟨owner, own, other, rfl⟩
  · exact ⟨inherits.flag, inherits.own, inherits.lent, inherits.ordered⟩
  · have nobody := sane.unowned available
    have atBase (other : ι) : history.priority other = base other :=
      inherits.own other fun same => by
      rw [nobody] at same
      cases same
    refine ⟨inherits.flag, fun other _ => atBase other, fun owner same => ?_, inherits.ordered⟩
    obtain rfl : thread = owner := Option.some.inj same
    refine ⟨atBase thread, Nat.le_of_eq (atBase thread), fun waiter member => ?_⟩
    rw [(sane.free nobody).2.2] at member
    cases member
  · exact inherits
  · obtain ⟨original, below, urgent⟩ := inherits.lent owner own
    have mine : history.priority thread = base thread :=
      inherits.own thread (not_owner own other.symm)
    have kept {waiter : MutexWaiter ι} (waits : waiter.thread ≠ owner) :
        lendPriority history.priority owner thread waiter.thread = base waiter.thread := by
      rw [lendPriority_apply, if_neg waits]
      exact inherits.own waiter.thread (not_owner own waits)
    have queued := rtIpcListSuspend_perm history.mutex.flag
      (fun waiter => lendPriority history.priority owner thread waiter.thread)
        history.mutex.suspendThread
      ⟨thread, decide (time > 0)⟩
    have waits (waiter : MutexWaiter ι) (member : waiter ∈
        MutexWaiter.mk thread (decide (time > 0)) :: history.mutex.suspendThread) :
        waiter.thread ≠ owner := by
      rcases List.mem_cons.mp member with rfl | old
      · exact fun same => other same.symm
      · exact fun same => sane.waiting waiter old (same ▸ own)
    refine ⟨inherits.flag, fun another differs => ?_, fun another same => ?_, ?_⟩
    · refine Eq.trans ?_ (inherits.own another differs)
      exact (lendPriority_apply ..).trans (if_neg fun same =>
        differs (own.trans (congrArg some same.symm)))
    · obtain rfl : owner = another := Option.some.inj (own.symm.trans same)
      have lent : lendPriority history.priority owner thread owner =
          min (history.priority thread) (history.priority owner) :=
        (lendPriority_apply ..).trans (if_pos rfl)
      have less := Nat.le_of_eq lent
      refine ⟨original, less.trans ((Nat.min_le_right ..).trans below), fun waiter member =>
        less.trans ?_⟩
      rcases List.mem_cons.mp (queued.mem_iff.mp member) with rfl | old
      · exact (Nat.min_le_left ..).trans (Nat.le_of_eq mine)
      · exact (Nat.min_le_right ..).trans (urgent waiter old)
    · have before : history.mutex.suspendThread.Pairwise fun first second =>
          lendPriority history.priority owner thread first.thread ≤
            lendPriority history.priority owner thread second.thread := by
        refine inherits.ordered.imp_of_mem fun {first second} here there least => ?_
        rw [kept (waits first (List.mem_cons_of_mem _ here)),
          kept (waits second (List.mem_cons_of_mem _ there))]
        exact least
      have after := rtIpcListSuspend_ordered (⟨thread, decide (time > 0)⟩ : MutexWaiter ι) before
      rw [← inherits.flag] at after
      refine after.imp_of_mem fun {first second} here there least => ?_
      rw [kept (waits first (queued.mem_iff.mp here)),
        kept (waits second (queued.mem_iff.mp there))] at least
      exact least

theorem Inherits.release (inherits : history.Inherits base) (sane : history.Sane)
    (stepped : history.step (.release thread) = some next) : next.Inherits base := by
  rcases release_cases stepped with ⟨-, rfl⟩ | ⟨own, more, rfl⟩ | ⟨own, last, restored⟩
  · exact inherits
  · exact ⟨inherits.flag, inherits.own, inherits.lent, inherits.ordered⟩
  have atBase (other : ι) : restorePriority history.priority thread history.mutex.originalPriority
      other = base other := by
    rw [restorePriority_apply]
    split
    · rename_i same
      rw [same]
      exact (inherits.lent thread own).1
    · rename_i differs
      exact inherits.own other (not_owner own differs)
  rcases restored with ⟨empty, rfl⟩ | ⟨waiter, rest, list, rfl⟩
  · exact ⟨inherits.flag, fun other _ => atBase other, fun owner same => (by cases same), .nil⟩
  · have ordered := inherits.ordered
    rw [list, List.pairwise_cons] at ordered
    refine ⟨inherits.flag, fun other _ => atBase other, fun owner same => ?_, ordered.2⟩
    obtain rfl : waiter.thread = owner := Option.some.inj same
    refine ⟨atBase waiter.thread, Nat.le_of_eq (atBase waiter.thread), fun later queued => ?_⟩
    exact (Nat.le_of_eq (atBase waiter.thread)).trans (ordered.1 later queued)

theorem Inherits.step {move : MutexMove ι} (inherits : history.Inherits base) (sane : history.Sane)
    (owned : Owned move) (stepped : history.step move = some next) : next.Inherits base := by
  cases move with
  | take thread time => exact inherits.take sane stepped
  | release thread => exact inherits.release sane stepped
  | timeout thread =>
    dsimp only [MutexHistory.step] at stepped
    split at stepped
    · obtain rfl := Option.some.inj stepped
      refine ⟨inherits.flag, inherits.own, fun owner own =>
        ?_, inherits.ordered.sublist List.filter_sublist⟩
      obtain ⟨original, below, urgent⟩ := inherits.lent owner own
      exact ⟨original, below, fun waiter member => urgent waiter (List.mem_of_mem_filter member)⟩
    · cases stepped
  | control thread priority => exact owned.elim

theorem inherits_run {moves : List (MutexMove ι)} {final : MutexHistory ι} (sane : history.Sane)
    (inherits : history.Inherits base) (owned : ∀ move ∈ moves, Owned move)
    (ran : runMoves MutexHistory.step history moves = some final) : final.Sane ∧
      final.Inherits base := by
  induction moves generalizing history with
  | nil =>
    cases ran
    exact ⟨sane, inherits⟩
  | cons move rest ih =>
    obtain ⟨middle, stepped, remaining⟩ := runMoves_cons ran
    exact ih (sane.step stepped) (inherits.step sane (owned move List.mem_cons_self) stepped)
      (fun move later => owned move (List.mem_cons_of_mem _ later)) remaining

/-- In every run on a mutex that queues by priority, the owner is at least as urgent as every
thread that waits for it, and every thread that does not have the mutex runs at its own
priority again. -/
theorem mutex_inherits (base : ι → Nat) {moves : List (MutexMove ι)} {final : MutexHistory ι}
    (owned : ∀ move ∈ moves, Owned move)
    (ran : runMoves MutexHistory.step (initial RtIpcFlag.prio base) moves = some final) :
    (∀ owner, final.mutex.owner = some owner →
        final.priority owner ≤ base owner ∧ ∀ waiter ∈ final.mutex.suspendThread,
          final.priority owner ≤ final.priority waiter.thread) ∧
      ∀ thread, final.mutex.owner ≠ some thread → final.priority thread = base thread := by
  have start : (initial RtIpcFlag.prio base).Inherits base :=
    ⟨rfl, fun _ _ => rfl, fun owner own => (by cases own), .nil⟩
  obtain ⟨sane, inherits⟩ := inherits_run (sane_initial RtIpcFlag.prio base) start owned ran
  refine ⟨fun owner own => ?_, inherits.own⟩
  obtain ⟨-, below, urgent⟩ := inherits.lent owner own
  refine ⟨below, fun waiter member => ?_⟩
  rw [inherits.own waiter.thread (sane.waiting waiter member)]
  exact urgent waiter member

/-- An urgent thread waits for one that is not. -/
theorem mutex_inherits_three :
    let final : MutexHistory Nat :=
      ⟨⟨RtIpcFlag.prio, 0#16, 3, 1#8, some 3, [⟨1, false⟩, ⟨2, false⟩]⟩,
        lendPriority (lendPriority (fun thread => thread) 3 2) 3 1, [.took 3]⟩
    (∀ owner, final.mutex.owner = some owner →
        final.priority owner ≤ owner ∧ ∀ waiter ∈ final.mutex.suspendThread,
          final.priority owner ≤ final.priority waiter.thread) ∧
      ∀ thread, final.mutex.owner ≠ some thread → final.priority thread = thread :=
  @mutex_inherits Nat _ (fun thread => thread) [.take 3 0, .take 2 (-1), .take 1 (-1)]
    ⟨⟨RtIpcFlag.prio, 0#16, 3, 1#8, some 3, [⟨1, false⟩, ⟨2, false⟩]⟩,
      lendPriority (lendPriority (fun thread => thread) 3 2) 3 1, [.took 3]⟩ (by decide) rfl

/-- A mutex that queues in the order of the calls hands itself to a thread that a more urgent
one then waits for. -/
theorem mutex_inversion :
    ¬ ∀ (moves : List (MutexMove Nat)) (final : MutexHistory Nat), (∀ move ∈ moves, Owned move) →
    runMoves MutexHistory.step (initial RtIpcFlag.fifo fun thread => thread) moves = some final →
      ∀ owner, final.mutex.owner = some owner →
        ∀ waiter ∈ final.mutex.suspendThread, final.priority owner ≤
          final.priority waiter.thread := by
  intro inherits
  have urgent := inherits [.take 3 0, .take 2 (-1), .take 1 (-1), .release 3]
    ⟨⟨RtIpcFlag.fifo, 0#16, 2, 1#8, some 2, [⟨1, false⟩]⟩,
      restorePriority (lendPriority (lendPriority (fun thread => thread) 3 2) 3 1) 3 3,
        [.took 3, .released 3, .took 2]⟩
    (by decide) rfl 2 rfl ⟨1, false⟩ List.mem_cons_self
  revert urgent
  decide

end MutexHistory

end WifiAccess

import WifiAccess.Base.Run
import WifiAccess.Config.Settings

/-! The settings over runs of `device_config.c`, in which calls on the file fail and the power
goes off, but not while a descriptor keeps written bytes back. -/

namespace WifiAccess

open FileProg

inductive ConfigCall where
  | init
  | get
  | set
  deriving DecidableEq

/-- A call on the caller's struct, the outcomes of its calls on the file, and how many of
these are made before the power fails, if it does. -/
structure ConfigTry where
  call : ConfigCall
  ram : DeviceConfig
  faults : List Bool
  outage : Option Nat

namespace ConfigTry

def prog (attempt : ConfigTry) : FileProg (Int × DeviceConfig) :=
  match attempt.call with
  | .init => deviceConfigInit attempt.ram
  | .get => deviceConfigGetSet attempt.ram getDevice
  | .set => deviceConfigGetSet attempt.ram setDevice

/-- The file behind the call, or as the power failure has left it. -/
def left (content : Option (List Byte)) (attempt : ConfigTry) : Option (List Byte) :=
  match attempt.outage with
  | none => (attempt.prog.attempt (.fresh content) attempt.faults).2.1.content
  | some count =>
    (attempt.prog.cut FileState.attempt count (.fresh content, attempt.faults)).1.content

/-- The outcomes with every call behind a power failure a failed one. No function here makes
more than six. -/
def outcomes (attempt : ConfigTry) : List Bool :=
  match attempt.outage with
  | none => attempt.faults
  | some count => untilOutage count 6 attempt.faults

/-- There is no result when bytes are lost that FatFs keeps back until the close. -/
def step (content : Option (List Byte)) (attempt : ConfigTry) : Option (Option (List Byte)) :=
  if commits false attempt.prog (.fresh content) attempt.outcomes then
    some (left content attempt)
  else none

/-- The settings that the call puts into the file, if its calls on the file come that far. -/
def stores (attempt : ConfigTry) : Option DeviceConfig :=
  match attempt.call with
  | .init => if Replaces attempt.ram attempt.outcomes then some DeviceConfig.blank else none
  | .get => none
  | .set => if Stopped attempt.outcomes then none else some attempt.ram.withCrc

/-! ## One call -/

theorem left_bytes (content : Option (List Byte)) (attempt : ConfigTry) : ∃ faults : List Bool,
    (left content attempt).getD [] = (attempt.prog.attempt (.fresh content) faults).2.1.bytes ∧
      ∀ i < 6, faults.getD i false = attempt.outcomes.getD i false := by
  unfold left outcomes
  cases attempt.outage with
  | none => exact ⟨attempt.faults, rfl, fun _ _ => rfl⟩
  | some count =>
    obtain ⟨least, same⟩ := cut_bytes attempt.prog (.fresh content) attempt.faults count
    refine ⟨untilOutage count (max least 6) attempt.faults, same _ (Nat.le_max_left ..),
      fun i small => ?_⟩
    rw [untilOutage_getD _ _ _ (by omega), untilOutage_getD _ _ _ (by omega)]

theorem valid_blank : DeviceConfig.blank.Valid := DeviceConfig.valid_withCrc _

theorem replaces_congr {ram : DeviceConfig} {first second : List Bool}
    (same : ∀ i < 6, first.getD i false = second.getD i false) : Replaces ram first ↔
      Replaces ram second := by
  simp only [Replaces, same 0 (by decide), same 1 (by decide), same 2 (by decide),
    same 3 (by decide), same 4 (by decide)]

theorem stopped_congr {first second : List Bool}
    (same : ∀ i < 6, first.getD i false = second.getD i false) :
    Stopped first ↔ Stopped second := by
  simp only [Stopped, same 0 (by decide), same 1 (by decide), same 2 (by decide)]

variable {attempt : ConfigTry} {config : DeviceConfig}

/-- What a call stores is there, whatever the file held. -/
theorem keeps_stores (content : Option (List Byte)) (stored : attempt.stores = some config) :
    Keeps ((left content attempt).getD []) config := by
  obtain ⟨faults, bytes, same⟩ := attempt.left_bytes content
  rw [bytes]
  cases called : attempt.call with
  | get => simp [stores, called] at stored
  | init =>
    by_cases replaced : Replaces attempt.ram attempt.outcomes
    · obtain rfl : DeviceConfig.blank = config := by simpa [stores, called, replaced] using stored
      simp only [prog, called]
      rw [(yields_init (.fresh content) attempt.ram faults).1 ((replaces_congr same).mpr replaced)]
      exact keeps_written _ valid_blank
    · simp [stores, called, replaced] at stored
  | set =>
    by_cases stopped : Stopped attempt.outcomes
    · simp [stores, called, stopped] at stored
    · obtain rfl : attempt.ram.withCrc = config := by simpa [stores, called, stopped] using stored
      simp only [prog, called]
      rw [((yields_set (.fresh content) attempt.ram faults).2
        ((stopped_congr same).not.mpr stopped)).2]
      exact keeps_written _ (DeviceConfig.valid_withCrc _)

/-- A call that stores nothing leaves intact settings as they are. -/
theorem keeps_left {content : Option (List Byte)} (keeps : Keeps (content.getD []) config)
    (silent : attempt.stores = none) : Keeps ((left content attempt).getD []) config := by
  obtain ⟨faults, bytes, same⟩ := attempt.left_bytes content
  have start : Keeps (FileState.fresh content).bytes config := keeps
  rw [bytes]
  cases called : attempt.call with
  | get =>
    simp only [prog, called]
    rw [(yields_get start attempt.ram faults).1]
    exact keeps
  | init =>
    by_cases replaced : Replaces attempt.ram attempt.outcomes
    · simp [stores, called, replaced] at silent
    · simp only [prog, called]
      rw [(yields_init (.fresh content) attempt.ram faults).2
        ((replaces_congr same).not.mpr replaced) config start]
      exact keeps
  | set =>
    by_cases stopped : Stopped attempt.outcomes
    · simp only [prog, called]
      rw [((yields_set (.fresh content) attempt.ram faults).1 ((stopped_congr same).mpr stopped)).2]
      exact keeps
    · simp [stores, called, stopped] at silent

theorem step_commits {content : Option (List Byte)}
    (committed : commits false attempt.prog (.fresh content) attempt.outcomes = true) :
    step content attempt = some (left content attempt) := if_pos committed

theorem step_left {content next : Option (List Byte)} (stepped : step content attempt = some next) :
    next = left content attempt := by
  rw [step] at stepped
  split at stepped
  · exact (Option.some.inj stepped).symm
  · cases stepped

end ConfigTry

/-! ## Runs -/

theorem keeps_run {content file : Option (List Byte)} {config : DeviceConfig}
    (keeps : Keeps (content.getD []) config) {later : List ConfigTry}
    (silent : ∀ attempt ∈ later, attempt.stores = none)
    (ran : runMoves ConfigTry.step content later = some file) : Keeps (file.getD []) config := by
  induction later generalizing content with
  | nil => exact Option.some.inj ran ▸ keeps
  | cons attempt rest ih =>
    obtain ⟨next, stepped, remaining⟩ := runMoves_cons ran
    obtain rfl := ConfigTry.step_left stepped
    exact ih (ConfigTry.keeps_left keeps (silent attempt List.mem_cons_self))
      (fun other member => silent other (List.mem_cons_of_mem attempt member)) remaining

/-- A call that sets nothing stores the blank settings or none. -/
theorem stores_blank {attempt : ConfigTry} (noSet : attempt.call ≠ .set) :
    attempt.stores = if attempt.call = .init ∧ Replaces attempt.ram attempt.outcomes
      then some DeviceConfig.blank else none := by
  cases called : attempt.call with
  | get => simp [ConfigTry.stores, called]
  | init => simp [ConfigTry.stores, called]
  | set => exact absurd called noSet

theorem keeps_replaced {attempts : List ConfigTry}
    (noSet : ∀ attempt ∈ attempts, attempt.call ≠ .set)
    (replaced : ∃ attempt ∈ attempts, attempt.call = .init ∧ Replaces attempt.ram attempt.outcomes)
    {content file : Option (List Byte)}
      (ran : runMoves ConfigTry.step content attempts = some file) :
    Keeps (file.getD []) DeviceConfig.blank := by
  induction attempts generalizing content with
  | nil =>
    obtain ⟨_, member, _⟩ := replaced
    cases member
  | cons attempt rest ih =>
    have first := noSet attempt List.mem_cons_self
    have others := fun other member => noSet other (List.mem_cons_of_mem attempt member)
    obtain ⟨next, stepped, remaining⟩ := runMoves_cons ran
    obtain rfl := ConfigTry.step_left stepped
    by_cases again : ∃ other ∈ rest, other.call = .init ∧ Replaces other.ram other.outcomes
    · exact ih others again remaining
    · obtain ⟨found, member, did⟩ := replaced
      rcases List.mem_cons.mp member with rfl | later
      · refine keeps_run (found.keeps_stores content ?_) (fun other member => ?_) remaining
        · rw [stores_blank first, if_pos did]
        · rw [stores_blank (others other member), if_neg fun does => again ⟨other, member, does⟩]
      · exact absurd ⟨found, later, did⟩ again

/-- Settings that are not the blank ones survive calls that set none exactly if none of the
boots among them replaces them. -/
theorem config_survives_iff {content file : Option (List Byte)} {config : DeviceConfig}
    (keeps : Keeps (content.getD []) config) (other : config ≠ DeviceConfig.blank)
    {attempts : List ConfigTry} (noSet : ∀ attempt ∈ attempts, attempt.call ≠ .set)
    (ran : runMoves ConfigTry.step content attempts = some file) :
    Keeps (file.getD []) config ↔
      ∀ attempt ∈ attempts, attempt.call = .init → ¬ Replaces attempt.ram attempt.outcomes := by
  constructor
  · intro kept attempt member booted replaced
    have blank := keeps_replaced noSet ⟨attempt, member, booted, replaced⟩ ran
    exact other (kept.stored.symm.trans blank.stored)
  · intro none
    refine keeps_run keeps (fun attempt member => ?_) ran
    rw [stores_blank (noSet attempt member), if_neg fun does => none attempt member does.1 does.2]

theorem withCrc_ne_blank {config : DeviceConfig} (addr : config.deviceAddr ≠ 0#8) :
    config.withCrc ≠ DeviceConfig.blank := by
  intro same
  have first (settings : DeviceConfig) : settings.withCrc.byte 0 = settings.byte 0 := by
    rw [DeviceConfig.withCrc, Image.sealAt, Image.byte_put (by simp), if_neg (by omega)]
  have kept := first config
  rw [same, DeviceConfig.blank, first, Image.byte_zero] at kept
  exact addr kept.symm

/-- The power fails while a boot looks at the settings, and then another boot fails to read
them, but finds the seek failing too. -/
theorem config_survives_iff_outage :
    let config : DeviceConfig := Image.put (.zero 668) 0 [3#8]
    let cut : ConfigTry := ⟨.init, .zero 668, [], some 3⟩
    let boot : ConfigTry := ⟨.init, .zero 668, [false, false, true, true], none⟩
    ∃ file, runMoves ConfigTry.step (some config.withCrc.bytes) [cut, boot] = some file ∧
      Keeps (file.getD []) config.withCrc := by
  intro config cut boot
  have addr : config.deviceAddr ≠ 0#8 := by
    rw [DeviceConfig.deviceAddr, Image.byte_put_within _ _ _ (by decide)]
    decide
  have keeps : Keeps ((some config.withCrc.bytes).getD []) config.withCrc :=
    ⟨config.withCrc.size.ge, Image.ofBytes_bytes _, DeviceConfig.valid_withCrc _⟩
  have noSet : ∀ attempt ∈ [cut, boot], attempt.call ≠ .set := by simp [cut, boot]
  have silent : cut.stores = none := rfl
  have start : Keeps (FileState.fresh (some config.withCrc.bytes)).bytes config.withCrc := keeps
  have kept : Keeps (FileState.fresh (cut.left (some config.withCrc.bytes))).bytes
      config.withCrc := by
    rw [FileState.bytes_fresh]
    exact cut.keeps_left keeps silent
  have first : commits false cut.prog (.fresh (some config.withCrc.bytes)) cut.outcomes = true :=
    (commits_init start (.zero 668) _).mpr (.inl fun replaced => absurd replaced.2.2.1 (by decide))
  have second : commits false boot.prog (.fresh (cut.left (some config.withCrc.bytes)))
      boot.outcomes = true :=
    (commits_init kept (.zero 668) _).mpr (.inl fun replaced =>
      absurd replaced.2.2.2.2.1 (by decide))
  have ran : runMoves ConfigTry.step (some config.withCrc.bytes) [cut, boot] =
      some (boot.left (cut.left (some config.withCrc.bytes))) := by
    rw [runMoves_ahead (ConfigTry.step_commits first),
      runMoves_ahead (ConfigTry.step_commits second), runMoves]
  refine ⟨_, ran, (config_survives_iff keeps (withCrc_ne_blank addr) noSet ran).mpr fun attempt
    member _ replaced => ?_⟩
  rcases List.mem_cons.mp member with rfl | last
  · have failed : cut.outcomes.getD 2 false = true := replaced.2.2.1
    exact absurd failed (by decide)
  · rw [List.mem_singleton.mp last] at replaced
    have sought : boot.outcomes.getD 3 false = false := replaced.2.2.2.2.1
    exact absurd sought (by decide)

end WifiAccess

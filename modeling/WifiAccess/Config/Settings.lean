import WifiAccess.Base.Outage
import WifiAccess.Crc.Record

/-! `device_config.c`: the settings of the device in `/config.bin`, one packed record that
carries its CRC. -/

namespace WifiAccess

open FileProg

/-- `device_config_t`. -/
abbrev DeviceConfig := Image 668

namespace DeviceConfig

def deviceAddr (config : DeviceConfig) : Byte := config.byte 0
def thisDeviceName (config : DeviceConfig) : List Byte := config.field 1 64
def serverIp (config : DeviceConfig) : List Byte := config.field 65 4
def serverPort (config : DeviceConfig) : Nat := config.num 69 2
def routerSsid (config : DeviceConfig) : List Byte := config.field 71 33
def routerPasswd (config : DeviceConfig) : List Byte := config.field 104 257
def routerAuth (config : DeviceConfig) : Byte := config.byte 361
def routerBssid (config : DeviceConfig) : List Byte := config.field 362 6
def meshSsid (config : DeviceConfig) : List Byte := config.field 368 33
def meshPasswd (config : DeviceConfig) : List Byte := config.field 401 257
def meshGroupId (config : DeviceConfig) : List Byte := config.field 658 6

def withCrc (config : DeviceConfig) : DeviceConfig := config.sealAt 664

def Valid (config : DeviceConfig) : Prop := config.IntactAt 664

instance (config : DeviceConfig) : Decidable config.Valid :=
  inferInstanceAs (Decidable (config.IntactAt 664))

theorem valid_withCrc (config : DeviceConfig) : config.withCrc.Valid :=
  config.intactAt_sealAt (by decide)

/-- What `device_config_init` writes over settings that are not intact. -/
def blank : DeviceConfig := withCrc (.zero 668)

end DeviceConfig

def getDevice : Nat := 0
def setDevice : Nat := 1

/-- `device_config_init`: how many bytes were read is not looked at. -/
def deviceConfigInit (config : DeviceConfig) : FileProg (Int × DeviceConfig) := do
  if ← openCreate then
    if ← lseek 0 then
      let config : DeviceConfig := config.load (← read 668)
      if config.Valid then
        close
        return (0, config)
      else
        let config := DeviceConfig.blank
        if ← lseek 0 then
          if (← write config.bytes) ≠ 668 then
            close
            return (-1, config)
          else
            close
            return (0, config)
        else
          close
          return (-1, config)
    else
      close
      return (-1, config)
  else
    close
    return (-1, config)

/-- `device_config_get_set`. -/
def deviceConfigGetSet (config : DeviceConfig) (cmd : Nat) : FileProg (Int × DeviceConfig) := do
  if ← openCreate then
    if ← lseek 0 then
      if cmd = getDevice then
        let got ← read 668
        let config : DeviceConfig := config.load got
        if got.length ≠ 668 then
          close
          return (-1, config)
        else
          close
          return (if config.Valid then 0 else -1, config)
      else if cmd = setDevice then
        let config := config.withCrc
        if (← write config.bytes) ≠ 668 then
          close
          return (-1, config)
        else
          close
          return (0, config)
      else
        close
        return (-1, config)
    else
      close
      return (-1, config)
  else
    close
    return (-1, config)

/-- The file starts with these settings, intact. -/
structure Keeps (bytes : List Byte) (config : DeviceConfig) : Prop where
  whole : 668 ≤ bytes.length
  stored : Image.stored 668 bytes 0 = config
  valid : config.Valid

section Outcomes

variable {file : FileState} {config : DeviceConfig}

theorem keeps_written (bytes : List Byte) (valid : config.Valid) :
    Keeps (splice bytes 0 config.bytes) config :=
  ⟨by simp, Image.stored_splice config bytes 0, valid⟩

theorem Keeps.read (keeps : Keeps file.bytes config) :
    (file.bytes.drop 0).take 668 = config.bytes := by
  rw [← window_inside (by rw [Nat.zero_add]; exact keeps.whole), ← keeps.stored]
  rfl

/-- Opening, seeking or transferring fails. -/
def Stopped (faults : List Bool) : Prop :=
  faults.getD 0 false = true ∨ faults.getD 1 false = true ∨ faults.getD 2 false = true

instance (faults : List Bool) : Decidable (Stopped faults) := inferInstanceAs (Decidable (_ ∨ _))

/-- `SET_DEVICE` writes the settings when its first three calls are carried out, and then
reports success. -/
theorem yields_set (file : FileState) (config : DeviceConfig) (faults : List Bool) :
    Yields (deviceConfigGetSet config setDevice) file faults fun result bytes =>
      (Stopped faults → result.1 = -1 ∧ bytes = file.bytes) ∧
        (¬ Stopped faults → result = (0, config.withCrc) ∧
          bytes = splice file.bytes 0 config.withCrc.bytes) := by
  unfold deviceConfigGetSet Stopped
  refine .openCreate fun first same _ => ?_
  cases opens : faults.getD 0 false with
  | true => exact .closing (by simp [same])
  | false =>
    refine .lseek (by decide) fun second moved start => ?_
    simp only [FileState.getD_tail, grow_zero, ite_self, same, Nat.zero_add] at moved start ⊢
    cases seeks : faults.getD 1 false with
    | true => exact .closing (by simp [moved])
    | false =>
      refine .write fun third stored => ?_
      simp only [FileState.getD_tail, moved, start seeks, Nat.zero_add, Nat.reduceAdd] at stored ⊢
      cases writes : faults.getD 2 false with
      | true =>
        rw [writes, if_pos rfl] at stored
        exact .closing (by simp [stored])
      | false =>
        rw [writes, if_neg Bool.false_ne_true] at stored
        simp only [Bool.false_eq_true, if_false, Image.length_bytes, ne_eq, not_true]
        exact .closing (by simp [stored])

/-- `GET_DEVICE` finds intact settings when its first three calls are carried out, and
changes no byte. -/
theorem yields_get (keeps : Keeps file.bytes config) (ram : DeviceConfig) (faults : List Bool) :
    Yields (deviceConfigGetSet ram getDevice) file faults fun result bytes =>
      bytes = file.bytes ∧ (Stopped faults → result.1 = -1) ∧
        (¬ Stopped faults → result = (0, config)) := by
  unfold deviceConfigGetSet Stopped
  refine .openCreate fun first same _ => ?_
  cases opens : faults.getD 0 false with
  | true => exact .closing (by simp [same])
  | false =>
    refine .lseek (by decide) fun second moved start => ?_
    simp only [FileState.getD_tail, grow_zero, ite_self, same, Nat.zero_add] at moved start ⊢
    cases seeks : faults.getD 1 false with
    | true => exact .closing (by simp [moved])
    | false =>
      refine .read fun third kept => ?_
      rw [moved] at kept
      simp only [FileState.getD_tail, moved, start seeks, Nat.reduceAdd, keeps.read]
      cases reads : faults.getD 2 false with
      | true => exact .closing (by simp [kept])
      | false =>
        have loaded : ram.load config.bytes = config := Image.ext (ram.load_all config.size)
        simp only [Bool.false_eq_true, if_false, Image.length_bytes, ne_eq, not_true, loaded,
          keeps.valid, if_true]
        exact .closing (by simp [kept])

/-- The outcomes that make `device_config_init` replace the settings although they may be
intact: the read fails, and what the struct held before is not intact. -/
def Replaces (ram : DeviceConfig) (faults : List Bool) : Prop :=
  faults.getD 0 false = false ∧ faults.getD 1 false = false ∧ faults.getD 2 false = true ∧
    ¬ ram.Valid ∧
    faults.getD 3 false = false ∧ faults.getD 4 false = false

instance (ram : DeviceConfig) (faults : List Bool) : Decidable (Replaces ram faults) :=
  inferInstanceAs (Decidable (_ ∧ _))

theorem yields_init (file : FileState) (ram : DeviceConfig) (faults : List Bool) :
    Yields (deviceConfigInit ram) file faults fun _ bytes =>
      (Replaces ram faults → bytes = splice file.bytes 0 DeviceConfig.blank.bytes) ∧
        (¬ Replaces ram faults → ∀ config, Keeps file.bytes config → bytes = file.bytes) := by
  unfold deviceConfigInit Replaces
  refine .openCreate fun first same _ => ?_
  cases opens : faults.getD 0 false with
  | true => exact .closing (by simp [same])
  | false =>
    refine .lseek (by decide) fun second moved start => ?_
    simp only [FileState.getD_tail, grow_zero, ite_self, same, Nat.zero_add] at moved start ⊢
    cases seeks : faults.getD 1 false with
    | true => exact .closing (by simp [moved])
    | false =>
      refine .read fun third kept => ?_
      rw [moved] at kept
      simp only [FileState.getD_tail, moved, start seeks, Nat.reduceAdd]
      cases reads : faults.getD 2 false with
      | false =>
        by_cases intact : ∃ config, Keeps file.bytes config
        · obtain ⟨config, keeps⟩ := intact
          have loaded : ram.load config.bytes = config := Image.ext (ram.load_all config.size)
          simp only [keeps.read, Bool.false_eq_true, if_false, loaded, keeps.valid, if_true]
          exact .closing (by simp [kept])
        · simp [Yields, not_exists.mp intact]
      | true =>
        have loaded : ram.load [] = ram := Image.put_nil ram 0
        simp only [if_true, loaded]
        by_cases trusted : ram.Valid
        · simp only [trusted, if_true]
          exact .closing (by simp [kept])
        · simp only [trusted, if_false]
          refine .lseek (by decide) fun fourth back again => ?_
          simp only [FileState.getD_tail, grow_zero, ite_self, kept, Nat.reduceAdd] at back again ⊢
          cases seeks : faults.getD 3 false with
          | true => exact .closing (by simp [back])
          | false =>
            refine .write fun fifth stored => ?_
            simp only [FileState.getD_tail, back, again seeks, Nat.reduceAdd] at stored ⊢
            cases writes : faults.getD 4 false with
            | true =>
              rw [writes, if_pos rfl] at stored
              exact .closing (by simp [stored])
            | false =>
              rw [writes, if_neg Bool.false_ne_true] at stored
              simp only [Bool.false_eq_true, if_false, Image.length_bytes, ne_eq, not_true]
              exact .closing (by simp [stored])

/-- On intact settings `device_config_init` leaves none behind when it does not replace them or
its close is carried out. -/
theorem commits_init (keeps : Keeps file.bytes config) (ram : DeviceConfig) (faults : List Bool) :
    commits false (deviceConfigInit ram) file faults = true ↔
      ¬ Replaces ram faults ∨ faults.getD 5 false = false := by
  unfold deviceConfigInit Replaces
  rw [commits_openCreate]
  cases opens : faults.getD 0 false with
  | true => simp [commits_closing]
  | false =>
    simp only [Bool.false_eq_true, if_false, if_true, true_and]
    rw [commits_lseek _ _ _ (by decide), FileState.getD_tail]
    cases seeks : faults.getD 1 false with
    | true => simp [commits_closing]
    | false =>
      simp only [Bool.false_eq_true, if_false, if_true, true_and]
      rw [commits_read, FileState.getD_tail, FileState.getD_tail]
      cases reads : faults.getD 2 false with
      | false =>
        -- the settings are intact, and nothing is written
        have loaded : ram.load config.bytes = config := Image.ext (ram.load_all config.size)
        have got : ((FileProg.read 668).run
            ⟨some (grow (FileState.bytes { file with content := some file.bytes, pos := 0 }) 0), 0,
              file.full⟩).1 = config.bytes := by
          rw [run_read, grow_zero]
          exact keeps.read
        rw [if_neg Bool.false_ne_true, got]
        simp [loaded, keeps.valid, commits_closing]
      | true =>
        have unread : ram.load [] = ram := Image.put_nil ram 0
        rw [if_pos rfl]
        dsimp only
        rw [unread]
        by_cases valid : ram.Valid
        · simp [valid, commits_closing]
        · rw [if_neg valid, commits_lseek _ _ _ (by decide), FileState.getD_tail,
            FileState.getD_tail, FileState.getD_tail]
          cases again : faults.getD 3 false with
          | true => simp [commits_closing]
          | false =>
            rw [if_neg Bool.false_ne_true, if_pos rfl, commits_write]
            simp only [FileState.getD_tail]
            cases writes : faults.getD 4 false with
            | true => simp [commits_closing]
            | false => simp [valid, commits_closing]

end Outcomes

end WifiAccess

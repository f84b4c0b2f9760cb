import WifiAccess.Touch.Screen
import WifiAccess.Base.Run

/-! Which commands the samples of a panel are read by, when both panels are calibrated. -/

namespace WifiAccess

open FileProg

/-- The touch type of a panel in the file. -/
def storedType (bytes : List Byte) (panel : Panel) : Byte := bytes.getD (panel.start + 12) 0#8

/-- The file holds both calibrations, both are loaded, and `last` is in use. -/
structure Touch.Calibrated (touch : Touch) (bytes : List Byte) (last : Panel) : Prop where
  file : touch.file = some bytes
  inside : 28 ≤ bytes.length
  marked : ∀ panel : Panel, bytes.getD (panel.start + 13) 0#8 = 0x0A#8
  loaded : ∀ panel, (touch.dev panel).touchtype = storedType bytes panel
  commands : (touch.cmdRdx, touch.cmdRdy) = axisCommands (storedType bytes last)

/-- The commands are those of the panel's own touch type. -/
def Sample.Own (bytes : List Byte) (sample : Sample) : Prop :=
  (sample.rdx, sample.rdy) = axisCommands (storedType bytes sample.panel)

/-- Both panels have their axes in the same order. -/
def SameAxes (bytes : List Byte) (first second : Panel) : Prop :=
  storedType bytes first = 0#8 ↔ storedType bytes second = 0#8

/-- The panel whose calibration is in use behind a call. -/
def TouchCall.lastLoaded (last : Panel) : TouchCall → Panel
  | init found0 found1 => if found0 ∧ found1 then .lcd1 else last
  | getAdjdata panel => panel
  | scan .. => last

/-- The calibration in use has the order of the panel that is read. -/
def TouchCall.Ordered (bytes : List Byte) (last : Panel) : TouchCall → Prop
  | init found0 found1 => found0 ∧ found1 → SameAxes bytes last .lcd0 ∧ SameAxes bytes .lcd0 .lcd1
  | getAdjdata _ => True
  | scan panel _ irq => irq = false → SameAxes bytes last panel

theorem axisCommands_iff {bytes : List Byte} {first second : Panel} :
    axisCommands (storedType bytes first) = axisCommands (storedType bytes second) ↔
      SameAxes bytes first second := by
  unfold axisCommands SameAxes
  by_cases left : storedType bytes first = 0#8 <;> by_cases right : storedType bytes second =
    0#8 <;> simp [left, right]

namespace Touch

section Calls

variable {env : TouchEnv} {touch : Touch} {bytes : List Byte} {last : Panel}

theorem own_iff (calibrated : touch.Calibrated bytes last) (panel : Panel) :
    Sample.Own bytes ⟨panel, touch.cmdRdx, touch.cmdRdy⟩ ↔ SameAxes bytes last panel := by
  rw [Sample.Own, calibrated.commands, axisCommands_iff]

@[simp] theorem dev_setDev (dev : TpDev) (panel other : Panel) :
    (touch.setDev dev panel).dev other = if other = panel then dev else touch.dev other := by
  cases panel <;> cases other <;> rfl

/-- Neither a sample nor the coordinates of a device matter to the calibration. -/
theorem Calibrated.setDev (calibrated : touch.Calibrated bytes last) {dev : TpDev} {panel : Panel}
    (same : dev.touchtype = (touch.dev panel).touchtype) : (touch.setDev dev panel).Calibrated
      bytes last := by
  refine ⟨?_, calibrated.inside, calibrated.marked, fun other => ?_, ?_⟩
  · cases panel <;> exact calibrated.file
  · rw [dev_setDev]
    split
    · rename_i own
      rw [own, same]
      exact calibrated.loaded panel
    · exact calibrated.loaded other
  · cases panel <;> exact calibrated.commands

theorem Calibrated.tpReadXy (calibrated : touch.Calibrated bytes last) (panel : Panel) :
    (touch.tpReadXy env panel).2.samples = touch.samples ++ [⟨panel, touch.cmdRdx, touch.cmdRdy⟩] ∧
      (touch.tpReadXy env panel).2.Calibrated bytes last := by
  refine ⟨rfl, calibrated.file, calibrated.inside, calibrated.marked, fun other => ?_,
    calibrated.commands⟩
  rw [← calibrated.loaded other]
  cases other <;> rfl

theorem readAdjdata_exec {start : Nat} (inside : start + 14 ≤ bytes.length) (small : start < 2 ^ 31)
    (marked : bytes.getD (start + 13) 0#8 = 0x0A#8) :
    (readAdjdata start).exec (some bytes) = (some (window bytes start 14), some bytes) := by
  have mark : (window bytes start 14).getD 13 0#8 = 0x0A#8 := by
    rw [getD_window, if_pos (by decide)]
    exact marked
  simpa [readAdjdata, exec, FileState.fresh, FileState.bytes, run_lseek small,
    grow_within (show start ≤ bytes.length by omega), run_read_inside inside] using mark

/-- Loading the calibration of a panel puts it in use. -/
theorem Calibrated.tpGetAdjdata (calibrated : touch.Calibrated bytes last) (panel : Panel) :
    (touch.tpGetAdjdata panel).1 = true ∧ (touch.tpGetAdjdata panel).2.samples = touch.samples ∧
      (touch.tpGetAdjdata panel).2.Calibrated bytes panel := by
  have first : panel.start ≤ 14 := by cases panel <;> decide
  have inside := calibrated.inside
  have ran :=
    readAdjdata_exec (show panel.start + 14 ≤ bytes.length by omega) (by omega)
      (calibrated.marked panel)
  have own : (Image.ofBytes 13 (window bytes panel.start 14)).byte 12 = storedType bytes panel := by
    rw [Image.byte, Image.bytes_ofBytes, getD_window, if_pos (by decide),
      getD_window, if_pos (by decide), storedType]
  have result : touch.tpGetAdjdata panel =
      (true, { touch.setDev
        { touch.dev panel with adj := .ofBytes 13 (window bytes panel.start 14) } panel with
        cmdRdx := (axisCommands (storedType bytes panel)).1
        cmdRdy := (axisCommands (storedType bytes panel)).2
        file := some bytes }) := by
    rw [Touch.tpGetAdjdata, calibrated.file, ran, ← own]
  rw [result]
  refine ⟨rfl, ?_, rfl, inside, calibrated.marked, fun other => ?_, rfl⟩
  · cases panel <;> rfl
  · have same :=
      @dev_setDev touch { touch.dev panel with adj := .ofBytes 13 (window bytes panel.start 14) }
        panel other
    have kept : Touch.dev
        { touch.setDev { touch.dev panel with adj := .ofBytes 13 (window bytes panel.start 14) }
            panel with
        cmdRdx := (axisCommands (storedType bytes panel)).1
        cmdRdy := (axisCommands (storedType bytes panel)).2
        file := some bytes } other =
      (touch.setDev { touch.dev panel with adj := .ofBytes 13 (window bytes panel.start 14) }
        panel).dev other := by
      cases other <;> rfl
    rw [kept, same]
    split
    · rename_i equal
      rw [equal]
      exact own
    · exact calibrated.loaded other

theorem Calibrated.tpInitPanel (calibrated : touch.Calibrated bytes last) (panel : Panel) :
    (touch.tpInitPanel env panel).samples = touch.samples ++ [⟨panel, touch.cmdRdx, touch.cmdRdy⟩] ∧
      (touch.tpInitPanel env panel).Calibrated bytes panel := by
  obtain ⟨sampled, kept⟩ := @Calibrated.tpReadXy env _ _ _ calibrated panel
  have stored := kept.setDev (show { (touch.tpReadXy env panel).2.dev panel with
    x0 := (touch.tpReadXy env panel).1.1, y0 := (touch.tpReadXy env panel).1.2 }.touchtype =
      _ from rfl)
  obtain ⟨adjusted, unread, first⟩ := stored.tpGetAdjdata panel
  obtain ⟨-, again, second⟩ := first.tpGetAdjdata panel
  rw [Touch.tpInitPanel]
  dsimp only
  rw [if_pos adjusted]
  refine ⟨again.trans (unread.trans (Eq.trans ?_ sampled)), second⟩
  cases panel <;> rfl

theorem Calibrated.tpReadXy2 (calibrated : touch.Calibrated bytes last) (panel : Panel) :
    ∃ second : Sample,
    (touch.tpReadXy2 env panel).2.samples = touch.samples ++
      [⟨panel, touch.cmdRdx, touch.cmdRdy⟩, second] ∧
      (second.Own bytes ↔ SameAxes bytes last panel) ∧
        (touch.tpReadXy2 env panel).2.Calibrated bytes last := by
  obtain ⟨sampled, kept⟩ := @Calibrated.tpReadXy env _ _ _ calibrated panel
  obtain ⟨again, later⟩ := @Calibrated.tpReadXy env _ _ _ kept panel
  have twice : (touch.tpReadXy2 env panel).2 =
      ((touch.tpReadXy env panel).2.tpReadXy env panel).2 := rfl
  refine ⟨⟨panel, (touch.tpReadXy env panel).2.cmdRdx, (touch.tpReadXy env panel).2.cmdRdy⟩, ?_,
    own_iff kept panel, ?_⟩
  · rw [twice, again, sampled, List.append_assoc]
    rfl
  · rw [twice]
    exact later

theorem touchtype_pressed (dev : TpDev) (tp : Bool) (taken : Option (Nat × Nat)) :
    (pressed (located env dev tp taken)).touchtype = dev.touchtype := by
  have same : (located env dev tp taken).touchtype = dev.touchtype := by cases taken <;> rfl
  rw [← same, pressed]
  split <;> rfl

theorem touchtype_released (dev : TpDev) : (released dev).touchtype = dev.touchtype := by
  unfold released
  split <;> rfl

theorem samples_setDev (dev : TpDev) (panel : Panel) :
    (touch.setDev dev panel).samples = touch.samples := by
  cases panel <;> rfl

/-- The samples that a call takes, and the calibration that it leaves in use. -/
theorem Calibrated.init (calibrated : touch.Calibrated bytes last) (found0 found1 : Bool) : ∃ taken,
    (touch.call env (.init found0 found1)).samples = touch.samples ++ taken ∧
      (touch.call env (.init found0 found1)).Calibrated bytes
        ((TouchCall.init found0 found1).lastLoaded last) ∧
      ((∀ sample ∈ taken, sample.Own bytes) ↔
        (TouchCall.init found0 found1).Ordered bytes last) := by
  cases found0 with
  | false => exact ⟨[], (List.append_nil _).symm, calibrated, by simp [TouchCall.Ordered]⟩
  | true =>
    cases found1 with
    | false => exact ⟨[], (List.append_nil _).symm, calibrated, by simp [TouchCall.Ordered]⟩
    | true =>
      obtain ⟨sampled0, calibrated0⟩ := @Calibrated.tpInitPanel env _ _ _ calibrated .lcd0
      obtain ⟨sampled1, calibrated1⟩ := @Calibrated.tpInitPanel env _ _ _ calibrated0 .lcd1
      have own0 := own_iff calibrated .lcd0
      have own1 := own_iff calibrated0 .lcd1
      have both : touch.call env (.init true true) = (touch.tpInitPanel env .lcd0).tpInitPanel
          env .lcd1 := by
        simp only [Touch.call, tpInit, Bool.true_eq_false, ↓reduceIte]
      rw [both]
      refine ⟨[⟨.lcd0, touch.cmdRdx, touch.cmdRdy⟩,
        ⟨.lcd1, (touch.tpInitPanel env .lcd0).cmdRdx, (touch.tpInitPanel env .lcd0).cmdRdy⟩], ?_,
          calibrated1, ?_⟩
      · rw [sampled0, List.append_assoc] at sampled1
        exact sampled1
      · rw [TouchCall.Ordered, ← own0, ← own1]
        simp

theorem Calibrated.scan (calibrated : touch.Calibrated bytes last) (panel : Panel) (tp irq : Bool) :
    ∃ taken,
    (touch.call env (.scan panel tp irq)).samples = touch.samples ++ taken ∧
      (touch.call env (.scan panel tp irq)).Calibrated bytes last ∧
      ((∀ sample ∈ taken, sample.Own bytes) ↔
        (TouchCall.scan panel tp irq).Ordered bytes last) := by
  cases irq with
  | true =>
    refine ⟨[], ?_, calibrated.setDev (touchtype_released _), by simp [TouchCall.Ordered]⟩
    rw [List.append_nil]
    exact samples_setDev ..
  | false =>
    obtain ⟨second, sampled, same, kept⟩ := @Calibrated.tpReadXy2 env _ _ _ calibrated panel
    have own := own_iff calibrated panel
    refine ⟨[⟨panel, touch.cmdRdx, touch.cmdRdy⟩, second], ?_,
      kept.setDev (touchtype_pressed ..), ?_⟩
    · exact (samples_setDev ..).trans sampled
    · simp [TouchCall.Ordered, own, same]

theorem Calibrated.call (calibrated : touch.Calibrated bytes last) (called : TouchCall) : ∃ taken,
    (touch.call env called).samples = touch.samples ++ taken ∧
      (touch.call env called).Calibrated bytes (called.lastLoaded last) ∧
      ((∀ sample ∈ taken, sample.Own bytes) ↔ called.Ordered bytes last) := by
  cases called with
  | init found0 found1 => exact calibrated.init found0 found1
  | getAdjdata panel =>
    obtain ⟨-, same, kept⟩ := calibrated.tpGetAdjdata panel
    exact ⟨[], same.trans (List.append_nil _).symm, kept, by simp [TouchCall.Ordered]⟩
  | scan panel tp irq => exact calibrated.scan panel tp irq

/-- The samples of a run of calls. -/
theorem Calibrated.run (calibrated : touch.Calibrated bytes last) (calls : List TouchCall) :
    ∃ taken,
    (calls.foldl (Touch.call env) touch).samples = touch.samples ++ taken ∧
      ((∀ sample ∈ taken, sample.Own bytes) ↔
        MovesMeet (fun last called => some (TouchCall.lastLoaded last called))
          (TouchCall.Ordered bytes) last calls) := by
  induction calls generalizing touch last with
  | nil => exact ⟨[], (List.append_nil _).symm, by simp [MovesMeet]⟩
  | cons called rest ih =>
    obtain ⟨taken, sampled, kept, own⟩ := @Calibrated.call env _ _ _ calibrated called
    obtain ⟨more, later, meets⟩ := ih kept
    refine ⟨taken ++ more,
      later.trans ((congrArg (· ++ more) sampled).trans (List.append_assoc ..)), ?_⟩
    rw [MovesMeet, List.forall_mem_append, own, meets]

end Calls

end Touch

/-- Once both panels are calibrated, all samples of a run of calls are read by the commands
of their own panel exactly when no call reads a panel while the calibration that was
loaded last has its axes in another order. -/
theorem touch_axes_iff (env : TouchEnv) {touch : Touch} {bytes : List Byte} {last : Panel}
    (calibrated : touch.Calibrated bytes last) (fresh : touch.samples = [])
      (calls : List TouchCall) :
    (∀ sample ∈ (calls.foldl (Touch.call env) touch).samples, sample.Own bytes) ↔
      MovesMeet (fun last called => some (TouchCall.lastLoaded last called))
        (TouchCall.Ordered bytes) last calls := by
  obtain ⟨taken, sampled, own⟩ := @Touch.Calibrated.run env _ _ _ calibrated calls
  rw [sampled, fresh, List.nil_append]
  exact own

/-- Any two calibrations can be loaded, either one last. -/
theorem Touch.exists_calibrated {bytes : List Byte} (inside : 28 ≤ bytes.length)
    (marked : ∀ panel : Panel, bytes.getD (panel.start + 13) 0#8 = 0x0A#8) (last : Panel) :
    ∃ touch : Touch, touch.Calibrated bytes last ∧ touch.samples = [] := by
  refine ⟨⟨(axisCommands (storedType bytes last)).1, (axisCommands (storedType bytes last)).2,
    ⟨0, 0, 0, 0, 0#8, .ofBytes 13 (window bytes 0 14)⟩,
      ⟨0, 0, 0, 0, 0#8, .ofBytes 13 (window bytes 14 14)⟩,
    some bytes, 0, []⟩, ⟨rfl, inside, marked, ?_, rfl⟩, rfl⟩
  rintro (_ | _) <;>
  · rw [Touch.dev, TpDev.touchtype, Image.byte, Image.bytes_ofBytes, getD_window,
      if_pos (by decide), getD_window,
      if_pos (by decide)]
    rfl

/-- A file with a calibration of each touch type. -/
def bothTypes : List Byte :=
  List.replicate 13 0#8 ++ [0x0A#8] ++ List.replicate 12 0#8 ++ [0x01#8, 0x0A#8]

def someEnv : TouchEnv := ⟨fun _ _ _ => 0#16, fun _ point => point, fun _ touch => touch⟩

theorem bothTypes_marked : ∀ panel : Panel, bothTypes.getD (panel.start + 13) 0#8 = 0x0A#8 := by
  rintro (_ | _) <;> decide

/-- The panel that was loaded last is scanned, the other one is loaded and scanned, and the first
one is asked for while it is not touched. -/
theorem touch_axes_iff_last : ∃ touch : Touch, touch.Calibrated bothTypes .lcd1 ∧
    ∀ sample ∈ ([TouchCall.scan .lcd1 false false, .getAdjdata .lcd0, .scan .lcd0 true false,
      .scan .lcd1 true true].foldl
      (Touch.call someEnv) touch).samples, sample.Own bothTypes := by
  obtain ⟨touch, calibrated, fresh⟩ := Touch.exists_calibrated (by decide) bothTypes_marked .lcd1
  refine ⟨touch, calibrated, (touch_axes_iff someEnv calibrated fresh _).mpr ?_⟩
  exact ⟨fun _ => Iff.rfl, trivial, fun _ => Iff.rfl, fun touched =>
    absurd touched.symm Bool.false_ne_true, trivial⟩

/-- The other panel is scanned. -/
theorem touch_axes_foreign :
    ¬ ∀ (env : TouchEnv) (touch : Touch) (bytes : List Byte) (last : Panel),
    touch.Calibrated bytes last → touch.samples = [] → ∀ calls : List TouchCall,
    ∀ sample ∈ (calls.foldl (Touch.call env) touch).samples, sample.Own bytes := by
  intro own
  obtain ⟨touch, calibrated, fresh⟩ := Touch.exists_calibrated (by decide) bothTypes_marked .lcd1
  obtain ⟨taken, sampled, met⟩ :=
    @Touch.Calibrated.run someEnv _ _ _ calibrated [.scan .lcd0 false false]
  have all := own someEnv touch bothTypes .lcd1 calibrated fresh [.scan .lcd0 false false]
  rw [sampled, fresh, List.nil_append] at all
  have same := (met.mp all).1 rfl
  revert same
  unfold SameAxes
  decide

end WifiAccess

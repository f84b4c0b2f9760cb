import WifiAccess.Base.Faults

/-! Calls on a file one outcome at a time, and a power failure: to the bytes it is as if
every later call had failed. -/

namespace WifiAccess.FileProg

variable {α : Type}

/-- The outcomes of the first calls, with every later one a failure. -/
def untilOutage (count more : Nat) (faults : List Bool) : List Bool :=
  (List.range count).map (faults.getD · false) ++ List.replicate more true

theorem untilOutage_zero (more : Nat) (faults : List Bool) :
    untilOutage 0 more faults = List.replicate more true := by
  rw [untilOutage, List.range_zero, List.map_nil, List.nil_append]

theorem untilOutage_succ (count more : Nat) (faults : List Bool) :
    untilOutage (count + 1) more faults = faults.getD 0 false ::
      untilOutage count more faults.tail := by
  unfold untilOutage
  rw [List.range_succ_eq_map, List.map_cons, List.map_map, List.cons_append]
  simp only [FileState.getD_tail]
  rfl

theorem untilOutage_getD (count more : Nat) (faults : List Bool) {i : Nat}
    (within : i < count + more) :
    (untilOutage count more faults).getD i false = (faults.getD i false || decide (count ≤ i)) := by
  induction count generalizing faults i with
  | zero =>
    have inside : i < more := by omega
    simp [untilOutage_zero, List.getD_eq_getElem?_getD, inside]
  | succ count ih =>
    rw [untilOutage_succ]
    cases i with
    | zero => simp
    | succ i => simp only [List.getD_cons_succ, ih faults.tail (by omega : i < count + more),
      FileState.getD_tail,
        Nat.add_le_add_iff_right]

theorem attempt_call (op : FileOp) (next : op.Res → FileProg α) (file : FileState)
    (faults : List Bool) :
    attempt (.call op next) file faults =
      if faults.getD 0 false then attempt (next op.failed) { file with full := false } faults.tail
      else attempt (next (FileState.handle op file).1) (FileState.handle op file).2
        faults.tail := by
  have outcome := FileState.attempt_eq op file faults
  unfold attempt
  rw [Prog.run, outcome]
  split <;> rfl

/-! ## One call, and what follows it -/

/-- With these outcomes of the calls, `Post` is true of the result and the bytes left behind. -/
def Yields (prog : FileProg α) (file : FileState) (faults : List Bool)
    (Post : α → List Byte → Prop) : Prop :=
  Post (prog.attempt file faults).1 (prog.attempt file faults).2.1.bytes

namespace Yields

variable {file : FileState} {faults : List Bool} {Post : α → List Byte → Prop}

theorem ret {value : α} (post : Post value file.bytes) :
    Yields (pure value) file faults Post := post

theorem openCreate {next : Bool → FileProg α}
    (later : ∀ middle, middle.bytes = file.bytes → (faults.getD 0 false = false → middle.pos = 0) →
      Yields (next (!faults.getD 0 false)) middle faults.tail Post) :
    Yields (openCreate >>= next) file faults Post := by
  rw [Yields, attempt_bind, openCreate_outcome]
  cases fails : faults.getD 0 false with
  | true =>
    rw [fails] at later
    exact later { file with full := false } rfl fun carried => by cases carried
  | false =>
    rw [fails] at later
    exact later { file with content := some file.bytes, pos := 0 } rfl fun _ => rfl

theorem lseek {offset : Nat} {next : Bool → FileProg α} (small : offset < 2 ^ 31)
    (later : ∀ middle, middle.bytes =
      (if faults.getD 0 false then file.bytes else grow file.bytes offset) →
      (faults.getD 0 false = false → middle.pos = offset) →
      Yields (next (!faults.getD 0 false)) middle faults.tail Post) :
    Yields (lseek offset >>= next) file faults Post := by
  rw [Yields, attempt_bind, lseek_outcome file faults small]
  cases fails : faults.getD 0 false with
  | true =>
    rw [fails] at later
    exact later { file with full := false } rfl fun carried => by cases carried
  | false =>
    rw [fails] at later
    exact later { file with content := some (grow file.bytes offset), pos := offset } rfl fun _ =>
      rfl

theorem read {len : Nat} {next : List Byte → FileProg α}
    (later : ∀ middle, middle.bytes = file.bytes →
      Yields (next (if faults.getD 0 false then [] else (file.bytes.drop file.pos).take len)) middle
      faults.tail Post) :
    Yields (read len >>= next) file faults Post := by
  rw [Yields, attempt_bind, read_outcome]
  cases fails : faults.getD 0 false with
  | true =>
    rw [fails] at later
    exact later { file with full := false } rfl
  | false =>
    rw [fails] at later
    exact later ((FileProg.read len).run file).2 rfl

theorem write {bytes : List Byte} {next : Nat → FileProg α}
    (later : ∀ middle, middle.bytes =
      (if faults.getD 0 false then file.bytes else splice file.bytes file.pos bytes) →
      Yields (next (if faults.getD 0 false then 0 else bytes.length)) middle faults.tail Post) :
    Yields (write bytes >>= next) file faults Post := by
  rw [Yields, attempt_bind, write_outcome]
  cases fails : faults.getD 0 false with
  | true =>
    rw [fails] at later
    exact later { file with full := false } rfl
  | false =>
    rw [fails] at later
    exact later { file with content := some (splice file.bytes file.pos bytes), pos :=
      file.pos + bytes.length } rfl

theorem close {next : Unit → FileProg α}
    (later : ∀ middle, middle.bytes = file.bytes → Yields (next ()) middle faults.tail Post) :
    Yields (close >>= next) file faults Post := by
  rw [Yields, attempt_bind, close_outcome]
  cases faults.getD 0 false with
  | true => exact later { file with full := false } rfl
  | false => exact later file rfl

/-- `close`, and the result. -/
theorem closing {value : α} (post : Post value file.bytes) :
    Yields (do FileProg.close; return value) file faults Post :=
  close fun _ same => ret (same.symm ▸ post)

end Yields

/-! ## The power -/

/-- Calls that all fail leave the bytes alone. -/
theorem attempt_failing (prog : FileProg α) (file : FileState) :
    ∃ least, ∀ more ≥ least, (prog.attempt file (List.replicate more true)).2.1.bytes =
      file.bytes := by
  induction prog generalizing file with
  | ret value => exact ⟨0, fun _ _ => rfl⟩
  | call op next ih =>
    obtain ⟨least, failing⟩ := ih op.failed { file with full := false }
    refine ⟨least + 1, fun more enough => ?_⟩
    obtain ⟨more, rfl⟩ := Nat.exists_eq_add_of_le' (Nat.le_of_add_left_le enough : 1 ≤ more)
    rw [List.replicate_succ, attempt_call, List.getD_cons_zero, if_pos rfl, List.tail_cons]
    exact failing more (by omega)

theorem cut_bytes (prog : FileProg α) (file : FileState) (faults : List Bool) (count : Nat) :
    ∃ least, ∀ more ≥ least, (prog.cut FileState.attempt count (file, faults)).1.bytes =
      (prog.attempt file (untilOutage count more faults)).2.1.bytes := by
  induction count generalizing prog file faults with
  | zero =>
    obtain ⟨least, failing⟩ := attempt_failing prog file
    refine ⟨least, fun more enough => ?_⟩
    rw [untilOutage_zero, failing more enough, Prog.cut]
  | succ count ih =>
    cases prog with
    | ret value => exact ⟨0, fun _ _ => rfl⟩
    | call op next =>
      rw [Prog.cut, FileState.attempt_eq op file faults]
      by_cases fails : faults.getD 0 false = true
      · rw [if_pos fails]
        obtain ⟨least, same⟩ := ih (next op.failed) { file with full := false } faults.tail
        refine ⟨least, fun more enough => ?_⟩
        rw [untilOutage_succ, attempt_call, List.getD_cons_zero, if_pos fails, List.tail_cons]
        exact same more enough
      · rw [if_neg fails]
        obtain ⟨least, same⟩ :=
          ih (next (FileState.handle op file).1) (FileState.handle op file).2 faults.tail
        refine ⟨least, fun more enough => ?_⟩
        rw [untilOutage_succ, attempt_call, List.getD_cons_zero, if_neg fails, List.tail_cons]
        exact same more enough

/-! ## What a descriptor keeps back -/

/-- Whether bytes wait for a close behind a call. -/
def waiting (fails : Bool) : FileOp → Bool → Bool
  | .write _, before => before || !fails
  | .close, before => before && fails
  | _, before => before

/-- Every write that is carried out is followed by a close that is. FatFs keeps some of the
bytes back until then, and a failure in between loses them. -/
def commits (before : Bool) : FileProg α → FileState → List Bool → Bool
  | .ret _, _, _ => !before
  | .call op next, file, faults =>
    let made := FileState.attempt op (file, faults)
    commits (waiting (faults.getD 0 false) op before) (next made.1) made.2.1 made.2.2

section Commits

variable {β : Type} (before : Bool) (file : FileState) (faults : List Bool)

theorem commits_call (op : FileOp) (next : op.Res → FileProg β) :
    commits before (.call op next) file faults =
    if faults.getD 0 false then
      commits (waiting true op before) (next op.failed) { file with full := false } faults.tail
    else commits (waiting false op before) (next (FileState.handle op file).1)
      (FileState.handle op file).2 faults.tail := by
  rw [commits, FileState.attempt_eq op file faults]
  split
  · rename_i fails
    rw [fails]
  · rename_i carried
    rw [Bool.eq_false_of_not_eq_true carried]

theorem commits_openCreate (next : Bool → FileProg β) :
    commits before (openCreate >>= next) file faults =
    if faults.getD 0 false then commits before (next false) { file with full := false } faults.tail
    else commits before (next true) { file with content := some file.bytes, pos := 0 }
      faults.tail :=
  commits_call before file faults .openCreate next

theorem commits_lseek {offset : Nat} (small : offset < 2 ^ 31) (next : Bool → FileProg β) :
    commits before (lseek offset >>= next) file faults =
    if faults.getD 0 false then commits before (next false) { file with full := false } faults.tail
    else commits before (next true) { file with content := some (grow file.bytes offset), pos :=
      offset } faults.tail := by
  have made := commits_call before file faults (.lseek offset) next
  have handled : FileState.handle (.lseek offset) file = _ := run_lseek small file
  rw [handled] at made
  exact made

theorem commits_read (len : Nat) (next : List Byte → FileProg β) :
    commits before (read len >>= next) file faults =
    if faults.getD 0 false then commits before (next []) { file with full := false } faults.tail
    else commits before (next ((read len).run file).1) ((read len).run file).2 faults.tail :=
  commits_call before file faults (.read len) next

theorem commits_write (bytes : List Byte) (next : Nat → FileProg β) :
    commits before (write bytes >>= next) file faults =
    if faults.getD 0 false then commits before (next 0) { file with full := false } faults.tail
    else commits true (next bytes.length)
      { file with content := some (splice file.bytes file.pos bytes), pos :=
        file.pos + bytes.length } faults.tail := by
  have made := commits_call before file faults (.write bytes) next
  rw [waiting, waiting, Bool.not_true, Bool.or_false, Bool.not_false, Bool.or_true] at made
  exact made

/-- The close, and the result. -/
theorem commits_closing (value : β) :
    commits before (do close; return value) file faults = !(before && faults.getD 0 false) := by
  have made := commits_call before file faults .close fun _ => (pure value : FileProg β)
  refine made.trans ?_
  cases faults.getD 0 false <;> simp [waiting, commits, pure]

end Commits

end WifiAccess.FileProg

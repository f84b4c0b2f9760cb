import WifiAccess.Base.File

/-! Bytes that are written into a file beside everything a program reads and writes:
before it and after it they leave the same. -/

namespace WifiAccess

theorem splice_comm (xs : List Byte) {a b : Nat} {ys zs : List Byte}
    (apart : a + ys.length ≤ b ∨ b + zs.length ≤ a) : splice (splice xs a ys) b zs =
      splice (splice xs b zs) a ys := by
  apply ext_getD
  · simp only [length_splice]
    omega
  · intro i
    rw [getD_splice, getD_splice, getD_splice, getD_splice]
    by_cases first : a ≤ i ∧ i < a + ys.length
    · rw [if_pos first, if_pos first, if_neg (by omega)]
    · rw [if_neg first, if_neg first]

theorem grow_splice (xs : List Byte) (n off : Nat) (ys : List Byte) :
    grow (splice xs off ys) n = splice (grow xs n) off ys := by
  apply ext_getD
  · simp only [length_grow, length_splice]
    omega
  · intro i
    rw [getD_grow, getD_splice, getD_splice, getD_grow]

/-- What another thread writes. -/
def FileState.patch (off : Nat) (data : List Byte) (file : FileState) : FileState :=
  { file with content := some (splice file.bytes off data) }

/-- The bytes lie inside the file. -/
structure Room (off : Nat) (data : List Byte) (file : FileState) : Prop where
  present : file.content.isSome
  inside : off + data.length ≤ file.bytes.length

namespace FileProg

variable {α β : Type} {whole : Prop} {off : Nat} {data : List Byte} {At : Nat → Prop}

/-- From the positions `At`, the program does the same with and without the bytes. Where
the size of the file matters to it, they have to lie inside. -/
def Beside (whole : Prop) (off : Nat) (data : List Byte) (At : Nat → Prop) (prog : FileProg α) :
    Prop :=
  ∀ file, At file.pos → (whole → Room off data file) →
    prog.run (file.patch off data) = ((prog.run file).1, (prog.run file).2.patch off data) ∧
      (whole → Room off data (prog.run file).2)

namespace Beside

theorem ret (value : α) : Beside whole off data At (pure value : FileProg α) :=
  fun _ _ room => ⟨rfl, room⟩

/-- What follows may rely on the value that comes from a run. -/
theorem bindRun {prog : FileProg α} {next : α → FileProg β} (first : Beside whole off data At prog)
    (second : ∀ file, Beside whole off data (fun _ => True) (next (prog.run file).1)) :
    Beside whole off data At (prog >>= next) := by
  intro file at_ room
  obtain ⟨ran, kept⟩ := first file at_ room
  obtain ⟨ran', kept'⟩ := second file (prog.run file).2 trivial kept
  rw [run_bind, run_bind, ran]
  exact ⟨ran', kept'⟩

theorem bind {prog : FileProg α} {next : α → FileProg β} (first : Beside whole off data At prog)
    (second : ∀ value, Beside whole off data (fun _ => True) (next value)) : Beside whole off data
      At (prog >>= next) :=
  first.bindRun fun file => second (prog.run file).1

theorem ite {test : Prop} [Decidable test] {yes no : FileProg α}
    (left : test → Beside whole off data At yes) (right : ¬ test → Beside whole off data At no) :
    Beside whole off data At
      (if test then yes else no) := by
  split
  · rename_i met
    exact left met
  · rename_i unmet
    exact right unmet

theorem openCreate : Beside whole off data At FileProg.openCreate :=
  fun _ _ room => ⟨rfl, fun needed => ⟨rfl, (room needed).inside⟩⟩

theorem close : Beside whole off data At FileProg.close := fun _ _ room => ⟨rfl, room⟩

theorem stat (needed : whole) : Beside whole off data At FileProg.stat := by
  intro file _ room
  obtain ⟨present, inside⟩ := room needed
  obtain ⟨bytes, pos, full⟩ := file
  cases bytes with
  | none => cases present
  | some bytes =>
    have size : (splice bytes off data).length = bytes.length := by
      have inside : off + data.length ≤ bytes.length := inside
      rw [length_splice]
      omega
    refine ⟨?_, fun needed => ⟨(room needed).present, (room needed).inside⟩⟩
    show (some (splice bytes off data).length, _) = _
    rw [size]
    rfl

/-- What follows a seek starts at its position. -/
theorem seek {offset : Nat} {next : Bool → FileProg α}
    (moved : offset < 2 ^ 31 → Beside whole off data (· = offset) (next true))
    (failed : Beside whole off data At (next false)) : Beside whole
      off data At (lseek offset >>= next) := by
  intro file at_ room
  rw [run_bind, run_bind]
  by_cases small : offset < 2 ^ 31
  · rw [run_lseek small, run_lseek small]
    have grown : { file.patch off
        data with content := some (grow (file.patch off data).bytes offset), pos := offset } =
        FileState.patch off data { file with content := some (grow file.bytes offset), pos :=
          offset } := by
      have same := grow_splice file.bytes offset off data
      simp only [FileState.patch, FileState.bytes, Option.getD_some] at same ⊢
      rw [same]
    rw [grown]
    refine moved small _ rfl fun needed => ⟨rfl, ?_⟩
    have inside := (room needed).inside
    show _ ≤ (grow file.bytes offset).length
    rw [length_grow]
    omega
  · rw [run_lseek_negative small, run_lseek_negative small]
    exact failed { file with full := false } at_ fun needed =>
      ⟨(room needed).present, (room needed).inside⟩

theorem read {len : Nat} (needed : whole)
    (apart : ∀ pos, At pos → pos + len ≤ off ∨ off + data.length ≤ pos) :
    Beside whole off data At (FileProg.read len) := by
  intro file at_ room
  have inside := (room needed).inside
  have size : (splice file.bytes off data).length = file.bytes.length := by
    rw [length_splice]
    omega
  have got : ((file.patch off data).bytes.drop (file.patch off data).pos).take len =
      (file.bytes.drop file.pos).take len := by
    show ((splice file.bytes off data).drop file.pos).take len = _
    apply ext_getD
    · rw [List.length_take, List.length_take, List.length_drop, List.length_drop, size]
    · intro i
      rw [getD_take, getD_take, getD_drop, getD_drop, getD_splice]
      split
      · rw [if_neg]
        have := apart file.pos at_
        omega
      · rfl
  rw [run_read, run_read, got]
  exact ⟨rfl, fun _ => ⟨(room needed).present, inside⟩⟩

theorem write {bytes : List Byte}
    (apart : ∀ pos, At pos → pos + bytes.length ≤ off ∨ off + data.length ≤ pos) :
    Beside whole off data At (FileProg.write bytes) := by
  intro file at_ room
  rw [run_write, run_write]
  refine ⟨?_, fun needed => ⟨rfl, ?_⟩⟩
  · have same : splice (splice file.bytes off data) file.pos bytes =
        splice (splice file.bytes file.pos bytes) off data := by
      have := apart file.pos at_
      exact splice_comm _ (by omega)
    simp only [FileState.patch, FileState.bytes, Option.getD_some] at same ⊢
    rw [same]
  · have inside := (room needed).inside
    show _ ≤ (splice file.bytes file.pos bytes).length
    rw [length_splice]
    omega

end Beside

end FileProg

end WifiAccess

import WifiAccess.Base.Race
import WifiAccess.Fat.Descriptor

/-! A descriptor of FatFs that nobody disturbs is the bytes of the file and a position in them. -/

namespace WifiAccess

/-- The bytes of a file, and the position of its descriptor while it is open. -/
inductive Session where
  | shut (bytes : List Byte)
  | opened (bytes : List Byte) (pos : Nat)

/-- The calls on a file that does not become longer than `limit`. A seek past the end has no
result, since FatFs leaves open what is then between the end and the position, and a write has
none that it does not take. -/
def Session.handle (limit : Nat) : (op : FileOp) → Session → Option (op.Res × Session)
  | .openCreate, .shut bytes => some (true, .opened bytes 0)
  | .lseek offset, .opened bytes _ =>
    if offset < 2 ^ 31 ∧ offset ≤ bytes.length then some (true, .opened bytes offset) else none
  | .read len, .opened bytes pos =>
    some ((bytes.drop pos).take len, .opened bytes (pos + ((bytes.drop pos).take len).length))
  | .write written, .opened bytes pos =>
    if pos + written.length ≤ limit ∧ bytes.length + written.length < 2 ^ 32 then
      some (written.length, .opened (splice bytes pos written) (pos + written.length))
    else none
  | .close, .opened bytes _ => some ((), .shut bytes)
  | _, _ => none

def Session.bytes : Session → List Byte
  | shut bytes | opened bytes _ => bytes

/-- The directory entry and the clusters hold these bytes. -/
structure Volume.Holds (vol : Volume) (bytes : List Byte) : Prop where
  size : vol.size = bytes.length
  cells : ∀ a < bytes.length, vol.cells a = bytes.getD a 0#8

/-- A volume with nothing behind the end of the file. -/
def Volume.of (bytes : List Byte) : Volume := ⟨fun a => bytes.getD a 0#8, bytes.length⟩

theorem Volume.holds_of (bytes : List Byte) : (Volume.of bytes).Holds bytes := ⟨rfl, fun _ _ => rfl⟩

namespace Fatfs

variable (fs : Fatfs)

/-- The byte that the descriptor has at an address. -/
def view (vol : Volume) (fp : Fil) (a : Nat) : Byte :=
  if fp.dsect = some (a / fs.ssize) then fp.buf (a % fs.ssize) else vol.cells a

/-- The volume and the buffer together hold these bytes. -/
structure Kept (bytes : List Byte) (vol : Volume) (fp : Fil) : Prop where
  view : ∀ a < bytes.length, fs.view vol fp a = bytes.getD a 0#8
  held : fp.dirty = true → ∃ sect, fp.dsect = some sect
  clean : fp.dirty = false → ∀ a < bytes.length, vol.cells a = bytes.getD a 0#8

/-- An open descriptor at a position. -/
structure Opened (bytes : List Byte) (pos : Nat) (vol : Volume) (fp : Fil) :
    Prop extends fs.Kept bytes vol fp where
  isOpen : fp.isOpen = true
  fptr : fp.fptr = pos
  fsize : fp.fsize = bytes.length
  within : pos ≤ bytes.length
  loaded : pos % fs.ssize ≠ 0 → fp.dsect = some (pos / fs.ssize)
  settled : fp.written = false → vol.size = bytes.length ∧ fp.dirty = false

variable {fs} {bytes : List Byte} {vol : Volume} {fp : Fil} {pos : Nat}

theorem ssize_pos : 0 < fs.ssize := Nat.lt_of_lt_of_le (by decide) fs.sector

theorem div_of_within {a sect : Nat} (lower : fs.ssize * sect ≤ a)
    (upper : a < fs.ssize * (sect + 1)) :
    a / fs.ssize = sect ∧ a % fs.ssize = a - fs.ssize * sect := by
  have quotient : a / fs.ssize = sect :=
    Nat.div_eq_of_lt_le (by rwa [Nat.mul_comm]) (by rwa [Nat.mul_comm])
  have sum := Nat.div_add_mod a fs.ssize
  rw [quotient] at sum
  exact ⟨quotient, by omega⟩

/-! ## The buffer -/

/-- Behind a write-back the volume holds the bytes. -/
theorem Kept.writeBack (kept : fs.Kept bytes vol fp) :
    ∃ cells, (∀ a < bytes.length, cells a = bytes.getD a 0#8) ∧
    fs.writeBack vol fp = (⟨cells, vol.size⟩, { fp with dirty := false }) := by
  unfold Fatfs.writeBack
  cases dirty : fp.dirty with
  | false =>
    refine ⟨vol.cells, kept.clean dirty, ?_⟩
    have same : ({ fp with dirty := false } : Fil) = fp := by rw [← dirty]
    rw [same]
    cases fp.dsect <;> rfl
  | true =>
    obtain ⟨sect, dsect⟩ := kept.held dirty
    refine ⟨(fs.diskWrite vol sect fp.buf).cells, fun a inside => ?_, by rw [dsect]; rfl⟩
    have seen := kept.view a inside
    unfold Fatfs.view at seen
    rw [dsect] at seen
    rw [← seen, diskWrite]
    exact if_congr (eq_comm.trans (Option.some_inj).symm) rfl rfl

/-- A sector of the volume in the buffer. -/
theorem Kept.load (kept : fs.Kept bytes vol fp) (sect : Nat) : ∃ cells buf dirty,
    fs.load vol fp sect =
      (⟨cells, vol.size⟩, { fp with buf := buf, dsect := some sect, dirty := dirty }) ∧
      fs.Kept bytes ⟨cells, vol.size⟩ { fp with buf := buf, dsect := some sect, dirty := dirty } ∧
      (fp.dirty = false → dirty = false) := by
  unfold Fatfs.load
  by_cases there : fp.dsect = some sect
  · rw [if_pos there]
    have same : ({ fp with dsect := some sect } : Fil) = fp := by rw [← there]
    exact ⟨vol.cells, fp.buf, fp.dirty, by rw [same], same ▸ kept, id⟩
  · obtain ⟨cells, holds, wrote⟩ := kept.writeBack
    rw [if_neg there, wrote]
    refine ⟨cells, _, false, rfl, ⟨fun a inside => ?_, fun _ => ⟨sect, rfl⟩, fun _ => holds⟩,
      fun _ => rfl⟩
    unfold Fatfs.view
    dsimp only
    split
    · rename_i same
      rw [diskRead, Option.some.inj same, Nat.div_add_mod]
      exact holds a inside
    · exact holds a inside

/-! ## The calls -/

theorem opened_fOpen (holds : vol.Holds bytes) (fp : Fil) :
    fs.Opened bytes 0 vol (fOpen vol fp) where
  view := holds.cells
  held dirty := by cases dirty
  clean _ := holds.cells
  isOpen := rfl
  fptr := rfl
  fsize := holds.size
  within := Nat.zero_le _
  loaded off := absurd (Nat.zero_mod _) off
  settled _ := ⟨holds.size, rfl⟩

/-- Seeking inside the file. -/
theorem Opened.fLseek (opened : fs.Opened bytes pos vol fp) {ofs : Nat}
    (inside : ofs ≤ bytes.length) :
    fs.Opened bytes ofs (fs.fLseek vol fp ofs).1 (fs.fLseek vol fp ofs).2 ∧
      (fs.fLseek vol fp ofs).1.size = vol.size := by
  have short : ¬ ofs > fp.fsize := by
    rw [opened.fsize]
    omega
  unfold Fatfs.fLseek
  by_cases off : ofs % fs.ssize ≠ 0
  · obtain ⟨cells, buf, dirty, loaded, kept, clean⟩ := opened.toKept.load (ofs / fs.ssize)
    rw [if_pos off, loaded]
    dsimp only
    rw [if_neg short]
    exact ⟨⟨⟨kept.view, kept.held, kept.clean⟩, opened.isOpen, rfl, opened.fsize, inside,
      fun _ => rfl,
      fun unwritten => (opened.settled unwritten).imp_right clean⟩, rfl⟩
  · rw [if_neg off]
    dsimp only
    rw [if_neg short]
    exact ⟨⟨⟨opened.view, opened.held, opened.clean⟩, opened.isOpen, rfl, opened.fsize, inside,
      fun part => absurd part off, opened.settled⟩, rfl⟩

/-- Bytes that are picked one by one. -/
theorem map_range_eq {f : Nat → Byte} {off n : Nat}
    (picked : ∀ k < n, f k = bytes.getD (off + k) 0#8) (inside : off + n ≤ bytes.length) :
    (List.range n).map f = (bytes.drop off).take n := by
  apply ext_getD
  · simp
    omega
  intro i
  by_cases bound : i < n
  · rw [getD_take, if_pos bound, getD_drop, ← picked i bound]
    simp only [List.getD_eq_getElem?_getD, List.getElem?_map, List.getElem?_range bound,
      Option.map_some, Option.getD_some]
  · rw [getD_past (by simp; omega), getD_past (by simp; omega)]

/-- A byte of the sector in the buffer. -/
theorem Kept.buf (kept : fs.Kept bytes vol fp) {a : Nat} (dsect : fp.dsect = some (a / fs.ssize))
    (inside : a < bytes.length) :
    fp.buf (a % fs.ssize) = bytes.getD a 0#8 := by
  have seen := kept.view a inside
  rwa [Fatfs.view, if_pos dsect] at seen

/-- A byte of the volume, unless the buffer has a newer one. -/
theorem Kept.direct (kept : fs.Kept bytes vol fp) {a : Nat} (inside : a < bytes.length) :
    (if fp.dirty = true ∧ fp.dsect = some (a / fs.ssize) then fp.buf (a % fs.ssize)
      else vol.cells a) = bytes.getD a 0#8 := by
  cases dirty : fp.dirty with
  | false =>
    rw [if_neg fun both => Bool.false_ne_true both.1]
    exact kept.clean dirty a inside
  | true =>
    rw [← kept.view a inside, Fatfs.view]
    simp only [true_and]

theorem Opened.moved (opened : fs.Opened bytes pos vol fp) {ofs : Nat} (inside : ofs ≤ bytes.length)
    (loaded : ofs % fs.ssize ≠ 0 → fp.dsect = some (ofs / fs.ssize)) : fs.Opened bytes ofs vol
      { fp with fptr := ofs } :=
  ⟨⟨opened.view, opened.held, opened.clean⟩, opened.isOpen, rfl, opened.fsize, inside, loaded,
    opened.settled⟩

/-- The place behind a part of the sector that a position is in. -/
theorem sector_behind {n : Nat} (within : pos % fs.ssize + n ≤ fs.ssize)
    (part : (pos + n) % fs.ssize ≠ 0) :
    (pos + n) / fs.ssize = pos / fs.ssize := by
  have sum := Nat.div_add_mod pos fs.ssize
  rcases Nat.lt_or_ge (pos % fs.ssize + n) fs.ssize with short | full
  · exact (@div_of_within fs (pos + n) (pos / fs.ssize) (by omega) (by rw [Nat.mul_succ]; omega)).1
  · refine absurd ?_ part
    have exact_end : pos + n = fs.ssize * (pos / fs.ssize + 1) := by
      rw [Nat.mul_succ]
      omega
    rw [exact_end, Nat.mul_mod_right]

theorem Opened.fReadLoop (opened : fs.Opened bytes pos vol fp) {fuel btr : Nat}
    (enough : btr ≤ fuel) (inside : pos + btr ≤ bytes.length) : ∃ cells fp',
      fs.fReadLoop fuel btr vol fp = ((bytes.drop pos).take btr, ⟨cells, vol.size⟩, fp') ∧
        fs.Opened bytes (pos + btr) ⟨cells, vol.size⟩ fp' := by
  induction fuel generalizing btr pos vol fp with
  | zero =>
    obtain rfl : btr = 0 := Nat.le_zero.mp enough
    exact ⟨vol.cells, fp, by simp [Fatfs.fReadLoop], opened⟩
  | succ fuel ih =>
    have sum := Nat.div_add_mod pos fs.ssize
    have small := Nat.mod_lt pos (@ssize_pos fs)
    rw [Fatfs.fReadLoop]
    simp only [opened.fptr]
    by_cases nothing : btr = 0
    · subst nothing
      exact ⟨vol.cells, fp, by simp, opened⟩
    rw [if_neg nothing]
    by_cases whole : pos % fs.ssize = 0 ∧ 0 < btr / fs.ssize
    · -- whole sectors
      rw [if_pos whole]
      have room := Nat.mod_lt (pos / fs.ssize) fs.cluster
      generalize count : min (btr / fs.ssize) (fs.csize - pos / fs.ssize % fs.csize) = cc
      have fits : fs.ssize * cc ≤ btr :=
        (Nat.mul_le_mul_left _ (count ▸ Nat.min_le_left ..)).trans (Nat.mul_div_le btr fs.ssize)
      have some_sector : 0 < fs.ssize * cc := Nat.mul_pos ssize_pos (by omega)
      have direct : ((List.range (fs.ssize * cc)).map fun k =>
          if fp.dirty = true ∧ fp.dsect = some (pos / fs.ssize + k / fs.ssize) then
            fp.buf (k % fs.ssize)
          else vol.cells (pos + k)) =
            (bytes.drop pos).take (fs.ssize * cc) := by
        refine map_range_eq (fun k bound => ?_) (by omega)
        have start : pos = fs.ssize * (pos / fs.ssize) := by omega
        have quotient : (pos + k) / fs.ssize = pos / fs.ssize + k / fs.ssize := by
          rw [start, Nat.mul_add_div ssize_pos, ← start]
        have rest : (pos + k) % fs.ssize = k % fs.ssize := by
          rw [start, Nat.mul_add_mod]
        rw [← quotient, ← rest]
        exact opened.direct (by omega)
      obtain ⟨cells, fp', got, later⟩ :=
        ih (@Opened.moved _ _ _ _ _ opened (pos + fs.ssize * cc) (by omega) fun part => by
        rw [Nat.add_mul_mod_self_left] at part
        exact absurd whole.1 part) (show btr - fs.ssize * cc ≤ fuel by omega) (by omega)
      refine ⟨cells, fp', ?_, by
        rwa [show pos + btr = pos + fs.ssize * cc + (btr - fs.ssize * cc) by omega]⟩
      rw [direct, got, ← List.drop_drop, ← List.take_add, Nat.add_sub_cancel' fits]
    · -- a part of a sector, from the buffer
      rw [if_neg whole]
      have short : pos % fs.ssize = 0 → btr < fs.ssize := fun off =>
        Nat.lt_of_not_le fun long => whole ⟨off, Nat.div_pos long ssize_pos⟩
      generalize count : min (fs.ssize - pos % fs.ssize) btr = rcnt
      obtain ⟨cells, buf, dirty, dsect, loaded, now, there⟩ : ∃ cells buf dirty dsect,
          (if pos % fs.ssize = 0 then fs.load vol fp (pos / fs.ssize) else (vol, fp)) =
            (⟨cells, vol.size⟩, { fp with buf := buf, dsect := dsect, dirty := dirty }) ∧
          fs.Opened bytes pos ⟨cells, vol.size⟩
            { fp with buf := buf, dsect := dsect, dirty := dirty } ∧
          dsect = some (pos / fs.ssize) := by
        by_cases off : pos % fs.ssize = 0
        · obtain ⟨cells, buf, dirty, loaded, kept, clean⟩ := opened.toKept.load (pos / fs.ssize)
          refine ⟨cells, buf, dirty, _, by
            rw [if_pos off, loaded], ⟨kept, opened.isOpen, opened.fptr, opened.fsize,
            opened.within, fun _ => rfl, fun unwritten =>
              (opened.settled unwritten).imp_right clean⟩, rfl⟩
        · exact ⟨vol.cells, fp.buf, fp.dirty, fp.dsect, if_neg off, opened, opened.loaded off⟩
      rw [loaded]
      have got : ((List.range rcnt).map fun k => buf (pos % fs.ssize + k)) =
          (bytes.drop pos).take rcnt := by
        refine map_range_eq (fun k bound => ?_) (by omega)
        obtain ⟨quotient, rest⟩ :=
          @div_of_within fs (pos + k) (pos / fs.ssize) (by omega) (by rw [Nat.mul_succ]; omega)
        have byte :=
          @Kept.buf fs bytes _ _ now.toKept (pos + k) (by rw [quotient]; exact there) (by omega)
        rw [rest] at byte
        rw [← byte]
        congr 1
        omega
      obtain ⟨cells', fp', rest, later⟩ :=
        ih (@Opened.moved _ _ _ _ _ now (pos + rcnt) (by omega) fun part => by
        rw [sector_behind (by omega) part]
        exact there) (show btr - rcnt ≤ fuel by omega) (by omega)
      refine ⟨cells', fp', ?_, by rwa [show pos + btr = pos + rcnt + (btr - rcnt) by omega]⟩
      rw [got, rest, ← List.drop_drop, ← List.take_add, Nat.add_sub_cancel' (by omega)]

/-- Between the parts of a write the descriptor does not know yet how long the file is. -/
structure Writing (fs : Fatfs) (bytes : List Byte) (pos size : Nat) (vol : Volume) (fp : Fil) :
    Prop extends
    fs.Kept bytes vol fp where
  isOpen : fp.isOpen = true
  fptr : fp.fptr = pos
  fsize : fp.fsize = size
  length : bytes.length = max size pos
  loaded : pos % fs.ssize ≠ 0 → fp.dsect = some (pos / fs.ssize)

theorem splice_behind (bytes first second : List Byte) (pos : Nat) :
    splice (splice bytes pos first) (pos + first.length) second =
      splice bytes pos (first ++ second) := by
  apply ext_getD
  · simp
    omega
  intro i
  rw [getD_splice, getD_splice, getD_splice, getD_append, List.length_append]
  split
  · rw [if_pos (by omega), if_neg (by omega)]
    congr 1
    omega
  · split
    · rw [if_pos (by omega), if_pos (by omega)]
    · rw [if_neg (by omega)]

theorem splice_nothing (within : pos ≤ bytes.length) : splice bytes pos [] = bytes := by
  apply ext_getD (by simpa using within)
  intro i
  rw [getD_splice, if_neg (by simp)]

/-- Bytes for the sector in the buffer. -/
theorem Writing.part {size n : Nat} {wbuff : List Byte} (writing : Writing fs bytes pos size vol fp)
    (there : fp.dsect = some (pos / fs.ssize)) (within : pos % fs.ssize + n ≤ fs.ssize)
    (some_left : n ≤ wbuff.length) :
    Writing fs (splice bytes pos (wbuff.take n)) (pos + n) size vol { fp with
      buf := fun k => if pos % fs.ssize ≤ k ∧ k < pos % fs.ssize + n
        then wbuff.getD (k - pos % fs.ssize) 0#8 else fp.buf k
      dirty := true
      fptr := pos + n } := by
  have sum := Nat.div_add_mod pos fs.ssize
  have length := writing.length
  have taken : (wbuff.take n).length = n := by rw [List.length_take]; omega
  have placed (a : Nat) : (splice bytes pos (wbuff.take n)).getD a 0#8 =
      if pos ≤ a ∧ a < pos + n then wbuff.getD (a - pos) 0#8 else bytes.getD a 0#8 := by
    rw [getD_splice, taken, getD_take]
    split
    · rw [if_pos (by omega)]
    · rfl
  refine ⟨⟨fun a inside => ?_, fun _ => ⟨_, there⟩, fun clean => (by cases clean)⟩, writing.isOpen,
    rfl, writing.fsize, ?_, fun part => ?_⟩
  · rw [length_splice, taken] at inside
    have old (inside : a < bytes.length) := writing.view a inside
    unfold Fatfs.view at old ⊢
    rw [there] at old
    rw [placed]
    dsimp only
    rw [there]
    by_cases same : some (pos / fs.ssize) = some (a / fs.ssize)
    · have sum' := Nat.div_add_mod a fs.ssize
      rw [← Option.some.inj same] at sum'
      rw [if_pos same]
      by_cases fresh : pos ≤ a ∧ a < pos + n
      · rw [if_pos fresh, if_pos (by omega)]
        congr 1
        omega
      · rw [if_neg fresh, if_neg (by omega)]
        rw [if_pos same] at old
        exact old (by omega)
    · rw [if_neg same]
      by_cases fresh : pos ≤ a ∧ a < pos + n
      · exact absurd
          (congrArg some (@div_of_within fs a (pos / fs.ssize) (by omega)
          (by rw [Nat.mul_succ]; omega)).1.symm) same
      · rw [if_neg fresh]
        rw [if_neg same] at old
        exact old (by omega)
  · rw [length_splice, taken]
    omega
  · rw [sector_behind within part]
    exact there

/-- Whole sectors for the volume. -/
theorem Writing.whole {size cc : Nat} {wbuff : List Byte} {cells : Nat → Byte}
    (writing : Writing fs bytes pos size vol fp)
    (holds : ∀ a < bytes.length, cells a = bytes.getD a 0#8) (border : pos % fs.ssize = 0)
    (some_left : fs.ssize * cc ≤ wbuff.length) :
    Writing fs (splice bytes pos (wbuff.take (fs.ssize * cc))) (pos + fs.ssize * cc) size
      ⟨fun a => if pos ≤ a ∧ a < pos + fs.ssize * cc then wbuff.getD (a - pos) 0#8
        else cells a, vol.size⟩
      { fs.renew { fp with dirty := false } (pos / fs.ssize) cc wbuff
        with fptr := pos + fs.ssize * cc } := by
  have sum := Nat.div_add_mod pos fs.ssize
  have length := writing.length
  have taken : (wbuff.take (fs.ssize * cc)).length = fs.ssize * cc := by
    rw [List.length_take]; omega
  obtain ⟨buf, renewed, fresh⟩ : ∃ buf, fs.renew { fp with dirty := false }
      (pos / fs.ssize) cc wbuff =
      { fp with dirty := false, buf := buf } ∧ ∀ held, fp.dsect = some held →
        if pos / fs.ssize ≤ held ∧ held < pos / fs.ssize + cc then
          ∀ k, buf k = wbuff.getD (fs.ssize * (held - pos / fs.ssize) + k) 0#8
        else buf = fp.buf := by
    unfold renew
    cases dsect : fp.dsect with
    | none =>
      refine ⟨fp.buf, rfl, fun held same => (by cases same)⟩
    | some held =>
      by_cases hit : pos / fs.ssize ≤ held ∧ held < pos / fs.ssize + cc
      · refine ⟨fun k => wbuff.getD (fs.ssize * (held - pos / fs.ssize) + k) 0#8, by
          simp only [if_pos hit], fun other same => ?_⟩
        obtain rfl := Option.some.inj same
        rw [if_pos hit]
        exact fun _ => rfl
      · refine ⟨fp.buf, by simp only [if_neg hit], fun other same => ?_⟩
        obtain rfl := Option.some.inj same
        rw [if_neg hit]
  have placed (a : Nat) (inside : a < (splice bytes pos (wbuff.take (fs.ssize * cc))).length) :
      (if pos ≤ a ∧ a < pos + fs.ssize * cc then wbuff.getD (a - pos) 0#8 else cells a) =
        (splice bytes pos (wbuff.take (fs.ssize * cc))).getD a 0#8 := by
    rw [length_splice, taken] at inside
    rw [getD_splice, taken, getD_take]
    split
    · rw [if_pos (by omega)]
    · exact holds a (by omega)
  rw [renewed]
  refine ⟨⟨fun a inside => ?_, fun dirty => (by cases dirty), fun _ => placed⟩, writing.isOpen, rfl,
    writing.fsize, ?_, fun part => ?_⟩
  · rw [← placed a inside, Fatfs.view]
    dsimp only
    split
    · rename_i held
      have sum' := Nat.div_add_mod a fs.ssize
      have small := Nat.mod_lt a (@ssize_pos fs)
      have kind := fresh _ held
      by_cases hit : pos / fs.ssize ≤ a / fs.ssize ∧ a / fs.ssize < pos / fs.ssize + cc
      · rw [if_pos hit] at kind
        have lower := Nat.mul_le_mul_left fs.ssize hit.1
        have upper := Nat.mul_le_mul_left fs.ssize (Nat.succ_le_of_lt hit.2)
        rw [Nat.mul_succ, Nat.mul_add] at upper
        rw [kind, Nat.mul_sub, if_pos (by omega)]
        congr 1
        omega
      · rw [if_neg hit] at kind
        rw [length_splice, taken] at inside
        have outside : ¬ (pos ≤ a ∧ a < pos + fs.ssize * cc) := fun within => hit
          ⟨Nat.div_le_div_right within.1, Nat.div_lt_of_lt_mul (by rw [Nat.mul_add]; omega)⟩
        have seen := writing.view a (by omega)
        rw [Fatfs.view, if_pos held] at seen
        rw [kind, if_neg outside, seen, holds a (by omega)]
    · rfl
  · rw [length_splice, taken]
    omega
  · rw [Nat.add_mul_mod_self_left] at part
    exact absurd border part

/-- The next sector in the buffer. At the end of the file the buffer keeps what it held. -/
theorem Writing.next {size : Nat} {cells : Nat → Byte} (writing : Writing fs bytes pos size vol fp)
    (holds : ∀ a < bytes.length, cells a = bytes.getD a 0#8) (border : pos % fs.ssize = 0)
    {buf : Nat → Byte}
    (buffer : fp.dsect ≠ some (pos / fs.ssize) → buf = if pos < size
      then fs.diskRead ⟨cells, vol.size⟩ (pos / fs.ssize) else fp.buf)
    (same : fp.dsect = some (pos / fs.ssize) → buf = fp.buf) :
    Writing fs bytes pos size ⟨cells, vol.size⟩
      { fp with dirty := false, buf := buf, dsect := some (pos / fs.ssize) } := by
  have sum := Nat.div_add_mod pos fs.ssize
  have length := writing.length
  refine ⟨⟨fun a inside => ?_, fun dirty => (by cases dirty), fun _ => holds⟩, writing.isOpen,
    writing.fptr, writing.fsize, length, fun _ => rfl⟩
  unfold Fatfs.view
  dsimp only
  split
  · rename_i held
    have sum' := Nat.div_add_mod a fs.ssize
    rw [← Option.some.inj held] at sum'
    by_cases there : fp.dsect = some (pos / fs.ssize)
    · rw [same there]
      exact writing.toKept.buf (there.trans held) inside
    · rw [buffer there, if_pos (by omega), diskRead, sum']
      exact holds a inside
  · exact holds a inside

theorem Writing.loop {size fuel : Nat} {wbuff : List Byte}
    (writing : Writing fs bytes pos size vol fp) (enough : wbuff.length ≤ fuel) : ∃ cells fp',
      fs.fWriteLoop fuel wbuff vol fp = (⟨cells, vol.size⟩, fp') ∧
        Writing fs (splice bytes pos wbuff) (pos + wbuff.length) size ⟨cells, vol.size⟩ fp' := by
  induction fuel generalizing wbuff bytes pos vol fp with
  | zero =>
    obtain rfl : wbuff = [] := List.length_eq_zero_iff.mp (Nat.le_zero.mp enough)
    rw [splice_nothing (by rw [writing.length]; omega)]
    exact ⟨vol.cells, fp, rfl, writing⟩
  | succ fuel ih =>
    have sum := Nat.div_add_mod pos fs.ssize
    have small := Nat.mod_lt pos (@ssize_pos fs)
    have length := writing.length
    rw [Fatfs.fWriteLoop]
    simp only [writing.fptr, writing.fsize]
    by_cases nothing : wbuff = []
    · subst nothing
      rw [if_pos rfl, splice_nothing (by omega)]
      exact ⟨vol.cells, fp, rfl, writing⟩
    rw [if_neg nothing]
    have some_byte : 0 < wbuff.length := List.length_pos_iff.mpr nothing
    -- what is left to write behind the first bytes
    have go {n : Nat} {vol' : Volume} {fp' : Fil} (positive : 0 < n) (some_left : n ≤ wbuff.length)
        (size' : vol'.size = vol.size)
        (after : Writing fs (splice bytes pos (wbuff.take n)) (pos + n) size vol' fp') :
    ∃ cells final,
          fs.fWriteLoop fuel (wbuff.drop n) vol' fp' = (⟨cells, vol.size⟩, final) ∧
            Writing fs (splice bytes pos wbuff) (pos + wbuff.length) size
              ⟨cells, vol.size⟩ final := by
      obtain ⟨cells, final, ran, later⟩ :=
        ih after (show (wbuff.drop n).length ≤ fuel by rw [List.length_drop]; omega)
      rw [size'] at ran later
      refine ⟨cells, final, ran, ?_⟩
      have taken : (wbuff.take n).length = n := by rw [List.length_take]; omega
      have joined := splice_behind bytes (wbuff.take n) (wbuff.drop n) pos
      rw [taken, List.take_append_drop] at joined
      rwa [joined, List.length_drop, Nat.add_assoc, Nat.add_sub_cancel' some_left] at later
    by_cases off : pos % fs.ssize = 0
    · -- on the border of a sector
      obtain ⟨cells, holds, wrote⟩ := writing.toKept.writeBack
      simp only [off, wrote, if_true, true_and]
      by_cases whole : 0 < wbuff.length / fs.ssize
      · rw [if_pos whole]
        have room := Nat.mod_lt (pos / fs.ssize) fs.cluster
        generalize count : min (wbuff.length / fs.ssize) (fs.csize - pos / fs.ssize % fs.csize) = cc
        have fits : fs.ssize * cc ≤ wbuff.length :=
          (Nat.mul_le_mul_left _ (count ▸ Nat.min_le_left ..)).trans
            (Nat.mul_div_le wbuff.length fs.ssize)
        exact go (Nat.mul_pos ssize_pos (by omega)) fits rfl (writing.whole holds off fits)
      · rw [if_neg whole]
        have short : wbuff.length < fs.ssize :=
          Nat.lt_of_not_le fun long => whole (Nat.div_pos long ssize_pos)
        have short' : min (fs.ssize - 0) wbuff.length = wbuff.length := Nat.min_eq_right (by omega)
        have here := fun buf => @Writing.next fs bytes vol fp pos size cells writing holds off buf
        rw [short']
        by_cases there : fp.dsect = some (pos / fs.ssize)
        · have now := here fp.buf (fun other => absurd there other) fun _ => rfl
          have after :=
            @Writing.part fs bytes _ _ pos size wbuff.length wbuff now rfl (by omega)
              (Nat.le_refl _)
          simp only [there, ne_eq, not_true_eq_false, if_false]
          rw [off] at after
          exact go some_byte (Nat.le_refl _) rfl after
        · have now := here _ (fun _ => rfl) (fun same => absurd same there)
          have after :=
            @Writing.part fs bytes _ _ pos size wbuff.length wbuff now rfl (by omega)
              (Nat.le_refl _)
          simp only [there, ne_eq, not_false_eq_true, if_true]
          rw [off] at after
          exact go some_byte (Nat.le_refl _) rfl after
    · -- on inside the sector in the buffer
      simp only [off, if_false, false_and]
      generalize count : min (fs.ssize - pos % fs.ssize) wbuff.length = n
      exact @go n _ _ (by omega) (by omega) rfl
        (@Writing.part _ _ _ _ _ size n wbuff writing (writing.loaded off) (by omega) (by omega))

theorem Opened.fWrite (opened : fs.Opened bytes pos vol fp) {wbuff : List Byte}
    (small : bytes.length + wbuff.length < 2 ^ 32) :
    ∃ cells fp', fs.fWrite vol fp wbuff = (wbuff.length, ⟨cells, vol.size⟩, fp') ∧
      fs.Opened (splice bytes pos wbuff) (pos + wbuff.length) ⟨cells, vol.size⟩ fp' := by
  have length : bytes.length = max bytes.length pos := (Nat.max_eq_left opened.within).symm
  obtain ⟨cells, fp', ran, wrote⟩ :=
    @Writing.loop fs bytes vol fp pos bytes.length wbuff.length wbuff
    ⟨opened.toKept, opened.isOpen, opened.fptr, opened.fsize, length, opened.loaded⟩ (Nat.le_refl _)
  refine ⟨cells, { fp' with fsize := max fp'.fsize fp'.fptr, written := true },
    by rw [Fatfs.fWrite, opened.fsize, if_pos small, ran],
    ⟨⟨wrote.view, wrote.held, wrote.clean⟩, wrote.isOpen, wrote.fptr, ?_, ?_,
    wrote.loaded, fun unwritten => (by cases unwritten)⟩⟩
  · exact (congrArg₂ max wrote.fsize wrote.fptr).trans wrote.length.symm
  · rw [wrote.length]
    exact Nat.le_max_right ..

/-- Closing puts the bytes into the volume. -/
theorem Opened.fClose (opened : fs.Opened bytes pos vol fp) :
    ∃ cells fp', fs.fClose vol fp = (⟨cells, bytes.length⟩, fp') ∧
    fp'.isOpen = false ∧ ∀ a < bytes.length, cells a = bytes.getD a 0#8 := by
  unfold Fatfs.fClose Fatfs.fSync
  cases written : fp.written with
  | false =>
    obtain ⟨size, clean⟩ := opened.settled written
    refine ⟨vol.cells, { fp with isOpen := false }, ?_, rfl, opened.clean clean⟩
    rw [if_neg Bool.false_ne_true, ← size]
  | true =>
    obtain ⟨cells, holds, wrote⟩ := opened.toKept.writeBack
    refine ⟨cells, { fp with dirty := false, written := false, isOpen := false }, ?_, rfl, holds⟩
    rw [if_pos rfl, wrote, ← opened.fsize]

/-- What a session and the volume with a descriptor have in common. -/
def Carries (fs : Fatfs) : Session → Volume × Fil → Prop
  | .shut bytes, (vol, fp) => fp.isOpen = false ∧ vol.Holds bytes
  | .opened bytes pos, (vol, fp) => fs.Opened bytes pos vol fp

theorem Opened.fRead (opened : fs.Opened bytes pos vol fp) (len : Nat) : ∃ cells fp',
    fs.fRead vol fp len = ((bytes.drop pos).take len, ⟨cells, vol.size⟩, fp') ∧
      fs.Opened bytes (pos + ((bytes.drop pos).take len).length) ⟨cells, vol.size⟩ fp' := by
  have within := opened.within
  obtain ⟨cells, fp', ran, later⟩ :=
    @Opened.fReadLoop fs bytes vol fp pos opened (min len (bytes.length - pos)) _ (Nat.le_refl _)
    (by omega)
  have clipped : (bytes.drop pos).take (min len (bytes.length - pos)) =
      (bytes.drop pos).take len := by
    rw [← List.length_drop, ← List.take_eq_take_min]
  have count : ((bytes.drop pos).take len).length = min len (bytes.length - pos) := by
    rw [List.length_take, List.length_drop]
  rw [clipped] at ran
  rw [Fatfs.fRead, opened.fsize, opened.fptr, count]
  exact ⟨cells, fp', ran, later⟩

/-- Every call of a session has the same answer on the volume. Only closing changes the size in
the directory entry. -/
theorem Carries.step {limit : Nat} {op : FileOp} {session after : Session} {result : op.Res}
    {state : Volume × Fil} (carries : fs.Carries session state)
    (answered : session.handle limit op = some (result, after)) : ∃ next,
    fs.handle op state = some (result, next) ∧ fs.Carries after next ∧
      (next.1.size = state.1.size ∨ next.1.size = after.bytes.length) := by
  obtain ⟨vol, fp⟩ := state
  cases session with
  | shut bytes =>
    obtain ⟨closed, holds⟩ := carries
    cases op with
    | openCreate =>
      cases answered
      refine ⟨(vol, fOpen vol fp), ?_, opened_fOpen holds fp, .inl rfl⟩
      rw [Fatfs.handle, if_neg (by rw [closed]; exact Bool.false_ne_true)]
    | _ => cases answered
  | opened bytes pos =>
    have opened : fs.Opened bytes pos vol fp := carries
    cases op with
    | lseek offset =>
      rw [Session.handle] at answered
      split at answered
      · rename_i inside
        cases answered
        obtain ⟨later, size⟩ := opened.fLseek inside.2
        refine ⟨fs.fLseek vol fp offset, ?_, later, .inl size⟩
        rw [Fatfs.handle, if_pos opened.isOpen, if_pos inside.1]
      · cases answered
    | read len =>
      cases answered
      obtain ⟨cells, fp', ran, later⟩ := opened.fRead len
      refine ⟨(⟨cells, vol.size⟩, fp'), ?_, later, .inl rfl⟩
      rw [Fatfs.handle, if_pos opened.isOpen, ran]
      rfl
    | write written =>
      rw [Session.handle] at answered
      split at answered
      · rename_i fits
        cases answered
        obtain ⟨cells, fp', ran, later⟩ := opened.fWrite fits.2
        refine ⟨(⟨cells, vol.size⟩, fp'), ?_, later, .inl rfl⟩
        rw [Fatfs.handle, if_pos opened.isOpen, ran]
        rfl
      · cases answered
    | close =>
      cases answered
      obtain ⟨cells, fp', ran, closed, holds⟩ := opened.fClose
      refine ⟨(⟨cells, bytes.length⟩, fp'), ?_, ⟨closed, rfl, holds⟩, .inr rfl⟩
      rw [Fatfs.handle, if_pos opened.isOpen, ran]
    | openCreate => cases answered
    | stat => cases answered
    | unlink => cases answered

end Fatfs

/-! ## Runs of a session -/

theorem Session.length_step {limit : Nat} {op : FileOp} {session after : Session} {result : op.Res}
    (answered : session.handle limit op = some (result, after))
    (full : limit ≤ session.bytes.length) :
    after.bytes.length = session.bytes.length := by
  cases session with
  | shut bytes =>
    cases op with
    | openCreate =>
      cases answered
      rfl
    | _ => cases answered
  | opened bytes pos =>
    have full : limit ≤ bytes.length := full
    cases op with
    | lseek offset =>
      rw [Session.handle] at answered
      split at answered
      · cases answered
        rfl
      · cases answered
    | write written =>
      rw [Session.handle] at answered
      split at answered
      · cases answered
        change (splice bytes pos written).length = bytes.length
        rw [length_splice]
        omega
      · cases answered
    | read len =>
      cases answered
      rfl
    | close =>
      cases answered
      rfl
    | openCreate => cases answered
    | stat => cases answered
    | unlink => cases answered

namespace FileProg

variable {limit : Nat} {bytes : List Byte} {pos : Nat}

theorem ends_openCreate :
    Prog.Ends (Session.handle limit) 1 openCreate (.shut bytes) true (.opened bytes 0) :=
  @Prog.ends_perform _ _ _ (Session.handle limit) _ .openCreate (true, .opened bytes 0) rfl

theorem ends_lseek {offset : Nat} (small : offset < 2 ^ 31) (inside : offset ≤ bytes.length) :
    Prog.Ends (Session.handle limit) 1 (lseek offset) (.opened bytes pos) true
      (.opened bytes offset) :=
  @Prog.ends_perform _ _ _ (Session.handle limit) _ (.lseek offset) (true, .opened bytes offset)
    (if_pos ⟨small, inside⟩)

theorem ends_read {len : Nat} (inside : pos + len ≤ bytes.length) :
    Prog.Ends (Session.handle limit) 1 (read len) (.opened bytes pos) (window bytes pos len)
      (.opened bytes (pos + len)) := by
  have whole : ((bytes.drop pos).take len).length = len := by simp; omega
  refine @Prog.ends_perform _ _ _ (Session.handle limit) _ (.read len)
    (window bytes pos len, .opened bytes (pos + len)) ?_
  rw [Session.handle, whole, window_inside inside]

theorem ends_write {written : List Byte} (fits : pos + written.length ≤ limit)
    (small : bytes.length + written.length < 2 ^ 32) :
    Prog.Ends (Session.handle limit) 1 (write written) (.opened bytes pos) written.length
      (.opened (splice bytes pos written) (pos + written.length)) :=
  @Prog.ends_perform _ _ _ (Session.handle limit) _ (.write written)
    (written.length, .opened (splice bytes pos written) (pos + written.length))
      (if_pos ⟨fits, small⟩)

theorem ends_close :
    Prog.Ends (Session.handle limit) 1 close (.opened bytes pos) () (.shut bytes) :=
  @Prog.ends_perform _ _ _ (Session.handle limit) _ .close ((), .shut bytes) rfl

end FileProg

/-! ## The plain byte string -/

section Plain

variable {fs : Fatfs} {α : Type} {prog : FileProg α} {limit count : Nat} {bytes left : List Byte}
  {value : α}

theorem Fatfs.Carries.ends {session after : Session} {state : Volume × Fil}
    (carries : fs.Carries session state)
    (ends : prog.Ends (Session.handle limit) count session value after) :
    ∃ next, prog.Ends fs.handle count state value next ∧ fs.Carries after next := by
  induction count generalizing prog session state with
  | zero =>
    obtain ⟨rfl, rfl⟩ := ends
    exact ⟨state, ⟨rfl, rfl⟩, carries⟩
  | succ count ih =>
    obtain ⟨op, rest, ⟨result, session'⟩, rfl, answered, later⟩ := ends
    obtain ⟨next, handled, carries, -⟩ := carries.step answered
    obtain ⟨final, ran, carries⟩ := ih carries later
    exact ⟨final, ⟨op, rest, (result, next), rfl, handled, ran⟩, carries⟩

/-- A session and the file as a plain byte string. -/
def Session.Plain : Session → FileState → Prop
  | shut bytes, file => file.content = some bytes
  | opened bytes pos, file => file.content = some bytes ∧ file.pos = pos ∧ pos ≤ bytes.length

theorem Session.Plain.step {op : FileOp} {session after : Session} {result : op.Res}
    {file : FileState} (plain : session.Plain file)
    (answered : session.handle limit op = some (result, after)) :
    (FileState.handle op file).1 = result ∧ after.Plain (FileState.handle op file).2 := by
  cases session with
  | shut bytes =>
    have content : file.content = some bytes := plain
    cases op with
    | openCreate =>
      cases answered
      have same : file.bytes = bytes := by rw [FileState.bytes, content, Option.getD_some]
      exact ⟨rfl, congrArg some same, rfl, Nat.zero_le _⟩
    | _ => cases answered
  | opened bytes pos =>
    obtain ⟨content, rfl, within⟩ := plain
    have same : file.bytes = bytes := by rw [FileState.bytes, content, Option.getD_some]
    cases op with
    | lseek offset =>
      rw [Session.handle] at answered
      split at answered
      · rename_i inside
        cases answered
        rw [FileState.handle, if_pos inside.1, same, grow_within inside.2]
        exact ⟨rfl, rfl, rfl, inside.2⟩
      · cases answered
    | read len =>
      cases answered
      rw [FileState.handle, same]
      refine ⟨rfl, content, rfl, ?_⟩
      rw [List.length_take, List.length_drop]
      omega
    | write written =>
      rw [Session.handle] at answered
      split at answered
      · cases answered
        rw [FileState.handle, same]
        refine ⟨rfl, rfl, rfl, ?_⟩
        rw [length_splice]
        exact Nat.le_max_right ..
      · cases answered
    | close =>
      cases answered
      exact ⟨rfl, content⟩
    | openCreate => cases answered
    | stat => cases answered
    | unlink => cases answered

theorem Session.Plain.run {session after : Session} {file : FileState} (plain : session.Plain file)
    (ends : prog.Ends (Session.handle limit) count session value after) :
    (prog.run file).1 = value ∧ after.Plain (prog.run file).2 := by
  induction count generalizing prog session file with
  | zero =>
    obtain ⟨rfl, rfl⟩ := ends
    exact ⟨rfl, plain⟩
  | succ count ih =>
    obtain ⟨op, rest, ⟨result, session'⟩, rfl, answered, later⟩ := ends
    obtain ⟨same, plain⟩ := plain.step answered
    obtain ⟨returned, final⟩ := ih plain later
    rw [← same] at returned final
    exact ⟨returned, final⟩

/-- A program with the file to itself gets from FatFs what a plain byte string would give it, and
leaves its bytes in the volume. -/
theorem fatfs_refines {vol : Volume} {fp : Fil} (holds : vol.Holds bytes)
    (closed : fp.isOpen = false)
    (alone : prog.Ends (Session.handle limit) count (.shut bytes) value (.shut left)) :
    prog.exec (some bytes) = (value, some left) ∧
      ∃ vol' fp', prog.Ends fs.handle count (vol, fp) value (vol', fp') ∧ fp'.isOpen = false ∧
        vol'.Holds left := by
  have start : (Session.shut bytes).Plain (.fresh (some bytes)) := rfl
  obtain ⟨same, plain⟩ := start.run alone
  have carries : fs.Carries (.shut bytes) (vol, fp) := ⟨closed, holds⟩
  obtain ⟨⟨vol', fp'⟩, ran, closed', holds'⟩ := carries.ends alone
  exact ⟨Prod.ext same plain, vol', fp', ran, closed', holds'⟩

end Plain

/-- Bytes over the border of two sectors, read back before the file is closed. -/
theorem fatfs_refines_border :
    ∃ (fs : Fatfs) (prog : FileProg (List Byte)) (vol : Volume) (fp fp' : Fil) (vol' : Volume),
    prog.Ends fs.handle 6 (vol, fp) [0#8, 1#8, 2#8, 3#8, 4#8, 0#8] (vol', fp') ∧
      vol'.Holds (splice (List.replicate 600 0#8) 510 [1#8, 2#8, 3#8, 4#8]) := by
  let bytes : List Byte := List.replicate 600 0#8
  let prog : FileProg (List Byte) := do
    let _ ← FileProg.openCreate
    let _ ← FileProg.lseek 510
    let _ ← FileProg.write [1#8, 2#8, 3#8, 4#8]
    let _ ← FileProg.lseek 509
    let got ← FileProg.read 6
    FileProg.close
    return got
  let fp : Fil := ⟨false, 0, 0, none, fun _ => 0#8, false, false⟩
  have size : bytes.length = 600 := List.length_replicate
  have alone : prog.Ends (Session.handle 600) 6 (.shut bytes)
      (window (splice bytes 510 [1#8, 2#8, 3#8, 4#8]) 509 6)
        (.shut (splice bytes 510 [1#8, 2#8, 3#8, 4#8])) := by
    have length : (splice bytes 510 [1#8, 2#8, 3#8, 4#8]).length = 600 := by
      rw [length_splice, size]
      decide
    change Prog.Ends (Session.handle 600) (1 + (1 + (1 + (1 + (1 + (1 + 0)))))) _ _ _ _
    refine Prog.ends_bind FileProg.ends_openCreate ?_
    refine Prog.ends_bind (FileProg.ends_lseek (by decide) (by rw [size]; decide)) ?_
    refine Prog.ends_bind (FileProg.ends_write (by decide) (by rw [size]; decide)) ?_
    refine Prog.ends_bind (FileProg.ends_lseek (by decide) (by rw [length]; decide)) ?_
    refine Prog.ends_bind (FileProg.ends_read (by rw [length]; decide)) ?_
    exact Prog.ends_bind FileProg.ends_close (Prog.ends_pure _ _)
  obtain ⟨-, vol', fp', ran, -, left⟩ :=
    @fatfs_refines ⟨512, 8, by decide, by decide⟩ _ _ _ _ _ _ _ _ fp
      (Volume.holds_of bytes) rfl alone
  have got : window (splice bytes 510 [1#8, 2#8, 3#8, 4#8]) 509 6 =
      [0#8, 1#8, 2#8, 3#8, 4#8, 0#8] := by decide +kernel
  rw [got] at ran
  exact ⟨_, prog, _, fp, fp', vol', ran, left⟩

end WifiAccess

import WifiAccess.Base.File

/-! `ff.c`: the calls of FatFs on one file. Every descriptor keeps the sector that it used last
and the size of the file to itself until it is closed. -/

namespace WifiAccess

/-- `FATFS`: the bytes of a sector and the sectors of a cluster. -/
structure Fatfs where
  ssize : Nat
  csize : Nat
  sector : 512 ≤ ssize
  cluster : 0 < csize

/-- The clusters of the file in the order of their chain, and the size in its directory
entry. Behind the size the clusters hold anything. -/
structure Volume where
  cells : Nat → Byte
  size : Nat

/-- `FIL`. The sectors of the file are counted from its first one. Of a descriptor that is not
open only the memory of the buffer is left. -/
structure Fil where
  isOpen : Bool
  fptr : Nat
  fsize : Nat
  dsect : Option Nat
  buf : Nat → Byte
  dirty : Bool
  written : Bool

namespace Fatfs

variable (fs : Fatfs)

/-- `disk_write` of one sector. -/
def diskWrite (vol : Volume) (sect : Nat) (buf : Nat → Byte) : Volume :=
  { vol with cells := fun a => if a / fs.ssize = sect then buf (a % fs.ssize) else vol.cells a }

/-- `disk_read` of one sector. -/
def diskRead (vol : Volume) (sect : Nat) : Nat → Byte := fun k => vol.cells (fs.ssize * sect + k)

/-- The write-back of a dirty buffer. -/
def writeBack (vol : Volume) (fp : Fil) : Volume × Fil :=
  match fp.dsect with
  | some sect => if fp.dirty then (fs.diskWrite vol sect fp.buf, { fp with dirty := false })
    else (vol, fp)
  | none => (vol, fp)

/-- A sector comes into the buffer, behind the write-back of the one before. -/
def load (vol : Volume) (fp : Fil) (sect : Nat) : Volume × Fil :=
  if fp.dsect = some sect then (vol, fp)
  else
    let kept := fs.writeBack vol fp
    (kept.1, { kept.2 with buf := fs.diskRead kept.1 sect, dsect := some sect })

/-- `f_open` of a file that exists. -/
def fOpen (vol : Volume) (fp : Fil) : Fil :=
  { fp with isOpen := true, fptr := 0, fsize := vol.size, dsect := none, dirty := false, written :=
    false }

/-- `f_lseek` on a file open for writing: a seek past the end makes it longer. -/
def fLseek (vol : Volume) (fp : Fil) (ofs : Nat) : Volume × Fil :=
  let moved := if ofs % fs.ssize ≠ 0 then fs.load vol fp (ofs / fs.ssize) else (vol, fp)
  let fp := { moved.2 with fptr := ofs }
  (moved.1, if ofs > fp.fsize then { fp with fsize := ofs, written := true } else fp)

/-- The loop of `f_read`: whole sectors come from the volume, unless the buffer holds a dirty
one of them, and parts of a sector from the buffer. -/
def fReadLoop : Nat → Nat → Volume → Fil → List Byte × Volume × Fil
  | 0, _, vol, fp => ([], vol, fp)
  | fuel + 1, btr, vol, fp =>
    let sect := fp.fptr / fs.ssize
    let off := fp.fptr % fs.ssize
    if btr = 0 then ([], vol, fp)
    else if off = 0 ∧ 0 < btr / fs.ssize then
      let cc := min (btr / fs.ssize) (fs.csize - sect % fs.csize)
      let got := (List.range (fs.ssize * cc)).map fun k =>
        if fp.dirty ∧ fp.dsect = some (sect + k / fs.ssize) then
          fp.buf (k % fs.ssize)
        else vol.cells (fp.fptr + k)
      let later :=
        fReadLoop fuel (btr - fs.ssize * cc) vol { fp with fptr := fp.fptr + fs.ssize * cc }
      (got ++ later.1, later.2)
    else
      let loaded := if off = 0 then fs.load vol fp sect else (vol, fp)
      let rcnt := min (fs.ssize - off) btr
      let got := (List.range rcnt).map fun k => loaded.2.buf (off + k)
      let later := fReadLoop fuel (btr - rcnt) loaded.1 { loaded.2 with fptr := fp.fptr + rcnt }
      (got ++ later.1, later.2)

/-- `f_read`, up to the end of the file as the descriptor knows it. -/
def fRead (vol : Volume) (fp : Fil) (btr : Nat) : List Byte × Volume × Fil :=
  let btr := min btr (fp.fsize - fp.fptr)
  fs.fReadLoop btr btr vol fp

/-- A sector in the buffer that is written over takes its new contents. -/
def renew (fp : Fil) (sect cc : Nat) (wbuff : List Byte) : Fil :=
  match fp.dsect with
  | some held =>
    if sect ≤ held ∧ held < sect + cc then
      { fp with buf := fun k => wbuff.getD (fs.ssize * (held - sect) + k) 0#8, dirty := false }
    else fp
  | none => fp

/-- The loop of `f_write`: whole sectors go to the volume, parts of a sector into the buffer. -/
def fWriteLoop : Nat → List Byte → Volume → Fil → Volume × Fil
  | 0, _, vol, fp => (vol, fp)
  | fuel + 1, wbuff, vol, fp =>
    let sect := fp.fptr / fs.ssize
    let off := fp.fptr % fs.ssize
    if wbuff = [] then (vol, fp)
    else
      let kept := if off = 0 then fs.writeBack vol fp else (vol, fp)
      if off = 0 ∧ 0 < wbuff.length / fs.ssize then
        let cc := min (wbuff.length / fs.ssize) (fs.csize - sect % fs.csize)
        let cells := fun a =>
          if fp.fptr ≤ a ∧ a < fp.fptr + fs.ssize * cc then
            wbuff.getD (a - fp.fptr) 0#8
          else kept.1.cells a
        fWriteLoop fuel (wbuff.drop (fs.ssize * cc)) { kept.1 with cells := cells }
          { fs.renew kept.2 sect cc wbuff with fptr := fp.fptr + fs.ssize * cc }
      else
        -- at the end of the file the buffer keeps what it held
        let next :=
          if off = 0 ∧ kept.2.dsect ≠ some sect then
            { kept.2 with buf := if fp.fptr < fp.fsize then fs.diskRead kept.1 sect
              else fp.buf, dsect := some sect }
          else kept.2
        let wcnt := min (fs.ssize - off) wbuff.length
        let buf :=
          fun k => if off ≤ k ∧ k < off + wcnt then wbuff.getD (k - off) 0#8 else next.buf k
        fWriteLoop fuel (wbuff.drop wcnt) kept.1
          { next with buf := buf, dirty := true, fptr := fp.fptr + wcnt }

/-- `f_write`, which takes nothing when the sum of size and count does not fit into 32 bits. -/
def fWrite (vol : Volume) (fp : Fil) (wbuff : List Byte) : Nat × Volume × Fil :=
  let wbuff := if fp.fsize + wbuff.length < 2 ^ 32 then wbuff else []
  let wrote := fs.fWriteLoop wbuff.length wbuff vol fp
  (wbuff.length, wrote.1, { wrote.2 with fsize := max wrote.2.fsize wrote.2.fptr, written := true })

/-- `f_sync`: the buffer, then the size. -/
def fSync (vol : Volume) (fp : Fil) : Volume × Fil :=
  if fp.written then
    let kept := fs.writeBack vol fp
    ({ kept.1 with size := kept.2.fsize }, { kept.2 with written := false })
  else (vol, fp)

/-- `f_close`. -/
def fClose (vol : Volume) (fp : Fil) : Volume × Fil :=
  let synced := fs.fSync vol fp
  (synced.1, { synced.2 with isOpen := false })

/-- The calls of a program on its descriptor, on a disk with room that does not fail. There is
no result for calls on a descriptor that is not open, nor for those that need none. -/
def handle : (op : FileOp) → Volume × Fil → Option (op.Res × Volume × Fil)
  | .openCreate, (vol, fp) => if fp.isOpen then none else some (true, vol, fOpen vol fp)
  | .lseek offset, (vol, fp) =>
    if fp.isOpen then
      if offset < 2 ^ 31 then some (true, fs.fLseek vol fp offset) else some (false, vol, fp)
    else none
  | .read len, (vol, fp) => if fp.isOpen then some (fs.fRead vol fp len) else none
  | .write bytes, (vol, fp) => if fp.isOpen then some (fs.fWrite vol fp bytes) else none
  | .close, (vol, fp) => if fp.isOpen then some ((), fs.fClose vol fp) else none
  | .stat, _ => none
  | .unlink, _ => none

end Fatfs

end WifiAccess

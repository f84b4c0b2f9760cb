import WifiAccess.Base.Run
import WifiAccess.Link.Frame

/-! When the receive loop stays inside its two arrays. -/

namespace WifiAccess

/-- A copy of `len` bytes of a frame stays inside the frame and the receive buffer. -/
def CopyFits (base len : Nat) : Prop := len = 0 ∨ (len ≤ 31 ∧ base + len ≤ 5120)

instance (base len : Nat) : Decidable (CopyFits base len) := inferInstanceAs (Decidable (_ ∨ _ ∧ _))

theorem copyLoop_fits {buf : Frame} {base len : Nat} {recvPack : Image 5120}
    (fits : CopyFits base len) :
    copyLoop buf base len 0 recvPack = some (recvPack.put base (buf.field 1 len)) := by
  rw [copyLoop_eq, if_pos (by simpa [CopyFits] using fits)]
  rfl

theorem copyLoop_isSome {buf : Frame} {base len : Nat} {recvPack : Image 5120} :
    (copyLoop buf base len 0 recvPack).isSome ↔ CopyFits base len := by
  rw [copyLoop_eq, CopyFits]
  split <;> simp_all

namespace Rx

/-- The state in which the bytes of a frame are counted. -/
def started (rx : Rx) (frame : Frame) : Rx := if frame.starts then rx.start else rx

def total (rx : Rx) (frame : Frame) : Nat := (rx.recvLenth + frame.len) % 2 ^ 32

theorem take_last {rx : Rx} {frame : Frame} (last : frame.ends = true)
    (fits : CopyFits (rx.packCounter * 31) frame.len) :
    rx.take frame = some (0, ⟨false, rx.packCounter, rx.total frame, true,
      rx.recvPack.put (rx.packCounter * 31) (frame.field 1 frame.len)⟩) := by
  rw [take, if_pos last, copyLoop_fits fits]
  rfl

theorem take_middle {rx : Rx} {frame : Frame} (inner : frame.ends = false)
    (fits : CopyFits (rx.packCounter * 31) 31) :
    rx.take frame =
      some (-1, ⟨rx.isReceive, (rx.packCounter + 1) % 2 ^ 32, rx.total frame, rx.isRecvPack,
      rx.recvPack.put (rx.packCounter * 31) (frame.field 1 31)⟩) := by
  rw [take, if_neg (by simp [inner]), copyLoop_fits fits]
  rfl

/-- The length that the packet itself gives, with the last frame copied. -/
def declared (rx : Rx) (frame : Frame) : Nat :=
  (Image.ofBytes 7 ((rx.recvPack.put (rx.packCounter * 31) (frame.field 1 frame.len)).field
    0 7)).num 5 2

/-- A last frame has at most 31 bytes and ends inside the buffer, and so does the
packet if it has the length it gives; any other frame leaves room for 31 bytes. -/
def Fits (rx : Rx) (frame : Frame) : Prop :=
  if frame.ends then
    CopyFits (rx.packCounter * 31) frame.len ∧
      (rx.total frame ≤ 5120 ∨ rx.declared frame + 7 ≠ rx.total frame)
  else rx.packCounter * 31 + 31 ≤ 5120

instance (rx : Rx) (frame : Frame) : Decidable (rx.Fits frame) := by
  unfold Fits
  infer_instance

end Rx

theorem spiRead_idle {rx : Rx} (idle : rx.isRecvPack = false) (frame : Frame) :
    spiRead rx frame =
      if (rx.started frame).isReceive then
        (rx.started frame).take frame
      else some (-1, rx.started frame) := by
  rw [spiRead, idle]
  rfl

def Wifi.Fits (wifi : Wifi) (frame : Frame) : Prop :=
  wifi.rx.isRecvPack = false → (wifi.rx.started frame).isReceive = true →
    (wifi.rx.started frame).Fits frame

theorem Wifi.check_isSome (wifi : Wifi) :
    wifi.check.isSome ↔ wifi.rx.recvLenth ≤ 5120 ∨ wifi.lenth + 7 ≠ wifi.rx.recvLenth := by
  unfold check
  by_cases same : wifi.lenth + 7 = wifi.rx.recvLenth
  · rw [if_neg (not_not_intro same)]
    by_cases long : 7 + wifi.lenth > 5120
    · rw [if_pos long]
      simp
      omega
    · rw [if_neg long]
      have inside : wifi.rx.recvLenth ≤ 5120 := by omega
      split <;> simp [inside]
  · rw [if_pos same]
    simp [same]

theorem Rx.take_isSome (wifi : Wifi) (rx : Rx) (frame : Frame) :
    (match rx.take frame with
      | none => none
      | some (result, rx) =>
        if result = 0 then
          (wifi.withRx rx).fill.check
        else some (.waiting, wifi.withRx rx)).isSome ↔
      rx.Fits frame := by
  unfold Rx.Fits
  by_cases last : frame.ends = true
  · rw [if_pos last]
    by_cases fits : CopyFits (rx.packCounter * 31) frame.len
    · simp only [Rx.take_last last fits, ↓reduceIte, Wifi.check_isSome, fits, true_and]
      rfl
    · have failed : copyLoop frame (rx.packCounter * 31) frame.len 0 rx.recvPack = none :=
        Option.not_isSome_iff_eq_none.mp (mt copyLoop_isSome.mp fits)
      simp [Rx.take, last, failed, fits]
  · rw [if_neg last]
    rw [Bool.not_eq_true] at last
    by_cases fits : rx.packCounter * 31 + 31 ≤ 5120
    · simp [Rx.take_middle last (.inr ⟨by decide, fits⟩), fits]
    · have outside : ¬ CopyFits (rx.packCounter * 31) 31 :=
        fun copied => copied.elim (by decide) (fun both => fits both.2)
      have failed : copyLoop frame (rx.packCounter * 31) 31 0 rx.recvPack = none :=
        Option.not_isSome_iff_eq_none.mp (mt copyLoop_isSome.mp outside)
      simp [Rx.take, last, failed, fits]

theorem wifiStep_isSome (wifi : Wifi) (frame : Frame) :
    (wifiStep wifi frame).isSome ↔ wifi.Fits frame := by
  unfold wifiStep Wifi.Fits
  cases idle : wifi.rx.isRecvPack with
  | true => simp [spiRead, idle]
  | false =>
    rw [spiRead_idle idle]
    cases (wifi.rx.started frame).isReceive with
    | false => simp
    | true =>
      simp only [↓reduceIte, forall_const]
      exact Rx.take_isSome ..

theorem receive_isSome (wifi : Wifi) (frames : List Frame) :
    (receive wifi frames).isSome ↔ MovesMeet Wifi.next Wifi.Fits wifi frames := by
  induction frames generalizing wifi with
  | nil => simp [receive, MovesMeet]
  | cons frame rest ih =>
    rw [receive, MovesMeet, Wifi.next, ← wifiStep_isSome]
    cases wifiStep wifi frame with
    | none => simp
    | some passed => simpa using ih passed.2

/-- From the initial state, every access to the two arrays is inside them exactly
when every frame fits in the state it arrives in. -/
theorem receive_inBounds_iff (frames : List Frame) :
    (receive .initial frames).isSome ↔ MovesMeet Wifi.next Wifi.Fits .initial frames :=
  receive_isSome .initial frames

/-- A single frame that claims 32 bytes. -/
def overlongFrame : Frame := .put (.zero 32) 0 [0xE0#8]

theorem receive_overlong : receive .initial [overlongFrame] = none := by
  have misfit : ¬ Wifi.initial.Fits overlongFrame := by
    have starts : overlongFrame.starts = true := by decide
    have ends : overlongFrame.ends = true := by decide
    have begun : Wifi.initial.rx.started overlongFrame = Wifi.initial.rx.start := if_pos starts
    intro fits
    have copied := fits rfl (by rw [begun]; rfl)
    rw [Rx.Fits, if_pos ends] at copied
    have long : ¬ CopyFits ((Wifi.initial.rx.started overlongFrame).packCounter * 31)
        overlongFrame.len := by
      rw [begun]
      decide
    exact long copied.1
  rw [receive, Option.not_isSome_iff_eq_none.mp (mt (wifiStep_isSome .initial _).mp misfit)]

end WifiAccess

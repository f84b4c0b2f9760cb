import WifiAccess.Base.Image
import WifiAccess.Crc.Unit

/-! Packed structs that carry the CRC of the members before it. -/

namespace WifiAccess.Image

variable {n : Nat}

/-- The CRC of the first `off` bytes. -/
def prefixCrc (image : Image n) (off : Nat) : Nat := blockCrcCalc (image.field 0 off)

/-- Store the CRC of the first `off` bytes behind them. -/
def sealAt (image : Image n) (off : Nat) : Image n :=
  image.put off (leBytes 4 (image.prefixCrc off))

def IntactAt (image : Image n) (off : Nat) : Prop := image.prefixCrc off = image.num off 4

instance (image : Image n) (off : Nat) : Decidable (image.IntactAt off) :=
  inferInstanceAs (Decidable (image.prefixCrc off = image.num off 4))

theorem field_sealAt (image : Image n) {off a len : Nat} (inside : off + 4 ≤ n)
    (apart : a + len ≤ off ∨ off + 4 ≤ a) : (image.sealAt off).field a len = image.field a len :=
  field_put_apart (by simpa using inside) (by simpa using apart)

theorem intactAt_sealAt (image : Image n) {off : Nat} (inside : off + 4 ≤ n) :
    (image.sealAt off).IntactAt off := by
  have fits : image.prefixCrc off < 256 ^ 4 := blockCrcCalc_lt _
  rw [IntactAt, prefixCrc, image.field_sealAt inside (by omega), sealAt,
    image.num_put inside fits, prefixCrc]

end WifiAccess.Image

import WifiAccess.Att.Refinement
import WifiAccess.Fat.Session

/-! An addition to the log by one thread and a deletion by another, each with a descriptor of
its own, whose calls come in any order. -/

namespace WifiAccess

open FileProg Prog

/-! ## Either operation alone -/

section Alone

variable {limit : Nat} {bytes : List Byte} {pos : Nat}

theorem fdRecordHeaderGet_ends (old : AttHeader) (inside : 8 ≤ bytes.length)
    (valid : AttHeader.Valid (.stored 8 bytes 0)) :
    Ends (Session.handle limit) 2 (fdRecordHeaderGetSet old getRecord) (.opened bytes pos)
      (0, .stored 8 bytes 0) (.opened bytes 8) := by
  change Ends (Session.handle limit) (1 + (1 + 0)) _ _ _ _
  refine ends_bind (ends_lseek (by decide) (Nat.zero_le _)) (ends_bind (ends_read (by omega)) ?_)
  have loaded : Image.load old (window bytes 0 8) = .stored 8 bytes 0 :=
    Image.ext (Image.load_all old (length_window ..))
  have same : AttHeader.crc (.stored 8 bytes 0) = AttHeader.computedCrc (.stored 8 bytes 0) :=
    valid.symm
  dsimp only
  rw [loaded, if_neg (by simp), if_pos same]
  exact ends_pure _ _

theorem fdRecordHeaderSet_ends (header : AttHeader) (room : 8 ≤ limit)
    (small : bytes.length + 8 < 2 ^ 32) :
    Ends (Session.handle limit) 2 (fdRecordHeaderGetSet header setRecord) (.opened bytes pos)
      (0, header.withCrc) (.opened (splice bytes 0 header.withCrc.bytes) 8) := by
  have size : header.withCrc.bytes.length = 8 := header.withCrc.size
  have wrote : Ends (Session.handle limit) 1 (write header.withCrc.bytes) (.opened bytes 0)
      header.withCrc.bytes.length
      (.opened (splice bytes 0 header.withCrc.bytes) (0 + header.withCrc.bytes.length)) :=
        ends_write (by omega) (by omega)
  change Ends (Session.handle limit) (1 + (1 + 0)) _ _ _ _
  refine ends_bind (ends_lseek (by decide) (Nat.zero_le _)) (ends_bind wrote ?_)
  rw [size, if_neg (by simp)]
  exact ends_pure _ _

/-- The addition makes eight calls. -/
theorem attRecordAdd_ends {log : List AttInfo} (held : Refines bytes log)
    (room : 8 + 53 * (log.length + 1) < 2 ^ 31) (small : bytes.length + 53 < 2 ^ 32)
    (info : AttInfo) (above : max bytes.length (8 + 53 * (log.length + 1)) ≤ limit) : ∃ left,
    Ends (Session.handle limit) 8 (attRecordAdd info) (.shut bytes) (0, info.withCrc) (.shut left) ∧
      Refines left (log ++ [info.withCrc]) ∧ left.length + 53 < 2 ^ 32 := by
  have inside := held.inside
  refine ⟨_, ?_, held.appended info (by omega), by
    simp only [length_splice, Image.length_bytes]; omega⟩
  have addr : recordAddr (AttHeader.total (.stored 8 bytes 0)) = 8 + 53 * log.length := by
    rw [held.total]
    exact recordAddr_small (by omega)
  have size : info.withCrc.bytes.length = 53 := info.withCrc.size
  have wrote : Ends (Session.handle limit) 1 (write info.withCrc.bytes)
      (.opened bytes (8 + 53 * log.length))
      info.withCrc.bytes.length (.opened (splice bytes (8 + 53 * log.length) info.withCrc.bytes)
        (8 + 53 * log.length + info.withCrc.bytes.length)) := ends_write (by omega) (by omega)
  change Ends (Session.handle limit) (1 + (2 + (1 + (1 + (2 + (1 + 0)))))) _ _ _ _
  refine ends_bind ends_openCreate (ends_bind (fdRecordHeaderGet_ends _ (by omega) held.valid) ?_)
  dsimp only
  rw [if_neg (by simp), addr]
  refine ends_bind (ends_lseek (by omega) (by omega)) (ends_bind wrote ?_)
  rw [size, if_neg (by simp), held.total]
  exact ends_bind (fdRecordHeaderSet_ends _ (by omega) (by rw [length_splice]; omega))
    (ends_bind ends_close (ends_pure _ _))

/-- The deletion makes six calls. -/
theorem attRecordDel_ends {log : List AttInfo} (held : Refines bytes log) (num : Nat)
    (small : bytes.length + 53 < 2 ^ 32) (above : bytes.length ≤ limit) : ∃ left,
    Ends (Session.handle limit) 6 (attRecordDel num) (.shut bytes) 0 (.shut left) ∧
      Refines left (log.take (log.length - num)) ∧ left.length + 53 < 2 ^ 32 := by
  have inside := held.inside
  have left : (if log.length > num then log.length - num else 0) = log.length - num := by
    split <;> omega
  refine ⟨_, ?_, held.shortened num, by simp only [length_splice, Image.length_bytes]; omega⟩
  change Ends (Session.handle limit) (1 + (2 + (2 + (1 + 0)))) _ _ _ _
  refine ends_bind ends_openCreate (ends_bind (fdRecordHeaderGet_ends _ (by omega) held.valid) ?_)
  dsimp only
  rw [if_neg (by simp), held.total, left]
  exact ends_bind (fdRecordHeaderSet_ends _ (by omega) (by omega))
    (ends_bind ends_close (ends_pure _ _))

end Alone

end WifiAccess

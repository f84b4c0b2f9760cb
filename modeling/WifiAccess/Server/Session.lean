import WifiAccess.Base.Run
import WifiAccess.Server.Buffers

/-! Runs of `data_process`, one frame after the other, and the replies with data as
the server reads them. -/

namespace WifiAccess

open ServerProg

/-- The frame of a command, with a right CRC. -/
def Asks (pData : ServerData) (cmd : ServerCmd) : Prop :=
  ServerCmd.ofByte (pData.byte 0) = some cmd ∧ pData.IntactAt cmd.crcLenth

/-- One frame, in the state that those before it have left. -/
def serverStep (lib : CardSearch) (stationAddr : Image 6) (state : Server × ServerIo)
    (pData : ServerData) :
    Option (Server × ServerIo) :=
  let ran := (dataProcess lib stationAddr pData state.1).run state.2
  ran.1.map fun server => (server, ran.2)

theorem serverStep_asks {pData : ServerData} {cmd : ServerCmd} (asks : Asks pData cmd)
    (lib : CardSearch) (stationAddr : Image 6) (server : Server) (io : ServerIo) :
    serverStep lib stationAddr (server, io) pData =
      let ran := (cmd.execute lib pData (server.withHead stationAddr (pData.byte 0))).run io
      ran.1.map fun server => (server, ran.2) := by
  unfold serverStep dataProcess
  simp only [asks.1, if_pos asks.2]

/-- The frame made of a command's byte and its parameters. -/
theorem asks_serverFrame {cmd : ServerCmd} {byte : Byte} {params : List Byte}
    (named : ServerCmd.ofByte byte = some cmd) (whole : cmd.crcLenth = params.length + 1)
    (fits : params.length + 5 ≤ 5097) :
    Asks (serverFrame byte params) cmd := by
  constructor
  · rw [byte_serverFrame fits, named]
  · rw [whole]
    exact intact_serverFrame fits

/-! ## Replies -/

/-- A reply with data, read field by field. -/
structure DataReply (head : Image 1024) (off : Nat) (entries reply : List Byte) : Prop where
  length : reply.length = off + entries.length + 4
  front : ∀ a n, a + n ≤ off → window reply a n = head.field a n
  data : window reply off entries.length = entries

/-- Entries that lie one behind the other. -/
def packed (n count : Nat) (bytes : List Byte) (off : Nat) : List (Image n) :=
  (List.range count).map fun k => .stored n bytes (off + n * k)

theorem window_entries {n k : Nat} {entries : List (Image n)} (inside : k < entries.length) :
    window (entries.flatMap Image.bytes) (n * k) n = entries[k].bytes := by
  induction entries generalizing k with
  | nil => cases inside
  | cons first rest ih =>
    cases k with
    | zero =>
      have whole := window_all first.bytes
      rw [first.size] at whole
      exact (window_append_left (by rw [first.size, Nat.mul_zero, Nat.zero_add])).trans whole
    | succ k =>
      have behind := window_append_right first.bytes (rest.flatMap Image.bytes) (n * k) n
      rw [first.size, Nat.add_comm, ← Nat.mul_succ] at behind
      exact behind.trans (ih (Nat.lt_of_succ_lt_succ inside))

/-- The entries are read back from the reply. -/
theorem DataReply.packed {head : Image 1024} {off n : Nat} {entries : List (Image n)}
    {reply : List Byte} (sent : DataReply head off (entries.flatMap Image.bytes) reply) :
    packed n entries.length reply
      off = entries := by
  apply List.ext_getElem
  · simp [WifiAccess.packed]
  · intro k _ inside
    have part : n * k + n ≤ n * entries.length := by
      rw [← Nat.mul_succ]
      exact Nat.mul_le_mul_left n inside
    have data := congrArg (fun data => window data (n * k) n) sent.data
    simp only [length_entries, window_window _ part, window_entries inside] at data
    simp only [WifiAccess.packed, List.getElem_map, List.getElem_range]
    exact Image.ext data

theorem Server.replyEntries_run (server : Server) {off : Nat} {entries : List Byte}
    (inside : off + entries.length + 4 ≤ 1024) (io : ServerIo) :
    ∃ buf reply, (server.replyEntries off entries).run io =
      (some (server.withBuf buf), { io with replies := io.replies ++ [reply] }) ∧
        DataReply server.buf off entries reply := by
  let crc :=
    leBytes 4 (blockCrcCalc ((server.buf.put off entries).field 6 (off - 6 + entries.length)))
  have crcSize : crc.length = 4 := length_leBytes ..
  let buf := (server.buf.put off entries).put (off + entries.length) crc
  refine ⟨buf, buf.field 0 (off + entries.length + 4), ?_, ?_⟩
  · rw [replyEntries, ServerProg.run_ite, if_pos inside]
    rfl
  · have apart {a n : Nat} (before : a + n ≤ off + entries.length) : buf.field a n =
        (server.buf.put off entries).field a n :=
      Image.field_put_apart (by omega) (.inl before)
    have read {a n : Nat} (within : a + n ≤ off + entries.length + 4) :
        window (buf.field 0 (off + entries.length + 4)) a n = buf.field a n := by
      rw [Image.field, window_window _ within, Nat.zero_add, Image.field]
    constructor
    · exact Image.length_field ..
    · intro a n before
      rw [read (by omega), apart (by omega), Image.field_put_apart (by omega) (.inl before)]
    · rw [read (by omega), apart (Nat.le_refl _), Image.field_put_same _ (by omega)]

/-- A refusal is a reply of 22 bytes with the status behind the head. -/
theorem Server.refuse_run (server : Server) (io : ServerIo) :
    ∃ buf reply, server.refuse.run io =
      (some (server.withBuf buf), { io with replies := io.replies ++ [reply] }) ∧
      reply.length = 22 ∧ reply.getD 13 0#8 = serverNack := by
  refine ⟨_, _, rfl, Image.length_field .., ?_⟩
  rw [Image.byte_field (by decide), Server.withBuf, Image.byte_put (by simp)]
  rfl

end WifiAccess

import Mathlib.Logic.Relation
import WifiAccess.Server.Session

/-! Draining the log: requests for records, each followed by a deletion of as many
as were returned. -/

namespace WifiAccess

open ServerProg

/-- The records that the header counts. -/
def storedRecords (bytes : List Byte) : List AttInfo :=
  firstRecords bytes (AttHeader.total (.stored 8 bytes 0))

theorem Refines.stored {bytes : List Byte} {log : List AttInfo} (held : Refines bytes log) :
    storedRecords bytes = log := by
  rw [WifiAccess.storedRecords, held.total, held.firstRecords (Nat.le_refl _), List.take_length]

/-- The records in a reply, as many as it says it has. -/
def replyRecords (reply : List Byte) : List AttInfo :=
  packed 53 (leValue (window reply 18 2)) reply 20

/-- A command with a number of two bytes. -/
theorem num_countFrame {cmd : Byte} {count : Nat} (fits : count < 2 ^ 16) :
    (serverFrame cmd (leBytes 2 count)).num 1 2 = count :=
  (num_serverFrame (by simp) (by simp)).trans (leValue_leBytes (n := 2) fits)

/-! ## The two commands -/

/-- A server with these records in its log, on a working disk. -/
structure Holding (log : List AttInfo) (state : Server × ServerIo) : Prop where
  sized : state.1.Sized
  records : ∃ bytes, state.2.attendance.content = some bytes ∧ Refines bytes log
  working : state.2.faults = []

theorem Holding.stored {log : List AttInfo} {state : Server × ServerIo}
    (holding : Holding log state) :
    storedRecords state.2.attendance.bytes = log := by
  obtain ⟨bytes, content, held⟩ := holding.records
  rw [FileState.bytes, content]
  exact held.stored

section Commands

variable {lib : CardSearch} {stationAddr : Image 6} {log : List AttInfo} {state : Server × ServerIo}
  {pData : ServerData}

/-- The oldest records are returned, the newest one of them first. -/
theorem Holding.attGet (holding : Holding log state) (asks : Asks pData .attGet)
    (bound : pData.num 1 2 ≤ 10) :
    ∃ next reply, serverStep lib stationAddr state pData = some next ∧ Holding log next ∧
      next.2.replies = state.2.replies ++ [reply] ∧ reply.getD 13 0#8 = serverAck ∧
      replyRecords reply = (log.take (pData.num 1 2)).reverse := by
  obtain ⟨server, ⟨member, ⟨content, pos, full⟩, faults, clock, replies⟩⟩ := state
  obtain ⟨sized, ⟨bytes, rfl, held⟩, rfl⟩ := holding
  have start := held.inside
  have narrow : pData.num 1 2 % 256 = pData.num 1 2 := Nat.mod_eq_of_lt (by omega)
  have header : (recordHeaderGetSet server.attHeader getRecord).run ⟨some bytes, pos, full⟩ =
      ((0, .stored 8 bytes 0), ⟨some bytes, 8, full⟩) :=
    recordHeaderGet_intact server.attHeader (show 8 ≤ bytes.length by omega) held.valid
  obtain ⟨last, got⟩ :=
    @Refines.get _ _ held (pData.num 1 2) server.attInfo (by rw [sized.attInfo]; omega) 8 full
  rw [narrow] at got
  have size : (log.take (min (pData.num 1 2) log.length)).reverse.length =
      min (pData.num 1 2) log.length := by simp
  have whole : (overwrite server.attInfo 0
      (log.take (min (pData.num 1 2) log.length)).reverse).length = 10 := by
    rw [length_overwrite (by rw [size, sized.attInfo]; omega), sized.attInfo]
  have entries : (overwrite server.attInfo 0
      (log.take (min (pData.num 1 2) log.length)).reverse).take
      (min (pData.num 1 2) log.length) = (log.take (pData.num 1 2)).reverse := by
    rw [overwrite, List.take_zero, List.nil_append, List.take_left' size, ← List.take_eq_take_min]
  have few : ((log.take (pData.num 1 2)).reverse.flatMap Image.bytes).length ≤ 530 := by
    rw [length_entries, List.length_reverse, List.length_take]
    omega
  let loaded : Server :=
    { server.withHead stationAddr (pData.byte 0) with
      attHeader := .stored 8 bytes 0
      attInfo := overwrite server.attInfo 0 (log.take (min (pData.num 1 2) log.length)).reverse }
  have kept : loaded.Sized := ⟨whole, sized.userCrc⟩
  let head := ((loaded.buf.put 13 [serverAck]).put 14
    (Image.field (.stored 8 bytes 0 : AttHeader) 0 4)).put 18
      (leBytes 2 (min (pData.num 1 2) log.length))
  obtain ⟨buf, reply, sent, data⟩ := Server.replyEntries_run (loaded.withBuf head)
    (show 20 + ((log.take (pData.num 1 2)).reverse.flatMap Image.bytes).length + 4 ≤ 1024 by omega)
    ⟨member, ⟨some bytes, last, full⟩, [], clock, replies⟩
  refine ⟨((loaded.withBuf head).withBuf buf,
    ⟨member, ⟨some bytes, last, full⟩, [], clock, replies ++ [reply]⟩), reply, ?_,
    .mk ((kept.withBuf _).withBuf _) ⟨bytes, rfl, held⟩ rfl, rfl, ?_, ?_⟩
  · rw [serverStep_asks asks]
    simp only [ServerCmd.execute, serverAttGet, run_bind, run_onAttendance, FileProg.attempt_ok,
      Server.withHead,
      Server.withBuf, header, got, ne_eq, not_true_eq_false, ↓reduceIte, entries]
    exact congrArg (fun ran => ran.1.map fun server => (server, ran.2)) sent
  · have status := congrArg (fun field => field.getD 0 0#8) (data.front 13 1 (by decide))
    simp only [getD_window, Image.byte_field Nat.one_pos] at status
    refine status.trans ?_
    show Image.byte head 13 = serverAck
    rw [Image.byte_put (by simp), if_neg (by omega), Image.byte_put (by simp), if_neg (by simp),
      Image.byte_put (by simp)]
    rfl
  · have count : leValue (window reply 18 2) = (log.take (pData.num 1 2)).reverse.length := by
      rw [data.front 18 2 (by decide)]
      have field : head.field 18 2 = leBytes 2 (min (pData.num 1 2) log.length) :=
        Image.field_put_same _ (by simp)
      refine (congrArg leValue field).trans ?_
      rw [leValue_leBytes (by omega), List.length_reverse, List.length_take]
    rw [replyRecords, count, data.packed]

/-- The newest records are deleted. -/
theorem Holding.attDel (holding : Holding log state) (asks : Asks pData .attDel) : ∃ next,
    serverStep lib stationAddr state pData = some next ∧
      Holding (log.take (log.length - pData.num 1 2)) next := by
  obtain ⟨server, ⟨member, ⟨content, pos, full⟩, faults, clock, replies⟩⟩ := state
  obtain ⟨sized, ⟨bytes, rfl, held⟩, rfl⟩ := holding
  obtain ⟨after, left, ran⟩ := held.del (pData.num 1 2) pos full
  have answered (headed : Server) (io : ServerIo) : (headed.reply 0#8 serverAck).run io =
      (some (headed.withBuf ((headed.buf.put 13 [0#8]).put 14 [serverAck])),
        { io with replies := io.replies ++
          [((headed.buf.put 13 [0#8]).put 14 [serverAck]).field 0 15] }) := rfl
  have stepped :=
    serverStep_asks asks lib stationAddr server
      ⟨member, ⟨some bytes, pos, full⟩, [], clock, replies⟩
  simp only [ServerCmd.execute, serverAttDel, run_bind, run_onAttendance,
    FileProg.attempt_ok, ran, ne_eq,
    not_true_eq_false, ↓reduceIte, answered, Option.map_some] at stepped
  exact ⟨_, stepped, .mk ((sized.withBuf _).withBuf _) ⟨after, rfl, left⟩ rfl⟩

end Commands

/-! ## Pairs of commands -/

section Pairs

variable (lib : CardSearch) (stationAddr : Image 6) (num : Nat)

/-- A request, and the records in the answer. -/
def Fetched (state next : Server × ServerIo) (records : List AttInfo) : Prop :=
  ∃ pData reply, Asks pData .attGet ∧ pData.num 1 2 = num ∧
    serverStep lib stationAddr state pData = some next ∧
    next.2.replies = state.2.replies ++ [reply] ∧ records = replyRecords reply

/-- A request, and a deletion of as many records as were returned. -/
def Pair (state next : Server × ServerIo) (records : List AttInfo) : Prop :=
  ∃ middle pData, Fetched lib stationAddr num state middle records ∧ Asks pData .attDel ∧
    pData.num 1 2 = records.length ∧ serverStep lib stationAddr middle pData = some next

/-- Pairs until a request returns nothing, with the records that each has returned. -/
inductive Drain : Server × ServerIo → List (List AttInfo) → Server × ServerIo → Prop where
  | done {state final} (fetched : Fetched lib stationAddr num state final []) : Drain state [] final
  | pair {state next final records pages} (pair : Pair lib stationAddr num state next records)
      (some_left : records ≠ []) (later : Drain next pages final) :
      Drain state (records :: pages) final

/-- The records deleted are those returned, whenever a pair is made. -/
def PairsExact (state : Server × ServerIo) : Prop :=
  ∀ reached next records, Relation.ReflTransGen
    (fun state next => ∃ records, Pair lib stationAddr num state next records)
    state reached → Pair lib stationAddr num reached next records →
    (storedRecords reached.2.attendance.bytes).Perm
      (storedRecords next.2.attendance.bytes ++ records)

/-- Every pair is exact, and the pairs come to an end with every record returned once. -/
structure DrainsExactly (state : Server × ServerIo) : Prop where
  exact : PairsExact lib stationAddr num state
  ends : ∃ pages final, Drain lib stationAddr num state pages final
  delivers : ∀ pages final, Drain lib stationAddr num state pages final →
    pages.flatten.Perm (storedRecords state.2.attendance.bytes)

end Pairs

/-- In every round the newest records left are, in some order, the oldest ones. -/
def RoundsAgree (log : List AttInfo) (num : Nat) : Prop :=
  ∀ round, let left := log.take (log.length - num * round)
    (left.drop (left.length - num)).Perm (left.take num)

/-- Different records agree only when all are asked for. -/
theorem roundsAgree_nodup {log : List AttInfo} {num : Nat} (positive : 1 ≤ num)
    (different : log.Nodup) :
    RoundsAgree log num ↔ log.length ≤ num := by
  constructor
  · intro agree
    by_contra exceeds
    have first := agree 0
    rw [Nat.mul_zero, Nat.sub_zero, List.take_length] at first
    obtain ⟨oldest, rest, rfl⟩ := List.exists_cons_of_length_pos (show 0 < log.length by omega)
    have returned : oldest ∈ (oldest :: rest).take num := by
      rw [← Nat.succ_pred_eq_of_pos positive]
      exact List.mem_cons_self
    have deleted : oldest ∈ rest := by
      have behind := first.mem_iff.mpr returned
      rw [← Nat.succ_pred_eq_of_pos (show 0 < (oldest :: rest).length - num by omega)] at behind
      exact List.mem_of_mem_drop behind
    exact (List.nodup_cons.mp different).1 deleted
  · intro all round
    have few : (log.take (log.length - num * round)).length ≤ num := by
      rw [List.length_take]
      omega
    dsimp only
    rw [Nat.sub_eq_zero_of_le few, List.drop_zero, List.take_of_length_le few]

section Runs

variable {lib : CardSearch} {stationAddr : Image 6} {log : List AttInfo} {num : Nat}
  {state next : Server × ServerIo} {records : List AttInfo}

theorem Holding.fetched (holding : Holding log state) (bound : num ≤ 10)
    (fetched : Fetched lib stationAddr num state next records) : records = (log.take num).reverse ∧
      Holding log next := by
  obtain ⟨pData, reply, asks, rfl, stepped, sent, rfl⟩ := fetched
  obtain ⟨next', reply', stepped', kept, sent', -, same⟩ := holding.attGet asks bound
  cases Option.some.inj (stepped.symm.trans stepped')
  cases List.singleton_inj.mp (List.append_cancel_left (sent.symm.trans sent'))
  exact ⟨same, kept⟩

/-- A pair returns the oldest records and deletes as many of the newest. -/
theorem Holding.pair (holding : Holding log state) (bound : num ≤ 10)
    (pair : Pair lib stationAddr num state next records) :
    records = (log.take num).reverse ∧ Holding (log.take (log.length - num)) next := by
  obtain ⟨middle, pData, fetched, asks, count, stepped⟩ := pair
  obtain ⟨same, kept⟩ := holding.fetched bound fetched
  obtain ⟨next', stepped', left⟩ := kept.attDel asks
  cases Option.some.inj (stepped.symm.trans stepped')
  have clipped : log.length - min num log.length = log.length - num := by omega
  rw [count, same, List.length_reverse, List.length_take, clipped] at left
  exact ⟨same, left⟩

theorem Holding.exists_fetched (lib : CardSearch) (stationAddr : Image 6)
    (holding : Holding log state) (bound : num ≤ 10) :
    ∃ next, Fetched lib stationAddr num state next (log.take num).reverse ∧ Holding log next := by
  have asks : Asks (serverFrame 5#8 (leBytes 2 num)) .attGet :=
    asks_serverFrame rfl (by simp [ServerCmd.crcLenth]) (by simp)
  have size : (serverFrame 5#8 (leBytes 2 num)).num 1 2 = num := num_countFrame (by omega)
  obtain ⟨next, reply, stepped, kept, sent, -, same⟩ := holding.attGet asks (by omega)
  rw [size] at same
  exact ⟨next, ⟨_, reply, asks, size, stepped, sent, same.symm⟩, kept⟩

theorem Holding.exists_pair (lib : CardSearch) (stationAddr : Image 6) (holding : Holding log state)
    (bound : num ≤ 10) :
    ∃ next, Pair lib stationAddr num state next (log.take num).reverse ∧
      Holding (log.take (log.length - num)) next := by
  obtain ⟨middle, fetched, kept⟩ := holding.exists_fetched lib stationAddr bound
  have few : (log.take num).reverse.length < 2 ^ 16 := by
    rw [List.length_reverse, List.length_take]
    omega
  have asks : Asks (serverFrame 9#8 (leBytes 2 (log.take num).reverse.length)) .attDel :=
    asks_serverFrame rfl (by simp [ServerCmd.crcLenth]) (by simp)
  have size := @num_countFrame 9#8 _ few
  obtain ⟨next, stepped, -⟩ := kept.attDel asks
  have pair : Pair lib stationAddr num state next (log.take num).reverse :=
    ⟨middle, _, fetched, asks, size, stepped⟩
  exact ⟨next, pair, (holding.pair bound pair).2⟩

/-- After some pairs the oldest records are left, fewer by `num` for each. -/
theorem Holding.reached (holding : Holding log state) (bound : num ≤ 10)
    {reached : Server × ServerIo}
    (pairs : Relation.ReflTransGen (fun state next => ∃ records,
      Pair lib stationAddr num state next records) state reached) :
    ∃ round, Holding (log.take (log.length - num * round)) reached := by
  induction pairs with
  | refl => exact ⟨0, by rwa [Nat.mul_zero, Nat.sub_zero, List.take_length]⟩
  | tail _ pair ih =>
    obtain ⟨round, left⟩ := ih
    obtain ⟨records, pair⟩ := pair
    have size : min (min (log.length - num * round) log.length - num) (log.length - num * round) =
        log.length - num * (round + 1) := by
      rw [Nat.mul_succ]
      omega
    have fewer := (left.pair bound pair).2
    rw [List.length_take, List.take_take, size] at fewer
    exact ⟨round + 1, fewer⟩

theorem Holding.reaches (lib : CardSearch) (stationAddr : Image 6) (holding : Holding log state)
    (bound : num ≤ 10) (round : Nat) : ∃ reached, Relation.ReflTransGen
      (fun state next => ∃ records, Pair lib stationAddr num state next records) state reached ∧
        Holding (log.take (log.length - num * round)) reached := by
  induction round with
  | zero => exact ⟨state, .refl, by rwa [Nat.mul_zero, Nat.sub_zero, List.take_length]⟩
  | succ round ih =>
    obtain ⟨reached, pairs, left⟩ := ih
    obtain ⟨next, pair, fewer⟩ := left.exists_pair lib stationAddr bound
    have size : min (min (log.length - num * round) log.length - num) (log.length - num * round) =
        log.length - num * (round + 1) := by
      rw [Nat.mul_succ]
      omega
    rw [List.length_take, List.take_take, size] at fewer
    exact ⟨next, pairs.tail ⟨_, pair⟩, fewer⟩

/-- A pair is exact when the newest records are the oldest ones. -/
theorem Holding.exact_iff (holding : Holding log state) (bound : num ≤ 10)
    (pair : Pair lib stationAddr num state next records) :
    (storedRecords state.2.attendance.bytes).Perm
      (storedRecords next.2.attendance.bytes ++ records) ↔
      (log.drop (log.length - num)).Perm (log.take num) := by
  obtain ⟨rfl, left⟩ := holding.pair bound pair
  rw [holding.stored, left.stored]
  have halves := List.take_append_drop (log.length - num) log
  nth_rewrite 1 [← halves]
  rw [List.perm_append_left_iff]
  have turned := (log.take num).reverse_perm
  exact ⟨fun same => same.trans turned, fun same => same.trans turned.symm⟩

theorem Holding.pairsExact_iff (holding : Holding log state) (bound : num ≤ 10) :
    PairsExact lib stationAddr num state ↔ RoundsAgree log num := by
  constructor
  · intro exact round
    obtain ⟨reached, pairs, left⟩ := holding.reaches lib stationAddr bound round
    obtain ⟨next, pair, -⟩ := left.exists_pair lib stationAddr bound
    exact (left.exact_iff bound pair).mp (exact reached next _ pairs pair)
  · intro agree reached next records pairs pair
    obtain ⟨round, left⟩ := holding.reached bound pairs
    exact (left.exact_iff bound pair).mpr (agree round)

/-- Every drain of exact pairs delivers all. -/
theorem Drain.delivers {pages : List (List AttInfo)} {final : Server × ServerIo}
    (drain : Drain lib stationAddr num state pages final) (positive : 1 ≤ num) (bound : num ≤ 10)
    {log : List AttInfo} (holding : Holding log state)
    (exact : PairsExact lib stationAddr num state) :
      pages.flatten.Perm log := by
  induction drain generalizing log with
  | done fetched =>
    have none_left := (holding.fetched bound fetched).1
    rw [eq_comm, List.reverse_eq_nil_iff, List.take_eq_nil_iff] at none_left
    rw [none_left.resolve_left (by omega)]
    exact .refl _
  | @pair state next final records pages pair _ later ih =>
    have left := (holding.pair bound pair).2
    have rest := ih left fun reached next records pairs =>
        exact reached next records (.head ⟨_, pair⟩ pairs)
    have whole := exact state next records .refl pair
    rw [holding.stored, left.stored] at whole
    rw [List.flatten_cons]
    exact ((rest.append_left records).trans List.perm_append_comm).trans whole.symm

theorem Holding.exists_drain (lib : CardSearch) (stationAddr : Image 6) (positive : 1 ≤ num)
    (bound : num ≤ 10) (holding : Holding log state) :
    ∃ pages final, Drain lib stationAddr num state pages final := by
  induction counted : log.length using Nat.strong_induction_on generalizing log state with
  | _ count ih =>
    by_cases empty : log = []
    · subst empty
      obtain ⟨final, fetched, -⟩ := holding.exists_fetched lib stationAddr bound
      rw [List.take_nil, List.reverse_nil] at fetched
      exact ⟨[], final, .done fetched⟩
    · obtain ⟨next, pair, left⟩ := holding.exists_pair lib stationAddr bound
      have some_left := List.length_pos_iff.mpr empty
      have fewer : (log.take (log.length - num)).length < count := by
        rw [List.length_take]
        omega
      obtain ⟨pages, final, later⟩ := ih _ fewer left rfl
      refine ⟨_ :: pages, final, .pair pair ?_ later⟩
      rw [ne_eq, List.reverse_eq_nil_iff, List.take_eq_nil_iff]
      exact fun none_returned => none_returned.elim (by omega) empty

/-- A log is drained exactly when in every round the newest records left are the
oldest ones, in some order. -/
theorem drainsExactly_iff (holding : Holding log state) (positive : 1 ≤ num) (bound : num ≤ 10) :
    DrainsExactly lib stationAddr num state ↔ RoundsAgree log num := by
  rw [← @Holding.pairsExact_iff lib stationAddr _ _ _ holding bound]
  constructor
  · exact DrainsExactly.exact
  · intro exact
    refine ⟨exact, holding.exists_drain lib stationAddr positive bound, fun pages final drain => ?_⟩
    rw [holding.stored]
    exact drain.delivers positive bound holding exact

end Runs

/-! ## Two records -/

/-- A file with the records of a list. -/
def logFile (log : List AttInfo) : List Byte :=
  (AttHeader.withCrc (.setTotal (.zero 8) log.length)).bytes ++ log.flatMap Image.bytes

theorem refines_logFile {log : List AttInfo} (fits : log.length < 2 ^ 32)
    (intact : ∀ info ∈ log, info.Valid) :
    Refines (logFile log) log := by
  have size := (AttHeader.withCrc (.setTotal (.zero 8) log.length)).size
  have header : Image.stored 8 (logFile log) 0 = AttHeader.withCrc
      (.setTotal (.zero 8) log.length) := by
    apply Image.ext
    have whole := window_all (AttHeader.withCrc (.setTotal (.zero 8) log.length)).bytes
    rw [size] at whole
    exact (window_append_left (by rw [size])).trans whole
  refine ⟨?_, ?_, ?_, fun i bound => ?_, intact⟩
  · rw [header]
    exact AttHeader.valid_withCrc _
  · rw [header]
    exact AttHeader.total_setTotal _ fits
  · rw [logFile, List.length_append, size, length_entries]
  · have behind :=
      window_append_right (AttHeader.withCrc (.setTotal (.zero 8) log.length)).bytes
        (log.flatMap Image.bytes) (53 * i) 53
    rw [size] at behind
    exact Image.ext (behind.trans (window_entries bound))

theorem holding_logFile {log : List AttInfo} (fits : log.length < 2 ^ 32)
    (intact : ∀ info ∈ log, info.Valid) :
    Holding log (.initial, .fresh none (some (logFile log)) []) :=
  ⟨Server.sized_initial, ⟨_, rfl, refines_logFile fits intact⟩, rfl⟩

/-- Two records, both asked for. -/
theorem drainsExactly_both : DrainsExactly (.reference cardCompar_consistent) (.zero 6) 2
    (.initial, .fresh none (some (logFile [sampleInfo 1, sampleInfo 2])) []) := by
  have intact : ∀ info ∈ [sampleInfo 1, sampleInfo 2], info.Valid := by
    simp [sampleInfo, AttInfo.valid_withCrc]
  refine (drainsExactly_iff (holding_logFile (by decide) intact) (by decide) (by decide)).mpr ?_
  exact (roundsAgree_nodup (by decide) (by simp; decide +kernel)).mpr (Nat.le_refl 2)

/-- Asked for one by one, the older record is returned and the newer one deleted. -/
theorem drainsExactly_single : ¬ DrainsExactly (.reference cardCompar_consistent) (.zero 6) 1
    (.initial, .fresh none (some (logFile [sampleInfo 1, sampleInfo 2])) []) := by
  intro drains
  have intact : ∀ info ∈ [sampleInfo 1, sampleInfo 2], info.Valid := by
    simp [sampleInfo, AttInfo.valid_withCrc]
  have agree := ((holding_logFile (by decide) intact).pairsExact_iff (by decide)).mp drains.exact
  have few := (roundsAgree_nodup (by decide) (by simp; decide +kernel)).mp agree
  exact absurd few (by decide)

end WifiAccess

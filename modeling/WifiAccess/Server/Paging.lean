import WifiAccess.Server.Session
import WifiAccess.User.Live

/-! The CRCs of all users, asked for page by page. -/

namespace WifiAccess

/-- The CRC fields of slots that follow one another. -/
def slotCrcs (bytes : List Byte) (first count : Nat) : List (Image 4) :=
  (List.range' first count).map fun userId => .stored 4 bytes (slotOffset userId + 1038)

section Loop

open FileProg

variable {bytes : List Byte} {pos : Nat} {full : Bool}

theorem userCrcGetLoop_run {left i getCount : Nat} {crc : List (Image 4)} (positive : i ≠ 0)
    (bound : i + left ≤ 2 ^ 16) (room : getCount + left ≤ crc.length)
    (inside : ∀ userId, i ≤ userId → userId < i + left → slotOffset userId + 1058 ≤ bytes.length) :
    ∃ pos', (userCrcGetLoop left i getCount crc).run ⟨some bytes, pos, full⟩ =
      (some (some (getCount + left), overwrite crc getCount (slotCrcs bytes i left)),
        ⟨some bytes, pos', full⟩) := by
  induction left generalizing i getCount crc pos with
  | zero =>
    refine ⟨pos, ?_⟩
    rw [slotCrcs, List.range'_zero, List.map_nil, overwrite_nil]
    rfl
  | succ left ih =>
    have whole := inside i (Nat.le_refl i) (by omega)
    have here : slotOffset i + 1038 + 4 ≤ bytes.length := by omega
    have more : getCount + 1 + left ≤
        (crc.set getCount (.stored 4 bytes (slotOffset i + 1038))).length := by
      rw [List.length_set]
      omega
    obtain ⟨pos', ran⟩ :=
      @ih (slotOffset i + 1038 + 4) (i + 1) (getCount + 1) _ (Nat.succ_ne_zero i) (by omega) more
      fun userId first last => inside userId (by omega) (by omega)
    refine ⟨pos', ?_⟩
    have total : getCount + 1 + left = getCount + (left + 1) := by omega
    rw [userCrcGetLoop_step positive (by omega) (by omega) here, ran,
      overwrite_set (by omega), total]
    rfl

/-- A page from `start` on, and how it ends when there is none. -/
theorem UserFile.userCrcGet (file : UserFile bytes) (users : largestUser bytes ≠ 0)
    {crc : List (Image 4)} {start num : Nat} (room : num ≤ crc.length) :
    ∃ pos', (userCrcGet crc start num).run ⟨some bytes, pos, full⟩ =
      (if start > largestUser bytes then some (some 0, crc)
        else if start = 0 then some (none, crc)
        else
          let count := clippedNum start num (largestUser bytes)
          some (some count, overwrite crc 0 (slotCrcs bytes start count)),
            ⟨some bytes, pos', full⟩) := by
  have nonempty : bytes ≠ [] := by
    rintro rfl
    exact users rfl
  obtain ⟨counted_pos, counted⟩ := file.userNumGet nonempty pos full
  have size := file.whole.resolve_left nonempty
  have few := file.few
  have within := file.largestUser_inside.1
  unfold WifiAccess.userCrcGet
  simp only [run_bind, counted, run_ite, run_pure]
  by_cases past : start > largestUser bytes
  · rw [if_pos past, if_pos past]
    exact ⟨counted_pos, rfl⟩
  · rw [if_neg past, if_neg past]
    by_cases zero : start = 0
    · rw [if_pos zero, if_pos zero]
      exact ⟨counted_pos, rfl⟩
    · rw [if_neg zero, if_neg zero]
      have bound := @clippedNum_bound start num (largestUser bytes) (by omega)
      have clipped : clippedNum start num (largestUser bytes) ≤ num := by
        unfold clippedNum
        split <;> omega
      obtain ⟨pos', ran⟩ :=
        @userCrcGetLoop_run bytes 0 full (clippedNum start num (largestUser bytes)) start 0 crc
        zero (by omega) (by omega) fun userId _ last => by
          unfold slotOffset
          omega
      refine ⟨pos', ?_⟩
      have small : clippedNum start num (largestUser bytes) % 2 ^ 16 =
          clippedNum start num (largestUser bytes) :=
        Nat.mod_eq_of_lt (by omega)
      rw [← clippedNum]
      simp only [run_openCreate, FileState.bytes, Option.getD_some, ↓reduceIte, ran, run_close,
        Option.map_some,
        Nat.zero_add, small]

end Loop

/-! ## A page -/

open ServerProg

/-- The stored CRCs of users that follow one another. -/
def userCrcs (bytes : List Byte) (first count : Nat) : List Nat :=
  (List.range' first count).map fun userId => (slot bytes userId).crc

/-- The values in a reply, as many as it says it has. -/
def pageCrcs (reply : List Byte) : List Nat :=
  (packed 4 (leValue (window reply 16 2)) reply 18).map fun crc => crc.num 0 4

theorem num_slotCrcs (bytes : List Byte) (first count : Nat) :
    (slotCrcs bytes first count).map (fun crc => crc.num 0 4) = userCrcs bytes first count := by
  rw [slotCrcs, userCrcs, List.map_map]
  refine List.map_congr_left fun userId _ => ?_
  have field : window (window bytes (slotOffset userId + 1038) 4) 0 4 =
      window (window bytes (slotOffset userId) 1058) 1038 4 := by
    rw [window_window _ (by decide), window_window _ (by decide), Nat.add_zero]
  exact congrArg leValue field

/-- An acknowledged page: the largest user id, the number of values and the values. -/
structure PageReply (bytes : List Byte) (start num : Nat) (reply : List Byte) : Prop where
  status : reply.getD 13 0#8 = serverAck
  largest : leValue (window reply 14 2) = largestUser bytes
  count : leValue (window reply 16 2) = min num (largestUser bytes + 1 - start)
  values : pageCrcs reply = userCrcs bytes start (min num (largestUser bytes + 1 - start))

/-- The answer to a request from `start` on; user ids begin with 1. -/
def PageAnswer (bytes : List Byte) (start num : Nat) (reply : List Byte) : Prop :=
  if start = 0 then reply.getD 13 0#8 = serverNack else PageReply bytes start num reply

section Page

variable {bytes : List Byte}

/-- The reply that is put together from the CRCs. -/
theorem PageReply.of_dataReply {head : Image 1024} {start num : Nat} {reply : List Byte}
    (small : largestUser bytes < 2 ^ 16) {crcs : List (Image 4)} (few : crcs.length < 2 ^ 16)
    (stored : crcs = slotCrcs bytes start (min num (largestUser bytes + 1 - start)))
    (status : head.byte 13 = serverAck) (largest : head.field 14 2 = leBytes 2 (largestUser bytes))
    (count : head.field 16 2 = leBytes 2 crcs.length)
    (sent : DataReply head 18 (crcs.flatMap Image.bytes) reply) :
    PageReply bytes start num reply := by
  have counted : leValue (window reply 16 2) = crcs.length := by
    rw [sent.front 16 2 (by decide), count, leValue_leBytes few]
  have size : crcs.length = min num (largestUser bytes + 1 - start) := by
    rw [stored, slotCrcs, List.length_map, List.length_range']
  constructor
  · have first := congrArg (fun field => field.getD 0 0#8) (sent.front 13 1 (by decide))
    simp only [getD_window, Image.byte_field Nat.one_pos] at first
    exact first.trans status
  · rw [sent.front 14 2 (by decide), largest, leValue_leBytes small]
  · rw [counted, size]
  · rw [pageCrcs, counted, sent.packed, stored, num_slotCrcs]

/-- Requests for pages meet a server like this, and leave one. -/
structure Paging (bytes : List Byte) (state : Server × ServerIo) : Prop where
  sized : state.1.Sized
  member : state.2.member.content = some bytes
  working : state.2.faults = []

/-- The last steps of a request that has got its CRCs. -/
theorem page_sent {server : Server} {io : ServerIo} {start num count : Nat}
    {userCrc : List (Image 4)} (small : largestUser bytes < 2 ^ 16) (held : userCrc.length = 100)
    (bound : count ≤ 100)
    (stored : userCrc.take count = slotCrcs bytes start (min num (largestUser bytes + 1 - start))) :
    let buf := (server.buf.put 13 [serverAck]).put 14 (leBytes 2 (largestUser bytes))
    ∃ next reply,
      (Server.replyEntries
      (Server.withBuf { server with userCrc := userCrc } (buf.put 16 (leBytes 2 count))) 18
        ((userCrc.take count).flatMap Image.bytes)).run io =
          (some next, { io with replies := io.replies ++ [reply] }) ∧
      (server.Sized → next.Sized) ∧ PageReply bytes start num reply := by
  intro buf
  have few : (userCrc.take count).length = count := by
    rw [List.length_take]
    omega
  obtain ⟨final, reply, ran, sent⟩ := Server.replyEntries_run
    (Server.withBuf { server with userCrc := userCrc } (buf.put 16 (leBytes 2 count)))
    (show 18 + ((userCrc.take count).flatMap Image.bytes).length + 4 ≤ 1024 by
      rw [length_entries]; omega) io
  refine ⟨_, reply, ran, fun sized => ⟨sized.attInfo, held⟩, ?_⟩
  refine .of_dataReply small (by omega) stored ?_ ?_ ?_ sent
  · show Image.byte (buf.put 16 (leBytes 2 count)) 13 = serverAck
    rw [Image.byte_put (by simp), if_neg (by omega), Image.byte_put (by simp), if_neg (by omega),
      Image.byte_put (by simp)]
    rfl
  · show Image.field (buf.put 16 (leBytes 2 count)) 14 2 = leBytes 2 (largestUser bytes)
    rw [Image.field_put_apart (by simp) (.inl (by decide))]
    exact Image.field_put_same _ (by simp)
  · show Image.field (buf.put 16 (leBytes 2 count)) 16 2 = leBytes 2 (userCrc.take count).length
    rw [few]
    exact Image.field_put_same _ (by simp)

theorem serverUserCrcGet_page (file : UserFile bytes) (users : largestUser bytes ≠ 0)
    {server : Server} {io : ServerIo} (paging : Paging bytes (server, io)) {pData : ServerData}
    (bound : pData.num 3 2 ≤ 100) :
    ∃ next member reply, (serverUserCrcGet pData server).run io =
        (some next, { io with member := member, replies := io.replies ++ [reply] }) ∧ next.Sized ∧
      member.content = some bytes ∧ PageAnswer bytes (pData.num 1 2) (pData.num 3 2) reply := by
  obtain ⟨⟨content, pos, full⟩, attendance, faults, clock, replies⟩ := io
  obtain ⟨sized, held, working⟩ := paging
  dsimp only at sized held working
  subst held working
  have nonempty : bytes ≠ [] := by
    rintro rfl
    exact users rfl
  have few := file.few
  have within := file.largestUser_inside.1
  obtain ⟨middle, counted⟩ := file.userNumGet nonempty pos full
  obtain ⟨last, got⟩ :=
    @UserFile.userCrcGet bytes middle full file users server.userCrc (pData.num 1 2) (pData.num 3 2)
    (by rw [sized.userCrc]; exact bound)
  unfold serverUserCrcGet
  rw [run_bind, run_onMember, FileProg.attempt_ok, counted]
  simp only [run_bind, run_onMember, FileProg.attempt_ok, got]
  by_cases past : pData.num 1 2 > largestUser bytes
  · have zero : pData.num 1 2 ≠ 0 := by omega
    rw [if_pos past]
    obtain ⟨next, reply, ran, kept, page⟩ := @page_sent bytes server
      ⟨⟨some bytes, last, full⟩, attendance, [], clock, replies⟩ (pData.num 1 2) (pData.num 3 2) 0
        server.userCrc
      (by omega) sized.userCrc (Nat.zero_le _) (by
        have none_left : largestUser bytes + 1 - pData.num 1 2 = 0 := by omega
        rw [none_left, Nat.min_zero]
        rfl)
    exact ⟨next, _, reply, ran, kept sized, rfl, (if_neg zero).mpr page⟩
  · rw [if_neg past]
    by_cases zero : pData.num 1 2 = 0
    · rw [if_pos zero]
      obtain ⟨buf, reply, ran, -, status⟩ :=
        Server.refuse_run { server with userCrc := server.userCrc }
        ⟨⟨some bytes, last, full⟩, attendance, [], clock, replies⟩
      exact ⟨_, _, reply, ran, ⟨sized.attInfo, sized.userCrc⟩, rfl, (if_pos zero).mpr status⟩
    · rw [if_neg zero]
      have clipped : clippedNum (pData.num 1 2) (pData.num 3 2) (largestUser bytes) =
          min (pData.num 3 2) (largestUser bytes + 1 - pData.num 1 2) := by
        unfold clippedNum
        split <;> omega
      rw [clipped]
      generalize counted : min (pData.num 3 2) (largestUser bytes + 1 - pData.num 1 2) = count
      have few : (slotCrcs bytes (pData.num 1 2) count).length = count := by
        rw [slotCrcs, List.length_map, List.length_range']
      have held : (overwrite server.userCrc 0 (slotCrcs bytes (pData.num 1 2) count)).length =
          100 := by
        rw [length_overwrite (by rw [few, sized.userCrc]; omega), sized.userCrc]
      obtain ⟨next, reply, ran, kept, page⟩ := @page_sent bytes server
        ⟨⟨some bytes, last, full⟩, attendance, [], clock, replies⟩ (pData.num 1 2)
          (pData.num 3 2) count
        (overwrite server.userCrc 0 (slotCrcs bytes (pData.num 1 2) count)) (by omega) held
          (by omega) (by
          rw [counted, overwrite, List.take_zero, List.nil_append]
          exact List.take_left' few)
      exact ⟨next, _, reply, ran, kept sized, rfl, (if_neg zero).mpr page⟩

end Page

/-! ## All pages -/

/-- The requests' starts: one, and a page further each time, up to the last user. -/
def pageStarts (last num : Nat) : List Nat := List.range' 1 ((last + num - 1) / num) num

theorem mem_pageStarts {last num start : Nat} (positive : 0 < num) :
    start ∈ pageStarts last num ↔ ∃ k, start = 1 + num * k ∧ start ≤ last := by
  rw [pageStarts, List.mem_range']
  constructor
  · rintro ⟨k, few, rfl⟩
    have inside := (Nat.lt_div_iff_mul_lt positive).mp few
    exact ⟨k, rfl, by rw [Nat.mul_comm]; omega⟩
  · rintro ⟨k, rfl, inside⟩
    refine ⟨k, (Nat.lt_div_iff_mul_lt positive).mpr ?_, rfl⟩
    rw [Nat.mul_comm]
    omega

/-- A range cut in pages. -/
theorem range'_pages {num : Nat} (pages first count : Nat) (covered : count ≤ num * pages) :
    (List.range' first pages num).flatMap
      (fun start => List.range' start (min num (first + count - start))) =
      List.range' first count := by
  induction pages generalizing first count with
  | zero =>
    have none_left : count = 0 := by omega
    rw [none_left]
    rfl
  | succ pages ih =>
    have rest : (List.range' (first + num) pages num).flatMap
        (fun start => List.range' start (min num (first + count - start))) =
        List.range' (first + num) (count - num) := by
      rw [← ih (first + num) (count - num) (by rw [Nat.mul_succ] at covered; omega)]
      refine List.flatMap_congr fun start later => ?_
      obtain ⟨k, -, rfl⟩ := List.mem_range'.mp later
      have same : first + count - (first + num + num * k) = first + num + (count - num) -
          (first + num + num * k) := by omega
      rw [same]
    have parts := @List.range'_append first (min num count) (count - num) 1
    rw [List.range'_succ, List.flatMap_cons, rest, Nat.add_sub_cancel_left]
    rcases Nat.le_total num count with more | last
    · rw [Nat.min_eq_left more, Nat.one_mul] at parts
      rw [Nat.min_eq_left more, parts]
      congr 1
      omega
    · have none_left : count - num = 0 := by omega
      rw [none_left, Nat.min_eq_right last, List.range'_zero, List.append_nil]

section Pages

variable {bytes : List Byte} {requests : List ServerData} {num : Nat} (lib : CardSearch)
  (stationAddr : Image 6)

/-- Requests for pages, in any order. -/
theorem pages_run (file : UserFile bytes) (users : largestUser bytes ≠ 0) (bound : num ≤ 100)
    {state : Server × ServerIo} (paging : Paging bytes state)
    (asks : ∀ pData ∈ requests, Asks pData .userCrcGet ∧ pData.num 3 2 = num) :
    ∃ final replies, runMoves (serverStep lib stationAddr) state requests = some final ∧
      Paging bytes final ∧
      final.2.replies = state.2.replies ++ replies ∧
      List.Forall₂ (fun pData reply => PageAnswer bytes (pData.num 1 2) num reply) requests
        replies := by
  induction requests generalizing state with
  | nil => exact ⟨state, [], rfl, paging, (List.append_nil _).symm, .nil⟩
  | cons pData rest ih =>
    obtain ⟨server, io⟩ := state
    obtain ⟨asked, size⟩ := asks pData List.mem_cons_self
    have headed : Paging bytes (server.withHead stationAddr (pData.byte 0), io) :=
      ⟨⟨paging.sized.attInfo, paging.sized.userCrc⟩, paging.member, paging.working⟩
    obtain ⟨next, member, reply, ran, sized, held, answer⟩ :=
      serverUserCrcGet_page file users headed
      (show pData.num 3 2 ≤ 100 by rwa [size])
    rw [size] at answer
    have stepped : serverStep lib stationAddr (server, io) pData =
        some (next, { io with member := member, replies := io.replies ++ [reply] }) := by
      rw [serverStep_asks asked]
      simp only [ServerCmd.execute, ran, Option.map_some]
    obtain ⟨final, replies, later, kept, sent, answers⟩ :=
      @ih (next, { io with member := member, replies := io.replies ++ [reply] })
        ⟨sized, held, paging.working⟩
        fun pData later => asks pData (List.mem_cons_of_mem _ later)
    refine ⟨final, reply :: replies, ?_, kept, ?_, .cons answer answers⟩
    · rw [runMoves, stepped]
      exact later
    · rw [sent, List.append_assoc, List.singleton_append]

/-- The values of answers to requests from users on. -/
theorem pageCrcs_answers {replies : List (List Byte)}
    (positive : ∀ pData ∈ requests, pData.num 1 2 ≠ 0)
    (answers : List.Forall₂ (fun pData reply => PageAnswer bytes (pData.num 1 2) num reply)
      requests replies) :
    replies.flatMap pageCrcs = (requests.map (fun pData => pData.num 1 2)).flatMap
      fun start => userCrcs bytes start (min num (largestUser bytes + 1 - start)) := by
  induction answers with
  | nil => rfl
  | @cons pData reply rest replies answer answers ih =>
    have page : PageReply bytes (pData.num 1 2) num reply :=
      (if_neg (positive pData List.mem_cons_self)).mp answer
    rw [List.flatMap_cons, List.map_cons, List.flatMap_cons, page.values,
      ih fun pData later => positive pData (List.mem_cons_of_mem _ later)]

theorem userCrcs_pages (bytes : List Byte) {last : Nat} (positive : 0 < num) :
    (pageStarts last num).flatMap
    (fun start => userCrcs bytes start (min num (last + 1 - start))) = userCrcs bytes 1 last := by
  have covered : last ≤ num * ((last + num - 1) / num) := by
    have upper := Nat.lt_mul_div_succ (last + num - 1) positive
    rw [Nat.mul_add, Nat.mul_one] at upper
    omega
  rw [userCrcs, ← range'_pages _ 1 last covered, List.map_flatMap, pageStarts, Nat.add_comm 1 last]
  rfl

/-- Requests for pages of `num` users are answered in turn: one from user id 0 is
refused, any other returns the stored CRCs of its page, and the pages from 1 to the
largest user id are together the CRCs of all users, deleted ones with 0. -/
theorem userCrcGet_pages (file : UserFile bytes) (users : 1 ≤ largestUser bytes)
    (positive : 1 ≤ num) (bound : num ≤ 100) (server : Server) (io : ServerIo)
    (paging : Paging bytes (server, io))
    (asks : ∀ pData ∈ requests, Asks pData .userCrcGet ∧ pData.num 3 2 = num) :
    ∃ final replies, runMoves (serverStep lib stationAddr) (server, io) requests = some final ∧
      final.2.member.content = some bytes ∧ final.2.replies = io.replies ++ replies ∧
      List.Forall₂ (fun pData reply => PageAnswer bytes (pData.num 1 2) num reply)
        requests replies ∧
      (requests.map (fun pData => pData.num 1 2) = pageStarts (largestUser bytes) num →
        replies.flatMap pageCrcs = userCrcs bytes 1 (largestUser bytes)) ∧
      ∀ userId, 1 ≤ userId → userId ∉ liveSlots bytes → (slot bytes userId).crc = 0 := by
  obtain ⟨final, replies, ran, kept, sent, answers⟩ :=
    pages_run lib stationAddr file (by omega) bound paging asks
  refine ⟨final, replies, ran, kept.member, sent, answers, fun starts =>
    ?_, fun userId present deleted => ?_⟩
  · have nonzero : ∀ pData ∈ requests, pData.num 1 2 ≠ 0 := by
      intro pData asked
      have start := List.mem_map_of_mem (f := fun pData => Image.num pData 1 2) asked
      rw [starts, mem_pageStarts positive] at start
      obtain ⟨k, same, -⟩ := start
      omega
    rw [pageCrcs_answers nonzero answers, starts, userCrcs_pages bytes positive]
  · have unused : slot bytes userId = .zero 1058 := by
      rcases file.own userId (by omega) with zero | own
      · exact zero
      · exact absurd (file.mem_liveSlots.mpr ⟨by omega, by omega⟩) deleted
    rw [unused]
    exact (congrArg leValue (window_zeros 1058 1038 4)).trans (leValue_zeros 4)

end Pages

/-- Both CRCs of two users, one a page. -/
theorem userCrcGet_pages_two :
    let requests :=
  [serverFrame 0x0A#8 [1#8, 0#8, 1#8, 0#8], serverFrame 0x0A#8 [2#8, 0#8, 1#8, 0#8]]
    ∃ final replies, runMoves (serverStep (.reference cardCompar_consistent) (.zero 6))
        (.initial, .fresh (some twoUsers) none []) requests = some final ∧
      final.2.member.content = some twoUsers ∧ final.2.replies = [] ++ replies ∧
      replies.flatMap pageCrcs = userCrcs twoUsers 1 2 := by
  intro requests
  have asks (start : Byte) : Asks (serverFrame 0x0A#8 [start, 0#8, 1#8, 0#8]) .userCrcGet :=
    asks_serverFrame rfl rfl (by simp)
  have num (start : Byte) : (serverFrame 0x0A#8 [start, 0#8, 1#8, 0#8]).num 3 2 = 1 :=
    (num_serverFrame (by simp) (by simp)).trans rfl
  have first (start : Byte) : (serverFrame 0x0A#8 [start, 0#8, 1#8, 0#8]).num 1 2 =
      leValue [start, 0#8] :=
    (num_serverFrame (by simp) (by simp)).trans rfl
  obtain ⟨final, replies, ran, kept, sent, -, whole, -⟩ := @userCrcGet_pages twoUsers requests 1
    (.reference cardCompar_consistent) (.zero 6) userFile_twoUsers
      (by rw [largestUser_twoUsers]; decide) (Nat.le_refl 1)
    (by decide) .initial (.fresh (some twoUsers) none []) ⟨Server.sized_initial, rfl, rfl⟩ (by
      intro pData asked
      simp only [requests, List.mem_cons, List.not_mem_nil, or_false] at asked
      rcases asked with rfl | rfl
      · exact ⟨asks _, num _⟩
      · exact ⟨asks _, num _⟩)
  refine ⟨final, replies, ran, kept, sent, ?_⟩
  rw [← largestUser_twoUsers]
  apply whole
  rw [largestUser_twoUsers, List.map_cons, List.map_cons, first, first]
  rfl

end WifiAccess

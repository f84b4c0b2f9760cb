import WifiAccess.Base.Faults
import WifiAccess.User.Live

/-! `card_array_init`: the links that its loop reads, and what it leaves in the card
list. -/

namespace WifiAccess

open FileProg

/-! ## The reads and the stores of the loop -/

/-- The links that the loop reads from slot `i` on, with the outcomes of its calls, and
the bytes of the read that ends it, if one does. -/
def linksRead (bytes : List Byte) : Nat → Nat → List Bool → List CardLink × Option (List Byte)
  | 0, _, _ => ([], none)
  | left + 1, i, faults =>
    if faults.getD 0 false ∨ faults.getD 1 false then ([], some [])
    else if slotOffset i + 6 ≤ bytes.length then
      let (links, failed) := linksRead bytes left (i + 1) faults.tail.tail
      (.stored 6 bytes (slotOffset i) :: links, failed)
    else ([], some (bytes.drop (slotOffset i)))

/-- Each link goes to the next entry, which the one behind it takes when it has no user. -/
def storeLinks :
    List CardLink → Option (List Byte) → Nat → List CardLink → Option (Option Nat × List CardLink)
  | [], none, effectiveNum, cardArray => some (some effectiveNum, cardArray)
  | [], some got, effectiveNum, cardArray => (storeEntry cardArray effectiveNum got).map
    fun cardArray => (none, cardArray)
  | link :: links, failed, effectiveNum, cardArray =>
    if effectiveNum < cardArray.length then
      storeLinks links failed (if link.userId ≠ 0 then effectiveNum + 1 else effectiveNum)
        (cardArray.set effectiveNum link)
    else none

section Loop

variable {left i effectiveNum : Nat} {cardArray : List CardLink} {file : FileState}
    {faults : List Bool}

theorem storeEntry_none {n : Nat} (entries : List (Image n)) (index : Nat) :
    storeEntry entries index [] = some entries := by
  rcases Nat.lt_or_ge index entries.length with inside | past
  · rw [storeEntry_inside inside, Image.load, Image.put_nil, List.set_getElem_self]
  · rw [storeEntry_past past, if_pos rfl]

/-- The loop stores what it reads. -/
theorem cardArrayInitLoop_attempt (positive : i ≠ 0) (bound : i + left ≤ 2 ^ 16) :
    ((cardArrayInitLoop left i effectiveNum cardArray).attempt file faults).1 =
      storeLinks (linksRead file.bytes left i faults).1 (linksRead file.bytes left i
        faults).2 effectiveNum cardArray := by
  induction left generalizing i effectiveNum cardArray file faults with
  | zero => rfl
  | succ left ih =>
    have addr := slotAddr_pos positive (by omega) 0 (Nat.zero_le 1058)
    have small := slotOffset_small (show i < 2 ^ 16 by omega) 0 (Nat.zero_le 1058)
    rw [Nat.add_zero] at addr small
    have sought := lseek_outcome file faults small
    rw [cardArrayInitLoop, linksRead, attempt_bind, addr, sought]
    by_cases unmoved : faults.getD 0 false = true
    · simp only [unmoved, ↓reduceIte, true_or, storeLinks, storeEntry_none, Bool.false_eq_true]
      rfl
    · simp only [unmoved, ↓reduceIte, false_or, attempt_bind, Bool.false_eq_true]
      have fetched := read_outcome
          { file with content := some (grow file.bytes (slotOffset i)), pos := slotOffset i }
        faults.tail 6
      rw [FileState.getD_tail] at fetched
      rw [fetched]
      by_cases unread : faults.getD 1 false = true
      · simp only [unread, ↓reduceIte, storeLinks, storeEntry_none]
        rfl
      · rw [if_neg unread, if_neg unread]
        by_cases inside : slotOffset i + 6 ≤ file.bytes.length
        · have grown : grow file.bytes (slotOffset i) = file.bytes := grow_within (by omega)
          have got := run_read_inside inside file.full
          rw [if_pos inside, grown, got]
          rcases Nat.lt_or_ge effectiveNum cardArray.length with room | past
          · have entry : (cardArray.set effectiveNum
                (Image.stored 6 file.bytes (slotOffset i))).getD effectiveNum (.zero 6) =
                .stored 6 file.bytes (slotOffset i) := by
              rw [List.getD_eq_getElem?_getD, List.getElem?_set_self room]
              rfl
            rw [storeEntry_inside room, Image.load_window]
            simp only [length_window, ne_eq, not_true_eq_false, ↓reduceIte, entry, storeLinks, room]
            by_cases used : CardLink.userId (.stored 6 file.bytes (slotOffset i)) = 0
            · rw [if_neg (not_not_intro used), if_neg (not_not_intro used)]
              exact ih (Nat.succ_ne_zero i) (by omega)
            · rw [if_pos used, if_pos used]
              exact ih (Nat.succ_ne_zero i) (by omega)
          · have whole : window file.bytes (slotOffset i) 6 ≠ [] := by
              rw [← List.length_pos_iff, length_window]
              decide
            rw [storeEntry_past past, if_neg whole]
            simp only [storeLinks, Nat.not_lt.mpr past, ↓reduceIte]
            rfl
        · have short : ((file.bytes.drop (slotOffset i)).take 6) = file.bytes.drop (slotOffset i) :=
            List.take_of_length_le (by rw [List.length_drop]; omega)
          have few : (file.bytes.drop (slotOffset i)).length ≠ 6 := by
            rw [List.length_drop]
            omega
          rw [if_neg inside, run_read]
          simp only [FileState.bytes, Option.getD_some, drop_grow]
          simp only [FileState.bytes] at short few
          rw [short, storeLinks]
          cases storeEntry cardArray effectiveNum ((file.content.getD []).drop (slotOffset i)) with
          | none => rfl
          | some stored =>
            simp only [few, ne_eq, not_false_eq_true, ↓reduceIte, attempt_pure, Option.map_some]

end Loop

/-! ## What the stores leave -/

/-- The links with a user. -/
def usedLinks (links : List CardLink) : List CardLink := links.filter fun link => link.userId ≠ 0

/-- The last link, when it has no user. -/
def unusedLast (links : List CardLink) : Option CardLink :=
  links.getLast?.filter fun link => link.userId = 0

theorem usedLinks_cons (link : CardLink) (links : List CardLink) :
    usedLinks (link :: links) = if link.userId ≠ 0 then link ::
      usedLinks links else usedLinks links := by
  simp only [usedLinks, List.filter_cons, decide_eq_true_eq]

theorem unusedLast_used {link : CardLink} (used : link.userId ≠ 0) (links : List CardLink) :
    unusedLast (link :: links) = unusedLast links := by
  cases links with
  | nil => simp [unusedLast, used]
  | cons next rest => rw [unusedLast, List.getLast?_cons_cons, unusedLast]

theorem unusedLast_unused {link : CardLink} (unused : link.userId = 0) (links : List CardLink) :
    unusedLast (link :: links) = if links = [] then some link else unusedLast links := by
  cases links with
  | nil => simp [unusedLast, unused]
  | cons next rest => rw [unusedLast, List.getLast?_cons_cons,
    if_neg (List.cons_ne_nil next rest), unusedLast]

/-- Links that all have no user end in one. -/
theorem unusedLast_of_usedLinks {links : List CardLink} (nonempty : links ≠ [])
    (unused : usedLinks links = []) :
    (unusedLast links).isSome := by
  have last := List.getLast?_eq_some_getLast nonempty
  have all := List.filter_eq_nil_iff.mp unused _ (List.getLast_mem nonempty)
  simp only [ne_eq, decide_not, Bool.not_eq_true', decide_eq_false_iff_not, not_not] at all
  rw [unusedLast, last, Option.filter_some, decide_eq_true all]
  rfl

/-- Any links need an entry. -/
theorem entries_needed {links : List CardLink} (nonempty : links ≠ []) :
    0 < (usedLinks links).length + (unusedLast links).toList.length := by
  cases unused : usedLinks links with
  | nil =>
    obtain ⟨link, last⟩ := Option.isSome_iff_exists.mp (unusedLast_of_usedLinks nonempty unused)
    rw [last]
    exact Nat.lt_add_left _ Nat.one_pos
  | cons first rest => exact Nat.lt_add_right _ (Nat.succ_pos _)

section Stored

variable {links : List CardLink} {failed : Option (List Byte)} {effectiveNum : Nat}
    {cardArray : List CardLink}

theorem storeEntry_stored {n index : Nat} {entries stored : List (Image n)} {got : List Byte}
    (ran : storeEntry entries index got = some stored) :
    stored = entries.set index ((entries.getD index (.zero n)).load got) := by
  rcases Nat.lt_or_ge index entries.length with inside | past
  · rw [storeEntry_inside inside] at ran
    rw [List.getD_eq_getElem?_getD, List.getElem?_eq_getElem inside]
    exact (Option.some.inj ran).symm
  · rw [List.set_eq_of_length_le past]
    rw [storeEntry_past past] at ran
    split at ran
    · exact (Option.some.inj ran).symm
    · cases ran

/-- The array behind the loop: the links with a user, and behind them the last one
without, with the bytes of the failed read over it. -/
theorem storeLinks_stored {done : Option Nat} {stored : List CardLink}
    (within : effectiveNum ≤ cardArray.length)
    (ran : storeLinks links failed effectiveNum cardArray = some (done, stored)) :
    let next := effectiveNum + (usedLinks links).length
    next ≤ cardArray.length ∧ (failed = none → done = some next) ∧ (failed ≠ none → done = none) ∧
      stored = (overwrite cardArray effectiveNum (usedLinks links)).set next
        (Image.load ((unusedLast links).getD (cardArray.getD next (.zero 6)))
          (failed.getD [])) := by
  induction links generalizing effectiveNum cardArray with
  | nil =>
    simp only [usedLinks, List.filter_nil, List.length_nil, Nat.add_zero, overwrite_nil]
    cases failed with
    | none =>
      cases ran
      exact ⟨within, fun _ => rfl, fun failed => absurd rfl failed,
        storeEntry_stored (storeEntry_none ..)⟩
    | some got =>
      obtain ⟨kept, entry, same⟩ := Option.map_eq_some_iff.mp ran
      cases same
      exact ⟨within, fun none_left => (by cases none_left), fun _ => rfl, storeEntry_stored entry⟩
  | cons link links ih =>
    rw [storeLinks] at ran
    split at ran
    · rename_i room
      by_cases used : link.userId ≠ 0
      · rw [if_pos used] at ran
        have size : effectiveNum + (usedLinks (link :: links)).length = effectiveNum + 1 +
            (usedLinks links).length := by
          rw [usedLinks_cons, if_pos used, List.length_cons]
          omega
        obtain ⟨inside, counted, uncounted, left⟩ := ih (by rw [List.length_set]; omega) ran
        rw [List.length_set] at inside
        have behind : (cardArray.set effectiveNum link).getD
            (effectiveNum + 1 + (usedLinks links).length) (.zero 6) =
            cardArray.getD (effectiveNum + 1 + (usedLinks links).length) (.zero 6) := by
          rw [List.getD_eq_getElem?_getD, List.getElem?_set_ne (by omega),
            List.getD_eq_getElem?_getD]
        rw [size]
        refine ⟨inside, counted, uncounted, ?_⟩
        rw [left, overwrite_set room, behind, unusedLast_used used, usedLinks_cons, if_pos used]
      · rw [if_neg used] at ran
        have unused : link.userId = 0 := not_not.mp used
        obtain ⟨inside, counted, uncounted, left⟩ := ih (by rw [List.length_set]; omega) ran
        rw [List.length_set] at inside
        rw [usedLinks_cons, if_neg used]
        refine ⟨inside, counted, uncounted, ?_⟩
        rw [left, unusedLast_unused unused]
        cases found : usedLinks links with
        | nil =>
          -- the next link without a user takes the entry again
          simp only [List.length_nil, Nat.add_zero, overwrite_nil, List.set_set]
          have entry : (cardArray.set effectiveNum link).getD effectiveNum (.zero 6) = link := by
            rw [List.getD_eq_getElem?_getD, List.getElem?_set_self room]
            rfl
          rw [entry]
          by_cases last : links = []
          · rw [if_pos last, last]
            rfl
          · obtain ⟨unusedLink, final⟩ :=
              Option.isSome_iff_exists.mp (unusedLast_of_usedLinks last found)
            rw [if_neg last, final]
            rfl
        | cons first rest =>
          have more : links ≠ [] := by
            rintro rfl
            cases found
          have over_entry : overwrite (cardArray.set effectiveNum link) effectiveNum
              (first :: rest) =
              overwrite cardArray effectiveNum (first :: rest) := by
            rw [← overwrite_set (by rwa [List.length_set]), List.set_set, overwrite_set room]
          have behind : (cardArray.set effectiveNum link).getD
              (effectiveNum + (first :: rest).length) (.zero 6) =
              cardArray.getD (effectiveNum + (first :: rest).length) (.zero 6) := by
            rw [List.getD_eq_getElem?_getD, List.getElem?_set_ne (by rw [List.length_cons]; omega),
              List.getD_eq_getElem?_getD]
          rw [over_entry, behind, if_neg more]
    · cases ran

/-- The stores stay in the array when the links with a user and a last one without fit. -/
theorem storeLinks_isSome (within : effectiveNum ≤ cardArray.length) :
    (storeLinks links none effectiveNum cardArray).isSome ↔
      effectiveNum + (usedLinks links).length + (unusedLast links).toList.length ≤
        cardArray.length := by
  induction links generalizing effectiveNum cardArray with
  | nil =>
    constructor
    · exact fun _ => within
    · exact fun _ => rfl
  | cons link links ih =>
    rw [storeLinks]
    by_cases room : effectiveNum < cardArray.length
    · rw [if_pos room, usedLinks_cons]
      by_cases used : link.userId ≠ 0
      · rw [if_pos used, if_pos used, ih (by rw [List.length_set]; omega), List.length_set,
          unusedLast_used used, List.length_cons]
        have order : effectiveNum + 1 + (usedLinks links).length = effectiveNum +
            ((usedLinks links).length + 1) := by omega
        rw [order]
      · have unused : link.userId = 0 := not_not.mp used
        rw [if_neg used, if_neg used, ih (by rw [List.length_set]; omega), List.length_set,
          unusedLast_unused unused]
        by_cases last : links = []
        · rw [if_pos last, last]
          constructor
          · exact fun _ => room
          · exact fun _ => within
        · rw [if_neg last]
    · rw [if_neg room]
      have at_end : effectiveNum = cardArray.length := by omega
      refine iff_of_false Bool.false_ne_true fun fits => ?_
      have needed := entries_needed (List.cons_ne_nil link links)
      omega

end Stored

/-! ## The call as a whole -/

section Counted

variable {file : FileState} {faults : List Bool}

/-- User ids have two bytes, whatever calls fail. -/
theorem userNumGetLoop_bound {left i userNum maxUserNum : Nat} {counted : Nat × Nat}
    (bound : maxUserNum < 2 ^ 16)
    (ran : ((userNumGetLoop left i userNum maxUserNum).attempt file faults).1 = some counted) :
      counted.2 < 2 ^ 16 := by
  induction left generalizing i userNum maxUserNum file faults with
  | zero =>
    cases ran
    exact bound
  | succ left ih =>
    obtain ⟨moved, next, later, sought, -⟩ := attempt_lseek file faults ((1058 * i + 8) % 2 ^ 32)
    rw [userNumGetLoop, attempt_bind, sought] at ran
    cases moved with
    | false => cases ran
    | true =>
      simp only [↓reduceIte, attempt_bind, attempt_ite] at ran
      generalize (FileProg.read 2).attempt next later = fetched at ran
      obtain ⟨got, after, rest⟩ := fetched
      have fits := leValue_lt got
      by_cases whole : got.length ≠ 2
      · rw [if_pos whole] at ran
        cases ran
      · rw [if_neg whole] at ran
        rw [not_not.mp whole] at fits
        split at ran
        · refine ih ?_ ran
          split
          · exact fits
          · exact bound
        · exact ih bound ran

/-- A program that goes on with the size of the file has the result of its loop. -/
theorem attempt_statOpen {α : Type} {loop : Nat → FileProg (Option α)} {value : α}
    (ran : ((do
      match ← stat with
      | none => return none
      | some size =>
        if ← openCreate then
          let counted ← loop size
          close
          return counted
        else
          close
          return none : FileProg (Option α)).attempt file faults).1 = some value) :
    ∃ size next later, ((loop size).attempt next later).1 = some value := by
  rw [attempt_bind] at ran
  generalize stat.attempt file faults = found at ran
  obtain ⟨size, after, rest⟩ := found
  cases size with
  | none => cases ran
  | some size =>
    obtain ⟨opened, next, later, ran_open, -⟩ := attempt_openCreate after rest
    simp only [attempt_bind, ran_open] at ran
    cases opened with
    | false => cases ran
    | true =>
      simp only [↓reduceIte, attempt_bind, attempt_pure] at ran
      exact ⟨size, next, later, ran⟩

theorem userNumGet_bound {counted : Nat × Nat}
    (ran : (userNumGet.attempt file faults).1 = some counted) :
    counted.2 < 2 ^ 16 := by
  obtain ⟨size, next, later, looped⟩ := @attempt_statOpen file faults _
    (fun size => userNumGetLoop ((size + (2 ^ 32 - 8)) % 2 ^ 32 / 1058) 0 0 0) _ ran
  exact userNumGetLoop_bound (by decide) looped

end Counted

/-- The call as a whole, with the outcomes of the calls on the file. -/
theorem cardArrayInit_attempt (lib : CardSearch) (list : List CardLink) (file : FileState)
    (faults : List Bool) :
    ((cardArrayInit lib list).attempt file faults).1 =
      match userNumGet.attempt file faults with
      | (none, _, _) => some (-1, list)
      | (some (userNum, maxUserId), file, faults) =>
        if faults.getD 0 false then some (-1, list)
        else (storeLinks (linksRead file.bytes maxUserId 1 faults.tail).1
          (linksRead file.bytes maxUserId 1 faults.tail).2 0 list).map
          fun (effectiveNum, stored) =>
            if effectiveNum.map (· % 2 ^ 16) = some userNum then
              (0, lib.qsort stored)
            else (-1, stored) := by
  rw [cardArrayInit, attempt_bind]
  rcases counted : userNumGet.attempt file faults with ⟨_ | ⟨userNum, maxUserId⟩, next, later⟩
  · rfl
  · have bound := userNumGet_bound (congrArg Prod.fst counted)
    simp only [attempt_bind, openCreate_outcome]
    by_cases refused : later.getD 0 false = true
    · rw [if_pos refused, if_pos refused]
      rfl
    · rw [if_neg refused, if_neg refused]
      have looped :=
        @cardArrayInitLoop_attempt maxUserId 1 0 list
          { next with content := some next.bytes, pos := 0 }
        later.tail Nat.one_ne_zero (by omega)
      have bytes : FileState.bytes { next with content := some next.bytes, pos := 0 } =
          next.bytes := rfl
      rw [bytes] at looped
      simp only [↓reduceIte, attempt_bind, looped]
      cases storeLinks (linksRead next.bytes maxUserId 1 later.tail).1
        (linksRead next.bytes maxUserId 1 later.tail).2 0 list with
      | none => rfl
      | some stored =>
        obtain ⟨effectiveNum, stored⟩ := stored
        simp only [attempt_bind, attempt_ite, attempt_pure, Option.map_some]
        split <;> rfl

/-- The call when no call on the file fails and the users can be counted. -/
theorem cardArrayInit_run (lib : CardSearch) (list : List CardLink) {file next : FileState}
    {userNum maxUserId : Nat} (counted : userNumGet.run file = (some (userNum, maxUserId), next)) :
      ((cardArrayInit lib list).run file).1 =
      (storeLinks (linksRead next.bytes maxUserId 1 []).1
        (linksRead next.bytes maxUserId 1 []).2 0 list).map
        fun (effectiveNum, stored) =>
          if effectiveNum.map (· % 2 ^ 16) = some userNum then
            (0, lib.qsort stored)
          else (-1, stored) := by
  have ran := cardArrayInit_attempt lib list file []
  rw [attempt_ok, attempt_ok, counted] at ran
  exact ran

theorem cardArrayInit_uncounted (lib : CardSearch) (list : List CardLink) {file next : FileState}
    (counted : userNumGet.run file = (none, next)) : (cardArrayInit lib list).run file =
      (some (-1, list), next) := by
  rw [cardArrayInit, run_bind, counted]
  rfl

/-! ## A file that adds and deletes have built -/

/-- The links of the live users, in the order of their ids. -/
def liveLinks (bytes : List Byte) : List CardLink :=
  (liveSlots bytes).map fun userId => (slot bytes userId).link

theorem link_slot (bytes : List Byte) (userId : Nat) :
    (slot bytes userId).link = .stored 6 bytes (slotOffset userId) :=
  Image.ext (window_window bytes (show 0 + 6 ≤ 1058 by decide))

section Slots

variable {bytes : List Byte} {left i : Nat}

/-- The slots are in the file. -/
def SlotsInside (bytes : List Byte) (i left : Nat) : Prop :=
  ∀ userId, i ≤ userId → userId < i + left → slotOffset userId + 1058 ≤ bytes.length

theorem SlotsInside.next (inside : SlotsInside bytes i (left + 1)) :
    SlotsInside bytes (i + 1) left :=
  fun userId first last => inside userId (by omega) (by omega)

theorem linksRead_slots (inside : SlotsInside bytes i left) :
    linksRead bytes left i [] = ((List.range' i left).map fun userId =>
      (slot bytes userId).link, none) := by
  induction left generalizing i with
  | zero => rfl
  | succ left ih =>
    have here := inside i (Nat.le_refl i) (by omega)
    rw [linksRead, if_neg (by decide), if_pos (by omega), List.tail_nil, List.tail_nil,
      ih inside.next, ← link_slot]
    rfl

/-- Reading the links of slots in the file leaves it as it is. -/
theorem cardArrayInitLoop_keeps {effectiveNum pos : Nat} {cardArray : List CardLink} {full : Bool}
    (positive : i ≠ 0) (bound : i + left ≤ 2 ^ 16) (inside : SlotsInside bytes i left) :
    ((cardArrayInitLoop left i effectiveNum cardArray).run ⟨some bytes, pos, full⟩).2.content =
      some bytes := by
  induction left generalizing i effectiveNum cardArray pos with
  | zero => rfl
  | succ left ih =>
    have here := inside i (Nat.le_refl i) (by omega)
    have addr := slotAddr_pos positive (by omega) 0 (Nat.zero_le 1058)
    have small := slotOffset_small (show i < 2 ^ 16 by omega) 0 (Nat.zero_le 1058)
    rw [Nat.add_zero] at addr small
    have grown : grow bytes (slotOffset i) = bytes := grow_within (by omega)
    have fetched := run_read_inside (show slotOffset i + 6 ≤ bytes.length by omega) full
    simp only [cardArrayInitLoop, addr, run_bind, run_lseek small, FileState.bytes,
      Option.getD_some, grown, fetched,
      ↓reduceIte]
    cases storeEntry cardArray effectiveNum (window bytes (slotOffset i) 6) with
    | none => rfl
    | some stored =>
      simp only [length_window, ne_eq, not_true_eq_false, ↓reduceIte]
      split
      · exact ih (Nat.succ_ne_zero i) (by omega) inside.next
      · exact ih (Nat.succ_ne_zero i) (by omega) inside.next

end Slots

section Reload

variable {bytes : List Byte}

theorem UserFile.slotsInside (file : UserFile bytes) (nonempty : bytes ≠ []) :
    SlotsInside bytes 1 (largestUser bytes) := by
  intro userId first last
  have size := file.whole.resolve_left nonempty
  have within := file.largestUser_inside.1
  unfold slotOffset
  omega

theorem UserFile.usedLinks_read (file : UserFile bytes) :
    usedLinks ((List.range' 1 (largestUser bytes)).map fun userId => (slot bytes userId).link) =
      liveLinks bytes := by
  rw [liveLinks, file.largestUser_inside.2, usedLinks, usedSlots, List.filter_map]
  refine congrArg _ (List.filter_congr fun userId _ => ?_)
  simp only [Function.comp_apply, UserInfo.userId_link]

/-- The loop ends with the link of a user. -/
theorem UserFile.unusedLast_read (file : UserFile bytes) :
    unusedLast ((List.range' 1 (largestUser bytes)).map fun userId => (slot bytes userId).link) =
      none := by
  rw [unusedLast, List.getLast?_map, List.getLast?_range']
  split
  · rfl
  · rename_i users
    have used := (file.mem_liveSlots.mp (file.largestUser_live users)).2
    rw [Nat.add_sub_cancel_left, Option.map_some, Option.filter_some, UserInfo.userId_link,
      decide_eq_false used]
    rfl

/-- On a file that adds and deletes have built, the links of the live users are stored
over the first entries of the array, if it has room for them. -/
theorem UserFile.cardArrayInit (file : UserFile bytes) (nonempty : bytes ≠ []) (lib : CardSearch)
    (list : List CardLink)
    (pos : Nat) (full : Bool) : ∃ member, (cardArrayInit lib list).run ⟨some bytes, pos, full⟩ =
      (if (liveSlots bytes).length ≤ list.length
        then some (0, lib.qsort (overwrite list 0 (liveLinks bytes))) else none, member) ∧
      member.content = some bytes := by
  obtain ⟨middle, counted⟩ := file.userNumGet nonempty pos full
  have few := file.few
  have within := file.largestUser_inside.1
  have links : (liveLinks bytes).length = (liveSlots bytes).length := List.length_map ..
  have result : ((WifiAccess.cardArrayInit lib list).run ⟨some bytes, pos, full⟩).1 =
      if (liveSlots bytes).length ≤ list.length then
        some (0, lib.qsort (overwrite list 0 (liveLinks bytes)))
      else none := by
    have used := file.usedLinks_read
    have last := file.unusedLast_read
    rw [cardArrayInit_run lib list counted, FileState.bytes, Option.getD_some,
      linksRead_slots (file.slotsInside nonempty)]
    generalize (List.range' 1 (largestUser bytes)).map (fun userId => (slot bytes userId).link) =
      reads at used last ⊢
    have fits := @storeLinks_isSome reads 0 list (Nat.zero_le _)
    rw [used, last, links, Nat.zero_add] at fits
    by_cases room : (liveSlots bytes).length ≤ list.length
    · obtain ⟨⟨effectiveNum, stored⟩, done⟩ := Option.isSome_iff_exists.mp (fits.mpr room)
      obtain ⟨inside, total, -, left⟩ := storeLinks_stored (Nat.zero_le _) done
      have all := total rfl
      rw [used, Nat.zero_add] at inside left
      rw [used, links, Nat.zero_add] at all
      have small : (liveSlots bytes).length < 2 ^ 16 :=
        Nat.lt_of_le_of_lt (length_usedSlots_le bytes 1 (slotCount bytes)) few
      have behind : (overwrite list 0 (liveLinks bytes)).getD (liveLinks bytes).length (.zero 6) =
          list.getD (liveLinks bytes).length (.zero 6) := by
        rw [List.getD_eq_getElem?_getD, getElem?_overwrite (by omega), if_neg (by omega),
          List.getD_eq_getElem?_getD]
      have same : stored = overwrite list 0 (liveLinks bytes) := by
        rw [left, last, ← behind]
        exact (storeEntry_stored (storeEntry_none ..)).symm
      rw [done, if_pos room, all, same]
      simp only [Option.map_some, Nat.mod_eq_of_lt small, ↓reduceIte]
    · have none_left : storeLinks reads none 0 list = none :=
        Option.not_isSome_iff_eq_none.mp (mt fits.mp room)
      rw [none_left, if_neg room]
      rfl
  have kept : ((WifiAccess.cardArrayInit lib list).run ⟨some bytes, pos, full⟩).2.content =
      some bytes := by
    have kept :=
      @cardArrayInitLoop_keeps bytes (largestUser bytes) 1 0 0 list full Nat.one_ne_zero (by omega)
      (file.slotsInside nonempty)
    unfold WifiAccess.cardArrayInit
    simp only [run_bind, counted, run_openCreate, FileState.bytes, Option.getD_some, ↓reduceIte]
    generalize (cardArrayInitLoop (largestUser bytes) 1 0 list).run ⟨some bytes, 0, full⟩ =
      looped at kept ⊢
    obtain ⟨_ | ⟨effectiveNum, stored⟩, member⟩ := looped
    · exact kept
    · simp only [run_bind, run_close, run_ite, run_pure]
      split
      · exact kept
      · exact kept
  obtain ⟨member, left⟩ : ∃ member,
      ((WifiAccess.cardArrayInit lib list).run ⟨some bytes, pos, full⟩).2 = member := ⟨_, rfl⟩
  rw [left] at kept
  exact ⟨member, Prod.ext result left, kept⟩

end Reload

/-! ## A reload that fails -/

/-- What a loop over these reads stores is in the list already: the links with a user
are its first entries, and the entry behind them begins with what is stored there last. -/
def StoresSame (list : List CardLink) (reads : List CardLink × Option (List Byte)) : Prop :=
  usedLinks reads.1 <+: list ∧ ∀ entry, list[(usedLinks reads.1).length]? = some entry →
    Image.load ((unusedLast reads.1).getD entry) (reads.2.getD []) = entry

/-- The call ends before its loop, or with reads that the list holds already. -/
def ReloadKeeps (list : List CardLink) (file : FileState) (faults : List Bool) : Prop :=
  match userNumGet.attempt file faults with
  | (none, _, _) => True
  | (some (_, maxUserId), file, faults) =>
    faults.getD 0 false = true ∨ StoresSame list (linksRead file.bytes maxUserId 1 faults.tail)

theorem overwrite_set_eq {list stored : List CardLink} {entry : CardLink}
    (inside : stored.length ≤ list.length) :
    (overwrite list 0 stored).set stored.length entry = list ↔
      stored <+: list ∧ ∀ old, list[stored.length]? = some old → entry = old := by
  obtain ⟨front, rest, size, rfl⟩ : ∃ front rest, front.length = stored.length ∧
      list = front ++ rest :=
    ⟨list.take stored.length, list.drop stored.length, by
      rw [List.length_take]; omega, (List.take_append_drop ..).symm⟩
  have left : (overwrite (front ++ rest) 0 stored).set stored.length entry = stored ++
      rest.set 0 entry := by
    rw [overwrite, List.take_zero, List.nil_append, Nat.zero_add, ← size, List.drop_left, size,
      List.set_append_right _ _ (Nat.le_refl _), Nat.sub_self]
  have behind : (front ++ rest)[stored.length]? = rest[0]? := by
    rw [← size, List.getElem?_append_right (Nat.le_refl _), Nat.sub_self]
  have head : rest.set 0 entry = rest ↔ ∀ old, rest[0]? = some old → entry = old := by
    cases rest with
    | nil => simp
    | cons first rest => simp
  rw [left, behind, ← head]
  constructor
  · intro same
    obtain ⟨rfl, kept⟩ := List.append_inj same size.symm
    exact ⟨List.prefix_append .., kept⟩
  · rintro ⟨first, kept⟩
    rw [kept, List.prefix_iff_eq_take.mp first, ← size, List.take_left]

/-- A failing call leaves the list alone exactly when it stores nothing new. -/
theorem reloadKeeps_iff {lib : CardSearch} {list left : List CardLink} {file : FileState}
    {faults : List Bool}
    (failed : ((cardArrayInit lib list).attempt file faults).1 = some (-1, left)) :
    left = list ↔ ReloadKeeps list file faults := by
  rw [cardArrayInit_attempt] at failed
  unfold ReloadKeeps
  generalize userNumGet.attempt file faults = counted at failed ⊢
  obtain ⟨_ | ⟨userNum, maxUserId⟩, next, later⟩ := counted
  · cases failed
    exact iff_of_true rfl trivial
  · simp only at failed ⊢
    by_cases refused : later.getD 0 false = true
    · rw [if_pos refused] at failed
      cases failed
      exact iff_of_true rfl (.inl refused)
    · rw [if_neg refused] at failed
      obtain ⟨⟨effectiveNum, stored⟩, ran, same⟩ := Option.map_eq_some_iff.mp failed
      have kept : stored = left := by
        dsimp only at same
        split at same
        · cases same
        · cases same
          rfl
      subst kept
      obtain ⟨inside, -, -, rfl⟩ := storeLinks_stored (Nat.zero_le _) ran
      rw [Nat.zero_add] at inside
      rw [Nat.zero_add, overwrite_set_eq inside, StoresSame, or_iff_right refused]
      refine and_congr_right fun _ => forall_congr' fun old => imp_congr_right fun found => ?_
      rw [List.getD_eq_getElem?_getD, found]
      rfl

/-- A failing reload leaves the list as it was, and each lookup with it, exactly when
the loop is not reached or has stored only what the list holds. -/
theorem cardArrayInit_failed_iff (lib : CardSearch) (list left : List CardLink) (file : FileState)
    (faults : List Bool)
    (failed : ((cardArrayInit lib list).attempt file faults).1 = some (-1, left)) :
    (left = list ∧ ∀ key, lib.bsearch key left = lib.bsearch key list) ↔
      ReloadKeeps list file faults := by
  rw [← reloadKeeps_iff failed]
  constructor
  · exact fun same => same.1
  · rintro rfl
    exact ⟨rfl, fun _ => rfl⟩

/-- The outcomes with which a reload of two users fails at the second seek of its loop. -/
def secondSeek : List Bool :=
  List.replicate (Prog.trace FileState.handle userNumGet ⟨some twoUsers, 0, true⟩).length false ++
    [false, false, false, true]

/-- The link of the first user has then replaced the first entry. -/
theorem cardArrayInit_secondSeek (lib : CardSearch) {list : List CardLink}
    (size : list.length = maxUserNum) :
    ((cardArrayInit lib list).attempt ⟨some twoUsers, 0, true⟩ secondSeek).1 =
      some (-1, list.set 0 (cardRecord 1 1).link) := by
  have nonempty : twoUsers ≠ [] := by
    intro empty
    have none_there := largestUser_twoUsers
    rw [empty] at none_there
    cases none_there
  obtain ⟨pos, counted⟩ := userFile_twoUsers.userNumGet nonempty 0 true
  have carried : userNumGet.attempt ⟨some twoUsers, 0, true⟩ secondSeek = _ :=
    attempt_carried userNumGet ⟨some twoUsers, 0, true⟩ [false, false, false, true]
  rw [counted, largestUser_twoUsers] at carried
  have inside : slotOffset 1 + 6 ≤ twoUsers.length := by
    rw [twoUsers, length_splice, length_splice, Image.size, Image.size]
    decide
  have reads : linksRead (FileState.bytes ⟨some twoUsers, pos, true⟩) 2 1 [false, false, true] =
      ([(cardRecord 1 1).link], some []) := by
    have first : Image.stored 6 twoUsers (slotOffset 1) = (cardRecord 1 1).link := by
      rw [← slot_twoUsers.1]
      exact Image.ext (window_window twoUsers (show 0 + 6 ≤ 1058 by decide)).symm
    rw [linksRead, if_neg (by decide), FileState.bytes, Option.getD_some, if_pos inside, first]
    rfl
  have ran := cardArrayInit_attempt lib list ⟨some twoUsers, 0, true⟩ secondSeek
  rw [carried] at ran
  simp only [List.getD_cons_zero, Bool.false_eq_true, ↓reduceIte, List.tail_cons, reads] at ran
  have room : 0 < list.length := size ▸ (by decide)
  have stored : storeLinks [(cardRecord 1 1).link] (some []) 0 list =
      some (none, list.set 0 (cardRecord 1 1).link) := by
    rw [storeLinks, if_pos room, storeLinks, storeEntry_none]
    rfl
  rw [stored] at ran
  exact ran

/-- The list begins with that link already. -/
theorem cardArrayInit_failed_within : ∃ (lib : CardSearch) (rest : List CardLink),
    ((cardRecord 1 1).link :: rest).length = maxUserNum ∧
      ((cardArrayInit lib ((cardRecord 1 1).link :: rest)).attempt ⟨some twoUsers, 0, true⟩
        secondSeek).1 =
        some (-1, (cardRecord 1 1).link :: rest) ∧
      ReloadKeeps ((cardRecord 1 1).link :: rest) ⟨some twoUsers, 0, true⟩ secondSeek := by
  let lib : CardSearch := .reference cardCompar_consistent
  obtain ⟨rest, many⟩ : ∃ rest : List CardLink, rest.length = 199 :=
    ⟨.replicate 199 (.zero 6), List.length_replicate⟩
  have size : ((cardRecord 1 1).link :: rest).length = maxUserNum := by
    rw [List.length_cons, many]; rfl
  have failed := cardArrayInit_secondSeek lib size
  rw [List.set_cons_zero] at failed
  refine ⟨lib, rest, size, failed, ?_⟩
  rw [← cardArrayInit_failed_iff lib _ _ _ _ failed]
  exact ⟨rfl, fun _ => rfl⟩

/-- The first entry was another one. -/
theorem cardArrayInit_failed_changes :
    ¬ ∀ (lib : CardSearch) (list left : List CardLink) (file : FileState)
    (faults : List Bool), list.length = maxUserNum → Ordered cardCompar list →
      ((cardArrayInit lib list).attempt file faults).1 = some (-1, left) →
    left = list ∧ ∀ key, lib.bsearch key left = lib.bsearch key list := by
  intro always
  have ran := cardArrayInit_secondSeek (.reference cardCompar_consistent)
    (show (List.replicate maxUserNum (Image.zero 6)).length = maxUserNum from List.length_replicate)
  have ordered : Ordered cardCompar (List.replicate maxUserNum (.zero 6)) :=
    List.pairwise_replicate.mpr (.inr (cardCompar_le.mpr (Nat.le_refl _)))
  have kept := (always _ _ _ _ _ List.length_replicate ordered ran).1
  have userId : (cardRecord 1 1).link.userId = 1 :=
    (UserInfo.userId_link _).trans (userId_cardRecord (by decide) 1)
  have room : 0 < (List.replicate maxUserNum (Image.zero 6)).length := by
    rw [List.length_replicate]
    decide
  have first := congrArg (fun list => (list.getD 0 (.zero 6)).userId) kept
  simp only [List.getD_eq_getElem?_getD, List.getElem?_set_self room, Option.getD_some, userId]
    at first
  cases first

end WifiAccess

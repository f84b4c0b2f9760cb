import WifiAccess.Base.Alike
import WifiAccess.Server.Session

/-! What the static arrays and structs of the server hold from earlier commands does not
matter to the calls on the files, nor to the data that is taken from them. -/

namespace WifiAccess

open Prog

/-! ## Arrays -/

/-- Arrays of one size with the same first entries. -/
structure Agree {n : Nat} (size count : Nat) (first second : List (Image n)) : Prop where
  left : first.length = size
  right : second.length = size
  front : first.take count = second.take count

section Arrays

variable {n size count : Nat} {first second : List (Image n)}

theorem Agree.none (left : first.length = size) (right : second.length = size) :
    Agree size 0 first second :=
  ⟨left, right, rfl⟩

theorem Agree.fewer (agree : Agree size count first second) {fewer : Nat} (less : fewer ≤ count) :
    Agree size fewer first second := by
  refine ⟨agree.left, agree.right, ?_⟩
  have same := congrArg (List.take fewer) agree.front
  rwa [List.take_take, List.take_take, Nat.min_eq_left less] at same

theorem Agree.entry (agree : Agree size (count + 1) first second) :
    first.getD count (.zero n) = second.getD count (.zero n) := by
  have same := congrArg (·[count]?) agree.front
  simp only [List.getElem?_take_of_lt (Nat.lt_succ_self count)] at same
  rw [List.getD_eq_getElem?_getD, List.getD_eq_getElem?_getD, same]

theorem load_alike {one two : Image n} {got : List Byte} (whole : got.length = n) :
    one.load got = two.load got :=
  Image.ext ((Image.load_all one whole).trans (Image.load_all two whole).symm)

/-- A read into the next entry, which a full one replaces. -/
theorem Agree.store (agree : Agree size count first second) (got : List Byte) :
    (storeEntry first count got = Option.none ∧ storeEntry second count got = Option.none) ∨
      ∃ stored stored', storeEntry first count got = some stored ∧
        storeEntry second count got = some stored' ∧
        Agree size count stored stored' ∧
          (got.length = n → Agree size (count + 1) stored stored') := by
  obtain ⟨left, right, front⟩ := agree
  rcases Nat.lt_or_ge count size with inside | past
  · have inFirst : count < first.length := by omega
    have inSecond : count < second.length := by omega
    refine .inr ⟨_, _, storeEntry_inside inFirst got, storeEntry_inside inSecond got, ?_,
      fun whole => ?_⟩
    · refine ⟨by rw [List.length_set, left], by rw [List.length_set, right], ?_⟩
      rw [List.take_set_of_le (Nat.le_refl _), List.take_set_of_le (Nat.le_refl _), front]
    · refine ⟨by rw [List.length_set, left], by rw [List.length_set, right], ?_⟩
      rw [List.take_add_one, List.take_add_one, List.take_set_of_le (Nat.le_refl _),
        List.take_set_of_le (Nat.le_refl _),
        front, List.getElem?_set_self inFirst, List.getElem?_set_self inSecond, load_alike whole]
  · rw [storeEntry_past (by omega), storeEntry_past (by omega)]
    by_cases nothing : got = []
    · rw [if_pos nothing]
      rw [if_pos nothing]
      refine .inr ⟨_, _, rfl, rfl, ⟨left, right, front⟩, fun whole => ⟨left, right, ?_⟩⟩
      rw [List.take_of_length_le (by omega), List.take_of_length_le (by omega)] at front ⊢
      exact front
    · rw [if_neg nothing, if_neg nothing]
      exact .inl ⟨rfl, rfl⟩

end Arrays

/-! ## The log -/

/-- A header that was read is the same one. -/
def SameHeader (one two : Int × AttHeader) : Prop := one.1 = two.1 ∧ (one.1 = 0 → one.2 = two.2)

theorem recordHeaderGet_alike (first second : AttHeader) :
    Alike SameHeader (recordHeaderGetSet first getRecord)
      (recordHeaderGetSet second getRecord) := by
  have failed (one two : AttHeader) : SameHeader (-1, one) (-1, two) :=
    ⟨rfl, fun zero => absurd (show (-1 : Int) = 0 from zero) (by decide)⟩
  have inner : Alike SameHeader (fdRecordHeaderGetSet first getRecord)
      (fdRecordHeaderGetSet second getRecord) := by
    refine alike_both fun moved => alike_ite (fun _ => ?_) fun _ => alike_pure (failed ..)
    refine alike_ite (fun _ => alike_both fun got => ?_) fun other => absurd rfl other
    by_cases whole : got.length = 8
    · dsimp only
      rw [@load_alike 8 first second got whole]
      exact (alike_refl _).mono fun one two same => by rw [same]; exact ⟨rfl, fun _ => rfl⟩
    · dsimp only
      rw [if_pos whole, if_pos whole]
      exact alike_pure (failed ..)
  refine alike_both fun opened => alike_ite (fun _ => ?_) fun _ => ?_
  · exact alike_bind inner fun one two related => alike_both fun _ => alike_pure related
  · exact alike_both fun _ => alike_pure (failed ..)

/-- The arrays that a loop leaves agree on the entries that it counts. -/
inductive SameLoaded {n : Nat} (size : Nat) :
    Option (List (Image n) × Nat) → Option (List (Image n) × Nat) → Prop where
  | past : SameLoaded size none none
  | loaded {first second : List (Image n)} {count : Nat} (agree : Agree size count first second) :
    SameLoaded size (some (first, count)) (some (second, count))

theorem attRecordGetLoop_alike {size : Nat} (i : Nat) {attCount : Nat} {first second : List AttInfo}
    (agree : Agree size attCount first second) :
    Alike (SameLoaded size) (attRecordGetLoop i first attCount)
      (attRecordGetLoop i second attCount) := by
  induction i generalizing attCount first second with
  | zero => exact alike_pure (.loaded agree)
  | succ i ih =>
    refine alike_ite (fun _ => alike_pure (.loaded agree)) fun _ => ?_
    refine alike_both fun moved => alike_ite (fun _ => alike_both fun got => ?_) fun _ =>
      alike_pure (.loaded agree)
    rcases agree.store got with ⟨left, right⟩ | ⟨stored, stored', left, right, kept, whole⟩
    · rw [left, right]
      exact alike_pure .past
    · rw [left, right]
      refine alike_ite (fun _ => alike_pure (.loaded kept)) fun read => ?_
      exact ih (whole (not_not.mp read))

/-- What `att_record_get` returns, with the records that it counts. -/
inductive SameAttRecords (size : Nat) :
    Option (Int × List AttInfo × Nat) → Option (Int × List AttInfo × Nat) → Prop where
  | past : SameAttRecords size none none
  | loaded {first second : List AttInfo} {status : Int} {count : Nat}
      (agree : Agree size count first second) :
    SameAttRecords size (some (status, first, count)) (some (status, second, count))

theorem attRecordGet_alike {size : Nat} {first second : List AttInfo} (left : first.length = size)
    (right : second.length = size) (lenth : Nat) :
    Alike (SameAttRecords size) (attRecordGet first lenth) (attRecordGet second lenth) := by
  have nothing : Agree size 0 first second := .none left right
  refine alike_both fun found => ?_
  cases found with
  | none => exact alike_pure (.loaded nothing)
  | some _ =>
    refine alike_both fun opened => alike_ite (fun _ => alike_both fun read => ?_) fun _ =>
      alike_pure (.loaded nothing)
    obtain ⟨status, header⟩ := read
    refine alike_ite (fun _ => alike_both fun _ => alike_pure (.loaded nothing)) fun _ => ?_
    refine alike_bind (attRecordGetLoop_alike _ nothing) fun one two loaded => alike_both fun _ =>
      alike_pure ?_
    cases loaded with
    | past => exact .past
    | loaded agree => exact .loaded agree

/-! ## Users -/

theorem addDelGetOneUser_alike {first second : UserInfo} (same : first.userId = second.userId) :
    Alike (fun one two => one.1 = two.1) (addDelGetOneUser first delOneUser)
      (addDelGetOneUser second delOneUser) := by
  unfold addDelGetOneUser
  rw [same]
  refine alike_both fun opened => alike_ite (fun _ => ?_) fun _ => alike_both fun _ =>
    alike_pure rfl
  refine alike_both fun moved => alike_ite (fun _ => ?_) fun _ => alike_both fun _ => alike_pure rfl
  refine alike_ite (fun other => absurd other (by decide)) fun _ =>
    alike_ite (fun _ => ?_) fun other => absurd rfl other
  exact alike_both fun written => alike_ite (fun _ => alike_both fun _ => alike_pure rfl) fun _ =>
    alike_both fun _ => alike_pure rfl

/-- What `user_crc_get` returns, with the CRCs that it counts. -/
inductive SameCrcs (size : Nat) :
    Option (Option Nat × List (Image 4)) → Option (Option Nat × List (Image 4)) → Prop where
  | past : SameCrcs size none none
  | failed {first second : List (Image 4)} (agree : Agree size 0 first second) :
    SameCrcs size (some (none, first)) (some (none, second))
  | loaded {first second : List (Image 4)} {count : Nat} (agree : Agree size count first second) :
    SameCrcs size (some (some count, first)) (some (some count, second))

theorem userCrcGetLoop_alike {size : Nat} (left i : Nat) {getCount : Nat}
    {first second : List (Image 4)} (agree : Agree size getCount first second) :
    Alike (SameCrcs size) (userCrcGetLoop left i getCount first)
      (userCrcGetLoop left i getCount second) := by
  induction left generalizing i getCount first second with
  | zero => exact alike_pure (.loaded agree)
  | succ left ih =>
    have nothing := agree.fewer (Nat.zero_le _)
    refine alike_both fun moved => alike_ite (fun _ => alike_both fun got => ?_) fun _ =>
      alike_pure (.failed nothing)
    rcases agree.store got with ⟨left, right⟩ | ⟨stored, stored', left, right, kept, whole⟩
    · rw [left, right]
      exact alike_pure .past
    · rw [left, right]
      refine alike_ite (fun _ => alike_pure (.failed (kept.fewer (Nat.zero_le _)))) fun read => ?_
      exact ih _ (whole (not_not.mp read))

theorem userCrcGet_alike {size : Nat} {first second : List (Image 4)} (left : first.length = size)
    (right : second.length = size) (start num : Nat) :
    Alike (SameCrcs size) (userCrcGet first start num) (userCrcGet second start num) := by
  have nothing : Agree size 0 first second := .none left right
  refine alike_both fun counted => ?_
  cases counted with
  | none => exact alike_pure (.failed nothing)
  | some count =>
    refine alike_ite (fun _ => alike_pure (.loaded nothing)) fun _ => ?_
    refine alike_ite (fun _ => alike_pure (.failed nothing)) fun _ => ?_
    refine alike_both fun opened => alike_ite (fun _ => ?_) fun _ => alike_pure (.failed nothing)
    refine alike_bind (userCrcGetLoop_alike _ _ nothing) fun one two loaded => alike_both fun _ =>
      alike_pure ?_
    cases loaded with
    | past => exact .past
    | failed agree => exact .failed agree
    | loaded agree => exact .loaded (agree.fewer (Nat.mod_le ..))

/-- What `card_array_init` returns. -/
inductive SameStatus (size : Nat) :
    Option (Int × List CardLink) → Option (Int × List CardLink) → Prop where
  | past : SameStatus size none none
  | returned {first second : List CardLink} {status : Int} (left : first.length = size)
      (right : second.length = size) :
    SameStatus size (some (status, first)) (some (status, second))

inductive SameCards (size : Nat) :
    Option (Option Nat × List CardLink) → Option (Option Nat × List CardLink) → Prop where
  | past : SameCards size none none
  | counted {first second : List CardLink} {count : Option Nat} (left : first.length = size)
      (right : second.length = size) :
    SameCards size (some (count, first)) (some (count, second))

theorem cardArrayInitLoop_alike {size : Nat} (left i : Nat) {effectiveNum : Nat}
    {first second : List CardLink} (agree : Agree size effectiveNum first second) :
    Alike (SameCards size) (cardArrayInitLoop left i effectiveNum first)
      (cardArrayInitLoop left i effectiveNum second) := by
  induction left generalizing i effectiveNum first second with
  | zero => exact alike_pure (.counted agree.left agree.right)
  | succ left ih =>
    refine alike_both fun moved => alike_ite (fun _ => alike_both fun got => ?_) fun _ =>
      alike_pure (.counted agree.left agree.right)
    rcases agree.store got with ⟨left, right⟩ | ⟨stored, stored', left, right, kept, whole⟩
    · rw [left, right]
      exact alike_pure .past
    · rw [left, right]
      refine alike_ite (fun _ => alike_pure (.counted kept.left kept.right)) fun read => ?_
      have next := whole (not_not.mp read)
      rw [next.entry]
      exact alike_ite (fun _ => ih _ next) fun _ => ih _ kept

theorem cardArrayInit_alike (lib : CardSearch) {size : Nat} {first second : List CardLink}
    (left : first.length = size) (right : second.length = size) :
    Alike (SameStatus size) (cardArrayInit lib first)
      (cardArrayInit lib second) := by
  refine alike_both fun counted => ?_
  cases counted with
  | none => exact alike_pure (.returned left right)
  | some count =>
    refine alike_both fun opened => alike_ite (fun _ => ?_) fun _ => alike_both fun _ =>
      alike_pure (.returned left right)
    refine alike_bind (cardArrayInitLoop_alike _ _ (.none left right)) fun one two loaded => ?_
    cases loaded with
    | past => exact alike_pure .past
    | counted sized sized' =>
      refine alike_both fun _ => alike_ite (fun _ => alike_pure (.returned ?_ ?_)) fun _ =>
        alike_pure (.returned sized sized')
      · rw [(lib.qsort_perm _).length_eq, sized]
      · rw [(lib.qsort_perm _).length_eq, sized']

end WifiAccess

import WifiAccess.Base.Bytes

/-! Packed structs as the bytes they occupy. Fields are windows of the image,
so a partial read into a struct is a splice at its start. -/

namespace WifiAccess

/-- The bytes of a packed struct of size `n`. -/
structure Image (n : Nat) where
  bytes : List Byte
  size : bytes.length = n
  deriving DecidableEq

namespace Image

variable {n : Nat}

@[ext] theorem ext {first second : Image n} (same : first.bytes = second.bytes) :
    first = second := by
  cases first
  cases second
  simpa using same

@[simp] theorem length_bytes (image : Image n) : image.bytes.length = n := image.size

/-- The struct at an offset of a byte string, zero past the end. -/
def stored (n : Nat) (bytes : List Byte) (off : Nat) : Image n :=
  ⟨window bytes off n, length_window ..⟩

/-- Keep the first `n` bytes, padding with zeros. -/
def ofBytes (n : Nat) (bytes : List Byte) : Image n := stored n bytes 0

def zero (n : Nat) : Image n := ⟨List.replicate n 0#8, List.length_replicate⟩

def field (image : Image n) (off len : Nat) : List Byte := window image.bytes off len

def num (image : Image n) (off len : Nat) : Nat := leValue (image.field off len)

def byte (image : Image n) (off : Nat) : Byte := image.bytes.getD off 0#8

/-- Store bytes over a field. -/
def put (image : Image n) (off : Nat) (bytes : List Byte) : Image n :=
  ofBytes n (splice image.bytes off bytes)

/-- What `read` leaves in a buffer after transferring some bytes. -/
def load (image : Image n) (bytes : List Byte) : Image n := image.put 0 bytes

@[simp] theorem length_field (image : Image n) (off len : Nat) :
    (image.field off len).length = len := by
  simp [field]

theorem num_lt (image : Image n) (off len : Nat) : image.num off len < 256 ^ len := by
  have bound := leValue_lt (image.field off len)
  rwa [length_field] at bound

@[simp] theorem bytes_ofBytes (bytes : List Byte) :
    (ofBytes n bytes).bytes = window bytes 0 n := rfl

theorem ofBytes_bytes (image : Image n) : ofBytes n image.bytes = image := by
  apply Image.ext
  have all := window_all image.bytes
  rwa [image.size] at all

theorem ofBytes_eq {bytes : List Byte} (size : bytes.length = n) :
    (ofBytes n bytes).bytes = bytes := by
  subst size
  exact window_all bytes

theorem bytes_put {image : Image n} {off : Nat} {bytes : List Byte}
    (inside : off + bytes.length ≤ n) :
    (image.put off bytes).bytes = splice image.bytes off bytes := by
  apply ofBytes_eq
  simp
  omega

/-- A number stored in a field is read back. -/
theorem num_put (image : Image n) {off len value : Nat} (inside : off + len ≤ n)
    (fits : value < 256 ^ len) :
    (image.put off (leBytes len value)).num off len = value := by
  have size : (leBytes len value).length = len := length_leBytes len value
  have same := window_splice_same image.bytes off (leBytes len value)
  rw [size] at same
  rw [num, field, bytes_put (by omega), same, leValue_leBytes fits]

theorem field_put_apart {image : Image n} {off : Nat} {bytes : List Byte} {a len : Nat}
    (inside : off + bytes.length ≤ n) (apart : a + len ≤ off ∨ off + bytes.length ≤ a) :
    (image.put off bytes).field a len = image.field a len := by
  rw [field, bytes_put inside, window_splice_apart _ apart, field]

theorem field_add (image : Image n) (off first second : Nat) :
    image.field off (first + second) = image.field off first ++ image.field (off + first) second :=
  window_add ..

theorem field_put_same (image : Image n) {off : Nat} {bytes : List Byte}
    (inside : off + bytes.length ≤ n) :
    (image.put off bytes).field off bytes.length = bytes := by
  rw [field, bytes_put inside, window_splice_same]

/-- Bytes put behind a prefix extend it. -/
theorem field_put_behind (image : Image n) {off : Nat} {bytes : List Byte}
    (inside : off + bytes.length ≤ n) :
    (image.put off bytes).field 0 (off + bytes.length) = image.field 0 off ++ bytes := by
  rw [field_add, Nat.zero_add, field_put_same image inside,
    field_put_apart inside (.inl (by omega))]

theorem byte_field {image : Image n} {off len i : Nat} (inside : i < len) :
    (image.field off len).getD i 0#8 = image.byte (off + i) := by
  rw [field, getD_window, if_pos inside, byte]

theorem ext_byte {first second : Image n} (same : ∀ i, first.byte i = second.byte i) :
    first = second :=
  Image.ext (ext_getD (first.size.trans second.size.symm) same)

@[simp] theorem byte_zero (i : Nat) : (zero n).byte i = 0#8 := getD_zeros n i

theorem byte_stored (bytes : List Byte) (off i : Nat) :
    (stored n bytes off).byte i = if i < n then bytes.getD (off + i) 0#8 else 0#8 :=
  getD_window bytes off n i

theorem byte_put {image : Image n} {off : Nat} {bytes : List Byte} (inside : off + bytes.length ≤ n)
    (i : Nat) : (image.put off bytes).byte i =
      if off ≤ i ∧ i < off + bytes.length then bytes.getD (i - off) 0#8 else image.byte i := by
  rw [byte, bytes_put inside, getD_splice, byte]

/-- As `byte_put`, where the bytes may run past the end. -/
theorem byte_put_within (image : Image n) (off : Nat) (bytes : List Byte) {i : Nat}
    (within : i < n) :
    (image.put off bytes).byte i =
      if off ≤ i ∧ i < off + bytes.length then bytes.getD (i - off) 0#8 else image.byte i := by
  rw [byte, put, bytes_ofBytes, getD_window, if_pos within, Nat.zero_add, getD_splice, byte]

theorem ext_within {first second : Image n} (same : ∀ i, i < n → first.byte i = second.byte i) :
    first = second := by
  apply ext_byte
  intro i
  rcases Nat.lt_or_ge i n with within | past
  · exact same i within
  · rw [byte, byte, getD_past (by rwa [first.size]), getD_past (by rwa [second.size])]

theorem put_nil (image : Image n) (off : Nat) : image.put off [] = image := by
  apply ext_within
  intro i within
  rw [byte_put_within _ _ _ within, if_neg (by simp)]

theorem put_cons (image : Image n) (off : Nat) (first : Byte) (rest : List Byte) :
    (image.put off [first]).put (off + 1) rest = image.put off (first :: rest) := by
  apply ext_within
  intro i within
  rw [byte_put_within _ _ _ within, byte_put_within _ _ _ within, byte_put_within _ _ _ within]
  rcases Nat.lt_trichotomy i off with before | rfl | after
  · rw [if_neg (by omega), if_neg (by omega), if_neg (by omega)]
  · rw [if_neg (by omega), if_pos (by simp), if_pos (by simp), Nat.sub_self]
    rfl
  · rw [if_neg (by simp; omega : ¬ (off ≤ i ∧ i < off + [first].length)), List.length_cons]
    have index : i - off = i - (off + 1) + 1 := by omega
    rw [index, List.getD_cons_succ]
    by_cases inside : i < off + 1 + rest.length
    · rw [if_pos (by omega), if_pos (by omega)]
    · rw [if_neg (by omega), if_neg (by omega)]

theorem put_append (image : Image n) (off : Nat) (first second : List Byte) :
    (image.put off first).put (off + first.length) second = image.put off (first ++ second) := by
  induction first generalizing image off with
  | nil => rw [put_nil, List.nil_append, List.length_nil, Nat.add_zero]
  | cons byte rest ih =>
    have place : off + (byte :: rest).length = off + 1 + rest.length := by
      rw [List.length_cons]
      omega
    rw [← put_cons image off byte rest, place, ih, put_cons, List.cons_append]

theorem field_succ (image : Image n) (off len : Nat) :
    image.field off (len + 1) = image.byte off :: image.field (off + 1) len := by
  apply ext_getD (by simp)
  intro i
  cases i with
  | zero => rw [field, getD_window, if_pos (by omega), List.getD_cons_zero, byte, Nat.add_zero]
  | succ i =>
    have index : off + (i + 1) = off + 1 + i := by omega
    rw [List.getD_cons_succ, field, field, getD_window, getD_window, index]
    by_cases inside : i < len
    · rw [if_pos (by omega), if_pos inside]
    · rw [if_neg (by omega), if_neg inside]

theorem byte_load {image : Image n} {bytes : List Byte} (inside : bytes.length ≤ n) (i : Nat) :
    (image.load bytes).byte i = if i < bytes.length then bytes.getD i 0#8 else image.byte i := by
  rw [load, byte_put (by omega)]
  simp only [Nat.zero_le, true_and, Nat.zero_add, Nat.sub_zero]

/-- A read of the whole struct replaces all of it. -/
theorem load_all (image : Image n) {bytes : List Byte} (size : bytes.length = n) :
    (image.load bytes).bytes = bytes := by
  rw [load, bytes_put (by omega)]
  simp [splice, size]

@[simp] theorem load_window (image : Image n) (bytes : List Byte) (off : Nat) :
    image.load (window bytes off n) = stored n bytes off :=
  Image.ext (load_all image (length_window ..))

@[simp] theorem stored_splice (image : Image n) (bytes : List Byte) (off : Nat) :
    stored n (splice bytes off image.bytes) off = image := by
  apply Image.ext
  have same := window_splice_same bytes off image.bytes
  rwa [image.size] at same

theorem stored_splice_apart {bytes : List Byte} {off a : Nat} {written : List Byte}
    (apart : a + n ≤ off ∨ off + written.length ≤ a) :
    stored n (splice bytes off written) a = stored n bytes a :=
  Image.ext (window_splice_apart bytes apart)

end Image

/-! ## Arrays of a caller -/

section Entries

variable {α : Type} {n : Nat}

/-- `read` into an entry of an array. Storing past the array has no result. -/
def storeEntry (entries : List (Image n)) (index : Nat) (got : List Byte) :
    Option (List (Image n)) :=
  match entries[index]? with
  | some entry => some (entries.set index (entry.load got))
  | none => if got = [] then some entries else none

theorem storeEntry_inside {entries : List (Image n)} {index : Nat} (inside : index < entries.length)
    (got : List Byte) :
    storeEntry entries index got = some (entries.set index (entries[index].load got)) := by
  simp only [storeEntry, List.getElem?_eq_getElem inside]

theorem storeEntry_past {entries : List (Image n)} {index : Nat} (past : entries.length ≤ index)
    (got : List Byte) :
    storeEntry entries index got = if got = [] then some entries else none := by
  simp only [storeEntry, List.getElem?_eq_none past]

/-- The array with a run of entries replaced. -/
def overwrite (entries : List α) (index : Nat) (stored : List α) : List α :=
  entries.take index ++ stored ++ entries.drop (index + stored.length)

@[simp] theorem overwrite_nil (entries : List α) (index : Nat) :
    overwrite entries index [] = entries := by
  simp [overwrite]

theorem length_overwrite {entries : List α} {index : Nat} {stored : List α}
    (inside : index + stored.length ≤ entries.length) : (overwrite entries index stored).length =
      entries.length := by
  simp [overwrite]
  omega

theorem getElem?_overwrite {entries : List α} {index : Nat} {stored : List α}
    (inside : index + stored.length ≤ entries.length) (i : Nat) :
    (overwrite entries index stored)[i]? =
      if index ≤ i ∧ i < index + stored.length then stored[i - index]? else entries[i]? := by
  unfold overwrite
  have before : (entries.take index).length = index := by simp; omega
  rcases Nat.lt_or_ge i index with low | high
  · rw [if_neg (by omega), List.append_assoc, List.getElem?_append_left (by omega),
      List.getElem?_take, if_pos low]
  · rw [List.append_assoc, List.getElem?_append_right (by omega), before]
    rcases Nat.lt_or_ge i (index + stored.length) with within | past
    · rw [if_pos (by omega), List.getElem?_append_left (by omega)]
    · rw [if_neg (by omega), List.getElem?_append_right (by omega), List.getElem?_drop]
      congr 1
      omega

/-- Storing a run one entry after the other. -/
theorem overwrite_set {entries : List α} {index : Nat} (inside : index < entries.length) (first : α)
    (rest : List α) : overwrite (entries.set index first) (index + 1) rest =
      overwrite entries index (first :: rest) := by
  have size : index + (rest.length + 1) = index + 1 + rest.length := by omega
  simp only [overwrite, List.length_cons, size]
  rw [List.drop_set_of_lt (by omega)]
  congr 1
  rw [List.take_add_one, List.take_set_of_le (by omega), List.getElem?_set_self inside]
  simp

end Entries

end WifiAccess

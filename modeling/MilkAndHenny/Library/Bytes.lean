import Mathlib.Algebra.GroupWithZero.Nat
import Mathlib.Data.List.Basic

/-! Bytes: little-endian words, buffers that are written in place, and words read in turn. -/

namespace MilkAndHenny.Library

variable {done : Bytes} {offset : Nat}

abbrev Bytes : Type := List UInt8

namespace Bytes

/-- The low `width` bytes of a number, least significant first. -/
def word (width : Nat) (value : Nat) : Bytes :=
  match width with
  | 0 => []
  | width + 1 => UInt8.ofNat value :: word width (value / 256)

def value (bytes : Bytes) : Nat :=
  match bytes with
  | [] => 0
  | byte :: bytes => byte.toNat + 256 * value bytes

@[simp] theorem length_word (width number : Nat) : (word width number).length = width := by
  induction width generalizing number with
  | zero => rfl
  | succ width ih => simp [word, ih]

theorem value_word (width number : Nat) : value (word width number) = number % 256 ^ width := by
  induction width generalizing number with
  | zero => simp [word, value, Nat.mod_one]
  | succ width ih =>
    simp only [word, value, ih]
    rw [Nat.pow_succ, Nat.mul_comm (256 ^ width) 256, Nat.mod_mul]
    rfl

theorem word_halves (low high number : Nat) :
    word low (number % 256 ^ low) ++ word high (number / 256 ^ low) = word (low + high) number := by
  induction low generalizing number with
  | zero => simp [word]
  | succ low ih =>
    have rest : number % 256 ^ (low + 1) / 256 = number / 256 % 256 ^ low := by
      rw [Nat.pow_succ, Nat.mul_comm (256 ^ low) 256, Nat.mod_mul_right_div_self]
    have byte : UInt8.ofNat (number % 256 ^ (low + 1)) = UInt8.ofNat number := by
      apply UInt8.toNat.inj
      have divides : 256 ∣ 256 ^ (low + 1) := Nat.dvd_mul_left 256 (256 ^ low)
      exact Nat.mod_mod_of_dvd number divides
    have above : number / 256 ^ (low + 1) = number / 256 / 256 ^ low := by
      rw [Nat.pow_succ, Nat.mul_comm (256 ^ low) 256, Nat.div_div_eq_div_mul]
    rw [Nat.succ_add]
    simp [word, rest, byte, above, ih]

theorem word_mod (width number : Nat) : word width (number % 256 ^ width) = word width number := by
  simpa [word] using word_halves width 0 number

def words (fields : List (Nat × Nat)) : Bytes := fields.flatMap fun (width, value) => word width value

theorem words_cons (width value : Nat) (fields : List (Nat × Nat)) :
    words ((width, value) :: fields) = word width value ++ words fields := List.flatMap_cons

theorem length_words (fields : List (Nat × Nat)) : (words fields).length = (fields.map Prod.fst).sum := by
  simp [words, List.length_flatMap]

def halved (fields : List (Nat × Nat)) : List (Nat × Nat) :=
  fields.flatMap fun (width, value) =>
    if width = 8 then [(4, value % 256 ^ 4), (4, value / 256 ^ 4 % 256 ^ 4)] else [(width, value)]

theorem words_halved (fields : List (Nat × Nat)) : words (halved fields) = words fields := by
  induction fields with
  | nil => rfl
  | cons field fields ih =>
    obtain ⟨width, value⟩ := field
    have split : words (halved ((width, value) :: fields)) =
        words (if width = 8 then [(4, value % 256 ^ 4), (4, value / 256 ^ 4 % 256 ^ 4)] else [(width, value)]) ++
          words (halved fields) := by
      simp [words, halved]
    rw [split, ih, words_cons]
    congr 1
    split
    · next wide =>
      rw [wide, words_cons, words_cons, word_mod 4 (value / 256 ^ 4), ← List.append_assoc, word_halves]
      exact List.append_nil _
    · exact List.append_nil _

section
variable {fields : List (Nat × Nat)} {size : Nat}

def zeroed (size : Nat) : Bytes := List.replicate size 0

/-- `Uint8Array.set` and the setters of a `DataView`, for a write that ends inside the buffer. -/
def setAt (buffer : Bytes) (offset : Nat) (bytes : Bytes) : Bytes :=
  buffer.take offset ++ bytes ++ buffer.drop (offset + bytes.length)

@[simp] theorem length_zeroed (size : Nat) : (zeroed size).length = size := List.length_replicate

theorem zeroed_add (size more : Nat) : zeroed (size + more) = zeroed size ++ zeroed more :=
  List.replicate_add size more 0

theorem setAt_next (next : done.length = offset) (bytes : Bytes) (rest : Nat) :
    setAt (done ++ zeroed (bytes.length + rest)) offset bytes = (done ++ bytes) ++ zeroed rest := by
  subst next
  rw [zeroed_add]
  simp only [setAt, List.take_left', List.append_assoc]
  rw [List.drop_append, List.drop_of_length_le (Nat.le_add_right _ _), Nat.add_sub_cancel_left,
    List.drop_left' (length_zeroed _), List.nil_append]

def fill (offset : Nat) (fields : List (Nat × Nat)) (buffer : Bytes) : Bytes :=
  match fields with
  | [] => buffer
  | (width, value) :: fields => fill (offset + width) fields (setAt buffer offset (word width value))

theorem fill_next (next : done.length = offset) (fields : List (Nat × Nat)) (rest : Nat) :
    fill offset fields (done ++ zeroed ((fields.map Prod.fst).sum + rest)) = done ++ words fields ++ zeroed rest := by
  induction fields generalizing done offset with
  | nil => simp [fill, words]
  | cons field fields ih =>
    obtain ⟨width, value⟩ := field
    have room : (((width, value) :: fields).map Prod.fst).sum = width + (fields.map Prod.fst).sum := List.sum_cons
    have set := setAt_next next (word width value) ((fields.map Prod.fst).sum + rest)
    rw [length_word] at set
    rw [room, Nat.add_assoc, fill, set, ih (by simp [next]), words_cons]
    simp

theorem fill_zeroed (sum : (fields.map Prod.fst).sum = size) (rest : Nat) :
    fill 0 fields (zeroed (size + rest)) = words fields ++ zeroed rest := by
  subst sum
  exact @fill_next [] 0 rfl fields rest

theorem fill_full (sum : (fields.map Prod.fst).sum = size) : fill 0 fields (zeroed size) = words fields := by
  simpa [zeroed] using fill_zeroed sum 0

end

section
variable {bytes : Bytes} {size : Nat}

/-- The next `size` bytes, if that many are left. -/
def take (size : Nat) (bytes : Bytes) : Option (Bytes × Bytes) :=
  if size ≤ bytes.length then some (List.take size bytes, List.drop size bytes) else none

/-- Fields of these widths, one after another. -/
def numbers (widths : List Nat) (bytes : Bytes) : Option (List Nat × Bytes) :=
  match widths with
  | [] => some ([], bytes)
  | width :: widths => do
    let (digits, bytes) ← take width bytes
    let (values, bytes) ← numbers widths bytes
    return (value digits :: values, bytes)

theorem take_append (same : bytes.length = size) (rest : Bytes) : take size (bytes ++ rest) = some (bytes, rest) := by
  subst same
  rw [take, if_pos (by simp), List.take_left', List.drop_left'] <;> rfl

theorem take_shorter (shorter : size ≤ bytes.length) (rest : Bytes) :
    take size (bytes ++ rest) = some (List.take size bytes, List.drop size bytes ++ rest) := by
  rw [take, if_pos (by simp only [List.length_append]; omega), List.take_append_of_le_length shorter,
    List.drop_append_of_le_length shorter]

theorem numbers_words (fields : List (Nat × Nat)) (rest : Bytes) :
    numbers (fields.map Prod.fst) (words fields ++ rest) = some (fields.map fun (width, value) => value % 256 ^ width, rest) := by
  induction fields with
  | nil => rfl
  | cons field fields ih =>
    obtain ⟨width, value⟩ := field
    simp [numbers, words_cons, take_append, ih, value_word]

end

def ofText (text : String) : Bytes := text.toUTF8.data.toList

def toText (bytes : Bytes) : Option String := String.fromUTF8? ⟨bytes.toArray⟩

@[simp] theorem toText_ofText (text : String) : toText (ofText text) = some text := by
  simp only [toText, ofText, Array.toArray_toList, String.fromUTF8?, String.toUTF8_eq_toByteArray,
    dif_pos text.isValidUTF8]
  rfl

theorem length_ofText (text : String) : (ofText text).length = text.utf8ByteSize := by
  simp [ofText]

theorem ofText_toText {bytes : Bytes} {text : String} (read : toText bytes = some text) : ofText text = bytes := by
  simp only [toText, String.fromUTF8?] at read
  split at read
  · cases read
    rfl
  · cases read

end Bytes

end MilkAndHenny.Library

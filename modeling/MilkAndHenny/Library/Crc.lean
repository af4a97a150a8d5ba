import MilkAndHenny.Library.Bytes

/-! Reflected cyclic redundancy checks: one bit at a time, and one byte at a time. -/

namespace MilkAndHenny.Library.Crc

variable {w : Nat}

def shift (polynomial remainder : BitVec w) : BitVec w :=
  if remainder.getLsbD 0 then polynomial ^^^ (remainder >>> 1) else remainder >>> 1

def shifts (polynomial : BitVec w) (count : Nat) (remainder : BitVec w) : BitVec w :=
  match count with
  | 0 => remainder
  | count + 1 => shifts polynomial count (shift polynomial remainder)

def feed (polynomial remainder : BitVec w) (bit : Bool) : BitVec w :=
  if remainder.getLsbD 0 ^^ bit then polynomial ^^^ (remainder >>> 1) else remainder >>> 1

/-- The bits of the message in the order they are sent, the lowest of each byte first. -/
def bits (bytes : Bytes) : List Bool :=
  bytes.flatMap fun byte => (List.range 8).map byte.toBitVec.getLsbD

def bitwise (polynomial : BitVec w) (bytes : Bytes) : BitVec w :=
  ~~~ (bits bytes).foldl (feed polynomial) (BitVec.allOnes w)

section
variable (polynomial : BitVec w) {count : Nat}

private theorem cancel (a b p : BitVec w) : p ^^^ a ^^^ (p ^^^ b) = a ^^^ b := by
  ext i
  simp only [BitVec.getElem_xor]
  cases p[i] <;> simp

theorem shift_xor (a b : BitVec w) : shift polynomial (a ^^^ b) = shift polynomial a ^^^ shift polynomial b := by
  simp only [shift, BitVec.getLsbD_xor, BitVec.ushiftRight_xor_distrib]
  cases a.getLsbD 0 <;> cases b.getLsbD 0
  · rfl
  · simp [← BitVec.xor_assoc, BitVec.xor_comm polynomial]
  · simp [← BitVec.xor_assoc]
  · simp [cancel]

theorem shifts_xor (count : Nat) (a b : BitVec w) :
    shifts polynomial count (a ^^^ b) = shifts polynomial count a ^^^ shifts polynomial count b := by
  induction count generalizing a b with
  | zero => rfl
  | succ count ih => simp [shifts, shift_xor, ih]

theorem shifts_clear {remainder : BitVec w} (clear : ∀ i < count, remainder.getLsbD i = false) :
    shifts polynomial count remainder = remainder >>> count := by
  induction count generalizing remainder with
  | zero => simp [shifts]
  | succ count ih =>
    have first : shift polynomial remainder = remainder >>> 1 := by
      rw [shift, clear 0 (Nat.succ_pos count), if_neg Bool.false_ne_true]
    have below : ∀ i < count, (remainder >>> 1).getLsbD i = false := by
      intro i inside
      rw [BitVec.getLsbD_ushiftRight, Nat.add_comm]
      exact clear (i + 1) (Nat.succ_lt_succ inside)
    rw [shifts, first, ih below, ← BitVec.shiftRight_add, Nat.add_comm]

theorem shift_feed (remainder message : BitVec w) :
    shift polynomial (remainder ^^^ message) = feed polynomial remainder (message.getLsbD 0) ^^^ (message >>> 1) := by
  simp only [shift, feed, BitVec.getLsbD_xor, BitVec.ushiftRight_xor_distrib]
  split
  · rw [BitVec.xor_assoc]
  · rfl

theorem foldl_feed {message : BitVec w} (fits : message.toNat < 2 ^ count) (remainder : BitVec w) :
    ((List.range count).map message.getLsbD).foldl (feed polynomial) remainder =
      shifts polynomial count (remainder ^^^ message) := by
  induction count generalizing message remainder with
  | zero =>
    have empty : message = 0#w := BitVec.eq_of_toNat_eq (by simpa using fits)
    simp [empty, shifts]
  | succ count ih =>
    have below : (message >>> 1).toNat < 2 ^ count := by
      rw [BitVec.toNat_ushiftRight, Nat.shiftRight_eq_div_pow]
      omega
    have next : (List.range count).map (message.getLsbD ∘ Nat.succ) = (List.range count).map (message >>> 1).getLsbD := by
      refine List.map_congr_left fun i _ => ?_
      rw [BitVec.getLsbD_ushiftRight, Nat.add_comm]
      rfl
    rw [List.range_succ_eq_map, List.map_cons, List.map_map, List.foldl_cons, next, ih below, shifts, shift_feed]

def low (message : BitVec w) : BitVec w := (message.setWidth 8).setWidth w

theorem low_clear (message : BitVec w) : ∀ i < 8, (message ^^^ low message).getLsbD i = false := by
  intro i inside
  by_cases short : i < w
  · simp [low, inside, short]
  · exact BitVec.getLsbD_of_ge _ _ (Nat.le_of_not_lt short)

theorem low_above (message : BitVec w) : low message >>> 8 = 0#w := by
  apply BitVec.eq_of_getLsbD_eq
  intro i _
  simp [low]

theorem shifts_byte (remainder : BitVec w) :
    shifts polynomial 8 remainder = shifts polynomial 8 (low remainder) ^^^ (remainder >>> 8) := by
  have parts : remainder = low remainder ^^^ (remainder ^^^ low remainder) := by
    rw [BitVec.xor_comm remainder, ← BitVec.xor_assoc, BitVec.xor_self, BitVec.zero_xor]
  have rest : shifts polynomial 8 (remainder ^^^ low remainder) = remainder >>> 8 := by
    rw [shifts_clear polynomial (low_clear remainder), BitVec.ushiftRight_xor_distrib, low_above, BitVec.xor_zero]
  calc shifts polynomial 8 remainder
      = shifts polynomial 8 (low remainder ^^^ (remainder ^^^ low remainder)) := congrArg _ parts
    _ = _ := by rw [shifts_xor, rest]

end

section
variable (polynomial : BitVec w) {table : BitVec 8 → BitVec w}

/-- One byte of the message, looked up: `table` holds what each byte leaves behind. -/
def byteStep (table : BitVec 8 → BitVec w) (remainder : BitVec w) (byte : UInt8) : BitVec w :=
  table ((remainder ^^^ byte.toBitVec.setWidth w).setWidth 8) ^^^ (remainder >>> 8)

theorem byteStep_eq (wide : 8 ≤ w)
    (filled : ∀ index, table index = shifts polynomial 8 (index.setWidth w)) (remainder : BitVec w) (byte : UInt8) :
    byteStep table remainder byte = ((List.range 8).map byte.toBitVec.getLsbD).foldl (feed polynomial) remainder := by
  have fits : (byte.toBitVec.setWidth w).toNat < 2 ^ 8 := by
    rw [BitVec.toNat_setWidth]
    exact Nat.lt_of_le_of_lt (Nat.mod_le _ _) byte.toBitVec.isLt
  have same : (List.range 8).map byte.toBitVec.getLsbD = (List.range 8).map (byte.toBitVec.setWidth w).getLsbD := by
    refine List.map_congr_left fun i mem => ?_
    have inside : i < w := Nat.lt_of_lt_of_le (List.mem_range.mp mem) wide
    simp [inside]
  have above : byte.toBitVec.setWidth w >>> 8 = 0#w := by
    apply BitVec.eq_of_getLsbD_eq
    intro i _
    simp
  rw [same, foldl_feed polynomial fits, shifts_byte, BitVec.ushiftRight_xor_distrib, above, BitVec.xor_zero, byteStep, filled]
  rfl

theorem foldl_byteStep (wide : 8 ≤ w)
    (filled : ∀ index, table index = shifts polynomial 8 (index.setWidth w)) (remainder : BitVec w) (bytes : Bytes) :
    bytes.foldl (byteStep table) remainder = (bits bytes).foldl (feed polynomial) remainder := by
  induction bytes generalizing remainder with
  | nil => rfl
  | cons byte bytes ih =>
    have split : bits (byte :: bytes) = (List.range 8).map byte.toBitVec.getLsbD ++ bits bytes := List.flatMap_cons
    rw [List.foldl_cons, ih, byteStep_eq polynomial wide filled, split, List.foldl_append]

end

end MilkAndHenny.Library.Crc

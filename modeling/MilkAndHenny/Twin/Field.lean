import Mathlib.Algebra.Field.MinimalAxioms
import Mathlib.Algebra.Field.ZMod
import MilkAndHenny.Twin.Deck

/-! The arithmetic under the deck: of a prime order, and of the orders 4, 8 and 9, the numbers below the
order are a field, and the tables that the operations are read from hold it. -/

namespace MilkAndHenny.Twin

variable {field : GaloisField} {order a b : Nat} {prime : Nat}

/-- The laws of a field, on the numbers below the order. -/
structure IsField (order : Nat) (field : GaloisField) : Prop where
  proper : 1 < order
  add_lt : ∀ a < order, ∀ b < order, field.add a b < order
  add_assoc : ∀ a < order, ∀ b < order, ∀ c < order, field.add (field.add a b) c = field.add a (field.add b c)
  add_comm : ∀ a < order, ∀ b < order, field.add a b = field.add b a
  zero_add : ∀ a < order, field.add 0 a = a
  negative : ∀ a < order, ∃ b < order, field.add b a = 0
  multiply_lt : ∀ a < order, ∀ b < order, field.multiply a b < order
  multiply_assoc : ∀ a < order, ∀ b < order, ∀ c < order,
    field.multiply (field.multiply a b) c = field.multiply a (field.multiply b c)
  multiply_comm : ∀ a < order, ∀ b < order, field.multiply a b = field.multiply b a
  one_multiply : ∀ a < order, field.multiply 1 a = a
  distribute : ∀ a < order, ∀ b < order, ∀ c < order,
    field.multiply a (field.add b c) = field.add (field.multiply a b) (field.multiply a c)
  inverse : ∀ a < order, a ≠ 0 → field.inverse a < order ∧ field.multiply a (field.inverse a) = 1

/-- The orders of which the elements fit an `Int8`. -/
def Fits (order : Nat) : Prop := order.Prime ∧ order ≤ 2 ^ 7 ∨ order ∈ [4, 8, 9]

/-! ### A prime order -/

section
variable {prime : Nat} (plain : extensions prime = none)
include plain

theorem add_prime : (galoisField prime).add a b = (a % prime + b % prime) % prime := by
  simp [galoisField, plain, digits, encode]

theorem multiply_prime : (galoisField prime).multiply a b = a % prime * (b % prime) % prime := by
  simp [galoisField, plain, digits, encode, polynomialProduct]

theorem cast_add : (((galoisField prime).add a b : Nat) : ZMod prime) = a + b := by
  rw [add_prime plain, ZMod.natCast_mod, Nat.cast_add, ZMod.natCast_mod, ZMod.natCast_mod]

theorem cast_multiply : (((galoisField prime).multiply a b : Nat) : ZMod prime) = a * b := by
  rw [multiply_prime plain, ZMod.natCast_mod, Nat.cast_mul, ZMod.natCast_mod, ZMod.natCast_mod]

end

theorem eq_of_cast (inside : a < prime) (within : b < prime) (same : (a : ZMod prime) = b) : a = b :=
  Nat.ModEq.eq_of_lt_of_lt ((ZMod.natCast_eq_natCast_iff a b prime).mp same) inside within

theorem find?_found {items : List Nat} (listed : b ∈ items) (test : Nat → Bool) (passes : test b = true) :
    ∃ found, items.find? test = some found ∧ found ∈ items ∧ test found = true := by
  obtain ⟨found, some⟩ := isSome_iff_exists.mp (find?_isSome.mpr ⟨b, listed, passes⟩)
  exact ⟨found, some, mem_of_find?_eq_some some, find?_some some⟩

theorem inverse_found (within : b < order) (positive : b ≠ 0) (one : (galoisField order).multiply a b = 1) :
    (galoisField order).inverse a < order ∧ (galoisField order).multiply a ((galoisField order).inverse a) = 1 := by
  have searched : (galoisField order).inverse a =
      ((List.range' 1 (order - 1)).find? fun b => (galoisField order).multiply a b == 1).getD 0 := rfl
  have listed : b ∈ List.range' 1 (order - 1) := mem_range'_1.mpr (by omega)
  obtain ⟨found, some, inside, held⟩ :=
    find?_found listed (fun b => (galoisField order).multiply a b == 1) (by rw [one]; rfl)
  have inside := mem_range'_1.mp inside
  rw [searched, some, getD_some]
  exact ⟨by omega, beq_iff_eq.mp held⟩

theorem prime_isField (isPrime : prime.Prime) : IsField prime (galoisField prime) := by
  have plain : extensions prime = none := by
    unfold extensions
    split <;> first | rfl | (exact absurd isPrime (by decide))
  have := Fact.mk isPrime
  have proper := isPrime.one_lt
  have positive := isPrime.pos
  have add_lt (a b) : (galoisField prime).add a b < prime := by
    rw [add_prime plain]
    exact Nat.mod_lt _ positive
  have multiply_lt (a b) : (galoisField prime).multiply a b < prime := by
    rw [multiply_prime plain]
    exact Nat.mod_lt _ positive
  refine ⟨proper, fun a _ b _ => add_lt a b, ?_, ?_, ?_, ?_, fun a _ b _ => multiply_lt a b, ?_, ?_, ?_, ?_, ?_⟩
  · intro a _ b _ c _
    refine eq_of_cast (add_lt _ _) (add_lt _ _) ?_
    simp [cast_add plain, add_assoc]
  · intro a _ b _
    refine eq_of_cast (add_lt _ _) (add_lt _ _) ?_
    simp [cast_add plain, add_comm]
  · intro a inside
    refine eq_of_cast (add_lt _ _) inside ?_
    rw [cast_add plain, Nat.cast_zero, zero_add]
  · intro a inside
    refine ⟨(-(a : ZMod prime)).val, ZMod.val_lt _, eq_of_cast (add_lt _ _) positive ?_⟩
    rw [cast_add plain, ZMod.natCast_zmod_val, neg_add_cancel, Nat.cast_zero]
  · intro a _ b _ c _
    refine eq_of_cast (multiply_lt _ _) (multiply_lt _ _) ?_
    simp [cast_multiply plain, mul_assoc]
  · intro a _ b _
    refine eq_of_cast (multiply_lt _ _) (multiply_lt _ _) ?_
    simp [cast_multiply plain, mul_comm]
  · intro a inside
    refine eq_of_cast (multiply_lt _ _) inside ?_
    rw [cast_multiply plain, Nat.cast_one, one_mul]
  · intro a _ b _ c _
    refine eq_of_cast (multiply_lt _ _) (add_lt _ _) ?_
    simp [cast_multiply plain, cast_add plain, mul_add]
  · intro a inside nonzero
    have proper' : (a : ZMod prime) ≠ 0 := fun zero => nonzero (eq_of_cast inside positive (zero.trans Nat.cast_zero.symm))
    refine inverse_found (b := ((a : ZMod prime)⁻¹).val) (ZMod.val_lt _) ?_ ?_
    · rw [ne_eq, ZMod.val_eq_zero]
      exact inv_ne_zero proper'
    · refine eq_of_cast (multiply_lt _ _) proper ?_
      rw [cast_multiply plain, ZMod.natCast_zmod_val, mul_inv_cancel₀ proper', Nat.cast_one]

/-! ### The orders of the extensions -/

theorem galoisField_isField (fits : Fits order) : IsField order (galoisField order) := by
  obtain ⟨isPrime, -⟩ | listed := fits
  · exact prime_isField isPrime
  · simp only [mem_cons, not_mem_nil, or_false] at listed
    rcases listed with rfl | rfl | rfl <;> constructor <;> decide +kernel

/-! ### The field of an order -/

/-- A number below the order. -/
@[ext] structure Element {order : Nat} {field : GaloisField} (laws : IsField order field) where
  value : Nat
  inside : value < order

namespace Element
variable {laws : IsField order field}

instance : DecidableEq (Element laws) := fun a b => decidable_of_iff (a.value = b.value) Element.ext_iff.symm
instance : Fintype (Element laws) :=
  Fintype.ofEquiv (Fin order) ⟨fun a => ⟨a.1, a.2⟩, fun a => ⟨a.1, a.2⟩, fun _ => rfl, fun _ => rfl⟩

theorem card (laws : IsField order field) : Fintype.card (Element laws) = order :=
  (Fintype.card_congr ⟨fun a => ⟨a.1, a.2⟩, fun a => ⟨a.1, a.2⟩, fun _ => rfl, fun _ => rfl⟩).trans (Fintype.card_fin order)

instance : Add (Element laws) := ⟨fun a b => ⟨field.add a.1 b.1, laws.add_lt a.1 a.2 b.1 b.2⟩⟩
instance : Mul (Element laws) := ⟨fun a b => ⟨field.multiply a.1 b.1, laws.multiply_lt a.1 a.2 b.1 b.2⟩⟩
instance : Zero (Element laws) := ⟨⟨0, Nat.lt_of_succ_lt laws.proper⟩⟩
instance : One (Element laws) := ⟨⟨1, laws.proper⟩⟩
instance : Inv (Element laws) :=
  ⟨fun a => if nonzero : a.1 = 0 then 0 else ⟨field.inverse a.1, (laws.inverse a.1 a.2 nonzero).1⟩⟩
noncomputable instance : Neg (Element laws) :=
  ⟨fun a => ⟨(laws.negative a.1 a.2).choose, (laws.negative a.1 a.2).choose_spec.1⟩⟩

@[simp] theorem mul_value (a b : Element laws) : (a * b).value = field.multiply a.value b.value := rfl

theorem inv_value {a : Element laws} (nonzero : a.value ≠ 0) : (a⁻¹).value = field.inverse a.value := by
  have inverted : a⁻¹ = if nonzero : a.1 = 0 then 0 else ⟨field.inverse a.1, (laws.inverse a.1 a.2 nonzero).1⟩ := rfl
  rw [inverted, dif_neg nonzero]

noncomputable instance : Field (Element laws) := by
  refine Field.ofMinimalAxioms (Element laws) ?_ ?_ ?_ ?_ ?_ ?_ ?_ ?_ ?_ ?_
  · exact fun a b c => Element.ext (laws.add_assoc a.1 a.2 b.1 b.2 c.1 c.2)
  · exact fun a => Element.ext (laws.zero_add a.1 a.2)
  · exact fun a => Element.ext (laws.negative a.1 a.2).choose_spec.2
  · exact fun a b c => Element.ext (laws.multiply_assoc a.1 a.2 b.1 b.2 c.1 c.2)
  · exact fun a b => Element.ext (laws.multiply_comm a.1 a.2 b.1 b.2)
  · exact fun a => Element.ext (laws.one_multiply a.1 a.2)
  · intro a nonzero
    have proper : a.value ≠ 0 := fun zero => nonzero (Element.ext zero)
    refine Element.ext ?_
    rw [mul_value, inv_value proper]
    exact (laws.inverse a.1 a.2 proper).2
  · exact dif_pos rfl
  · exact fun a b c => Element.ext (laws.distribute a.1 a.2 b.1 b.2 c.1 c.2)
  · exact ⟨0, 1, fun same => absurd (congrArg value same) Nat.zero_ne_one⟩

end Element

theorem IsField.inverse_ne_zero (laws : IsField order field) (inside : a < order)
    (nonzero : a ≠ 0) : field.inverse a ≠ 0 := by
  have proper : (⟨a, inside⟩ : Element laws) ≠ 0 := fun zero => nonzero (congrArg Element.value zero)
  have inverse := Element.inv_value (a := (⟨a, inside⟩ : Element laws)) nonzero
  exact fun zero => inv_ne_zero proper (Element.ext (inverse.trans zero))

theorem IsField.inverse_unique (laws : IsField order field) (inside : a < order)
    (within : b < order) (nonzero : a ≠ 0) (one : field.multiply a b = 1) : b = field.inverse a := by
  have product : (⟨a, inside⟩ : Element laws) * ⟨b, within⟩ = 1 := Element.ext one
  rw [← Element.inv_value (a := (⟨a, inside⟩ : Element laws)) nonzero, ← eq_inv_of_mul_eq_one_right product]

/-! ### The tables -/

/-- The three arrays, row by row. -/
structure FieldTables where
  sums : List Int8
  products : List Int8
  inverses : List Int8

def fieldTables (order : Nat) : FieldTables :=
  let table (operation : Nat → Nat → Nat) : List Int8 :=
    (List.range order).flatMap fun a => (List.range order).map fun b => Int8.ofNat (operation a b)
  let products := table (galoisField order).multiply
  { sums := table (galoisField order).add
    products
    -- the last product that is one is the one that stays
    inverses := (List.range order).map fun a =>
      if a = 0 then -1
      else ((List.range' 1 (order - 1)).reverse.find? fun b => products.getD (a * order + b) 0 == 1).elim (-1) Int8.ofNat }

/-- Every entry that is read is the number that the field computes. -/
structure FieldTables.Holds (tables : FieldTables) (order : Nat) (field : GaloisField) : Prop where
  sums : ∀ a < order, ∀ b < order, (tables.sums[a * order + b]?).map Int8.toInt = some ↑(field.add a b)
  products : ∀ a < order, ∀ b < order, (tables.products[a * order + b]?).map Int8.toInt = some ↑(field.multiply a b)
  inverses : ∀ a < order, a ≠ 0 → (tables.inverses[a]?).map Int8.toInt = some ↑(field.inverse a)

theorem getElem?_table {α : Type} (entry : Nat → Nat → α) (columns rows : Nat) (row : a < rows) (column : b < columns) :
    ((List.range rows).flatMap fun a => (List.range columns).map fun b => entry a b)[a * columns + b]? = some (entry a b) := by
  induction rows generalizing entry a with
  | zero => exact absurd row (Nat.not_lt_zero a)
  | succ rows ih =>
    rw [List.range_succ_eq_map, flatMap_cons, flatMap_map]
    cases a with
    | zero => rw [Nat.zero_mul, Nat.zero_add, List.getElem?_append_left (by simpa using column)]; simp [column]
    | succ a =>
      rw [List.getElem?_append_right (by simp [Nat.succ_mul]; omega)]
      have shifted : (a + 1) * columns + b - ((List.range columns).map fun b => entry 0 b).length = a * columns + b := by
        rw [length_map, length_range, Nat.succ_mul]
        omega
      rw [shifted]
      exact ih (fun a b => entry (a + 1) b) (by omega)

theorem toInt_ofNat {value : Nat} (small : value < 2 ^ 7) : (Int8.ofNat value).toInt = value :=
  Int8.toInt_ofNat_of_lt small

theorem fieldTables_holds (fits : Fits order) : (fieldTables order).Holds order (galoisField order) := by
  have laws := galoisField_isField fits
  have small : order ≤ 2 ^ 7 := by
    obtain ⟨-, small⟩ | listed := fits
    · exact small
    · simp only [mem_cons, not_mem_nil, or_false] at listed
      omega
  have product {a b : Nat} (inside : a < order) (within : b < order) :
      (fieldTables order).products[a * order + b]? = some (Int8.ofNat ((galoisField order).multiply a b)) :=
    getElem?_table (fun a b => Int8.ofNat ((galoisField order).multiply a b)) order order inside within
  have one_iff {a b : Nat} (inside : a < order) (within : b < order) :
      ((fieldTables order).products.getD (a * order + b) 0 == 1) = true ↔ (galoisField order).multiply a b = 1 := by
    have held := toInt_ofNat (Nat.lt_of_lt_of_le (laws.multiply_lt a inside b within) small)
    rw [List.getD_eq_getElem?_getD, product inside within, getD_some, beq_iff_eq, ← Int8.toInt_inj, held]
    exact Nat.cast_eq_one
  refine ⟨?_, ?_, ?_⟩
  · intro a inside b within
    have sum : (fieldTables order).sums[a * order + b]? = _ :=
      getElem?_table (fun a b => Int8.ofNat ((galoisField order).add a b)) order order inside within
    rw [sum, map_some, toInt_ofNat (Nat.lt_of_lt_of_le (laws.add_lt a inside b within) small)]
  · intro a inside b within
    rw [product inside within, map_some, toInt_ofNat (Nat.lt_of_lt_of_le (laws.multiply_lt a inside b within) small)]
  · intro a inside nonzero
    obtain ⟨within, one⟩ := laws.inverse a inside nonzero
    have entry : (fieldTables order).inverses[a]? = some (((List.range' 1 (order - 1)).reverse.find? fun b =>
        (fieldTables order).products.getD (a * order + b) 0 == 1).elim (-1) Int8.ofNat) := by
      have mapped := List.getElem?_range inside
      unfold fieldTables
      simp [mapped, if_neg nonzero]
    have positive := laws.inverse_ne_zero inside nonzero
    have listed : (galoisField order).inverse a ∈ (List.range' 1 (order - 1)).reverse :=
      mem_reverse.mpr (mem_range'_1.mpr (by omega))
    obtain ⟨found, some, range, held⟩ :=
      find?_found listed (fun b => (fieldTables order).products.getD (a * order + b) 0 == 1) ((one_iff inside within).mpr one)
    have range := mem_range'_1.mp (mem_reverse.mp range)
    have found_lt : found < order := by omega
    rw [entry, some, elim_some, map_some, toInt_ofNat (by omega),
      laws.inverse_unique inside found_lt nonzero ((one_iff inside found_lt).mp held)]

end MilkAndHenny.Twin

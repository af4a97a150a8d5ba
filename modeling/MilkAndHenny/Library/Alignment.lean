import Mathlib.Algebra.BigOperators.Group.List.Basic
import Mathlib.Algebra.GroupWithZero.Nat
import Mathlib.Algebra.Order.Group.Nat
import Mathlib.Order.Bounds.Basic
import Mathlib.Data.List.Induction

/-! Optimal string alignment: one list is turned into another from left to right, and every item
on either side belongs to exactly one edit. -/

namespace MilkAndHenny.Library

variable {α : Type}

inductive Edit (α : Type) where
  | keep (item : α)
  | insert (item : α)
  | delete (item : α)
  | substitute (old new : α)
  /-- Two neighbours change places. -/
  | swap (first second : α)

namespace Edit

def before : Edit α → List α
  | keep item => [item]
  | insert _ => []
  | delete item => [item]
  | substitute old _ => [old]
  | swap first second => [first, second]

/-- What it leaves in the second. -/
def after : Edit α → List α
  | keep item => [item]
  | insert item => [item]
  | delete _ => []
  | substitute _ new => [new]
  | swap first second => [second, first]

def cost : Edit α → Nat
  | keep _ => 0
  | _ => 1

def inverse : Edit α → Edit α
  | keep item => keep item
  | insert item => delete item
  | delete item => insert item
  | substitute old new => substitute new old
  | swap first second => swap second first

@[simp] theorem before_inverse (edit : Edit α) : edit.inverse.before = edit.after := by cases edit <;> rfl

@[simp] theorem after_inverse (edit : Edit α) : edit.inverse.after = edit.before := by cases edit <;> rfl

@[simp] theorem cost_inverse (edit : Edit α) : edit.inverse.cost = edit.cost := by cases edit <;> rfl

theorem length_after_le (edit : Edit α) : edit.after.length ≤ edit.before.length + edit.cost := by
  cases edit <;> simp [before, after, cost]

theorem free {edit : Edit α} (none_ : edit.cost = 0) : edit.before = edit.after := by
  cases edit with
  | keep => rfl
  | _ => cases none_

end Edit

def Costs (xs ys : List α) : Set Nat :=
  {total | ∃ edits : List (Edit α), edits.flatMap Edit.before = xs ∧ edits.flatMap Edit.after = ys ∧ (edits.map Edit.cost).sum = total}

section
variable {xs ys : List α} {total : Nat}

theorem costs_concat (reached : total ∈ Costs xs ys) (edit : Edit α) :
    total + edit.cost ∈ Costs (xs ++ edit.before) (ys ++ edit.after) := by
  obtain ⟨edits, rfl, rfl, rfl⟩ := reached
  exact ⟨edits ++ [edit], by simp, by simp, by simp⟩

theorem costs_last (reached : total ∈ Costs xs ys) :
    (xs = [] ∧ ys = [] ∧ total = 0) ∨
      ∃ edit xs' ys' total', total' ∈ Costs xs' ys' ∧ xs = xs' ++ Edit.before edit ∧ ys = ys' ++ edit.after ∧ total = total' + edit.cost := by
  obtain ⟨edits, rfl, rfl, rfl⟩ := reached
  induction edits using List.reverseRecOn with
  | nil => exact .inl ⟨rfl, rfl, rfl⟩
  | append_singleton edits edit => exact .inr ⟨edit, _, _, _, ⟨edits, rfl, rfl, rfl⟩, by simp, by simp, by simp⟩

theorem costs_inverse (reached : total ∈ Costs xs ys) : total ∈ Costs ys xs := by
  obtain ⟨edits, rfl, rfl, rfl⟩ := reached
  refine ⟨edits.map Edit.inverse, ?_, ?_, ?_⟩
  · simp [List.flatMap_map]
  · simp [List.flatMap_map]
  · simp [List.map_map, Function.comp_def]

theorem costs_comm (xs ys : List α) : Costs xs ys = Costs ys xs :=
  Set.ext fun _ => ⟨costs_inverse, costs_inverse⟩

theorem length_le_of_costs (reached : total ∈ Costs xs ys) : ys.length ≤ xs.length + total := by
  obtain ⟨edits, rfl, rfl, rfl⟩ := reached
  induction edits with
  | nil => simp
  | cons edit =>
    have first := edit.length_after_le
    simp only [List.flatMap_cons, List.length_append, List.map_cons, List.sum_cons]
    omega

theorem zero_mem_costs : 0 ∈ Costs xs ys ↔ xs = ys := by
  constructor
  · rintro ⟨edits, rfl, rfl, free⟩
    have each : ∀ edit ∈ edits, edit.cost = 0 := fun edit mem =>
      List.sum_eq_zero_iff_forall_eq_nat.mp free _ (List.mem_map_of_mem mem)
    exact List.flatMap_congr fun edit mem => Edit.free (each edit mem)
  · rintro rfl
    exact ⟨xs.map .keep, by simp [List.flatMap_map, Edit.before], by simp [List.flatMap_map, Edit.after],
      by simp [List.map_map, Function.comp_def, Edit.cost]⟩

theorem isLeast_insert (ys : List α) : IsLeast (Costs [] ys) ys.length := by
  refine ⟨⟨ys.map .insert, ?_, ?_, ?_⟩, fun total reached => ?_⟩
  · simp [List.flatMap_map, Edit.before]
  · simp [List.flatMap_map, Edit.after]
  · simp [List.map_map, Function.comp_def, Edit.cost]
  · simpa using length_le_of_costs reached

theorem isLeast_delete (xs : List α) : IsLeast (Costs xs []) xs.length :=
  costs_comm [] xs ▸ isLeast_insert xs

end

section
variable [DecidableEq α] {xs ys : List α} {x y : α} {up left corner far : Nat}

theorem costs_step {total : Nat} (reached : total ∈ Costs (xs ++ [x]) (ys ++ [y])) :
    (∃ less ∈ Costs xs (ys ++ [y]), less + 1 = total) ∨ (∃ less ∈ Costs (xs ++ [x]) ys, less + 1 = total) ∨
      (∃ less ∈ Costs xs ys, less + (if x = y then 0 else 1) ≤ total) ∨
      ∃ xs' ys', xs = xs' ++ [y] ∧ ys = ys' ++ [x] ∧ ∃ less ∈ Costs xs' ys', less + 1 = total := by
  obtain ⟨none_, -⟩ | ⟨edit, xs', ys', less, before, first, second, rfl⟩ := costs_last reached
  · simp at none_
  cases edit with
  | keep =>
    obtain ⟨rfl, ⟨⟩⟩ := List.append_inj' first rfl
    obtain ⟨rfl, ⟨⟩⟩ := List.append_inj' second rfl
    exact .inr (.inr (.inl ⟨less, before, by simp [Edit.cost]⟩))
  | insert =>
    obtain ⟨rfl, ⟨⟩⟩ := List.append_inj' second rfl
    exact .inr (.inl ⟨less, by rwa [first, Edit.before, List.append_nil], rfl⟩)
  | delete =>
    obtain ⟨rfl, ⟨⟩⟩ := List.append_inj' first rfl
    exact .inl ⟨less, by rwa [second, Edit.after, List.append_nil], rfl⟩
  | substitute =>
    obtain ⟨rfl, ⟨⟩⟩ := List.append_inj' first rfl
    obtain ⟨rfl, ⟨⟩⟩ := List.append_inj' second rfl
    refine .inr (.inr (.inl ⟨less, before, ?_⟩))
    simp only [Edit.cost]
    split <;> omega
  | swap one two =>
    have first : xs ++ [x] = (xs' ++ [one]) ++ [two] := by simpa [Edit.before] using first
    have second : ys ++ [y] = (ys' ++ [two]) ++ [one] := by simpa [Edit.after] using second
    obtain ⟨rfl, ⟨⟩⟩ := List.append_inj' first rfl
    obtain ⟨rfl, ⟨⟩⟩ := List.append_inj' second rfl
    exact .inr (.inr (.inr ⟨xs', ys', rfl, rfl, less, before, rfl⟩))

theorem costs_plain (above : up ∈ Costs xs (ys ++ [y])) (beside : left ∈ Costs (xs ++ [x]) ys) (across : corner ∈ Costs xs ys) :
    min (up + 1) (min (left + 1) (corner + if x = y then 0 else 1)) ∈ Costs (xs ++ [x]) (ys ++ [y]) := by
  have deleted : up + 1 ∈ Costs (xs ++ [x]) (ys ++ [y]) := by
    simpa [Edit.before, Edit.after, Edit.cost] using costs_concat above (.delete x)
  have inserted : left + 1 ∈ Costs (xs ++ [x]) (ys ++ [y]) := by
    simpa [Edit.before, Edit.after, Edit.cost] using costs_concat beside (.insert y)
  have replaced : corner + (if x = y then 0 else 1) ∈ Costs (xs ++ [x]) (ys ++ [y]) := by
    split
    · next same => exact same ▸ costs_concat across (.keep x)
    · exact costs_concat across (.substitute x y)
  exact min_rec' (· ∈ Costs (xs ++ [x]) (ys ++ [y])) deleted (min_rec' (· ∈ Costs (xs ++ [x]) (ys ++ [y])) inserted replaced)

theorem isLeast_plain (above : IsLeast (Costs xs (ys ++ [y])) up) (beside : IsLeast (Costs (xs ++ [x]) ys) left)
    (across : IsLeast (Costs xs ys) corner) (apart : ∀ xs' ys', xs = xs' ++ [y] → ys ≠ ys' ++ [x]) :
    IsLeast (Costs (xs ++ [x]) (ys ++ [y])) (min (up + 1) (min (left + 1) (corner + if x = y then 0 else 1))) := by
  refine ⟨costs_plain above.1 beside.1 across.1, fun total reached => ?_⟩
  obtain ⟨less, before, rfl⟩ | ⟨less, before, rfl⟩ | ⟨less, before, within⟩ | ⟨xs', ys', first, second, -⟩ := costs_step reached
  · have := above.2 before
    omega
  · have := beside.2 before
    omega
  · have := across.2 before
    omega
  · exact absurd second (apart xs' ys' first)

theorem isLeast_swap (above : IsLeast (Costs (xs ++ [y]) (ys ++ [x, y])) up) (beside : IsLeast (Costs (xs ++ [y, x]) (ys ++ [x])) left)
    (across : IsLeast (Costs (xs ++ [y]) (ys ++ [x])) corner) (beyond : IsLeast (Costs xs ys) far) :
    IsLeast (Costs (xs ++ [y, x]) (ys ++ [x, y]))
      (min (min (up + 1) (min (left + 1) (corner + if x = y then 0 else 1))) (far + 1)) := by
  have swapped : far + 1 ∈ Costs (xs ++ [y, x]) (ys ++ [x, y]) := costs_concat beyond.1 (.swap y x)
  rw [List.append_cons xs y [x], List.append_cons ys x [y]] at *
  refine ⟨min_rec' (· ∈ Costs _ _) (costs_plain above.1 beside.1 across.1) swapped, fun total reached => ?_⟩
  obtain ⟨less, before, rfl⟩ | ⟨less, before, rfl⟩ | ⟨less, before, within⟩ | ⟨xs', ys', first, second, less, before, rfl⟩ := costs_step reached
  · have := above.2 before
    omega
  · have := beside.2 before
    omega
  · have := across.2 before
    omega
  · obtain ⟨rfl, -⟩ := List.append_inj' first rfl
    obtain ⟨rfl, -⟩ := List.append_inj' second rfl
    have := beyond.2 before
    omega

end

end MilkAndHenny.Library

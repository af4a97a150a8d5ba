import Mathlib.Data.List.Nodup
import Mathlib.Data.List.Perm.Subperm

/-! Texts that are put together from parts and can be taken apart again. -/

namespace MilkAndHenny.Library

section
variable {α : Type} {separator : α} {front front' back back' : List α}

theorem lastSplit_unique (absent : separator ∉ back) (absent' : separator ∉ back')
    (same : front ++ separator :: back = front' ++ separator :: back') : front = front' ∧ back = back' := by
  obtain ⟨between, ahead, behind⟩ | ⟨between, ahead, behind⟩ := List.append_eq_append_iff.mp same
  · cases between with
    | nil => exact ⟨(ahead.trans (List.append_nil _)).symm, (List.cons.inj behind).2⟩
    | cons letter between =>
      rw [(List.cons.inj behind).2] at absent
      exact absurd (List.mem_append_right between List.mem_cons_self) absent
  · cases between with
    | nil => exact ⟨ahead.trans (List.append_nil _), (List.cons.inj behind).2.symm⟩
    | cons letter between =>
      rw [(List.cons.inj behind).2] at absent'
      exact absurd (List.mem_append_right between List.mem_cons_self) absent'

theorem exists_lastSplit {list : List α} (mem : separator ∈ list) : ∃ front back, list = front ++ separator :: back ∧ separator ∉ back := by
  induction list with
  | nil => cases mem
  | cons letter list ih =>
    by_cases later : separator ∈ list
    · obtain ⟨front, back, rfl, absent⟩ := ih later
      exact ⟨letter :: front, back, rfl, absent⟩
    · cases (List.mem_cons.mp mem).resolve_right later
      exact ⟨[], list, rfl, later⟩

end

theorem toList_decimal (number : Nat) : (toString number).toList = Nat.toDigits 10 number := by
  rw [Nat.toString_eq_ofList_toDigits, String.toList_ofList]

theorem decimal_injective {first second : Nat} (same : Nat.toDigits 10 first = Nat.toDigits 10 second) : first = second := by
  have read := congrArg (fun digits => Nat.ofDigitChars 10 digits 0) same
  simpa using read

theorem notMem_decimal {letter : Char} (strange : letter.isDigit = false) (number : Nat) : letter ∉ Nat.toDigits 10 number :=
  fun mem => Bool.false_ne_true (strange.symm.trans (Nat.isDigit_of_mem_toDigits (by decide) (by decide) mem))

section
variable {α : Type} [DecidableEq α] (candidate : Nat → α) (taken : List α) {fuel number : Nat}

def firstFree : Nat → Nat → Option α
  | 0, _ => none
  | fuel + 1, number => if candidate number ∈ taken then firstFree fuel (number + 1) else some (candidate number)

variable {candidate taken}

theorem firstFree_some {found : α} (some_ : firstFree candidate taken fuel number = some found) :
    found ∉ taken ∧ ∃ number, found = candidate number := by
  induction fuel generalizing number with
  | zero => cases some_
  | succ fuel ih =>
    rw [firstFree] at some_
    split at some_
    · exact ih some_
    · next free => exact Option.some.inj some_ ▸ ⟨free, number, rfl⟩

theorem firstFree_none (none_ : firstFree candidate taken fuel number = none) :
    ∀ place ∈ List.range' number fuel, candidate place ∈ taken := by
  induction fuel generalizing number with
  | zero => nofun
  | succ fuel ih =>
    rw [firstFree] at none_
    split at none_
    · next held =>
      intro place mem
      obtain rfl | later := List.mem_cons.mp (List.range'_succ ▸ mem)
      · exact held
      · exact ih none_ place later
    · cases none_

theorem firstFree_enough (injective : Function.Injective candidate) {fuel : Nat} (enough : taken.length < fuel) (number : Nat) :
    ∃ found, firstFree candidate taken fuel number = some found := by
  refine Option.ne_none_iff_exists'.mp fun none_ => ?_
  have distinct : ((List.range' number fuel).map candidate).Nodup := (List.nodup_map_iff injective).mpr List.nodup_range'
  have held : (List.range' number fuel).map candidate ⊆ taken := by
    intro found mem
    obtain ⟨place, listed, rfl⟩ := List.mem_map.mp mem
    exact firstFree_none none_ place listed
  have few := (distinct.subperm held).length_le
  rw [List.length_map, List.length_range'] at few
  omega

end

end MilkAndHenny.Library

import Mathlib.Data.List.Nodup
import Mathlib.Data.List.Perm.Basic
import Mathlib.Logic.Equiv.Basic

/-! Lists put in another order: two places exchanged, two keys exchanged, and values handed
out along keys. -/

namespace MilkAndHenny.Library

variable {α β : Type} {keys : List α}

theorem exchange_perm (items : List α) (i j : Nat) :
    (match items[i]?, items[j]? with
      | some last, some other => (items.set i other).set j last
      | _, _ => items).Perm items := by
  split
  · next last other first second =>
    obtain ⟨inside, rfl⟩ := List.getElem?_eq_some_iff.mp first
    obtain ⟨within, rfl⟩ := List.getElem?_eq_some_iff.mp second
    exact List.set_set_perm inside within
  · rfl

/-- An item and one that is drawn from those up to it change places, from the index down. -/
def shuffleFrom (pick : Nat → Nat → Nat) : Nat → List α → List α
  | 0, items => items
  | index + 1, items =>
    let swap := pick index (index + 2)
    let swapped := match items[index + 1]?, items[swap]? with
      | some last, some other => (items.set (index + 1) other).set swap last
      | _, _ => items
    shuffleFrom pick index swapped

/-- The shuffle of a whole list; what is drawn may depend on the place and on the bound. -/
def shuffle (pick : Nat → Nat → Nat) (items : List α) : List α := shuffleFrom pick (items.length - 1) items

theorem shuffleFrom_perm (pick : Nat → Nat → Nat) (index : Nat) (items : List α) : (shuffleFrom pick index items).Perm items := by
  induction index generalizing items with
  | zero => rfl
  | succ index ih => exact (ih _).trans (exchange_perm items (index + 1) (pick index (index + 2)))

theorem shuffle_perm (pick : Nat → Nat → Nat) (items : List α) : (shuffle pick items).Perm items := shuffleFrom_perm pick _ items

theorem map_exchange_perm [DecidableEq α] (unique : keys.Nodup) {a b : α} (first : a ∈ keys) (second : b ∈ keys)
    (value : α → β) :
    (keys.map fun key => if key = a then value b else if key = b then value a else value key).Perm (keys.map value) := by
  have exchanged : (fun key => if key = a then value b else if key = b then value a else value key) =
      value ∘ Equiv.swap a b := by
    funext key
    simp only [Function.comp_apply, Equiv.swap_apply_def]
    split
    · rfl
    · split <;> rfl
  rw [exchanged, ← List.map_map]
  refine List.Perm.map value ?_
  refine (List.perm_ext_iff_of_nodup (unique.map (Equiv.swap a b).injective) unique).mpr fun key => ?_
  rw [List.mem_map]
  constructor
  · rintro ⟨old, mem, rfl⟩
    rw [Equiv.swap_apply_def]
    split
    · exact second
    · split
      · exact first
      · exact mem
  · intro mem
    refine ⟨Equiv.swap a b key, ?_, Equiv.swap_apply_self a b key⟩
    rw [Equiv.swap_apply_def]
    split
    · exact second
    · split
      · exact first
      · exact mem

theorem flatMap_slices (items : List α) (length count : Nat) :
    ((List.range count).flatMap fun place => (items.drop (place * length)).take length) = items.take (count * length) := by
  induction count with
  | zero => simp
  | succ count ih => rw [List.range_succ, List.flatMap_append, ih, Nat.succ_mul, List.take_add, List.flatMap_singleton]

theorem map_lookup_zip [DecidableEq α] {values : List β} (unique : keys.Nodup)
    (same : keys.length = values.length) : (keys.map fun key => (keys.zip values).lookup key) = values.map some := by
  induction keys generalizing values with
  | nil => simp [List.length_eq_zero_iff.mp same.symm]
  | cons key keys ih =>
    cases values with
    | nil => simp at same
    | cons =>
      obtain ⟨fresh, unique⟩ := List.nodup_cons.mp unique
      simp only [List.zip_cons_cons, List.map_cons, List.lookup_cons, beq_self_eq_true]
      rw [← ih unique (Nat.succ.inj same)]
      congr 1
      refine List.map_congr_left fun other mem => ?_
      rw [beq_false_of_ne]
      rintro rfl
      exact fresh mem

theorem flatMap_absorb_perm {items : List α} {f : α → List β} {g : α → α} {source target : Nat} (apart : source ≠ target)
    (first : source < items.length) (second : target < items.length)
    (absorbs : f (g items[target]) = f items[target] ++ f items[source]) :
    (((items.modify target g).eraseIdx source).flatMap f).Perm (items.flatMap f) := by
  have within : source < (items.modify target g).length := by rwa [List.length_modify]
  have kept : (items.modify target g)[source] = items[source] := List.getElem_modify_ne g items (Ne.symm apart) within
  have dropped : ((items.modify target g).flatMap f).Perm
      (f items[source] ++ ((items.modify target g).eraseIdx source).flatMap f) := by
    have listed := (List.getElem_cons_eraseIdx_perm within).flatMap_right f
    rw [kept] at listed
    exact listed.symm
  have grown : ((items.modify target g).flatMap f).Perm (f items[source] ++ items.flatMap f) := by
    have inside : target < (items.modify target g).length := by rwa [List.length_modify]
    have after := (List.getElem_cons_eraseIdx_perm inside).flatMap_right f
    have before := (List.getElem_cons_eraseIdx_perm second).flatMap_right f
    rw [List.getElem_modify_eq, List.eraseIdx_modify_of_eq, List.flatMap_cons, absorbs] at after
    refine after.symm.trans ?_
    rw [List.append_assoc]
    exact (List.perm_append_comm_assoc ..).trans (before.append_left _)
  exact (List.perm_append_left_iff _).mp (dropped.symm.trans grown)

end MilkAndHenny.Library

import Mathlib.Data.List.Nodup
import Mathlib.Data.List.Perm.Basic

/-! Holders of names, no two of which hold one name. -/

namespace MilkAndHenny.Library

variable {α : Type} {holders others : List (List α)} {own : List α}

def Apart (holders : List (List α)) : Prop := holders.Pairwise List.Disjoint

namespace Apart

theorem sublist (apart : Apart holders) (fewer : others.Sublist holders) : Apart others := List.Pairwise.sublist fewer apart

theorem perm (apart : Apart holders) (same : holders.Perm others) : Apart others :=
  (same.pairwise_iff List.disjoint_comm.mp).mp apart

theorem hold (apart : Apart holders) (free : ∀ name ∈ own, name ∉ holders.flatten) : Apart (holders ++ [own]) := by
  refine List.pairwise_append.mpr ⟨apart, List.pairwise_singleton _ _, fun holder mem last same => ?_⟩
  cases List.mem_singleton.mp same
  exact fun name held inside => free name inside (List.mem_flatten.mpr ⟨holder, mem, held⟩)

theorem own_free (apart : Apart (own :: holders)) : ∀ name ∈ own, name ∉ holders.flatten := by
  intro name inside held
  obtain ⟨holder, mem, shared⟩ := List.mem_flatten.mp held
  exact (List.pairwise_cons.mp apart).1 holder mem inside shared

theorem divide (apart : Apart (own :: holders)) (parts : Apart others) (inside : ∀ part ∈ others, part ⊆ own) :
    Apart (others ++ holders) := by
  obtain ⟨free, rest⟩ := List.pairwise_cons.mp apart
  refine List.pairwise_append.mpr ⟨parts, rest, fun part mem holder listed => ?_⟩
  exact List.disjoint_of_subset_left (inside part mem) (free holder listed)

theorem nodup_flatten (apart : Apart holders) (unique : ∀ holder ∈ holders, holder.Nodup) : holders.flatten.Nodup :=
  List.nodup_flatten.mpr ⟨unique, apart⟩

end Apart

end MilkAndHenny.Library

import MilkAndHenny.Library.Table

/-! Rosters: tables whose rows are known by a key, and what becomes of their rows. -/

namespace MilkAndHenny.Library

variable {α β : Type} {k : α → β} {r : α → α → Prop} {rows others thirds : List α}

structure Descends (k : α → β) (r : α → α → Prop) (rows others : List α) : Prop where
  keys : (others.map k).Sublist (rows.map k)
  source : ∀ other ∈ others, ∃ row ∈ rows, k other = k row ∧ r row other

namespace Descends

theorem refl (same : ∀ row, r row row) (rows : List α) : Descends k r rows rows :=
  ⟨List.Sublist.refl _, fun row mem => ⟨row, mem, rfl, same row⟩⟩

theorem trans (compose : ∀ row other third, r row other → r other third → r row third) (first : Descends k r rows others)
    (second : Descends k r others thirds) : Descends k r rows thirds where
  keys := second.keys.trans first.keys
  source third mem := by
    obtain ⟨other, listed, sameThird, next⟩ := second.source third mem
    obtain ⟨row, first, same, before⟩ := first.source other listed
    exact ⟨row, first, sameThird.trans same, compose row other third before next⟩

theorem nodup (descends : Descends k r rows others) (unique : (rows.map k).Nodup) : (others.map k).Nodup := unique.sublist descends.keys

theorem of_pairs (pairs : Forall₂ (fun row other => k other = k row ∧ r row other) rows others) : Descends k r rows others where
  keys := by
    rw [map_pairs pairs fun row other pair => pair.1.symm]
  source _ mem := mem_pairs pairs mem

theorem filter (same : ∀ row, r row row) (p : α → Bool) : Descends k r rows (rows.filter p) where
  keys := filter_sublist.map _
  source row mem := ⟨row, (mem_filter.mp mem).1, rfl, same row⟩

end Descends

end MilkAndHenny.Library

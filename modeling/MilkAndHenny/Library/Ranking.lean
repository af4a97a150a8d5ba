import Mathlib.Data.Finset.Card
import Mathlib.Data.Finset.Sort
import Mathlib.Order.Interval.Finset.Nat

/-! Dense ranks: equal keys share a place, and no place is left out. -/

namespace MilkAndHenny.Library

variable {κ : Type} [LinearOrder κ] {keys : Finset κ} {a b : κ}

/-- How many of the keys come no later. -/
def denseRank (keys : Finset κ) (key : κ) : Nat := {other ∈ keys | other ≤ key}.card

theorem denseRank_mono (within : a ≤ b) : denseRank keys a ≤ denseRank keys b :=
  Finset.card_le_card (Finset.monotone_filter_right keys fun _ _ before => before.trans within)

theorem denseRank_lt (mem : b ∈ keys) (before : a < b) : denseRank keys a < denseRank keys b := by
  refine Finset.card_lt_card (Finset.ssubset_iff_subset_ne.mpr ⟨?_, fun same => ?_⟩)
  · exact Finset.monotone_filter_right keys fun _ _ earlier => earlier.trans before.le
  · have found : b ∈ {other ∈ keys | other ≤ a} := same ▸ Finset.mem_filter.mpr ⟨mem, le_rfl⟩
    exact before.not_ge (Finset.mem_filter.mp found).2

theorem denseRank_lt_iff (mem : b ∈ keys) : denseRank keys a < denseRank keys b ↔ a < b := by
  refine ⟨fun less => ?_, denseRank_lt mem⟩
  by_contra later
  exact (denseRank_mono (not_lt.mp later)).not_gt less

theorem denseRank_inj (first : a ∈ keys) (second : b ∈ keys) : denseRank keys a = denseRank keys b ↔ a = b := by
  refine ⟨fun same => ?_, congrArg _⟩
  rcases lt_trichotomy a b with less | equal | more
  · exact absurd same (denseRank_lt second less).ne
  · exact equal
  · exact absurd same (denseRank_lt first more).ne'

theorem image_denseRank (keys : Finset κ) : keys.image (denseRank keys) = Finset.Icc 1 keys.card := by
  refine Finset.eq_of_subset_of_card_le ?_ ?_
  · intro place mem
    obtain ⟨key, listed, rfl⟩ := Finset.mem_image.mp mem
    refine Finset.mem_Icc.mpr ⟨Finset.card_pos.mpr ⟨key, ?_⟩, Finset.card_filter_le _ _⟩
    exact Finset.mem_filter.mpr ⟨listed, le_rfl⟩
  · rw [Nat.card_Icc, Nat.add_sub_cancel, Finset.card_image_of_injOn]
    exact fun first mem second member' same => (denseRank_inj mem member').mp same

theorem denseRank_sorted {seen : Finset κ} {rest : List κ} {key : κ} (before : ∀ other ∈ seen, other ≤ key)
    (after : ∀ other ∈ rest, key ≤ other) : denseRank (insert key seen ∪ rest.toFinset) key = (insert key seen).card := by
  refine congrArg Finset.card (Finset.ext fun other => ?_)
  simp only [Finset.mem_filter, Finset.mem_union, Finset.mem_insert, List.mem_toFinset]
  constructor
  · rintro ⟨(same | earlier) | later, within⟩
    · exact .inl same
    · exact .inr earlier
    · exact .inl (within.antisymm (after other later))
  · rintro (rfl | earlier)
    · exact ⟨.inl (.inl rfl), le_rfl⟩
    · exact ⟨.inl (.inr earlier), before other earlier⟩

end MilkAndHenny.Library

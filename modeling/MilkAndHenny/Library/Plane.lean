import Mathlib.Combinatorics.Configuration
import Mathlib.LinearAlgebra.Projectivization.Cardinality

/-! The projective plane of a finite field, by triples of which the first coordinate that is not zero
is one. A list of all such triples counts the points of the plane, whatever is asked of them. -/

namespace MilkAndHenny.Library
open Configuration

section
variable {K : Type} [Field K] [DecidableEq K] {triple line other : Fin 3 → K} {scale : K}

abbrev Point (K : Type) [Field K] : Type := Projectivization K (Fin 3 → K)

/-- The first coordinate that is not zero. -/
def lead (triple : Fin 3 → K) : K := if triple 0 ≠ 0 then triple 0 else if triple 1 ≠ 0 then triple 1 else triple 2

def normalise (triple : Fin 3 → K) : Fin 3 → K := (lead triple)⁻¹ • triple

theorem lead_ne_zero (proper : triple ≠ 0) : lead triple ≠ 0 := by
  unfold lead
  split
  · assumption
  · split
    · assumption
    · intro last
      refine proper (funext fun axis => ?_)
      fin_cases axis <;> simp_all

theorem lead_smul (proper : scale ≠ 0) : lead (scale • triple) = scale * lead triple := by
  simp [lead, proper]

theorem ne_zero_of_lead (normal : lead triple = 1) : triple ≠ 0 := by
  rintro rfl
  simp [lead] at normal

theorem lead_normalise (proper : triple ≠ 0) : lead (normalise triple) = 1 := by
  rw [normalise, lead_smul (inv_ne_zero (lead_ne_zero proper)), inv_mul_cancel₀ (lead_ne_zero proper)]

theorem normalise_of_lead (normal : lead triple = 1) : normalise triple = triple := by
  rw [normalise, normal, inv_one, one_smul]

def pointOf (triple : { triple : Fin 3 → K // lead triple = 1 }) : Point K := .mk K triple.1 (ne_zero_of_lead triple.2)

theorem pointOf_injective : Function.Injective (pointOf (K := K)) := by
  rintro ⟨first, normal⟩ ⟨second, normal'⟩ same
  obtain ⟨scale, rfl⟩ := (Projectivization.mk_eq_mk_iff' K ..).mp same
  have proper : scale ≠ 0 := by
    rintro rfl
    exact ne_zero_of_lead normal (zero_smul K second)
  have one : scale = 1 := by rw [← normal, lead_smul proper, normal', mul_one]
  simp [one]

theorem pointOf_surjective : Function.Surjective (pointOf (K := K)) := by
  intro point
  refine ⟨⟨normalise point.rep, lead_normalise point.rep_nonzero⟩, ?_⟩
  refine Eq.trans ?_ point.mk_rep
  exact (Projectivization.mk_eq_mk_iff' K ..).mpr ⟨(lead point.rep)⁻¹, rfl⟩

/-- Every point once, by its normalised triple. -/
structure Listed (points : List (Fin 3 → K)) : Prop where
  unique : points.Nodup
  mem_iff : ∀ triple, triple ∈ points ↔ lead triple = 1

namespace Listed
variable {points : List (Fin 3 → K)} (listed : Listed points)
include listed

theorem countP_eq (test : (Fin 3 → K) → Bool) (holds : Point K → Prop)
    (agree : ∀ triple, test triple.1 = true ↔ holds (pointOf triple)) : points.countP test = Nat.card { point // holds point } := by
  have mem_iff (triple) : triple ∈ (points.filter test).toFinset ↔ lead triple = 1 ∧ test triple = true := by
    rw [List.mem_toFinset, List.mem_filter, listed.mem_iff]
  have pairs : (points.filter test).toFinset ≃ { point // holds point } := by
    refine Equiv.ofBijective (fun triple => ⟨pointOf ⟨triple, ((mem_iff _).mp triple.2).1⟩, ?_⟩) ⟨?_, ?_⟩
    · exact (agree _).mp ((mem_iff _).mp triple.2).2
    · intro first second same
      exact Subtype.ext (Subtype.mk.inj (pointOf_injective (congrArg Subtype.val same)))
    · rintro ⟨point, held⟩
      obtain ⟨triple, rfl⟩ := pointOf_surjective point
      exact ⟨⟨triple, (mem_iff _).mpr ⟨triple.2, (agree triple).mpr held⟩⟩, rfl⟩
  rw [List.countP_eq_length_filter, ← List.toFinset_card_of_nodup (listed.unique.filter test), ← Nat.card_congr pairs,
    Nat.card_eq_finsetCard]

theorem countP_lines (normal : lead line = 1) (normal' : lead other = 1) (apart : line ≠ other) :
    points.countP (fun triple => decide (dotProduct triple line = 0) && decide (dotProduct triple other = 0)) = 1 := by
  have different : pointOf ⟨line, normal⟩ ≠ pointOf ⟨other, normal'⟩ := fun same =>
    apart (congrArg Subtype.val (pointOf_injective same))
  rw [listed.countP_eq _ (fun point => point ∈ pointOf ⟨line, normal⟩ ∧ point ∈ pointOf ⟨other, normal'⟩) fun _ => by
    simp only [Bool.and_eq_true, decide_eq_true_eq, ofField.mem_iff, pointOf, Projectivization.orthogonal_mk]]
  rw [Nat.card_eq_one_iff_exists]
  obtain ⟨point, both, only⟩ := HasPoints.existsUnique_point (Point K) (Point K) _ _ different
  exact ⟨⟨point, both⟩, fun another => Subtype.ext (only another.1 another.2)⟩

variable [Fintype K]

theorem length : points.length = Fintype.card K ^ 2 + Fintype.card K + 1 := by
  have counted := listed.countP_eq (fun _ => true) (fun _ => True) (fun _ => by simp)
  rw [List.countP_true, Nat.card_congr (Equiv.subtypeUnivEquiv fun _ => trivial)] at counted
  rw [counted, Projectivization.card_of_finrank K (Fin 3 → K) (Module.finrank_fin_fun K), Nat.card_eq_fintype_card]
  simp only [Finset.sum_range_succ, Finset.sum_range_zero]
  ring

theorem countP_line (normal : lead line = 1) :
    points.countP (fun triple => decide (dotProduct triple line = 0)) = Fintype.card K + 1 := by
  have counted := listed.countP_eq (fun triple => decide (dotProduct triple line = 0)) (· ∈ pointOf ⟨line, normal⟩) fun _ => by
    rw [decide_eq_true_eq, ofField.mem_iff]
    exact (Projectivization.orthogonal_mk _ _).symm
  have := Fintype.ofFinite (Point K)
  have points := ProjectivePlane.card_points (Point K) (Point K)
  have all := listed.countP_eq (fun _ => true) (fun _ => True) (fun _ => by simp)
  rw [List.countP_true, Nat.card_congr (Equiv.subtypeUnivEquiv fun _ => trivial), Nat.card_eq_fintype_card, points,
    listed.length] at all
  have order : Fintype.card K = ProjectivePlane.order (Point K) (Point K) := by nlinarith
  rw [counted, order, ← ProjectivePlane.pointCount_eq (L := Point K) (Point K) (pointOf ⟨line, normal⟩)]
  rfl

end Listed

end

end MilkAndHenny.Library

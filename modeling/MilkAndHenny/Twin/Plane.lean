import MilkAndHenny.Library.Plane
import MilkAndHenny.Twin.Field

/-! The plane that the cards are cut from: the points and lines of the code are the normalised triples of
its field, so any two lines share one point and any two cards one symbol. -/

namespace MilkAndHenny.Twin
variable {symbols : List String} {order : Nat}
open Library

/-! ### Positions in a list -/

section
variable {α : Type} {items : List α} {test test' : α → Bool} {place : Nat}

def positions (test : α → Bool) (items : List α) : List Nat := (items.zipIdx.filter fun (item, _) => test item).map Prod.snd

theorem mem_positions : place ∈ positions test items ↔ ∃ item, items[place]? = some item ∧ test item = true := by
  simp [positions, List.mem_zipIdx_iff_getElem?]

theorem length_positions : (positions test items).length = items.countP test := by
  rw [positions, length_map, ← countP_eq_length_filter]
  conv_rhs => rw [← List.zipIdx_map_fst 0 items, countP_map]
  rfl

theorem positions_map {β : Type} (f : β → α) (items : List β) :
    positions test (items.map f) = positions (fun item => test (f item)) items := by
  simp only [positions, List.zipIdx_map, filter_map, map_map]
  rfl

theorem nodup_positions : (positions test items).Nodup := by
  refine List.Nodup.sublist (List.Sublist.map Prod.snd filter_sublist) ?_
  rw [List.zipIdx_map_snd]
  exact List.nodup_range'

theorem filter_positions : (positions test items).filter (positions test' items).contains =
    positions (fun item => test item && test' item) items := by
  rw [positions, positions, filter_map, filter_filter]
  refine congrArg (List.map Prod.snd) (filter_congr fun (item, place) listed => ?_)
  rw [List.mem_zipIdx_iff_getElem?] at listed
  have passes : (positions test' items).contains place = test' item := by
    rw [contains_eq_mem, Bool.eq_iff_iff, decide_eq_true_eq, mem_positions]
    simp [listed]
  exact (congrArg (· && test item) passes).trans (Bool.and_comm _ _)

end

/-! ### The triples of a field -/

section
variable {order : Nat} {laws : IsField order (galoisField order)} {vector line : Fin 3 → Element laws}

/-- A triple as the code writes it. -/
def values (vector : Fin 3 → Element laws) : List Nat := List.ofFn fun axis => (vector axis).value

theorem values_eq (vector : Fin 3 → Element laws) : values vector = [(vector 0).value, (vector 1).value, (vector 2).value] := rfl

theorem values_injective : Function.Injective (@values order laws) := by
  intro first second same
  simp only [values_eq, List.cons.injEq, and_true] at same
  obtain ⟨x, y, z⟩ := same
  funext axis
  fin_cases axis
  · exact Element.ext x
  · exact Element.ext y
  · exact Element.ext z

theorem value_eq_zero {a : Element laws} : a.value = 0 ↔ a = 0 := ⟨fun zero => Element.ext zero, fun zero => zero ▸ rfl⟩

theorem find?_values (proper : vector ≠ 0) : (values vector).find? (· != 0) = some (lead vector).value := by
  have nonzero := lead_ne_zero proper
  unfold lead at nonzero ⊢
  rw [values_eq]
  by_cases first : vector 0 = 0
  · by_cases second : vector 1 = 0
    · simp_all [value_eq_zero]
    · simp [first, second, value_eq_zero]
  · simp [first, value_eq_zero]

theorem find?_zero : (values (0 : Fin 3 → Element laws)).find? (· != 0) = none := rfl

theorem values_normalise (proper : vector ≠ 0) :
    (values vector).map (fun value => (galoisField order).multiply value ((galoisField order).inverse (lead vector).value)) =
      values (normalise vector) := by
  have nonzero : (lead vector).value ≠ 0 := fun zero => lead_ne_zero proper (Element.ext zero)
  simp [values_eq, normalise, mul_comm (lead vector)⁻¹, Element.inv_value nonzero]

theorem dot_values : (List.zipWith (galoisField order).multiply (values vector) (values line)).foldl (galoisField order).add 0 =
    (dotProduct vector line).value := by
  rw [dotProduct, Fin.sum_univ_three, ← zero_add (vector 0 * line 0)]
  rfl

theorem mem_twinPoints (laws : IsField order (galoisField order)) {triple : List Nat} :
    triple ∈ twinPoints order ↔ ∃ vector : Fin 3 → Element laws, lead vector = 1 ∧ values vector = triple := by
  simp only [twinPoints, mem_distinct, mem_filterMap, mem_flatMap, mem_map, mem_range, map_eq_some_iff]
  constructor
  · rintro ⟨_, ⟨x, first, y, second, z, third, rfl⟩, head, found, rfl⟩
    have drawn : [x, y, z] = values (![⟨x, first⟩, ⟨y, second⟩, ⟨z, third⟩] : Fin 3 → Element laws) := rfl
    rw [drawn] at found ⊢
    generalize (![⟨x, first⟩, ⟨y, second⟩, ⟨z, third⟩] : Fin 3 → Element laws) = vector at found
    have proper : vector ≠ 0 := by
      rintro rfl
      cases find?_zero.symm.trans found
    cases some.inj ((find?_values proper).symm.trans found)
    exact ⟨normalise vector, lead_normalise proper, (values_normalise proper).symm⟩
  · rintro ⟨vector, normal, rfl⟩
    have proper := ne_zero_of_lead normal
    refine ⟨values vector, ?_, _, find?_values proper, ?_⟩
    · exact ⟨_, (vector 0).inside, _, (vector 1).inside, _, (vector 2).inside, rfl⟩
    · rw [values_normalise proper, normalise_of_lead normal]

theorem twinPoints_listed (laws : IsField order (galoisField order)) :
    ∃ points : List (Fin 3 → Element laws), Listed points ∧ points.map values = twinPoints order := by
  have drawn : twinPoints order ∈ Set.range (List.map (@values order laws)) := by
    rw [Set.range_list_map]
    intro triple listed
    obtain ⟨vector, -, same⟩ := (mem_twinPoints laws).mp listed
    exact ⟨vector, same⟩
  obtain ⟨points, same⟩ := drawn
  refine ⟨points, ⟨List.Nodup.of_map values (same ▸ nodup_distinct _), fun vector => ?_⟩, same⟩
  rw [← List.mem_map_of_injective values_injective, same, mem_twinPoints laws]
  constructor
  · rintro ⟨other, normal, same⟩
    exact values_injective same ▸ normal
  · exact fun normal => ⟨vector, normal, rfl⟩

/-- Lines are lists of the indices of their points. -/
structure IsProjective (order : Nat) (lines : List (List Nat)) : Prop where
  length : lines.length = order ^ 2 + order + 1
  points : ∀ line ∈ lines, line.length = order + 1 ∧ line.Nodup ∧ ∀ point ∈ line, point < order ^ 2 + order + 1
  meets : ∀ first second : Fin lines.length, first ≠ second → (lines[first].filter lines[second].contains).length = 1

theorem twinPlane_eq {laws : IsField order (galoisField order)} {points : List (Fin 3 → Element laws)}
    (drawn : points.map values = twinPoints order) :
    twinPlane order = points.map fun line => positions (fun point => decide (dotProduct point line = 0)) points := by
  have rows : twinPlane order = (twinPoints order).map fun line => positions (fun point =>
    (List.zipWith (galoisField order).multiply point line).foldl (galoisField order).add 0 == 0) (twinPoints order) := rfl
  rw [rows, ← drawn, map_map]
  refine map_congr_left fun line _ => ?_
  rw [Function.comp_apply, positions_map]
  refine congrArg (positions · points) (funext fun point => ?_)
  rw [dot_values, beq_eq_decide, decide_eq_decide, value_eq_zero]

theorem twinPlane_isProjective (laws : IsField order (galoisField order)) : IsProjective order (twinPlane order) := by
  obtain ⟨points, listed, drawn⟩ := twinPoints_listed laws
  have length : points.length = order ^ 2 + order + 1 := by rw [listed.length, Element.card]
  rw [twinPlane_eq drawn]
  refine ⟨by rw [length_map, length], ?_, ?_⟩
  · intro row mem
    obtain ⟨line, inside, rfl⟩ := mem_map.mp mem
    refine ⟨?_, nodup_positions, fun place on => ?_⟩
    · rw [length_positions, listed.countP_line ((listed.mem_iff line).mp inside), Element.card]
    · obtain ⟨_, found, -⟩ := mem_positions.mp on
      exact length ▸ (getElem?_eq_some_iff.mp found).1
  · intro first second apart
    simp only [Fin.getElem_fin, List.getElem_map]
    rw [filter_positions, length_positions]
    refine listed.countP_lines ?_ ?_ ?_
    · exact (listed.mem_iff _).mp (getElem_mem _)
    · exact (listed.mem_iff _).mp (getElem_mem _)
    · exact fun same => apart (Fin.ext (listed.unique.getElem_inj_iff.mp same))

end

/-! ### Cards cut from a plane -/

def paintTwinDeck (symbols : List String) (order : Nat) : List TwinCard :=
  (twinPlane order).zipIdx.map fun (line, index) =>
    { id := { order, index }, symbolIds := line.map fun point => symbols.getD point "" }

theorem mem_paintTwinDeck {card : TwinCard} (listed : card ∈ paintTwinDeck symbols order) :
    ∃ index : Fin (twinPlane order).length,
      card = { id := { order, index }, symbolIds := (twinPlane order)[index].map fun point => symbols.getD point "" } := by
  obtain ⟨⟨line, index⟩, numbered, rfl⟩ := mem_map.mp listed
  obtain ⟨inside, same⟩ := List.mem_zipIdx' numbered
  exact ⟨⟨index, inside⟩, by rw [same]; rfl⟩

theorem paintTwinDeck_matches {left right : TwinCard}
    (plane : IsProjective order (twinPlane order)) (unique : symbols.Nodup) (enough : twinDeckCapacity order ≤ symbols.length)
    (first : left ∈ paintTwinDeck symbols order) (second : right ∈ paintTwinDeck symbols order) (apart : left ≠ right) :
    ∃ symbol, twinMatch left right = some symbol := by
  obtain ⟨index, rfl⟩ := mem_paintTwinDeck first
  obtain ⟨place, rfl⟩ := mem_paintTwinDeck second
  have different : index ≠ place := fun same => apart (same ▸ rfl)
  have painted {line point} (mem : line ∈ twinPlane order) (on : point ∈ line) : point < symbols.length := by
    have below := (plane.points line mem).2.2 point on
    unfold twinDeckCapacity at enough
    rw [Nat.pow_two] at below
    omega
  refine twinMatch_painted rfl rfl (fun point on twin on' same => ?_) (plane.meets _ _ different)
  exact getD_injective unique (painted (getElem_mem _) on') (painted (getElem_mem _) on) same

/-- The field of every order that fits is a field, held by its tables; its lines are a projective plane, and so any
two cards match. -/
theorem twinPlane_of_fits (order : Nat) (fits : Fits order) :
    IsField order (galoisField order) ∧ (fieldTables order).Holds order (galoisField order) ∧ IsProjective order (twinPlane order) ∧
      ∀ symbols : List String, symbols.Nodup → twinDeckCapacity order ≤ symbols.length → ∀ left ∈ paintTwinDeck symbols order,
        ∀ right ∈ paintTwinDeck symbols order, left ≠ right → twinMatch left right ≠ none := by
  have laws := galoisField_isField fits
  have plane := twinPlane_isProjective laws
  refine ⟨laws, fieldTables_holds fits, plane, fun symbols unique enough left first right second apart => ?_⟩
  obtain ⟨symbol, matched⟩ := paintTwinDeck_matches plane unique enough first second apart
  exact matched ▸ some_ne_none symbol

/-- Order 4 is of an extension; its first two cards share a symbol. -/
theorem twinPlane_of_fits_duel : Fits 4 ∧ IsProjective 4 (twinPlane 4) ∧
    ∀ left ∈ twinDeck ⟨4, by decide⟩, ∀ right ∈ twinDeck ⟨4, by decide⟩, left ≠ right → twinMatch left right ≠ none := by
  have fits : Fits 4 := .inr (by decide)
  obtain ⟨-, -, plane, cards⟩ := twinPlane_of_fits 4 fits
  exact ⟨fits, plane, cards twinSymbols (by decide) (by decide)⟩

end MilkAndHenny.Twin

import MilkAndHenny.Liars.Dealing

/-! The repairs of a deal. A swap only takes place where it rids one player of their last role
and gives nobody else theirs, so that every swap leaves fewer players with the role they had. -/

namespace MilkAndHenny.Liars
open Library

def holdsPrevious (previous dealt : Nat → Option LiarsRole) (id : Nat) : Bool := (previous id).any (dealt id == some ·)

def repeats (previous dealt : Nat → Option LiarsRole) (playerIds : List Nat) : Nat :=
  playerIds.countP (holdsPrevious previous dealt)

section
variable {previous dealt before middle after : Nat → Option LiarsRole} {playerIds : List Nat} {id : Nat}

theorem holdsPrevious_iff : holdsPrevious previous dealt id = true ↔ (dealt id).isSome ∧ dealt id = previous id := by
  unfold holdsPrevious
  cases known : previous id with
  | none =>
    simp only [Option.any_none, false_eq_true, false_iff, not_and]
    intro held same
    rw [same] at held
    cases held
  | some =>
    simp only [any_some, beq_iff_eq]
    constructor
    · intro same
      rw [same]
      exact ⟨rfl, rfl⟩
    · intro held
      exact held.2

/-- What one step of the repair does: nobody is newly given their last role, and where the step
swaps anything, fewer players hold it than before. -/
structure Repairs (previous : Nat → Option LiarsRole) (playerIds : List Nat) (before after : Nat → Option LiarsRole) : Prop where
  fresh : ∀ id, holdsPrevious previous after id → holdsPrevious previous before id
  fewer : after ≠ before → repeats previous after playerIds < repeats previous before playerIds

theorem Repairs.refl : Repairs previous playerIds dealt dealt := ⟨fun _ held => held, absurd rfl⟩

structure Suits (previous dealt : Nat → Option LiarsRole) (id partner : Nat) : Prop where
  other : partner ≠ id
  takes : dealt partner ≠ previous id
  gives : dealt id ≠ previous partner

theorem repairDeal_cases (previous : Nat → Option LiarsRole) (playerIds : List Nat) (dealt : Nat → Option LiarsRole) (id : Nat) :
    repairDeal previous playerIds dealt id = dealt ∨
      dealt id = previous id ∧ ∃ partner ∈ playerIds, Suits previous dealt id partner ∧
        repairDeal previous playerIds dealt id =
          fun other => if other = id then dealt partner else if other = partner then dealt id else dealt other := by
  unfold repairDeal
  split
  · exact .inl rfl
  · next same =>
    split
    · exact .inl rfl
    · next partner found =>
      refine .inr ⟨by simpa using same, partner, mem_of_find?_eq_some found, ?_, rfl⟩
      have chosen := find?_some found
      simp only [and_eq_true, bne_iff_ne, ne_eq] at chosen
      obtain ⟨⟨⟨other, -⟩, takes⟩, gives⟩ := chosen
      exact ⟨other, takes, gives⟩

theorem swap_repairs (seated : id ∈ playerIds) (held : holdsPrevious previous dealt id) {partner : Nat}
    (suits : Suits previous dealt id partner) :
    Repairs previous playerIds dealt
      (fun other => if other = id then dealt partner else if other = partner then dealt id else dealt other) := by
  generalize swap :
      (fun other => if other = id then dealt partner else if other = partner then dealt id else dealt other) = swapped
  have first : swapped id = dealt partner := by
    rw [← swap]
    exact if_pos rfl
  have second : swapped partner = dealt id := by
    rw [← swap]
    simp [suits.other]
  have others (other : Nat) (apart : other ≠ id) (also : other ≠ partner) : swapped other = dealt other := by
    rw [← swap]
    simp [apart, also]
  have rid : ¬ holdsPrevious previous swapped id := by
    intro still
    apply suits.takes
    exact first.symm.trans (holdsPrevious_iff.mp still).2
  have spared : ¬ holdsPrevious previous swapped partner := by
    intro still
    apply suits.gives
    exact second.symm.trans (holdsPrevious_iff.mp still).2
  have fresh (other : Nat) (still : holdsPrevious previous swapped other) : holdsPrevious previous dealt other := by
    by_cases same : other = id
    · exact absurd (same ▸ still) rid
    · by_cases also : other = partner
      · exact absurd (also ▸ still) spared
      · rw [holdsPrevious_iff, others other same also] at still
        exact holdsPrevious_iff.mpr still
  refine ⟨fresh, fun _ => ?_⟩
  exact countP_lt (fun other _ => fresh other) seated held rid

theorem repairDeal_repairs {cards : List LiarsRole} (deals : Deals cards playerIds dealt) (seated : id ∈ playerIds) :
    Repairs previous playerIds dealt (repairDeal previous playerIds dealt id) := by
  rcases repairDeal_cases previous playerIds dealt id with same | ⟨again, partner, -, suits, swapped⟩
  · rw [same]
    exact .refl
  · rw [swapped]
    have given : dealt id ∈ cards.map some := deals.subset (mem_map_of_mem seated)
    obtain ⟨role, -, dealt_role⟩ := mem_map.mp given
    apply swap_repairs seated _ suits
    rw [holdsPrevious_iff]
    exact ⟨dealt_role ▸ rfl, again⟩

end

/-- A lineup with a role for every player is dealt out exactly, whatever the shuffle draws and whatever the
players had before; and on the way from the shuffled deal to the repaired one no step gives anybody
their last role anew, and every swap leaves fewer players with it. -/
theorem liarsDealRoles_repairs {lineup : LiarsLineup} {playerIds : List Nat} (unique : playerIds.Nodup)
    (counted : lineup.total = playerIds.length) (previousRoles : Option (Nat → Option LiarsRole)) (pick : Nat → Nat) :
    Deals lineup.cards playerIds (liarsDealRoles lineup playerIds previousRoles pick) ∧
    ∀ previous ∈ previousRoles,
      let next (id : Nat) (dealt : Nat → Option LiarsRole) := repairDeal previous playerIds dealt id
      let shuffled := liarsDealRoles lineup playerIds none pick
      liarsDealRoles lineup playerIds previousRoles pick = runFrom next shuffled playerIds ∧
      EachStep next (fun id dealt => Repairs previous playerIds dealt (next id dealt)) shuffled playerIds ∧
      ∀ id, holdsPrevious previous (liarsDealRoles lineup playerIds previousRoles pick) id →
        holdsPrevious previous shuffled id := by
  refine ⟨liarsDealRoles_deals unique counted previousRoles pick, ?_⟩
  intro previous given next shuffled
  cases mem_def.mp given
  have repaired : liarsDealRoles lineup playerIds (some previous) pick = runFrom next shuffled playerIds := rfl
  have step {dealt : Nat → Option LiarsRole} {id : Nat}
      (held : Deals lineup.cards playerIds dealt ∧ ∀ other, holdsPrevious previous dealt other →
        holdsPrevious previous shuffled other)
      (seated : id ∈ playerIds) :
      (Deals lineup.cards playerIds (next id dealt) ∧
        ∀ other, holdsPrevious previous (next id dealt) other → holdsPrevious previous shuffled other) ∧
      Repairs previous playerIds dealt (next id dealt) := by
    have repairs : Repairs previous playerIds dealt (next id dealt) := repairDeal_repairs held.1 seated
    refine ⟨⟨repairDeal_deals unique seated held.1, ?_⟩, repairs⟩
    intro other still
    exact held.2 other (repairs.fresh other still)
  have start : Deals lineup.cards playerIds shuffled := liarsDealRoles_deals unique counted none pick
  obtain ⟨throughout, repairs⟩ := EachStep.shows @step ⟨start, fun _ held => held⟩ (EachStep.always fun id mem => mem)
  refine ⟨repaired, repairs, ?_⟩
  exact throughout.last.2

/-- Five players are dealt mafia, doctor, detective and villager twice by the same shuffle as before, and
the repair leaves nobody with the role they had. -/
theorem liarsDealRoles_repairs_sameDraw :
    let lineup := liarsDefaultLineup .mafia 5
    let first := liarsDealRoles lineup [1, 2, 3, 4, 5] none fun bound => bound - 1
    Deals lineup.cards [1, 2, 3, 4, 5] (liarsDealRoles lineup [1, 2, 3, 4, 5] (some first) fun bound => bound - 1) ∧
    repeats first first [1, 2, 3, 4, 5] = 5 ∧
    repeats first (liarsDealRoles lineup [1, 2, 3, 4, 5] (some first) fun bound => bound - 1) [1, 2, 3, 4, 5] = 0 :=
  ⟨(liarsDealRoles_repairs (by decide) (by decide) _ _).1, by decide, by decide⟩

end MilkAndHenny.Liars

import Mathlib.Combinatorics.SimpleGraph.Acyclic

/-! Loops that end, the choice of the best of several, and trees that grow leaf by leaf. -/

namespace MilkAndHenny.Library

/-! ### Loops -/

section
variable {α β γ σ : Type} {items : List α}

def loop (step : σ → Option σ) : Nat → σ → Option σ
  | 0, _ => none
  | turns + 1, state =>
    match step state with
    | none => some state
    | some next => loop step turns next

theorem loop_stops {step : σ → Option σ} (Invariant : σ → Prop) (measure : σ → Nat)
    (keeps : ∀ state next, Invariant state → step state = some next → Invariant next ∧ measure next < measure state)
    {turns : Nat} {state : σ} (holds : Invariant state) (enough : measure state < turns) :
    ∃ last, loop step turns state = some last ∧ Invariant last ∧ step last = none := by
  induction turns generalizing state with
  | zero => exact absurd enough (Nat.not_lt_zero _)
  | succ turns ih =>
    unfold loop
    cases stepped : step state with
    | none => exact ⟨state, rfl, holds, stepped⟩
    | some next =>
      obtain ⟨kept, lower⟩ := keeps state next holds stepped
      exact ih kept (by omega)

theorem mapM_some {f : α → Option β} {r : α → β → Prop} (each : ∀ item ∈ items, ∃ value, f item = some value ∧ r item value) :
    ∃ values, items.mapM f = some values ∧ List.Forall₂ r items values := by
  induction items with
  | nil => exact ⟨[], rfl, .nil⟩
  | cons item items ih =>
    obtain ⟨value, computed, held⟩ := each item List.mem_cons_self
    obtain ⟨values, rest, helds⟩ := ih fun other mem => each other (List.mem_cons_of_mem item mem)
    exact ⟨value :: values, by simp [List.mapM_cons, computed, rest], .cons held helds⟩

/-- The first of those with the lowest score. -/
def keepBest [LT β] [DecidableLT β] (score : α → β) (items : List α) : Option α :=
  items.foldl (fun best offered =>
    match best with
    | none => some offered
    | some kept => if score offered < score kept then some offered else some kept) none

theorem keepBest_mem [LT β] [DecidableLT β] (score : α → β) (some_ : items ≠ []) :
    ∃ best ∈ items, keepBest score items = some best := by
  induction items using List.reverseRecOn with
  | nil => exact absurd rfl some_
  | append_singleton items offered ih =>
    unfold keepBest at ih ⊢
    rw [List.foldl_append, List.foldl_cons, List.foldl_nil]
    by_cases first : items = []
    · exact ⟨offered, by simp, by rw [first]; rfl⟩
    · obtain ⟨best, mem, kept⟩ := ih first
      rw [kept]
      simp only
      split
      · exact ⟨offered, by simp, rfl⟩
      · exact ⟨best, List.mem_append_left _ mem, rfl⟩

theorem best_of_all [LT β] [DecidableLT β] {f : α → Option γ} {P : γ → Prop} (score : γ → β) (some_ : items ≠ [])
    (each : ∀ item ∈ items, ∃ value, f item = some value ∧ P value) :
    ∃ best, (items.mapM f).bind (keepBest score) = some best ∧ P best := by
  obtain ⟨values, computed, held⟩ := mapM_some (r := fun _ => P) each
  have all : ∀ value ∈ values, P value := fun value mem => by
    obtain ⟨index, inside, rfl⟩ := List.getElem_of_mem mem
    exact held.get (by rw [held.length_eq]; exact inside) inside
  have offered : values ≠ [] := fun none => some_ (List.length_eq_zero_iff.mp (by rw [held.length_eq, none]; rfl))
  obtain ⟨best, mem, kept⟩ := keepBest_mem score offered
  exact ⟨best, by rw [computed, Option.bind_some, kept], all best mem⟩

end

/-! ### Trees -/

section
variable {V : Type} {root current new : V} {visited : List V} {graph : SimpleGraph V}
open SimpleGraph

structure Grown (root : V) (visited : List V) (graph : SimpleGraph V) : Prop where
  rooted : root ∈ visited
  inside : ∀ first second, graph.Adj first second → second ∈ visited
  reach : ∀ vertex ∈ visited, graph.Reachable root vertex
  acyclic : graph.IsAcyclic

theorem grown_root (root : V) : Grown root [root] ⊥ where
  rooted := List.mem_singleton_self root
  inside _ _ := False.elim
  reach vertex mem := by rw [List.mem_singleton.mp mem]
  acyclic := isAcyclic_bot

namespace Grown
variable (grown : Grown root visited graph)
include grown

theorem leaf (known : current ∈ visited) (fresh : new ∉ visited) : Grown root (visited ++ [new]) (graph ⊔ edge current new) where
  rooted := List.mem_append_left _ grown.rooted
  inside first second joined := by
    rw [sup_adj, edge_adj] at joined
    obtain old | ⟨⟨-, rfl⟩ | ⟨-, rfl⟩, -⟩ := joined
    · exact List.mem_append_left _ (grown.inside first second old)
    · simp
    · exact List.mem_append_left _ known
  reach vertex mem := by
    obtain old | last := List.mem_append.mp mem
    · exact (grown.reach vertex old).mono le_sup_left
    · obtain rfl := List.mem_singleton.mp last
      have joined : (graph ⊔ edge current vertex).Adj current vertex := by
        rw [sup_adj, edge_adj]
        exact .inr ⟨.inl ⟨rfl, rfl⟩, fun same => fresh (same ▸ known)⟩
      exact ((grown.reach current known).mono le_sup_left).trans joined.reachable
  acyclic := by
    refine IsAcyclic.sup_edge_of_not_reachable (fun ⟨walk⟩ => ?_) grown.acyclic
    cases walk.reverse with
    | nil => exact fresh known
    | cons joined => exact fresh (grown.inside _ _ joined.symm)

theorem isTree (all : ∀ vertex, vertex ∈ visited) : graph.IsTree where
  connected := by
    have : Nonempty V := ⟨root⟩
    exact ⟨fun first second => (grown.reach first (all first)).symm.trans (grown.reach second (all second))⟩
  isAcyclic := grown.acyclic

end Grown

end

end MilkAndHenny.Library

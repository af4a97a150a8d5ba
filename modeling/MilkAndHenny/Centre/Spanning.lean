import MilkAndHenny.Centre.Maze

/-! Every maze is a spanning tree: the growth hangs each cell on once, as a leaf, and stops when no cell is
left; the search then finds the only path of every cell. -/

namespace MilkAndHenny.Centre
open Library

section
variable {rings sectors : Nat} {links : Links rings sectors} {current new cell : Cell rings sectors}

/-- Two cells are joined where one is listed at the other. -/
def mazeGraph (links : Links rings sectors) : SimpleGraph (Cell rings sectors) := .fromRel fun cell next => next ∈ links cell

structure Paired (links : Links rings sectors) : Prop where
  symmetric : ∀ cell next, next ∈ links cell → cell ∈ links next
  once : ∀ cell, (cell :: links cell).Nodup
  beside : ∀ cell, ∀ next ∈ links cell, next ∈ neighbours cell

structure Spanning (links : Links rings sectors) : Prop extends Paired links where
  tree : (mazeGraph links).IsTree

theorem Paired.adj_iff (paired : Paired links) : (mazeGraph links).Adj cell new ↔ new ∈ links cell := by
  constructor
  · rintro ⟨-, there | back⟩
    · exact there
    · exact paired.symmetric new cell back
  · intro there
    refine ⟨?_, .inl there⟩
    rintro rfl
    exact (nodup_cons.mp (paired.once cell)).1 there

/-! ### The growth -/

theorem nodup_snoc {items : List (Cell rings sectors)} (unique : items.Nodup) (fresh : cell ∉ items) : (items ++ [cell]).Nodup := by
  rw [← List.concat_eq_append]
  exact unique.concat fresh

theorem neighbours_symm (near : new ∈ neighbours cell) : cell ∈ neighbours new := by
  cases cell with
  | centre =>
    rw [neighbours] at near
    split at near
    · obtain ⟨sector, -, rfl⟩ := mem_map.mp near
      simp [neighbours]
    · cases near
  | cell ring sector =>
    have inside := sector.2
    have around : (sector.1 + sectors) % sectors = sector := by rw [Nat.add_mod_right, Nat.mod_eq_of_lt inside]
    simp only [neighbours, mem_append, mem_cons, not_mem_nil, or_false] at near
    obtain ((rfl | rfl) | rfl) | outer := near
    · have back : ((sector + sectors - 1) % sectors + 1) % sectors = sector := by
        rw [Nat.mod_add_mod, Nat.sub_add_cancel (by omega), around]
      simp [neighbours, back]
    · have back : ((sector + 1) % sectors + sectors - 1) % sectors = sector := by
        rw [Nat.add_sub_assoc (by omega), Nat.mod_add_mod, Nat.add_assoc, Nat.add_sub_cancel' (by omega), around]
      simp [neighbours, back]
    · split
      · next least =>
        have first : ring = ⟨0, ring.pos⟩ := Fin.ext least
        rw [first]
        simp [neighbours, ring.pos]
      · next later =>
        have same : ring.1 - 1 + 1 = ring := by omega
        simp [neighbours, same]
    · split at outer
      · cases mem_singleton.mp outer
        simp [neighbours]
      · cases outer

def Links.join (links : Links rings sectors) (current new : Cell rings sectors) : Links rings sectors :=
  (links.push current new).push new current

theorem join_new (apart : current ≠ new) : links.join current new new = links new ++ [current] := by
  simp [Links.join, Links.push, if_neg apart.symm]

theorem join_current (apart : current ≠ new) : links.join current new current = links current ++ [new] := by
  simp [Links.join, Links.push, if_neg apart]

theorem join_other (left : cell ≠ current) (right : cell ≠ new) : links.join current new cell = links cell := by
  simp [Links.join, Links.push, if_neg left, if_neg right]

theorem mem_join (apart : current ≠ new) {next : Cell rings sectors} : next ∈ links.join current new cell ↔
    next ∈ links cell ∨ cell = current ∧ next = new ∨ cell = new ∧ next = current := by
  by_cases first : cell = current
  · subst first
    simp [join_current apart, apart]
  · by_cases second : cell = new
    · subst second
      simp [join_new apart, first]
    · simp [join_other first second, first, second]

theorem Paired.join (paired : Paired links) (apart : current ≠ new) (fresh : new ∉ links current) (near : new ∈ neighbours current) :
    Paired (links.join current new) where
  symmetric cell next listed := by
    rw [mem_join apart] at listed ⊢
    obtain old | ⟨rfl, rfl⟩ | ⟨rfl, rfl⟩ := listed
    · exact .inl (paired.symmetric cell next old)
    · exact .inr (.inr ⟨rfl, rfl⟩)
    · exact .inr (.inl ⟨rfl, rfl⟩)
  once cell := by
    have once := paired.once cell
    by_cases first : cell = current
    · subst first
      rw [join_current apart, ← cons_append]
      exact nodup_snoc once (List.not_mem_cons_of_ne_of_not_mem apart.symm fresh)
    · by_cases second : cell = new
      · subst second
        rw [join_new apart, ← cons_append]
        exact nodup_snoc once (List.not_mem_cons_of_ne_of_not_mem apart fun listed => fresh (paired.symmetric cell current listed))
      · rw [join_other first second]
        exact once
  beside cell next listed := by
    obtain old | ⟨rfl, rfl⟩ | ⟨rfl, rfl⟩ := (mem_join apart).mp listed
    · exact paired.beside cell next old
    · exact near
    · exact neighbours_symm near

theorem mazeGraph_join (apart : current ≠ new) : mazeGraph (links.join current new) = mazeGraph links ⊔ SimpleGraph.edge current new := by
  ext cell next
  simp only [mazeGraph, SimpleGraph.fromRel_adj, SimpleGraph.sup_adj, SimpleGraph.edge_adj, mem_join apart]
  tauto

/-- The links are a tree on the visited cells; those that are no longer active have no unvisited neighbour. -/
structure Growing (growth : Growth rings sectors) : Prop where
  paired : Paired growth.links
  grown : Grown .centre growth.visited (mazeGraph growth.links)
  unique : growth.visited.Nodup
  known : ∀ cell ∈ growth.active, cell ∈ growth.visited
  closed : ∀ cell ∈ growth.visited, cell ∉ growth.active → ∀ next ∈ neighbours cell, next ∈ growth.visited

theorem growing_start : Growing ({} : Growth rings sectors) where
  paired := ⟨by simp, by simp, by simp⟩
  grown := by
    have empty : mazeGraph (fun _ => [] : Links rings sectors) = ⊥ := by
      ext
      simp [mazeGraph]
    exact empty ▸ grown_root Cell.centre
  unique := nodup_singleton _
  known _ mem := mem
  closed _ visited idle := absurd visited idle

theorem pickBelow_lt {bound : Nat} (positive : 0 < bound) (value : UInt32) : pickBelow bound value < bound := by
  have small := value.toNat_lt
  rw [pickBelow, Nat.div_lt_iff_lt_mul (by decide), Nat.mul_comm bound]
  exact Nat.mul_lt_mul_of_pos_right small positive

section
variable {newestBias : Float} {random : Nat → UInt32} {growth next : Growth rings sectors}

theorem step_none (stopped : growth.step newestBias random = none) : growth.active = [] := by
  unfold Growth.step at stopped
  extract_lets newest activeIndex draws at stopped
  rw [map_eq_none_iff, List.getElem?_eq_none_iff] at stopped
  by_contra some_
  have positive := List.length_pos_iff.mpr some_
  have inside : activeIndex < growth.active.length := by
    unfold activeIndex
    split
    · omega
    · exact pickBelow_lt positive _
  omega

theorem step_cases (stepped : growth.step newestBias random = some next) :
    (∃ index current, growth.active[index]? = some current ∧ (∀ cell ∈ neighbours current, cell ∈ growth.visited) ∧
      next.links = growth.links ∧ next.visited = growth.visited ∧ next.active = growth.active.eraseIdx index) ∨
    ∃ current ∈ growth.active, ∃ new ∈ neighbours current, new ∉ growth.visited ∧ next.links = growth.links.join current new ∧
      next.visited = growth.visited ++ [new] ∧ next.active = growth.active ++ [new] := by
  unfold Growth.step at stepped
  extract_lets newest activeIndex draws at stepped
  obtain ⟨current, drawn, turned⟩ := map_eq_some_iff.mp stepped
  extract_lets available at turned
  split at turned
  · next none =>
    subst turned
    refine .inl ⟨activeIndex, current, drawn, fun cell beside => ?_, rfl, rfl, rfl⟩
    by_contra unseen
    have offered : cell ∈ available := mem_filter.mpr ⟨beside, decide_eq_true unseen⟩
    have inside := pickBelow_lt (List.length_pos_of_mem offered) (random draws)
    exact absurd (List.getElem?_eq_none_iff.mp none) (Nat.not_le.mpr inside)
  · next new picked =>
    subst turned
    have offered := mem_filter.mp (mem_of_getElem? picked)
    exact .inr ⟨current, mem_of_getElem? drawn, new, offered.1, of_decide_eq_true offered.2, rfl, rfl, rfl⟩

def growthMeasure (growth : Growth rings sectors) : Nat := 2 * (rings * sectors + 1 - growth.visited.length) + growth.active.length

theorem length_le_cells {cells : List (Cell rings sectors)} (unique : cells.Nodup) : cells.length ≤ rings * sectors + 1 :=
  card_cell rings sectors ▸ unique.length_le_card

theorem step_keeps (growing : Growing growth) (stepped : growth.step newestBias random = some next) :
    Growing next ∧ growthMeasure next < growthMeasure growth := by
  obtain ⟨index, current, drawn, beside, links, visited, active⟩ | ⟨current, busy, new, near, fresh, links, visited, active⟩ := step_cases stepped
  · obtain ⟨inside, rfl⟩ := getElem?_eq_some_iff.mp drawn
    have retired := List.length_eraseIdx_of_lt inside
    refine ⟨⟨links ▸ growing.paired, links ▸ visited ▸ growing.grown, visited ▸ growing.unique, ?_, ?_⟩, ?_⟩
    · intro cell mem
      rw [active] at mem
      exact visited ▸ growing.known cell (List.mem_of_mem_eraseIdx mem)
    · intro cell seen idle other near
      rw [visited] at seen ⊢
      rw [active] at idle
      by_cases busy : cell ∈ growth.active
      · obtain rfl | still := mem_cons.mp ((List.getElem_cons_eraseIdx_perm inside).symm.subset busy)
        · exact beside other near
        · exact absurd still idle
      · exact growing.closed cell seen busy other near
    · rw [growthMeasure, growthMeasure, visited, active, retired]
      omega
  · have known := growing.known current busy
    have apart : current ≠ new := fun same => fresh (same ▸ known)
    have unlinked : new ∉ growth.links current := fun listed =>
      fresh (growing.grown.inside current new (growing.paired.adj_iff.mpr listed))
    have unique := nodup_snoc growing.unique fresh
    refine ⟨⟨links ▸ growing.paired.join apart unlinked near, ?_, visited ▸ unique, ?_, ?_⟩, ?_⟩
    · rw [links, visited, mazeGraph_join apart]
      exact growing.grown.leaf known fresh
    · intro cell mem
      rw [visited]
      rw [active] at mem
      exact mem_append.mpr ((mem_append.mp mem).imp_left (growing.known cell))
    · intro cell seen idle other near
      rw [visited] at seen ⊢
      rw [active, mem_append, not_or] at idle
      have old := (mem_append.mp seen).resolve_right idle.2
      exact mem_append_left _ (growing.closed cell old idle.1 other near)
    · have bound := length_le_cells unique
      rw [length_append, length_singleton] at bound
      rw [growthMeasure, growthMeasure, visited, active, length_append, length_append, length_singleton]
      omega

end

theorem all_visited {visited : List (Cell rings sectors)} (rooted : .centre ∈ visited)
    (closed : ∀ cell ∈ visited, ∀ next ∈ neighbours cell, next ∈ visited) (cell : Cell rings sectors) : cell ∈ visited := by
  cases cell with
  | centre => exact rooted
  | cell ring =>
    obtain ⟨ring, inside⟩ := ring
    induction ring with
    | zero => exact closed .centre rooted _ (by simp [neighbours, inside])
    | succ ring ih => exact closed _ (ih (by omega)) _ (by simp [neighbours, inside])

theorem Spanning.perm {links' : Links rings sectors} (spanning : Spanning links) (same : ∀ cell, (links' cell).Perm (links cell)) :
    Spanning links' where
  symmetric cell next listed := (same next).mem_iff.mpr (spanning.symmetric cell next ((same cell).mem_iff.mp listed))
  once cell := ((same cell).cons cell).nodup_iff.mpr (spanning.once cell)
  beside cell next listed := spanning.beside cell next ((same cell).mem_iff.mp listed)
  tree := by
    have graphs : mazeGraph links' = mazeGraph links := by
      ext cell next
      simp [mazeGraph, (same _).mem_iff]
    exact graphs ▸ spanning.tree

theorem generateTree_spanning (plan : DifficultyPlan) (random : Nat → UInt32) :
    ∃ links, generateTree plan random = some links ∧ Spanning links := by
  have started : growthMeasure ({} : Growth plan.rings plan.sectors) < 2 * (plan.rings * plan.sectors + 1) + 2 := by
    simp only [growthMeasure, length_singleton]
    omega
  obtain ⟨growth, stopped, growing, idle⟩ :=
    loop_stops Growing growthMeasure (fun _ _ growing stepped => step_keeps growing stepped) growing_start started
  have all := all_visited growing.grown.rooted fun cell seen => growing.closed cell seen (by rw [step_none idle]; exact not_mem_nil)
  have spanning : Spanning growth.links := ⟨growing.paired, growing.grown.isTree all⟩
  exact ⟨_, congrArg (Option.map _) stopped, spanning.perm fun cell => List.mergeSort_perm _ _⟩

end

end MilkAndHenny.Centre

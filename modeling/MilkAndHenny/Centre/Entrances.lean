import MilkAndHenny.Centre.Spanning

/-! The ways in: the search from the centre walks the only path of every cell, every climb ends, and each
player gets an entrance of their own with the length of its path. -/

namespace MilkAndHenny.Centre
variable {players : Nat}
open Library

section
variable {rings sectors : Nat} {links : Links rings sectors} {search : Search rings sectors} {current next : Cell rings sectors}

/-! ### The search -/

structure Searched (links : Links rings sectors) (search : Search rings sectors) : Prop where
  unique : search.queue.Nodup
  queued : ∀ cell, cell ∈ search.queue ↔ (search.depths cell).isSome
  rooted : .centre ∈ search.queue
  walks : ∀ cell depth, search.depths cell = some depth → ∃ path : (mazeGraph links).Walk .centre cell,
    path.IsPath ∧ path.length = depth ∧ ∀ other ∈ path.support, other ∈ search.queue
  climbs : ∀ cell parent, search.parents cell = some parent →
    ∃ depth, search.depths parent = some depth ∧ search.depths cell = some (depth + 1)

theorem searched_start : Searched links {} where
  unique := nodup_singleton _
  queued cell := by
    simp only [mem_singleton, Function.update_apply]
    split <;> simp [*]
  rooted := mem_singleton_self _
  walks cell depth found := by
    simp only [Function.update_apply] at found
    split at found
    · next same =>
      subst same
      exact ⟨.nil, .nil, some.inj found, by simp⟩
    · cases found
  climbs _ _ found := by cases found

theorem visit_keeps (paired : Paired links) (searched : Searched links search) (known : current ∈ search.queue)
    (listed : next ∈ links current) :
    Searched links (search.visit current next) ∧ search.queue <+: (search.visit current next).queue ∧
      next ∈ (search.visit current next).queue := by
  unfold Search.visit
  split
  · next seen => exact ⟨searched, List.prefix_refl _, (searched.queued next).mpr seen⟩
  · next unseen =>
    have fresh : next ∉ search.queue := fun queued => unseen ((searched.queued next).mp queued)
    obtain ⟨depth, found⟩ := isSome_iff_exists.mp ((searched.queued current).mp known)
    have older {cell : Cell rings sectors} {value : Nat} (old : search.depths cell = some value) : cell ≠ next := by
      rintro rfl
      exact unseen (old ▸ rfl)
    refine ⟨⟨nodup_snoc searched.unique fresh, fun cell => ?_, mem_append_left _ searched.rooted, ?_, ?_⟩,
      List.prefix_append _ _, by simp⟩
    · simp only [mem_append, mem_singleton, searched.queued, Function.update_apply]
      split <;> simp [*]
    · intro cell value reached
      simp only [Function.update_apply] at reached
      split at reached
      · next same =>
        subst same
        obtain ⟨path, simple, length, support⟩ := searched.walks current depth found
        have joined := paired.adj_iff.mpr listed
        refine ⟨path.concat joined, simple.concat (fun on => fresh (support _ on)) joined, ?_, ?_⟩
        · rw [SimpleGraph.Walk.length_concat, length, ← some.inj reached, found, getD_some]
        · intro other on
          rw [SimpleGraph.Walk.support_concat] at on
          exact mem_append.mpr ((mem_append.mp on).imp_left (support other))
      · obtain ⟨path, simple, length, support⟩ := searched.walks cell value reached
        exact ⟨path, simple, length, fun other on => mem_append_left _ (support other on)⟩
    · intro cell parent reached
      simp only [Function.update_apply] at reached ⊢
      split at reached
      · next same =>
        cases reached
        exact ⟨depth, by rw [if_neg (older found), found], by rw [if_pos same, found, getD_some]⟩
      · next other =>
        obtain ⟨value, above, below⟩ := searched.climbs cell parent reached
        exact ⟨value, by rw [if_neg (older above), above], by rw [if_neg other, below]⟩

theorem visits_keep (paired : Paired links) (searched : Searched links search) (known : current ∈ search.queue)
    {nexts : List (Cell rings sectors)} (listed : ∀ next ∈ nexts, next ∈ links current) :
    Searched links (nexts.foldl (Search.visit current) search) ∧ search.queue <+: (nexts.foldl (Search.visit current) search).queue ∧
      ∀ next ∈ nexts, next ∈ (nexts.foldl (Search.visit current) search).queue := by
  induction nexts generalizing search with
  | nil => exact ⟨searched, List.prefix_refl _, by simp⟩
  | cons next nexts ih =>
    obtain ⟨kept, grown, queued⟩ := visit_keeps paired searched known (listed next mem_cons_self)
    obtain ⟨kept', grown', queued'⟩ := ih kept (grown.subset known) fun other mem => listed other (mem_cons_of_mem next mem)
    refine ⟨kept', grown.trans grown', fun other mem => ?_⟩
    obtain rfl | rest := mem_cons.mp mem
    · exact grown'.subset queued
    · exact queued' other rest

structure Searching (links : Links rings sectors) (search : Search rings sectors) : Prop extends Searched links search where
  followed : ∀ index < search.cursor, ∀ cell, search.queue[index]? = some cell → ∀ next ∈ links cell, next ∈ search.queue

theorem search_keeps (paired : Paired links) {search' : Search rings sectors} (searching : Searching links search)
    (stepped : search.step links = some search') :
    Searching links search' ∧ rings * sectors + 1 - search'.cursor < rings * sectors + 1 - search.cursor := by
  obtain ⟨current, drawn, rfl⟩ := map_eq_some_iff.mp stepped
  have inside := (getElem?_eq_some_iff.mp drawn).1
  have bound := length_le_cells searching.unique
  obtain ⟨kept, grown, queued⟩ := visits_keep paired searching.toSearched (mem_of_getElem? drawn) (fun next listed => listed)
  refine ⟨⟨⟨kept.unique, kept.queued, kept.rooted, kept.walks, kept.climbs⟩, fun index before cell found next listed => ?_⟩, ?_⟩
  · have place : search.queue[index]? = some cell := by
      obtain ⟨tail, same⟩ := grown
      rw [← found, ← same, List.getElem?_append_left (Nat.lt_of_le_of_lt (Nat.le_of_lt_succ before) inside)]
    obtain older | rfl := Nat.lt_succ_iff_lt_or_eq.mp before
    · exact grown.subset (searching.followed index older cell place next listed)
    · exact queued next (some.inj (place.symm.trans drawn) ▸ listed)
  · simp only
    omega

theorem depthsFromCentre_some (spanning : Spanning links) :
    ∃ search, depthsFromCentre links = some search ∧ Searched links search ∧ ∀ cell, (search.depths cell).isSome := by
  have started : rings * sectors + 1 - ({} : Search rings sectors).cursor < rings * sectors + 2 := by
    omega
  obtain ⟨search, stopped, searching, done⟩ := loop_stops (Searching links) (fun search => rings * sectors + 1 - search.cursor)
    (fun _ _ searching stepped => search_keeps spanning.toPaired searching stepped)
    ⟨searched_start, fun _ before => absurd before (Nat.not_lt_zero _)⟩ started
  have past := List.getElem?_eq_none_iff.mp (map_eq_none_iff.mp done)
  have follow {cell other : Cell rings sectors} (walk : (mazeGraph links).Walk cell other) (known : cell ∈ search.queue) :
      other ∈ search.queue := by
    induction walk with
    | nil => exact known
    | cons joined _ ih =>
      obtain ⟨index, inside, found⟩ := List.getElem_of_mem known
      exact ih (searching.followed index (by omega) _ (getElem?_eq_some_iff.mpr ⟨inside, found⟩) _ (spanning.adj_iff.mp joined))
  refine ⟨search, stopped, searching.toSearched, fun cell => (searching.queued cell).mp ?_⟩
  obtain ⟨walk⟩ := spanning.tree.connected.preconnected .centre cell
  exact follow walk searching.rooted

/-! ### The paths -/

def Solution (links : Links rings sectors) (start : Cell rings sectors) (length : Nat) : Prop :=
  ∃ path : (mazeGraph links).Walk start .centre, path.IsPath ∧ path.length = length ∧
    ∀ other : (mazeGraph links).Walk start .centre, other.IsPath → other = path

def climbMeasure (search : Search rings sectors) (climb : Climb rings sectors) : Nat :=
  climb.current.elim 0 fun cell => (search.depths cell).getD 0 + 1

theorem climb_lower (searched : Searched links search) {climb climb' : Climb rings sectors} (stepped : climb.step links search = some climb') :
    climbMeasure search climb' < climbMeasure search climb := by
  obtain ⟨current, standing, rfl⟩ := map_eq_some_iff.mp stepped
  rw [climbMeasure, climbMeasure, (filter_eq_some_iff.mp standing).1]
  simp only
  split
  · exact Nat.succ_pos _
  · next parent found =>
    obtain ⟨depth, above, below⟩ := searched.climbs current parent found
    simp only [elim_some, above, below, getD_some]
    omega

theorem pathMetrics_some (spanning : Spanning links) (searched : Searched links search)
    (everywhere : ∀ cell, (search.depths cell).isSome) (start : Cell rings sectors) :
    ∃ metrics, pathMetrics links search start = some metrics ∧ metrics.length = (search.depths start).getD 0 ∧
      Solution links start metrics.length := by
  obtain ⟨depth, found⟩ := isSome_iff_exists.mp (everywhere start)
  obtain ⟨path, simple, length, -⟩ := searched.walks start depth found
  have short : depth < rings * sectors + 1 := length ▸ card_cell rings sectors ▸ simple.length_lt
  have started : climbMeasure search { current := some start } < rings * sectors + 2 := by
    simp only [climbMeasure, elim_some, found, getD_some]
    omega
  obtain ⟨last, stopped, -⟩ := loop_stops (fun _ => True) (climbMeasure search) (fun _ _ _ stepped => ⟨trivial, climb_lower searched stepped⟩)
    trivial started
  refine ⟨_, congrArg (Option.map _) stopped, rfl, path.reverse, simple.reverse, ?_, fun other isPath => ?_⟩
  · rw [SimpleGraph.Walk.length_reverse, length, found, getD_some]
  · exact congrArg Subtype.val ((spanning.tree.isAcyclic.subsingleton_path _ _).elim ⟨other, isPath⟩ ⟨path.reverse, simple.reverse⟩)

/-! ### The entrances -/

theorem addEntrances_some (miss : Fin sectors → Nat) (missing : Nat) {result : List (Fin sectors)} (unique : result.Nodup)
    (enough : result.length + missing ≤ sectors) :
    ∃ last, addEntrances miss missing result = some last ∧ last.Nodup ∧ last.length = result.length + missing := by
  induction missing generalizing result with
  | zero => exact ⟨result, rfl, unique, rfl⟩
  | succ missing ih =>
    have left : (List.finRange sectors).filter (· ∉ result) ≠ [] := by
      intro none
      have covered : List.finRange sectors ⊆ result := fun sector listed =>
        Decidable.not_not.mp fun free => filter_eq_nil_iff.mp none sector listed (decide_eq_true free)
      have full := ((List.nodup_finRange sectors).subperm covered).length_le
      rw [List.length_finRange] at full
      omega
    unfold addEntrances addEntrance
    extract_lets score
    obtain ⟨candidate, offered, best⟩ := keepBest_mem score left
    have free := of_decide_eq_true (mem_filter.mp offered).2
    rw [best, map_some, bind_some]
    have unique' : (result ++ [candidate]).Nodup := List.concat_eq_append ▸ unique.concat free
    obtain ⟨last, added, distinct, length⟩ := ih unique' (by rw [length_append, length_singleton]; omega)
    refine ⟨last, added, distinct, ?_⟩
    rw [length, length_append, length_singleton]
    omega

theorem entranceSet_some (targetDepth : Nat) {playerCount : Nat} (depthOf : Fin sectors → Nat) (one : 1 ≤ playerCount)
    (enough : playerCount ≤ sectors) :
    ∃ result, entranceSet targetDepth playerCount depthOf = some result ∧ result.Nodup ∧ result.length = playerCount := by
  unfold entranceSet
  extract_lets miss nearest
  have sorted := List.mergeSort_perm (List.finRange sectors) fun left right => miss left < miss right ∨ miss left = miss right ∧ left ≤ right
  have length : (nearest.take 1).length = 1 := by
    rw [List.length_take, sorted.length_eq, List.length_finRange]
    omega
  have unique : (nearest.take 1).Nodup := (sorted.nodup_iff.mpr (List.nodup_finRange sectors)).sublist (List.take_sublist _ _)
  obtain ⟨result, added, distinct, total⟩ := addEntrances_some miss (playerCount - 1) unique (by omega)
  refine ⟨result.mergeSort (· ≤ ·), by rw [added]; rfl, (List.mergeSort_perm _ _).nodup_iff.mpr distinct, ?_⟩
  rw [(List.mergeSort_perm _ _).length_eq, total]
  omega

end

structure Entered (plan : DifficultyPlan) (links : Links plan.rings plan.sectors) (players : Nat) (sectors : List (Fin plan.sectors))
    (lengths : List Nat) : Prop where
  apart : sectors.Nodup
  each : sectors.length = players
  solved : Forall₂ (fun sector length => Solution links (plan.entrance sector) length) sectors lengths

theorem bestEntrances_some (plan : DifficultyPlan) {links : Links plan.rings plan.sectors} (spanning : Spanning links)
    (one : 1 ≤ players) (enough : players ≤ 8) :
    ∃ entrances, bestEntrances plan links players = some entrances ∧ Entered plan links players entrances.sectors entrances.lengths := by
  obtain ⟨search, searched, paths, everywhere⟩ := depthsFromCentre_some spanning
  have room := plan.roomy
  unfold bestEntrances
  rw [searched, bind_eq_bind, bind_some]
  extract_lets depthOf targetDepths
  have offered : targetDepths ≠ [] := ne_nil_of_mem (mem_distinct.mpr (mem_map_of_mem (List.mem_finRange ⟨0, by omega⟩)))
  refine best_of_all _ offered fun targetDepth _ => ?_
  obtain ⟨sectors, chosen, apart, each⟩ := entranceSet_some targetDepth depthOf one (enough.trans room)
  obtain ⟨metrics, measured, solved⟩ := mapM_some fun sector (_ : sector ∈ sectors) =>
    pathMetrics_some spanning paths everywhere (plan.entrance sector)
  refine ⟨_, by rw [chosen, bind_eq_bind, bind_some, measured]; rfl, apart, each, ?_⟩
  exact forall₂_map_right_iff.mpr (solved.imp fun _ _ held => held.2)

theorem candidateOf_some (plan : DifficultyPlan) (random : Nat → UInt32) (one : 1 ≤ players) (enough : players ≤ 8) :
    ∃ candidate, candidateOf plan random players = some candidate ∧
      Spanning candidate.1 ∧ Entered plan candidate.1 players candidate.2.sectors candidate.2.lengths := by
  obtain ⟨links, grown, spanning⟩ := generateTree_spanning plan random
  obtain ⟨entrances, chosen, entered⟩ := bestEntrances_some plan spanning one enough
  refine ⟨(links, entrances), ?_, spanning, entered⟩
  rw [candidateOf, grown, bind_eq_bind, bind_some, chosen]
  rfl

/-- A spanning tree, with an entrance for every player and the length of its only path. -/
structure CentreMaze.Sound (maze : CentreMaze) (playerCount : Int) : Prop where
  spanning : Spanning maze.links
  entered : Entered (plans maze.difficulty) maze.links (max 1 (min 8 playerCount)).toNat maze.entranceSectors maze.solutionLengths
  /-- A table of one to eight players is taken as it is. -/
  seated : 1 ≤ playerCount → playerCount ≤ 8 → (maze.entranceSectors.length : Int) = playerCount

theorem mazeOf_sound (random : Nat → Nat → UInt32) (difficulty : CentreDifficulty) (playerCount : Int) :
    ∃ maze, mazeOf random difficulty playerCount = some maze ∧ maze.difficulty = difficulty ∧ maze.Sound playerCount := by
  unfold mazeOf
  extract_lets plan players
  have one : 1 ≤ players := by omega
  have enough : players ≤ 8 := by omega
  obtain ⟨candidate, best, spanning, entered⟩ := best_of_all (fun candidate => candidate.2.score)
    (ne_nil_of_mem (mem_range.mpr (by decide : 0 < 48)))
    fun index (_ : index ∈ List.range 48) => candidateOf_some plan (random index) one enough
  refine ⟨_, congrArg (Option.map _) best, rfl, spanning, entered, fun least most => ?_⟩
  rw [entered.each]
  omega

/-- Whatever the random numbers, so also those of any seed, a maze comes out, and it is sound. -/
theorem generateCentreMaze_sound (difficulty : CentreDifficulty) (playerCount : Int) :
    (∀ random, ∃ maze, mazeOf random difficulty playerCount = some maze ∧ maze.difficulty = difficulty ∧ maze.Sound playerCount) ∧
    ∀ seed, ∃ maze, generateCentreMaze seed difficulty playerCount = some maze ∧ maze.difficulty = difficulty ∧ maze.Sound playerCount :=
  ⟨fun random => mazeOf_sound random difficulty playerCount, fun _ => mazeOf_sound _ difficulty playerCount⟩

end MilkAndHenny.Centre

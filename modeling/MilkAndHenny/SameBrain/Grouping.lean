import Mathlib.Data.List.Induction
import Mathlib.Data.Multiset.MapFold
import MilkAndHenny.SameBrain.Rules

/-! How a round groups its answers, and that the order in which they came has no say in it. -/

namespace MilkAndHenny.SameBrain
open Library

variable {answers others : List SameBrainAnswer} {label : String}

/-! ### The groups -/

def playersOf (answers : List SameBrainAnswer) (label : String) : List Nat :=
  (answers.filter (·.normalised == label)).map (·.playerId)

def clusterOf (answers : List SameBrainAnswer) (label : String) : SameBrainCluster where
  label := label
  spellings := [label]
  playerIds := playersOf answers label

def labelsOf (answers : List SameBrainAnswer) : List String := distinct (answers.map (·.normalised))

section
variable {answer : SameBrainAnswer}

theorem distinct_concat (labels : List String) (label : String) :
    distinct (labels ++ [label]) = if label ∈ labels then distinct labels else distinct labels ++ [label] := by
  induction labels with
  | nil => rfl
  | cons first labels ih =>
    rw [cons_append, distinct, ih]
    by_cases same : label = first
    · subst same
      by_cases again : label ∈ labels <;> simp [again, distinct, filter_append]
    · by_cases again : label ∈ labels <;> simp [again, same, distinct, filter_append]

theorem playersOf_concat : playersOf (answers ++ [answer]) label =
    if answer.normalised = label then playersOf answers label ++ [answer.playerId] else playersOf answers label := by
  unfold playersOf
  by_cases same : answer.normalised = label <;> simp [same]

theorem clusterOf_concat (answers : List SameBrainAnswer) (answer : SameBrainAnswer) (label : String) :
    clusterOf (answers ++ [answer]) label =
      if label = answer.normalised then { clusterOf answers label with playerIds := playersOf answers label ++ [answer.playerId] }
      else clusterOf answers label := by
  unfold clusterOf
  rw [playersOf_concat]
  by_cases same : label = answer.normalised
  · rw [if_pos same.symm, if_pos same]
  · rw [if_neg (Ne.symm same), if_neg same]

theorem clusterByExactMatch_eq (answers : List SameBrainAnswer) : clusterByExactMatch answers = (labelsOf answers).map (clusterOf answers) := by
  induction answers using List.reverseRecOn with
  | nil => rfl
  | append_singleton answers answer ih =>
    have labels : labelsOf (answers ++ [answer]) =
        if answer.normalised ∈ labelsOf answers then labelsOf answers else labelsOf answers ++ [answer.normalised] := by
      simp [labelsOf, distinct_concat]
    have grouped : clusterByExactMatch (answers ++ [answer]) = group (clusterByExactMatch answers) answer := foldl_append
    rw [grouped, ih, labels, group]
    have found : ((labelsOf answers).map (clusterOf answers)).any (·.label == answer.normalised) = true ↔ answer.normalised ∈ labelsOf answers := by
      simp [clusterOf]
    have keys : ((labelsOf answers).map (clusterOf answers)).map (·.label) = labelsOf answers := by simp [clusterOf, Function.comp_def]
    by_cases known : answer.normalised ∈ labelsOf answers
    · have unique : (((labelsOf answers).map (clusterOf answers)).map (·.label)).Nodup := by
        rw [keys]
        exact nodup_distinct _
      rw [if_pos (found.mpr known), if_pos known, updateFirst_eq_update unique, update, map_map]
      refine map_congr_left fun label _ => ?_
      rw [clusterOf_concat, Function.comp_apply]
      simp [clusterOf]
    · rw [if_neg (mt found.mp known), if_neg known, map_append]
      have new : playersOf answers answer.normalised = [] := by
        simp only [playersOf, map_eq_nil_iff, filter_eq_nil_iff, beq_iff_eq]
        exact fun other mem same => known (mem_distinct.mpr (mem_map.mpr ⟨other, mem, same⟩))
      congr 1
      · refine map_congr_left fun label mem => ?_
        rw [clusterOf_concat, if_neg fun same => known (by rwa [← same])]
      · rw [map_singleton, clusterOf_concat, if_pos rfl, new]
        rfl

theorem playersOf_perm (same : others.Perm answers) (label : String) : (playersOf others label).Perm (playersOf answers label) :=
  (same.filter _).map _

theorem labelsOf_perm (same : others.Perm answers) : (labelsOf others).Perm (labelsOf answers) :=
  (List.perm_ext_iff_of_nodup (nodup_distinct _) (nodup_distinct _)).mpr fun label => by
    simp only [mem_distinct]
    exact (same.map _).mem_iff

end

/-! ### The herd -/

/-- The group is of two at least, and larger than every other one. -/
def Leads (clusters : List SameBrainCluster) (index : Nat) : Prop :=
  ∃ leading, clusters[index]? = some leading ∧ 2 ≤ leading.playerIds.length ∧
    ∀ other cluster, clusters[other]? = some cluster → other ≠ index → cluster.playerIds.length < leading.playerIds.length

section
variable {clusters : List SameBrainCluster} {index playerCount : Nat}

theorem Leads.unique (leads : Leads clusters index) {other : Nat} (leads' : Leads clusters other) : index = other := by
  obtain ⟨cluster, found, _, most⟩ := leads
  obtain ⟨cluster', found', _, most'⟩ := leads'
  by_contra apart
  exact absurd (most other cluster' found' (Ne.symm apart)) (most' index cluster found apart).not_gt

/-- The size that the groups are compared with. -/
def largestOf (clusters : List SameBrainCluster) : Nat := (clusters.map (·.playerIds.length)).foldl max 0

theorem length_le_largestOf {cluster : SameBrainCluster} (mem : cluster ∈ clusters) : cluster.playerIds.length ≤ largestOf clusters :=
  (foldl_max_spec 0 _).2 _ (mem_cons_of_mem 0 (mem_map_of_mem mem))

theorem leads_iff : Leads clusters index ↔ 2 ≤ largestOf clusters ∧
    ∀ other, (∃ cluster, clusters[other]? = some cluster ∧ cluster.playerIds.length = largestOf clusters) ↔ other = index := by
  constructor
  · rintro ⟨leading, found, two, most⟩
    have largest : largestOf clusters = leading.playerIds.length := by
      refine le_antisymm ?_ (length_le_largestOf (mem_of_getElem? found))
      rcases mem_cons.mp (foldl_max_spec 0 (clusters.map (·.playerIds.length))).1 with none_ | one
      · exact none_.trans_le (Nat.zero_le _)
      · obtain ⟨cluster, listed, same⟩ := mem_map.mp one
        obtain ⟨other, found'⟩ := List.getElem?_of_mem listed
        refine same.ge.trans ?_
        by_cases here : other = index
        · rw [here, found] at found'
          rw [some.inj found']
        · exact (most other cluster found' here).le
    refine ⟨largest ▸ two, fun other => ⟨?_, ?_⟩⟩
    · rintro ⟨cluster, found', same⟩
      by_contra apart
      exact absurd (same.trans largest) (most other cluster found' apart).ne
    · rintro rfl
      exact ⟨leading, found, largest.symm⟩
  · rintro ⟨two, only⟩
    obtain ⟨leading, found, same⟩ := (only index).mpr rfl
    refine ⟨leading, found, same ▸ two, fun other cluster found' apart => ?_⟩
    refine lt_of_le_of_ne (same ▸ length_le_largestOf (mem_of_getElem? found')) fun equal => apart ?_
    exact (only other).mp ⟨cluster, found', equal.trans same⟩

theorem one_lt_countP_iff {α : Type} {items : List α} {p : α → Bool} :
    1 < items.countP p ↔ ∃ i j : Nat, i < j ∧ (∃ a, items[i]? = some a ∧ p a) ∧ ∃ b, items[j]? = some b ∧ p b := by
  constructor
  · induction items with
    | nil => simp
    | cons item items ih =>
      intro twice
      rw [countP_cons] at twice
      by_cases counts : p item
      · rw [if_pos counts] at twice
        obtain ⟨b, mem, counts'⟩ := countP_pos_iff.mp (Nat.lt_of_succ_lt_succ twice)
        obtain ⟨j, found⟩ := List.getElem?_of_mem mem
        exact ⟨0, j + 1, Nat.succ_pos j, ⟨item, rfl, counts⟩, b, found, counts'⟩
      · rw [if_neg counts] at twice
        obtain ⟨i, j, before, first, second⟩ := ih twice
        exact ⟨i + 1, j + 1, Nat.succ_lt_succ before, first, second⟩
  · rintro ⟨i, j, before, ⟨a, first, counts⟩, b, second, counts'⟩
    have early : 0 < (items.take j).countP p :=
      countP_pos_iff.mpr ⟨a, mem_of_getElem? (by rwa [List.getElem?_take_of_lt before]), counts⟩
    have late : 0 < (items.drop j).countP p := by
      refine countP_pos_iff.mpr ⟨b, mem_of_getElem? (?_ : (items.drop j)[0]? = some b), counts'⟩
      rw [List.getElem?_drop, Nat.add_zero, second]
    rw [← List.take_append_drop j items, countP_append]
    omega

theorem scoreClusters_spec (clusters : List SameBrainCluster) (playerCount : Nat) :
    (∃ index, Leads clusters index ∧ scoreClusters clusters playerCount =
      { herdIndex := some index
        pointsEach := if largestOf clusters = playerCount then sameBrainPointsUnanimous else sameBrainPointsMajority
        noScoreReason := none }) ∨
    (∀ index, ¬ Leads clusters index) ∧
      scoreClusters clusters playerCount = { herdIndex := none, pointsEach := 0, noScoreReason := some .split } := by
  have unfolded : scoreClusters clusters playerCount =
      if largestOf clusters < 2 then { herdIndex := none, pointsEach := 0, noScoreReason := some .split }
      else if 1 < clusters.countP (·.playerIds.length == largestOf clusters) then
        { herdIndex := none, pointsEach := 0, noScoreReason := some .split }
      else
        { herdIndex := clusters.findIdx? (·.playerIds.length == largestOf clusters)
          pointsEach := if largestOf clusters = playerCount then sameBrainPointsUnanimous else sameBrainPointsMajority
          noScoreReason := none } := rfl
  rw [unfolded]
  split
  · next small => exact .inr ⟨fun index leads => absurd small (not_lt.mpr (leads_iff.mp leads).1), rfl⟩
  · next two =>
    split
    · next tied =>
      refine .inr ⟨fun index leads => ?_, rfl⟩
      obtain ⟨-, only⟩ := leads_iff.mp leads
      obtain ⟨i, j, before, ⟨a, first, large⟩, b, second, large'⟩ := one_lt_countP_iff.mp tied
      have same := (only i).mp ⟨a, first, eq_of_beq large⟩
      have same' := (only j).mp ⟨b, second, eq_of_beq large'⟩
      omega
    · next single =>
      have two := not_lt.mp two
      obtain ⟨cluster, mem, large⟩ : ∃ cluster ∈ clusters, cluster.playerIds.length = largestOf clusters := by
        rcases mem_cons.mp (foldl_max_spec 0 (clusters.map (·.playerIds.length))).1 with none_ | one
        · exact absurd (two.trans_eq none_) (by decide)
        · exact mem_map.mp one
      obtain ⟨index, found⟩ := List.getElem?_of_mem mem
      have sized {cluster : SameBrainCluster} (large : cluster.playerIds.length = largestOf clusters) :
          (fun cluster : SameBrainCluster => cluster.playerIds.length == largestOf clusters) cluster = true := beq_iff_eq.mpr large
      have only (other : Nat) : (∃ cluster, clusters[other]? = some cluster ∧ cluster.playerIds.length = largestOf clusters) ↔ other = index := by
        constructor
        · rintro ⟨cluster', found', large'⟩
          rcases Nat.lt_trichotomy other index with before | same | after
          · exact absurd (one_lt_countP_iff.mpr ⟨_, _, before, ⟨_, found', sized large'⟩, _, found, sized large⟩) single
          · exact same
          · exact absurd (one_lt_countP_iff.mpr ⟨_, _, after, ⟨_, found, sized large⟩, _, found', sized large'⟩) single
        · rintro rfl
          exact ⟨cluster, found, large⟩
      refine .inl ⟨index, leads_iff.mpr ⟨two, only⟩, ?_⟩
      have first : clusters.findIdx? (·.playerIds.length == largestOf clusters) = some index := by
        obtain ⟨inside, here⟩ := getElem?_eq_some_iff.mp found
        refine List.findIdx?_eq_some_iff_getElem.mpr ⟨inside, by rw [here, large]; exact beq_self_eq_true _, fun other before => ?_⟩
        intro large'
        exact absurd ((only other).mp ⟨_, getElem?_eq_getElem _, eq_of_beq large'⟩) before.ne
      rw [first]

theorem herdIndex_iff : (scoreClusters clusters playerCount).herdIndex = some index ↔ Leads clusters index := by
  rcases scoreClusters_spec clusters playerCount with ⟨first, leads, scored⟩ | ⟨none_, scored⟩
  · rw [scored]
    exact ⟨fun same => some.inj same ▸ leads, fun leads' => congrArg some (leads.unique leads')⟩
  · rw [scored]
    exact iff_of_false nofun (none_ index)

end

/-! ### The order of the answers -/

structure LeadsAll (answers : List SameBrainAnswer) (label : String) : Prop where
  given : label ∈ labelsOf answers
  two : 2 ≤ (playersOf answers label).length
  most : ∀ other ∈ labelsOf answers, other ≠ label → (playersOf answers other).length < (playersOf answers label).length

theorem leads_clusters {index : Nat} :
    Leads (clusterByExactMatch answers) index ↔ ∃ label, (labelsOf answers)[index]? = some label ∧ LeadsAll answers label := by
  rw [clusterByExactMatch_eq]
  simp only [Leads, getElem?_map, map_eq_some_iff]
  constructor
  · rintro ⟨_, ⟨label, found, rfl⟩, two, most⟩
    refine ⟨label, found, mem_of_getElem? found, two, fun other mem apart => ?_⟩
    obtain ⟨place, found'⟩ := List.getElem?_of_mem mem
    refine most place _ ⟨other, found', rfl⟩ ?_
    rintro rfl
    exact apart (some.inj (found'.symm.trans found))
  · rintro ⟨label, found, leads⟩
    refine ⟨_, ⟨label, found, rfl⟩, leads.two, ?_⟩
    rintro place _ ⟨other, found', rfl⟩ apart
    refine leads.most other (mem_of_getElem? found') ?_
    rintro rfl
    obtain ⟨inside, here⟩ := getElem?_eq_some_iff.mp found
    obtain ⟨within, there⟩ := getElem?_eq_some_iff.mp found'
    exact apart ((nodup_distinct _).getElem_inj_iff.mp (there.trans here.symm))

theorem LeadsAll.perm (leads : LeadsAll answers label) (same : others.Perm answers) : LeadsAll others label where
  given := (labelsOf_perm same).mem_iff.mpr leads.given
  two := (playersOf_perm same label).length_eq ▸ leads.two
  most other mem apart := by
    rw [(playersOf_perm same other).length_eq, (playersOf_perm same label).length_eq]
    exact leads.most other ((labelsOf_perm same).mem_iff.mp mem) apart

/-- The only player of the only group of one. -/
def lonerOf (answers : List SameBrainAnswer) : Option Nat :=
  match (labelsOf answers).filter fun label => (playersOf answers label).length == 1 with
  | [label] => (playersOf answers label).head?
  | _ => none

theorem lonerOf_perm (same : others.Perm answers) : lonerOf others = lonerOf answers := by
  have sizes (label : String) : (playersOf others label).length = (playersOf answers label).length := (playersOf_perm same label).length_eq
  have alone : ((labelsOf others).filter fun label => (playersOf others label).length == 1).Perm
      ((labelsOf answers).filter fun label => (playersOf answers label).length == 1) := by
    simp only [sizes]
    exact (labelsOf_perm same).filter _
  unfold lonerOf
  generalize listed : (labelsOf others).filter (fun label => (playersOf others label).length == 1) = first at alone
  generalize (labelsOf answers).filter (fun label => (playersOf answers label).length == 1) = second at alone
  match first, second, alone with
  | [], second, alone => rw [List.nil_perm.mp alone]
  | [label], second, alone =>
    cases List.singleton_perm.mp alone
    have single : (playersOf others label).length = 1 := by
      have mem : label ∈ (labelsOf others).filter fun label => (playersOf others label).length == 1 := by
        rw [listed]
        exact mem_singleton_self label
      exact eq_of_beq (mem_filter.mp mem).2
    obtain ⟨player, only⟩ := List.length_eq_one_iff.mp single
    have perm := playersOf_perm same label
    rw [only] at perm
    exact congrArg List.head? (only.trans (List.singleton_perm.mp perm))
  | _ :: _ :: _, second, alone =>
    match second, alone.length_eq with
    | _ :: _ :: _, _ => rfl

theorem oddPlayerOf_clusters (index : Nat) : oddPlayerOf (clusterByExactMatch answers) (some index) = lonerOf answers := by
  unfold oddPlayerOf lonerOf
  rw [clusterByExactMatch_eq, filter_map]
  match (labelsOf answers).filter fun label => (playersOf answers label).length == 1 with
  | [] | [_] | _ :: _ :: _ => rfl

theorem scoreRound_spec (round : Nat) (question : String) (answers : List SameBrainAnswer) (playerCount : Nat) :
    let result := scoreRound round question answers playerCount
    (∃ label, LeadsAll answers label ∧ result.herd = playersOf answers label ∧ result.oddPlayerId = lonerOf answers ∧
      result.noScoreReason = none ∧
      result.pointsEach = if (playersOf answers label).length = playerCount then sameBrainPointsUnanimous else sameBrainPointsMajority) ∨
    (∀ label, ¬ LeadsAll answers label) ∧ result.herd = [] ∧ result.oddPlayerId = none ∧ result.noScoreReason = some .split ∧
      result.pointsEach = 0 := by
  intro result
  have herdIndex : result.herdIndex = (scoreClusters (clusterByExactMatch answers) playerCount).herdIndex := rfl
  have points : result.pointsEach = (scoreClusters (clusterByExactMatch answers) playerCount).pointsEach := rfl
  have reason : result.noScoreReason = (scoreClusters (clusterByExactMatch answers) playerCount).noScoreReason := rfl
  have odd : result.oddPlayerId = oddPlayerOf (clusterByExactMatch answers) result.herdIndex := rfl
  have clusters : result.clusters = clusterByExactMatch answers := rfl
  rcases scoreClusters_spec (clusterByExactMatch answers) playerCount with ⟨index, leads, scored⟩ | ⟨none_, scored⟩
  · obtain ⟨label, found, leadsAll⟩ := leads_clusters.mp leads
    have here : (clusterByExactMatch answers)[index]? = some (clusterOf answers label) := by
      rw [clusterByExactMatch_eq, getElem?_map, found, map_some]
    have largest : largestOf (clusterByExactMatch answers) = (playersOf answers label).length := by
      obtain ⟨cluster, found', large⟩ := ((leads_iff.mp leads).2 index).mpr rfl
      rw [← large, some.inj (found'.symm.trans here)]
      rfl
    rw [scored] at herdIndex points reason
    refine .inl ⟨label, leadsAll, ?_, ?_, reason, ?_⟩
    · rw [SameBrainRoundResult.herd, herdIndex, bind_some, clusters, here]
      rfl
    · rw [odd, herdIndex, oddPlayerOf_clusters]
    · rw [points, largest]
  · rw [scored] at herdIndex points reason
    refine .inr ⟨fun label leads => ?_, ?_, ?_, reason, points⟩
    · obtain ⟨index, found⟩ := List.getElem?_of_mem leads.given
      exact none_ index (leads_clusters.mpr ⟨label, found, leads⟩)
    · rw [SameBrainRoundResult.herd, herdIndex]
      rfl
    · rw [odd, herdIndex]
      rfl

theorem LeadsAll.unique {other : String} (leads : LeadsAll answers label) (leads' : LeadsAll answers other) : label = other := by
  by_contra apart
  exact absurd (leads.most other leads'.given (Ne.symm apart)) (leads'.most label leads.given apart).not_gt

/-- The groups of players, whatever their order and the order in them. -/
def SameBrainRoundResult.parts (result : SameBrainRoundResult) : Multiset (Multiset Nat) :=
  (result.clusters.map fun cluster => (cluster.playerIds : Multiset Nat))

theorem scoreRound_perm (round : Nat) (question : String) (playerCount : Nat) (same : others.Perm answers) :
    let result := scoreRound round question answers playerCount
    let other := scoreRound round question others playerCount
    other.parts = result.parts ∧ other.herd.Perm result.herd ∧ other.pointsEach = result.pointsEach ∧
      other.oddPlayerId = result.oddPlayerId ∧ other.noScoreReason = result.noScoreReason := by
  intro result other
  refine ⟨?_, ?_⟩
  · have listed (answers : List SameBrainAnswer) : (scoreRound round question answers playerCount).parts =
        ((labelsOf answers).map fun label => (playersOf answers label : Multiset Nat) : List (Multiset Nat)) := by
      have clusters : (scoreRound round question answers playerCount).clusters = clusterByExactMatch answers := rfl
      rw [SameBrainRoundResult.parts, clusters, clusterByExactMatch_eq, map_map]
      rfl
    rw [listed, listed]
    refine Multiset.coe_eq_coe.mpr (((labelsOf_perm same).map _).trans (List.Perm.of_eq ?_))
    exact map_congr_left fun label _ => Multiset.coe_eq_coe.mpr (playersOf_perm same label)
  · obtain ⟨label, leads, herd, odd, reason, points⟩ | ⟨none_, herd, odd, reason, points⟩ := scoreRound_spec round question answers playerCount
    · obtain ⟨label', leads', herd', odd', reason', points'⟩ | ⟨none', -⟩ := scoreRound_spec round question others playerCount
      · obtain rfl := leads'.unique (leads.perm same)
        have perm := playersOf_perm same label'
        refine ⟨?_, ?_, odd'.trans ((lonerOf_perm same).trans odd.symm), reason'.trans reason.symm⟩
        · rw [herd', herd]
          exact perm
        · rw [points', points, perm.length_eq]
      · exact absurd (leads.perm same) (none' label)
    · obtain ⟨label', leads', -⟩ | ⟨-, herd', odd', reason', points'⟩ := scoreRound_spec round question others playerCount
      · exact absurd (leads'.perm same.symm) (none_ label')
      · exact ⟨List.Perm.of_eq (herd'.trans herd.symm), points'.trans points.symm, odd'.trans odd.symm, reason'.trans reason.symm⟩

end MilkAndHenny.SameBrain

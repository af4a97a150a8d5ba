import MilkAndHenny.Scoring.Reversal

/-! The stored balances of participants beside the ledger that they project. A score is added to them as it is accepted;
a merge or a split has those of its event computed again. -/

namespace MilkAndHenny.Scoring
open Library

variable {other mergeId : String}

namespace Ledger
variable {ledger changed after : Ledger} {row : ScoreTransaction} {pools : ScorePools} {eventSlug participantId : String}

def Seats (ledger : Ledger) (participantId eventSlug : String) : Prop :=
  ∃ participant ∈ ledger.participants, participant.id = participantId ∧ participant.eventSlug = eventSlug

/-- The unreversed merges into participants that the path has not met yet bound the steps that are left to take. -/
theorem resolveFrom_enough {steps : Nat} {path : List String}
    (enough : (ledger.merges.countP fun merge => !merge.reversed && decide (merge.target ∉ path)) ≤ steps) :
    ledger.resolveFrom (steps + 1) path participantId = ledger.resolveFrom steps path participantId := by
  induction steps generalizing path participantId with
  | zero =>
    have none : ledger.merges.find? (fun merge => merge.source == participantId && !merge.reversed && decide (merge.target ∉ path)) = none := by
      refine find?_eq_none.mpr fun merge listed same => ?_
      have absent := countP_eq_zero.mp (Nat.le_zero.mp enough) merge listed
      simp only [and_eq_true] at same absent
      exact absent ⟨same.1.2, same.2⟩
    simp only [resolveFrom, none]
  | succ steps ih =>
    rw [resolveFrom]
    conv_rhs => rw [resolveFrom]
    split
    · rfl
    · next merge found =>
      have listed := mem_of_find?_eq_some found
      have holds := find?_some found
      simp only [and_eq_true, not_eq_true', decide_eq_true_eq] at holds
      have fewer := @countP_lt _ ledger.merges merge (fun other => !other.reversed && decide (other.target ∉ merge.target :: path))
        (fun other => !other.reversed && decide (other.target ∉ path)) (fun other _ => by simp +contextual) listed (by simp [holds]) (by simp)
      exact ih (by omega)

theorem resolveFrom_congr {inside : String → Prop} (closed : ∀ merge ∈ ledger.merges, inside merge.source → inside merge.target)
    (same : ∀ source, inside source → changed.merges.filter (·.source == source) = ledger.merges.filter (·.source == source))
    {steps : Nat} {path : List String} (start : inside participantId) :
    changed.resolveFrom steps path participantId = ledger.resolveFrom steps path participantId := by
  induction steps generalizing path participantId with
  | zero => rfl
  | succ steps ih =>
    have found (ledger : Ledger) :
        ledger.merges.find? (fun merge => merge.source == participantId && !merge.reversed && decide (merge.target ∉ path)) =
          (ledger.merges.filter (·.source == participantId)).find? fun merge => !merge.reversed && decide (merge.target ∉ path) := by
      rw [find?_filter]
      congr 1
      funext merge
      simp only [beq_eq_decide, Bool.and_assoc]
      simp
    rw [resolveFrom, resolveFrom, found, found, same participantId start, ← found]
    split
    · rfl
    · next merge first =>
      have mine := find?_some first
      simp only [and_eq_true, beq_iff_eq] at mine
      exact ih (closed merge (mem_of_find?_eq_some first) (mine.1.1 ▸ start))

theorem resolve_same (merges : changed.merges = ledger.merges) : changed.resolve participantId = ledger.resolve participantId := by
  unfold resolve
  rw [merges]
  exact @resolveFrom_congr _ _ _ (fun _ => True) (fun _ _ inside => inside) (fun _ _ => by rw [merges]) _ _ trivial

/-- What a row adds to a balance of the event. -/
def adds (ledger : Ledger) (eventSlug participantId : String) (row : ScoreTransaction) : Int :=
  if row.eventSlug = eventSlug ∧ row.status = .accepted then
    totalOf (ledger.resolve ∘ ScorePosting.participantId) ScorePosting.points row.postings participantId
  else 0

theorem acceptedBalance_eq (ledger : Ledger) (eventSlug participantId : String) :
    ledger.acceptedBalance eventSlug participantId = (ledger.transactions.map (ledger.adds eventSlug participantId)).sum := by
  unfold acceptedBalance
  induction ledger.transactions with
  | nil => rfl
  | cons row rows ih =>
    rw [map_cons, sum_cons, ← ih, adds]
    by_cases counts : row.eventSlug = eventSlug ∧ row.status = .accepted
    · rw [filter_cons_of_pos (by simp [counts]), map_cons, sum_cons, if_pos counts]
    · rw [filter_cons_of_neg (by simpa using counts), if_neg counts, zero_add]

theorem adds_congr (same : row.eventSlug = eventSlug → ∀ posting ∈ row.postings,
    changed.resolve posting.participantId = ledger.resolve posting.participantId) :
    changed.adds eventSlug participantId row = ledger.adds eventSlug participantId row := by
  unfold adds
  split
  · next counts =>
    refine congrArg List.sum (map_congr_left fun posting listed => ?_)
    simp [same counts.1 posting listed]
  · rfl

theorem acceptedBalance_congr (transactions : changed.transactions = ledger.transactions)
    (same : ∀ row ∈ ledger.transactions, row.eventSlug = eventSlug → ∀ posting ∈ row.postings,
      changed.resolve posting.participantId = ledger.resolve posting.participantId) :
    changed.acceptedBalance eventSlug participantId = ledger.acceptedBalance eventSlug participantId := by
  rw [acceptedBalance_eq, acceptedBalance_eq, transactions]
  exact congrArg List.sum (map_congr_left fun row listed => adds_congr (same row listed))

/-- The stored balances are those of the ledger, whose rows and merges are about participants of their events. -/
structure Projected (ledger : Ledger) : Prop extends Sound ledger where
  posted : ∀ row ∈ ledger.transactions, ∀ posting ∈ row.postings, ledger.Seats posting.participantId row.eventSlug
  joined : ∀ merge ∈ ledger.merges, ledger.Seats merge.source merge.eventSlug ∧ ledger.Seats merge.target merge.eventSlug
  mergeIds : (ledger.merges.map ParticipantMerge.id).Nodup
  balances : ∀ participant ∈ ledger.participants,
    ledger.balance participant.id = ledger.acceptedBalance participant.eventSlug participant.id

/-- As many rows as names, so each name has a row. -/
theorem Sound.row_of_rows (sound : ledger.Sound) {ids : List String} (all : (ledger.participantRows ids).length = ids.length)
    (listed : participantId ∈ ids) : ∃ participant ∈ ledger.participantRows ids, participant.id = participantId := by
  have inside : (ledger.participantRows ids).map ScoreParticipant.id ⊆ ids := by
    intro participantId mem
    obtain ⟨participant, row, rfl⟩ := mem_map.mp mem
    exact of_decide_eq_true (mem_filter.mp row).2
  have unique : ((ledger.participantRows ids).map ScoreParticipant.id).Nodup := sound.participants.sublist (filter_sublist.map _)
  have perm := (subperm_of_subset unique inside).perm_of_length_le (by rw [length_map]; exact all.ge)
  exact mem_map.mp (perm.mem_iff.mpr listed)

namespace Projected

/-- A merge has an id of its own. -/
def Fresh : Act → Ledger → Prop
  | .merge mergeId _, ledger => ∀ merge ∈ ledger.merges, merge.id ≠ mergeId
  | _, _ => True

variable (projected : ledger.Projected)
include projected

theorem event (seated : ledger.Seats participantId eventSlug)
    (again : ledger.Seats participantId other) : eventSlug = other := by
  obtain ⟨participant, mem, same, rfl⟩ := seated
  obtain ⟨found, listed, also, rfl⟩ := again
  rw [inj_on_of_nodup_map projected.participants mem listed (same.trans also.symm)]

/-- Postings to active participants of the event stay with them. -/
theorem adds_active (accepted : row.status = .accepted)
    (active : ∀ posting ∈ row.postings, ∃ participant ∈ ledger.participants, participant.id = posting.participantId ∧
      participant.eventSlug = row.eventSlug ∧ participant.status = .active)
    {participant : ScoreParticipant} (mem : participant ∈ ledger.participants) :
    ledger.adds participant.eventSlug participant.id row = pointsFor row.postings participant.id := by
  unfold adds
  by_cases event : row.eventSlug = participant.eventSlug
  · rw [if_pos ⟨event, accepted⟩]
    refine congrArg List.sum (map_congr_left fun posting listed => ?_)
    obtain ⟨scored, there, same, -, playing⟩ := active posting listed
    simp [← same, projected.resolve_active there playing]
  · rw [if_neg fun both => event both.1]
    refine (totalOf_absent fun posting listed mine => event ?_).symm
    obtain ⟨scored, there, same, seated, -⟩ := active posting listed
    exact projected.event ⟨scored, there, same.trans mine, seated⟩ ⟨participant, mem, rfl, rfl⟩

theorem inserted {stamp : Stamp} {input : RecordScoreInput} (eligible : ledger.ineligible input = none)
    (made : row = ledger.newTransaction stamp input row.status) (sound : (ledger.inserted pools row (row.status == .accepted)).Sound) :
    (ledger.inserted pools row (row.status == .accepted)).Projected := by
  have known : ledger.unknownParticipant input = none := by
    simp only [ineligible, orElse_eq_none] at eligible
    exact eligible.2.2.1
  have names : participantIds row.postings = participantIds input.postings := by
    rw [made]
    exact participantIds_newTransaction row.status
  have slug : row.eventSlug = input.eventSlug := congrArg ScoreTransaction.eventSlug made
  have active : ∀ posting ∈ row.postings, ∃ participant ∈ ledger.participants,
      participant.id = posting.participantId ∧ participant.eventSlug = row.eventSlug ∧ participant.status = .active := by
    intro posting listed
    have posted : posting.participantId ∈ participantIds input.postings := names ▸ mem_distinct.mpr (mem_map_of_mem listed)
    simp only [unknownParticipant, refuseWhen_eq_none, or_eq_false_iff, any_eq_false] at known
    obtain ⟨participant, scored, same⟩ := projected.row_of_rows (by simpa using known.1) posted
    have both := not_or.mp (mt or_eq_true_iff.mpr (known.2 participant scored))
    exact ⟨participant, (mem_filter.mp scored).1, same, by simpa [slug] using both.1, by simpa using both.2⟩
  refine { sound with posted := ?_, joined := projected.joined, mergeIds := projected.mergeIds, balances := ?_ }
  · intro other listed posting inside
    rcases mem_append.mp listed with earlier | new
    · exact projected.posted other earlier posting inside
    · cases mem_singleton.mp new
      obtain ⟨participant, there, same, seated, -⟩ := active posting inside
      exact ⟨participant, there, same, seated⟩
  · intro participant mem
    have before := projected.balances participant mem
    rw [acceptedBalance_eq] at before ⊢
    change _ = ((ledger.transactions ++ [row]).map _).sum
    have same (other : ScoreTransaction) : (ledger.inserted pools row (row.status == .accepted)).adds participant.eventSlug participant.id other =
        ledger.adds participant.eventSlug participant.id other := adds_congr fun _ _ _ => resolve_same rfl
    rw [map_congr_left fun other _ => same other, map_append, sum_append, map_singleton, sum_singleton, ← before]
    by_cases accepted : row.status = .accepted
    · rw [projected.adds_active accepted active mem, accepted]
      exact ledger.balance_inserted pools row participant.id
    · rw [beq_false_of_ne accepted, adds, if_neg fun both => accepted both.2, Int.add_zero]
      rfl

theorem settled {held : ScoreTransaction} (found : ledger.heldTransaction held.eventSlug held.id = some held)
    (allowed : ledger.heldRefusal held = none) (sound : (ledger.settled pools held).Sound) : (ledger.settled pools held).Projected := by
  have there := mem_of_find?_eq_some found
  have active : ∀ posting ∈ held.postings, ∃ participant ∈ ledger.participants,
      participant.id = posting.participantId ∧ participant.eventSlug = held.eventSlug ∧ participant.status = .active := by
    intro posting listed
    obtain ⟨participant, mem, same, seated⟩ := projected.posted held there posting listed
    simp only [heldRefusal, orElse_eq_none, refuseWhen_eq_none, or_eq_false_iff, any_eq_false] at allowed
    have playing := allowed.1.2 participant
      (mem_filter.mpr ⟨mem, decide_eq_true (same ▸ mem_distinct.mpr (mem_map_of_mem listed))⟩)
    exact ⟨participant, mem, same, seated, by simpa using playing⟩
  refine { sound with posted := ?_, joined := projected.joined, mergeIds := projected.mergeIds, balances := ?_ }
  · intro row listed posting inside
    obtain ⟨old, before, rfl⟩ := mem_update.mp listed
    split at inside
    · next chosen =>
      rw [if_pos chosen]
      exact projected.posted old before posting inside
    · next other =>
      rw [if_neg other]
      exact projected.posted old before posting inside
  · intro participant mem
    have before := projected.balances participant mem
    have only : ledger.transactions.find? (·.id == held.id) = some held := find?_key projected.transactions there
    have waiting := (heldTransaction_spec found).2.2
    rw [acceptedBalance_eq] at before ⊢
    have same (row : ScoreTransaction) : (ledger.settled pools held).adds participant.eventSlug participant.id row =
        ledger.adds participant.eventSlug participant.id row := adds_congr fun _ _ _ => resolve_same rfl
    change _ = ((update ledger.transactions (·.id == held.id) _).map _).sum
    have none : ledger.adds participant.eventSlug participant.id held = 0 := if_neg fun both => by simp [waiting] at both
    have whole : ledger.adds participant.eventSlug participant.id { held with status := .accepted } = pointsFor held.postings participant.id :=
      @adds_active ledger { held with status := .accepted } projected rfl active participant mem
    rw [map_congr_left fun row _ => same row, ← updateFirst_eq_update projected.transactions, sum_updateFirst _ only, none, whole, ← before,
      Int.sub_zero]
    exact ledger.balance_settled pools held participant.id

theorem others {settings : List ScoringSettings} {teams : List ScoreTeam} {memberships : List ScoreTeamMembership}
    (sound : { ledger with settings, teams, memberships : Ledger }.Sound) : { ledger with settings, teams, memberships : Ledger }.Projected :=
  { sound with
    posted := projected.posted
    joined := projected.joined
    mergeIds := projected.mergeIds
    balances := fun participant mem =>
      (projected.balances participant mem).trans (acceptedBalance_congr rfl fun _ _ _ _ _ => resolve_same rfl) }

/-- All balances of one event are computed again, and the participants of the others are followed as before. -/
theorem rebuilt {source : String} {status : ParticipantStatus} (sound : (changed.rebuildMergedProjections eventSlug).Sound)
    (participants : changed.participants = (ledger.setStatus source status).participants) (transactions : changed.transactions = ledger.transactions)
    (projections : changed.projections = ledger.projections)
    (joined : ∀ merge ∈ changed.merges, ledger.Seats merge.source merge.eventSlug ∧ ledger.Seats merge.target merge.eventSlug)
    (mergeIds : (changed.merges.map ParticipantMerge.id).Nodup)
    (elsewhere : ∀ other, other ≠ eventSlug → ∀ participantId, ledger.Seats participantId other → changed.resolve participantId = ledger.resolve participantId) :
    (changed.rebuildMergedProjections eventSlug).Projected := by
  have seats {participantId slug : String} (seated : ledger.Seats participantId slug) : changed.Seats participantId slug := by
    obtain ⟨participant, mem, same, event⟩ := seated
    have listed : (if participant.id == source then { participant with status } else participant) ∈ changed.participants := by
      rw [participants]
      exact mem_update.mpr ⟨participant, mem, rfl⟩
    refine ⟨_, listed, ?_⟩
    split <;> exact ⟨same, event⟩
  refine { sound with posted := ?_, joined := fun merge listed => (joined merge listed).imp seats seats, mergeIds := mergeIds, balances := ?_ }
  · intro row listed posting inside
    exact seats (projected.posted row (transactions ▸ listed) posting inside)
  · intro participant mem
    have unique : (((changed.participants.filter (·.eventSlug == eventSlug)).map fun participant =>
        (participant.id, changed.acceptedBalance eventSlug participant.id)).map Prod.fst).Nodup := by
      rw [map_map]
      exact sound.participants.sublist (filter_sublist.map _)
    have same : (changed.rebuildMergedProjections eventSlug).acceptedBalance participant.eventSlug participant.id =
        changed.acceptedBalance participant.eventSlug participant.id := acceptedBalance_congr rfl fun _ _ _ _ _ => resolve_same rfl
    rw [same]
    refine (balanceOf_overwritten ..).trans ?_
    by_cases mine : participant.eventSlug = eventSlug
    · have found := lookup_key unique (mem_map_of_mem (mem_filter.mpr ⟨mem, beq_iff_eq.mpr mine⟩))
      rw [found, mine]
      rfl
    · have none : ((changed.participants.filter (·.eventSlug == eventSlug)).map fun participant =>
          (participant.id, changed.acceptedBalance eventSlug participant.id)).lookup participant.id = none := by
        refine List.lookup_eq_none_iff.mpr fun row listed => ?_
        obtain ⟨other, inside, rfl⟩ := mem_map.mp listed
        obtain ⟨there, event⟩ := mem_filter.mp inside
        have apart : other ≠ participant := fun same => mine (same ▸ eq_of_beq event)
        exact bne_iff_ne.mpr fun same => apart (inj_on_of_nodup_map sound.participants there mem same.symm)
      obtain ⟨old, before, same⟩ := mem_update.mp (participants ▸ mem)
      have kept : participant.id = old.id ∧ participant.eventSlug = old.eventSlug := by
        rw [same]
        split <;> exact ⟨rfl, rfl⟩
      rw [none, getD_none, projections, kept.1, kept.2]
      refine (projected.balances old before).trans (acceptedBalance_congr transactions fun row listed event posting inside => ?_).symm
      exact elsewhere old.eventSlug (kept.2 ▸ mine) posting.participantId (event ▸ projected.posted row listed posting inside)

/-- The merges of one event leave alone whom the participants of the others have become. -/
theorem follows {steps : Nat} {path : List String} (seated : ledger.Seats participantId other)
    (same : ∀ source, ledger.Seats source other → changed.merges.filter (·.source == source) = ledger.merges.filter (·.source == source)) :
    changed.resolveFrom steps path participantId = ledger.resolveFrom steps path participantId := by
  refine resolveFrom_congr (fun merge listed source => ?_) same seated
  obtain ⟨left, right⟩ := projected.joined merge listed
  exact projected.event left source ▸ right

theorem merge {input : MergeParticipantsInput} (fresh : Fresh (.merge mergeId input) ledger)
    (done : ledger.mergeParticipants mergeId input = .ok after) (sound : after.Sound) : after.Projected := by
  obtain ⟨-, both, -, -⟩ := mergeParticipants_ok done
  have seated {participantId : String} (listed : participantId ∈ [input.sourceParticipantId, input.targetParticipantId])
      (events : ∀ row ∈ ledger.participantRows [input.sourceParticipantId, input.targetParticipantId], row.eventSlug = input.eventSlug) :
      ledger.Seats participantId input.eventSlug := by
    obtain ⟨participant, row, same⟩ := projected.row_of_rows both listed
    exact ⟨participant, (mem_filter.mp row).1, same, events participant row⟩
  unfold mergeParticipants at done
  dsimp only at done
  split at done
  · cases done
  · split at done
    · cases done
    · split at done
      · cases done
      · next known =>
        have events : ∀ row ∈ ledger.participantRows [input.sourceParticipantId, input.targetParticipantId], row.eventSlug = input.eventSlug := by
          simpa using (not_or.mp known).2
        split at done
        · cases done
        · cases done
          refine projected.rebuilt sound rfl rfl rfl ?_ ?_ fun other away participantId there => ?_
          · intro merge listed
            rcases mem_append.mp listed with earlier | new
            · exact projected.joined merge earlier
            · cases mem_singleton.mp new
              exact ⟨seated (by simp) events, seated (by simp) events⟩
          · change ((ledger.merges ++ [_]).map _).Nodup
            rw [map_append, map_singleton]
            refine nodup_append.mpr ⟨projected.mergeIds, nodup_singleton _, fun other listed single new same => ?_⟩
            obtain ⟨merge, mem, rfl⟩ := mem_map.mp listed
            exact fresh merge mem (same.trans (mem_singleton.mp new))
          · refine (projected.follows there fun source inside => ?_).trans ?_
            · have elsewhere : input.sourceParticipantId ≠ source := fun same => away (projected.event inside (same ▸ seated (by simp) events))
              change (ledger.merges ++ [_]).filter _ = _
              rw [filter_append, filter_cons_of_neg (by simpa using elsewhere), List.filter_nil, append_nil]
            · exact (congrArg (ledger.resolveFrom · _ _) length_append).trans (resolveFrom_enough List.countP_le_length)

theorem split {reason : String} (done : ledger.reverseParticipantMerge mergeId reason = .ok after)
    (sound : after.Sound) : after.Projected := by
  unfold reverseParticipantMerge at done
  split at done
  · cases done
  · split at done
    · cases done
    · next merge found =>
      have mine := eq_of_beq (@find?_some _ (fun merge : ParticipantMerge => merge.id == mergeId) _ _ found)
      have there := mem_of_find?_eq_some found
      split at done
      · cases done
      · cases done
        refine projected.rebuilt sound rfl rfl rfl ?_ (nodup_update (fun _ => rfl) projected.mergeIds) fun other away participantId seated => ?_
        · intro merge listed
          obtain ⟨old, before, rfl⟩ := mem_update.mp listed
          split <;> exact projected.joined old before
        · refine (projected.follows seated fun source inside => ?_).trans (congrArg (ledger.resolveFrom · _ _) (length_map _))
          change (update ledger.merges (·.id == mergeId) _).filter _ = _
          rw [filter_update_kept (by exact fun _ => rfl)]
          refine update_absent fun row listed => ?_
          obtain ⟨mem, same⟩ := mem_filter.mp listed
          refine beq_false_of_ne fun again => away (projected.event inside ?_)
          rw [← eq_of_beq same, inj_on_of_nodup_map projected.mergeIds mem there (again.trans mine.symm)]
          exact (projected.joined merge there).1

theorem next {act : Act} (fresh : Fresh act ledger) : (Scoring.next act ledger).Projected := by
  have sound := projected.toSound.next act
  rcases next_cases act ledger with same | done
  · rwa [same]
  · generalize Scoring.next act ledger = after at done sound ⊢
    have recorded {row : ScoreTransaction} {input : RecordScoreInput} {stamp : Stamp}
        (made : ledger.recordScoreInTransaction stamp input = .ok (row, after)) : after.Projected := by
      obtain ⟨-, rfl⟩ | ⟨pools, status, -, eligible, -, -, -, rfl⟩ := recorded_cases made
      · exact projected
      · exact projected.inserted eligible rfl sound
    cases act with
    | record =>
      obtain ⟨⟨row, after⟩, made, rfl⟩ := map_ok.mp done
      exact recorded (recordScore_ok.mp made)
    | reverse =>
      obtain ⟨⟨row, after⟩, made, rfl⟩ := map_ok.mp done
      obtain ⟨original, -, -, -, made⟩ := reverseScore_ok.mp made
      exact recorded made
    | accept =>
      obtain ⟨⟨row, after⟩, made, rfl⟩ := map_ok.mp done
      obtain ⟨-, held, pools, found, allowed, -, -, rfl⟩ := acceptHeldScore_ok.mp made
      obtain ⟨rfl, rfl, -⟩ := heldTransaction_spec found
      exact projected.settled found allowed sound
    | changeState =>
      cases done
      exact projected.others sound
    | assign =>
      rw [setTeamMembership_frame done] at sound ⊢
      exact projected.others sound
    | shuffle =>
      rw [shuffleCheckedInTeams_frame done] at sound ⊢
      exact projected.others sound
    | merge => exact projected.merge fresh done sound
    | split => exact projected.split done sound

end Projected

end Ledger

/-- However scores are recorded, held, accepted and reversed, participants merged and split, and teams changed: the
stored balance of a participant is what the accepted scores of the event give to all who have become that participant. -/
theorem balances_projected (start : Ledger) (projected : start.Projected) (acts : List Act) (fresh : EachStep next Ledger.Projected.Fresh start acts) :
    Throughout next (fun ledger => ∀ participant ∈ ledger.participants,
      ledger.balance participant.id = ledger.acceptedBalance participant.eventSlug participant.id) start acts :=
  (@EachStep.shows _ _ next _ Ledger.Projected (fun _ _ => True) (fun projected fresh => ⟨projected.next fresh, trivial⟩) start acts projected fresh).1.imp
    fun _ projected => projected.balances

def couple : Ledger := { gala with participants := [⟨"ann", "gala", none, none, .active, true⟩, ⟨"anna", "gala", none, none, .active, true⟩] }

theorem couple_projected : couple.Projected where
  transactions := nodup_nil
  reversed _ := Nat.zero_le 1
  participants := by decide
  sources := nodup_nil
  merged _ no := by cases no
  posted _ no := by cases no
  joined _ no := by cases no
  mergeIds := nodup_nil
  balances _ _ := rfl

theorem balances_projected_couple : Throughout next (fun ledger => ∀ participant ∈ ledger.participants,
    ledger.balance participant.id = ledger.acceptedBalance participant.eventSlug participant.id) couple
      [award, .merge "merge_ann" ⟨"gala", "ann", "anna", "One person", ["photo"]⟩, .split "merge_ann" "Two people"] :=
  balances_projected couple couple_projected _ (by exact ⟨trivial, nofun, trivial, trivial⟩)

end MilkAndHenny.Scoring

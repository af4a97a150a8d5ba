import MilkAndHenny.Library.Machine
import MilkAndHenny.Scoring.Teams

/-! Reversals. The world may have moved on since the original was recorded: other scores, teams that were
changed or shuffled, participants that were merged. -/

namespace MilkAndHenny.Scoring

open Library

variable {original eventSlug transactionId : String} {act : Act} {mergeId : String}

inductive Act
  | record (stamp : Stamp) (input : RecordScoreInput)
  | accept (eventSlug transactionId : String)
  | reverse (stamp : Stamp) (eventSlug originalTransactionId : String) (input : RecordScoreInput)
  | changeState (eventSlug : String) (state : ScoringState)
  | assign (now : Int) (input : SetTeamMembershipInput)
  | shuffle (now : Int) (input : ShuffleInput)
  | merge (mergeId : String) (input : MergeParticipantsInput)
  | split (mergeId reason : String)

def Act.perform (act : Act) (ledger : Ledger) : Except Failure Ledger :=
  match act with
  | .record stamp input => (ledger.recordScore stamp input).map Prod.snd
  | .accept eventSlug transactionId => (ledger.acceptHeldScore eventSlug transactionId).map Prod.snd
  | .reverse stamp eventSlug originalTransactionId input => (ledger.reverseScore stamp eventSlug originalTransactionId input).map Prod.snd
  | .changeState eventSlug state => .ok (ledger.changeScoringState eventSlug state)
  | .assign now input => ledger.setTeamMembership now input
  | .shuffle now input => ledger.shuffleCheckedInTeams now input
  | .merge mergeId input => ledger.mergeParticipants mergeId input
  | .split mergeId reason => ledger.reverseParticipantMerge mergeId reason

def Act.key : Act → Option String
  | .record _ input | .reverse _ _ _ input => some input.idempotencyKey
  | _ => none

/-- An act that fails changes nothing. -/
def next (act : Act) (ledger : Ledger) : Ledger := (act.perform ledger).toOption.getD ledger

namespace Ledger

def reversals (ledger : Ledger) (originalTransactionId : String) : Nat :=
  ledger.transactions.countP fun row => row.sourceType == .reversal && row.originalTransactionId == some originalTransactionId

/-- The keys of the tables, and what a merge says of the participant it started from. -/
structure Sound (ledger : Ledger) : Prop where
  transactions : (ledger.transactions.map ScoreTransaction.id).Nodup
  reversed : ∀ originalTransactionId, ledger.reversals originalTransactionId ≤ 1
  participants : (ledger.participants.map ScoreParticipant.id).Nodup
  sources : ((ledger.merges.filter fun merge => !merge.reversed).map ParticipantMerge.source).Nodup
  merged : ∀ merge ∈ ledger.merges, merge.reversed = false → ∀ participant ∈ ledger.participants, participant.id = merge.source →
    participant.status ≠ .active

def settled (ledger : Ledger) (pools : ScorePools) (held : ScoreTransaction) : Ledger :=
  { ledger with
    pools := pools
    transactions := update ledger.transactions (·.id == held.id) fun row => { row with status := .accepted }
    projections := creditAll ScorePosting.participantId ScorePosting.points ledger.projections held.postings }

def teamNow (ledger : Ledger) (eventSlug : String) (now : Int) (posting : ScorePosting) : Option String :=
  ledger.currentTeam posting.participantId eventSlug now <|> posting.teamId

/-- As many points of the original have since moved to each team of the leaderboard as have moved away from it. -/
def Level (ledger : Ledger) (now : Int) (original : ScoreTransaction) : Prop :=
  ∀ team ∈ ledger.teams, team.eventSlug = original.eventSlug → team.active →
    let moved := original.postings.filter fun posting => ledger.teamNow original.eventSlug now posting ≠ posting.teamId
    totalOf (ledger.teamNow original.eventSlug now) ScorePosting.points moved (some team.id) =
      totalOf ScorePosting.teamId ScorePosting.points moved (some team.id)

end Ledger

section

variable {ledger after : Ledger} {stamp : Stamp} {input : RecordScoreInput} {row : ScoreTransaction} {key : Option String}

namespace Ledger

theorem violation_reversal (free : ledger.violation row = none) (kind : row.sourceType = .reversal)
    (named : row.originalTransactionId = some original) : ledger.reversals original = 0 := by
  refine countP_eq_zero.mpr fun other mem same => ?_
  have taken : (ledger.transactions.any fun other => other.sourceType == .reversal && other.originalTransactionId == row.originalTransactionId) = true :=
    any_eq_true.mpr ⟨other, mem, by simp [same, named]⟩
  have ids : ledger.transactions.any (·.id == row.id) = false := by
    rw [any_eq_false]
    exact by simpa using new_id free
  have violated : ledger.violation row = some .reversal := by
    unfold violation
    rw [if_neg (by simp [ids]), if_neg (by simp [kind]), if_pos (by rw [kind, named, isSome_some] at *; exact taken)]
  cases violated.symm.trans free

theorem recorded_cases (done : ledger.recordScoreInTransaction stamp input = .ok (row, after)) :
    (ledger.existingTransaction input.eventSlug input.idempotencyKey = some row ∧ after = ledger) ∨
      ∃ pools status, ledger.existingTransaction input.eventSlug input.idempotencyKey = none ∧ ledger.ineligible input = none ∧
        status = requestedStatus (ledger.lockSettings input.eventSlug).state input ∧
        ledger.violation (ledger.newTransaction stamp input status) = none ∧
        row = { ledger.newTransaction stamp input status with postings := input.postings } ∧
        after = ledger.inserted pools (ledger.newTransaction stamp input status) (status == .accepted) := by
  obtain ⟨-, -, old | ⟨new, -, eligible, inserted⟩⟩ := recordScoreInTransaction_ok.mp done
  · exact .inl old
  · obtain ⟨pools, -, free, same, rfl⟩ := insertTransaction_ok.mp inserted
    exact .inr ⟨pools, _, new, eligible, rfl, free, same, rfl⟩

inductive Booked (ledger : Ledger) (key : Option String) : Ledger → Prop
  | kept {after : Ledger} (same : after.transactions = ledger.transactions) : Booked ledger key after
  | inserted (pools : ScorePools) (row : ScoreTransaction) (free : ledger.violation row = none) (keyed : key = some row.idempotencyKey) :
    Booked ledger key (ledger.inserted pools row (row.status == .accepted))
  | settled (pools : ScorePools) (held : ScoreTransaction) (found : ledger.heldTransaction held.eventSlug held.id = some held) :
    Booked ledger key (ledger.settled pools held)

theorem heldTransaction_spec (found : ledger.heldTransaction eventSlug transactionId = some row) :
    row.id = transactionId ∧ row.eventSlug = eventSlug ∧ row.status = .held := by
  have holds := find?_some found
  simp only [and_eq_true, beq_iff_eq] at holds
  exact ⟨holds.1.1, holds.1.2, holds.2⟩

end Ledger

theorem perform_books (done : act.perform ledger = .ok after) : ledger.Booked act.key after := by
  have recorded {row : ScoreTransaction} {input : RecordScoreInput} {stamp : Stamp} (keyed : act.key = some input.idempotencyKey)
      (done : ledger.recordScoreInTransaction stamp input = .ok (row, after)) : ledger.Booked act.key after := by
    obtain ⟨-, rfl⟩ | ⟨pools, status, -, -, -, free, -, rfl⟩ := Ledger.recorded_cases done
    · exact .kept rfl
    · exact .inserted pools _ free keyed
  cases act with
  | record =>
    obtain ⟨⟨row, after⟩, made, rfl⟩ := Ledger.map_ok.mp done
    exact recorded rfl (Ledger.recordScore_ok.mp made)
  | reverse =>
    obtain ⟨⟨row, after⟩, made, rfl⟩ := Ledger.map_ok.mp done
    obtain ⟨original, -, -, -, made⟩ := Ledger.reverseScore_ok.mp made
    exact recorded (by rfl) made
  | accept =>
    obtain ⟨⟨row, after⟩, made, rfl⟩ := Ledger.map_ok.mp done
    obtain ⟨-, held, pools, found, -, -, -, rfl⟩ := Ledger.acceptHeldScore_ok.mp made
    obtain ⟨rfl, rfl, -⟩ := Ledger.heldTransaction_spec found
    exact .settled pools held found
  | changeState =>
    cases done
    exact .kept rfl
  | assign => exact .kept (congrArg Ledger.transactions (Ledger.setTeamMembership_frame done) :)
  | shuffle => exact .kept (congrArg Ledger.transactions (Ledger.shuffleCheckedInTeams_frame done) :)
  | merge =>
    obtain ⟨-, -, -, same⟩ := Ledger.mergeParticipants_ok done
    exact .kept (congrArg Ledger.transactions same :)
  | split =>
    obtain ⟨_, -, -, -, same⟩ := Ledger.reverseParticipantMerge_ok done
    exact .kept (congrArg Ledger.transactions same :)

theorem next_cases (act : Act) (ledger : Ledger) : next act ledger = ledger ∨ act.perform ledger = .ok (next act ledger) := by
  unfold next
  cases act.perform ledger with
  | error => exact .inl rfl
  | ok => exact .inr rfl

theorem next_books (act : Act) (ledger : Ledger) : ledger.Booked act.key (next act ledger) := by
  rcases next_cases act ledger with same | done
  · rw [same]
    exact .kept rfl
  · exact perform_books done

namespace Ledger.Booked

theorem keeps (booked : ledger.Booked key after) (found : ledger.transactionOf transactionId eventSlug = some row)
    (accepted : row.status = .accepted) : after.transactionOf transactionId eventSlug = some row := by
  cases booked with
  | kept same => exact (congrArg (List.find? _) same).trans found
  | inserted => exact (find?_append ..).trans (by rw [show ledger.transactions.find? _ = some row from found]; rfl)
  | settled pools held =>
    have changed := @find?_update _ ledger.transactions (·.id == held.id) (fun row => { row with status := .accepted })
      (fun row => row.id == transactionId && row.eventSlug == eventSlug) fun _ _ => rfl
    refine changed.trans ?_
    rw [show ledger.transactions.find? _ = some row from found, map_some, ← accepted]
    split <;> rfl

theorem ids (booked : ledger.Booked key after) (unique : (ledger.transactions.map ScoreTransaction.id).Nodup) :
    (after.transactions.map ScoreTransaction.id).Nodup := by
  cases booked with
  | kept same => rwa [same]
  | inserted pools row free =>
    change ((ledger.transactions ++ [row]).map ScoreTransaction.id).Nodup
    rw [map_append, map_singleton]
    refine nodup_append.mpr ⟨unique, nodup_singleton _, fun transactionId mem other single same => ?_⟩
    obtain ⟨other, inside, rfl⟩ := mem_map.mp mem
    exact new_id free other inside (same.trans (mem_singleton.mp single))
  | settled => exact nodup_update (fun _ => rfl) unique

theorem reversed (booked : ledger.Booked key after) (most : ledger.reversals original ≤ 1) : after.reversals original ≤ 1 := by
  cases booked with
  | kept same =>
    unfold reversals at most ⊢
    rwa [same]
  | inserted pools row free =>
    change (ledger.transactions ++ [row]).countP _ ≤ 1
    rw [countP_append, countP_singleton]
    split
    · next kind =>
      simp only [and_eq_true, beq_iff_eq] at kind
      have none := violation_reversal free kind.1 kind.2
      unfold reversals at none
      rw [none]
    · exact most
  | settled pools held =>
    have same : (update ledger.transactions (·.id == held.id) fun row => { row with status := ScoreTransactionStatus.accepted }).countP
        (fun row => row.sourceType == .reversal && row.originalTransactionId == some original) = ledger.reversals original := by
      unfold update reversals
      rw [countP_map]
      congr 1
      funext row
      simp only [Function.comp_apply]
      split <;> rfl
    exact same.le.trans most

end Ledger.Booked

namespace Ledger.Sound

variable (sound : ledger.Sound)
include sound

theorem mergeable {source target : String} (both : (ledger.participantRows [source, target]).length = 2)
    (active : ∀ row ∈ ledger.participantRows [source, target], row.status = .active) :
    source ∉ (ledger.merges.filter fun merge => !merge.reversed).map ParticipantMerge.source := by
  obtain ⟨row, mem, mine⟩ : ∃ row ∈ ledger.participants, row.id = source := by
    by_contra absent
    push Not at absent
    have alone : ledger.participantRows [source, target] = ledger.participants.filter (·.id == target) := by
      refine filter_congr fun row mem => ?_
      simp [absent row mem, beq_eq_decide]
    have most := countP_key_le_one sound.participants target
    rw [countP_eq_length_filter, ← alone, both] at most
    omega
  intro listed
  obtain ⟨merge, inside, same⟩ := mem_map.mp listed
  obtain ⟨member', lasting⟩ := mem_filter.mp inside
  refine sound.merged merge member' (by simpa using lasting) row mem (mine.trans same.symm) (active row ?_)
  exact mem_filter.mpr ⟨mem, by simp [mine]⟩

theorem merge (books : ledger.Booked key after) {input : MergeParticipantsInput}
    (done : ledger.mergeParticipants mergeId input = .ok after) : after.Sound := by
  obtain ⟨-, both, active, same⟩ := mergeParticipants_ok done
  have participants : after.participants = (ledger.setStatus input.sourceParticipantId .merged).participants := by rw [same]
  have merges : after.merges = ledger.merges ++ [⟨mergeId, input.eventSlug, input.sourceParticipantId, input.targetParticipantId, false⟩] := by rw [same]
  refine ⟨books.ids sound.transactions, fun _ => books.reversed (sound.reversed _), ?_, ?_, ?_⟩
  · rw [participants]
    exact nodup_update (fun _ => rfl) sound.participants
  · rw [merges, filter_append, map_append]
    refine nodup_append.mpr ⟨sound.sources, nodup_singleton _, fun source listed other single same => ?_⟩
    have new := sound.mergeable both active
    rw [show other = input.sourceParticipantId from mem_singleton.mp single] at same
    exact new (same ▸ listed)
  · rw [participants, merges]
    intro merge listed lasting participant mem mine
    obtain ⟨old, inside, rfl⟩ := mem_update.mp mem
    by_cases moved : old.id == input.sourceParticipantId
    · rw [if_pos moved]
      simp
    · rw [if_neg moved] at mine ⊢
      rcases mem_append.mp listed with earlier | new
      · exact sound.merged merge earlier lasting old inside mine
      · cases mem_singleton.mp new
        exact absurd (beq_iff_eq.mpr mine) moved

theorem split (books : ledger.Booked key after) {reason : String}
    (done : ledger.reverseParticipantMerge mergeId reason = .ok after) : after.Sound := by
  obtain ⟨merge, listed, rfl, lasting, same⟩ := reverseParticipantMerge_ok done
  have participants : after.participants = (ledger.setStatus merge.source .active).participants := by rw [same]
  have merges : after.merges = update ledger.merges (·.id == merge.id) fun merge => { merge with reversed := true } := by rw [same]
  have fewer : (after.merges.filter fun merge => !merge.reversed) = (ledger.merges.filter fun merge => !merge.reversed).filter fun other => other.id != merge.id := by
    rw [merges, filter_update_dropped fun _ => rfl]
    rfl
  refine ⟨books.ids sound.transactions, fun _ => books.reversed (sound.reversed _), ?_, ?_, ?_⟩
  · rw [participants]
    exact nodup_update (fun _ => rfl) sound.participants
  · rw [fewer]
    exact sound.sources.sublist (filter_sublist.map _)
  · intro other mem open' participant inside mine
    have kept : other ∈ (ledger.merges.filter fun merge => !merge.reversed).filter fun other => other.id != merge.id := by
      rw [← fewer]
      exact mem_filter.mpr ⟨mem, by simp [open']⟩
    obtain ⟨earlier, apart⟩ := mem_filter.mp kept
    have elsewhere : other.source ≠ merge.source := fun same => by
      have one := inj_on_of_nodup_map sound.sources earlier (mem_filter.mpr ⟨listed, by simp [lasting]⟩) same
      simp [one] at apart
    rw [participants] at inside
    obtain ⟨old, before, rfl⟩ := mem_update.mp inside
    by_cases moved : old.id == merge.source
    · rw [if_pos moved] at mine
      exact absurd (mine.symm.trans (eq_of_beq moved)) elsewhere
    · rw [if_neg moved] at mine ⊢
      exact sound.merged other (mem_filter.mp earlier).1 open' old before mine

theorem others (books : ledger.Booked key after) (participants : after.participants = ledger.participants)
    (merges : after.merges = ledger.merges) : after.Sound where
  transactions := books.ids sound.transactions
  reversed original := books.reversed (sound.reversed original)
  participants := participants ▸ sound.participants
  sources := merges ▸ sound.sources
  merged := by
    rw [participants, merges]
    exact sound.merged

theorem perform (done : act.perform ledger = .ok after) : after.Sound := by
  have books := perform_books done
  have recorded {row : ScoreTransaction} {input : RecordScoreInput} {stamp : Stamp}
      (made : ledger.recordScoreInTransaction stamp input = .ok (row, after)) : after.Sound := by
    obtain ⟨-, rfl⟩ | ⟨pools, status, -, -, -, -, -, rfl⟩ := recorded_cases made
    · exact sound
    · exact sound.others books rfl rfl
  cases act with
  | record =>
    obtain ⟨⟨row, after⟩, made, rfl⟩ := map_ok.mp done
    exact recorded (recordScore_ok.mp made)
  | reverse =>
    obtain ⟨⟨row, after⟩, made, rfl⟩ := map_ok.mp done
    obtain ⟨original, -, -, -, made⟩ := reverseScore_ok.mp made
    exact recorded made
  | accept =>
    obtain ⟨⟨row, after⟩, made, rfl⟩ := map_ok.mp done
    obtain ⟨-, held, pools, -, -, -, -, rfl⟩ := acceptHeldScore_ok.mp made
    exact sound.others books rfl rfl
  | changeState =>
    cases done
    exact sound.others books rfl rfl
  | assign =>
    have frame := setTeamMembership_frame done
    exact sound.others books (congrArg Ledger.participants frame :) (congrArg Ledger.merges frame :)
  | shuffle =>
    have frame := shuffleCheckedInTeams_frame done
    exact sound.others books (congrArg Ledger.participants frame :) (congrArg Ledger.merges frame :)
  | merge => exact sound.merge books done
  | split => exact sound.split books done

theorem next (act : Act) : (Scoring.next act ledger).Sound := by
  rcases next_cases act ledger with same | done
  · rwa [same]
  · exact sound.perform done

end Ledger.Sound

namespace Ledger

theorem teamPoints_eq (ledger : Ledger) (teamId : String) : ledger.teamPoints teamId =
    (ledger.transactions.map fun row => if row.status = .accepted then totalOf ScorePosting.teamId ScorePosting.points row.postings (some teamId) else 0).sum := by
  unfold teamPoints
  induction ledger.transactions with
  | nil => rfl
  | cons row rows ih =>
    by_cases accepted : row.status = .accepted
    · rw [filter_cons_of_pos (by simp [accepted]), map_cons, map_cons, sum_cons, sum_cons, if_pos accepted, ih]
    · rw [filter_cons_of_neg (by simp [accepted]), map_cons, sum_cons, if_neg accepted, zero_add, ih]

theorem teamPoints_inserted (ledger : Ledger) (pools : ScorePools) (row : ScoreTransaction) (projected : Bool) (teamId : String) :
    (ledger.inserted pools row projected).teamPoints teamId =
      ledger.teamPoints teamId + if row.status = .accepted then totalOf ScorePosting.teamId ScorePosting.points row.postings (some teamId) else 0 := by
  rw [teamPoints_eq, teamPoints_eq]
  change ((ledger.transactions ++ [row]).map _).sum = _
  rw [map_append, sum_append, map_singleton, sum_singleton]

theorem teamPoints_settled (ledger : Ledger) (pools : ScorePools) {held : ScoreTransaction}
    (unique : (ledger.transactions.map ScoreTransaction.id).Nodup) (found : ledger.heldTransaction held.eventSlug held.id = some held) (teamId : String) :
    (ledger.settled pools held).teamPoints teamId =
      ledger.teamPoints teamId + totalOf ScorePosting.teamId ScorePosting.points held.postings (some teamId) := by
  have only : ledger.transactions.find? (·.id == held.id) = some held := find?_key unique (mem_of_find?_eq_some found)
  have waiting := (heldTransaction_spec found).2.2
  rw [teamPoints_eq, teamPoints_eq]
  change ((update ledger.transactions (·.id == held.id) _).map _).sum = _
  rw [← updateFirst_eq_update unique, sum_updateFirst _ only, if_neg (by simp [waiting]), if_pos rfl]
  dsimp only
  omega

theorem balance_inserted (ledger : Ledger) (pools : ScorePools) (row : ScoreTransaction) (participantId : String) :
    (ledger.inserted pools row true).balance participantId = ledger.balance participantId + pointsFor row.postings participantId :=
  balanceOf_creditAll ..

theorem balance_settled (ledger : Ledger) (pools : ScorePools) (held : ScoreTransaction) (participantId : String) :
    (ledger.settled pools held).balance participantId = ledger.balance participantId + pointsFor held.postings participantId :=
  balanceOf_creditAll ..

theorem Booked.adds (booked : ledger.Booked key after) (unique : (ledger.transactions.map ScoreTransaction.id).Nodup)
    (found : after.transactionOf row.id row.eventSlug = some row) (accepted : row.status = .accepted)
    (new : ∀ old ∈ ledger.transactionOf row.id row.eventSlug, old.status ≠ .accepted) :
    (∀ participantId, after.balance participantId = ledger.balance participantId + pointsFor row.postings participantId) ∧
      ∀ teamId, after.teamPoints teamId = ledger.teamPoints teamId + totalOf ScorePosting.teamId ScorePosting.points row.postings (some teamId) := by
  cases booked with
  | kept same =>
    unfold transactionOf at found new
    rw [same] at found
    exact absurd accepted (new row found)
  | inserted pools other =>
    have mine : other = row := by
      have appended : (ledger.transactions ++ [other]).find? (fun old => old.id == row.id && old.eventSlug == row.eventSlug) = some row := found
      rw [find?_append] at appended
      cases earlier : ledger.transactions.find? fun old => old.id == row.id && old.eventSlug == row.eventSlug with
      | some old =>
        rw [earlier] at appended
        obtain rfl := some.inj appended
        exact absurd accepted (new old earlier)
      | none =>
        rw [earlier, none_or] at appended
        exact (mem_singleton.mp (mem_of_find?_eq_some appended)).symm
    subst mine
    rw [accepted]
    exact ⟨ledger.balance_inserted pools other, fun teamId => by rw [teamPoints_inserted, if_pos accepted]⟩
  | settled pools held waiting =>
    have same : held.postings = row.postings := by
      have changed := @find?_update _ ledger.transactions (·.id == held.id) (fun row => { row with status := .accepted })
        (fun old => old.id == row.id && old.eventSlug == row.eventSlug) fun _ _ => rfl
      obtain ⟨old, earlier, made⟩ := map_eq_some_iff.mp (changed.symm.trans found)
      by_cases chosen : old.id == held.id
      · rw [if_pos chosen] at made
        have one := inj_on_of_nodup_map unique (mem_of_find?_eq_some earlier) (mem_of_find?_eq_some waiting) (eq_of_beq chosen)
        rw [← made, one]
      · rw [if_neg chosen] at made
        exact absurd (made ▸ accepted) (new old earlier)
    rw [← same]
    exact ⟨ledger.balance_settled pools held, ledger.teamPoints_settled pools unique waiting⟩

end Ledger

namespace Ledger
variable {eventSlug : String}

theorem Sound.resolve_active (sound : ledger.Sound) {participant : ScoreParticipant} (mem : participant ∈ ledger.participants)
    (active : participant.status = .active) : ledger.resolve participant.id = participant.id := by
  unfold resolve
  cases ledger.merges.length with
  | zero => rfl
  | succ =>
    have none : ledger.merges.find? (fun merge => merge.source == participant.id && !merge.reversed && decide (merge.target ∉ [participant.id])) = none := by
      refine find?_eq_none.mpr fun merge listed same => ?_
      simp only [and_eq_true, beq_iff_eq, not_eq_true'] at same
      exact sound.merged merge listed same.1.2 participant mem same.1.1.symm active
    rw [resolveFrom, none]

theorem Sound.scored_active (sound : ledger.Sound) (known : ledger.unknownParticipant input = none) {participantId : String}
    (posted : participantId ∈ participantIds input.postings) : ∃ participant ∈ ledger.participants, participant.id = participantId ∧ participant.status = .active := by
  simp only [unknownParticipant, refuseWhen_eq_none, or_eq_false_iff, any_eq_false] at known
  obtain ⟨all, active⟩ := known
  have count : (ledger.participantRows (participantIds input.postings)).length = (participantIds input.postings).length := by simpa using all
  have inside : (ledger.participantRows (participantIds input.postings)).map ScoreParticipant.id ⊆ participantIds input.postings := by
    intro listed mem
    obtain ⟨participant, row, rfl⟩ := mem_map.mp mem
    exact of_decide_eq_true (mem_filter.mp row).2
  have unique : ((ledger.participantRows (participantIds input.postings)).map ScoreParticipant.id).Nodup :=
    sound.participants.sublist (filter_sublist.map _)
  have perm := (subperm_of_subset unique inside).perm_of_length_le (by rw [length_map, count])
  obtain ⟨participant, row, mine⟩ := mem_map.mp (perm.mem_iff.mpr posted)
  refine ⟨participant, (mem_filter.mp row).1, mine, ?_⟩
  have both := active participant row
  simp only [or_eq_true, not_or] at both
  simpa using both.2

theorem participantIds_reversalOf : participantIds (reversalOf eventSlug row.id row input).postings = participantIds row.postings := by
  simp [participantIds, reversalOf, Function.comp_def]

theorem pointsFor_reversalOf (participantId : String) :
    pointsFor (reversalOf eventSlug row.id row input).postings participantId = -pointsFor row.postings participantId :=
  (totalOf_map ..).trans (totalOf_neg _ _)

theorem teamPoints_reversalOf (status : ScoreTransactionStatus) (teamId : String) :
    totalOf ScorePosting.teamId ScorePosting.points (ledger.newTransaction stamp (reversalOf row.eventSlug row.id row input) status).postings (some teamId) =
      -totalOf (ledger.teamNow row.eventSlug stamp.now) ScorePosting.points row.postings (some teamId) :=
  (totalOf_map ..).trans ((totalOf_map _ _ _).trans (totalOf_neg _ _))

/-- What a call took away is what a step had added: from each participant's balance, that of all who have become that
participant, and from each total of the leaderboard. -/
structure Removes (start awarded later after : Ledger) (original : ScoreTransaction) : Prop where
  balances : ∀ participantId, later.balance participantId - after.balance participantId =
    (((participantIds original.postings).filter (later.resolve · = participantId)).map fun posted => awarded.balance posted - start.balance posted).sum
  teams : after.listTeamLeaderboardTotals original.eventSlug =
    (later.listTeamLeaderboardTotals original.eventSlug).map fun (teamId, points) => (teamId, points - (awarded.teamPoints teamId - start.teamPoints teamId))

theorem level_iff (ledger : Ledger) (now : Int) (original : ScoreTransaction) : ledger.Level now original ↔
    ∀ team ∈ ledger.teams, team.eventSlug = original.eventSlug → team.active →
      totalOf (ledger.teamNow original.eventSlug now) ScorePosting.points original.postings (some team.id) =
        totalOf ScorePosting.teamId ScorePosting.points original.postings (some team.id) := by
  refine forall₄_congr fun team _ _ _ => ?_
  have difference := @totalOf_sub _ _ _ (ledger.teamNow original.eventSlug now) ScorePosting.points ScorePosting.teamId original.postings (some team.id)
  omega

/-- Where no participant of the original has changed team. -/
theorem level_of_unmoved {ledger : Ledger} {original : ScoreTransaction} {now : Int} (unmoved : ∀ posting ∈ original.postings,
    ∀ team ∈ ledger.currentTeam posting.participantId original.eventSlug now, posting.teamId = some team) : ledger.Level now original := by
  intro team _ _ _
  have moved : (original.postings.filter fun posting => ledger.teamNow original.eventSlug now posting ≠ posting.teamId) = [] := by
    refine filter_eq_nil_iff.mpr fun posting mem => ?_
    have stays : ledger.teamNow original.eventSlug now posting = posting.teamId := by
      unfold teamNow
      cases here : ledger.currentTeam posting.participantId original.eventSlug now with
      | none => rfl
      | some team => exact (unmoved posting mem team here).symm
    simp [stays]
  rw [moved]
  rfl

theorem removes_inserted {start awarded later : Ledger} {pools : ScorePools} (sound : later.Sound)
    (balances : ∀ participantId, awarded.balance participantId = start.balance participantId + pointsFor row.postings participantId)
    (teams : ∀ teamId, awarded.teamPoints teamId = start.teamPoints teamId + totalOf ScorePosting.teamId ScorePosting.points row.postings (some teamId))
    (known : later.unknownParticipant (reversalOf row.eventSlug row.id row input) = none) :
    Removes start awarded later (later.inserted pools (later.newTransaction stamp (reversalOf row.eventSlug row.id row input) .accepted) true) row ↔
      later.Level stamp.now row := by
  have each (team : ScoreTeam) :
      (later.inserted pools (later.newTransaction stamp (reversalOf row.eventSlug row.id row input) .accepted) true).teamPoints team.id =
          later.teamPoints team.id - (awarded.teamPoints team.id - start.teamPoints team.id) ↔
        totalOf (later.teamNow row.eventSlug stamp.now) ScorePosting.points row.postings (some team.id) =
          totalOf ScorePosting.teamId ScorePosting.points row.postings (some team.id) := by
    have accepted : (later.newTransaction stamp (reversalOf row.eventSlug row.id row input) .accepted).status = .accepted := rfl
    rw [teamPoints_inserted, if_pos accepted, teamPoints_reversalOf, teams]
    omega
  have totals : (later.inserted pools (later.newTransaction stamp (reversalOf row.eventSlug row.id row input) .accepted) true).listTeamLeaderboardTotals row.eventSlug =
      (later.listTeamLeaderboardTotals row.eventSlug).map (fun (teamId, points) => (teamId, points - (awarded.teamPoints teamId - start.teamPoints teamId))) ↔
      later.Level stamp.now row := by
    unfold listTeamLeaderboardTotals
    rw [map_map, level_iff]
    refine (@List.map_inj_left _ _ (later.teams.filter _) _ _).trans ⟨fun all team mem mine active => ?_, fun level team mem => ?_⟩
    · exact (each team).mp (congrArg Prod.snd (all team (mem_filter.mpr ⟨mem, by simp [mine, active]⟩)) :)
    · obtain ⟨listed, shown⟩ := mem_filter.mp mem
      simp only [and_eq_true, beq_iff_eq] at shown
      exact Prod.ext rfl ((each team).mpr (level team listed shown.1 shown.2))
  have taken (participantId : String) : later.balance participantId -
      (later.inserted pools (later.newTransaction stamp (reversalOf row.eventSlug row.id row input) .accepted) true).balance participantId =
        (((participantIds row.postings).filter (later.resolve · = participantId)).map fun posted => awarded.balance posted - start.balance posted).sum := by
    have themselves : (participantIds row.postings).filter (later.resolve · = participantId) = (participantIds row.postings).filter (· = participantId) := by
      refine filter_congr fun posted mem => ?_
      obtain ⟨participant, listed, rfl, active⟩ := sound.scored_active known (participantIds_reversalOf.symm ▸ mem)
      rw [sound.resolve_active listed active]
    have added : (fun posted => awarded.balance posted - start.balance posted) = totalOf ScorePosting.participantId ScorePosting.points row.postings := by
      funext posted
      rw [balances, pointsFor]
      omega
    have whole := @sum_totalOf _ _ _ ScorePosting.participantId ScorePosting.points row.postings (participantIds row.postings) (nodup_distinct _)
      (fun posting mem => mem_distinct.mpr (mem_map_of_mem mem)) participantId
    rw [balance_inserted, pointsFor_newTransaction, pointsFor_reversalOf, themselves, added, whole, pointsFor]
    omega
  exact ⟨fun removes => totals.mp removes.teams, fun level => ⟨taken, totals.mpr level⟩⟩

theorem reversals_inserted (ledger : Ledger) (pools : ScorePools) (projected : Bool) (kind : row.sourceType = .reversal)
    (named : row.originalTransactionId = some original) : (ledger.inserted pools row projected).reversals original = ledger.reversals original + 1 := by
  change (ledger.transactions ++ [row]).countP _ = _
  rw [countP_append, countP_singleton, if_pos (by simp [kind, named])]
  rfl

end Ledger

section

variable {start : Ledger} {first : Act} {acts : List Act} {original : ScoreTransaction}

/-- However scores, teams and merges follow on the step that accepted a transaction, one reversal of it is recorded at
most. A call that is given a used key changes nothing; one that names a participant who is no longer active is refused;
any other that succeeds takes from every balance what the step had added there, and from every total of the leaderboard
exactly where the teams are level. -/
theorem reversal_removes (sound : start.Sound) (found : (next first start).transactionOf original.id original.eventSlug = some original)
    (accepted : original.status = .accepted) (new : ∀ row ∈ start.transactionOf original.id original.eventSlug, row.status ≠ .accepted) :
    let later := runFrom next (next first start) acts
    Throughout next (fun ledger => ledger.reversals original.id ≤ 1) (next first start) acts ∧
      ∀ stamp input row after, (later.lockSettings original.eventSlug).state = .live → input.status.getD .accepted = .accepted →
        later.reverseScore stamp original.eventSlug original.id input = .ok (row, after) →
          (later.existingTransaction original.eventSlug input.idempotencyKey = some row ∧ after = later) ∨
            later.existingTransaction original.eventSlug input.idempotencyKey = none ∧ later.reversals original.id = 0 ∧ after.reversals original.id = 1 ∧
              (∀ posting ∈ original.postings, ∃ participant ∈ later.participants, participant.id = posting.participantId ∧ participant.status = .active) ∧
              (Ledger.Removes start (next first start) later after original ↔ later.Level stamp.now original) := by
  intro later
  obtain ⟨balances, teams⟩ := (next_books first start).adds sound.transactions found accepted new
  have history := @EachStep.shows _ _ next (fun _ _ => True) (fun ledger => ledger.Sound ∧ ledger.transactionOf original.id original.eventSlug = some original)
    (fun _ _ => True) (fun {ledger act} held _ => ⟨⟨held.1.next act, (next_books act ledger).keeps held.2 accepted⟩, trivial⟩)
    (next first start) acts ⟨sound.next first, found⟩ (EachStep.always fun _ _ => trivial)
  refine ⟨history.1.imp fun ledger held => held.1.reversed original.id, fun stamp input row after live asked reversed => ?_⟩
  obtain ⟨laterSound, laterFound⟩ := history.1.last
  obtain ⟨other, same, -, -, recorded⟩ := Ledger.reverseScore_ok.mp reversed
  cases some.inj (laterFound.symm.trans same)
  obtain duplicate | ⟨pools, status, unused, eligible, requested, free, -, rfl⟩ := Ledger.recorded_cases recorded
  · exact .inl duplicate
  · have known : later.unknownParticipant (Ledger.reversalOf original.eventSlug original.id original input) = none := by
      simp only [Ledger.ineligible, orElse_eq_none] at eligible
      exact eligible.2.2.1
    have status : status = .accepted := by
      rw [requested]
      exact (congrArg (Ledger.requestedStatus · _) live).trans (Ledger.requestedStatus_live.trans asked)
    subst status
    refine .inr ⟨unused, Ledger.violation_reversal free rfl rfl, ?_, fun posting mem => ?_, Ledger.removes_inserted laterSound balances teams known⟩
    · rw [Ledger.reversals_inserted _ _ _ rfl rfl, Ledger.violation_reversal free rfl rfl]
    · refine laterSound.scored_active known ?_
      rw [Ledger.participantIds_reversalOf]
      exact mem_distinct.mpr (mem_map_of_mem mem)

/-- Two teams, of which ann is on the red one. -/
def gala : Ledger where
  settings := [⟨"gala", .live, true, false⟩]
  events := [⟨"gala", .published⟩]
  activities := []
  participants := [⟨"ann", "gala", none, none, .active, true⟩]
  validTickets := []
  assignments := []
  transfers := []
  teams := [⟨"red", "gala", true, some 0, 0⟩, ⟨"blue", "gala", true, some 1, 0⟩]
  memberships := [⟨"gala", "red", "ann", 0, none⟩]
  merges := []
  pools := ⟨[], nodup_nil⟩
  transactions := []
  projections := []

def awardInput : RecordScoreInput where
  eventSlug := "gala"
  activityId := none
  sourceType := .manual
  sourceId := "award"
  idempotencyKey := "award"
  status := none
  note := none
  assignmentId := none
  originalTransactionId := none
  metadata := ⟨none, false⟩
  postings := [⟨"ann", 5, none⟩]
  poolId := none

def award : Act := .record ⟨10, "stx_award"⟩ awardInput

def awarded : ScoreTransaction where
  id := "stx_award"
  eventSlug := "gala"
  activityId := none
  sourceType := .manual
  sourceId := "award"
  idempotencyKey := "award"
  status := .accepted
  originalTransactionId := none
  metadata := ⟨none, false⟩
  postings := [⟨"ann", 5, some "red"⟩]

def move : Act := .assign 20 ⟨"gala", "blue", "ann", none⟩

def undone : ScoreTransaction × Ledger :=
  ((runFrom next (next award gala) [move]).reverseScore ⟨30, "stx_undone"⟩ "gala" "stx_award" { awardInput with idempotencyKey := "undone" }).toOption.getD
    (awarded, gala)

theorem gala_sound : gala.Sound where
  transactions := nodup_nil
  reversed _ := Nat.zero_le 1
  participants := nodup_singleton _
  sources := nodup_nil
  merged _ no := by cases no

theorem undone_reversed : (runFrom next (next award gala) [move]).reverseScore ⟨30, "stx_undone"⟩ "gala" "stx_award"
    { awardInput with idempotencyKey := "undone" } = .ok (undone.1, undone.2) := by decide +kernel

theorem reversal_removes_moved : Throughout next (fun ledger => ledger.reversals "stx_award" ≤ 1) (next award gala) [move] ∧
    (Ledger.Removes gala (next award gala) (runFrom next (next award gala) [move]) undone.2 awarded ↔
      (runFrom next (next award gala) [move]).Level 30 awarded) := by
  have general := @reversal_removes gala award [move] awarded gala_sound (by decide +kernel) rfl nofun
  refine ⟨general.1, ?_⟩
  obtain ⟨used, -⟩ | ⟨-, -, -, -, exact⟩ := general.2 ⟨30, "stx_undone"⟩ { awardInput with idempotencyKey := "undone" } undone.1 undone.2
    (by decide +kernel) rfl undone_reversed
  · exact absurd used (by decide +kernel)
  · exact exact

/-- The red team keeps the five points, and the blue team, which never had them, loses five. -/
theorem moved_reversal_differs :
    ¬ ∀ (start : Ledger) (first : Act) (acts : List Act) (original : ScoreTransaction) (stamp : Stamp) (input : RecordScoreInput) (row : ScoreTransaction)
        (after : Ledger), start.Sound → (next first start).transactionOf original.id original.eventSlug = some original → original.status = .accepted →
      (∀ row ∈ start.transactionOf original.id original.eventSlug, row.status ≠ .accepted) →
      ((runFrom next (next first start) acts).lockSettings original.eventSlug).state = .live → input.status.getD .accepted = .accepted →
      (runFrom next (next first start) acts).existingTransaction original.eventSlug input.idempotencyKey = none →
      (runFrom next (next first start) acts).reverseScore stamp original.eventSlug original.id input = .ok (row, after) →
        Ledger.Removes start (next first start) (runFrom next (next first start) acts) after original := by
  intro removes
  have teams := (removes gala award [move] awarded ⟨30, "stx_undone"⟩ { awardInput with idempotencyKey := "undone" } undone.1 undone.2 gala_sound
    (by decide +kernel) rfl (nofun) (by decide +kernel) rfl (by decide +kernel) undone_reversed).teams
  exact absurd teams (by decide +kernel)

end

end

end MilkAndHenny.Scoring

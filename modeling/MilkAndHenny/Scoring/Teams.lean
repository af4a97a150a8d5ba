import MilkAndHenny.Scoring.Ledger

/-! The teams of an event, who is on them, and participants who turn out to be one person. -/

namespace MilkAndHenny.Scoring

open Library
open Zip (trim)

/-- The start is the one that is given, read as a date or not one. -/
structure SetTeamMembershipInput where
  eventSlug : String
  teamId : String
  participantId : String
  startsAt : Option (Option Int)

/-- With what the shuffle draws: `random()` for each participant, and the ids of the teams it creates. -/
structure ShuffleInput where
  eventSlug : String
  teamCount : Nat
  random : String → Nat
  created : Nat → String

structure MergeParticipantsInput where
  eventSlug : String
  sourceParticipantId : String
  targetParticipantId : String
  reason : String
  evidence : List String

/-- `order by status = 'active' desc, sort_order nulls last, created_at, id`. -/
def ScoreTeam.before (a b : ScoreTeam) : Bool :=
  if a.active ≠ b.active then a.active
  else if a.sortOrder ≠ b.sortOrder then
    match a.sortOrder, b.sortOrder with
    | some x, some y => x ≤ y
    | some _, none => true
    | none, _ => false
  else if a.createdAt ≠ b.createdAt then a.createdAt ≤ b.createdAt
  else decide (a.id ≤ b.id)

namespace Ledger

variable (ledger : Ledger) (participantId : String)

def setTeamMembership (now : Int) (input : SetTeamMembershipInput) : Except Failure Ledger :=
  if input.startsAt = some none then .error (.refused 400 "Team assignment start must be a valid time")
  else if !(ledger.participants.any fun participant => participant.id == input.participantId && participant.eventSlug == input.eventSlug) ||
      !(ledger.teams.any fun team => team.id == input.teamId && team.eventSlug == input.eventSlug) then
    .error (.refused 404 "Team or participant not found")
  else
    let startsAt := input.startsAt.join.getD now
    let ended := update ledger.memberships
      (fun membership => membership.eventSlug == input.eventSlug && membership.participantId == input.participantId &&
        membership.endsAt.isNone && decide (membership.startsAt < startsAt))
      fun membership => { membership with endsAt := some startsAt }
    .ok { ledger with memberships := ended ++ [⟨input.eventSlug, input.teamId, input.participantId, startsAt, none⟩] }

/-- The teams that are kept, and those that are missing. -/
def shuffledTeams (input : ShuffleInput) : List String :=
  let stored := (orderBy ScoreTeam.before (ledger.teams.filter (·.eventSlug == input.eventSlug))).map ScoreTeam.id
  (stored ++ (List.range' stored.length (input.teamCount - stored.length)).map input.created).take input.teamCount

def shuffledParticipants (input : ShuffleInput) : List ScoreParticipant :=
  orderBy (fun a b => decide (input.random a.id < input.random b.id ∨ input.random a.id = input.random b.id ∧ a.id ≤ b.id))
    (ledger.participants.filter fun participant =>
      participant.eventSlug == input.eventSlug && participant.status == .active && participant.ticketId.any (· ∈ ledger.validTickets))

def shuffleCheckedInTeams (now : Int) (input : ShuffleInput) : Except Failure Ledger :=
  if input.teamCount ∉ [2, 3, 4] then .error (.refused 400 "Choose 2, 3, or 4 teams")
  else if !(ledger.events.any (·.slug == input.eventSlug)) then .error (.refused 404 "Event not found")
  else
    let selected := ledger.shuffledTeams input
    let created := selected.filter fun teamId => !(ledger.teams.any fun team => team.id == teamId && team.eventSlug == input.eventSlug)
    let teams := ledger.teams ++ created.map fun teamId => ⟨teamId, input.eventSlug, true, none, now⟩
    let ended := update ledger.memberships
      (fun membership => membership.eventSlug == input.eventSlug && membership.endsAt.isNone && decide (membership.startsAt < now) &&
        ledger.participants.any fun participant => participant.id == membership.participantId && participant.status == .active)
      fun membership => { membership with endsAt := some now }
    let begun := (ledger.shuffledParticipants input).zipIdx.map fun (participant, index) =>
      ScoreTeamMembership.mk input.eventSlug (selected.getD (index % selected.length) "") participant.id now none
    .ok { ledger with
      teams := update teams (·.eventSlug == input.eventSlug) fun team =>
        { team with active := team.id ∈ selected, sortOrder := selected.idxOf? team.id }
      memberships := ended ++ begun }

/-- The points of `listTeamLeaderboardTotals`. -/
def teamPoints (teamId : String) : Int :=
  ((ledger.transactions.filter (·.status == .accepted)).map fun row =>
    totalOf ScorePosting.teamId ScorePosting.points row.postings (some teamId)).sum

/-- Names, order and ranks are left out. -/
def listTeamLeaderboardTotals (eventSlug : String) : List (String × Int) :=
  (ledger.teams.filter fun team => team.eventSlug == eventSlug && team.active).map fun team => (team.id, ledger.teamPoints team.id)

/-- `participant_targets`: the merges that have not been reversed are followed, and no participant is met twice. A
participant has one such merge at most. -/
def resolveFrom (ledger : Ledger) : Nat → List String → String → String
  | 0, _, participantId => participantId
  | steps + 1, path, participantId =>
    match ledger.merges.find? fun merge => merge.source == participantId && !merge.reversed && merge.target ∉ path with
    | none => participantId
    | some merge => ledger.resolveFrom steps (merge.target :: path) merge.target

def resolve : String := ledger.resolveFrom ledger.merges.length [participantId] participantId

/-- `accepted_balances`. -/
def acceptedBalance (eventSlug participantId : String) : Int :=
  ((ledger.transactions.filter fun row => row.eventSlug == eventSlug && row.status == .accepted).map fun row =>
    totalOf (ledger.resolve ∘ ScorePosting.participantId) ScorePosting.points row.postings participantId).sum

def rebuildMergedProjections (eventSlug : String) : Ledger :=
  let rebuilt := (ledger.participants.filter (·.eventSlug == eventSlug)).map fun participant =>
    (participant.id, ledger.acceptedBalance eventSlug participant.id)
  { ledger with projections := rebuilt ++ ledger.projections.filter fun row => row.1 ∉ rebuilt.map Prod.fst }

def setStatus (status : ParticipantStatus) : Ledger :=
  { ledger with participants := update ledger.participants (·.id == participantId) fun participant => { participant with status := status } }

def mergeParticipants (mergeId : String) (input : MergeParticipantsInput) : Except Failure Ledger :=
  let rows := ledger.participantRows [input.sourceParticipantId, input.targetParticipantId]
  if trim input.reason = "" ∨ input.evidence = [] then .error (.refused 400 "A merge needs evidence and a reason")
  else if input.sourceParticipantId = input.targetParticipantId then .error (.refused 400 "Choose two different participants")
  else if rows.length ≠ 2 ∨ (rows.any fun row => row.eventSlug ≠ input.eventSlug) then .error (.refused 404 "Participants not found")
  else if rows.any fun row => row.status ≠ .active then .error (.refused 409 "Only active participants can be merged")
  else
    let merge : ParticipantMerge := ⟨mergeId, input.eventSlug, input.sourceParticipantId, input.targetParticipantId, false⟩
    let merged := { ledger with merges := ledger.merges ++ [merge] }
    .ok ((merged.setStatus input.sourceParticipantId .merged).rebuildMergedProjections input.eventSlug)

def reverseParticipantMerge (mergeId reason : String) : Except Failure Ledger :=
  if trim reason = "" then .error (.refused 400 "A split needs a reason")
  else
    match ledger.merges.find? (·.id == mergeId) with
    | none => .error (.refused 404 "Merge not found")
    | some merge =>
      if merge.reversed then .error (.refused 404 "Merge already reversed")
      else
        let split := { ledger with merges := update ledger.merges (·.id == mergeId) fun merge => { merge with reversed := true } }
        .ok ((split.setStatus merge.source .active).rebuildMergedProjections merge.eventSlug)

section

variable {ledger after : Ledger} {now : Int}

theorem setTeamMembership_frame {input : SetTeamMembershipInput} (done : ledger.setTeamMembership now input = .ok after) :
    after = { ledger with memberships := after.memberships } := by
  unfold setTeamMembership at done
  split at done
  · cases done
  · split at done
    · cases done
    · cases done
      rfl

theorem shuffleCheckedInTeams_frame {input : ShuffleInput} (done : ledger.shuffleCheckedInTeams now input = .ok after) :
    after = { ledger with teams := after.teams, memberships := after.memberships } := by
  unfold shuffleCheckedInTeams at done
  split at done
  · cases done
  · split at done
    · cases done
    · cases done
      rfl

theorem mergeParticipants_ok {mergeId : String} {input : MergeParticipantsInput} (done : ledger.mergeParticipants mergeId input = .ok after) :
    input.sourceParticipantId ≠ input.targetParticipantId ∧
      (ledger.participantRows [input.sourceParticipantId, input.targetParticipantId]).length = 2 ∧
      (∀ row ∈ ledger.participantRows [input.sourceParticipantId, input.targetParticipantId], row.status = .active) ∧
      after = { ledger with
        participants := (ledger.setStatus input.sourceParticipantId .merged).participants
        merges := ledger.merges ++ [⟨mergeId, input.eventSlug, input.sourceParticipantId, input.targetParticipantId, false⟩]
        projections := after.projections } := by
  unfold mergeParticipants at done
  dsimp only at done
  split at done
  · cases done
  · split at done
    · cases done
    · next apart =>
      split at done
      · cases done
      · next known =>
        split at done
        · cases done
        · next active =>
          cases done
          exact ⟨apart, Decidable.not_not.mp (not_or.mp known).1, by simpa using active, rfl⟩

theorem reverseParticipantMerge_ok {mergeId reason : String} (done : ledger.reverseParticipantMerge mergeId reason = .ok after) :
    ∃ merge ∈ ledger.merges, merge.id = mergeId ∧ merge.reversed = false ∧
      after = { ledger with
        participants := (ledger.setStatus merge.source .active).participants
        merges := update ledger.merges (·.id == mergeId) fun merge => { merge with reversed := true }
        projections := after.projections } := by
  unfold reverseParticipantMerge at done
  split at done
  · cases done
  · split at done
    · cases done
    · next merge found =>
      have mine := @find?_some _ (fun merge : ParticipantMerge => merge.id == mergeId) _ _ found
      split at done
      · cases done
      · next lasting =>
        cases done
        exact ⟨merge, mem_of_find?_eq_some found, eq_of_beq mine, eq_false_iff.mpr lasting, rfl⟩

end

end Ledger

end MilkAndHenny.Scoring

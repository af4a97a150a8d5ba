import Mathlib.Data.Option.Basic
import MilkAndHenny.Library.Account
import MilkAndHenny.RateLimit.Stores
import MilkAndHenny.Transfers.Catalogue
import MilkAndHenny.Zip.Archive

/-! The score ledger of an event: transactions of signed postings, the balances they project to, and the
pools of points that awards draw on. A transaction is recorded in one database transaction under the lock
of the event's settings. -/

namespace MilkAndHenny.Scoring

open Library
open RateLimit (utf16Length)
open Transfers (truthy)
open Zip (trim)

variable {condition : Bool} {code : Nat} {error : String} {α : Type} {failure : Failure} {eventSlug : String}

inductive ScoringState
  | off | ready | live | frozen | closed
  deriving DecidableEq

inductive ScoreSourceType
  | manual | game | discovery | checkIn | transfer | reversal | correction
  deriving DecidableEq

inductive ScoreTransactionStatus
  | accepted | held | rejected | reversed
  deriving DecidableEq

inductive ParticipantStatus
  | active | refunded | void | disqualified | merged
  deriving DecidableEq

inductive EventStatus
  | draft | published | soldOut | cancelled | archived
  deriving DecidableEq

inductive ScoreRepeat
  | once | repeated | oncePerSource
  deriving DecidableEq

/-- The part of the settings that recording reads. -/
structure ScoringSettings where
  eventSlug : String
  state : ScoringState
  allowPreCheckinOnlinePoints : Bool
  allowStaffSelfAwards : Bool
  deriving DecidableEq

structure Event where
  slug : String
  status : EventStatus
  deriving DecidableEq

structure ScoreRule where
  repeats : ScoreRepeat
  requiresCheckIn : Bool
  deriving DecidableEq

structure ScoreActivity where
  id : String
  eventSlug : String
  rule : ScoreRule
  deriving DecidableEq

structure ScoreParticipant where
  id : String
  eventSlug : String
  personId : Option String
  ticketId : Option String
  status : ParticipantStatus
  checkedIn : Bool
  deriving DecidableEq

structure StaffAssignment where
  id : String
  personId : Option String
  deriving DecidableEq

structure TicketTransfer where
  ticketId : String
  pending : Bool
  deriving DecidableEq

/-- No end: the membership is open. -/
structure ScoreTeamMembership where
  eventSlug : String
  teamId : String
  participantId : String
  startsAt : Int
  endsAt : Option Int
  deriving DecidableEq

structure ScoreTeam where
  id : String
  eventSlug : String
  active : Bool
  sortOrder : Option Nat
  createdAt : Int
  deriving DecidableEq

structure ParticipantMerge where
  id : String
  eventSlug : String
  source : String
  target : String
  reversed : Bool
  deriving DecidableEq

structure ScorePool where
  id : String
  eventSlug : String
  issued : Nat
  reserved : Nat
  spent : Nat
  held : Nat
  activityId : Option String := none
  ownerId : Option String := none
  deriving DecidableEq

structure ScorePosting where
  participantId : String
  points : Int
  teamId : Option String
  deriving DecidableEq

/-- The entries of the metadata that are read, a pool that is no text being none. -/
structure ScoreMetadata where
  poolId : Option String
  closedCorrectionConfirmed : Bool
  deriving DecidableEq

/-- A row with its postings, which are written with it and never change. -/
structure ScoreTransaction where
  id : String
  eventSlug : String
  activityId : Option String
  sourceType : ScoreSourceType
  sourceId : String
  idempotencyKey : String
  status : ScoreTransactionStatus
  originalTransactionId : Option String
  metadata : ScoreMetadata
  postings : List ScorePosting
  deriving DecidableEq

structure RecordScoreInput where
  eventSlug : String
  activityId : Option String
  sourceType : ScoreSourceType
  sourceId : String
  idempotencyKey : String
  status : Option ScoreTransactionStatus
  note : Option String
  assignmentId : Option String
  originalTransactionId : Option String
  metadata : ScoreMetadata
  postings : List ScorePosting
  poolId : Option String

/-- What the ledger's tables refuse of their own. -/
inductive Constraint
  | primaryKey | source | reversal | reference
  deriving DecidableEq

/-- An answer that is no success, or an exception that rolls everything back. -/
inductive Failure
  | refused (status : Nat) (error : String)
  | violated (constraint : Constraint)
  deriving DecidableEq

def poolShort : Failure := .refused 409 "The remaining points pool is too small"

structure ScorePools where
  rows : List ScorePool
  unique : (rows.map ScorePool.id).Nodup
  deriving DecidableEq

structure Ledger where
  settings : List ScoringSettings
  events : List Event
  activities : List ScoreActivity
  participants : List ScoreParticipant
  validTickets : List String
  assignments : List StaffAssignment
  transfers : List TicketTransfer
  teams : List ScoreTeam
  memberships : List ScoreTeamMembership
  merges : List ParticipantMerge
  pools : ScorePools
  transactions : List ScoreTransaction
  projections : List (String × Int)
  deriving DecidableEq

/-- What the server and the database supply to a call: the time, and the id of a new transaction. -/
structure Stamp where
  now : Int
  transactionId : String

/-- `[...new Set(postings.map(…))]`. -/
def participantIds (postings : List ScorePosting) : List String := distinct (postings.map ScorePosting.participantId)

/-- `Math.max(0, posting.points)` over the postings. -/
def positivePoints (postings : List ScorePosting) : Nat := (postings.map fun posting => posting.points.toNat).sum

def pointsFor (postings : List ScorePosting) (participantId : String) : Int :=
  totalOf ScorePosting.participantId ScorePosting.points postings participantId

def ScorePool.available (pool : ScorePool) : Int := pool.issued - pool.reserved - pool.spent - pool.held

/-- `held_points` or `spent_points`, after the status of the transaction. -/
def ScorePool.charge (status : ScoreTransactionStatus) (points : Nat) (pool : ScorePool) : ScorePool :=
  if status = .held then { pool with held := pool.held + points } else { pool with spent := pool.spent + points }

theorem ScorePool.charge_id (status : ScoreTransactionStatus) (points : Nat) (pool : ScorePool) : (pool.charge status points).id = pool.id := by
  unfold charge
  split <;> rfl

def ScorePool.settle (points : Nat) (pool : ScorePool) : ScorePool :=
  { pool with held := pool.held - points, spent := pool.spent + points }

theorem ScorePool.settle_id (points : Nat) (pool : ScorePool) : (pool.settle points).id = pool.id := rfl

namespace ScorePools

def find? (pools : ScorePools) (poolId eventSlug : String) : Option ScorePool :=
  pools.rows.find? fun pool => pool.id == poolId && pool.eventSlug == eventSlug

def change (pools : ScorePools) (poolId : String) (apply : ScorePool → ScorePool) (kept : ∀ pool, (apply pool).id = pool.id) : ScorePools where
  rows := update pools.rows (·.id == poolId) apply
  unique := nodup_update kept pools.unique

/-- The pool's part of `insertTransaction`. -/
def draw (pools : ScorePools) (input : RecordScoreInput) (status : ScoreTransactionStatus) : Except Failure ScorePools :=
  let points := positivePoints input.postings
  match truthy input.poolId with
  | none => .ok pools
  | some poolId =>
    if points = 0 then .ok pools
    else if ((pools.find? poolId input.eventSlug).map ScorePool.available).getD (-1) < points then
      .error poolShort
    else .ok (pools.change poolId (ScorePool.charge status points) (ScorePool.charge_id status points))

/-- The pool's part of `acceptHeldScore`. -/
def release (pools : ScorePools) (eventSlug : String) (row : ScoreTransaction) : Except Failure ScorePools :=
  let points := positivePoints row.postings
  match truthy row.metadata.poolId with
  | none => .ok pools
  | some poolId =>
    if points = 0 then .ok pools
    else if pools.rows.any fun pool => pool.id == poolId && pool.eventSlug == eventSlug && points ≤ pool.held then
      .ok (pools.change poolId (ScorePool.settle points) (ScorePool.settle_id points))
    else .error (.refused 409 "The held points pool is no longer available")

end ScorePools

namespace Ledger

variable (ledger : Ledger) (input : RecordScoreInput)

def lockSettings (eventSlug : String) : ScoringSettings :=
  (ledger.settings.find? (·.eventSlug == eventSlug)).getD ⟨eventSlug, .off, false, false⟩

def activity (ledger : Ledger) (input : RecordScoreInput) : Option ScoreActivity :=
  (truthy input.activityId).bind fun activityId =>
    ledger.activities.find? fun activity => activity.id == activityId && activity.eventSlug == input.eventSlug

def existingTransaction (eventSlug idempotencyKey : String) : Option ScoreTransaction :=
  ledger.transactions.find? fun row => row.eventSlug == eventSlug && row.idempotencyKey == idempotencyKey

def participantRows (ids : List String) : List ScoreParticipant :=
  ledger.participants.filter fun participant => participant.id ∈ ids

def currentTeam (participantId eventSlug : String) (now : Int) : Option String :=
  ((orderBy (fun a b => decide (b.startsAt ≤ a.startsAt)) (ledger.memberships.filter fun membership =>
    membership.participantId == participantId && membership.eventSlug == eventSlug && decide (membership.startsAt ≤ now) &&
      (membership.endsAt.all fun endsAt => now < endsAt))).head?).map ScoreTeamMembership.teamId

def balance (participantId : String) : Int := balanceOf ledger.projections participantId

/-- Some balance that the postings touch would fall below zero. -/
def overdrawn (postings : List ScorePosting) : Bool :=
  (participantIds postings).any fun participantId => ledger.balance participantId + pointsFor postings participantId < 0

def scored : List ScoreTransaction :=
  ledger.transactions.filter fun row =>
    row.eventSlug == input.eventSlug && row.activityId == input.activityId && (row.status == .accepted || row.status == .held)

def refuseWhen (condition : Bool) (status : Nat) (error : String) : Option Failure :=
  if condition then some (.refused status error) else none

def invalidScore : Option Failure :=
  refuseWhen (input.eventSlug == "" || input.sourceId == "" || input.idempotencyKey == "" || input.postings.isEmpty) 400
      "A score source, idempotency key, and at least one posting are required" <|>
    refuseWhen ((truthy input.note).any fun note => 1000 < utf16Length note) 400 "That note is too long" <|>
    refuseWhen (input.postings.any fun posting => posting.points == 0) 400 "Score postings must be whole non-zero points"

def unknownActivity : Option Failure :=
  refuseWhen ((truthy input.activityId).isSome && (ledger.activity input).isNone) 404 "Score activity not found"

def requestedStatus (state : ScoringState) (input : RecordScoreInput) : ScoreTransactionStatus :=
  let requested := input.status.getD .accepted
  if state = .frozen ∧ requested = .accepted then .held else requested

def allowedClosedCorrection (state : ScoringState) (input : RecordScoreInput) : Bool :=
  state == .closed && requestedStatus state input == .accepted && input.sourceType == .correction && input.metadata.closedCorrectionConfirmed &&
    (input.note.map trim).any (· ≠ "")

def notAccepting (state : ScoringState) (input : RecordScoreInput) : Option Failure :=
  refuseWhen (state == .closed && requestedStatus state input == .accepted && !allowedClosedCorrection state input) 409
      "Scoring is closed; this correction needs a reason and confirmation" <|>
    refuseWhen (state ≠ .live && requestedStatus state input == .accepted && !allowedClosedCorrection state input) 409 "Scoring is not live"

def eventEnded : Option Failure :=
  let status := (ledger.events.find? (·.slug == input.eventSlug)).map Event.status
  refuseWhen ((status == some .cancelled || status == some .archived) && input.sourceType ≠ .reversal && input.sourceType ≠ .correction) 409
    "This event is not accepting score actions"

/-- `join event_participants on person_id`: a missing person joins nothing. -/
def selfAward : Option Failure :=
  refuseWhen
    ((truthy input.assignmentId).any fun assignmentId =>
      !(ledger.lockSettings input.eventSlug).allowStaffSelfAwards &&
        ledger.assignments.any fun assignment => assignment.id == assignmentId &&
          (ledger.participantRows (participantIds input.postings)).any fun participant =>
            participant.personId.isSome && participant.personId == assignment.personId)
    403 "This event does not allow staff to award themselves"

def unknownParticipant : Option Failure :=
  let rows := ledger.participantRows (participantIds input.postings)
  refuseWhen
    (rows.length ≠ (participantIds input.postings).length ||
      rows.any fun participant => participant.eventSlug ≠ input.eventSlug || participant.status ≠ .active)
    409 "One participant cannot receive this score"

def activityAward (sourceType : ScoreSourceType) : Bool := sourceType ∈ [.manual, .game, .discovery, .checkIn]

def pendingTransfer : Option Failure :=
  refuseWhen
    (activityAward input.sourceType &&
      (ledger.participantRows (participantIds input.postings)).any fun participant =>
        ledger.transfers.any fun transfer => participant.ticketId == some transfer.ticketId && transfer.pending)
    409 "Ticket transfer is pending; activity is paused"

def notCheckedIn : Option Failure :=
  let rows := ledger.participantRows (participantIds input.postings)
  refuseWhen
      (input.sourceType == .game && !(ledger.lockSettings input.eventSlug).allowPreCheckinOnlinePoints &&
        rows.any fun participant => (truthy participant.ticketId).isSome && !participant.checkedIn)
      409 "Check in before receiving online game points" <|>
    refuseWhen
      (activityAward input.sourceType && (ledger.activity input).any (·.rule.requiresCheckIn) &&
        rows.any fun participant => !participant.checkedIn)
      409 "Check in before receiving this activity score"

def repeated : Option Failure :=
  let applies := activityAward input.sourceType && input.sourceType ≠ .discovery
  refuseWhen
      (applies && (ledger.activity input).any (·.rule.repeats == .once) &&
        (ledger.scored input).any fun row => row.postings.any fun posting => posting.participantId ∈ participantIds input.postings)
      409 "This activity can award each participant once" <|>
    refuseWhen
      (applies && (ledger.activity input).any (·.rule.repeats == .oncePerSource) &&
        (ledger.scored input).any fun row => row.sourceId == input.sourceId)
      409 "This activity source has already been scored"

def negativeBalance : Option Failure :=
  refuseWhen (input.sourceType ≠ .reversal && (input.postings.any fun posting => posting.points < 0) && ledger.overdrawn input.postings) 409
    "That correction would create a negative balance"

/-- What the participants and the activity have to allow, whatever the state of scoring. -/
def ineligible : Option Failure :=
  ledger.eventEnded input <|> ledger.selfAward input <|> ledger.unknownParticipant input <|> ledger.pendingTransfer input <|>
    ledger.notCheckedIn input <|> ledger.repeated input <|> ledger.negativeBalance input

/-- The row is the input's, its metadata the input's with the pool spread over it, its teams those of now. -/
def newTransaction (stamp : Stamp) (input : RecordScoreInput) (status : ScoreTransactionStatus) : ScoreTransaction where
  id := stamp.transactionId
  eventSlug := input.eventSlug
  activityId := input.activityId
  sourceType := input.sourceType
  sourceId := input.sourceId
  idempotencyKey := input.idempotencyKey
  status := status
  originalTransactionId := input.originalTransactionId
  metadata := { input.metadata with poolId := truthy input.poolId <|> input.metadata.poolId }
  postings := input.postings.map fun posting =>
    { posting with teamId := ledger.currentTeam posting.participantId input.eventSlug stamp.now <|> posting.teamId }

/-- `score_transactions_source_idx`, `score_reversals_original_idx` and the keys of the tables. -/
def violation (row : ScoreTransaction) : Option Constraint :=
  if ledger.transactions.any (·.id == row.id) then some .primaryKey
  else if row.sourceType ∈ [.game, .discovery, .checkIn] && ledger.transactions.any fun other =>
      other.eventSlug == row.eventSlug && other.sourceType == row.sourceType && other.sourceId == row.sourceId then some .source
  else if row.sourceType == .reversal && row.originalTransactionId.isSome && ledger.transactions.any fun other =>
      other.sourceType == .reversal && other.originalTransactionId == row.originalTransactionId then some .reversal
  else if (row.activityId.all fun activityId => ledger.activities.any (·.id == activityId)) &&
      (row.originalTransactionId.all fun original => ledger.transactions.any (·.id == original)) &&
      row.postings.all (fun posting => posting.teamId.all fun teamId => ledger.teams.any (·.id == teamId)) then none
  else some .reference

def insertTransaction (stamp : Stamp) (input : RecordScoreInput) (status : ScoreTransactionStatus) (updateProjection : Bool) :
    Except Failure (ScoreTransaction × Ledger) :=
  match ledger.pools.draw input status with
  | .error failure => .error failure
  | .ok pools =>
    let row := ledger.newTransaction stamp input status
    match ledger.violation row with
    | some constraint => .error (.violated constraint)
    | none => .ok ({ row with postings := input.postings },
        { ledger with
          pools := pools
          transactions := ledger.transactions ++ [row]
          projections :=
            if updateProjection then creditAll ScorePosting.participantId ScorePosting.points ledger.projections row.postings
            else ledger.projections })

def recordScoreInTransaction (stamp : Stamp) (input : RecordScoreInput) : Except Failure (ScoreTransaction × Ledger) :=
  match invalidScore input <|> ledger.unknownActivity input with
  | some failure => .error failure
  | none =>
    match ledger.existingTransaction input.eventSlug input.idempotencyKey with
    | some duplicate => .ok (duplicate, ledger)
    | none =>
      let state := (ledger.lockSettings input.eventSlug).state
      match notAccepting state input <|> ledger.ineligible input with
      | some failure => .error failure
      | none => ledger.insertTransaction stamp input (requestedStatus state input) (requestedStatus state input == .accepted)

def scoreConstraintError : Failure → Failure
  | .violated .source => .refused 409 "This source has already been scored"
  | .violated .reversal => .refused 409 "This score has already been reversed"
  | failure => failure

def recordScore (stamp : Stamp) (input : RecordScoreInput) : Except Failure (ScoreTransaction × Ledger) :=
  (ledger.recordScoreInTransaction stamp input).mapError scoreConstraintError

/-- The input of a reversal: the rest of what the caller gives, and the postings turned round. -/
def reversalOf (eventSlug originalTransactionId : String) (original : ScoreTransaction) (input : RecordScoreInput) : RecordScoreInput :=
  { input with
    eventSlug := eventSlug
    sourceType := .reversal
    sourceId := originalTransactionId
    originalTransactionId := some originalTransactionId
    postings := original.postings.map fun posting => { posting with points := -posting.points } }

def transactionOf (transactionId eventSlug : String) : Option ScoreTransaction :=
  ledger.transactions.find? fun row => row.id == transactionId && row.eventSlug == eventSlug

def reverseScoreInTransaction (stamp : Stamp) (eventSlug originalTransactionId : String) (input : RecordScoreInput) :
    Except Failure (ScoreTransaction × Ledger) :=
  match ledger.transactionOf originalTransactionId eventSlug with
  | none => .error (.refused 404 "Original score was not found")
  | some original =>
    if original.status ≠ .accepted then .error (.refused 409 "Only an accepted score can be reversed")
    else if original.postings.isEmpty then .error (.refused 404 "Original score was not found")
    else ledger.recordScoreInTransaction stamp (reversalOf eventSlug originalTransactionId original input)

def reverseScore (stamp : Stamp) (eventSlug originalTransactionId : String) (input : RecordScoreInput) :
    Except Failure (ScoreTransaction × Ledger) :=
  (ledger.reverseScoreInTransaction stamp eventSlug originalTransactionId input).mapError scoreConstraintError

def heldTransaction (eventSlug transactionId : String) : Option ScoreTransaction :=
  ledger.transactions.find? fun row => row.id == transactionId && row.eventSlug == eventSlug && row.status == .held

def heldRefusal (row : ScoreTransaction) : Option Failure :=
  let rows := ledger.participantRows (participantIds row.postings)
  refuseWhen (rows.length ≠ (participantIds row.postings).length || rows.any fun participant => participant.status ≠ .active) 409
      "A held participant cannot receive this score" <|>
    refuseWhen (ledger.overdrawn row.postings) 409 "A held correction would create a negative balance"

def acceptHeldScore (eventSlug transactionId : String) : Except Failure (ScoreTransaction × Ledger) :=
  if (ledger.lockSettings eventSlug).state ≠ .live then .error (.refused 409 "Resume scoring before accepting held work")
  else
    match ledger.heldTransaction eventSlug transactionId with
    | none => .error (.refused 404 "Held score was not found")
    | some row =>
      match ledger.heldRefusal row with
      | some failure => .error failure
      | none =>
        match ledger.pools.release eventSlug row with
        | .error failure => .error failure
        | .ok pools => .ok ({ row with status := .accepted },
            { ledger with
              pools := pools
              transactions := update ledger.transactions (·.id == transactionId) fun row => { row with status := .accepted }
              projections := creditAll ScorePosting.participantId ScorePosting.points ledger.projections row.postings })

/-- `updateSettings`, with the state alone. -/
def changeScoringState (eventSlug : String) (state : ScoringState) : Ledger :=
  { ledger with settings := update ledger.settings (·.eventSlug == eventSlug) fun settings => { settings with state := state } }

section

variable {ledger : Ledger} {stamp : Stamp} {input : RecordScoreInput} {status : ScoreTransactionStatus} {row : ScoreTransaction} {after : Ledger}

@[simp] theorem refuseWhen_eq_none : refuseWhen condition code error = none ↔ condition = false := by
  cases condition <;> simp [refuseWhen]

theorem requestedStatus_live : requestedStatus .live input = input.status.getD .accepted := by
  simp [requestedStatus]

theorem participantIds_newTransaction (status : ScoreTransactionStatus) :
    participantIds (ledger.newTransaction stamp input status).postings = participantIds input.postings := by
  simp [participantIds, newTransaction, Function.comp_def]

theorem pointsFor_newTransaction (status : ScoreTransactionStatus) (participantId : String) :
    pointsFor (ledger.newTransaction stamp input status).postings participantId = pointsFor input.postings participantId :=
  totalOf_map ..

theorem positivePoints_newTransaction (status : ScoreTransactionStatus) :
    positivePoints (ledger.newTransaction stamp input status).postings = positivePoints input.postings := by
  simp [positivePoints, newTransaction, Function.comp_def]

def inserted (pools : ScorePools) (row : ScoreTransaction) (updateProjection : Bool) : Ledger :=
  { ledger with
    pools := pools
    transactions := ledger.transactions ++ [row]
    projections :=
      if updateProjection then creditAll ScorePosting.participantId ScorePosting.points ledger.projections row.postings
      else ledger.projections }

theorem insertTransaction_ok {updateProjection : Bool} :
    ledger.insertTransaction stamp input status updateProjection = .ok (row, after) ↔
      ∃ pools, ledger.pools.draw input status = .ok pools ∧ ledger.violation (ledger.newTransaction stamp input status) = none ∧
        row = { ledger.newTransaction stamp input status with postings := input.postings } ∧
        after = ledger.inserted pools (ledger.newTransaction stamp input status) updateProjection := by
  unfold insertTransaction
  cases drawn : ledger.pools.draw input status with
  | error => simp
  | ok =>
    cases free : ledger.violation (ledger.newTransaction stamp input status) with
    | some => simp [free]
    | none => simp [free, inserted, eq_comm]

theorem recordScoreInTransaction_ok :
    ledger.recordScoreInTransaction stamp input = .ok (row, after) ↔
      invalidScore input = none ∧ ledger.unknownActivity input = none ∧
        ((ledger.existingTransaction input.eventSlug input.idempotencyKey = some row ∧ after = ledger) ∨
          (ledger.existingTransaction input.eventSlug input.idempotencyKey = none ∧
            notAccepting (ledger.lockSettings input.eventSlug).state input = none ∧ ledger.ineligible input = none ∧
            ledger.insertTransaction stamp input (requestedStatus (ledger.lockSettings input.eventSlug).state input)
              (requestedStatus (ledger.lockSettings input.eventSlug).state input == .accepted) = .ok (row, after))) := by
  unfold recordScoreInTransaction
  dsimp only
  cases invalid : (invalidScore input <|> ledger.unknownActivity input) with
  | some =>
    simp only [reduceCtorEq, false_iff]
    rintro ⟨valid, known, -⟩
    simp [valid, known] at invalid
  | none =>
    obtain ⟨valid, known⟩ := (orElse_eq_none _ _).mp invalid
    cases existing : ledger.existingTransaction input.eventSlug input.idempotencyKey with
    | some => simp [valid, known, eq_comm]
    | none =>
      cases objection : (notAccepting (ledger.lockSettings input.eventSlug).state input <|> ledger.ineligible input) with
      | some =>
        simp only [reduceCtorEq, false_iff]
        rintro ⟨-, -, ⟨found, -⟩ | ⟨-, accepting, eligible, -⟩⟩
        · cases found
        · simp [accepting, eligible] at objection
      | none =>
        obtain ⟨accepting, eligible⟩ := (orElse_eq_none _ _).mp objection
        simp [valid, known, accepting, eligible]

theorem mapError_ok {ε δ : Type} {f : ε → δ} {result : Except ε α} {value : α} : result.mapError f = .ok value ↔ result = .ok value := by
  cases result <;> simp [Except.mapError]

theorem map_ok {ε β : Type} {f : α → β} {result : Except ε α} {value : β} : result.map f = .ok value ↔ ∃ found, result = .ok found ∧ f found = value := by
  cases result <;> simp [Except.map]

theorem recordScore_ok : ledger.recordScore stamp input = .ok (row, after) ↔ ledger.recordScoreInTransaction stamp input = .ok (row, after) :=
  mapError_ok

/-! What stands against a transaction, and in which order. -/

theorem refuseWhen_ne (other : error ≠ "The remaining points pool is too small") :
    refuseWhen condition code error ≠ some poolShort := by
  cases condition <;> simp [refuseWhen, poolShort, other]

theorem orElse_ne {first second : Option Failure} (before : first ≠ some failure) (after : second ≠ some failure) :
    (first <|> second) ≠ some failure := by
  cases first with
  | none => exact after
  | some => exact before

/-- What is asked of a new transaction before its pool is. -/
structure Unopposed (ledger : Ledger) (input : RecordScoreInput) : Prop where
  valid : invalidScore input = none
  known : ledger.unknownActivity input = none
  new : ledger.existingTransaction input.eventSlug input.idempotencyKey = none
  accepting : notAccepting (ledger.lockSettings input.eventSlug).state input = none
  eligible : ledger.ineligible input = none

theorem objection_ne : (invalidScore input <|> ledger.unknownActivity input) ≠ some poolShort :=
  orElse_ne (orElse_ne (refuseWhen_ne (by decide)) (orElse_ne (refuseWhen_ne (by decide)) (refuseWhen_ne (by decide))))
    (refuseWhen_ne (by decide))

theorem notAccepting_ne {state : ScoringState} : notAccepting state input ≠ some poolShort :=
  orElse_ne (refuseWhen_ne (by decide)) (refuseWhen_ne (by decide))

theorem ineligible_ne : ledger.ineligible input ≠ some poolShort :=
  orElse_ne (refuseWhen_ne (by decide)) <| orElse_ne (refuseWhen_ne (by decide)) <| orElse_ne (refuseWhen_ne (by decide)) <|
    orElse_ne (refuseWhen_ne (by decide)) <| orElse_ne (orElse_ne (refuseWhen_ne (by decide)) (refuseWhen_ne (by decide))) <|
    orElse_ne (orElse_ne (refuseWhen_ne (by decide)) (refuseWhen_ne (by decide))) (refuseWhen_ne (by decide))

/-- The pool named holds less than the postings give. -/
def Short (pools : ScorePools) (input : RecordScoreInput) : Prop :=
  positivePoints input.postings ≠ 0 ∧ ∃ poolId, truthy input.poolId = some poolId ∧
    ((pools.find? poolId input.eventSlug).map ScorePool.available).getD (-1) < positivePoints input.postings

theorem draw_cases (pools : ScorePools) :
    Short pools input ∧ pools.draw input status = .error poolShort ∨ ¬ Short pools input ∧ ∃ drawn, pools.draw input status = .ok drawn := by
  unfold Short ScorePools.draw
  cases truthy input.poolId with
  | none => simp
  | some poolId =>
    by_cases zero : positivePoints input.postings = 0
    · simp [zero]
    · dsimp only
      rw [if_neg zero]
      split
      · next short => exact .inl ⟨⟨zero, poolId, rfl, short⟩, rfl⟩
      · next room => exact .inr ⟨fun ⟨_, _, same, short⟩ => room (some.inj same ▸ short), _, rfl⟩

theorem scoreConstraintError_short : scoreConstraintError failure = poolShort ↔ failure = poolShort := by
  cases failure with
  | refused => rfl
  | violated constraint => cases constraint <;> simp [scoreConstraintError, poolShort]

theorem mapError_short {result : Except Failure α} :
    result.mapError scoreConstraintError = .error poolShort ↔ result = .error poolShort := by
  cases result <;> simp [Except.mapError, scoreConstraintError_short]

/-- What becomes of a transaction that is new and that nobody objects to. -/
theorem recordScore_unopposed (free : ledger.Unopposed input) :
    (ledger.recordScore stamp input = .error poolShort ↔ Short ledger.pools input) ∧
    ((∃ answer, ledger.recordScore stamp input = .ok answer) ↔ ¬ Short ledger.pools input ∧
      ledger.violation (ledger.newTransaction stamp input (requestedStatus (ledger.lockSettings input.eventSlug).state input)) = none) := by
  unfold recordScore
  simp only [mapError_short, mapError_ok]
  unfold recordScoreInTransaction
  simp only [free.valid, free.known, free.new, free.accepting, free.eligible, Option.orElse_eq_orElse, Option.orElse_none]
  unfold insertTransaction
  rcases @draw_cases input (requestedStatus (ledger.lockSettings input.eventSlug).state input) ledger.pools with
    ⟨short, drawn⟩ | ⟨room, pools, drawn⟩
  · simp [drawn, short]
  · rw [drawn]
    dsimp only
    cases ledger.violation (ledger.newTransaction stamp input (requestedStatus (ledger.lockSettings input.eventSlug).state input)) <;>
      simp [room, poolShort]

theorem recordScore_opposed (opposed : ¬ ledger.Unopposed input) :
    ledger.recordScore stamp input ≠ .error poolShort ∧
    ((∃ answer, ledger.recordScore stamp input = .ok answer) ↔ invalidScore input = none ∧ ledger.unknownActivity input = none ∧
      (ledger.existingTransaction input.eventSlug input.idempotencyKey).isSome) := by
  unfold recordScore
  simp only [Ne, mapError_short, mapError_ok]
  unfold recordScoreInTransaction
  cases invalid : (invalidScore input <|> ledger.unknownActivity input) with
  | some failure =>
    have other : failure ≠ poolShort := fun same => objection_ne (invalid.trans (congrArg some same))
    have clear : ¬ (invalidScore input = none ∧ ledger.unknownActivity input = none) := by
      rw [← orElse_eq_none, invalid]
      simp
    exact ⟨by simp [other], by simpa using fun valid known => absurd ⟨valid, known⟩ clear⟩
  | none =>
    obtain ⟨valid, known⟩ := (orElse_eq_none _ _).mp invalid
    cases existing : ledger.existingTransaction input.eventSlug input.idempotencyKey with
    | some => simp [valid, known]
    | none =>
      dsimp only
      cases objection : (notAccepting (ledger.lockSettings input.eventSlug).state input <|> ledger.ineligible input) with
      | some failure =>
        have other : failure ≠ poolShort :=
          fun same => orElse_ne notAccepting_ne ineligible_ne (objection.trans (congrArg some same))
        simp [other]
      | none =>
        obtain ⟨accepting, eligible⟩ := (orElse_eq_none _ _).mp objection
        exact absurd ⟨valid, known, existing, accepting, eligible⟩ opposed

theorem reverseScore_ok {originalTransactionId : String} :
    ledger.reverseScore stamp eventSlug originalTransactionId input = .ok (row, after) ↔
      ∃ original, ledger.transactionOf originalTransactionId eventSlug = some original ∧ original.status = .accepted ∧ original.postings ≠ [] ∧
        ledger.recordScoreInTransaction stamp (reversalOf eventSlug originalTransactionId original input) = .ok (row, after) := by
  unfold reverseScore reverseScoreInTransaction
  rw [mapError_ok]
  cases ledger.transactionOf originalTransactionId eventSlug with
  | none => simp
  | some original =>
    by_cases accepted : original.status = .accepted
    · by_cases empty : original.postings = []
      · simp [accepted, empty]
      · simp [accepted, empty]
    · simp [accepted]

theorem acceptHeldScore_ok {transactionId : String} :
    ledger.acceptHeldScore eventSlug transactionId = .ok (row, after) ↔
      (ledger.lockSettings eventSlug).state = .live ∧
        ∃ held pools, ledger.heldTransaction eventSlug transactionId = some held ∧ ledger.heldRefusal held = none ∧
          ledger.pools.release eventSlug held = .ok pools ∧ row = { held with status := .accepted } ∧
          after = { ledger with
            pools := pools
            transactions := update ledger.transactions (·.id == transactionId) fun row => { row with status := .accepted }
            projections := creditAll ScorePosting.participantId ScorePosting.points ledger.projections held.postings } := by
  unfold acceptHeldScore
  by_cases live : (ledger.lockSettings eventSlug).state = .live
  · rw [if_neg (not_not_intro live)]
    cases ledger.heldTransaction eventSlug transactionId with
    | none => simp
    | some held =>
      cases refusal : ledger.heldRefusal held with
      | some => simp [refusal]
      | none =>
        cases released : ledger.pools.release eventSlug held with
        | error => simp [refusal, released]
        | ok => simp [live, refusal, released, eq_comm]
  · simp [live]

theorem new_id (free : ledger.violation row = none) : ∀ other ∈ ledger.transactions, other.id ≠ row.id := by
  intro other mem same
  have taken : ledger.transactions.any (·.id == row.id) := any_eq_true.mpr ⟨other, mem, beq_iff_eq.mpr same⟩
  simp [violation, taken] at free

end

end Ledger

end MilkAndHenny.Scoring

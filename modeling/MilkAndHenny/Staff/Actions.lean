import MilkAndHenny.Scoring.Ledger
import MilkAndHenny.Staff.Scope

/-! What staff may do to the scores of an event: award points, mint an award QR, undo an
award, scan a checkpoint and reserve points for scoring offline. An award is recorded by the
ledger, which draws on the pool the assignment brings; an undone award and a scan are handed on. -/

namespace MilkAndHenny.Staff
open Scoring (Failure Ledger RecordScoreInput ScoreParticipant ScorePool ScoreTransaction Stamp poolShort)
open Scoring.Ledger (refuseWhen)

/-- `SCORE_ECONOMY.maximumSingleAward`. -/
def maximumSingleAward : Int := 25

inductive ScoreRuleMode where
  | fixed | rawNormalized | placement | participation | diminishing
deriving DecidableEq

structure ScoreRule where
  mode : ScoreRuleMode
  fixedPoints : Option Rat := none
  pointsPerUnit : Option Rat := none
  maximumPoints : Option Rat := none
  placementPoints : List (Int × Rat) := []
  participationPoints : Option Rat := none
  tiers : List Rat := []

inductive ActivityTemplate where
  | freeForm | discovery | other
deriving DecidableEq

inductive ActivityStatus where
  | live | scheduled | other
deriving DecidableEq

/-- Identifiers are minted with a prefix, so none is empty. -/
structure ScoreActivity where
  id : String
  named : id ≠ ""
  template : ActivityTemplate
  status : ActivityStatus
  startsAt : Option Int := none
  endsAt : Option Int := none
  rule : ScoreRule

def ScoreActivity.activityCanAccept (activity : ScoreActivity) (now : Int) : Bool :=
  (activity.status == .live || activity.status == .scheduled) &&
    activity.startsAt.all (· ≤ now) && activity.endsAt.all (now ≤ ·)

/-- A row of `score_audit_events` about a score transaction. -/
structure ScoreAuditEvent where
  eventSlug : String
  entityId : String
  assignmentId : Option String

inductive ReservationStatus where
  | active | closed
deriving DecidableEq

/-- A row of `score_offline_reservations`. -/
structure OfflineReservation where
  id : String
  assignmentId : String
  deviceId : String
  activityId : String
  poolId : String
  issued : Nat
  spent : Nat := 0
  expiresAt : Int
  status : ReservationStatus := .active

/-- What the tables hold: the ledger, the activities of one event, when the transactions were
written. Tickets and orders are known by what they are looked up for. -/
structure EventBook where
  ledger : Ledger
  activities : List ScoreActivity
  scoringEffective : Bool := true
  manualStaffAwardsEffective : Bool := true
  participantFromScannedValue : String → Option ScoreParticipant
  participantIdsInTicketOrder : String → List String
  createdAt : String → Int
  audit : List ScoreAuditEvent
  reservations : List OfflineReservation

inductive StaffRefusal where
  | activityOutsideAssignment | activityNotFound | configuredOutcomeOnly | customAwardUnavailable
  | participantNotFound | orderEmpty | aboveRoleMaximum (maximum : Int) | aboveQrMaximum (maximum : Int)
  | awardUnconfirmed (points : Rat) | noPool | notRecorded (failure : Failure)
  | qrWithoutAward | qrAboveSingleAward | customQrWithoutReason | freeFormQrWithoutReason
  | cannotReverse | awardNotFound | notOwnAward | undoWindowEnded
  | checkpointOutsideRole
  | budgetNotPositive | cannotScoreOffline | unmeteredOffline | aboveOfflineBudget (maximum : Int) | poolTooSmall

namespace StaffRefusal

/-- The status and the text. -/
def failure : StaffRefusal → Failure
  | activityOutsideAssignment => .refused 403 "This activity is outside this staff assignment"
  | activityNotFound => .refused 404 "Activity not found"
  | configuredOutcomeOnly => .refused 403 "Use the configured activity outcome"
  | customAwardUnavailable => .refused 403 "This staff link cannot create custom awards"
  | participantNotFound => .refused 404 "Participant not found"
  | orderEmpty => .refused 409 "No active tickets in this order can receive points"
  | aboveRoleMaximum maximum => .refused 400 s!"This role can award at most {maximum} points per person at once"
  | aboveQrMaximum maximum => .refused 400 s!"This role can put at most {maximum} points on one QR"
  | awardUnconfirmed points => .refused 409 s!"Confirm this {points}-point award before you continue"
  | noPool => .refused 409 "This staff assignment has no points pool"
  | notRecorded failure => failure
  | qrWithoutAward => .refused 400 "This activity needs a fixed positive QR award"
  | qrAboveSingleAward => .refused 400 s!"One QR cannot award more than {maximumSingleAward} points"
  | customQrWithoutReason => .refused 400 "A custom QR award needs a reason"
  | freeFormQrWithoutReason => .refused 400 "A free-form QR award needs a reason"
  | cannotReverse => .refused 403 "This staff link cannot reverse awards"
  | awardNotFound => .refused 404 "Award not found"
  | notOwnAward => .refused 403 "Staff can reverse only their own award"
  | undoWindowEnded => .refused 409 "The quick undo window has ended; ask a manager"
  | checkpointOutsideRole => .refused 403 "This role cannot scan that checkpoint"
  | budgetNotPositive => .refused 400 "Choose a positive whole-point budget"
  | cannotScoreOffline => .refused 403 "This staff link cannot score offline"
  | unmeteredOffline => .refused 409 "Unmetered scoring is online only"
  | aboveOfflineBudget maximum => .refused 409 s!"Offline budget cannot exceed {maximum}"
  | poolTooSmall => .refused 409 "The confirmed pool cannot fund that offline budget"

/-- Does the refusal say that the role is too narrow: its permission, its scope, or the
amount it allows? -/
def lacksAuthority : StaffRefusal → Bool
  | activityOutsideAssignment | configuredOutcomeOnly | customAwardUnavailable | aboveRoleMaximum _
  | aboveQrMaximum _ | noPool | cannotReverse | notOwnAward | checkpointOutsideRole | cannotScoreOffline
  | unmeteredOffline | aboveOfflineBudget _ | poolTooSmall => true
  | notRecorded failure => failure = poolShort
  | _ => false

end StaffRefusal

/-- `convertRulePoints`. -/
def ScoreRule.convertRulePoints (rule : ScoreRule) (rawScore : Option Rat) (placement : Option Int) : Int :=
  let points : Rat := match rule.mode with
    | .fixed => rule.fixedPoints.getD 0
    | .rawNormalized => round (rawScore.getD 0 * rule.pointsPerUnit.getD 1)
    | .placement => (rule.placementPoints.lookup (placement.getD 0)).getD 0
    | .participation => rule.participationPoints.getD 0
    | .diminishing =>
      let index := placement.getD 1 - 1
      if index < 0 then 0 else rule.tiers.getD index.toNat 0
  let limited := match rule.maximumPoints with
    | none => points
    | some maximum => min points maximum
  max 0 (truncate limited)

namespace StaffAssignment
variable (assignment : StaffAssignment)

def maximumAward : Int :=
  min maximumSingleAward (max 1 (truncate (assignment.scopeNumber "maxPointsPerAward" maximumSingleAward)))

/-- From how many points on an award must be confirmed. -/
def warningAt : Rat :=
  min (assignment.maximumAward : Rat) (max 1 (assignment.scopeNumber "largeAwardWarningAt" 10))

def offlineBudgetMax : Int :=
  match (assignment.scope.lookup "offlineBudgetMax").bind Json.asNumber with
  | some value => max 1 (truncate value)
  | none => 50

end StaffAssignment

namespace EventBook
variable (book : EventBook) (request : StaffRequest)

/-- `listPools`. -/
def pools : List ScorePool :=
  book.ledger.pools.rows.filter (·.eventSlug == request.eventSlug)

def poolFor (activityId : String) (assignment : StaffAssignment) : Option ScorePool :=
  ((book.pools request).find? fun pool => pool.activityId == some activityId).or
    ((book.pools request).find? fun pool => pool.ownerId == some assignment.id)

end EventBook

inductive RecipientScope where
  | participant | order

structure AwardInput where
  activityId : String
  participantId : Option String := none
  scanned : Option String := none
  placement : Option Int := none
  rawScore : Option Rat := none
  points : Option Rat := none
  recipientScope : RecipientScope := .participant
  commandId : String
  note : Option String := none
  confirmLarge : Bool := false

def AwardInput.worth (input : AwardInput) (activity : ScoreActivity) : Rat :=
  input.points.getD (activity.rule.convertRulePoints input.rawScore input.placement)

/-- `note?.trim()`, where a blank note counts as none. -/
def trimmed (note : Option String) : Option String :=
  (note.map Zip.trim).filter (· ≠ "")

/-- The input of `awardPoints`. -/
structure AwardPointsInput where
  activityId : String
  participantIds : List String
  rawScore : Option Rat
  placement : Option Int
  points : Option Rat
  sourceId : String
  idempotencyKey : String
  assignmentId : String
  note : Option String
  poolId : Option String
  allowOverride : Bool

def AwardPointsInput.worth (input : AwardPointsInput) (activity : ScoreActivity) : Rat :=
  input.points.getD (activity.rule.convertRulePoints input.rawScore input.placement)

/-- What `awardPoints` has the ledger record. -/
def AwardPointsInput.record (input : AwardPointsInput) (eventSlug : String) (activity : ScoreActivity) : RecordScoreInput where
  eventSlug := eventSlug
  activityId := some input.activityId
  sourceType := if activity.template = .discovery then .discovery else .manual
  sourceId := input.sourceId
  idempotencyKey := input.idempotencyKey
  status := none
  note := input.note
  assignmentId := some input.assignmentId
  originalTransactionId := none
  metadata := ⟨none, false⟩
  postings := input.participantIds.map fun participantId => ⟨participantId, (input.worth activity).num, none⟩
  poolId := input.poolId

namespace EventBook
variable (book : EventBook) (request : StaffRequest)

/-- What `awardPoints` itself says against an award of staff. The activity is one of the event. -/
def awardRefusal (activity : ScoreActivity) (input : AwardPointsInput) : Option Failure :=
  let state := (book.ledger.lockSettings request.eventSlug).state
  let points := input.worth activity
  refuseWhen (!book.scoringEffective) 409 "Scoring is paused for this event" <|>
    refuseWhen (!book.manualStaffAwardsEffective) 409 "Manual awards are paused for this event" <|>
    refuseWhen (state ≠ .live && state ≠ .frozen) 409 "Scoring is not live or is closed" <|>
    refuseWhen (!activity.activityCanAccept request.now) 409 "This activity is not accepting results" <|>
    refuseWhen input.participantIds.isEmpty 400 "Choose at least one participant" <|>
    refuseWhen (points.den ≠ 1 || points ≤ 0) 400 "This result does not award points" <|>
    refuseWhen (maximumSingleAward < points) 400 s!"One result cannot award more than {maximumSingleAward} points per person" <|>
    refuseWhen (input.allowOverride && (trimmed input.note).isNone) 400 "An override needs a note" <|>
    refuseWhen (activity.template == .freeForm && (trimmed input.note).isNone) 400 "A free-form award needs a note"

def awardPoints (ledger : Ledger) (stamp : Stamp) (activity : ScoreActivity) (input : AwardPointsInput) :
    Except Failure (ScoreTransaction × Ledger) :=
  match book.awardRefusal request activity input with
  | some failure => .error failure
  | none => ledger.recordScore stamp (input.record request.eventSlug activity)

/-- The row the ledger finds under the assignment's id is the assignment's. -/
def ledgerFor (assignment : StaffAssignment) : Ledger :=
  { book.ledger with assignments := [⟨assignment.id, assignment.personId⟩] }

def recipient (input : AwardInput) : Option ScoreParticipant :=
  (match input.scanned.filter (· ≠ "") with
    | some scanned => book.participantFromScannedValue scanned
    | none => (input.participantId.filter (· ≠ "")).bind fun participantId =>
      book.ledger.participants.find? fun participant => participant.id == participantId).filter
    fun participant => participant.eventSlug == request.eventSlug

def recipientIds (input : AwardInput) (participant : ScoreParticipant) : List String :=
  match input.recipientScope with
  | .order => book.participantIdsInTicketOrder participant.id
  | .participant => [participant.id]

def awardPointsInput (assignment : StaffAssignment) (activity : ScoreActivity) (participant : ScoreParticipant)
    (input : AwardInput) : AwardPointsInput where
  activityId := activity.id
  participantIds := book.recipientIds input participant
  rawScore := input.rawScore
  placement := input.placement
  points := input.points
  sourceId := "staff_" ++ input.commandId
  idempotencyKey := input.commandId
  assignmentId := assignment.id
  note := input.note
  poolId := (book.poolFor request activity.id assignment).map (·.id)
  allowOverride := input.points.isSome

/-- The award, once an assignment speaks for it. -/
def awardWith (stamp : Stamp) (assignment : StaffAssignment) (input : AwardInput) : Except StaffRefusal (ScoreTransaction × Ledger) :=
  match book.activities.find? fun entry => entry.id == input.activityId with
  | none => .error .activityNotFound
  | some activity =>
    if input.points.isSome ∧ assignment.scopeBoolean "allowFreeformPoints" = false then
      .error .configuredOutcomeOnly
    else match book.recipient request input with
      | none => .error .participantNotFound
      | some participant =>
        let points := input.worth activity
        if book.recipientIds input participant = [] then .error .orderEmpty
        else if (assignment.maximumAward : Rat) < points then .error (.aboveRoleMaximum assignment.maximumAward)
        else if assignment.warningAt ≤ points ∧ input.confirmLarge = false then .error (.awardUnconfirmed points)
        else if (book.poolFor request activity.id assignment).isNone ∧ assignment.scopeBoolean "unmetered" = false then
          .error .noPool
        else
          (book.awardPoints request (book.ledgerFor assignment) stamp activity
            (book.awardPointsInput request assignment activity participant input)).mapError .notRecorded

def awardStaffPoints (stamp : Stamp) (access : Option ResolvedStaffAccess) (input : AwardInput) :
    Except StaffRefusal (ScoreTransaction × Ledger) :=
  match assignmentFor access .awardPoints (some input.activityId) with
  | none => .error .activityOutsideAssignment
  | some assignment => book.awardWith request stamp assignment input

end EventBook

structure MintInput where
  activityId : String
  points : Option Rat := none
  note : Option String := none
  expiresInSeconds : Option Rat := none

/-- A row of `score_staff_award_claims`, and the points its QR shows. -/
structure StaffAwardClaim where
  assignmentId : String
  activityId : String
  poolId : Option String
  pointsOverride : Option Rat
  note : Option String
  deviceId : String
  expiresAt : Int
  points : Rat

def ScoreRule.qrPoints (rule : ScoreRule) : Option Rat :=
  if rule.mode = .participation then rule.participationPoints else rule.fixedPoints

namespace EventBook
variable (book : EventBook) (request : StaffRequest)

def createStaffAwardClaim (assignment : StaffAssignment) (activity : ScoreActivity) (poolId : Option String)
    (input : MintInput) : Except StaffRefusal StaffAwardClaim :=
  match input.points.or activity.rule.qrPoints with
  | none => .error .qrWithoutAward
  | some points =>
    if points.den ≠ 1 ∨ points < 1 then .error .qrWithoutAward
    else if maximumSingleAward < points then .error .qrAboveSingleAward
    else if input.points.isSome ∧ trimmed input.note = none then .error .customQrWithoutReason
    else if activity.template = .freeForm ∧ trimmed input.note = none then .error .freeFormQrWithoutReason
    else .ok
      { assignmentId := assignment.id, activityId := activity.id, poolId, pointsOverride := input.points,
        note := trimmed input.note, deviceId := request.deviceId, points,
        expiresAt := request.now + min 180 (max 15 (truncate (input.expiresInSeconds.getD 60))) * 1000 }

/-- The QR, once an assignment speaks for it. -/
def mintWith (assignment : StaffAssignment) (input : MintInput) : Except StaffRefusal StaffAwardClaim :=
  if input.points.isSome ∧ assignment.scopeBoolean "allowFreeformPoints" = false then
    .error .customAwardUnavailable
  else if input.points.any ((assignment.maximumAward : Rat) < ·) then
    .error (.aboveQrMaximum assignment.maximumAward)
  else match book.activities.find? fun entry => entry.id == input.activityId && entry.status == .live with
    | none => .error .activityNotFound
    | some activity =>
      let pool := book.poolFor request activity.id assignment
      if pool.isNone ∧ assignment.scopeBoolean "unmetered" = false then .error .noPool
      else createStaffAwardClaim request assignment activity (pool.map (·.id)) input

def mintStaffAwardClaim (access : Option ResolvedStaffAccess) (input : MintInput) :
    Except StaffRefusal StaffAwardClaim :=
  match assignmentFor access .awardPoints (some input.activityId) with
  | none => .error .activityOutsideAssignment
  | some assignment => book.mintWith request assignment input

end EventBook

structure ReverseInput where
  transactionId : String
  commandId : Option String := none
  note : String

/-- What `reversePoints` of the ledger is asked to do. -/
structure ReversalOrder where
  transactionId : String
  idempotencyKey : Option String
  actorId : String
  note : String

namespace EventBook
variable (book : EventBook) (request : StaffRequest)

/-- Was the award recorded under the assignment? -/
def madeBy (transactionId : String) (assignment : StaffAssignment) : Bool :=
  book.audit.any fun event =>
    event.eventSlug == request.eventSlug && event.entityId == transactionId && event.assignmentId == some assignment.id

def transactionOf (transactionId : String) : Option ScoreTransaction :=
  (book.ledger.transactions.find? fun row => row.id == transactionId).filter fun row => row.eventSlug == request.eventSlug

def reverseWith (assignment : StaffAssignment) (input : ReverseInput) : Except StaffRefusal ReversalOrder :=
  match book.transactionOf request input.transactionId with
  | none => .error .awardNotFound
  | some row =>
    if book.madeBy request input.transactionId assignment = false then .error .notOwnAward
    else if 15 * 60 * 1000 < request.now - book.createdAt row.id then .error .undoWindowEnded
    else .ok
      { transactionId := input.transactionId, idempotencyKey := input.commandId, actorId := assignment.id,
        note := input.note }

def reverseStaffAward (access : Option ResolvedStaffAccess) (input : ReverseInput) :
    Except StaffRefusal ReversalOrder :=
  match assignmentFor access .reverseAwards none with
  | none => .error .cannotReverse
  | some assignment => book.reverseWith request assignment input

end EventBook

/-- What `checkpointScan` is asked to do. -/
structure CheckpointOrder where
  checkpointId : String
  scanned : String
  consume : Nat
  scannedBy : String

def scanStaffCheckpoint (access : Option ResolvedStaffAccess) (checkpointId scanned : String) :
    Except StaffRefusal CheckpointOrder :=
  match staffAssignmentForPermission access .scanCheckpoints (·.canUseCheckpoint checkpointId) with
  | none => .error .checkpointOutsideRole
  | some assignment => .ok { checkpointId, scanned, consume := 1, scannedBy := assignment.label }

structure OfflineInput where
  activityId : String
  points : Rat
  expiresInMinutes : Option Rat := none

namespace EventBook
variable (book : EventBook) (request : StaffRequest)

def reservationOf (assignment : StaffAssignment) (activityId : String) : Option OfflineReservation :=
  book.reservations.find? fun row =>
    row.assignmentId == assignment.id && row.deviceId == request.deviceId && row.activityId == activityId &&
      row.status == .active

def closeReservation (current : OfflineReservation) : EventBook :=
  { book with
    reservations := book.reservations.map fun row =>
      if row.id = current.id then { row with status := .closed } else row
    ledger := { book.ledger with
      pools := book.ledger.pools.change current.poolId
        (fun pool => { pool with reserved := pool.reserved - (current.issued - current.spent) }) fun _ => rfl } }

def fundingPool (assignment : StaffAssignment) (activityId : String) (points : Int) : Option ScorePool :=
  ((book.pools request).find? fun pool => pool.activityId == some activityId && decide (points ≤ pool.available)).or
    ((book.pools request).find? fun pool => pool.ownerId == some assignment.id && decide (points ≤ pool.available))

def reserve (assignment : StaffAssignment) (input : OfflineInput) (points : Int) (freshId : String) :
    EventBook × Except StaffRefusal OfflineReservation :=
  match book.fundingPool request assignment input.activityId points with
  | none => (book, .error .poolTooSmall)
  | some pool =>
    let minutes := min 240 (max 5 (truncate (input.expiresInMinutes.getD 60)))
    let row : OfflineReservation :=
      { id := freshId, assignmentId := assignment.id, deviceId := request.deviceId, activityId := input.activityId,
        poolId := pool.id, issued := points.toNat, expiresAt := request.now + minutes * 60000 }
    ({ book with
        ledger := { book.ledger with
          pools := book.ledger.pools.change pool.id
            (fun pool => { pool with reserved := pool.reserved + points.toNat }) fun _ => rfl }
        reservations := book.reservations ++ [row] }, .ok row)

/-- The budget, once an assignment speaks for it. An active reservation that has not run out
is handed out again; one that has is closed first. -/
def reserveWith (assignment : StaffAssignment) (input : OfflineInput) (points : Int) (freshId : String) :
    EventBook × Except StaffRefusal OfflineReservation :=
  if assignment.scopeBoolean "unmetered" = true then (book, .error .unmeteredOffline)
  else if assignment.offlineBudgetMax < points then (book, .error (.aboveOfflineBudget assignment.offlineBudgetMax))
  else match book.reservationOf request assignment input.activityId with
    | none => book.reserve request assignment input points freshId
    | some current =>
      if request.now < current.expiresAt then (book, .ok current)
      else (book.closeReservation current).reserve request assignment input points freshId

def reserveOfflineScoreBudget (access : Option ResolvedStaffAccess) (input : OfflineInput) (freshId : String) :
    EventBook × Except StaffRefusal OfflineReservation :=
  if input.points.den ≠ 1 ∨ input.points < 1 then (book, .error .budgetNotPositive)
  else match staffAssignmentForPermission access .awardPoints (·.canScoreOffline input.activityId) with
    | none => (book, .error .cannotScoreOffline)
    | some assignment => book.reserveWith request assignment input input.points.num freshId

end EventBook

end MilkAndHenny.Staff

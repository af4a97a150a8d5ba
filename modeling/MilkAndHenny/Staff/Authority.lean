import MilkAndHenny.Library.Choice
import MilkAndHenny.Staff.Actions

/-! Who may do what to the scores. Each action asks the first assignment that grants its
permission and admits its activity, and takes the limits from that assignment alone. -/

namespace MilkAndHenny.Staff
variable {rows : List StaffAssignment} {devices : List StaffDevice} {request : StaffRequest}
  {assignment : StaffAssignment}
variable {α : Type} {row : StaffAssignment} {access : Option ResolvedStaffAccess} {activityId : String}
open Library
open Scoring (Failure Ledger ScoreParticipant ScorePool Stamp poolShort)
open Scoring.Ledger (orElse_ne refuseWhen_ne)

/-- What an answer says about the one who asked. -/
def ruling {α : Type} : Except StaffRefusal α → Ruling
  | .ok _ => .granted
  | .error refusal => if refusal.lacksAuthority then .denied else .declined

@[simp] theorem ruling_ok {value : α} : ruling (.ok value) = .granted := rfl

@[simp] theorem ruling_error {refusal : StaffRefusal} :
    ruling (.error refusal : Except StaffRefusal α) = if refusal.lacksAuthority then .denied else .declined := rfl

attribute [simp] StaffRefusal.lacksAuthority

def personalRequest (eventSlug : String) (personId : Option String) (deviceId : String) (now : Int) : StaffRequest :=
  { eventSlug, token := .personal, personId, deviceId, now }

def serves (devices : List StaffDevice) (request : StaffRequest) (row : StaffAssignment) : Bool :=
  row.eventSlug == request.eventSlug && request.personId.isSome && row.personId == request.personId &&
    row.assignmentType == .personal && row.invitationState == .active && row.active request.now &&
    (request.deviceId == "" || recordStaffDevice devices row.id request.deviceId)

theorem serves_person {devices : List StaffDevice} {request : StaffRequest}
    (able : serves devices request row = true) : row.personId = request.personId := by
  simp only [serves, and_eq_true, beq_iff_eq] at able
  exact able.1.1.1.1.2

section
variable {eventSlug : String} {now : Int}

theorem StaffAssignment.active_expire (row : StaffAssignment) : (row.expire now).active now = row.active now := by
  unfold StaffAssignment.expire
  split
  · next late =>
    simp [StaffAssignment.active, late]
  · rfl

theorem StaffAssignment.expire_active (active : row.active now = true) : row.expire now = row := by
  simp only [StaffAssignment.active, and_eq_true, not_eq_true'] at active
  simp [StaffAssignment.expire, active.2]

theorem resolvePersonalStaffAssignments_eq (person : String) :
    resolvePersonalStaffAssignments rows eventSlug person now =
      rows.filter fun row => row.eventSlug == eventSlug && row.personId == some person &&
        row.assignmentType == .personal && row.invitationState == .active && row.active now := by
  simp only [resolvePersonalStaffAssignments, filter_map, filter_filter]
  rw [map_congr_left (g := id), map_id]
  · refine filter_congr fun row _ => ?_
    simp only [Function.comp_apply, StaffAssignment.active_expire]
    exact Bool.and_comm _ _
  · intro row mem
    simp only [mem_filter, Function.comp_apply, StaffAssignment.active_expire, and_eq_true] at mem
    exact StaffAssignment.expire_active mem.2.1

theorem resolveStaffAccess_assignments (personal : request.token = .personal) :
    ((resolveStaffAccess rows devices request).map (·.assignments)).getD [] =
      rows.filter (serves devices request) := by
  have resolved (found : List StaffAssignment) :
      (Option.map (·.assignments) (if found.isEmpty then none else some (ResolvedStaffAccess.mk found))).getD [] = found := by
    cases found <;> rfl
  refine (resolved _).trans ?_
  obtain ⟨eventSlug, token, personId, deviceId, now⟩ := request
  obtain rfl : token = .personal := personal
  cases personId with
  | none =>
    refine (ite_self _).trans (filter_eq_nil_iff.mpr fun row _ => ?_).symm
    simp [serves]
  | some =>
    simp only [resolvePersonalStaffAssignments_eq, filter_filter]
    split
    · next unnamed =>
      refine filter_congr fun row _ => ?_
      simp [serves, unnamed]
    · next named =>
      refine filter_congr fun row _ => ?_
      simp [serves, beq_false_of_ne named, Bool.and_comm]

theorem staffAssignmentForPermission_eq (personal : request.token = .personal) (permission : StaffPermission) (accepts : StaffAssignment → Bool) :
    staffAssignmentForPermission (resolveStaffAccess rows devices request)
        permission accepts =
      rows.find? fun row => serves devices request row &&
        (row.hasStaffPermission permission && accepts row) := by
  have searched := congrArg (List.find? fun row => row.hasStaffPermission permission && accepts row)
    (@resolveStaffAccess_assignments rows devices _ personal)
  rw [find?_filter] at searched
  simp only [Bool.decide_and, Bool.decide_eq_true] at searched
  rw [← searched]
  cases resolveStaffAccess rows devices request <;> rfl

theorem ruling_speaker {permission : StaffPermission} {accepts : StaffAssignment → Bool}
    {act : StaffAssignment → Except StaffRefusal α} (personal : request.token = .personal) (refusal : StaffRefusal) (denies : refusal.lacksAuthority = true) :
    ruling ((staffAssignmentForPermission
        (resolveStaffAccess rows devices request) permission accepts).elim
        (.error refusal) act) =
      firstQualified (fun row => serves devices request row &&
        (row.hasStaffPermission permission && accepts row)) (fun row => ruling (act row)) rows := by
  rw [staffAssignmentForPermission_eq personal, firstQualified_eq]
  cases rows.find? _ with
  | none => exact if_pos denies
  | some => rfl

end

/-! ### Scanning a checkpoint -/

structure GrantsScan (devices : List StaffDevice) (request : StaffRequest) (checkpointId : String)
    (assignment : StaffAssignment) : Prop where
  serves : serves devices request assignment = true
  permission : assignment.hasStaffPermission .scanCheckpoints = true
  scope : assignment.canUseCheckpoint checkpointId = true

section
variable {access : Option ResolvedStaffAccess} {checkpointId scanned : String}

theorem scanStaffCheckpoint_eq :
    scanStaffCheckpoint access checkpointId scanned =
      (staffAssignmentForPermission access .scanCheckpoints (·.canUseCheckpoint checkpointId)).elim
        (.error .checkpointOutsideRole)
        fun assignment => .ok { checkpointId, scanned, consume := 1, scannedBy := assignment.label } := by
  unfold scanStaffCheckpoint
  cases staffAssignmentForPermission access .scanCheckpoints (·.canUseCheckpoint checkpointId) <;> rfl

theorem scanStaffCheckpoint_fair (personal : request.token = .personal) :
    Fair (GrantsScan devices request checkpointId) rows fun order =>
      ruling (scanStaffCheckpoint
        (resolveStaffAccess order devices request) checkpointId scanned) := by
  simp only [scanStaffCheckpoint_eq, ruling_speaker personal .checkpointOutsideRole rfl]
  refine (firstQualified_fair_iff_agree ?_ ?_).mpr ?_
  · rintro row - ⟨serves, permission, scope⟩
    exact ⟨by simp [serves, permission, scope], nofun⟩
  · intro row _ able _
    simp only [and_eq_true] at able
    exact ⟨able.1, able.2.1, able.2.2⟩
  · intro _ _ _ _ _ _
    rfl

end

/-! ### Undoing an award -/

namespace EventBook
variable (book : EventBook) (devices : List StaffDevice) (request : StaffRequest) {input : ReverseInput}

structure GrantsReversal (transactionId : String) (assignment : StaffAssignment) : Prop where
  serves : serves devices request assignment = true
  permission : assignment.hasStaffPermission .reverseAwards = true
  own : book.madeBy request transactionId assignment = true

def OwnedAlike (rows : List StaffAssignment) (transactionId : String) : Prop :=
  Alike rows (fun row => serves devices request row && row.hasStaffPermission .reverseAwards) fun first second =>
    (book.transactionOf request transactionId).isSome →
      book.madeBy request transactionId first = book.madeBy request transactionId second

variable {book devices request}

theorem reverseStaffAward_eq :
    book.reverseStaffAward request access input =
      (staffAssignmentForPermission access .reverseAwards fun _ => true).elim (.error .cannotReverse)
        (book.reverseWith request · input) := by
  unfold reverseStaffAward assignmentFor
  cases staffAssignmentForPermission access .reverseAwards fun _ => true <;> rfl

theorem ruling_reverseWith_denied :
    ruling (book.reverseWith request assignment input) = .denied ↔
      (book.transactionOf request input.transactionId).isSome ∧
        book.madeBy request input.transactionId assignment = false := by
  unfold reverseWith
  cases book.transactionOf request input.transactionId with
  | none => simp
  | some =>
    simp only
    split
    · next foreign => simp [foreign]
    · next own => split <;> simp [own]

theorem ruling_reverseWith_granted :
    ruling (book.reverseWith request assignment input) = .granted ↔
      (∃ row, book.transactionOf request input.transactionId = some row ∧
        request.now - book.createdAt row.id ≤ 15 * 60 * 1000) ∧
        book.madeBy request input.transactionId assignment = true := by
  unfold reverseWith
  cases book.transactionOf request input.transactionId with
  | none => simp
  | some =>
    simp only
    split
    · next foreign => simp [foreign]
    · next own =>
      split
      · simp [own]
        omega
      · simp [own]
        omega

theorem reverseStaffAward_fair_iff (personal : request.token = .personal) :
    Fair (book.GrantsReversal devices request input.transactionId) rows
        (fun order => ruling (book.reverseStaffAward request
          (resolveStaffAccess order devices request) input)) ↔
      book.OwnedAlike devices request rows input.transactionId := by
  simp only [reverseStaffAward_eq, ruling_speaker personal .cannotReverse rfl, Bool.and_true]
  rw [firstQualified_fair_iff_agree]
  · refine alike_congr fun first second => ?_
    rw [Ruling.eq_iff, ruling_reverseWith_denied, ruling_reverseWith_denied, ruling_reverseWith_granted,
      ruling_reverseWith_granted]
    cases book.transactionOf request input.transactionId with
    | none => simp
    | some =>
      cases book.madeBy request input.transactionId first <;>
        cases book.madeBy request input.transactionId second <;> simp
  · rintro row - ⟨serves, permission, own⟩
    exact ⟨by simp [serves, permission], by simp [ruling_reverseWith_denied, own]⟩
  · intro row _ able granted
    simp only [and_eq_true] at able
    exact ⟨able.1, able.2, (ruling_reverseWith_granted.mp granted).2⟩

end EventBook

/-! ### Awarding points -/

namespace EventBook
variable (book : EventBook) (devices : List StaffDevice) (request : StaffRequest) {stamp : Stamp} {input : AwardInput}

def activity (activityId : String) : Option ScoreActivity :=
  book.activities.find? fun entry => entry.id == activityId

def unfunded (activityId : String) (assignment : StaffAssignment) : Prop :=
  (book.poolFor request activityId assignment).isNone ∧ assignment.scopeBoolean "unmetered" = false

/-- The pool of the award holds less than its recipients would get. -/
def short (input : AwardInput) (activity : ScoreActivity) (participant : ScoreParticipant) (assignment : StaffAssignment) : Prop :=
  ∃ pool, book.poolFor request activity.id assignment = some pool ∧ pool.id ≠ "" ∧
    pool.available < (input.worth activity).num * (book.recipientIds input participant).length

abbrev awardRecord (input : AwardInput) (activity : ScoreActivity) (participant : ScoreParticipant) (assignment : StaffAssignment) :
    Scoring.RecordScoreInput :=
  (book.awardPointsInput request assignment activity participant input).record request.eventSlug activity

/-- The award is new, and neither `awardPoints` nor the ledger has anything against it yet. -/
structure recordable (input : AwardInput) (activity : ScoreActivity) (participant : ScoreParticipant) (assignment : StaffAssignment) :
    Prop where
  allowed : book.awardRefusal request activity (book.awardPointsInput request assignment activity participant input) = none
  unopposed : (book.ledgerFor assignment).Unopposed (book.awardRecord request input activity participant assignment)

def overdraws (input : AwardInput) (activity : ScoreActivity) (assignment : StaffAssignment) : Prop :=
  ∃ participant, book.recipient request input = some participant ∧
    book.recordable request input activity participant assignment ∧ book.short request input activity participant assignment

/-- The assignment serves, may award points, admits the activity, and allows the points:
those named need the freeform flag, none go above its maximum, and they are paid for. -/
structure GrantsAward (input : AwardInput) (assignment : StaffAssignment) : Prop where
  serves : serves devices request assignment = true
  permission : assignment.hasStaffPermission .awardPoints = true
  scope : assignment.canUseActivity input.activityId = true
  freeform : input.points.isSome → assignment.scopeBoolean "allowFreeformPoints" = true
  maximum : ∀ activity, book.activity input.activityId = some activity →
    input.worth activity ≤ (assignment.maximumAward : Rat)
  funded : ¬ book.unfunded request input.activityId assignment
  afforded : ∀ activity, book.activity input.activityId = some activity → ¬ book.overdraws request input activity assignment

def mayAward (activityId : String) (row : StaffAssignment) : Bool :=
  serves devices request row && (row.hasStaffPermission .awardPoints && (activityId == "" || row.canUseActivity activityId))

def received (input : AwardInput) : Prop :=
  ∃ participant, book.recipient request input = some participant ∧ book.recipientIds input participant ≠ []

def asksConfirmation (input : AwardInput) (activity : ScoreActivity) (assignment : StaffAssignment) : Prop :=
  assignment.warningAt ≤ input.worth activity ∧ input.confirmLarge = false

/-- A limit of the assignment stands against the award: the flag for named points, the maximum,
or, once the award is confirmed, the pool, which is missing or holds too little. -/
def awardStopped (input : AwardInput) (activity : ScoreActivity) (assignment : StaffAssignment) : Prop :=
  (input.points.isSome ∧ assignment.scopeBoolean "allowFreeformPoints" = false) ∨
    book.received request input ∧
      ((assignment.maximumAward : Rat) < input.worth activity ∨
        ¬ asksConfirmation input activity assignment ∧
          (book.unfunded request input.activityId assignment ∨ book.overdraws request input activity assignment))

/-- The award was recorded before, or nothing but a pool can keep it from being recorded. -/
def settled (stamp : Stamp) (input : AwardInput) (activity : ScoreActivity) (assignment : StaffAssignment) : Prop :=
  ∃ participant, book.recipient request input = some participant ∧
    let record := book.awardRecord request input activity participant assignment
    let ledger := book.ledgerFor assignment
    book.awardRefusal request activity (book.awardPointsInput request assignment activity participant input) = none ∧
      ((ledger.Unopposed record ∧ ledger.violation (ledger.newTransaction stamp record
          (Ledger.requestedStatus (ledger.lockSettings record.eventSlug).state record)) = none) ∨
        (¬ ledger.Unopposed record ∧ Ledger.invalidScore record = none ∧ ledger.unknownActivity record = none ∧
          (ledger.existingTransaction record.eventSlug record.idempotencyKey).isSome))

/-- Of the assignments that may award, a limit stops all or none, and where an award that none
stops would be recorded, all or none ask to confirm it. -/
def AwardLimitsAlike (stamp : Stamp) (rows : List StaffAssignment) (input : AwardInput) : Prop :=
  Alike rows (mayAward devices request input.activityId) fun first second =>
    ∀ activity, book.activity input.activityId = some activity →
      (book.awardStopped request input activity first ↔ book.awardStopped request input activity second) ∧
      (¬ book.awardStopped request input activity first → book.settled request stamp input activity first →
        (asksConfirmation input activity first ↔ asksConfirmation input activity second))

variable {book devices request}

theorem awardStaffPoints_eq :
    book.awardStaffPoints request stamp access input =
      (assignmentFor access .awardPoints (some input.activityId)).elim (.error .activityOutsideAssignment) (book.awardWith request stamp · input) := by
  unfold awardStaffPoints
  cases assignmentFor access .awardPoints (some input.activityId) <;> rfl

theorem activity_id {activity : ScoreActivity} (found : book.activity activityId = some activity) :
    activity.id = activityId := by
  simpa using find?_some found

/-! The ledger's answer to an award. -/

theorem awardRefusal_ne {activity : ScoreActivity} {awarded : AwardPointsInput} :
    book.awardRefusal request activity awarded ≠ some poolShort :=
  orElse_ne (refuseWhen_ne (by decide)) <| orElse_ne (refuseWhen_ne (by decide)) <| orElse_ne (refuseWhen_ne (by decide)) <|
    orElse_ne (refuseWhen_ne (by decide)) <| orElse_ne (refuseWhen_ne (by decide)) <| orElse_ne (refuseWhen_ne (by decide)) <|
    orElse_ne (refuseWhen_ne (by decide)) <| orElse_ne (refuseWhen_ne (by decide)) (refuseWhen_ne (by decide))

theorem ruling_notRecorded {answer : Except Failure α} :
    (ruling (answer.mapError .notRecorded) = .denied ↔ answer = .error poolShort) ∧
    (ruling (answer.mapError .notRecorded) = .granted ↔ ∃ value, answer = .ok value) := by
  cases answer with
  | ok => simp [Except.mapError]
  | error failure => by_cases short : failure = poolShort <;> simp [Except.mapError, short]

theorem ruling_awardPoints {ledger : Ledger} {activity : ScoreActivity} {awarded : AwardPointsInput} :
    let record := awarded.record request.eventSlug activity
    let answer := (book.awardPoints request ledger stamp activity awarded).mapError StaffRefusal.notRecorded
    (ruling answer = .denied ↔
      book.awardRefusal request activity awarded = none ∧ ledger.Unopposed record ∧ Ledger.Short ledger.pools record) ∧
    (ruling answer = .granted ↔ ¬ (ledger.Unopposed record ∧ Ledger.Short ledger.pools record) ∧
      book.awardRefusal request activity awarded = none ∧
      ((ledger.Unopposed record ∧ ledger.violation (ledger.newTransaction stamp record
          (Ledger.requestedStatus (ledger.lockSettings record.eventSlug).state record)) = none) ∨
        (¬ ledger.Unopposed record ∧ Ledger.invalidScore record = none ∧ ledger.unknownActivity record = none ∧
          (ledger.existingTransaction record.eventSlug record.idempotencyKey).isSome))) := by
  intro record answer
  simp only [answer, ruling_notRecorded.1, ruling_notRecorded.2]
  unfold awardPoints
  cases refusal : book.awardRefusal request activity awarded with
  | some failure =>
    have other : failure ≠ poolShort := fun same => awardRefusal_ne (refusal.trans (congrArg some same))
    simp [other]
  | none =>
    by_cases free : ledger.Unopposed record
    · have answered := @Ledger.recordScore_unopposed ledger stamp record free
      simpa [free, record] using answered
    · have answered := @Ledger.recordScore_opposed ledger stamp record free
      simpa [free, record] using answered

theorem poolFor_mem {pool : ScorePool} (found : book.poolFor request activityId assignment = some pool) :
    pool ∈ book.ledger.pools.rows ∧ pool.eventSlug = request.eventSlug := by
  have listed : pool ∈ book.pools request := by
    rcases Option.or_eq_some_iff.mp found with found | ⟨-, found⟩
    · exact mem_of_find?_eq_some found
    · exact mem_of_find?_eq_some found
  simpa [pools] using listed

theorem awardRefusal_points {activity : ScoreActivity} {awarded : AwardPointsInput}
    (allowed : book.awardRefusal request activity awarded = none) :
    awarded.participantIds ≠ [] ∧ 0 < (awarded.worth activity).num := by
  simp only [awardRefusal, orElse_eq_none, Ledger.refuseWhen_eq_none] at allowed
  obtain ⟨-, -, -, -, someone, points, -⟩ := allowed
  simp only [List.isEmpty_eq_false_iff, or_eq_false_iff, decide_eq_false_iff_not, not_le] at someone points
  exact ⟨someone, Rat.num_pos.mpr points.2⟩

theorem short_iff {activity : ScoreActivity} {participant : ScoreParticipant}
    (allowed : book.awardRefusal request activity (book.awardPointsInput request assignment activity participant input) = none) :
    Ledger.Short (book.ledgerFor assignment).pools (book.awardRecord request input activity participant assignment) ↔
      book.short request input activity participant assignment := by
  obtain ⟨someone, positive⟩ : book.recipientIds input participant ≠ [] ∧ 0 < (input.worth activity).num :=
    awardRefusal_points allowed
  obtain ⟨points, worth⟩ := Int.eq_ofNat_of_zero_le positive.le
  have total : Scoring.positivePoints
      (book.awardRecord request input activity participant assignment).postings =
        (book.recipientIds input participant).length * points := by
    have each : ((book.awardPointsInput request assignment activity participant input).worth activity).num.toNat = points :=
      congrArg Int.toNat worth
    simpa [Scoring.positivePoints, AwardPointsInput.record, Function.comp_def, awardPointsInput] using .inl each
  have given : (book.recipientIds input participant).length * points ≠ 0 :=
    Nat.mul_ne_zero (List.length_pos_iff.mpr someone).ne' (by omega)
  have named : Transfers.truthy
      (book.awardRecord request input activity participant assignment).poolId =
        ((book.poolFor request activity.id assignment).map (·.id)).filter (· ≠ "") := rfl
  unfold Ledger.Short short
  rw [total, and_iff_right given, named]
  cases found : book.poolFor request activity.id assignment with
  | none => simp
  | some pool =>
    obtain ⟨mem, event⟩ := poolFor_mem found
    have own : (book.ledgerFor assignment).pools.find? pool.id request.eventSlug = some pool := by
      refine find?_only mem (by simp [event]) fun other otherIn same => ?_
      simp only [and_eq_true, beq_iff_eq] at same
      exact inj_on_of_nodup_map book.ledger.pools.unique otherIn mem same.1
    have drawn : ((book.ledgerFor assignment).pools.find? pool.id
        (book.awardRecord request input activity participant assignment).eventSlug) =
          some pool := own
    by_cases blank : pool.id = ""
    · simp [Option.filter, blank]
    · simp [Option.filter, blank, drawn, worth, mul_comm]

/-! All the assignments of one person are one person to the ledger. -/

section
variable {first second : StaffAssignment} {activity : ScoreActivity} {participant : ScoreParticipant}

theorem selfAward_for (record : Scoring.RecordScoreInput) (own : record.assignmentId = some assignment.id) :
    (book.ledgerFor assignment).selfAward record =
      Ledger.refuseWhen (!(book.ledger.lockSettings record.eventSlug).allowStaffSelfAwards &&
          (book.ledger.participantRows (Scoring.participantIds record.postings)).any fun participant =>
            participant.personId.isSome && participant.personId == assignment.personId)
        403 "This event does not allow staff to award themselves" := by
  have named : Transfers.truthy (some assignment.id) = some assignment.id := by simp [Transfers.truthy, assignment.named]
  unfold Ledger.selfAward
  rw [own, named]
  simp only [ledgerFor, any_some, any_cons, any_nil, Bool.or_false, beq_self_eq_true, Bool.true_and]
  rfl

variable (same : first.personId = second.personId)
include same

theorem ineligible_person :
    (book.ledgerFor first).ineligible (book.awardRecord request input activity participant first) =
      (book.ledgerFor second).ineligible (book.awardRecord request input activity participant second) := by
  unfold Ledger.ineligible
  rw [selfAward_for _ rfl, selfAward_for _ rfl, same]
  rfl

theorem unopposed_person :
    (book.ledgerFor first).Unopposed (book.awardRecord request input activity participant first) ↔
      (book.ledgerFor second).Unopposed (book.awardRecord request input activity participant second) := by
  have eligible := @ineligible_person book request input first second activity participant same
  exact ⟨fun free => ⟨free.valid, free.known, free.new, free.accepting, eligible ▸ free.eligible⟩,
    fun free => ⟨free.valid, free.known, free.new, free.accepting, eligible.trans free.eligible⟩⟩

theorem settled_person :
    book.settled request stamp input activity first ↔ book.settled request stamp input activity second := by
  refine exists_congr fun participant => and_congr_right fun _ => and_congr Iff.rfl ?_
  exact or_congr (and_congr (unopposed_person same) Iff.rfl) (and_congr (not_congr (unopposed_person same)) Iff.rfl)

end

theorem settled_received {activity : ScoreActivity} (settled : book.settled request stamp input activity assignment) :
    book.received request input := by
  obtain ⟨participant, reaches, allowed, -⟩ := settled
  exact ⟨participant, reaches, (awardRefusal_points allowed).1⟩

theorem ruling_awardWith_unknown (unknown : book.activity input.activityId = none) :
    ruling (book.awardWith request stamp assignment input) = .declined := by
  unfold activity at unknown
  simp [awardWith, unknown]

theorem ruling_awardWith {activity : ScoreActivity} (found : book.activity input.activityId = some activity) :
    (ruling (book.awardWith request stamp assignment input) = .denied ↔ book.awardStopped request input activity assignment) ∧
    (ruling (book.awardWith request stamp assignment input) = .granted ↔
      ¬ book.awardStopped request input activity assignment ∧ book.settled request stamp input activity assignment ∧
        ¬ asksConfirmation input activity assignment) := by
  have same := activity_id found
  unfold EventBook.activity at found
  unfold awardWith awardStopped
  rw [found]
  by_cases barred : input.points.isSome ∧ assignment.scopeBoolean "allowFreeformPoints" = false
  · simp [barred]
  · simp only [barred, if_false, false_or]
    cases reaches : book.recipient request input with
    | none => simp [received, settled, reaches]
    | some participant =>
      by_cases nobody : book.recipientIds input participant = []
      · have unsettled : ¬ book.settled request stamp input activity assignment := fun settled => by
          simpa [received, reaches, nobody] using settled_received settled
        simp [received, reaches, nobody, unsettled]
      · have there : book.received request input := ⟨participant, reaches, nobody⟩
        simp only [if_neg nobody, there, true_and, same]
        by_cases tooMuch : (assignment.maximumAward : Rat) < input.worth activity
        · simp [tooMuch]
        · simp only [tooMuch, if_false, false_or]
          by_cases asks : asksConfirmation input activity assignment
          · rw [if_pos (show _ ∧ _ from asks)]
            simp [asks]
          · rw [if_neg (show ¬ (_ ∧ _) from asks)]
            by_cases poor : book.unfunded request input.activityId assignment
            · rw [if_pos (show _ ∧ _ from poor)]
              simp [asks, poor]
            · rw [if_neg (show ¬ (_ ∧ _) from poor)]
              have overdrawn : book.overdraws request input activity assignment ↔
                  book.recordable request input activity participant assignment ∧
                    book.short request input activity participant assignment := by
                simp [overdraws, reaches]
              have paid : book.recordable request input activity participant assignment ∧
                    book.short request input activity participant assignment ↔
                  book.awardRefusal request activity (book.awardPointsInput request assignment activity participant input) = none ∧
                    (book.ledgerFor assignment).Unopposed
                      (book.awardRecord request input activity participant assignment) ∧
                    Ledger.Short (book.ledgerFor assignment).pools
                      (book.awardRecord request input activity participant assignment) :=
                ⟨fun ⟨⟨allowed, free⟩, short⟩ => ⟨allowed, free, (short_iff allowed).mpr short⟩,
                  fun ⟨allowed, free, short⟩ => ⟨⟨allowed, free⟩, (short_iff allowed).mp short⟩⟩
              obtain ⟨denied, granted⟩ := @ruling_awardPoints book request stamp (book.ledgerFor assignment) activity
                (book.awardPointsInput request assignment activity participant input)
              constructor
              · rw [denied, ← paid, ← overdrawn]
                simp [asks, poor]
              · rw [granted]
                constructor
                · rintro ⟨room, allowed, rest⟩
                  refine ⟨?_, ⟨participant, reaches, allowed, rest⟩, asks⟩
                  rintro ⟨-, unfunded | short⟩
                  · exact poor unfunded
                  · exact room (paid.mp (overdrawn.mp short)).2
                · rintro ⟨free, ⟨other, reaches', allowed, rest⟩, -⟩
                  cases some.inj (reaches.symm.trans reaches')
                  exact ⟨fun short => free ⟨asks, .inr (overdrawn.mpr (paid.mpr ⟨allowed, short⟩))⟩, allowed, rest⟩

theorem awardStaffPoints_fair_iff (personal : request.token = .personal) :
    Fair (book.GrantsAward devices request input) rows
        (fun order => ruling (book.awardStaffPoints request stamp
          (resolveStaffAccess order devices request) input)) ↔
      book.AwardLimitsAlike devices request stamp rows input := by
  simp only [awardStaffPoints_eq, assignmentFor, ruling_speaker personal .activityOutsideAssignment rfl]
  refine (firstQualified_fair_iff_agree ?_ ?_).trans (alike_congr_of fun first second able able' => ?_)
  · intro row _ grants
    refine ⟨by simp [grants.serves, grants.permission, grants.scope], ?_⟩
    cases found : book.activity input.activityId with
    | none => simp [ruling_awardWith_unknown found]
    | some activity =>
      rw [Ne, (ruling_awardWith found).1]
      rintro (⟨named, barred⟩ | ⟨-, tooMuch | ⟨-, poor | overdrawn⟩⟩)
      · rw [grants.freeform named] at barred
        cases barred
      · exact absurd tooMuch (not_lt.mpr (grants.maximum activity found))
      · exact grants.funded poor
      · exact grants.afforded activity found overdrawn
  · intro row _ able granted
    cases found : book.activity input.activityId with
    | none => simp [ruling_awardWith_unknown found] at granted
    | some activity =>
      obtain ⟨free, settled, confirmed⟩ := (ruling_awardWith found).2.mp granted
      have there := settled_received settled
      simp only [and_eq_true, or_eq_true, beq_iff_eq] at able
      obtain ⟨serves, permission, unnamed | scope⟩ := able
      · exact absurd ((activity_id found).trans unnamed) activity.named
      · simp only [awardStopped, not_or, not_and] at free
        refine ⟨serves, permission, scope, by simpa using free.1, fun other same => ?_,
          ((free.2 there).2 confirmed).1, fun other same => ?_⟩
        · cases some.inj (found.symm.trans same)
          exact not_lt.mp (free.2 there).1
        · cases some.inj (found.symm.trans same)
          exact ((free.2 there).2 confirmed).2
  · cases found : book.activity input.activityId with
    | none => simp [ruling_awardWith_unknown found]
    | some =>
      have one : first.personId = second.personId := (serves_person (and_eq_true _ _ ▸ able).1).trans (serves_person (and_eq_true _ _ ▸ able').1).symm
      simp only [some.injEq, forall_eq']
      rw [Ruling.eq_iff, (ruling_awardWith found).1, (ruling_awardWith found).1, (ruling_awardWith found).2,
        (ruling_awardWith found).2, settled_person one]
      refine and_congr_right fun same => ?_
      rw [← same]
      simp [not_iff_not]

end EventBook

/-! ### Minting an award QR -/

namespace EventBook
variable (book : EventBook) (devices : List StaffDevice) (request : StaffRequest) {input : MintInput}

def liveActivity (activityId : String) : Option ScoreActivity :=
  book.activities.find? fun entry => entry.id == activityId && entry.status == .live

def qrWorth (input : MintInput) : Option Rat :=
  input.points.or ((book.liveActivity input.activityId).bind (·.rule.qrPoints))

/-- The assignment serves, may award points, admits the activity, and allows what the QR is
worth: named points need the freeform flag, none go above its maximum, and they are paid for. -/
structure GrantsMint (input : MintInput) (assignment : StaffAssignment) : Prop where
  serves : serves devices request assignment = true
  permission : assignment.hasStaffPermission .awardPoints = true
  scope : assignment.canUseActivity input.activityId = true
  freeform : input.points.isSome → assignment.scopeBoolean "allowFreeformPoints" = true
  maximum : ∀ points, book.qrWorth input = some points → points ≤ (assignment.maximumAward : Rat)
  funded : ¬ book.unfunded request input.activityId assignment

/-- A limit of the assignment stands against the QR: the flag or the maximum for named points,
or the pool. -/
def mintStopped (input : MintInput) (assignment : StaffAssignment) : Prop :=
  (input.points.isSome ∧ assignment.scopeBoolean "allowFreeformPoints" = false) ∨
    input.points.any ((assignment.maximumAward : Rat) < ·) ∨
    ((book.liveActivity input.activityId).isSome ∧ book.unfunded request input.activityId assignment)

def mintable (input : MintInput) : Prop :=
  ∃ activity points, book.liveActivity input.activityId = some activity ∧ book.qrWorth input = some points ∧
    points.den = 1 ∧ 1 ≤ points ∧ points ≤ maximumSingleAward ∧
    ((input.points.isSome ∨ activity.template = .freeForm) → trimmed input.note ≠ none)

structure MintLimitsAlike (rows : List StaffAssignment) (input : MintInput) : Prop where
  alike : Alike rows (mayAward devices request input.activityId) fun first second =>
    (book.mintStopped request input first ↔ book.mintStopped request input second)
  reached : book.mintable input → ∀ row ∈ rows, mayAward devices request input.activityId row = true →
    ¬ book.mintStopped request input row → ∃ other ∈ rows, mayAward devices request input.activityId other = true ∧
      ¬ book.mintStopped request input other ∧
      ∀ points, book.qrWorth input = some points → points ≤ (other.maximumAward : Rat)

variable {book devices request}

theorem mintStaffAwardClaim_eq :
    book.mintStaffAwardClaim request access input =
      (assignmentFor access .awardPoints (some input.activityId)).elim (.error .activityOutsideAssignment) (book.mintWith request · input) := by
  unfold mintStaffAwardClaim
  cases assignmentFor access .awardPoints (some input.activityId) <;> rfl

theorem liveActivity_id {activity : ScoreActivity}
    (found : book.liveActivity activityId = some activity) : activity.id = activityId := by
  have qualified := find?_some found
  simp only [and_eq_true, beq_iff_eq] at qualified
  exact qualified.1

theorem ruling_createStaffAwardClaim {assignment : StaffAssignment} {activity : ScoreActivity} {poolId : Option String}
    {input : MintInput} (found : book.liveActivity input.activityId = some activity) :
    ruling (createStaffAwardClaim request assignment activity poolId input) ≠ .denied ∧
    (ruling (createStaffAwardClaim request assignment activity poolId input) = .granted ↔ book.mintable input) := by
  have worth : book.qrWorth input = input.points.or activity.rule.qrPoints := by simp [qrWorth, found]
  simp only [mintable, found, some.injEq, exists_and_left, exists_eq_left', worth]
  unfold createStaffAwardClaim
  cases input.points.or activity.rule.qrPoints with
  | none => simp
  | some points =>
    simp only [some.injEq, exists_eq_left']
    by_cases whole : points.den ≠ 1 ∨ points < 1
    · rw [if_pos whole]
      have neither : ¬ (points.den = 1 ∧ 1 ≤ points) := by simpa [not_le, imp_iff_not_or] using whole
      simpa using fun integral positive => absurd ⟨integral, positive⟩ neither
    · rw [if_neg whole]
      simp only [not_or, not_not, not_lt] at whole
      by_cases large : (maximumSingleAward : Rat) < points
      · simp [large]
      · rw [if_neg large]
        by_cases blank : trimmed input.note = none
        · by_cases named : input.points.isSome <;> by_cases free : activity.template = .freeForm <;>
            simp [blank, named, free, whole, not_lt.mp large]
        · simp [blank, whole, not_lt.mp large]

theorem ruling_mintWith :
    (ruling (book.mintWith request assignment input) = .denied ↔ book.mintStopped request input assignment) ∧
    (ruling (book.mintWith request assignment input) = .granted ↔
      ¬ book.mintStopped request input assignment ∧ book.mintable input) := by
  unfold mintWith mintStopped
  by_cases barred : input.points.isSome ∧ assignment.scopeBoolean "allowFreeformPoints" = false
  · simp [barred]
  · by_cases tooMuch : input.points.any ((assignment.maximumAward : Rat) < ·) = true
    · simp [barred, tooMuch]
    · simp only [barred, tooMuch, if_false, false_or]
      cases found : book.liveActivity input.activityId with
      | none =>
        have unknown : ¬ book.mintable input := fun ⟨_, _, live, _⟩ => by simp [found] at live
        unfold liveActivity at found
        simp [found, unknown]
      | some activity =>
        have created := @ruling_createStaffAwardClaim _ request assignment _ ((book.poolFor request activity.id assignment).map (·.id)) _ found
        have same := liveActivity_id found
        unfold liveActivity at found
        rw [found]
        simp only [same] at created ⊢
        by_cases poor : book.unfunded request input.activityId assignment
        · rw [if_pos (show _ ∧ _ from poor)]
          simp [poor]
        · rw [if_neg (show ¬ (_ ∧ _) from poor)]
          simp [poor, created]

theorem GrantsMint.free (grants : book.GrantsMint devices request input assignment) : ¬ book.mintStopped request input assignment := by
  rintro (⟨named, barred⟩ | tooMuch | ⟨-, poor⟩)
  · rw [grants.freeform named] at barred
    cases barred
  · cases named : input.points with
    | none => simp [named] at tooMuch
    | some points =>
      rw [named] at tooMuch
      exact absurd (of_decide_eq_true tooMuch) (not_lt.mpr (grants.maximum points (by simp [qrWorth, named])))
  · exact grants.funded poor

theorem GrantsMint.mayAward (grants : book.GrantsMint devices request input assignment) :
    mayAward devices request input.activityId assignment = true := by
  simp [EventBook.mayAward, grants.serves, grants.permission, grants.scope]

theorem grantsMint_of_mintable (mintable : book.mintable input)
    (able : mayAward devices request input.activityId assignment = true) (free : ¬ book.mintStopped request input assignment)
    (reaches : ∀ points, book.qrWorth input = some points → points ≤ (assignment.maximumAward : Rat)) :
    book.GrantsMint devices request input assignment := by
  obtain ⟨activity, -, found, -⟩ := mintable
  simp only [EventBook.mayAward, and_eq_true, or_eq_true, beq_iff_eq] at able
  obtain ⟨serves, permission, unnamed | scope⟩ := able
  · exact absurd ((liveActivity_id found).trans unnamed) activity.named
  · simp only [mintStopped, not_or, not_and] at free
    exact ⟨serves, permission, scope, by simpa using free.1, reaches, free.2.2 (by simp [found])⟩

theorem mintStaffAwardClaim_fair_iff (personal : request.token = .personal) :
    Fair (book.GrantsMint devices request input) rows
        (fun order => ruling (book.mintStaffAwardClaim request
          (resolveStaffAccess order devices request) input)) ↔
      book.MintLimitsAlike devices request rows input := by
  simp only [mintStaffAwardClaim_eq, assignmentFor, ruling_speaker personal .activityOutsideAssignment rfl]
  refine (firstQualified_fair_iff fun row _ grants => ⟨grants.mayAward, ?_⟩).trans ?_
  · exact fun denied => grants.free (ruling_mintWith.1.mp denied)
  · have alike (first second : StaffAssignment) :
        ruling (book.mintWith request first input) =
            ruling (book.mintWith request second input) ↔
          (book.mintStopped request input first ↔ book.mintStopped request input second) := by
      rw [Ruling.eq_iff, ruling_mintWith.1, ruling_mintWith.1, ruling_mintWith.2, ruling_mintWith.2]
      exact and_iff_left_of_imp fun same => by rw [same]
    rw [alike_congr alike]
    constructor
    · rintro ⟨same, sound⟩
      refine ⟨same, fun mintable row mem able free => ?_⟩
      obtain ⟨other, otherIn, grants⟩ := sound row mem able (ruling_mintWith.2.mpr ⟨free, mintable⟩)
      exact ⟨other, otherIn, grants.mayAward, grants.free, grants.maximum⟩
    · rintro ⟨same, reached⟩
      refine ⟨same, fun row mem able granted => ?_⟩
      obtain ⟨free, mintable⟩ := ruling_mintWith.2.mp granted
      obtain ⟨other, otherIn, otherAble, otherFree, reaches⟩ := reached mintable row mem able free
      exact ⟨other, otherIn, grantsMint_of_mintable mintable otherAble otherFree reaches⟩

end EventBook

/-! ### Scoring offline -/

/-- Where the two readings of an activity scope part: the list is empty or holds something
other than strings, and the activity is not in it. -/
def StaffAssignment.Misread (assignment : StaffAssignment) (activityId : String) : Prop :=
  ∃ activityIds, (assignment.scope.lookup "activityIds").bind Json.asArray = some activityIds ∧
    (activityIds = [] ∨ ∃ entry ∈ activityIds, entry.asString = none) ∧ Json.includes activityIds activityId = false

theorem StaffAssignment.canScoreOffline_iff (assignment : StaffAssignment) (activityId : String) :
    assignment.canScoreOffline activityId = assignment.canUseActivity activityId ↔ ¬ assignment.Misread activityId := by
  unfold StaffAssignment.canScoreOffline StaffAssignment.canUseActivity StaffAssignment.scopeActivityIds Misread
  cases (assignment.scope.lookup "activityIds").bind Json.asArray with
  | none => simp
  | some activityIds =>
    by_cases texts : activityIds.all (fun entry => entry.asString.isSome) = true
    · have strings : ¬ ∃ entry ∈ activityIds, entry.asString = none := by
        simpa [isSome_iff_ne_none] using texts
      simp only [filter_some, texts, if_true, strings, or_false, some.injEq, exists_eq_left']
      cases activityIds with
      | nil => simp [Json.includes]
      | cons => simp
    · have mixed : ∃ entry ∈ activityIds, entry.asString = none := by
        simpa [isSome_iff_ne_none] using texts
      rw [filter_some, if_neg texts]
      simp [mixed]

namespace EventBook
variable (book : EventBook) (devices : List StaffDevice) (request : StaffRequest) {input : OfflineInput}
  {freshId : String}

/-- A reservation of the assignment runs, or a pool can pay once one that has run out is closed. -/
def covered (input : OfflineInput) (assignment : StaffAssignment) : Prop :=
  match book.reservationOf request assignment input.activityId with
  | none => (book.fundingPool request assignment input.activityId input.points.num).isSome
  | some current => request.now < current.expiresAt ∨
    ((book.closeReservation current).fundingPool request assignment input.activityId input.points.num).isSome

/-- The assignment serves, may award points, admits the activity, and allows the budget: it is
metered, the points are within its offline maximum, and they are covered. -/
structure GrantsOffline (input : OfflineInput) (assignment : StaffAssignment) : Prop where
  serves : serves devices request assignment = true
  permission : assignment.hasStaffPermission .awardPoints = true
  scope : assignment.canUseActivity input.activityId = true
  metered : assignment.scopeBoolean "unmetered" = false
  maximum : input.points.num ≤ assignment.offlineBudgetMax
  covered : book.covered request input assignment

def offlineStopped (input : OfflineInput) (assignment : StaffAssignment) : Prop :=
  assignment.scopeBoolean "unmetered" = true ∨ assignment.offlineBudgetMax < input.points.num ∨
    ¬ book.covered request input assignment

def OfflineLimitsAlike (rows : List StaffAssignment) (input : OfflineInput) : Prop :=
  Alike rows (fun row => serves devices request row &&
      (row.hasStaffPermission .awardPoints && row.canScoreOffline input.activityId)) fun first second =>
    input.points.den = 1 → 1 ≤ input.points →
      (book.offlineStopped request input first ↔ book.offlineStopped request input second)

variable {book devices request}

theorem reserveOfflineScoreBudget_eq (whole : input.points.den = 1) (positive : 1 ≤ input.points) :
    (book.reserveOfflineScoreBudget request access input freshId).2 =
      (staffAssignmentForPermission access .awardPoints (·.canScoreOffline input.activityId)).elim
        (.error .cannotScoreOffline) fun assignment =>
          (book.reserveWith request assignment input input.points.num freshId).2 := by
  unfold reserveOfflineScoreBudget
  rw [if_neg (by simp [whole, positive])]
  cases staffAssignmentForPermission access .awardPoints (·.canScoreOffline input.activityId) <;> rfl

theorem ruling_reserve {points : Int} :
    (ruling (book.reserve request assignment input points freshId).2 = .denied ↔
      ¬ (book.fundingPool request assignment input.activityId points).isSome) ∧
    (ruling (book.reserve request assignment input points freshId).2 = .granted ↔
      (book.fundingPool request assignment input.activityId points).isSome) := by
  unfold reserve
  cases book.fundingPool request assignment input.activityId points <;> simp

theorem ruling_reserveWith :
    (ruling (book.reserveWith request assignment input input.points.num freshId).2 = .denied ↔
      book.offlineStopped request input assignment) ∧
    (ruling (book.reserveWith request assignment input input.points.num freshId).2 = .granted ↔
      ¬ book.offlineStopped request input assignment) := by
  unfold reserveWith offlineStopped covered
  by_cases unmetered : assignment.scopeBoolean "unmetered" = true
  · simp [unmetered]
  · by_cases tooMuch : assignment.offlineBudgetMax < input.points.num
    · simp [unmetered, tooMuch]
    · simp only [unmetered, tooMuch, false_eq_true, if_false, false_or, not_not]
      cases book.reservationOf request assignment input.activityId with
      | none => exact ruling_reserve
      | some current =>
        by_cases running : request.now < current.expiresAt
        · simp [running]
        · simp only [running, if_false, false_or]
          exact ruling_reserve

theorem reserveOfflineScoreBudget_fair_iff (personal : request.token = .personal) :
    ((∀ row ∈ rows, row.canScoreOffline input.activityId = row.canUseActivity input.activityId) ∧
      Fair (book.GrantsOffline devices request input) rows
        (fun order => ruling (book.reserveOfflineScoreBudget request
          (resolveStaffAccess order devices request) input freshId).2)) ↔
      (∀ row ∈ rows, ¬ row.Misread input.activityId) ∧
        book.OfflineLimitsAlike devices request rows input := by
  simp only [StaffAssignment.canScoreOffline_iff]
  refine and_congr_right fun read => ?_
  by_cases valid : input.points.den = 1 ∧ 1 ≤ input.points
  · simp only [reserveOfflineScoreBudget_eq valid.1 valid.2, ruling_speaker personal .cannotScoreOffline rfl]
    refine (firstQualified_fair_iff_agree ?_ ?_).trans (alike_congr fun first second => ?_)
    · intro row mem grants
      refine ⟨?_, fun denied => ?_⟩
      · simp [grants.serves, grants.permission, grants.scope,
          (row.canScoreOffline_iff input.activityId).mpr (read row mem)]
      · rcases ruling_reserveWith.1.mp denied with unmetered | tooMuch | uncovered
        · rw [grants.metered] at unmetered
          cases unmetered
        · exact absurd tooMuch (not_lt.mpr grants.maximum)
        · exact uncovered grants.covered
    · intro row mem able granted
      simp only [and_eq_true] at able
      have free := ruling_reserveWith.2.mp granted
      simp only [offlineStopped, not_or, not_not, not_eq_true, not_lt] at free
      exact ⟨able.1, able.2.1, (row.canScoreOffline_iff input.activityId).mpr (read row mem) ▸ able.2.2,
        free.1, free.2.1, free.2.2⟩
    · rw [Ruling.eq_iff, ruling_reserveWith.1, ruling_reserveWith.1, ruling_reserveWith.2, ruling_reserveWith.2]
      simp only [valid.1, valid.2, forall_const]
      exact and_iff_left_of_imp fun same => by rw [same]
  · have refused (order : List StaffAssignment) :
        (book.reserveOfflineScoreBudget request
          (resolveStaffAccess order devices request) input freshId).2 =
          .error .budgetNotPositive := by
      unfold reserveOfflineScoreBudget
      rw [if_pos (by simpa [not_le, imp_iff_not_or] using valid)]
    simp only [refused]
    refine iff_of_true fair_declined fun _ _ _ _ _ _ whole positive => absurd ⟨whole, positive⟩ valid

end EventBook

/-! ### All the actions -/

def marshal : StaffAssignment :=
  { id := "marshal", eventSlug := "summer", personId := some "ada", permissions := [.awardPoints]
    scope := [("unmetered", .bool true)] }

def host : StaffAssignment :=
  { marshal with id := "host", named := by decide, scope := [("unmetered", .bool true), ("allowFreeformPoints", .bool true)] }

def eggRace : ScoreActivity :=
  { id := "egg-race", named := by decide, template := .other, status := .live
    rule := { mode := .fixed, fixedPoints := some 3 } }

def summerLedger : Ledger where
  settings := [⟨"summer", .live, false, false⟩]
  events := [⟨"summer", .published⟩]
  activities := [⟨"egg-race", "summer", ⟨.repeated, false⟩⟩]
  participants := [⟨"bo", "summer", none, none, .active, true⟩]
  validTickets := []
  assignments := []
  transfers := []
  teams := []
  memberships := []
  merges := []
  pools := ⟨[], nodup_nil⟩
  transactions := []
  projections := []

def summerBook : EventBook :=
  { ledger := summerLedger, activities := [eggRace], participantFromScannedValue := fun _ => none
    participantIdsInTicketOrder := fun _ => [], createdAt := fun _ => 0, audit := [], reservations := [] }

end MilkAndHenny.Staff

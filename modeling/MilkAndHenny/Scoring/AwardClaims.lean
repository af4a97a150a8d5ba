import MilkAndHenny.Scoring.Reversal

/-! Award codes that an attendee scans for points. A call locks the claim for its participant, makes the
award outside that lock, and settles the claim after it; a call that has not settled it for thirty seconds
may be taken over. -/

namespace MilkAndHenny.Scoring

open Library

inductive ClaimStatus
  | active | processing | claimed | expired | revoked
  deriving DecidableEq

/-- The override of its points and its texts are left out. -/
structure StaffAwardClaim where
  id : String
  eventSlug : String
  assignmentId : String
  activityId : String
  poolId : Option String
  note : Option String
  status : ClaimStatus
  participantId : Option String
  transactionId : Option String
  processingStartedAt : Option Int
  expiresAt : Int

/-- How far a call has come. -/
inductive CallPhase
  | acquired
  | awarding
  | refused (failure : Failure)
  | scored (transaction : ScoreTransaction)
  | recalling (transactionId : String)
  | answered (answer : Except Failure ScoreTransaction)

structure ClaimCall where
  participantId : String
  phase : CallPhase

structure AwardState where
  ledger : Ledger
  claim : StaffAwardClaim
  calls : List ClaimCall

namespace StaffAwardClaim

variable (claim : StaffAwardClaim) (participantId : String)

def idempotencyKey : String := "award-claim:" ++ claim.id

/-- What `awardPoints` comes to record, once it has found the source type and the points. -/
def awardInput (sourceType : ScoreSourceType) (points : Int) : RecordScoreInput where
  eventSlug := claim.eventSlug
  activityId := some claim.activityId
  sourceType := sourceType
  sourceId := "award_claim_" ++ claim.id
  idempotencyKey := claim.idempotencyKey
  status := none
  note := claim.note
  assignmentId := some claim.assignmentId
  originalTransactionId := none
  metadata := ⟨none, false⟩
  postings := [⟨participantId, points, none⟩]
  poolId := claim.poolId

/-- Processing for over thirty seconds. -/
def stale (now : Int) : Bool :=
  claim.status == .processing && claim.processingStartedAt.any fun startedAt => startedAt < now - 30000

def turnedAway : CallPhase :=
  match claim.status with
  | .claimed =>
    match claim.transactionId with
    | some transactionId =>
      if claim.participantId = some participantId then .recalling transactionId
      else .answered (.error (.refused 409 "Those points have already been claimed"))
    | none => .answered (.error (.refused 409 "Those points have already been claimed"))
  | .processing =>
    if claim.participantId = some participantId then .answered (.error (.refused 425 "Those points are still being confirmed"))
    else .answered (.error (.refused 409 "Those points are being claimed already"))
  | .active => .answered (.error (.refused 410 "This award QR is no longer available"))
  | .expired | .revoked => .answered (.error (.refused 410 "This award QR has expired"))

/-- The locked part of `claimStaffAward`. The assignment is in force or not. -/
def lock (now : Int) (assigned : Bool) : StaffAwardClaim × CallPhase :=
  if claim.expiresAt ≤ now ∧ (claim.status = .active ∨ claim.stale now) then
    let expired := { claim with status := .expired }
    (expired, expired.turnedAway participantId)
  else if (claim.status ≠ .active ∧ !claim.stale now) ∨ !assigned ∨ (claim.stale now ∧ claim.participantId ≠ some participantId) then
    (claim, claim.turnedAway participantId)
  else ({ claim with status := .processing, participantId := some participantId, processingStartedAt := some now }, .acquired)

/-- The update of `claimRow`. -/
def expire (now : Int) : StaffAwardClaim :=
  if claim.expiresAt ≤ now ∧ (claim.status = .active ∨ claim.stale now) then { claim with status := .expired } else claim

def release (claim : StaffAwardClaim) (now : Int) : StaffAwardClaim :=
  if claim.status = .processing then
    { claim with
      status := if now < claim.expiresAt then .active else .expired
      participantId := none
      processingStartedAt := none }
  else claim

def settle (transactionId : String) : StaffAwardClaim :=
  if claim.status = .processing then { claim with status := .claimed, transactionId := some transactionId } else claim

end StaffAwardClaim

inductive ClaimMove
  /-- A call arrives and locks the claim. -/
  | arrive (participantId : String) (now : Int) (assigned : Bool)
  /-- A call takes its next step; an award is refused by `awardPoints` or comes to be recorded. -/
  | proceed (index : Nat) (now : Int) (stamp : Stamp) (gate : Except Failure (ScoreSourceType × Int))
  | preview (now : Int)
  /-- Anything else that happens to the ledger. Nobody else records under the claim's key. -/
  | world (act : Act)

namespace AwardState

def setPhase (state : AwardState) (index : Nat) (call : ClaimCall) (phase : CallPhase) : AwardState :=
  { state with calls := state.calls.set index { call with phase := phase } }

def award (state : AwardState) (participantId : String) (stamp : Stamp) (gate : Except Failure (ScoreSourceType × Int)) : CallPhase × Ledger :=
  match gate with
  | .error failure => (.refused failure, state.ledger)
  | .ok (sourceType, points) =>
    match state.ledger.recordScore stamp (state.claim.awardInput participantId sourceType points) with
    | .ok (transaction, ledger) => (.scored transaction, ledger)
    | .error (.refused status error) => (.refused (.refused status error), state.ledger)
    | .error (.violated constraint) => (.answered (.error (.violated constraint)), state.ledger)

def proceed (state : AwardState) (index : Nat) (call : ClaimCall) (now : Int) (stamp : Stamp) (gate : Except Failure (ScoreSourceType × Int)) : AwardState :=
  match call.phase with
  | .acquired =>
    state.setPhase index call (if state.claim.expiresAt ≤ now then .answered (.error (.refused 410 "This award QR has expired")) else .awarding)
  | .awarding =>
    let (phase, ledger) := state.award call.participantId stamp gate
    { state with ledger := ledger }.setPhase index call phase
  | .refused failure => { state with claim := state.claim.release now }.setPhase index call (.answered (.error failure))
  | .scored transaction => { state with claim := state.claim.settle transaction.id }.setPhase index call (.answered (.ok transaction))
  | .recalling transactionId =>
    state.setPhase index call (.answered
      (match state.ledger.transactions.find? (·.id == transactionId) with
      | some transaction => .ok transaction
      | none => .error (.refused 409 "Those points were claimed; refresh your ticket score")))
  | .answered _ => state

def step (move : ClaimMove) (state : AwardState) : AwardState :=
  match move with
  | .arrive participantId now assigned =>
    let (claim, phase) := state.claim.lock participantId now assigned
    { state with claim := claim, calls := state.calls ++ [⟨participantId, phase⟩] }
  | .proceed index now stamp gate =>
    match state.calls[index]? with
    | some call => state.proceed index call now stamp gate
    | none => state
  | .preview now => { state with claim := state.claim.expire now }
  | .world act => if act.key = some state.claim.idempotencyKey then state else { state with ledger := next act state.ledger }

end AwardState

section

def Ledger.under (ledger : Ledger) (eventSlug idempotencyKey : String) : List (String × List String) :=
  (ledger.transactions.filter fun row => row.eventSlug == eventSlug && row.idempotencyKey == idempotencyKey).map fun row =>
    (row.id, participantIds row.postings)

variable {ledger after : Ledger} {stamp : Stamp} {input : RecordScoreInput} {row : ScoreTransaction} {eventSlug idempotencyKey : String}

theorem Ledger.Booked.under {key : Option String} (booked : ledger.Booked key after) (apart : key ≠ some idempotencyKey) :
    after.under eventSlug idempotencyKey = ledger.under eventSlug idempotencyKey := by
  cases booked with
  | kept same =>
    unfold Ledger.under
    rw [same]
  | inserted pools row free keyed =>
    have other : (row.eventSlug == eventSlug && row.idempotencyKey == idempotencyKey) = false := by
      have differs : (row.idempotencyKey == idempotencyKey) = false := beq_false_of_ne fun same => apart (keyed.trans (congrArg some same))
      simp [differs]
    change ((ledger.transactions ++ [row]).filter _).map _ = _
    rw [filter_append, filter_cons_of_neg (by simp [other]), List.filter_nil, append_nil]
    rfl
  | settled => exact map_filter_update (fun _ => rfl) fun _ => rfl

theorem under_recorded (done : ledger.recordScoreInTransaction stamp input = .ok (row, after)) :
    ((row.id, participantIds row.postings) ∈ ledger.under input.eventSlug input.idempotencyKey ∧ after = ledger) ∨
      (ledger.under input.eventSlug input.idempotencyKey = [] ∧
        after.under input.eventSlug input.idempotencyKey = [(row.id, participantIds input.postings)]) := by
  obtain ⟨existing, rfl⟩ | ⟨pools, status, unused, -, -, -, rfl, rfl⟩ := Ledger.recorded_cases done
  · exact .inl ⟨mem_map_of_mem (mem_filter.mpr ⟨mem_of_find?_eq_some existing, @find?_some _ (fun row : ScoreTransaction =>
      row.eventSlug == input.eventSlug && row.idempotencyKey == input.idempotencyKey) _ _ existing⟩), rfl⟩
  · have nobody : (ledger.transactions.filter fun row => row.eventSlug == input.eventSlug && row.idempotencyKey == input.idempotencyKey) = [] :=
      filter_eq_nil_iff.mpr (find?_eq_none.mp unused)
    refine .inr ⟨congrArg (List.map _) nobody, ?_⟩
    change ((ledger.transactions ++ [_]).filter _).map _ = _
    rw [filter_append, nobody, nil_append, filter_cons_of_pos (by simp [Ledger.newTransaction]), List.filter_nil, map_singleton,
      Ledger.participantIds_newTransaction]

end

def CallPhase.pending : CallPhase → Bool
  | .acquired | .awarding => true
  | _ => false

def CallPhase.paid : CallPhase → Bool
  | .scored _ | .recalling _ | .answered (.ok _) => true
  | _ => false

def CallPhase.refusing : CallPhase → Bool
  | .refused _ => true
  | _ => false

def CallPhase.told : CallPhase → Bool
  | .answered (.ok _) => true
  | _ => false

theorem CallPhase.paid_of_told (phase : CallPhase) (told : phase.told) : phase.paid := by
  cases phase with
  | answered answer =>
    cases answer with
    | error => cases told
    | ok => rfl
  | _ => cases told

namespace AwardState

def credits (state : AwardState) : List (String × List String) := state.ledger.under state.claim.eventSlug state.claim.idempotencyKey

/-- A claim as it is created: nobody has called yet. -/
structure Fresh (state : AwardState) : Prop where
  active : state.claim.status = .active
  calls : state.calls = []
  credits : state.credits = []

/-- A claimed claim names the one whom its transaction credits, and nobody else was told of the points. -/
def Agreed (state : AwardState) : Prop :=
  state.claim.status = .claimed → ∃ participantId transactionId, state.claim.participantId = some participantId ∧
    state.claim.transactionId = some transactionId ∧ state.credits = [(transactionId, [participantId])] ∧
    ∀ call ∈ state.calls, call.phase.told → call.participantId = participantId

/-- A failed award makes the claim active again only where nothing has been credited and no call has its award before it. -/
def Clean (move : ClaimMove) (state : AwardState) : Prop :=
  match move with
  | .proceed index now _ _ =>
    (state.calls[index]?.any fun call => call.phase.refusing) → state.claim.status = .processing → now < state.claim.expiresAt →
      state.credits = [] ∧ ∀ call ∈ state.calls, ¬ call.phase.pending
  | _ => True

instance Clean.decidable : (move : ClaimMove) → (state : AwardState) → Decidable (Clean move state)
  | .proceed index now _ _, state => inferInstanceAs (Decidable
    ((state.calls[index]?.any fun call => call.phase.refusing) → state.claim.status = .processing → now < state.claim.expiresAt →
      state.credits = [] ∧ ∀ call ∈ state.calls, ¬ call.phase.pending))
  | .arrive .., _ | .preview _, _ | .world _, _ => .isTrue trivial

/-- What a call may be up to while the claim is somebody's. -/
structure Fits (owner : String) (credits : List (String × List String)) (call : ClaimCall) : Prop where
  pending : call.phase.pending → call.participantId = owner
  paid : call.phase.paid → call.participantId = owner ∧ credits ≠ []
  scored : ∀ transaction, call.phase = .scored transaction → ∃ credited, (transaction.id, credited) ∈ credits

structure Owned (owner : String) (state : AwardState) : Prop where
  held : state.claim.status = .processing ∨ state.claim.status = .claimed → state.claim.participantId = some owner
  calls : ∀ call ∈ state.calls, Fits owner state.credits call
  credited : ∀ credit ∈ state.credits, credit.2 = [owner]
  settled : state.claim.status = .claimed → ∃ credit ∈ state.credits, state.claim.transactionId = some credit.1

/-- Nobody's: no award has been made, and none is about to be. -/
structure Quiet (state : AwardState) : Prop where
  credits : state.credits = []
  calls : ∀ call ∈ state.calls, ¬ call.phase.pending ∧ ¬ call.phase.paid

structure Settled (state : AwardState) : Prop where
  single : state.credits.length ≤ 1
  quiet : state.claim.status = .active → state.Quiet
  owned : state.claim.status ≠ .active → ∃ owner, state.Owned owner

theorem Settled.agreed {state : AwardState} (settled : state.Settled) : state.Agreed := by
  intro claimed
  obtain ⟨owner, owned⟩ := settled.owned (by simp [claimed])
  obtain ⟨credit, mem, recorded⟩ := owned.settled claimed
  refine ⟨owner, credit.1, owned.held (.inr claimed), recorded, ?_, fun call listed told => ?_⟩
  · obtain ⟨only, same⟩ := List.length_eq_one_iff.mp (Nat.le_antisymm settled.single (List.length_pos_of_mem mem))
    rw [same] at mem ⊢
    rw [← mem_singleton.mp mem, ← owned.credited credit (by rw [same]; exact mem)]
  · refine ((owned.calls call listed).paid ?_).1
    exact call.phase.paid_of_told told

end AwardState

section

variable {state : AwardState} {index : Nat} {call : ClaimCall} {phase : CallPhase} {owner participantId : String} {now : Int}

structure StaffAwardClaim.SameKey (claim after : StaffAwardClaim) : Prop where
  id : after.id = claim.id
  eventSlug : after.eventSlug = claim.eventSlug

namespace StaffAwardClaim

variable {claim : StaffAwardClaim}

theorem lock_key (assigned : Bool) : claim.SameKey (claim.lock participantId now assigned).1 := by
  unfold lock
  split
  · exact ⟨rfl, rfl⟩
  · split <;> exact ⟨rfl, rfl⟩

theorem expire_key : claim.SameKey (claim.expire now) := by
  unfold expire
  split <;> exact ⟨rfl, rfl⟩

theorem release_key : claim.SameKey (claim.release now) := by
  unfold release
  split <;> exact ⟨rfl, rfl⟩

theorem settle_key {transactionId : String} : claim.SameKey (claim.settle transactionId) := by
  unfold settle
  split <;> exact ⟨rfl, rfl⟩

end StaffAwardClaim

namespace AwardState

theorem credits_claim {claim : StaffAwardClaim} (same : state.claim.SameKey claim) : ({ state with claim := claim } : AwardState).credits = state.credits := by
  unfold credits StaffAwardClaim.idempotencyKey
  rw [same.id, same.eventSlug]

theorem credits_world {act : Act} (apart : act.key ≠ some state.claim.idempotencyKey) :
    ({ state with ledger := next act state.ledger } : AwardState).credits = state.credits :=
  (next_books act state.ledger).under apart

inductive Awarded (state : AwardState) (participantId : String) : CallPhase × Ledger → Prop
  | failed {phase : CallPhase} (idle : phase.pending = false) (unpaid : phase.paid = false) : Awarded state participantId (phase, state.ledger)
  | again {transaction : ScoreTransaction} {credited : List String} (listed : (transaction.id, credited) ∈ state.credits) :
    Awarded state participantId (.scored transaction, state.ledger)
  | first {transaction : ScoreTransaction} {ledger : Ledger} (unused : state.credits = [])
    (credited : ({ state with ledger := ledger } : AwardState).credits = [(transaction.id, [participantId])]) :
    Awarded state participantId (.scored transaction, ledger)

theorem award_cases (state : AwardState) (participantId : String) (stamp : Stamp) (gate : Except Failure (ScoreSourceType × Int)) :
    state.Awarded participantId (state.award participantId stamp gate) := by
  unfold award
  cases gate with
  | error => exact .failed rfl rfl
  | ok found =>
    obtain ⟨sourceType, points⟩ := found
    cases made : state.ledger.recordScore stamp (state.claim.awardInput participantId sourceType points) with
    | error failure => cases failure <;> simp only [made] <;> exact .failed rfl rfl
    | ok result =>
      obtain ⟨transaction, ledger⟩ := result
      simp only [made]
      obtain ⟨listed, rfl⟩ | ⟨unused, credited⟩ := under_recorded (Ledger.recordScore_ok.mp made)
      · exact .again listed
      · exact .first unused credited

theorem single_step (single : state.credits.length ≤ 1) (move : ClaimMove) : (step move state).credits.length ≤ 1 := by
  cases move with
  | arrive participantId now assigned => exact (congrArg List.length (credits_claim (StaffAwardClaim.lock_key assigned))).trans_le single
  | preview => exact (congrArg List.length (credits_claim StaffAwardClaim.expire_key)).trans_le single
  | world =>
    simp only [step]
    split
    · exact single
    · next apart => exact (congrArg List.length (credits_world apart)).trans_le single
  | proceed index now stamp gate =>
    simp only [step]
    cases state.calls[index]? with
    | none => exact single
    | some call =>
      obtain ⟨caller, phase⟩ := call
      cases phase with
      | acquired | recalling _ | answered _ => exact single
      | refused => exact (congrArg List.length (credits_claim StaffAwardClaim.release_key)).trans_le single
      | scored => exact (congrArg List.length (credits_claim StaffAwardClaim.settle_key)).trans_le single
      | awarding =>
        change (({ state with ledger := (state.award caller stamp gate).2 } : AwardState).credits).length ≤ 1
        have awarded := state.award_cases caller stamp gate
        generalize state.award caller stamp gate = result at awarded ⊢
        cases awarded with
        | failed _ _ | again _ => exact single
        | first _ credited =>
          rw [credited]
          exact Nat.le_refl 1

theorem mem_setPhase {other : ClaimCall} (mem : other ∈ (state.setPhase index call phase).calls) :
    other ∈ state.calls ∨ other = { call with phase := phase } := List.mem_or_eq_of_mem_set mem

theorem Settled.setPhase (settled : state.Settled) (mine : call ∈ state.calls) (pending : phase.pending → call.phase.pending)
    (paid : phase.paid → call.phase.paid) (scored : ∀ transaction, phase ≠ .scored transaction) : (state.setPhase index call phase).Settled where
  single := settled.single
  quiet active := by
    have quiet := settled.quiet active
    refine ⟨quiet.credits, fun other mem => ?_⟩
    rcases mem_setPhase mem with listed | rfl
    · exact quiet.calls other listed
    · exact ⟨fun waits => (quiet.calls call mine).1 (pending waits), fun tells => (quiet.calls call mine).2 (paid tells)⟩
  owned active := by
    obtain ⟨owner, owned⟩ := settled.owned active
    refine ⟨owner, owned.held, fun other mem => ?_, owned.credited, owned.settled⟩
    rcases mem_setPhase mem with listed | rfl
    · exact owned.calls other listed
    · have fits := owned.calls call mine
      exact ⟨fun waits => fits.pending (pending waits), fun tells => fits.paid (paid tells), fun transaction same => absurd same (scored transaction)⟩

theorem Settled.release (settled : state.Settled) (now : Int)
    (clean : state.claim.status = .processing → now < state.claim.expiresAt → state.credits = [] ∧ ∀ call ∈ state.calls, ¬ call.phase.pending) :
    ({ state with claim := state.claim.release now } : AwardState).Settled := by
  have credits := @credits_claim state _ (@StaffAwardClaim.release_key now state.claim)
  by_cases processing : state.claim.status = .processing
  · obtain ⟨owner, owned⟩ := settled.owned (by simp [processing])
    have status : (state.claim.release now).status = if now < state.claim.expiresAt then .active else .expired := by
      rw [StaffAwardClaim.release, if_pos processing]
    refine ⟨credits ▸ settled.single, fun active => ?_, fun active => ⟨owner, fun live => ?_, ?_, ?_, fun claimed => ?_⟩⟩
    · have early : now < state.claim.expiresAt := by
        by_contra late
        exact absurd (status.symm.trans active) (by simp [late])
      obtain ⟨unused, idle⟩ := clean processing early
      refine ⟨credits.trans unused, fun call mem => ⟨idle call mem, fun tells => ?_⟩⟩
      exact ((owned.calls call mem).paid tells).2 unused
    · have late : ¬ now < state.claim.expiresAt := fun early => active (by rw [status, if_pos early])
      rw [show ({ state with claim := state.claim.release now } : AwardState).claim.status = .expired by rw [status, if_neg late]] at live
      simp at live
    · rw [credits]
      exact owned.calls
    · rw [credits]
      exact owned.credited
    · have late : ¬ now < state.claim.expiresAt := fun early => active (by rw [status, if_pos early])
      cases (show ClaimStatus.expired = .claimed from (by rw [status, if_neg late] at claimed; exact claimed))
  · rwa [show state.claim.release now = state.claim from if_neg processing]

theorem Settled.settle (settled : state.Settled) {transaction : ScoreTransaction} (mine : call ∈ state.calls) (scored : call.phase = .scored transaction) :
    ({ state with claim := state.claim.settle transaction.id } : AwardState).Settled := by
  have credits := @credits_claim state _ (@StaffAwardClaim.settle_key state.claim transaction.id)
  by_cases processing : state.claim.status = .processing
  · obtain ⟨owner, owned⟩ := settled.owned (by simp [processing])
    obtain ⟨credited, listed⟩ := (owned.calls call mine).scored transaction scored
    have claimed : state.claim.settle transaction.id = { state.claim with status := .claimed, transactionId := some transaction.id } := if_pos processing
    refine ⟨credits ▸ settled.single, fun active => ?_, fun _ => ⟨owner, fun _ => ?_, ?_, ?_, fun _ => ?_⟩⟩
    · rw [claimed] at active
      cases active
    · rw [claimed]
      exact owned.held (.inl processing)
    · rw [credits]
      exact owned.calls
    · rw [credits]
      exact owned.credited
    · rw [credits]
      exact ⟨_, listed, by rw [claimed]⟩
  · rwa [show state.claim.settle transaction.id = state.claim from if_neg processing]

theorem Settled.award (settled : state.Settled) (mine : call ∈ state.calls) (pending : call.phase.pending) {result : CallPhase × Ledger}
    (awarded : state.Awarded call.participantId result) : (({ state with ledger := result.2 } : AwardState).setPhase index call result.1).Settled := by
  cases awarded with
  | @failed phase idle unpaid =>
    refine settled.setPhase mine (by simp [idle]) (by simp [unpaid]) fun transaction same => ?_
    rw [show phase = .scored transaction from same] at unpaid
    cases unpaid
  | @again transaction credited listed =>
    have taken : state.claim.status ≠ .active := fun active => (settled.quiet active).calls call mine |>.1 pending
    obtain ⟨owner, owned⟩ := settled.owned taken
    refine ⟨settled.single, fun active => absurd active taken, fun _ => ⟨owner, owned.held, fun other mem => ?_, owned.credited, owned.settled⟩⟩
    rcases mem_setPhase mem with earlier | rfl
    · exact owned.calls other earlier
    · refine ⟨fun waits => (by cases waits), fun _ => ⟨(owned.calls call mine).pending pending, ne_nil_of_mem listed⟩, fun _ same => ?_⟩
      cases CallPhase.scored.inj same
      exact ⟨credited, listed⟩
  | @first transaction ledger unused credited =>
    have taken : state.claim.status ≠ .active := fun active => (settled.quiet active).calls call mine |>.1 pending
    obtain ⟨owner, owned⟩ := settled.owned taken
    have self := (owned.calls call mine).pending pending
    have now : (({ state with ledger := ledger } : AwardState).setPhase index call (.scored transaction)).credits =
        [(transaction.id, [call.participantId])] := credited
    refine ⟨by rw [now]; exact Nat.le_refl 1, fun active => absurd active taken, fun _ => ⟨owner, owned.held, fun other mem => ?_, ?_, fun claimed => ?_⟩⟩
    · rw [now]
      rcases mem_setPhase mem with earlier | rfl
      · have fits := owned.calls other earlier
        refine ⟨fits.pending, fun tells => absurd unused (fits.paid tells).2, fun transaction same => ?_⟩
        obtain ⟨_, listed⟩ := fits.scored transaction same
        rw [unused] at listed
        cases listed
      · refine ⟨fun waits => (by cases waits), fun _ => ⟨self, cons_ne_nil _ _⟩, fun _ same => ?_⟩
        cases CallPhase.scored.inj same
        exact ⟨_, mem_singleton.mpr rfl⟩
    · rw [now, ← self]
      exact fun credit mem => by rw [mem_singleton.mp mem]
    · obtain ⟨credit, listed, -⟩ := owned.settled claimed
      rw [unused] at listed
      cases listed

theorem Owned.arrive {claim : StaffAwardClaim} (owned : state.Owned owner) (same : state.claim.SameKey claim)
    (held : claim.status = .processing ∨ claim.status = .claimed → claim.participantId = some owner)
    (settled : claim.status = .claimed → ∃ credit ∈ state.credits, claim.transactionId = some credit.1) (fits : Fits owner state.credits call) :
    ({ state with claim := claim, calls := state.calls ++ [call] } : AwardState).Owned owner := by
  have credits : ({ state with claim := claim, calls := state.calls ++ [call] } : AwardState).credits = state.credits := credits_claim same
  refine ⟨held, fun other mem => ?_, ?_, ?_⟩
  · rw [credits]
    rcases mem_append.mp mem with earlier | new
    · exact owned.calls other earlier
    · exact mem_singleton.mp new ▸ fits
  · rw [credits]
    exact owned.credited
  · rw [credits]
    exact settled

theorem Quiet.own (quiet : state.Quiet) (active : state.claim.status = .active) (owner : String) : state.Owned owner where
  held live := by simp [active] at live
  calls call mem := by
    obtain ⟨idle, unpaid⟩ := quiet.calls call mem
    exact ⟨fun waits => absurd waits idle, fun tells => absurd tells unpaid, fun _ same => absurd (by rw [same]; rfl) unpaid⟩
  credited credit mem := by
    rw [quiet.credits] at mem
    cases mem
  settled claimed := by simp [active] at claimed

theorem Owned.turnedAway_fits (owned : state.Owned owner) : Fits owner state.credits ⟨participantId, state.claim.turnedAway participantId⟩ := by
  have refusal (failure : Failure) : Fits owner state.credits ⟨participantId, .answered (.error failure)⟩ :=
    ⟨fun waits => (by cases waits), fun tells => (by cases tells), fun _ same => (by cases same)⟩
  unfold StaffAwardClaim.turnedAway
  cases status : state.claim.status with
  | active | expired | revoked => exact refusal _
  | processing =>
    dsimp only
    split <;> exact refusal _
  | claimed =>
    cases recorded : state.claim.transactionId with
    | none => exact refusal _
    | some =>
      dsimp only
      split
      · next mine =>
        obtain ⟨credit, listed, -⟩ := owned.settled status
        have self := some.inj (mine.symm.trans (owned.held (.inr status)))
        exact ⟨fun waits => (by cases waits), fun _ => ⟨self, ne_nil_of_mem listed⟩, fun _ same => (by cases same)⟩
      · exact refusal _

theorem lock_cases (claim : StaffAwardClaim) (participantId : String) (now : Int) (assigned : Bool) :
    ((claim.status = .active ∨ claim.status = .processing) ∧
        claim.lock participantId now assigned = ({ claim with status := .expired }, .answered (.error (.refused 410 "This award QR has expired")))) ∨
      claim.lock participantId now assigned = (claim, claim.turnedAway participantId) ∨
      ((claim.status = .active ∨ claim.status = .processing ∧ claim.participantId = some participantId) ∧
        claim.lock participantId now assigned =
          ({ claim with status := .processing, participantId := some participantId, processingStartedAt := some now }, .acquired)) := by
  have processing (stale : claim.stale now) : claim.status = .processing := by
    simp only [StaffAwardClaim.stale, and_eq_true, beq_iff_eq] at stale
    exact stale.1
  unfold StaffAwardClaim.lock
  split
  · next late => exact .inl ⟨late.2.imp_right processing, rfl⟩
  · split
    · exact .inr (.inl rfl)
    · next free =>
      refine .inr (.inr ⟨?_, rfl⟩)
      by_cases active : claim.status = .active
      · exact .inl active
      · have stale : claim.stale now := by
          by_contra fresh
          exact free (.inl ⟨active, by simpa using fresh⟩)
        refine .inr ⟨processing stale, ?_⟩
        by_contra other
        exact free (.inr (.inr ⟨stale, other⟩))

theorem Settled.arrive (settled : state.Settled) (participantId : String) (now : Int) (assigned : Bool) :
    (step (.arrive participantId now assigned) state).Settled := by
  have single := single_step settled.single (.arrive participantId now assigned)
  have key := @StaffAwardClaim.lock_key participantId now state.claim assigned
  simp only [step] at single ⊢
  rcases lock_cases state.claim participantId now assigned with ⟨before, same⟩ | same | ⟨before, same⟩ <;> rw [same] at single key ⊢
  · refine ⟨single, fun active => (by cases active), fun _ => ?_⟩
    obtain ⟨owner, owned⟩ : ∃ owner, state.Owned owner := by
      rcases before with active | processing
      · exact ⟨"", (settled.quiet active).own active ""⟩
      · exact settled.owned (by simp [processing])
    exact ⟨owner, owned.arrive key (fun live => by simp at live) (nofun)
      ⟨fun waits => (by cases waits), fun tells => (by cases tells), fun _ same => (by cases same)⟩⟩
  · refine ⟨single, fun active => ?_, fun taken => ?_⟩
    · have quiet := settled.quiet active
      refine ⟨quiet.credits, fun call mem => ?_⟩
      rcases mem_append.mp mem with earlier | new
      · exact quiet.calls call earlier
      · rw [mem_singleton.mp new, StaffAwardClaim.turnedAway, show state.claim.status = .active from active]
        exact ⟨fun waits => (by cases waits), fun tells => (by cases tells)⟩
    · obtain ⟨owner, owned⟩ := settled.owned taken
      exact ⟨owner, owned.arrive key owned.held owned.settled owned.turnedAway_fits⟩
  · refine ⟨single, fun active => (by cases active), fun _ => ⟨participantId, ?_⟩⟩
    have owned : state.Owned participantId := by
      rcases before with active | ⟨processing, mine⟩
      · exact (settled.quiet active).own active participantId
      · obtain ⟨owner, owned⟩ := settled.owned (by simp [processing])
        cases some.inj ((owned.held (.inl processing)).symm.trans mine)
        exact owned
    exact owned.arrive key (fun _ => rfl) (nofun)
      ⟨fun _ => rfl, fun tells => (by cases tells), fun _ same => (by cases same)⟩

theorem Settled.expire (settled : state.Settled) (now : Int) : ({ state with claim := state.claim.expire now } : AwardState).Settled := by
  have credits := @credits_claim state _ (@StaffAwardClaim.expire_key now state.claim)
  unfold StaffAwardClaim.expire at credits ⊢
  split at credits
  · next late =>
    obtain ⟨owner, owned⟩ : ∃ owner, state.Owned owner := by
      by_cases active : state.claim.status = .active
      · exact ⟨"", (settled.quiet active).own active ""⟩
      · exact settled.owned active
    rw [if_pos late]
    exact ⟨settled.single, fun active => (by cases active), fun _ => ⟨owner, fun live => (by simp at live), owned.calls, owned.credited, nofun⟩⟩
  · next early =>
    rw [if_neg early]
    exact settled

theorem Settled.step (settled : state.Settled) {move : ClaimMove} (clean : Clean move state) : (AwardState.step move state).Settled := by
  cases move with
  | arrive participantId now assigned => exact settled.arrive participantId now assigned
  | preview now => exact settled.expire now
  | world =>
    simp only [AwardState.step]
    split
    · exact settled
    · next apart =>
      have credits := credits_world apart
      refine ⟨credits ▸ settled.single, fun active => ?_, fun taken => ?_⟩
      · have quiet := settled.quiet active
        exact ⟨credits.trans quiet.credits, quiet.calls⟩
      · obtain ⟨owner, owned⟩ := settled.owned taken
        refine ⟨owner, owned.held, ?_, ?_, ?_⟩ <;> rw [credits]
        · exact owned.calls
        · exact owned.credited
        · exact owned.settled
  | proceed index now stamp gate =>
    simp only [AwardState.step, Clean] at clean ⊢
    cases found : state.calls[index]? with
    | none => exact settled
    | some call =>
      have mine := mem_of_getElem? found
      obtain ⟨caller, phase⟩ := call
      rw [found] at clean
      cases phase with
      | acquired =>
        simp only [AwardState.proceed]
        split
        · exact settled.setPhase mine (nofun) (fun tells => by cases tells) fun _ same => by cases same
        · exact settled.setPhase mine (fun _ => rfl) (nofun) fun _ same => by cases same
      | awarding => exact settled.award mine rfl (state.award_cases caller stamp gate)
      | refused => exact (settled.release now (clean rfl)).setPhase mine (nofun) (fun tells => by cases tells) fun _ same => by cases same
      | scored => exact (settled.settle mine rfl).setPhase mine (nofun) (fun _ => rfl) fun _ same => by cases same
      | recalling => exact settled.setPhase mine (nofun) (fun _ => rfl) fun _ same => by cases same
      | answered => exact settled

theorem Fresh.settled (fresh : state.Fresh) : state.Settled where
  single := by
    rw [fresh.credits]
    exact Nat.zero_le 1
  quiet _ := ⟨fresh.credits, fun call mem => by rw [fresh.calls] at mem; cases mem⟩
  owned taken := absurd fresh.active taken

/-- However calls for a claim interleave, one transaction is made for it at most. Where no failed award makes the claim
active again over an award that is made or about to be, a claimed claim names the one its transaction credits, and nobody
else was ever told of the points. -/
theorem award_claims_agree (fresh : state.Fresh) (moves : List ClaimMove) :
    Throughout step (fun state => state.credits.length ≤ 1) state moves ∧ (EachStep step Clean state moves → Throughout step Agreed state moves) := by
  constructor
  · exact (@EachStep.shows _ _ step (fun _ _ => True) (fun state => state.credits.length ≤ 1) (fun _ _ => True)
      (fun {_ move} single _ => ⟨single_step single move, trivial⟩) state moves fresh.settled.single (EachStep.always fun _ _ => trivial)).1
  · intro clean
    exact (@EachStep.shows _ _ step Clean Settled (fun _ _ => True) (fun settled clean => ⟨settled.step clean, trivial⟩) state moves fresh.settled
      clean).1.imp fun _ settled => settled.agreed

/-- A code for three points, at an event with ann and bob. -/
def scanned : AwardState where
  ledger :=
    { gala with
      activities := [⟨"thanks", "gala", ⟨.repeated, false⟩⟩]
      participants := [⟨"ann", "gala", none, none, .active, true⟩, ⟨"bob", "gala", none, none, .active, true⟩] }
  claim := ⟨"sac", "gala", "desk", "thanks", none, none, .active, none, none, none, 180000⟩
  calls := []

theorem scanned_fresh : scanned.Fresh := ⟨rfl, rfl, by decide +kernel⟩

def manual : Except Failure (ScoreSourceType × Int) := .ok (.manual, 3)

def paused : Except Failure (ScoreSourceType × Int) := .error (.refused 409 "Manual awards are paused for this event")

def pausedFirst : List ClaimMove :=
  [.arrive "ann" 0 true, .proceed 0 1 ⟨1, "stx"⟩ manual, .proceed 0 2 ⟨2, "stx"⟩ paused, .proceed 0 3 ⟨3, "stx"⟩ manual, .arrive "bob" 4 true,
    .proceed 1 5 ⟨5, "stx"⟩ manual, .proceed 1 6 ⟨6, "stx"⟩ manual, .proceed 1 7 ⟨7, "stx"⟩ manual]

theorem award_claims_agree_paused : Throughout step (fun state => state.credits.length ≤ 1) scanned pausedFirst ∧
    Throughout step Agreed scanned pausedFirst :=
  have agree := award_claims_agree scanned_fresh pausedFirst
  ⟨agree.1, agree.2 (by decide +kernel)⟩

/-- Ann's first call is slow and her second takes over, is refused, and makes the claim active under the first. Bob acquires
it, ann's first call is awarded the points, and bob's call is handed ann's transaction. -/
def slowFirst : List ClaimMove :=
  [.arrive "ann" 0 true, .arrive "ann" 31000 true, .proceed 1 31001 ⟨31001, "stx"⟩ manual, .proceed 1 31002 ⟨31002, "stx"⟩ paused,
    .proceed 1 31003 ⟨31003, "stx"⟩ manual, .arrive "bob" 32000 true, .proceed 0 32001 ⟨32001, "stx"⟩ manual, .proceed 0 32002 ⟨32002, "stx"⟩ manual,
    .proceed 2 32003 ⟨32003, "stx"⟩ manual, .proceed 2 32004 ⟨32004, "other"⟩ manual, .proceed 2 32005 ⟨32005, "other"⟩ manual]

theorem slow_claim_differs :
    ¬ ∀ (state : AwardState) (moves : List ClaimMove), state.Fresh →
        Throughout step (fun state => state.credits.length ≤ 1) state moves ∧ Throughout step Agreed state moves := by
  intro agree
  have last := (agree scanned slowFirst scanned_fresh).2.last
  obtain ⟨participantId, transactionId, owner, -, credits, -⟩ := last (by decide +kernel)
  have bob : (runFrom step scanned slowFirst).claim.participantId = some "bob" := by decide +kernel
  have ann : (runFrom step scanned slowFirst).credits = [("stx", ["ann"])] := by decide +kernel
  cases some.inj (bob.symm.trans owner)
  exact absurd (ann.symm.trans credits) (by simp)

end AwardState

end

end MilkAndHenny.Scoring

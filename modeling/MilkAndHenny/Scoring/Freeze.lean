import MilkAndHenny.Scoring.Ledger

/-! Scoring that is frozen and resumed. Work that arrives while it is frozen is held, and accepting it is
a second implementation of recording it. -/

namespace MilkAndHenny.Scoring

open Library
open Transfers (truthy)

variable {pools : ScorePools}

inductive ScoreCall
  | record (input : RecordScoreInput)
  | reverse (eventSlug originalTransactionId : String) (input : RecordScoreInput)

def ScoreCall.eventSlug : ScoreCall → String
  | .record input => input.eventSlug
  | .reverse eventSlug _ _ => eventSlug

variable (call : ScoreCall) (ledger : Ledger)

def ScoreCall.perform (stamp : Stamp) : Except Failure (ScoreTransaction × Ledger) :=
  match call with
  | .record input => ledger.recordScore stamp input
  | .reverse eventSlug originalTransactionId input => ledger.reverseScore stamp eventSlug originalTransactionId input

def ScoreCall.recorded : Option RecordScoreInput :=
  match call with
  | .record input => some input
  | .reverse eventSlug originalTransactionId input =>
    (ledger.transactionOf originalTransactionId eventSlug).map fun original => Ledger.reversalOf eventSlug originalTransactionId original input

def ScoreCall.whileFrozen (stamp : Stamp) : Ledger :=
  match call.perform (ledger.changeScoringState call.eventSlug .frozen) stamp with
  | .error _ => (ledger.changeScoringState call.eventSlug .frozen).changeScoringState call.eventSlug .live
  | .ok (row, frozen) =>
    let resumed := frozen.changeScoringState call.eventSlug .live
    match if row.status = .held then resumed.acceptHeldScore call.eventSlug row.id else .ok (row, resumed) with
    | .error _ => resumed
    | .ok (_, accepted) => accepted

/-- The same balances, pool totals and transaction statuses. -/
structure Ledger.Alike (ledger other : Ledger) : Prop where
  balances : ∀ participantId, ledger.balance participantId = other.balance participantId
  pools : ledger.pools.rows = other.pools.rows
  statuses : ledger.transactions.map (fun row => (row.id, row.status)) = other.transactions.map fun row => (row.id, row.status)

/-- What acceptance asks for and recording does not: that no balance ends below zero, whatever the source and the
signs, and that the metadata of points without a pool name none. -/
def Ledger.Acceptable (input : RecordScoreInput) : Prop :=
  (ledger.existingTransaction input.eventSlug input.idempotencyKey).isSome ∨
    ledger.overdrawn input.postings = false ∧
      (truthy input.poolId = none → truthy input.metadata.poolId = none ∨ positivePoints input.postings = 0)

namespace Ledger

variable {ledger after : Ledger} {stamp : Stamp} {input : RecordScoreInput} {row : ScoreTransaction} {eventSlug : String} {state : ScoringState}

theorem lockSettings_change (live : (ledger.lockSettings eventSlug).state = .live) :
    (ledger.changeScoringState eventSlug state).lockSettings eventSlug = { ledger.lockSettings eventSlug with state := state } := by
  have changed := @find?_update _ ledger.settings (·.eventSlug == eventSlug) (fun settings => { settings with state := state })
    (·.eventSlug == eventSlug) fun _ _ => rfl
  simp only [lockSettings, changeScoringState] at live ⊢
  rw [changed]
  cases found : ledger.settings.find? (·.eventSlug == eventSlug) with
  | none => simp [found] at live
  | some settings =>
    have mine : (settings.eventSlug == eventSlug) = true := @find?_some _ (fun settings : ScoringSettings => settings.eventSlug == eventSlug) _ _ found
    simp only [map_some, if_pos mine, getD_some]

theorem ineligible_change (live : (ledger.lockSettings input.eventSlug).state = .live) :
    (ledger.changeScoringState input.eventSlug state).ineligible input = ledger.ineligible input := by
  have selfAward : (ledger.changeScoringState input.eventSlug state).selfAward input = ledger.selfAward input := by
    unfold Ledger.selfAward
    rw [lockSettings_change live]
    rfl
  have notCheckedIn : (ledger.changeScoringState input.eventSlug state).notCheckedIn input = ledger.notCheckedIn input := by
    unfold Ledger.notCheckedIn
    rw [lockSettings_change live]
    rfl
  unfold ineligible
  rw [selfAward, notCheckedIn]
  rfl

theorem notAccepting_frozen : notAccepting .frozen input = none := by
  unfold notAccepting requestedStatus
  cases input.status.getD .accepted <;> simp [refuseWhen]

theorem requestedStatus_frozen (accepted : requestedStatus .live input = .accepted) : requestedStatus .frozen input = .held := by
  rw [requestedStatus_live] at accepted
  simp [requestedStatus, accepted]

end Ledger

namespace ScorePools

variable {after : ScorePools} {input : RecordScoreInput} {status : ScoreTransactionStatus} {row : ScoreTransaction}
  {eventSlug poolId : String}

theorem ext_rows {pools other : ScorePools} (same : pools.rows = other.rows) : pools = other := by
  cases pools
  cases same
  rfl

theorem draw_ok : pools.draw input status = .ok after ↔
    ((truthy input.poolId = none ∨ positivePoints input.postings = 0) ∧ after = pools) ∨
      ∃ poolId, truthy input.poolId = some poolId ∧ positivePoints input.postings ≠ 0 ∧
        (positivePoints input.postings : Int) ≤ ((pools.find? poolId input.eventSlug).map ScorePool.available).getD (-1) ∧
        after.rows = update pools.rows (·.id == poolId) (ScorePool.charge status (positivePoints input.postings)) := by
  unfold draw
  cases truthy input.poolId with
  | none => simp [eq_comm]
  | some poolId =>
    dsimp only
    by_cases zero : positivePoints input.postings = 0
    · simp [zero, eq_comm]
    · rw [if_neg zero]
      split
      · next short =>
        simp only [reduceCtorEq, false_iff]
        rintro (⟨⟨⟨⟩⟩ | none, -⟩ | ⟨_, ⟨⟩, -, room, -⟩)
        · exact zero none
        · omega
      · next room =>
        rw [Except.ok.injEq]
        constructor
        · rintro rfl
          exact .inr ⟨poolId, rfl, zero, Int.not_lt.mp room, rfl⟩
        · rintro (⟨⟨⟨⟩⟩ | none, -⟩ | ⟨_, ⟨⟩, -, -, rows⟩)
          · exact absurd none zero
          · exact (ext_rows rows).symm

theorem release_ok : pools.release eventSlug row = .ok after ↔
    ((truthy row.metadata.poolId = none ∨ positivePoints row.postings = 0) ∧ after = pools) ∨
      ∃ poolId, truthy row.metadata.poolId = some poolId ∧ positivePoints row.postings ≠ 0 ∧
        (∃ pool ∈ pools.rows, pool.id = poolId ∧ pool.eventSlug = eventSlug ∧ positivePoints row.postings ≤ pool.held) ∧
        after.rows = update pools.rows (·.id == poolId) (ScorePool.settle (positivePoints row.postings)) := by
  unfold release
  cases truthy row.metadata.poolId with
  | none => simp [eq_comm]
  | some poolId =>
    dsimp only
    by_cases zero : positivePoints row.postings = 0
    · simp [zero, eq_comm]
    · rw [if_neg zero]
      split
      · next enough =>
        have covered : ∃ pool ∈ pools.rows, pool.id = poolId ∧ pool.eventSlug = eventSlug ∧ positivePoints row.postings ≤ pool.held := by
          simpa [and_assoc] using enough
        rw [Except.ok.injEq]
        constructor
        · rintro rfl
          exact .inr ⟨poolId, rfl, zero, covered, rfl⟩
        · rintro (⟨⟨⟨⟩⟩ | none, -⟩ | ⟨_, ⟨⟩, -, -, rows⟩)
          · exact absurd none zero
          · exact (ext_rows rows).symm
      · next short =>
        simp only [reduceCtorEq, false_iff]
        rintro (⟨⟨⟨⟩⟩ | none, -⟩ | ⟨_, ⟨⟩, -, covered, -⟩)
        · exact zero none
        · exact short (by simpa [and_assoc] using covered)

end ScorePools

namespace Ledger

variable {ledger after : Ledger} {stamp : Stamp} {input : RecordScoreInput} {row : ScoreTransaction}

def resumed (stamp : Stamp) (input : RecordScoreInput) (pools : ScorePools) : Ledger :=
  ((ledger.changeScoringState input.eventSlug .frozen).inserted pools (ledger.newTransaction stamp input .held) false).changeScoringState
    input.eventSlug .live

theorem resumed_live (live : (ledger.lockSettings input.eventSlug).state = .live) :
    ((ledger.resumed stamp input pools).lockSettings input.eventSlug).state = .live := by
  have twice : (ledger.resumed stamp input pools).settings = ledger.settings.map fun settings =>
      if settings.eventSlug == input.eventSlug then { settings with state := ScoringState.live } else settings := by
    exact update_update fun _ => rfl
  have once := congrArg ScoringSettings.state (@lockSettings_change ledger input.eventSlug .live live)
  unfold lockSettings at once ⊢
  rw [twice]
  exact once

theorem resumed_held (free : ledger.violation (ledger.newTransaction stamp input .held) = none) :
    (ledger.resumed stamp input pools).heldTransaction input.eventSlug stamp.transactionId = some (ledger.newTransaction stamp input .held) := by
  have others : ledger.transactions.find? (fun row => row.id == stamp.transactionId && row.eventSlug == input.eventSlug && row.status == .held) = none := by
    refine find?_eq_none.mpr fun other mem same => ?_
    simp only [and_eq_true, beq_iff_eq] at same
    exact new_id free other mem same.1.1
  change (ledger.transactions ++ [ledger.newTransaction stamp input .held]).find? _ = _
  rw [find?_append, others]
  simp [newTransaction]

theorem resumed_refusal (eligible : ledger.ineligible input = none) :
    (ledger.resumed stamp input pools).heldRefusal (ledger.newTransaction stamp input .held) =
      refuseWhen (ledger.overdrawn input.postings) 409 "A held correction would create a negative balance" := by
  have known : ledger.unknownParticipant input = none := by
    simp only [ineligible, orElse_eq_none] at eligible
    exact eligible.2.2.1
  have fine : (decide ((ledger.participantRows (participantIds input.postings)).length ≠ (participantIds input.postings).length) ||
      (ledger.participantRows (participantIds input.postings)).any fun participant => participant.status ≠ .active) = false := by
    simp only [unknownParticipant, refuseWhen_eq_none, or_eq_false_iff, any_eq_false] at known ⊢
    refine ⟨known.1, fun participant mem => ?_⟩
    have both := known.2 participant mem
    simp only [or_eq_true, not_or] at both
    exact both.2
  have balances : (ledger.resumed stamp input pools).overdrawn (ledger.newTransaction stamp input .held).postings = ledger.overdrawn input.postings := by
    unfold overdrawn
    rw [participantIds_newTransaction]
    simp only [pointsFor_newTransaction]
    rfl
  unfold heldRefusal
  rw [participantIds_newTransaction, balances]
  change (refuseWhen (decide ((ledger.participantRows (participantIds input.postings)).length ≠ _) ||
    (ledger.participantRows (participantIds input.postings)).any _) 409 _ <|> _) = _
  rw [fine]
  rfl

theorem record_frozen {held : ScorePools} (valid : invalidScore input = none) (known : ledger.unknownActivity input = none)
    (new : ledger.existingTransaction input.eventSlug input.idempotencyKey = none) (live : (ledger.lockSettings input.eventSlug).state = .live)
    (eligible : ledger.ineligible input = none) (requested : requestedStatus .live input = .accepted)
    (kept : ledger.pools.draw input .held = .ok held) (free : ledger.violation (ledger.newTransaction stamp input .held) = none) :
    (ledger.changeScoringState input.eventSlug .frozen).recordScoreInTransaction stamp input =
      .ok ({ ledger.newTransaction stamp input .held with postings := input.postings },
        (ledger.changeScoringState input.eventSlug .frozen).inserted held (ledger.newTransaction stamp input .held) false) := by
  refine recordScoreInTransaction_ok.mpr ⟨valid, known, .inr ⟨new, ?_, (ineligible_change live).trans eligible, ?_⟩⟩
  · rw [lockSettings_change live]
    exact notAccepting_frozen
  · rw [lockSettings_change live, requestedStatus_frozen requested]
    exact insertTransaction_ok.mpr ⟨held, kept, free, rfl, rfl⟩

theorem accept_resumed {pools : ScorePools} (live : (ledger.lockSettings input.eventSlug).state = .live)
    (eligible : ledger.ineligible input = none) (free : ledger.violation (ledger.newTransaction stamp input .held) = none) {accepted : Ledger} :
    (ledger.resumed stamp input pools).acceptHeldScore input.eventSlug stamp.transactionId = .ok (row, accepted) ↔
      ledger.overdrawn input.postings = false ∧
        ∃ released, pools.release input.eventSlug (ledger.newTransaction stamp input .held) = .ok released ∧
          row = ledger.newTransaction stamp input .accepted ∧
          accepted = { ledger.resumed stamp input pools with
            pools := released
            transactions := ledger.transactions ++ [ledger.newTransaction stamp input .accepted]
            projections := creditAll ScorePosting.participantId ScorePosting.points ledger.projections
              (ledger.newTransaction stamp input .accepted).postings } := by
  have settled : update (ledger.transactions ++ [ledger.newTransaction stamp input .held]) (·.id == stamp.transactionId)
      (fun row => { row with status := .accepted }) = ledger.transactions ++ [ledger.newTransaction stamp input .accepted] := by
    have apart : ∀ other ∈ ledger.transactions, (other.id == stamp.transactionId) = false := fun other mem => beq_false_of_ne (new_id free other mem)
    rw [update_append, update_absent apart]
    simp [update, newTransaction]
  rw [acceptHeldScore_ok, resumed_held free]
  constructor
  · rintro ⟨-, held, released, found, refusal, done, rfl, rfl⟩
    cases found
    rw [resumed_refusal eligible, refuseWhen_eq_none] at refusal
    refine ⟨refusal, released, done, rfl, ?_⟩
    rw [← settled]
    rfl
  · rintro ⟨solvent, released, done, rfl, rfl⟩
    refine ⟨resumed_live live, _, released, rfl, ?_, done, rfl, ?_⟩
    · rw [resumed_refusal eligible, solvent]
      rfl
    · rw [← settled]
      rfl

end Ledger

namespace ScorePools

variable {spent held : ScorePools} {ledger : Ledger} {stamp : Stamp} {input : RecordScoreInput}

section
variable {points : Nat}

theorem draw_held (drawn : pools.draw input .accepted = .ok spent) : ∃ held, pools.draw input .held = .ok held := by
  rcases draw_ok.mp drawn with ⟨nothing, -⟩ | ⟨poolId, named, some, room, -⟩
  · exact ⟨pools, draw_ok.mpr (.inl ⟨nothing, rfl⟩)⟩
  · exact ⟨pools.change poolId (ScorePool.charge .held _) (ScorePool.charge_id _ _), draw_ok.mpr (.inr ⟨poolId, named, some, room, rfl⟩)⟩

theorem charge_settle (rows : List ScorePool) (poolId : String) (points : Nat) :
    update (update rows (·.id == poolId) (ScorePool.charge .held points)) (·.id == poolId) (ScorePool.settle points) =
      update rows (·.id == poolId) (ScorePool.charge .accepted points) := by
  rw [update_update fun pool => by rw [ScorePool.charge_id]]
  congr 1
  funext pool
  simp [ScorePool.charge, ScorePool.settle]

theorem charge_covers {poolId eventSlug : String} (room : (points : Int) ≤ ((pools.find? poolId eventSlug).map ScorePool.available).getD (-1)) :
    ∃ pool ∈ update pools.rows (·.id == poolId) (ScorePool.charge .held points), pool.id = poolId ∧ pool.eventSlug = eventSlug ∧ points ≤ pool.held := by
  cases found : pools.find? poolId eventSlug with
  | none =>
    rw [found] at room
    simp only [map_none, getD_none] at room
    omega
  | some pool =>
    have mine := find?_some found
    simp only [and_eq_true, beq_iff_eq] at mine
    refine ⟨pool.charge .held points, mem_update.mpr ⟨pool, mem_of_find?_eq_some found, ?_⟩, ?_⟩
    · rw [if_pos (beq_iff_eq.mpr mine.1)]
    · simp [ScorePool.charge, mine.1, mine.2]

theorem settle_shows {poolId : String} (positive : points ≠ 0) {pool : ScorePool} (mem : pool ∈ pools.rows) (mine : pool.id = poolId)
    (covered : points ≤ pool.held) : pools.rows ≠ update pools.rows (·.id == poolId) (ScorePool.settle points) := by
  intro same
  have each := List.map_inj_left.mp ((map_id pools.rows).trans same) pool mem
  rw [if_pos (beq_iff_eq.mpr mine)] at each
  have shrunk := congrArg ScorePool.held each
  simp only [id_eq, ScorePool.settle] at shrunk
  omega

theorem release_drawn (drawn : pools.draw input .accepted = .ok spent) (kept : pools.draw input .held = .ok held) :
    held.release input.eventSlug (ledger.newTransaction stamp input .held) = .ok spent ↔
      (truthy input.poolId = none → truthy input.metadata.poolId = none ∨ positivePoints input.postings = 0) := by
  rw [release_ok, Ledger.positivePoints_newTransaction]
  have named : (ledger.newTransaction stamp input .held).metadata.poolId = (truthy input.poolId <|> input.metadata.poolId) := rfl
  rw [named]
  rcases draw_ok.mp drawn with ⟨nothing, rfl⟩ | ⟨poolId, pool, positive, room, rows⟩
  · obtain rfl : held = spent := by
      rcases draw_ok.mp kept with ⟨-, same⟩ | ⟨poolId, pool, positive, -⟩
      · exact same
      · rcases nothing with absent | zero
        · cases absent.symm.trans pool
        · exact absurd zero positive
    rcases nothing with absent | zero
    · have own : truthy (truthy input.poolId <|> input.metadata.poolId) = truthy input.metadata.poolId := by rw [absent]; rfl
      rw [own]
      constructor
      · rintro (⟨unnamed, -⟩ | ⟨poolId, -, positive, ⟨row, mem, mine, -, covered⟩, rows⟩) -
        · exact unnamed
        · exact absurd rows (settle_shows positive mem mine covered)
      · intro unnamed
        exact .inl ⟨unnamed absent, rfl⟩
    · simp [zero]
  · have filled : truthy (truthy input.poolId <|> input.metadata.poolId) = some poolId := by
      rw [pool]
      exact (congrArg truthy pool.symm).trans ((by simp [truthy, Option.filter_filter] : truthy (truthy input.poolId) = truthy input.poolId).trans pool)
    have covered := charge_covers room
    rcases draw_ok.mp kept with ⟨absent | zero, -⟩ | ⟨other, same, -, -, heldRows⟩
    · cases absent.symm.trans pool
    · exact absurd zero positive
    · obtain rfl : poolId = other := some.inj (pool.symm.trans same)
      refine iff_of_true (.inr ⟨poolId, filled, positive, ?_, ?_⟩) fun absent => by cases absent.symm.trans pool
      · rw [heldRows]
        exact covered
      · rw [heldRows, rows, charge_settle]

end

end ScorePools

section

variable {call : ScoreCall} {ledger after : Ledger} {stamp : Stamp} {row : ScoreTransaction}

def ScoreCall.Admits (call : ScoreCall) (ledger : Ledger) : Prop :=
  match call with
  | .record _ => True
  | .reverse eventSlug originalTransactionId _ =>
    ∀ original ∈ ledger.transactionOf originalTransactionId eventSlug, original.status = .accepted ∧ original.postings ≠ []

theorem ScoreCall.perform_ok : call.perform ledger stamp = .ok (row, after) ↔
    ∃ input, call.recorded ledger = some input ∧ call.Admits ledger ∧ ledger.recordScoreInTransaction stamp input = .ok (row, after) := by
  cases call with
  | record input =>
    refine Ledger.recordScore_ok.trans ⟨fun done => ⟨input, rfl, trivial, done⟩, ?_⟩
    rintro ⟨_, ⟨⟩, -, done⟩
    exact done
  | reverse =>
    refine Ledger.reverseScore_ok.trans ⟨?_, ?_⟩
    · rintro ⟨original, found, accepted, posted, done⟩
      refine ⟨_, congrArg (Option.map _) found, fun other same => ?_, done⟩
      cases some.inj (found.symm.trans same)
      exact ⟨accepted, posted⟩
    · rintro ⟨recorded, made, admits, done⟩
      obtain ⟨original, found, rfl⟩ := map_eq_some_iff.mp made
      exact ⟨original, found, (admits original found).1, (admits original found).2, done⟩

theorem ScoreCall.recorded_eventSlug {input : RecordScoreInput} (recorded : call.recorded ledger = some input) : input.eventSlug = call.eventSlug := by
  cases call with
  | record =>
    cases recorded
    rfl
  | reverse =>
    obtain ⟨original, -, rfl⟩ := map_eq_some_iff.mp recorded
    rfl

/-- A score that scoring would accept live ends alike, recorded while frozen and accepted after it has resumed, exactly
where acceptance asks for nothing that recording it does not. -/
theorem frozen_scores_alike (live : (ledger.lockSettings call.eventSlug).state = .live) (performed : call.perform ledger stamp = .ok (row, after))
    (accepted : row.status = .accepted) :
    after.Alike (call.whileFrozen ledger stamp) ↔ ∀ input ∈ call.recorded ledger, ledger.Acceptable input := by
  obtain ⟨input, recorded, admits, done⟩ := ScoreCall.perform_ok.mp performed
  have slug := ScoreCall.recorded_eventSlug recorded
  have frozenPerform {frozenRow : ScoreTransaction} {frozenAfter : Ledger}
      (frozenDone : (ledger.changeScoringState call.eventSlug .frozen).recordScoreInTransaction stamp input = .ok (frozenRow, frozenAfter)) :
      call.perform (ledger.changeScoringState call.eventSlug .frozen) stamp = .ok (frozenRow, frozenAfter) := by
    refine ScoreCall.perform_ok.mpr ⟨input, ?_, ?_, frozenDone⟩
    · cases call <;> exact recorded
    · cases call <;> exact admits
  have only : (∀ input ∈ call.recorded ledger, ledger.Acceptable input) ↔ ledger.Acceptable input := by
    rw [recorded]
    exact ⟨fun all => all input rfl, fun one _ same => some.inj same ▸ one⟩
  rw [only]
  unfold ScoreCall.whileFrozen
  rw [← slug] at live frozenPerform ⊢
  obtain ⟨valid, known, ⟨existing, rfl⟩ | ⟨new, -, eligible, inserted⟩⟩ := Ledger.recordScoreInTransaction_ok.mp done
  · have again : (after.changeScoringState input.eventSlug .frozen).recordScoreInTransaction stamp input =
        .ok (row, after.changeScoringState input.eventSlug .frozen) := Ledger.recordScoreInTransaction_ok.mpr ⟨valid, known, .inl ⟨existing, rfl⟩⟩
    rw [frozenPerform again]
    dsimp only
    rw [if_neg (by simp [accepted])]
    exact iff_of_true ⟨fun _ => rfl, rfl, rfl⟩ (.inl (Option.isSome_of_eq_some existing))
  · obtain ⟨spent, drawn, free, rfl, rfl⟩ := Ledger.insertTransaction_ok.mp inserted
    have requested : Ledger.requestedStatus (ledger.lockSettings input.eventSlug).state input = .accepted := accepted
    rw [requested] at drawn free ⊢
    rw [live] at requested
    obtain ⟨held, kept⟩ := ScorePools.draw_held drawn
    have frozen := Ledger.record_frozen valid known new live eligible requested kept free
    rw [frozenPerform frozen]
    change Ledger.Alike _ (match if (ScoreTransactionStatus.held = .held) then
        (ledger.resumed stamp input held).acceptHeldScore input.eventSlug stamp.transactionId else .ok (_, ledger.resumed stamp input held) with
      | .error _ => ledger.resumed stamp input held
      | .ok (_, accepted) => accepted) ↔ _
    have outcome {row : ScoreTransaction} {accepted : Ledger} := @Ledger.accept_resumed ledger stamp input row held live eligible free accepted
    have acceptable : ledger.Acceptable input ↔ ledger.overdrawn input.postings = false ∧
        held.release input.eventSlug (ledger.newTransaction stamp input .held) = .ok spent := by
      rw [ScorePools.release_drawn drawn kept, Ledger.Acceptable, new]
      exact or_iff_right (by simp)
    rw [acceptable]
    cases result : (ledger.resumed stamp input held).acceptHeldScore input.eventSlug stamp.transactionId with
    | error =>
      refine iff_of_false (fun alike => ?_) fun ⟨solvent, released⟩ => ?_
      · have statuses := alike.statuses
        simp [Ledger.inserted, Ledger.resumed, Ledger.changeScoringState, Ledger.newTransaction] at statuses
      · cases result.symm.trans (outcome.mpr ⟨solvent, spent, released, rfl, rfl⟩)
    | ok done =>
      obtain ⟨settledRow, settled⟩ := done
      obtain ⟨solvent, released, release, -, rfl⟩ := outcome.mp result
      constructor
      · intro alike
        refine ⟨solvent, release.trans (congrArg _ ?_)⟩
        exact ScorePools.ext_rows alike.pools.symm
      · rintro ⟨-, same⟩
        cases Except.ok.inj (release.symm.trans same)
        exact ⟨fun _ => rfl, rfl, rfl⟩

/-- An award of five points to ann, three of which she has been fined, and a pool of twenty. -/
def fined : Ledger where
  settings := [⟨"gala", .live, true, false⟩]
  events := [⟨"gala", .published⟩]
  activities := []
  participants := [⟨"ann", "gala", none, none, .active, true⟩]
  validTickets := []
  assignments := []
  transfers := []
  teams := []
  memberships := []
  merges := []
  pools := ⟨[{ id := "prizes", eventSlug := "gala", issued := 20, reserved := 0, spent := 0, held := 0 }], by decide⟩
  transactions :=
    [⟨"stx_award", "gala", none, .manual, "award", "award", .accepted, none, ⟨none, false⟩, [⟨"ann", 5, none⟩]⟩,
      ⟨"stx_fine", "gala", none, .correction, "fine", "fine", .accepted, none, ⟨none, false⟩, [⟨"ann", -3, none⟩]⟩]
  projections := [("ann", 2)]

def prizeInput : RecordScoreInput where
  eventSlug := "gala"
  activityId := none
  sourceType := .manual
  sourceId := "prize"
  idempotencyKey := "prize"
  status := none
  note := none
  assignmentId := none
  originalTransactionId := none
  metadata := ⟨none, false⟩
  postings := [⟨"ann", 4, none⟩]
  poolId := some "prizes"

def prize : ScoreTransaction where
  id := "stx_prize"
  eventSlug := "gala"
  activityId := none
  sourceType := .manual
  sourceId := "prize"
  idempotencyKey := "prize"
  status := .accepted
  originalTransactionId := none
  metadata := ⟨some "prizes", false⟩
  postings := [⟨"ann", 4, none⟩]

def prized : Ledger :=
  { fined with
    pools := ⟨[{ id := "prizes", eventSlug := "gala", issued := 20, reserved := 0, spent := 4, held := 0 }], by decide⟩
    transactions := fined.transactions ++ [prize]
    projections := [("ann", 6)] }

theorem frozen_scores_alike_prize :
    prized.Alike ((ScoreCall.record prizeInput).whileFrozen fined ⟨0, "stx_prize"⟩) ↔
      ∀ input ∈ (ScoreCall.record prizeInput).recorded fined, fined.Acceptable input :=
  @frozen_scores_alike (.record prizeInput) fined prized ⟨0, "stx_prize"⟩ prize (by decide +kernel) (by decide +kernel) (by decide)

def spentReversal : ScoreCall := .reverse "gala" "stx_award" { prizeInput with idempotencyKey := "reversal", poolId := none }

def reversed : ScoreTransaction × Ledger := (spentReversal.perform fined ⟨0, "stx_reversal"⟩).toOption.getD (prize, fined)

/-- Live, the award is taken back and ann owes the three points. Held, her reversal is refused for good. -/
theorem frozen_reversal_differs :
    ¬ ∀ (call : ScoreCall) (ledger after : Ledger) (stamp : Stamp) (row : ScoreTransaction),
      (ledger.lockSettings call.eventSlug).state = .live → call.perform ledger stamp = .ok (row, after) → row.status = .accepted →
        after.Alike (call.whileFrozen ledger stamp) := by
  intro alike
  have done : spentReversal.perform fined ⟨0, "stx_reversal"⟩ = .ok (reversed.1, reversed.2) := by decide +kernel
  have statuses := (alike spentReversal fined reversed.2 ⟨0, "stx_reversal"⟩ reversed.1 (by decide) done (by decide +kernel)).statuses
  exact absurd statuses (by decide +kernel)

end

end MilkAndHenny.Scoring

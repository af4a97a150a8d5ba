import MilkAndHenny.Checkpoints.Allowance

/-! What scans and corrections answer, and for which tickets units are recorded. -/

namespace MilkAndHenny.Checkpoints

open Library Door

variable {stations : Stations} {ticket : Ticket} {stage : Stage}

section
variable {input : CheckpointScanInput}

variable (sound : Sound stations)
include sound

theorem Known.only {other : Ticket} (known : Known stations.db ticket) (mem : other ∈ stations.db.tickets)
    (same : other.reference = ticket.reference) : other.id = ticket.id := by
  obtain ⟨now, listed, id, reference, -⟩ := known
  rw [inj_on_of_nodup_map sound.references mem listed (same.trans reference.symm), id]

theorem unused {checkpoint : CheckpointRecord}
    (located : Located stations.db input checkpoint) (mem : ticket ∈ stations.db.tickets)
    (none : checkpointAllowanceFor checkpoint ticket.ticketTypeId = 0) :
    stations.db.used (input.eventSlug, input.checkpointId, ticket.id) = 0 := by
  cases found : stations.db.usageOf (input.eventSlug, input.checkpointId, ticket.id) with
  | none => rw [Database.used, found]; rfl
  | some row =>
    obtain ⟨listed, key⟩ := usageOf_some found
    obtain ⟨other, there, otherKey⟩ := sound.there row listed
    simp only [Usage.key, Prod.mk.injEq] at key
    rw [key.1, key.2.1] at otherKey
    obtain rfl := located.same other there (otherKey.trans located.key.symm)
    have capped := sound.capped other there ticket mem
    simp only [CheckpointRecord.key, Prod.mk.injEq] at otherKey
    rw [otherKey.1, otherKey.2, none] at capped
    exact Nat.le_zero.mp capped

theorem reads_truthful (mem : stage ∈ stations.scans) (now : Int) {outcome : CheckpointScanOutcome}
    (reads : ∀ input consume checkpoint ticket, stage ≠ .admitted input consume checkpoint ticket)
    (asked : stage.input = some input) (answers : (stage.proceed stations.db now).1 = .answered outcome) :
    ∀ view ∈ outcome.view, ∀ ticket ∈ stations.db.tickets, ticket.reference = view.ticketId →
      view.used = stations.db.used (input.eventSlug, input.checkpointId, ticket.id) := by
  have here := sound.stages stage mem
  cases stage with
  | parsed =>
    simp only [Stage.proceed, readCheckpoint] at answers
    split at answers
    · cases answers
      intro view none
      cases none
    · cases answers
  | located scanned reference =>
    cases asked
    simp only [Stage.proceed, readTicket] at answers
    cases found : stations.db.ticketByReference reference with
    | none =>
      rw [found] at answers
      cases answers
      intro view none
      cases none
    | some ticket =>
      have listed : ticket ∈ stations.db.tickets := mem_of_find?_eq_some found
      rw [found] at answers
      simp only at answers
      split at answers
      · cases answers
        intro view none
        cases none
      · split at answers
        · cases answers
          intro view none
          cases none
        · split at answers
          · next none =>
            cases answers
            rintro view ⟨⟩ other inside same
            rw [inj_on_of_nodup_map sound.references inside listed same]
            exact (unused sound here listed none).symm
          · cases answers
  | admitted input consume checkpoint ticket => exact absurd rfl (reads input consume checkpoint ticket)
  | answered => cases asked

theorem truthful_proceed (index : Nat) (now : Int) : Truthful (.proceed index now) stations := by
  simp only [Truthful, Stations.next]
  intro stage found input asked outcome answers
  have mem := mem_of_getElem? found
  rw [found]
  simp only
  by_cases draws : ∃ input consume checkpoint ticket, stage = .admitted input consume checkpoint ticket
  · obtain ⟨scanned, consume, checkpoint, ticket, rfl⟩ := draws
    cases asked
    obtain ⟨-, known⟩ := sound.stages _ mem
    simp only [Stage.proceed] at answers ⊢
    cases answers
    rcases consume_cases stations.db input consume checkpoint ticket now with ⟨same, -, views⟩ | ⟨positive, small, total, after, group, drawn, same⟩
    · rw [same]
      refine ⟨fun view shown other inside reference => ?_, fun _ => rfl⟩
      rw [views view shown] at reference ⊢
      rw [known.only sound inside reference]
      rfl
    · obtain ⟨-, used, -, -, tickets, -⟩ := draw_draws sound.usage small drawn
      rw [same]
      refine ⟨?_, fun none => absurd none positive.ne'⟩
      rintro view ⟨⟩ other inside reference
      rw [known.only sound (tickets ▸ inside) reference]
      exact used.symm
  · have reads : ∀ input consume checkpoint ticket, stage ≠ .admitted input consume checkpoint ticket :=
      fun input consume checkpoint ticket equal => draws ⟨input, consume, checkpoint, ticket, equal⟩
    rw [(proceed_reads sound mem now reads).1]
    exact ⟨reads_truthful sound mem now reads asked answers, fun _ => rfl⟩

theorem truthful_undo (input : UndoInput) (now : Int) : Truthful (.undo input now) stations := by
  simp only [Truthful, Stations.next, Database.undoCheckpointUse]
  cases input.amount with
  | none => rfl
  | some units =>
    intro ticket mem reference event
    have only (row : Usage) : stations.db.corrects input row = (row.key == (input.eventSlug, input.checkpointId, ticket.id)) := by
      rw [Bool.eq_iff_iff, beq_iff_eq, Usage.key, Prod.mk.injEq, Prod.mk.injEq]
      simp only [Database.corrects, and_eq_true, beq_iff_eq, any_eq_true, and_assoc]
      refine and_congr_right fun _ => and_congr_right fun _ => ⟨?_, fun same => ⟨ticket, mem, same.symm, event, reference⟩⟩
      rintro ⟨other, listed, same, -, also⟩
      rw [← same, inj_on_of_nodup_map sound.references listed mem (also.trans reference.symm)]
    rw [used_update (Usage.putBack units now) fun _ => rfl, funext only, Option.map_map]
    have found : stations.db.usage.find? (·.key == (input.eventSlug, input.checkpointId, ticket.id)) =
        stations.db.usageOf (input.eventSlug, input.checkpointId, ticket.id) := rfl
    rw [found]
    cases there : stations.db.usageOf (input.eventSlug, input.checkpointId, ticket.id) with
    | none => rfl
    | some => simp [(usageOf_some there).2]

theorem truthful_next (act : Act) : Truthful act stations := by
  cases act with
  | scan => trivial
  | proceed index now => exact truthful_proceed sound index now
  | undo input now => exact truthful_undo sound input now
  | void | deleteCheckpoint => trivial

theorem sound_next (act : Act) : Sound (stations.next act) := by
  cases act with
  | scan input =>
    refine { sound with stages := fun stage mem => ?_ }
    rcases mem_append.mp mem with old | new
    · exact sound.stages stage old
    · cases mem_singleton.mp new
      have parsed : StageSound stations.db (parseScan input) := by
        unfold parseScan
        split
        · trivial
        · split
          · trivial
          · split <;> trivial
      exact parsed
  | proceed index now => exact sound_proceed sound index now
  | undo input now => exact sound_undo sound input now
  | void ticketId refunded => exact sound_void sound ticketId refunded
  | deleteCheckpoint eventSlug checkpointId => exact sound_delete sound eventSlug checkpointId

end

/-- A scan that has units to draw has a valid ticket. -/
def Covered (db : Database) (stage : Stage) : Prop :=
  ∀ input consume checkpoint ticket, stage = .admitted input consume checkpoint ticket → 0 < consume →
    consume ≤ checkpointAllowanceFor checkpoint ticket.ticketTypeId → ∃ now ∈ db.tickets, now.id = ticket.id ∧ now.status = .valid

theorem covered_parseScan (db : Database) (input : CheckpointScanInput) : Covered db (parseScan input) := by
  intro scanned consume checkpoint ticket equal
  unfold parseScan at equal
  split at equal
  · cases equal
  · split at equal
    · cases equal
    · split at equal <;> cases equal

theorem covered_proceed (sound : Sound stations) (mem : stage ∈ stations.scans) (now : Int) :
    (stage.proceed stations.db now).2.tickets = stations.db.tickets ∧ Covered stations.db (stage.proceed stations.db now).1 := by
  cases stage with
  | parsed =>
    refine ⟨rfl, fun scanned units checkpoint ticket equal => ?_⟩
    simp only [Stage.proceed, readCheckpoint] at equal
    split at equal <;> cases equal
  | located input reference consume checkpoint =>
    refine ⟨rfl, fun scanned units checkpoint ticket equal => ?_⟩
    simp only [Stage.proceed, readTicket] at equal
    split at equal
    · cases equal
    · next ticket found =>
      split at equal
      · cases equal
      · split at equal
        · cases equal
        · next valid =>
          split at equal
          · cases equal
          · cases equal
            exact fun _ _ => ⟨ticket, mem_of_find?_eq_some found, rfl, not_not.mp valid⟩
  | admitted input consume checkpoint ticket =>
    refine ⟨?_, fun _ _ _ _ equal => by cases equal⟩
    simp only [Stage.proceed]
    rcases consume_cases stations.db input consume checkpoint ticket now with ⟨same, -⟩ | ⟨_, small, total, after, group, drawn, same⟩
    · rw [same]
    · rw [same]
      exact (draw_draws sound.usage small drawn).tickets
  | answered => exact ⟨rfl, fun _ _ _ _ equal => by cases equal⟩

theorem covered_next (sound : Sound stations) (covered : ∀ stage ∈ stations.scans, Covered stations.db stage) {act : Act}
    (undisturbed : Undisturbed act stations) : ∀ stage ∈ (stations.next act).scans, Covered (stations.next act).db stage := by
  have lasting {db : Database} (tickets : db.tickets = stations.db.tickets) {stage : Stage} (before : Covered stations.db stage) : Covered db stage := by
    unfold Covered
    rw [tickets]
    exact before
  cases act with
  | scan input =>
    intro stage mem
    rcases mem_append.mp mem with old | new
    · exact covered stage old
    · cases mem_singleton.mp new
      exact covered_parseScan _ input
  | proceed index now =>
    intro stage mem
    simp only [Stations.next] at mem ⊢
    cases found : stations.scans[index]? with
    | none =>
      rw [found] at mem
      exact covered stage mem
    | some =>
      rw [found] at mem
      obtain ⟨tickets, proceeded⟩ := covered_proceed sound (mem_of_getElem? found) now
      rcases List.mem_or_eq_of_mem_set mem with old | rfl
      · exact lasting tickets (covered stage old)
      · exact lasting tickets proceeded
  | undo input now =>
    have tickets : (stations.next (.undo input now)).db.tickets = stations.db.tickets := by
      simp only [Stations.next, Database.undoCheckpointUse]
      split <;> rfl
    exact fun stage mem => lasting tickets (covered stage mem)
  | void ticketId refunded =>
    intro stage mem input consume checkpoint ticket equal positive small
    obtain ⟨now, listed, id, valid⟩ := covered stage mem input consume checkpoint ticket equal positive small
    have apart := undisturbed ticketId refunded rfl stage mem input consume checkpoint ticket equal positive small
    refine ⟨now, mem_update.mpr ⟨now, listed, ?_⟩, id, valid⟩
    rw [if_neg (by simpa [id] using apart)]
  | deleteCheckpoint eventSlug checkpointId =>
    have tickets : (stations.next (.deleteCheckpoint eventSlug checkpointId)).db.tickets = stations.db.tickets := by
      simp only [Stations.next, Database.deleteCheckpoint]
      split <;> rfl
    exact fun stage mem => lasting tickets (covered stage mem)

theorem used_filter_le {db : Database} (keyed : (db.usage.map Usage.key).Nodup) (kept : Usage → Bool) (checkpoints : List CheckpointRecord)
    {key : String × String × String} : ({ db with checkpoints, usage := db.usage.filter kept } : Database).used key ≤ db.used key := by
  cases found : ({ db with checkpoints, usage := db.usage.filter kept } : Database).usageOf key with
  | none =>
    rw [Database.used, found]
    exact Nat.zero_le _
  | some =>
    obtain ⟨mem, same⟩ := usageOf_some found
    rw [← same, used_of_mem keyed (mem_of_mem_filter mem), same, Database.used, found]
    rfl

theorem drawsValid (sound : Sound stations) (covered : ∀ stage ∈ stations.scans, Covered stations.db stage) (act : Act) : DrawsValid act stations := by
  intro key grown
  cases act with
  | scan => exact absurd grown (lt_irrefl _)
  | proceed index now =>
    simp only [Stations.next] at grown
    cases found : stations.scans[index]? with
    | none =>
      rw [found] at grown
      exact absurd grown (lt_irrefl _)
    | some stage =>
      rw [found] at grown
      have mem := mem_of_getElem? found
      by_cases draws : ∃ input consume checkpoint ticket, stage = .admitted input consume checkpoint ticket
      · obtain ⟨input, consume, checkpoint, ticket, rfl⟩ := draws
        simp only [Stage.proceed] at grown
        rcases consume_cases stations.db input consume checkpoint ticket now with ⟨same, -⟩ | ⟨positive, small, total, after, group, drawn, same⟩
        · rw [same] at grown
          exact absurd grown (lt_irrefl _)
        · rw [same] at grown
          by_cases here : key = (input.eventSlug, input.checkpointId, ticket.id)
          · obtain ⟨row, listed, id, valid⟩ := covered _ mem input consume checkpoint ticket rfl positive small
            exact ⟨row, listed, by rw [here, id], valid⟩
          · rw [(draw_draws sound.usage small drawn).others key here] at grown
            exact absurd grown (lt_irrefl _)
      · have reads := (proceed_reads sound mem now fun input consume checkpoint ticket equal => draws ⟨input, consume, checkpoint, ticket, equal⟩).1
        simp only [reads] at grown
        exact absurd grown (lt_irrefl _)
  | undo =>
    simp only [Stations.next, Database.undoCheckpointUse] at grown
    split at grown
    · exact absurd grown (lt_irrefl _)
    · rw [used_undo] at grown
      exact absurd grown (Nat.not_lt.mpr (Nat.sub_le _ _))
  | void => exact absurd grown (lt_irrefl _)
  | deleteCheckpoint =>
    refine absurd grown (Nat.not_lt.mpr ?_)
    simp only [Stations.next, Database.deleteCheckpoint]
    split
    · exact le_rfl
    · exact used_filter_le sound.usage _ _

theorem sound_opened (house : House) : Sound (opened house) where
  keyed := house.keyed
  ids := house.ids
  references := house.references
  usage := nodup_nil
  there := nofun
  balanced := fun _ _ _ => rfl
  capped := fun _ _ _ _ => Nat.zero_le _
  stages := nofun

/-- Use is what was handed out and not put back, within the allowance, and every answer is truthful. Units are only recorded for valid tickets
in a run where no ticket is voided between the read of a scan and its draw. -/
theorem allowance_holds (house : House) (acts : List Act) :
    Throughout Stations.next Balanced (opened house) acts ∧ EachStep Stations.next Truthful (opened house) acts ∧
      (EachStep Stations.next Undisturbed (opened house) acts → EachStep Stations.next DrawsValid (opened house) acts) := by
  have steps : Throughout Stations.next Sound (opened house) acts ∧ EachStep Stations.next Truthful (opened house) acts :=
    @EachStep.shows _ _ Stations.next (fun _ _ => True) Sound Truthful (fun sound _ => ⟨sound_next sound _, truthful_next sound _⟩) (opened house) acts
      (sound_opened house) (@EachStep.always _ _ _ (fun _ => True) _ _ fun _ _ => trivial)
  refine ⟨steps.1.imp fun stations sound checkpoint mem ticket listed => ?_, steps.2, fun undisturbed => ?_⟩
  · exact ⟨sound.balanced checkpoint mem ticket.id, sound.capped checkpoint mem ticket listed⟩
  · exact (@EachStep.shows _ _ Stations.next Undisturbed
      (fun stations => Sound stations ∧ ∀ stage ∈ stations.scans, Covered stations.db stage) DrawsValid
      (fun both undisturbed => ⟨⟨sound_next both.1 _, covered_next both.1 both.2 undisturbed⟩, drawsValid both.1 both.2 _⟩) (opened house) acts
      ⟨sound_opened house, nofun⟩ undisturbed).2

def bar : House where
  checkpoints := [{ eventSlug := "summer-party", id := "bar", defaultAllowance := 2, allowances := [], multiScan := true }]
  tickets := [{
    id := "0123456789ABCDEF", accessReference := none, eventSlug := "summer-party", ticketTypeId := "general", status := .valid
    holderName := "Ada", orderId := "order" }]
  keyed := by decide
  ids := by decide
  references := by decide

def lateVoid : List Act :=
  [.scan { scanned := some "0123456789ABCDEF", eventSlug := "summer-party", checkpointId := "bar", consume := none, scannedBy := none },
    .proceed 0 1, .proceed 0 2, .void "0123456789ABCDEF" false, .proceed 0 3]

theorem early_draw_valid : EachStep Stations.next DrawsValid (opened bar) (lateVoid.eraseIdx 3 ++ [.void "0123456789ABCDEF" false]) := by
  refine (allowance_holds bar _).2.2 ⟨nofun, nofun, nofun, nofun, fun _ _ _ stage mem input _ _ _ same => ?_, trivial⟩
  have answered : ∀ stage ∈ (runFrom Stations.next (opened bar) (lateVoid.eraseIdx 3)).scans, stage.input = none := by decide +kernel
  exact nomatch (answered stage mem).symm.trans (congrArg Stage.input same)

theorem late_void_draws : ¬ EachStep Stations.next DrawsValid (opened bar) lateVoid := by
  intro each
  have last := @EachStep.last _ _ Stations.next DrawsValid (opened bar) lateVoid.dropLast (.proceed 0 3) each
  obtain ⟨ticket, mem, -, valid⟩ := last ("summer-party", "bar", "0123456789ABCDEF") (by decide +kernel)
  have voided : ∀ ticket ∈ (runFrom Stations.next (opened bar) lateVoid.dropLast).db.tickets, ticket.status ≠ .valid := by decide +kernel
  exact voided ticket mem valid

end MilkAndHenny.Checkpoints

import MilkAndHenny.Email.Outbox
import MilkAndHenny.Library.Machine

/-! Workers that overlap in any way hand a message to the provider at most as often as it may be tried, and nothing becomes of a row that
has been settled. -/

namespace MilkAndHenny.Email

open Library Outbox

variable {row : EmailRow} {now : Int} {services : Services} {outbox : Outbox} {held : Nat → Bool}
  {rows after : List EmailRow} {watched : Watched} {message : EmailMessage} {result : SendEmailResult}
  {which : EmailRow → Bool} {idempotencyKey : String} {options : QueueEmailOptions}

def EmailOutboxStatus.isOpen (status : EmailOutboxStatus) : Bool := status == .pending || status == .processing

structure RowStep (row after : EmailRow) : Prop where
  id : after.id = row.id
  key : after.idempotencyKey = row.idempotencyKey
  settled : row.status.isOpen = false → after = row
  erased : (row.message = none ↔ row.status.isOpen = false) → (after.message = none ↔ after.status.isOpen = false)
  counted : row.attempts ≤ after.attempts
  bounded : row.attempts ≤ emailMaxDeliveryAttempts → after.attempts ≤ emailMaxDeliveryAttempts
  /-- A row that is being processed under an old claim has not been touched. -/
  fenced : after.status = .processing → after.attempts = row.attempts → after = row

namespace RowStep

theorem refl (row : EmailRow) : RowStep row row :=
  ⟨rfl, rfl, fun _ => rfl, fun erased => erased, le_refl _, fun bounded => bounded, fun _ _ => rfl⟩

theorem claimed (opened : row.status.isOpen = true) (left : row.attempts < emailMaxDeliveryAttempts) (now : Int) : RowStep row (claimedRow now row) where
  id := rfl
  key := rfl
  settled closed := by
    rw [opened] at closed
    cases closed
  erased erased := by
    rw [opened] at erased
    simpa [claimedRow, EmailOutboxStatus.isOpen] using erased
  counted := Nat.le_succ _
  bounded _ := left
  fenced _ same := absurd same (Nat.succ_ne_self _)

/-- A step out of the open statuses or within them, but into no claim. -/
theorem moved {after : EmailRow} (opened : row.status.isOpen = true) (id : after.id = row.id) (key : after.idempotencyKey = row.idempotencyKey)
    (erased : (row.message = none ↔ row.status.isOpen = false) → (after.message = none ↔ after.status.isOpen = false))
    (idle : after.status ≠ .processing) (attempts : after.attempts = row.attempts) : RowStep row after where
  id := id
  key := key
  settled closed := by
    rw [opened] at closed
    cases closed
  erased := erased
  counted := attempts.ge
  bounded bounded := attempts.le.trans bounded
  fenced processing := absurd processing idle

theorem closed {after : EmailRow} (opened : row.status.isOpen = true) (id : after.id = row.id) (key : after.idempotencyKey = row.idempotencyKey)
    (erased : after.message = none) (status : after.status.isOpen = false) (attempts : after.attempts = row.attempts) : RowStep row after :=
  moved opened id key (fun _ => iff_of_true erased status) (fun processing => by rw [processing] at status; cases status) attempts

theorem waiting {after : EmailRow} (opened : row.status.isOpen = true) (id : after.id = row.id) (key : after.idempotencyKey = row.idempotencyKey)
    (kept : after.message = row.message) (status : after.status = .pending) (attempts : after.attempts = row.attempts) : RowStep row after := by
  refine moved opened id key (fun erased => ?_) (fun processing => by rw [processing] at status; cases status) attempts
  rw [opened] at erased
  rw [kept, status]
  simpa [EmailOutboxStatus.isOpen] using erased

end RowStep

theorem unlocked_open (free : unlocked now row = true) : row.status.isOpen = true := by
  unfold unlocked at free
  cases status : row.status <;> simp_all [EmailOutboxStatus.isOpen]

theorem owned_open {claimed : EmailOutboxRow} (owns : owned claimed row = true) : row.status.isOpen = true := by
  simp only [owned, and_eq_true, beq_iff_eq] at owns
  simp [EmailOutboxStatus.isOpen, owns.1.2]

theorem settledRow_step {services : Services} {claimed : EmailOutboxRow}     (owns : owned claimed row = true) : RowStep row (settledRow services claimed message result now row) := by
  have opened := owned_open owns
  unfold settledRow
  cases result with
  | ok => exact .closed opened rfl rfl rfl rfl rfl
  | error =>
    simp only
    split
    · exact .closed opened rfl rfl rfl rfl rfl
    · exact .waiting opened rfl rfl rfl rfl rfl

/-- A message that has just been queued, under a key of its own. -/
structure NewRow (rows : List EmailRow) (row : EmailRow) : Prop where
  id : row.id = rows.length
  key : row.idempotencyKey ∉ rows.map (·.idempotencyKey)
  status : row.status = .pending
  attempts : row.attempts = 0
  message : row.message.isSome

inductive TableStep (rows : List EmailRow) : List EmailRow → Prop
  | steps {after : List EmailRow} (steps : Forall₂ RowStep rows after) : TableStep rows after
  | inserted {row : EmailRow} (new : NewRow rows row) : TableStep rows (rows ++ [row])

theorem update_steps {rows : List EmailRow} {change : EmailRow → EmailRow}
    (steps : ∀ row ∈ rows, which row = true → RowStep row (change row)) : Forall₂ RowStep rows (update rows which change) := by
  unfold update
  rw [forall₂_map_right_iff, forall₂_same]
  intro row mem
  split
  · next chosen => exact steps row mem chosen
  · exact .refl row

theorem TableStep.refl (rows : List EmailRow) : TableStep rows rows := .steps (forall₂_same.mpr fun row _ => .refl row)

section

variable {claimed : EmailOutboxRow} {message : EmailMessage}

theorem insertEmail_step :
    TableStep outbox.rows (outbox.insertEmail services message idempotencyKey options now).2.rows := by
  unfold insertEmail
  split
  · exact .refl _
  · split
    · exact .refl _
    · split
      · exact .refl _
      · next missing =>
        refine .inserted ⟨rfl, ?_, rfl, rfl, rfl⟩
        intro listed
        obtain ⟨row, mem, same⟩ := mem_map.mp listed
        exact find?_eq_none.mp missing row mem (beq_iff_eq.mpr same)

def claimedIds (outbox : Outbox) (now : Int) (held : Nat → Bool) : List Nat :=
  ((orderBy earlier (outbox.rows.filter (outbox.claimable now held))).take claimLimit).map (·.id)

theorem claimedIds_claimable {id : Nat} (listed : id ∈ claimedIds outbox now held) :
    ∃ row ∈ outbox.rows, row.id = id ∧ outbox.claimable now held row = true := by
  obtain ⟨row, mem, rfl⟩ := mem_map.mp listed
  have inside := (perm_insertionSort _ _).mem_iff.mp (mem_of_mem_take mem)
  exact ⟨row, (mem_filter.mp inside).1, rfl, (mem_filter.mp inside).2⟩

theorem claimable_open (claims : outbox.claimable now held row = true) :
    row.status.isOpen = true ∧ row.attempts < emailMaxDeliveryAttempts := by
  simp only [claimable, and_eq_true, decide_eq_true_eq] at claims
  obtain ⟨⟨⟨⟨⟨⟨free, -⟩, -⟩, left⟩, -⟩, -⟩, -⟩ := claims
  exact ⟨unlocked_open free, left⟩

theorem expire_steps : Forall₂ RowStep outbox.rows (outbox.expireUndeliverableEmailMessages now).rows := by
  unfold expireUndeliverableEmailMessages
  rw [forall₂_map_right_iff, forall₂_same]
  intro row _
  split
  · next expired =>
    have free := (and_eq_true _ _).mp expired
    exact .closed (unlocked_open free.1) rfl rfl rfl rfl rfl
  · exact .refl row

theorem finishDelivery_steps :
    Forall₂ RowStep outbox.rows (outbox.finishDelivery services claimed message result now).rows := by
  have steps : Forall₂ RowStep outbox.rows (update outbox.rows (owned claimed) (settledRow services claimed message result now)) :=
    update_steps fun row _ owns => settledRow_step owns
  unfold finishDelivery
  split <;> exact steps

theorem finishUnreadable_steps : Forall₂ RowStep outbox.rows (outbox.finishUnreadable claimed).rows :=
  update_steps fun _ _ owns => .closed (owned_open owns) rfl rfl rfl rfl rfl

theorem retryEmailNow_steps {id : Nat} : Forall₂ RowStep outbox.rows (outbox.retryEmailNow id now).rows := by
  refine update_steps fun row _ chosen => ?_
  simp only [and_eq_true, beq_iff_eq] at chosen
  exact .waiting (by simp [EmailOutboxStatus.isOpen, chosen.1.2]) rfl rfl rfl chosen.1.2 rfl

theorem cancelQueuedEmails_steps : Forall₂ RowStep outbox.rows (outbox.cancelQueuedEmails which now).rows := by
  refine update_steps fun row _ chosen => ?_
  simp only [and_eq_true, beq_iff_eq] at chosen
  exact .closed (by simp [EmailOutboxStatus.isOpen, chosen.2]) rfl rfl rfl rfl rfl

end

structure TableSound (rows : List EmailRow) : Prop where
  ids : Numbered (·.id) rows
  keys : (rows.map (·.idempotencyKey)).Nodup
  erased : ∀ row ∈ rows, row.message = none ↔ row.status.isOpen = false
  bounded : ∀ row ∈ rows, row.attempts ≤ emailMaxDeliveryAttempts

namespace TableSound

theorem step (sound : TableSound rows) (step : TableStep rows after) : TableSound after := by
  cases step with
  | steps steps =>
    have ids := map_pairs steps fun row after step => step.id.symm
    have keys := map_pairs steps fun row after step => step.key.symm
    have length := steps.length_eq
    constructor
    · have numbered := sound.ids
      unfold Numbered at *
      rw [← ids, numbered, length]
    · rw [← keys]
      exact sound.keys
    · intro other mem
      obtain ⟨row, listed, step⟩ := mem_pairs steps mem
      exact step.erased (sound.erased row listed)
    · intro other mem
      obtain ⟨row, listed, step⟩ := mem_pairs steps mem
      exact step.bounded (sound.bounded row listed)
  | @inserted row new =>
    constructor
    · exact sound.ids.append new.id
    · rw [map_append, nodup_append_comm]
      exact nodup_cons.mpr ⟨new.key, sound.keys⟩
    · intro other mem
      rcases mem_append.mp mem with mem | mem
      · exact sound.erased other mem
      · rw [mem_singleton.mp mem, new.status]
        have message := new.message
        exact iff_of_false (isSome_iff_ne_none.mp message) (by decide)
    · intro other mem
      rcases mem_append.mp mem with mem | mem
      · exact sound.bounded other mem
      · rw [mem_singleton.mp mem, new.attempts]
        exact Nat.zero_le _

theorem row_unique (sound : TableSound rows) {other : EmailRow} (mem : row ∈ rows) (listed : other ∈ rows) (same : row.id = other.id) : row = other :=
  inj_on_of_nodup_map sound.ids.nodup mem listed same

end TableSound

section

variable {system : System}

theorem claimed_row (sound : TableSound outbox.rows) (mem : row ∈ outbox.rows)
    (chosen : (claimedIds outbox now held).contains row.id = true) : outbox.claimable now held row = true := by
  obtain ⟨other, listed, same, claims⟩ := claimedIds_claimable (contains_iff_mem.mp chosen)
  rwa [sound.row_unique mem listed same.symm]

theorem claim_steps (sound : TableSound outbox.rows) :
    Forall₂ RowStep outbox.rows (outbox.claimEmailOutboxBatch now held).2.rows := by
  refine update_steps fun row mem chosen => ?_
  obtain ⟨opened, left⟩ := claimable_open (claimed_row sound mem chosen)
  exact .claimed opened left now

theorem apply_step (sound : TableSound system.outbox.rows) (action : Action) :
    TableStep system.outbox.rows (system.apply services action).outbox.rows := by
  cases action with
  | enqueue => exact insertEmail_step
  | claim => exact .steps (claim_steps sound)
  | deliver =>
    simp only [System.apply]
    split
    · split <;> exact .refl _
    · exact .refl _
  | finish =>
    simp only [System.apply]
    split
    · unfold System.finish
      split
      · exact .steps finishUnreadable_steps
      · exact .steps finishDelivery_steps
      · exact .refl _
    · exact .refl _
  | expire => exact .steps expire_steps
  | suppress | resolve => exact .refl _
  | retry => exact .steps retryEmailNow_steps
  | cancel => exact .steps cancelQueuedEmails_steps

end

def Attempt.mark (attempt : Attempt) : Nat × Nat := (attempt.row.id, attempt.row.attempts)

def System.marks (system : System) : List (Nat × Nat) := system.attempts.map Attempt.mark

def handing (services : Services) (system : System) : Action → List (Nat × Nat)
  | .deliver index _ =>
    match system.attempts[index]? with
    | some attempt => if (System.readable services attempt).isSome && attempt.result.isNone then [attempt.mark] else []
    | none => []
  | _ => []

def beginning (system : System) : Action → List (Nat × Nat)
  | .claim held now => (system.outbox.claimEmailOutboxBatch now held).1.map fun row => (row.id, row.attempts)
  | _ => []

/-- The outbox with what has been handed to the provider, attempt by attempt, and the attempts whose rows nobody has touched since they began. -/
structure Watched where
  system : System
  handed : List (Nat × Nat)
  owners : List (Nat × Nat)

def Watched.next (services : Services) (action : Action) (watched : Watched) : Watched :=
  let system := watched.system.apply services action
  { system
    handed := watched.handed ++ handing services watched.system action
    owners := (watched.owners.filter fun mark =>
        decide (system.outbox.rows.find? (·.id == mark.1) = watched.system.outbox.rows.find? (·.id == mark.1))) ++
      beginning watched.system action }

def Reached (rows : List EmailRow) (mark : Nat × Nat) : Prop := 1 ≤ mark.2 ∧ ∃ row ∈ rows, row.id = mark.1 ∧ mark.2 ≤ row.attempts

structure Sound (watched : Watched) : Prop where
  table : TableSound watched.system.outbox.rows
  reached : ∀ mark ∈ watched.system.marks ++ watched.handed, Reached watched.system.outbox.rows mark
  distinct : watched.system.marks.Nodup
  once : watched.handed.Nodup
  unsent : ∀ attempt ∈ watched.system.attempts, attempt.result = none → attempt.mark ∉ watched.handed
  /-- A row that is being processed under an attempt still going on has not been touched since. -/
  owned : ∀ mark ∈ watched.system.marks, ∀ row ∈ watched.system.outbox.rows, row.id = mark.1 → row.status = .processing →
    row.attempts = mark.2 → mark ∈ watched.owners

section

variable {mark : Nat × Nat} {action : Action} {system : System}

theorem Reached.step (reached : Reached rows mark) (step : TableStep rows after) : Reached after mark := by
  obtain ⟨positive, row, mem, same, bound⟩ := reached
  refine ⟨positive, ?_⟩
  cases step with
  | steps steps =>
    obtain ⟨other, listed, step⟩ := mem_pairs steps.flip mem
    exact ⟨other, listed, step.id.trans same, bound.trans step.counted⟩
  | inserted => exact ⟨row, mem_append_left _ mem, same, bound⟩

theorem untouched (sound : TableSound rows) (reached : Reached rows mark) (step : TableStep rows after) (mem : row ∈ after)
    (same : row.id = mark.1) (processing : row.status = .processing) (number : row.attempts = mark.2) :
    row ∈ rows ∧ after.find? (·.id == mark.1) = rows.find? (·.id == mark.1) := by
  obtain ⟨-, first, firstListed, firstSame, bound⟩ := reached
  have kept : row ∈ rows := by
    cases step with
    | steps steps =>
      obtain ⟨other, listed, step⟩ := mem_pairs steps mem
      cases sound.row_unique listed firstListed (step.id.symm.trans (same.trans firstSame.symm))
      rw [step.fenced processing (le_antisymm (number.le.trans bound) step.counted)]
      exact listed
    | inserted new =>
      rcases mem_append.mp mem with mem | mem
      · exact mem
      · rw [mem_singleton.mp mem, new.status] at processing
        cases processing
  have ids := (sound.step step).ids.nodup
  rw [← same]
  exact ⟨kept, (find?_key ids mem).trans (find?_key sound.ids.nodup kept).symm⟩

theorem claim_returns {held : Nat → Bool} :
    (outbox.claimEmailOutboxBatch now held).1 =
      ((outbox.rows.filter fun row => (claimedIds outbox now held).contains row.id).map (claimedRow now)).map returning := by
  have returned := @filter_update _ outbox.rows (fun row => (claimedIds outbox now held).contains row.id) (claimedRow now) fun _ => rfl
  exact congrArg (List.map returning) returned

theorem beginning_counts (begun : mark ∈ beginning system action) : ∃ row ∈ system.outbox.rows, row.id = mark.1 ∧ mark.2 = row.attempts + 1 := by
  cases action with
  | claim =>
    obtain ⟨returned, mem, rfl⟩ := mem_map.mp begun
    rw [claim_returns] at mem
    obtain ⟨other, listed, rfl⟩ := mem_map.mp mem
    obtain ⟨row, inside, rfl⟩ := mem_map.mp listed
    exact ⟨row, (mem_filter.mp inside).1, rfl, rfl⟩
  | _ => cases begun

theorem beginning_reached (begun : mark ∈ beginning system action) : Reached (system.apply services action).outbox.rows mark := by
  cases action with
  | claim held now =>
    obtain ⟨returned, mem, rfl⟩ := mem_map.mp begun
    rw [claim_returns] at mem
    obtain ⟨other, listed, rfl⟩ := mem_map.mp mem
    obtain ⟨row, inside, rfl⟩ := mem_map.mp listed
    obtain ⟨known, chosen⟩ := mem_filter.mp inside
    exact ⟨Nat.succ_pos _, claimedRow now row, mem_update.mpr ⟨row, known, (if_pos chosen).symm⟩, rfl, le_refl _⟩
  | _ => cases begun

theorem beginning_nodup (sound : TableSound system.outbox.rows) : (beginning system action).Nodup := by
  cases action with
  | claim held now =>
    have ids := sound.ids.nodup.sublist ((filter_sublist (p := fun row => (claimedIds system.outbox now held).contains row.id)).map EmailRow.id)
    have firsts : ((beginning system (.claim held now)).map (·.1)).Nodup := by
      simp only [beginning, claim_returns, map_map]
      exact ids
    exact firsts.of_map _
  | _ => exact nodup_nil

theorem beginning_fresh (sound : TableSound system.outbox.rows) (begun : mark ∈ beginning system action) : ¬ Reached system.outbox.rows mark := by
  obtain ⟨row, mem, same, number⟩ := beginning_counts begun
  rintro ⟨-, other, listed, sameOther, bound⟩
  cases sound.row_unique mem listed (same.trans sameOther.symm)
  omega

theorem apply_marks : ∃ kept : List (Nat × Nat), kept.Sublist system.marks ∧ (system.apply services action).marks = kept ++ beginning system action := by
  cases action with
  | claim =>
    refine ⟨system.marks, List.Sublist.refl _, ?_⟩
    simp only [System.apply, System.marks, beginning, map_append, map_map]
    rfl
  | deliver index =>
    refine ⟨system.marks, List.Sublist.refl _, ?_⟩
    simp only [System.apply, beginning, append_nil]
    split
    · next attempt found =>
      split
      · simp only [System.marks, List.map_set]
        have same : (system.attempts.map Attempt.mark)[index]? = some attempt.mark := by rw [getElem?_map, found]; rfl
        exact set_same same
      · rfl
    · rfl
  | finish =>
    simp only [System.apply, beginning, append_nil, exists_eq_right']
    split
    · unfold System.finish
      split
      · exact (List.eraseIdx_sublist _ _).map _
      · exact (List.eraseIdx_sublist _ _).map _
      · exact List.Sublist.refl _
    · exact List.Sublist.refl _
  | _ => exact ⟨system.marks, List.Sublist.refl _, (append_nil _).symm⟩

theorem handing_unsent (sent : mark ∈ handing services system action) :
    ∃ index attempt result, action = .deliver index result ∧ system.attempts[index]? = some attempt ∧ attempt.result = none ∧
      attempt.mark = mark ∧ handing services system action = [mark] := by
  cases action with
  | deliver index result =>
    cases found : system.attempts[index]? with
    | none => simp [handing, found] at sent
    | some attempt =>
      by_cases ready : ((System.readable services attempt).isSome && attempt.result.isNone) = true
      · have list : handing services system (.deliver index result) = [attempt.mark] := by simp only [handing, found, if_pos ready]
        rw [list, mem_singleton] at sent
        subst sent
        exact ⟨index, attempt, result, rfl, found, isNone_iff_eq_none.mp ((and_eq_true _ _).mp ready).2, rfl, list⟩
      · simp only [handing, found, if_neg ready] at sent
        cases sent
  | _ => cases sent

/-- An attempt that has no answer after a step had none before, and has not been handed over; or it has just begun. -/
theorem unanswered (distinct : system.marks.Nodup) {attempt : Attempt} (mem : attempt ∈ (system.apply services action).attempts)
    (waits : attempt.result = none) :
    (attempt ∈ system.attempts ∧ attempt.mark ∉ handing services system action) ∨ attempt.mark ∈ beginning system action := by
  cases action with
  | claim =>
    rcases mem_append.mp mem with mem | mem
    · exact .inl ⟨mem, not_mem_nil⟩
    · obtain ⟨row, listed, rfl⟩ := mem_map.mp mem
      exact .inr (mem_map.mpr ⟨row, listed, rfl⟩)
  | deliver index =>
    refine .inl ?_
    simp only [System.apply, handing] at mem ⊢
    cases found : system.attempts[index]? with
    | none =>
      simp only [found] at mem
      exact ⟨mem, not_mem_nil⟩
    | some =>
      simp only [found] at mem ⊢
      split at mem
      · next ready =>
        rw [if_pos ready, mem_singleton]
        obtain ⟨other, inside, rfl⟩ := List.mem_iff_getElem.mp mem
        simp only [length_set] at inside
        rw [List.getElem_set] at waits ⊢
        split at waits
        · cases waits
        · next apart =>
          rw [if_neg apart]
          refine ⟨getElem_mem inside, fun same => apart ?_⟩
          have known_inside := (getElem?_eq_some_iff.mp found).1
          have marks : system.marks[index]? = system.marks[other]? := by
            simp [System.marks, found, getElem?_eq_getElem inside, same]
          exact (List.getElem?_inj (by simpa [System.marks] using known_inside) distinct).mp marks
      · next idle =>
        rw [if_neg idle]
        exact ⟨mem, not_mem_nil⟩
  | finish =>
    refine .inl ⟨?_, not_mem_nil⟩
    simp only [System.apply] at mem
    split at mem
    · unfold System.finish at mem
      split at mem
      · exact List.mem_of_mem_eraseIdx mem
      · exact List.mem_of_mem_eraseIdx mem
      · exact mem
    · exact mem
  | _ => exact .inl ⟨mem, not_mem_nil⟩

theorem handing_nodup : (handing services system action).Nodup := by
  cases sent : handing services system action with
  | nil => exact nodup_nil
  | cons mark =>
    obtain ⟨index, attempt, result, -, -, -, -, only⟩ := @handing_unsent services mark action system (sent ▸ mem_cons_self ..)
    rw [← sent, only]
    exact nodup_singleton mark

theorem Sound.next (sound : Sound watched) (action : Action) : Sound (watched.next services action) := by
  have step : TableStep watched.system.outbox.rows (watched.system.apply services action).outbox.rows := apply_step sound.table action
  obtain ⟨kept, before, marks⟩ := @apply_marks services action watched.system
  have known {mark : Nat × Nat} (mem : mark ∈ kept) : mark ∈ watched.system.marks := before.subset mem
  have going {mark : Nat × Nat} (mem : mark ∈ watched.system.marks) : Reached watched.system.outbox.rows mark :=
    sound.reached mark (mem_append_left _ mem)
  have sent {mark : Nat × Nat} (mem : mark ∈ watched.handed) : Reached watched.system.outbox.rows mark :=
    sound.reached mark (mem_append_right _ mem)
  constructor
  · exact sound.table.step step
  · intro mark mem
    rcases mem_append.mp mem with mem | mem
    · rw [Watched.next, marks] at mem
      rcases mem_append.mp mem with mem | begun
      · exact (going (known mem)).step step
      · exact beginning_reached begun
    · rcases mem_append.mp mem with mem | mem
      · exact (sent mem).step step
      · obtain ⟨index, attempt, result, -, found, -, rfl, -⟩ := handing_unsent mem
        exact (going (mem_map_of_mem (mem_of_getElem? found))).step step
  · rw [Watched.next, marks]
    refine (sound.distinct.sublist before).append (beginning_nodup sound.table) ?_
    intro mark mem begun
    exact beginning_fresh sound.table begun (going (known mem))
  · refine sound.once.append handing_nodup ?_
    intro mark mem handed
    obtain ⟨index, attempt, result, -, found, waits, rfl, -⟩ := handing_unsent handed
    exact sound.unsent attempt (mem_of_getElem? found) waits mem
  · intro attempt mem waits listed
    rcases unanswered sound.distinct mem waits with ⟨old, fresh⟩ | begun
    · rcases mem_append.mp listed with listed | listed
      · exact sound.unsent attempt old waits listed
      · exact fresh listed
    · rcases mem_append.mp listed with listed | listed
      · exact beginning_fresh sound.table begun (sent listed)
      · obtain ⟨index, other, result, rfl, -⟩ := handing_unsent listed
        cases begun
  · intro mark mem row listed same processing number
    rw [Watched.next, marks] at mem
    rcases mem_append.mp mem with mem | begun
    · obtain ⟨old, found⟩ := untouched sound.table (going (known mem)) step listed same processing number
      have owner := sound.owned mark (known mem) row old same processing number
      exact mem_append_left _ (mem_filter.mpr ⟨owner, decide_eq_true found⟩)
    · exact mem_append_right _ begun

theorem Sound.handed_le (sound : Sound watched) (id : Nat) : (watched.handed.countP fun mark => mark.1 == id) ≤ emailMaxDeliveryAttempts := by
  rw [countP_eq_length_filter]
  have inside : (watched.handed.filter fun mark => mark.1 == id) ⊆ (List.range' 1 emailMaxDeliveryAttempts).map fun number => (id, number) := by
    intro mark mem
    obtain ⟨listed, same⟩ := mem_filter.mp mem
    obtain ⟨positive, row, known, -, bound⟩ := sound.reached mark (mem_append_right _ listed)
    have limit := sound.table.bounded row known
    refine mem_map.mpr ⟨mark.2, mem_range'_1.mpr ⟨positive, by omega⟩, ?_⟩
    rw [← eq_of_beq same]
  have length := (subperm_of_subset (sound.once.filter _) inside).length_le
  rwa [length_map, List.length_range'] at length

end

/-- What holds between the steps of any workers. -/
structure Safe (watched : Watched) : Prop where
  handed : ∀ id, (watched.handed.countP fun mark => mark.1 == id) ≤ emailMaxDeliveryAttempts
  erased : ∀ row ∈ watched.system.outbox.rows, row.message = none ↔ row.status.isOpen = false
  keys : (watched.system.outbox.rows.map (·.idempotencyKey)).Nodup

/-- What a step shows: nothing becomes of a row that has been settled, an attempt's end leaves every row but the one that it still owns, and
a key that is known adds no row. -/
structure Shows (services : Services) (action : Action) (watched : Watched) : Prop where
  settled : ∀ row ∈ watched.system.outbox.rows, row.status.isOpen = false →
    row ∈ (watched.next services action).system.outbox.rows ∧ ∀ mark ∈ beginning watched.system action, mark.1 ≠ row.id
  fenced : ∀ index now attempt, action = .finish index now → watched.system.attempts[index]? = some attempt →
    ∀ row ∈ watched.system.outbox.rows, row ∈ (watched.next services action).system.outbox.rows ∨
      row.id = attempt.row.id ∧ attempt.mark ∈ watched.owners
  known : ∀ message idempotencyKey options now, action = .enqueue message idempotencyKey options now →
    idempotencyKey ∈ watched.system.outbox.rows.map (·.idempotencyKey) →
    (watched.next services action).system.outbox.rows = watched.system.outbox.rows

section

variable {action : Action} {system : System}

theorem settled_stays (step : TableStep rows after) (mem : row ∈ rows) (closed : row.status.isOpen = false) : row ∈ after := by
  cases step with
  | steps steps =>
    obtain ⟨other, listed, step⟩ := mem_pairs steps.flip mem
    rwa [← step.settled closed]
  | inserted => exact mem_append_left _ mem

theorem beginning_open (sound : TableSound system.outbox.rows) (mem : row ∈ system.outbox.rows)
    (closed : row.status.isOpen = false) {mark : Nat × Nat} (begun : mark ∈ beginning system action) : mark.1 ≠ row.id := by
  intro same
  cases action with
  | claim =>
    obtain ⟨returned, listed, rfl⟩ := mem_map.mp begun
    rw [claim_returns] at listed
    obtain ⟨other, inside, rfl⟩ := mem_map.mp listed
    obtain ⟨old, kept, rfl⟩ := mem_map.mp inside
    obtain ⟨known, chosen⟩ := mem_filter.mp kept
    have opened := (claimable_open (claimed_row sound known chosen)).1
    rw [sound.row_unique known mem same, closed] at opened
    cases opened
  | _ => cases begun

theorem finish_rows (index : Nat) (attempt : Attempt) (now : Int) (mem : row ∈ system.outbox.rows) :
    row ∈ (system.finish services index attempt now).outbox.rows ∨ owned attempt.row row = true := by
  rcases Bool.eq_false_or_eq_true (owned attempt.row row) with owns | foreign
  · exact .inr owns
  · refine .inl ?_
    have kept (change : EmailRow → EmailRow) : row ∈ update system.outbox.rows (owned attempt.row) change :=
      mem_update.mpr ⟨row, mem, (if_neg (not_eq_true _ ▸ foreign)).symm⟩
    unfold System.finish
    split
    · exact kept _
    · unfold finishDelivery
      split <;> exact kept _
    · exact mem

theorem insertEmail_known     (known : idempotencyKey ∈ outbox.rows.map (·.idempotencyKey)) :
    (outbox.insertEmail services message idempotencyKey options now).2.rows = outbox.rows := by
  unfold insertEmail
  split
  · rfl
  · split
    · rfl
    · split
      · rfl
      · next missing =>
        obtain ⟨row, mem, same⟩ := mem_map.mp known
        exact absurd (beq_iff_eq.mpr same) (find?_eq_none.mp missing row mem)

theorem Sound.shows (sound : Sound watched) (action : Action) : Shows services action watched := by
  constructor
  · intro row mem closed
    exact ⟨settled_stays (apply_step sound.table action) mem closed, fun mark begun => beginning_open sound.table mem closed begun⟩
  · rintro index now attempt rfl found row mem
    simp only [Watched.next, System.apply, found]
    rcases finish_rows index attempt now mem with kept | owns
    · exact .inl kept
    · simp only [Outbox.owned, and_eq_true, beq_iff_eq] at owns
      obtain ⟨⟨same, processing⟩, number⟩ := owns
      have going : attempt.mark ∈ watched.system.marks := mem_map_of_mem (mem_of_getElem? found)
      exact .inr ⟨same, sound.owned _ going row mem same processing number⟩
  · rintro message idempotencyKey options now rfl known
    exact insertEmail_known known

end

def Watched.start (suppressions : List String) : Watched :=
  { system := { outbox := { rows := [], suppressions }, attempts := [] }, handed := [], owners := [] }

theorem Sound.start (suppressions : List String) : Sound (Watched.start suppressions) where
  table := ⟨rfl, nodup_nil, by simp [Watched.start], by simp [Watched.start]⟩
  reached := by simp [Watched.start, System.marks]
  distinct := nodup_nil
  once := nodup_nil
  unsent := by simp [Watched.start]
  owned := by simp [Watched.start, System.marks]

/-- However workers, sweeps and enqueues take their steps, no message is handed over more often than it may be tried, and every step leaves
alone what it does not own. -/
theorem delivery_settles (services : Services) (suppressions : List String) (actions : List Action) :
    Throughout (Watched.next services) Safe (Watched.start suppressions) actions ∧
      EachStep (Watched.next services) (Shows services) (Watched.start suppressions) actions := by
  have step {watched : Watched} {action : Action} (sound : Sound watched) (_ : True) :
      Sound (watched.next services action) ∧ Shows services action watched := ⟨sound.next action, sound.shows action⟩
  obtain ⟨throughout, shows⟩ := @EachStep.shows Watched Action (Watched.next services) (fun _ _ => True) Sound (Shows services) step _ actions
    (Sound.start suppressions) (EachStep.always fun _ _ => trivial)
  exact ⟨throughout.imp fun watched sound => ⟨sound.handed_le, sound.table.erased, sound.table.keys⟩, shows⟩

end MilkAndHenny.Email

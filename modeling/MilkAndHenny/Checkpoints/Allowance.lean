import MilkAndHenny.Checkpoints.Stations

/-! The allowance of a ticket, over any interleaving of stations. Beside the database stands a ledger of
what was handed out and put back. -/

namespace MilkAndHenny.Checkpoints

open Library Door

variable {db : Database} {checkpoint : CheckpointRecord} {ticket : Ticket} {consume total : Nat}

/-- Units that were handed out, or put back where they are negative. -/
structure Handout where
  key : String × String × String
  units : Int

structure Stations where
  db : Database
  scans : List Stage
  ledger : List Handout

inductive Act
  | scan (input : CheckpointScanInput)
  | proceed (index : Nat) (now : Int)
  | undo (input : UndoInput) (now : Int)
  | void (ticketId : String) (refunded : Bool)
  | deleteCheckpoint (eventSlug checkpointId : String)

def Stage.handouts : Stage → Stage → List Handout
  | .admitted input _ _ ticket, .answered (.consumed _ units _) => [{ key := (input.eventSlug, input.checkpointId, ticket.id), units }]
  | _, _ => []

def corrections (db : Database) (input : UndoInput) : List Handout :=
  match input.amount with
  | none => []
  | some units => (db.usage.filter (db.corrects input)).map fun row => { key := row.key, units := -((min units row.used : Nat) : Int) }

def Stations.next (act : Act) (stations : Stations) : Stations :=
  match act with
  | .scan input => { stations with scans := stations.scans ++ [parseScan input] }
  | .proceed index now =>
    match stations.scans[index]? with
    | none => stations
    | some stage =>
      let (after, db) := stage.proceed stations.db now
      { db, scans := stations.scans.set index after, ledger := stations.ledger ++ stage.handouts after }
  | .undo input now =>
    { stations with db := (stations.db.undoCheckpointUse input now).2, ledger := stations.ledger ++ corrections stations.db input }
  | .void ticketId refunded => { stations with db := stations.db.markTicketStatus ticketId (if refunded then .refunded else .void) }
  | .deleteCheckpoint eventSlug checkpointId => { stations with db := stations.db.deleteCheckpoint eventSlug checkpointId }

/-- What was handed out less what was put back. -/
def balance (ledger : List Handout) (key : String × String × String) : Int := ((ledger.filter (·.key == key)).map Handout.units).sum

structure House where
  checkpoints : List CheckpointRecord
  tickets : List Ticket
  keyed : (checkpoints.map CheckpointRecord.key).Nodup
  ids : (tickets.map Ticket.id).Nodup
  references : (tickets.map Ticket.reference).Nodup

def opened (house : House) : Stations :=
  { db := { checkpoints := house.checkpoints, tickets := house.tickets, usage := [] }, scans := [], ledger := [] }

/-- The recorded use is what was handed out and not put back, and within the allowance. -/
def Balanced (stations : Stations) : Prop :=
  ∀ checkpoint ∈ stations.db.checkpoints, ∀ ticket ∈ stations.db.tickets,
    (stations.db.used (checkpoint.eventSlug, checkpoint.id, ticket.id) : Int) = balance stations.ledger (checkpoint.eventSlug, checkpoint.id, ticket.id) ∧
      stations.db.used (checkpoint.eventSlug, checkpoint.id, ticket.id) ≤ checkpointAllowanceFor checkpoint ticket.ticketTypeId

def CheckpointScanOutcome.view : CheckpointScanOutcome → Option CheckpointTicketView
  | .consumed ticket _ _ => some ticket
  | .exhausted ticket _ _ => some ticket
  | .notIncluded ticket => some ticket
  | .overRemaining ticket _ => some ticket
  | _ => none

def CheckpointScanOutcome.drawn : CheckpointScanOutcome → Nat
  | .consumed _ units _ => units
  | _ => 0

def Stage.input : Stage → Option CheckpointScanInput
  | .parsed input _ _ => some input
  | .located input _ _ _ => some input
  | .admitted input _ _ _ => some input
  | .answered _ => none

/-- An answer reports the use after its own effect, and without units handed out there is none. -/
def Truthful (act : Act) (stations : Stations) : Prop :=
  let after := (stations.next act).db
  match act with
  | .proceed index now =>
    ∀ stage ∈ stations.scans[index]?, ∀ input ∈ stage.input, ∀ outcome, (stage.proceed stations.db now).1 = .answered outcome →
      (∀ view ∈ outcome.view, ∀ ticket ∈ after.tickets, ticket.reference = view.ticketId →
        view.used = after.used (input.eventSlug, input.checkpointId, ticket.id)) ∧
        (outcome.drawn = 0 → after = stations.db)
  | .undo input now =>
    match (stations.db.undoCheckpointUse input now).1 with
    | none => after = stations.db
    | some left => ∀ ticket ∈ after.tickets, ticket.reference = input.ticketId → ticket.eventSlug = input.eventSlug →
        left = after.used (input.eventSlug, input.checkpointId, ticket.id)
  | _ => True

/-- A unit is only recorded for a ticket that is valid. -/
def DrawsValid (act : Act) (stations : Stations) : Prop :=
  ∀ key, stations.db.used key < (stations.next act).db.used key → ∃ ticket ∈ stations.db.tickets, ticket.id = key.2.2 ∧ ticket.status = .valid

/-- No ticket is voided while a scan that has read it as valid has units to draw for it. -/
def Undisturbed (act : Act) (stations : Stations) : Prop :=
  ∀ ticketId refunded, act = .void ticketId refunded → ∀ stage ∈ stations.scans, ∀ input consume checkpoint ticket,
    stage = .admitted input consume checkpoint ticket → 0 < consume → consume ≤ checkpointAllowanceFor checkpoint ticket.ticketTypeId →
      ticket.id ≠ ticketId

section
variable {key other : String × String × String} {row : Usage}

theorem usageOf_some (found : db.usageOf key = some row) : row ∈ db.usage ∧ row.key = key :=
  ⟨mem_of_find?_eq_some found, eq_of_beq (find?_some (p := fun row : Usage => row.key == key) found)⟩

theorem used_of_mem (keyed : (db.usage.map Usage.key).Nodup) (mem : row ∈ db.usage) : db.used row.key = row.used := by
  have found : db.usageOf row.key = some row :=
    find?_only mem (beq_self_eq_true _) fun other listed same => inj_on_of_nodup_map keyed listed mem (eq_of_beq same)
  rw [Database.used, found]
  rfl

theorem used_update {which : Usage → Bool} (change : Usage → Usage) (kept : ∀ row, (change row).key = row.key) :
    ({ db with usage := update db.usage which change } : Database).used key =
      ((db.usageOf key).map fun row => if which row then (change row).used else row.used).getD 0 := by
  have found : ({ db with usage := update db.usage which change } : Database).usageOf key =
      (db.usageOf key).map fun row => if which row then change row else row :=
    find?_update fun row _ => by rw [kept]
  rw [Database.used, found, Option.map_map]
  congr 2
  funext row
  simp only [Function.comp_apply]
  split <;> rfl

theorem usageOf_append (row : Usage) :
    ({ db with usage := db.usage ++ [row] } : Database).usageOf key = (db.usageOf key).or (if row.key == key then some row else none) := by
  unfold Database.usageOf
  rw [find?_append, List.find?_singleton]

structure Draws (db after : Database) (key : String × String × String) (consume allowance total : Nat) : Prop where
  adds : total = db.used key + consume
  used : after.used key = total
  others : ∀ other, other ≠ key → after.used other = db.used other
  checkpoints : after.checkpoints = db.checkpoints
  tickets : after.tickets = db.tickets
  keyed : (after.usage.map Usage.key).Nodup
  rows : ∀ row ∈ after.usage, (∃ old ∈ db.usage, old.key = row.key) ∨ ∃ checkpoint ∈ db.checkpoints, checkpoint.key = (row.eventSlug, row.checkpointId)
  fits : total ≤ allowance

theorem draw_draws {input : CheckpointScanInput} {ticketId : String} {allowance : Nat} {now : Int} {after : Database}
    (keyed : (db.usage.map Usage.key).Nodup) (small : consume ≤ allowance)
    (drawn : db.draw input ticketId consume allowance now = .ok (some total, after)) :
    Draws db after (input.eventSlug, input.checkpointId, ticketId) consume allowance total := by
  unfold Database.draw at drawn
  split at drawn
  · next new =>
    split at drawn
    · next there =>
      rw [and_eq_true, any_eq_true] at there
      obtain ⟨⟨checkpoint, listed, key⟩, -⟩ := there
      cases drawn
      have unused : db.used (input.eventSlug, input.checkpointId, ticketId) = 0 := by rw [Database.used, new]; rfl
      have absent : (input.eventSlug, input.checkpointId, ticketId) ∉ db.usage.map Usage.key := by
        intro mem
        obtain ⟨row, listed, same⟩ := mem_map.mp mem
        exact find?_eq_none.mp new row listed (beq_iff_eq.mpr same)
      refine ⟨by rw [unused, Nat.zero_add], ?_, fun other apart => ?_, rfl, rfl, ?_, fun row mem => ?_, small⟩
      · rw [Database.used, usageOf_append, new, if_pos (by simp [Usage.key])]
        rfl
      · rw [Database.used, usageOf_append, if_neg (by simpa [Usage.key] using Ne.symm apart), Option.or_none]
        rfl
      · rw [map_append]
        exact nodup_append_comm.mp (nodup_cons.mpr ⟨absent, keyed⟩)
      · rcases mem_append.mp mem with old | last
        · exact .inl ⟨row, old, rfl⟩
        · cases mem_singleton.mp last
          exact .inr ⟨checkpoint, listed, eq_of_beq key⟩
    · cases drawn
  · next row found =>
    obtain ⟨mem, same⟩ := usageOf_some found
    split at drawn
    · next fits =>
      cases drawn
      have held : db.used (input.eventSlug, input.checkpointId, ticketId) = row.used := by rw [Database.used, found]; rfl
      refine ⟨by rw [held], ?_, fun other apart => ?_, rfl, rfl, nodup_update (fun _ => rfl) keyed, fun other inside => ?_, fits⟩
      · rw [used_update (Usage.drawDown consume input.scannedBy now) fun _ => rfl, found]
        simp [Usage.drawDown]
      · rw [used_update (Usage.drawDown consume input.scannedBy now) fun _ => rfl, Database.used]
        cases there : db.usageOf other with
        | none => rfl
        | some =>
          obtain ⟨-, key⟩ := usageOf_some there
          exact if_neg fun equal => apart (key.symm.trans ((eq_of_beq equal).trans same))
      · obtain ⟨old, listed, changed⟩ := mem_update.mp inside
        refine .inl ⟨old, listed, ?_⟩
        rw [changed]
        split <;> rfl
    · cases drawn

end

section
variable {input : CheckpointScanInput} {consume : Nat} {now : Int}

theorem consume_cases (db : Database) (input : CheckpointScanInput) (consume : Nat) (checkpoint : CheckpointRecord) (ticket : Ticket) (now : Int) :
    ((consumeAllowance db input consume checkpoint ticket now).2 = db ∧
        (consumeAllowance db input consume checkpoint ticket now).1.drawn = 0 ∧
        ∀ view ∈ (consumeAllowance db input consume checkpoint ticket now).1.view,
          view = ticketView checkpoint ticket (db.used (input.eventSlug, input.checkpointId, ticket.id))) ∨
      0 < consume ∧ consume ≤ checkpointAllowanceFor checkpoint ticket.ticketTypeId ∧
        ∃ total after group,
          db.draw input ticket.id consume (checkpointAllowanceFor checkpoint ticket.ticketTypeId) now = .ok (some total, after) ∧
            consumeAllowance db input consume checkpoint ticket now = (.consumed (ticketView checkpoint ticket total) consume group, after) := by
  unfold consumeAllowance
  simp only
  split
  · exact .inl ⟨rfl, rfl, by simp [CheckpointScanOutcome.view]⟩
  · split
    · exact .inl ⟨rfl, rfl, by simp [CheckpointScanOutcome.view]⟩
    · split
      · exact .inl ⟨rfl, rfl, by simp [CheckpointScanOutcome.view]⟩
      · next total after drawn => exact .inr ⟨by omega, by omega, total, after, _, drawn, rfl⟩
      · next after drawn =>
        have same : after = db := by
          unfold Database.draw at drawn
          split at drawn
          · split at drawn <;> cases drawn
          · split at drawn <;> cases drawn
            rfl
        subst same
        split
        · exact .inl ⟨rfl, rfl, by simp [CheckpointScanOutcome.view]⟩
        · exact .inl ⟨rfl, rfl, by simp [CheckpointScanOutcome.view]⟩

end

section
variable {after : Database} {stations : Stations} {input : CheckpointScanInput} {stage : Stage}

/-- A scan has read the checkpoint that it draws at, as it still is if it is there. -/
structure Located (db : Database) (input : CheckpointScanInput) (checkpoint : CheckpointRecord) : Prop where
  key : checkpoint.key = (input.eventSlug, input.checkpointId)
  same : ∀ other ∈ db.checkpoints, other.key = checkpoint.key → other = checkpoint

/-- A scan has read a ticket, which is still there. -/
def Known (db : Database) (ticket : Ticket) : Prop :=
  ∃ now ∈ db.tickets, now.id = ticket.id ∧ now.reference = ticket.reference ∧ now.ticketTypeId = ticket.ticketTypeId

def StageSound (db : Database) : Stage → Prop
  | .located input _ _ checkpoint => Located db input checkpoint
  | .admitted input _ checkpoint ticket => Located db input checkpoint ∧ Known db ticket
  | _ => True

structure Sound (stations : Stations) : Prop where
  keyed : (stations.db.checkpoints.map CheckpointRecord.key).Nodup
  ids : (stations.db.tickets.map Ticket.id).Nodup
  references : (stations.db.tickets.map Ticket.reference).Nodup
  usage : (stations.db.usage.map Usage.key).Nodup
  there : ∀ row ∈ stations.db.usage, ∃ checkpoint ∈ stations.db.checkpoints, checkpoint.key = (row.eventSlug, row.checkpointId)
  balanced : ∀ checkpoint ∈ stations.db.checkpoints, ∀ ticketId,
    (stations.db.used (checkpoint.eventSlug, checkpoint.id, ticketId) : Int) = balance stations.ledger (checkpoint.eventSlug, checkpoint.id, ticketId)
  capped : ∀ checkpoint ∈ stations.db.checkpoints, ∀ ticket ∈ stations.db.tickets,
    stations.db.used (checkpoint.eventSlug, checkpoint.id, ticket.id) ≤ checkpointAllowanceFor checkpoint ticket.ticketTypeId
  stages : ∀ stage ∈ stations.scans, StageSound stations.db stage

/-- A database with fewer checkpoints, perhaps, and the same tickets but for what becomes of them. -/
structure Later (db after : Database) : Prop where
  checkpoints : after.checkpoints ⊆ db.checkpoints
  tickets : ∀ ticket ∈ db.tickets, Known after ticket

theorem StageSound.later (sound : StageSound db stage) (later : Later db after) : StageSound after stage := by
  have located {input : CheckpointScanInput} {checkpoint : CheckpointRecord} (there : Located db input checkpoint) : Located after input checkpoint :=
    ⟨there.key, fun other mem => there.same other (later.checkpoints mem)⟩
  cases stage with
  | parsed => trivial
  | located => exact located sound
  | admitted =>
    obtain ⟨there, now, mem, id, reference, type⟩ := sound
    obtain ⟨next, listed, sameId, sameReference, sameType⟩ := later.tickets now mem
    exact ⟨located there, next, listed, sameId.trans id, sameReference.trans reference, sameType.trans type⟩
  | answered => trivial

theorem Later.refl_tickets (checkpoints : after.checkpoints ⊆ db.checkpoints) (tickets : after.tickets = db.tickets) : Later db after :=
  ⟨checkpoints, fun ticket mem => ⟨ticket, tickets ▸ mem, rfl, rfl, rfl⟩⟩

theorem balance_append (ledger others : List Handout) (key : String × String × String) :
    balance (ledger ++ others) key = balance ledger key + balance others key := by
  simp [balance]

theorem balance_single (key other : String × String × String) (units : Int) :
    balance [{ key, units }] other = if key = other then units else 0 := by
  by_cases same : key = other
  · simp [balance, same]
  · simp [balance, same]

theorem getCheckpoint_some {eventSlug checkpointId : String}
    (found : db.getCheckpoint eventSlug checkpointId = some checkpoint) :
    checkpoint ∈ db.checkpoints ∧ checkpoint.key = (eventSlug, checkpointId) := by
  unfold Database.getCheckpoint at found
  split at found
  · cases found
  · exact ⟨mem_of_find?_eq_some found, eq_of_beq (find?_some (p := fun row : CheckpointRecord => row.key == (eventSlug, checkpointId)) found)⟩

theorem proceed_reads (sound : Sound stations) (mem : stage ∈ stations.scans) (now : Int)
    (reads : ∀ input consume checkpoint ticket, stage ≠ .admitted input consume checkpoint ticket) :
    (stage.proceed stations.db now).2 = stations.db ∧ StageSound stations.db (stage.proceed stations.db now).1 ∧
      stage.handouts (stage.proceed stations.db now).1 = [] := by
  have here := sound.stages stage mem
  cases stage with
  | parsed input =>
    refine ⟨rfl, ?_, rfl⟩
    simp only [Stage.proceed, readCheckpoint]
    cases found : stations.db.getCheckpoint input.eventSlug input.checkpointId with
    | none => trivial
    | some =>
      obtain ⟨listed, key⟩ := getCheckpoint_some found
      exact ⟨key, fun other inside same => inj_on_of_nodup_map sound.keyed inside listed same⟩
  | located input reference =>
    refine ⟨rfl, ?_, rfl⟩
    simp only [Stage.proceed, readTicket]
    cases found : stations.db.ticketByReference reference with
    | none => trivial
    | some ticket =>
      simp only
      split
      · trivial
      · split
        · trivial
        · split
          · trivial
          · exact ⟨here, ticket, mem_of_find?_eq_some found, rfl, rfl, rfl⟩
  | admitted input consume checkpoint ticket => exact absurd rfl (reads input consume checkpoint ticket)
  | answered => exact ⟨rfl, trivial, rfl⟩

theorem balance_handouts (outcome : CheckpointScanOutcome) (key : String × String × String) :
    balance (Stage.handouts (.admitted input consume checkpoint ticket) (.answered outcome)) key =
      if (input.eventSlug, input.checkpointId, ticket.id) = key then (outcome.drawn : Int) else 0 := by
  cases outcome with
  | consumed => exact balance_single ..
  | _ => simp [Stage.handouts, balance, CheckpointScanOutcome.drawn]

theorem balance_rows {rows : List Usage} (keyed : (rows.map Usage.key).Nodup) (which : Usage → Bool) (units : Usage → Int)
    (key : String × String × String) :
    balance ((rows.filter which).map fun row => { key := row.key, units := units row }) key =
      ((rows.find? (·.key == key)).map fun row => if which row then units row else 0).getD 0 := by
  induction rows with
  | nil => rfl
  | cons row rows ih =>
    obtain ⟨new, others⟩ := nodup_cons.mp keyed
    have rest := ih others
    have split : balance (((row :: rows).filter which).map fun row => { key := row.key, units := units row }) key =
        (if row.key = key then (if which row then units row else 0) else 0) +
          balance ((rows.filter which).map fun row => { key := row.key, units := units row }) key := by
      cases chosen : which row with
      | true =>
        rw [filter_cons_of_pos chosen, map_cons, ← singleton_append, balance_append, balance_single]
        rfl
      | false =>
        rw [filter_cons_of_neg (by simp [chosen])]
        simp
    rw [split, rest]
    by_cases same : row.key = key
    · have none : rows.find? (·.key == key) = none := by
        rw [find?_eq_none]
        exact fun other mem equal => new (mem_map.mpr ⟨other, mem, (eq_of_beq equal).trans same.symm⟩)
      rw [List.find?_cons_of_pos (by simpa using same), none, if_pos same]
      simp
    · rw [List.find?_cons_of_neg (by simpa using same), if_neg same, Int.zero_add]

theorem sound_read (sound : Sound stations) {index : Nat} {stage next : Stage} (there : StageSound stations.db next)
    (none : ∀ key, balance (stage.handouts next) key = 0) :
    Sound { stations with scans := stations.scans.set index next, ledger := stations.ledger ++ stage.handouts next } := by
  refine ⟨sound.keyed, sound.ids, sound.references, sound.usage, sound.there, fun checkpoint mem ticketId => ?_, sound.capped, fun stage mem => ?_⟩
  · rw [balance_append, none, Int.add_zero]
    exact sound.balanced checkpoint mem ticketId
  · rcases List.mem_or_eq_of_mem_set mem with old | rfl
    · exact sound.stages stage old
    · exact there

theorem sound_draw (sound : Sound stations) {index : Nat}
    {group : Option CheckpointGroupView} (located : Located stations.db input checkpoint) (known : Known stations.db ticket)
    (draws : Draws stations.db after (input.eventSlug, input.checkpointId, ticket.id) consume
      (checkpointAllowanceFor checkpoint ticket.ticketTypeId) total) :
    Sound {
      db := after, scans := stations.scans.set index (.answered (.consumed (ticketView checkpoint ticket total) consume group))
      ledger := stations.ledger ++ Stage.handouts (.admitted input consume checkpoint ticket)
        (.answered (.consumed (ticketView checkpoint ticket total) consume group)) } where
  keyed := draws.checkpoints ▸ sound.keyed
  ids := draws.tickets ▸ sound.ids
  references := draws.tickets ▸ sound.references
  usage := draws.keyed
  there := by
    rw [draws.checkpoints]
    intro row mem
    rcases draws.rows row mem with ⟨old, listed, same⟩ | found
    · simp only [Usage.key, Prod.mk.injEq] at same
      rw [← same.1, ← same.2.1]
      exact sound.there old listed
    · exact found
  balanced := by
    intro other mem ticketId
    rw [draws.checkpoints] at mem
    rw [balance_append, balance_handouts, ← sound.balanced other mem ticketId]
    by_cases same : (input.eventSlug, input.checkpointId, ticket.id) = (other.eventSlug, other.id, ticketId)
    · rw [if_pos same, ← same, draws.used, draws.adds]
      rfl
    · rw [if_neg same, draws.others _ (Ne.symm same), Int.add_zero]
  capped := by
    intro other mem one listed
    rw [draws.checkpoints] at mem
    rw [draws.tickets] at listed
    by_cases same : (other.eventSlug, other.id, one.id) = (input.eventSlug, input.checkpointId, ticket.id)
    · simp only [Prod.mk.injEq] at same
      obtain ⟨event, id, ticketId⟩ := same
      have key : other.key = checkpoint.key := by rw [located.key, CheckpointRecord.key, event, id]
      cases located.same other mem key
      obtain ⟨row, inside, sameId, -, type⟩ := known
      cases inj_on_of_nodup_map sound.ids listed inside (ticketId.trans sameId.symm)
      rw [event, id, ticketId, draws.used, type]
      exact draws.fits
    · rw [draws.others _ same]
      exact sound.capped other mem one listed
  stages := by
    intro stage mem
    rcases List.mem_or_eq_of_mem_set mem with old | rfl
    · exact (sound.stages stage old).later (.refl_tickets (draws.checkpoints ▸ List.Subset.refl _) draws.tickets)
    · trivial

theorem sound_proceed (sound : Sound stations) (index : Nat) (now : Int) : Sound (stations.next (.proceed index now)) := by
  simp only [Stations.next]
  cases found : stations.scans[index]? with
  | none => exact sound
  | some stage =>
    have mem := mem_of_getElem? found
    by_cases draws : ∃ input consume checkpoint ticket, stage = .admitted input consume checkpoint ticket
    · obtain ⟨input, consume, checkpoint, ticket, rfl⟩ := draws
      obtain ⟨located, known⟩ := sound.stages _ mem
      simp only [Stage.proceed]
      rcases consume_cases stations.db input consume checkpoint ticket now with ⟨same, none, -⟩ | ⟨_, small, total, after, group, drawn, same⟩
      · rw [same]
        refine @sound_read _ sound _ (.admitted input consume checkpoint ticket) _ trivial fun key => ?_
        rw [balance_handouts, none]
        split <;> rfl
      · rw [same]
        exact sound_draw sound located known (draw_draws sound.usage small drawn)
    · obtain ⟨same, there, none⟩ := proceed_reads sound mem now fun input consume checkpoint ticket equal =>
        draws ⟨input, consume, checkpoint, ticket, equal⟩
      simp only [same]
      exact sound_read sound there fun key => by rw [none]; rfl

theorem used_undo (units : Nat) (now : Int) (which : Usage → Bool) (key : String × String × String) :
    ({ db with usage := update db.usage which (Usage.putBack units now) } : Database).used key =
      db.used key - ((db.usageOf key).map fun row => if which row then min units row.used else 0).getD 0 := by
  rw [used_update (Usage.putBack units now) fun _ => rfl, Database.used]
  cases db.usageOf key with
  | none => rfl
  | some =>
    simp only [map_some, getD_some, Usage.putBack]
    split <;> omega

theorem sound_undo (sound : Sound stations) (input : UndoInput) (now : Int) : Sound (stations.next (.undo input now)) := by
  simp only [Stations.next, Database.undoCheckpointUse, corrections]
  cases input.amount with
  | none => simpa using sound
  | some units =>
    refine ⟨sound.keyed, sound.ids, sound.references, nodup_update (fun _ => rfl) sound.usage, fun row mem => ?_, fun checkpoint mem ticketId => ?_,
      fun checkpoint mem ticket listed => ?_, fun stage mem => ?_⟩
    · obtain ⟨old, listed, same⟩ := mem_update.mp mem
      have kept : row.eventSlug = old.eventSlug ∧ row.checkpointId = old.checkpointId := by
        rw [same]
        split <;> exact ⟨rfl, rfl⟩
      rw [kept.1, kept.2]
      exact sound.there old listed
    · rw [balance_append, balance_rows sound.usage (stations.db.corrects input) fun row => -((min units row.used : Nat) : Int),
        ← sound.balanced checkpoint mem ticketId, used_undo]
      have held : stations.db.usage.find? (·.key == (checkpoint.eventSlug, checkpoint.id, ticketId)) =
          stations.db.usageOf (checkpoint.eventSlug, checkpoint.id, ticketId) := rfl
      rw [held, Database.used]
      cases stations.db.usageOf (checkpoint.eventSlug, checkpoint.id, ticketId) with
      | none => rfl
      | some =>
        simp only [map_some, getD_some]
        split <;> omega
    · rw [used_undo]
      exact (Nat.sub_le _ _).trans (sound.capped checkpoint mem ticket listed)
    · exact (sound.stages stage mem).later (.refl_tickets (List.Subset.refl _) rfl)

theorem sound_void (sound : Sound stations) (ticketId : String) (refunded : Bool) : Sound (stations.next (.void ticketId refunded)) := by
  have kept {β : Type} (column : Ticket → β) (same : ∀ ticket status, column { ticket with status } = column ticket) (status : TicketStatus) :
      (stations.db.markTicketStatus ticketId status).tickets.map column = stations.db.tickets.map column := map_update fun ticket => same ticket status
  refine ⟨sound.keyed, ?_, ?_, sound.usage, sound.there, sound.balanced, fun checkpoint mem ticket listed => ?_, fun stage mem => ?_⟩
  · simpa [Stations.next, kept Ticket.id fun _ _ => rfl] using sound.ids
  · simpa [Stations.next, kept Ticket.reference fun _ _ => rfl] using sound.references
  · obtain ⟨old, inside, same⟩ := mem_update.mp listed
    have before := sound.capped checkpoint mem old inside
    rw [same]
    split
    · exact before
    · exact before
  · refine (sound.stages stage mem).later ⟨List.Subset.refl _, fun ticket listed => ?_⟩
    refine ⟨_, mem_update.mpr ⟨ticket, listed, rfl⟩, ?_⟩
    split <;> exact ⟨rfl, rfl, rfl⟩

theorem sound_delete (sound : Sound stations) (eventSlug checkpointId : String) : Sound (stations.next (.deleteCheckpoint eventSlug checkpointId)) := by
  simp only [Stations.next, Database.deleteCheckpoint]
  split
  · exact sound
  · have used (checkpoint : CheckpointRecord) (mem : checkpoint ∈ stations.db.checkpoints.filter (·.key ≠ (eventSlug, checkpointId))) (ticketId : String) :
        ({ stations.db with
            checkpoints := stations.db.checkpoints.filter (·.key ≠ (eventSlug, checkpointId))
            usage := stations.db.usage.filter fun row => (row.eventSlug, row.checkpointId) ≠ (eventSlug, checkpointId) } : Database).used
          (checkpoint.eventSlug, checkpoint.id, ticketId) = stations.db.used (checkpoint.eventSlug, checkpoint.id, ticketId) := by
      have other := of_decide_eq_true (mem_filter.mp mem).2
      unfold Database.used Database.usageOf
      congr 2
      rw [find?_filter]
      congr 1
      funext row
      by_cases same : row.key = (checkpoint.eventSlug, checkpoint.id, ticketId)
      · simp only [Usage.key, Prod.mk.injEq] at same
        have apart : (row.eventSlug, row.checkpointId) ≠ (eventSlug, checkpointId) := by
          rw [same.1, same.2.1]
          exact other
        simp [apart, Bool.beq_eq_decide_eq]
      · simp [same]
    refine ⟨sound.keyed.sublist (filter_sublist.map _), sound.ids, sound.references, sound.usage.sublist (filter_sublist.map _),
      fun row mem => ?_, fun checkpoint mem ticketId => ?_, fun checkpoint mem ticket listed => ?_, fun stage mem => ?_⟩
    · obtain ⟨listed, other⟩ := mem_filter.mp mem
      obtain ⟨checkpoint, inside, key⟩ := sound.there row listed
      exact ⟨checkpoint, mem_filter.mpr ⟨inside, by rw [key]; exact other⟩, key⟩
    · rw [used checkpoint mem]
      exact sound.balanced checkpoint (mem_of_mem_filter mem) ticketId
    · rw [used checkpoint mem]
      exact sound.capped checkpoint (mem_of_mem_filter mem) ticket listed
    · exact (sound.stages stage mem).later (.refl_tickets (List.filter_subset_self ..) rfl)

end

end MilkAndHenny.Checkpoints

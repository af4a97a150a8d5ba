import MilkAndHenny.Library.Machine
import MilkAndHenny.Waitlist.Reconcile

/-! The alerts of a waitlist are paid for by what has become available, and are given out in the
order of the queue. -/

namespace MilkAndHenny.Waitlist
open Library

variable {event : EventRecord} {inventory : InventorySnapshot} {input : ReconcileInput} {round : Round}
  {kept status : WaitlistStatus} {selection : NotificationSelection}

def spentOn (key : ScopeKey) (selections : List NotificationSelection) : Nat := selections.countP fun selection => usesCredit selection.capacityTypeId key

def NoCredit (credits : Credits) (event : EventRecord) (inventory : InventorySnapshot) (row : WaitlistEntry) : Prop :=
  credits .event = 0 ∨
    match row.ticketTypeId with
    | some typeId => credits (.ticket typeId) = 0
    | none => ∀ type ∈ event.ticketTypes, inventory.available (.ticket type.id) = 0 ∨ credits (.ticket type.id) = 0

section
variable {credits : Credits} {rows : List WaitlistEntry} {row : WaitlistEntry}

theorem capacityTypeFor_none : credits.capacityTypeFor event inventory row = none ↔ NoCredit credits event inventory row := by
  unfold Credits.capacityTypeFor NoCredit
  by_cases spent : credits .event = 0
  · simp [spent]
  · rw [if_neg spent, or_iff_right spent]
    cases row.ticketTypeId with
    | some => simp
    | none => simp [imp_iff_not_or]

theorem capacityTypeFor_credit {typeId : Nat} (backs : credits.capacityTypeFor event inventory row = some typeId)
    (key : ScopeKey) (uses : usesCredit typeId key = true) : 0 < credits key := by
  unfold Credits.capacityTypeFor at backs
  split at backs
  · cases backs
  · next held =>
    have backed : 0 < credits (.ticket typeId) := by
      split at backs
      · split at backs
        · cases backs
        · next typed =>
          cases backs
          exact Nat.pos_of_ne_zero typed
      · obtain ⟨type, found, rfl⟩ := map_eq_some_iff.mp backs
        have holds := find?_some found
        simp only [and_eq_true, decide_eq_true_eq] at holds
        exact holds.2
    cases key with
    | event => exact Nat.pos_of_ne_zero held
    | ticket other =>
      obtain rfl : other = typeId := eq_of_beq uses
      exact backed

theorem serve_spends (key : ScopeKey) :
    (serve event inventory credits rows).2 key + spentOn key (serve event inventory credits rows).1 = credits key := by
  induction rows generalizing credits with
  | nil => rfl
  | cons row rows ih =>
    unfold serve
    split
    · exact ih
    · next capacityTypeId backs =>
      have rest := @ih (credits.spend capacityTypeId)
      have positive := capacityTypeFor_credit backs key
      simp only [spentOn, countP_cons] at rest ⊢
      simp only [Credits.spend] at rest
      cases uses : usesCredit capacityTypeId key with
      | true =>
        have := positive uses
        simp only [uses, if_true] at rest ⊢
        omega
      | false =>
        simp only [uses, false_eq_true, if_false] at rest ⊢
        omega

theorem serve_sublist : ((serve event inventory credits rows).1.map (·.row)).Sublist rows := by
  induction rows generalizing credits with
  | nil => exact .slnil
  | cons row rows ih =>
    unfold serve
    split
    · exact ih.cons _
    · exact ih.cons_cons _

theorem serve_append {before after : List WaitlistEntry} :
    serve event inventory credits (before ++ after) =
      ((serve event inventory credits before).1 ++ (serve event inventory (serve event inventory credits before).2 after).1,
        (serve event inventory (serve event inventory credits before).2 after).2) := by
  induction before generalizing credits with
  | nil => rfl
  | cons row rows ih =>
    simp only [cons_append, serve]
    split
    · exact ih
    · rw [ih]
      rfl

theorem serve_turn {before after : List WaitlistEntry} {row : WaitlistEntry} (unique : ((before ++ row :: after).map (·.id)).Nodup) :
    row ∈ (serve event inventory credits (before ++ row :: after)).1.map (·.row) ↔
      ¬ NoCredit (serve event inventory credits before).2 event inventory row := by
  rw [map_append, map_cons, List.nodup_middle, nodup_cons, ← map_append] at unique
  have elsewhere : row ∉ before ++ after := fun mem => unique.1 (mem_map_of_mem mem)
  have unserved {credits : Credits} {rows : List WaitlistEntry} (absent : row ∉ rows) :
      row ∉ (serve event inventory credits rows).1.map (·.row) := fun mem => absent (serve_sublist.subset mem)
  rw [← capacityTypeFor_none, serve_append]
  simp only [mem_append, not_or] at elsewhere
  rw [map_append, mem_append, or_iff_right (unserved elsewhere.1), serve]
  split
  · next none =>
    rw [none]
    exact iff_of_false (unserved elsewhere.2) (not_not_intro rfl)
  · next backs =>
    rw [backs]
    exact iff_of_true (mem_cons_self ..) (some_ne_none _)

end

section
variable {previous credits : Credits}

theorem open_le (key : ScopeKey) : openCredits event inventory previous credits key ≤ inventory.available key := by
  cases key with
  | event => exact Nat.min_le_left ..
  | ticket =>
    simp only [openCredits]
    split
    · exact Nat.min_le_left ..
    · exact Nat.zero_le _

theorem open_grows (typeId : Nat) : openCredits event inventory previous credits (.ticket typeId) ≤
    credits (.ticket typeId) +
      if event.tracks (.ticket typeId) then positiveDifference (inventory.available (.ticket typeId)) (previous (.ticket typeId)) else 0 := by
  simp only [openCredits]
  split
  · exact Nat.min_le_right ..
  · exact Nat.zero_le _

end

section
variable {selections : List NotificationSelection} {selection : NotificationSelection}

/-- The credits that are left, and those that the selections still to be delivered have spent, were there to begin with. -/
def Round.Within (round : Round) (inventory : InventorySnapshot) (selections : List NotificationSelection) : Prop :=
  ∀ key, round.credits key + spentOn key selections ≤ inventory.available key

theorem spentOn_cons {key : ScopeKey} :
    spentOn key (selection :: selections) = spentOn key selections + if usesCredit selection.capacityTypeId key then 1 else 0 :=
  countP_cons

theorem deliver_credits (within : round.Within input.inventory (selection :: selections)) (key : ScopeKey) :
    (input.deliver round selection).credits key =
      round.credits key + if input.delivers selection.row.id = false ∧ usesCredit selection.capacityTypeId key then 1 else 0 := by
  unfold ReconcileInput.deliver
  split
  · next delivered => simp [delivered]
  · next failed =>
    have bound := within key
    rw [spentOn_cons] at bound
    simp only [Credits.giveBack, eq_false_iff.mpr failed, true_and]
    split
    · next uses =>
      rw [if_pos uses] at bound
      omega
    · rfl

theorem deliver_within (within : round.Within input.inventory (selection :: selections)) :
    (input.deliver round selection).Within input.inventory selections := by
  intro key
  have bound := within key
  rw [spentOn_cons] at bound
  rw [deliver_credits within key]
  split
  · next gives =>
    rw [if_pos gives.2] at bound
    omega
  · omega

theorem deliver_delivered :
    (input.deliver round selection).delivered = round.delivered ++ if input.delivers selection.row.id then [selection] else [] := by
  unfold ReconcileInput.deliver
  split
  · rfl
  · exact (append_nil _).symm

theorem round_within {before after : List NotificationSelection} (within : round.Within input.inventory (before ++ after)) :
    (before.foldl input.deliver round).Within input.inventory after := by
  induction before generalizing round with
  | nil => exact within
  | cons selection before ih => exact ih (deliver_within within)

theorem round_delivered : (selections.foldl input.deliver round).delivered =
    round.delivered ++ selections.filter fun selection => input.delivers selection.row.id := by
  induction selections generalizing round with
  | nil => exact (append_nil _).symm
  | cons selection selections ih =>
    rw [foldl_cons, ih, deliver_delivered, append_assoc, filter_cons]
    split <;> rfl

theorem round_credits (within : round.Within input.inventory selections) (key : ScopeKey) :
    (selections.foldl input.deliver round).credits key + spentOn key (selections.filter fun selection => input.delivers selection.row.id) =
      round.credits key + spentOn key selections := by
  induction selections generalizing round with
  | nil => rfl
  | cons selection selections ih =>
    have rest := ih (deliver_within within)
    rw [deliver_credits within key] at rest
    rw [foldl_cons, filter_cons, spentOn_cons]
    cases delivers : input.delivers selection.row.id with
    | true =>
      simp only [delivers, Bool.true_eq_false, false_and, if_false, if_true] at rest ⊢
      rw [spentOn_cons]
      omega
    | false =>
      simp only [delivers, true_and, false_eq_true, if_false] at rest ⊢
      omega

end

section
variable {entries : Entries} {id : Nat} {now : Int}

def Entries.Has (entries : Entries) (id : Nat) (status : WaitlistStatus) : Prop := ∃ row ∈ entries.rows, row.id = id ∧ row.status = status

theorem Entries.Has.setWhere {which : WaitlistEntry → Bool} (apart : ∀ row, row.id = id → row.status = kept → which row = false)
    (has : entries.Has id kept) : (entries.setWhere which status).Has id kept := by
  obtain ⟨row, mem, rfl, held⟩ := has
  refine ⟨row, mem_update.mpr ⟨row, mem, ?_⟩, rfl, held⟩
  rw [if_neg (eq_false_iff.mp (apart row rfl held))]

theorem Entries.Has.notify {other : Nat} (apart : id ≠ other ∨ kept ≠ .active) (has : entries.Has id kept) :
    (entries.notify other now).Has id kept := by
  obtain ⟨row, mem, rfl, rfl⟩ := has
  refine ⟨row, mem_update.mpr ⟨row, mem, ?_⟩, rfl, rfl⟩
  rw [if_neg]
  simp only [and_eq_true, beq_iff_eq, not_and]
  intro same active
  rcases apart with other | inactive
  · exact other same
  · exact inactive active

theorem Entries.Has.notified (active : entries.Has id .active) : (entries.notify id now).Has id .notified := by
  obtain ⟨row, mem, rfl, active⟩ := active
  refine ⟨{ row with status := .notified, notifiedAt := some now }, mem_update.mpr ⟨row, mem, ?_⟩, rfl, rfl⟩
  simp [active]

theorem Entries.Has.unique {other : WaitlistStatus} (has : entries.Has id status) (also : entries.Has id other) : status = other := by
  obtain ⟨row, mem, same, rfl⟩ := has
  obtain ⟨row', member', same', rfl⟩ := also
  rw [inj_on_of_nodup_map entries.unique mem member' (same.trans same'.symm)]

theorem settle_notified (notified : entries.Has id .notified) : (input.settleEntries entries).Has id .notified := by
  have live : ∀ row : WaitlistEntry, row.status = .notified → row.isLive = false := by
    intro row notified
    simp [WaitlistEntry.isLive, notified]
  unfold ReconcileInput.settleEntries
  extract_lets ended confirmed deliverable
  have ended : ended.Has id .notified := by
    simp only [ended]
    split
    · exact notified.setWhere fun row _ held => live row held
    · exact notified
  have confirmed : confirmed.Has id .notified := ended.setWhere fun row _ held => by simp [held]
  have deliverable : deliverable.Has id .notified := confirmed.setWhere fun row _ held => by simp [live row held]
  exact deliverable.setWhere fun row _ held => by simp [live row held]

theorem deliver_keeps (apart : id ≠ selection.row.id ∨ status ≠ .active)
    (has : round.entries.Has id status) : (input.deliver round selection).entries.Has id status := by
  unfold ReconcileInput.deliver
  split
  · exact has.notify apart
  · refine has.setWhere fun row same held => ?_
    rcases apart with other | inactive
    · simp [same, other]
    · simp [held, inactive]

theorem round_keeps {round : Round} {selections : List NotificationSelection} (notified : round.entries.Has id .notified) :
    (selections.foldl input.deliver round).entries.Has id .notified := by
  induction selections generalizing round with
  | nil => exact notified
  | cons selection selections ih => exact ih (deliver_keeps (.inr (by simp)) notified)

theorem round_notified {selections : List NotificationSelection} (unique : (selections.map (·.row.id)).Nodup)
    (active : ∀ selection ∈ selections, round.entries.Has selection.row.id .active) :
    ∀ selection ∈ selections, input.delivers selection.row.id → (selections.foldl input.deliver round).entries.Has selection.row.id .notified := by
  induction selections generalizing round with
  | nil =>
    intro selection mem
    cases mem
  | cons first selections ih =>
    obtain ⟨apart, unique⟩ := nodup_cons.mp unique
    intro selection mem delivers
    rcases mem_cons.mp mem with rfl | mem
    · have alerted : (input.deliver round selection).entries.Has selection.row.id .notified := by
        unfold ReconcileInput.deliver
        rw [if_pos delivers]
        exact (active selection (mem_cons_self ..)).notified
      exact @round_keeps input _ (input.deliver round selection) selections alerted
    · refine ih unique (fun other listed => ?_) selection mem delivers
      have distinct : other.row.id ≠ first.row.id := by
        intro same
        exact apart (mem_map.mpr ⟨other, listed, same⟩)
      exact deliver_keeps (.inl distinct) (active other (mem_cons_of_mem _ listed))

end

inductive Step where
  | reconcile (input : ReconcileInput)
  /-- Somebody asks to join. -/
  | join (event : EventRecord) (inventory : InventorySnapshot)
  /-- Whatever else happens to the entries. -/
  | edit (entries : Entries)

/-- A waitlist, how many alerts each ticket type has backed and how much of it has become available
so far, and the entries that have been alerted and stayed notified since, once for each alert. -/
structure Watched where
  state : WaitlistState
  alerts : Nat → Nat
  increases : Nat → Nat
  outstanding : List Nat

def backedBy (typeId : Nat) (selections : List NotificationSelection) : Nat := selections.countP (·.capacityTypeId == typeId)

def Step.watch (step : Step) (watched : Watched) : Watched :=
  match step with
  | .reconcile input =>
    { state := (input.reconcileEventWaitlist watched.state).1
      alerts := fun typeId => watched.alerts typeId + backedBy typeId (input.round watched.state).delivered
      increases := fun typeId => watched.increases typeId +
        if input.event.tracks (.ticket typeId) then
          positiveDifference (input.inventory.available (.ticket typeId)) (watched.state.table.available (.ticket typeId))
        else 0
      outstanding := watched.outstanding ++ (input.round watched.state).delivered.map (·.row.id) }
  | .join event inventory => { watched with state := { watched.state with table := watched.state.table.initializeInventoryState event inventory } }
  | .edit entries =>
    { watched with
      state := { watched.state with entries }
      outstanding := watched.outstanding.filter fun id => entries.rows.any fun row => row.id == id && row.status == .notified }

/-- An event that nobody has waited for yet. -/
def newEvent : Watched where
  state := { entries := ⟨[], nodup_nil⟩, table := fun _ => none }
  alerts := fun _ => 0
  increases := fun _ => 0
  outstanding := []

/-- The alerts of each ticket type are no more than what has become available of it, the stored credits no more than what
is available, and nobody who is notified has been alerted twice. -/
structure Watched.Sound (watched : Watched) : Prop where
  paid : ∀ typeId, watched.alerts typeId ≤ watched.increases typeId
  bounded : ∀ key row, watched.state.table key = some row → row.credits ≤ row.available
  once : watched.outstanding.Nodup

/-- One reconciliation, whatever is stored. -/
structure ReconcileInput.Served (input : ReconcileInput) (state : WaitlistState) : Prop where
  total : (input.round state).delivered.length ≤ input.inventory.eventAvailable
  backed : ∀ typeId, backedBy typeId (input.round state).delivered ≤ input.inventory.available (.ticket typeId)
  queue : (input.candidates state).Pairwise (Entries.queueOrder · ·)
  order : ((input.plan state).1.map (·.row)).Sublist (input.candidates state)
  delivered : (input.round state).delivered = (input.plan state).1.filter fun selection => input.delivers selection.row.id
  /-- A candidate is passed over exactly where there is no credit for it at its turn. -/
  turns : ∀ before row after, input.candidates state = before ++ row :: after →
    (row ∉ (input.plan state).1.map (·.row) ↔
      NoCredit (serve input.event input.inventory (input.opening state) before).2 input.event input.inventory row)
  /-- A failed delivery leaves one more credit of each scope that it used, and the others as they are. -/
  givenBack : ∀ before selection after, (input.plan state).1 = before ++ selection :: after → input.delivers selection.row.id = false → ∀ key,
    ((before ++ [selection]).foldl input.deliver (input.started state)).credits key =
      (before.foldl input.deliver (input.started state)).credits key + if usesCredit selection.capacityTypeId key then 1 else 0

section
variable {state : WaitlistState} {watched : Watched}

theorem spentOn_event (selections : List NotificationSelection) : spentOn .event selections = selections.length := by
  simp [spentOn, usesCredit]

theorem spentOn_ticket (typeId : Nat) (selections : List NotificationSelection) : spentOn (.ticket typeId) selections = backedBy typeId selections := by
  unfold spentOn backedBy
  congr 1
  funext selection
  exact BEq.comm

theorem started_within : (input.started state).Within input.inventory (input.plan state).1 := by
  intro key
  have spends := @serve_spends input.event input.inventory (input.opening state) (input.candidates state) key
  have bound : input.opening state key ≤ input.inventory.available key := open_le key
  rw [← spends] at bound
  exact bound

theorem reconcile_credits (key : ScopeKey) :
    (input.round state).credits key + spentOn key (input.round state).delivered = input.opening state key := by
  have delivered : (input.round state).delivered = (input.plan state).1.filter fun selection => input.delivers selection.row.id := round_delivered
  rw [delivered]
  have left := @round_credits input (input.started state) (input.plan state).1 started_within key
  have spends := @serve_spends input.event input.inventory (input.opening state) (input.candidates state) key
  exact left.trans spends

theorem queueOrder_total (row other : WaitlistEntry) : Entries.queueOrder row other ∨ Entries.queueOrder other row := by
  unfold Entries.queueOrder
  cases row.confirmedAt with
  | none =>
    cases other.confirmedAt with
    | none =>
      simp only [Entries.queueOrder.created, or_eq_true, and_eq_true, decide_eq_true_eq, beq_iff_eq]
      omega
    | some => exact .inr rfl
  | some =>
    cases other.confirmedAt with
    | none => exact .inl rfl
    | some =>
      simp only [Entries.queueOrder.created, or_eq_true, and_eq_true, decide_eq_true_eq, beq_iff_eq]
      omega

theorem queueOrder_trans (row other third : WaitlistEntry) (first : Entries.queueOrder row other) (second : Entries.queueOrder other third) :
    Entries.queueOrder row third := by
  unfold Entries.queueOrder at *
  revert first second
  cases row.confirmedAt <;> cases other.confirmedAt <;> cases third.confirmedAt <;>
    simp [Entries.queueOrder.created]
  all_goals
    intro first second
    omega

theorem candidates_unique : ((input.candidates state).map (·.id)).Nodup := by
  have perm := (perm_insertionSort (Entries.queueOrder · ·) ((input.settleEntries state.entries).rows.filter (·.status == .active))).map (·.id)
  exact perm.nodup_iff.mpr ((input.settleEntries state.entries).unique.sublist (filter_sublist.map _))

theorem selections_unique : ((input.plan state).1.map (·.row.id)).Nodup := by
  have rows : ((input.plan state).1.map (·.row)).Sublist (input.candidates state) := serve_sublist
  have ids := candidates_unique.sublist (rows.map (·.id))
  rwa [map_map] at ids

theorem selection_active (mem : selection ∈ (input.plan state).1) :
    (input.settleEntries state.entries).Has selection.row.id .active := by
  have rows : ((input.plan state).1.map (·.row)).Sublist (input.candidates state) := serve_sublist
  have listed : selection.row ∈ input.candidates state := rows.subset (mem_map_of_mem mem)
  simp only [ReconcileInput.candidates, Entries.activeCandidates, orderBy, List.mem_insertionSort, mem_filter, beq_iff_eq] at listed
  exact ⟨selection.row, listed.1, rfl, listed.2⟩

theorem reconcile_served (input : ReconcileInput) (state : WaitlistState) : input.Served state where
  total := by
    have left := @reconcile_credits input state .event
    have bound : input.opening state .event ≤ input.inventory.eventAvailable := open_le .event
    rw [spentOn_event] at left
    omega
  backed typeId := by
    have left := @reconcile_credits input state (.ticket typeId)
    have bound : input.opening state (.ticket typeId) ≤ input.inventory.available (.ticket typeId) := open_le (.ticket typeId)
    rw [spentOn_ticket] at left
    omega
  queue := pairwise_orderBy queueOrder_total queueOrder_trans _
  order := serve_sublist
  delivered := round_delivered
  turns before row after split := by
    have unique := @candidates_unique input state
    rw [split] at unique
    have turn := @serve_turn input.event input.inventory (input.opening state) before after row unique
    rw [← split] at turn
    exact (not_congr turn).trans not_not
  givenBack before selection after split failed key := by
    have within := @started_within input state
    rw [split] at within
    have given := deliver_credits (round_within within : (before.foldl input.deliver (input.started state)).Within input.inventory (selection :: after)) key
    rw [foldl_append, foldl_cons, foldl_nil]
    simpa [failed] using given

/-- What holds of a waitlist after every step. -/
structure Kept (watched : Watched) : Prop where
  paid : ∀ typeId, watched.alerts typeId + watched.state.table.credits (.ticket typeId) ≤ watched.increases typeId
  notified : ∀ id ∈ watched.outstanding, watched.state.entries.Has id .notified
  once : watched.outstanding.Nodup

theorem Kept.sound (kept : Kept watched) : watched.Sound where
  paid typeId := Nat.le_of_add_right_le (kept.paid typeId)
  bounded _ row _ := row.bounded
  once := kept.once

theorem reconcile_paid (kept : Kept watched) (typeId : Nat) :
    ((Step.reconcile input).watch watched).alerts typeId + ((Step.reconcile input).watch watched).state.table.credits (.ticket typeId) ≤
      ((Step.reconcile input).watch watched).increases typeId := by
  have left := @reconcile_credits input watched.state (.ticket typeId)
  have grows := @open_grows input.event input.inventory watched.state.table.available watched.state.table.credits typeId
  have before := kept.paid typeId
  have stored : ((Step.reconcile input).watch watched).state.table.credits (.ticket typeId) ≤ (input.round watched.state).credits (.ticket typeId) := by
    simp only [Step.watch, ReconcileInput.reconcileEventWaitlist, InventoryTable.credits, InventoryTable.writeInventoryState]
    split
    · exact Nat.min_le_right ..
    · exact Nat.zero_le _
  rw [spentOn_ticket] at left
  change input.opening watched.state (.ticket typeId) ≤ _ at grows
  simp only [Step.watch] at stored ⊢
  omega

theorem reconcile_once {watched : Watched} (kept : Kept watched) :
    (∀ id ∈ ((Step.reconcile input).watch watched).outstanding, ((Step.reconcile input).watch watched).state.entries.Has id .notified) ∧
      ((Step.reconcile input).watch watched).outstanding.Nodup := by
  have delivered : (input.round watched.state).delivered = (input.plan watched.state).1.filter fun selection => input.delivers selection.row.id :=
    round_delivered
  have active : ∀ selection ∈ (input.plan watched.state).1, (input.started watched.state).entries.Has selection.row.id .active :=
    fun selection mem => selection_active mem
  constructor
  · intro id listed
    rcases mem_append.mp listed with listed | listed
    · exact @round_keeps input id (input.started watched.state) _ (settle_notified (kept.notified id listed))
    · rw [delivered] at listed
      obtain ⟨selection, mem, rfl⟩ := mem_map.mp listed
      obtain ⟨selected, delivers⟩ := mem_filter.mp mem
      exact round_notified selections_unique active selection selected delivers
  · refine nodup_append.mpr ⟨kept.once, ?_, ?_⟩
    · rw [delivered]
      exact selections_unique.sublist (filter_sublist.map _)
    · rintro id outstanding other listed rfl
      rw [delivered] at listed
      obtain ⟨selection, mem, rfl⟩ := mem_map.mp listed
      have notified := @settle_notified input watched.state.entries selection.row.id (kept.notified _ outstanding)
      cases notified.unique (active selection (mem_filter.mp mem).1)

theorem join_credits {event : EventRecord} {inventory : InventorySnapshot} {table : InventoryTable} (key : ScopeKey) :
    (table.initializeInventoryState event inventory).credits key ≤ table.credits key := by
  simp only [InventoryTable.credits, InventoryTable.initializeInventoryState]
  split
  · cases table key with
    | none => exact Nat.zero_le _
    | some => exact Nat.min_le_left ..
  · exact Nat.le_refl _

theorem step_kept (step : Step) (kept : Kept watched) : Kept (step.watch watched) := by
  cases step with
  | reconcile input =>
    obtain ⟨notified, once⟩ := @reconcile_once input watched kept
    exact ⟨reconcile_paid kept, notified, once⟩
  | join event inventory =>
    refine ⟨fun typeId => ?_, kept.notified, kept.once⟩
    have before := kept.paid typeId
    have fewer := @join_credits event inventory watched.state.table (.ticket typeId)
    simp only [Step.watch]
    omega
  | edit =>
    refine ⟨kept.paid, fun id listed => ?_, kept.once.filter _⟩
    obtain ⟨row, mem, holds⟩ := any_eq_true.mp (mem_filter.mp listed).2
    simp only [and_eq_true, beq_iff_eq] at holds
    exact ⟨row, mem, holds⟩

end

/-- In every run of a waitlist, the alerts that a ticket type has backed are no more than what has become available of it,
the stored credits are between nothing and what is available, and nobody is alerted twice while notified; and each
reconciliation, whatever is stored, serves the queue in its order for as long as there are credits. -/
theorem alerts_sound (steps : List Step) :
    Throughout Step.watch Watched.Sound newEvent steps ∧ ∀ (input : ReconcileInput) (state : WaitlistState), input.Served state := by
  refine ⟨?_, reconcile_served⟩
  have start : Kept newEvent := by
    refine ⟨fun typeId => Nat.le_refl _, ?_, nodup_nil⟩
    intro id listed
    cases listed
  have allowed : EachStep Step.watch (fun _ _ => True) newEvent steps :=
    @EachStep.always Watched Step Step.watch (fun _ => True) _ _ fun _ _ => trivial
  have kept := @EachStep.shows Watched Step Step.watch (fun _ _ => True) Kept (fun _ _ => True)
    (fun kept _ => ⟨step_kept _ kept, trivial⟩) newEvent steps start allowed
  exact kept.1.imp fun _ kept => kept.sound

end MilkAndHenny.Waitlist

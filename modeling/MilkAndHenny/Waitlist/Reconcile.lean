import MilkAndHenny.Waitlist.Inventory

/-! A reconciliation of the waitlist of an event, in one transaction: who can no longer be waiting,
what has become available, and whom it is offered to. -/

namespace MilkAndHenny.Waitlist
open Library

structure Entries where
  rows : List WaitlistEntry
  unique : (rows.map (·.id)).Nodup

structure InventoryRow where
  available : Nat
  credits : Nat
  bounded : credits ≤ available

/-- The stored inventory of an event. -/
abbrev InventoryTable := ScopeKey → Option InventoryRow

namespace InventoryTable

/-- `readInventoryState`. -/
def available (table : InventoryTable) : Credits := fun key => (table key).elim 0 (·.available)

def credits (table : InventoryTable) : Credits := fun key => (table key).elim 0 (·.credits)

/-- Whatever the event no longer has is deleted. -/
def writeInventoryState (event : EventRecord) (inventory : InventorySnapshot) (credits : Credits) : InventoryTable := fun key =>
  if event.tracks key then some ⟨inventory.available key, min (inventory.available key) (credits key), Nat.min_le_left ..⟩ else none

/-- Where somebody has joined: nothing has become available until the next reconciliation. -/
def initializeInventoryState (event : EventRecord) (inventory : InventorySnapshot) (table : InventoryTable) : InventoryTable := fun key =>
  if event.tracks key then
    match table key with
    | none => some ⟨inventory.available key, 0, Nat.zero_le _⟩
    | some row =>
      some ⟨min row.available (inventory.available key), min row.credits (inventory.available key), by have := row.bounded; omega⟩
  else table key

end InventoryTable

namespace Entries

def setWhere (entries : Entries) (which : WaitlistEntry → Bool) (status : WaitlistStatus) : Entries where
  rows := update entries.rows which fun row => { row with status }
  unique := nodup_update (fun _ => rfl) entries.unique

def notify (entries : Entries) (id : Nat) (now : Int) : Entries where
  rows := update entries.rows (fun row => row.id == id && row.status == .active) fun row => { row with status := .notified, notifiedAt := some now }
  unique := nodup_update (fun _ => rfl) entries.unique

def queueOrder (row other : WaitlistEntry) : Bool :=
  match row.confirmedAt, other.confirmedAt with
  | some first, some second => decide (first < second) || first == second && created row other
  | some _, none => true
  | none, some _ => false
  | none, none => created row other
where created (row other : WaitlistEntry) : Bool :=
  decide (row.createdAt < other.createdAt) || row.createdAt == other.createdAt && decide (row.id ≤ other.id)

def activeCandidates (entries : Entries) : List WaitlistEntry :=
  orderBy queueOrder (entries.rows.filter (·.status == .active))

end Entries

def WaitlistEntry.isLive (row : WaitlistEntry) : Bool := row.status == .pending || row.status == .active

structure ReconcileInput where
  event : EventRecord
  inventory : InventorySnapshot
  now : Int
  /-- `email_suppressions`, by the hash of the recipient. -/
  suppressed : Nat → Bool
  /-- Whether the alert of an entry is queued. -/
  delivers : Nat → Bool

/-- Those who can no longer be waiting. -/
def ReconcileInput.settleEntries (input : ReconcileInput) (entries : Entries) : Entries :=
  let ended := if input.event.terminalEvent input.now then entries.setWhere (·.isLive) .expired else entries
  let confirmed := ended.setWhere (fun row => row.status == .pending && decide (row.createdAt < input.now - 172800000)) .expired
  let deliverable := confirmed.setWhere (fun row => row.isLive && input.suppressed row.emailHash) .undeliverable
  deliverable.setWhere (fun row => row.scopeKind == .ticketType && row.ticketTypeId.isNone && row.isLive) .expired

/-- The loop over the selections. -/
structure Round where
  credits : Credits
  delivered : List NotificationSelection
  entries : Entries

def ReconcileInput.deliver (input : ReconcileInput) (round : Round) (selection : NotificationSelection) : Round :=
  if input.delivers selection.row.id then
    { round with delivered := round.delivered ++ [selection], entries := round.entries.notify selection.row.id input.now }
  else
    { round with
      credits := round.credits.giveBack input.inventory selection.capacityTypeId
      entries := round.entries.setWhere (fun row => row.id == selection.row.id && row.status == .active) .undeliverable }

structure WaitlistScopeImpact where
  ticketTypeId : Option Nat
  label : String
  count : Nat

structure WaitlistImpact where
  count : Nat
  scopes : List WaitlistScopeImpact

def impactFromSelections (selections : List NotificationSelection) : WaitlistImpact where
  count := selections.length
  scopes := selections.foldl (fun scopes selection =>
    if scopes.any (·.ticketTypeId == selection.row.ticketTypeId) then
      updateFirst scopes (·.ticketTypeId == selection.row.ticketTypeId) fun scope => { scope with count := scope.count + 1 }
    else scopes ++ [{ ticketTypeId := selection.row.ticketTypeId, label := selection.label, count := 1 }]) []

structure WaitlistState where
  entries : Entries
  table : InventoryTable

namespace ReconcileInput
variable (input : ReconcileInput) (state : WaitlistState)

def candidates : List WaitlistEntry := (input.settleEntries state.entries).activeCandidates

def opening : Credits := openCredits input.event input.inventory state.table.available state.table.credits

def plan : List NotificationSelection × Credits :=
  planNotifications input.event input.inventory state.table.available state.table.credits (input.candidates state)

def started : Round where
  credits := (input.plan state).2
  delivered := []
  entries := input.settleEntries state.entries

def round : Round := (input.plan state).1.foldl input.deliver (input.started state)

/-- What is stored, and what is reported. -/
def reconcileEventWaitlist : WaitlistState × WaitlistImpact :=
  let round := input.round state
  ({ entries := round.entries, table := .writeInventoryState input.event input.inventory round.credits }, impactFromSelections round.delivered)

end ReconcileInput

end MilkAndHenny.Waitlist

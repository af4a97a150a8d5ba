import MilkAndHenny.Library.Table

/-! The waitlist of an event: what is available, and whom it is offered to. Times are milliseconds
and ids are numbers. -/

namespace MilkAndHenny.Waitlist
open Library

inductive EventStatus where
  | draft | published | soldOut | cancelled | archived
deriving DecidableEq

structure TicketType where
  id : Nat
  name : String

/-- An instant that cannot be parsed is `none`. -/
structure EventRecord where
  status : EventStatus
  startsAt : Option Int
  endsAt : Option (Option Int) := none
  waitlistEnabled : Bool
  ticketTypes : List TicketType

/-- `scopeKey`: the event, or one of its ticket types. -/
inductive ScopeKey where
  | event
  | ticket (typeId : Nat)

/-- What `waitlistInventorySnapshot` counts. -/
structure InventorySnapshot where
  eventAvailable : Nat
  byType : List (Nat × Nat)
  sharedCapacityBinding : Bool

/-- `record[key] ?? 0`. -/
def countOf (counts : List (Nat × Nat)) (typeId : Nat) : Nat := (counts.lookup typeId).getD 0

def InventorySnapshot.available (inventory : InventorySnapshot) : ScopeKey → Nat
  | .event => inventory.eventAvailable
  | .ticket typeId => countOf inventory.byType typeId

namespace EventRecord

def isUpcoming (event : EventRecord) (now : Int) : Bool := (event.endsAt.getD event.startsAt).any (now ≤ ·)

def terminalEvent (event : EventRecord) (now : Int) : Bool :=
  event.status == .cancelled || event.status == .archived || !event.isUpcoming now

def tracks (event : EventRecord) : ScopeKey → Bool
  | .event => true
  | .ticket typeId => event.ticketTypes.any (·.id == typeId)

end EventRecord

inductive WaitlistStatus where
  | pending | active | notified | converted | left | expired | undeliverable
deriving DecidableEq

inductive ScopeKind where
  | event | ticketType
deriving DecidableEq

/-- `WaitlistRow`. -/
structure WaitlistEntry where
  id : Nat
  scopeKind : ScopeKind
  ticketTypeId : Option Nat
  scopeLabel : Option String
  emailHash : Nat
  status : WaitlistStatus
  confirmedAt : Option Int
  notifiedAt : Option Int
  createdAt : Int

structure NotificationSelection where
  row : WaitlistEntry
  label : String
  capacityTypeId : Nat

def usesCredit (typeId : Nat) : ScopeKey → Bool
  | .event => true
  | .ticket other => other == typeId

abbrev Credits := ScopeKey → Nat

namespace Credits

def spend (credits : Credits) (typeId : Nat) : Credits := fun key => if usesCredit typeId key then credits key - 1 else credits key

def giveBack (credits : Credits) (inventory : InventorySnapshot) (typeId : Nat) : Credits :=
  fun key => if usesCredit typeId key then min (inventory.available key) (credits key + 1) else credits key

def capacityTypeFor (credits : Credits) (event : EventRecord) (inventory : InventorySnapshot) (row : WaitlistEntry) : Option Nat :=
  if credits .event = 0 then none
  else
    match row.ticketTypeId with
    | some typeId => if credits (.ticket typeId) = 0 then none else some typeId
    | none =>
      (event.ticketTypes.find? fun type =>
        decide (0 < inventory.available (.ticket type.id)) && decide (0 < credits (.ticket type.id))).map (·.id)

end Credits

/-- `Math.max(0, current - previous)`. -/
def positiveDifference (current previous : Nat) : Nat := current - previous

section
variable (event : EventRecord) (inventory : InventorySnapshot)

def capacityDelta (previous : Credits) : Nat :=
  let typeDeltas := event.ticketTypes.map fun type => positiveDifference (inventory.available (.ticket type.id)) (previous (.ticket type.id))
  let eventDelta := positiveDifference inventory.eventAvailable (previous .event)
  if inventory.sharedCapacityBinding then typeDeltas.foldr max eventDelta else max eventDelta typeDeltas.sum

def openCredits (previous credits : Credits) : Credits
  | .event => min inventory.eventAvailable (credits .event + capacityDelta event inventory previous)
  | .ticket typeId =>
    if event.tracks (.ticket typeId) then
      min (inventory.available (.ticket typeId))
        (credits (.ticket typeId) + positiveDifference (inventory.available (.ticket typeId)) (previous (.ticket typeId)))
    else 0

def ticketTypeName (row : WaitlistEntry) : Option String :=
  ((event.ticketTypes.find? fun type => row.ticketTypeId == some type.id).map (·.name)).or row.scopeLabel

/-- The candidates in their order, each served where there is a credit left for it. -/
def serve (credits : Credits) : List WaitlistEntry → List NotificationSelection × Credits
  | [] => ([], credits)
  | row :: rows =>
    match credits.capacityTypeFor event inventory row with
    | none => serve credits rows
    | some capacityTypeId =>
      let served := serve (credits.spend capacityTypeId) rows
      ({ row, label := (ticketTypeName event row).getD "any ticket", capacityTypeId } :: served.1, served.2)

def planNotifications (previous credits : Credits) (candidates : List WaitlistEntry) : List NotificationSelection × Credits :=
  serve event inventory (openCredits event inventory previous credits) candidates

end

end MilkAndHenny.Waitlist

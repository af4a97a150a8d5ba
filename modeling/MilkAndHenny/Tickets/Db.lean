import MilkAndHenny.Tickets.Stripe

/-! The shop's database beside the provider's, and the counts that every capacity check reads. -/

namespace MilkAndHenny.Tickets
open Library

/-- What an observer of the shop writes down, latest first. No statement reads it. -/
inductive Entry where
  | claimed (session worker : Nat)
  | received (worker : Nat) (event : StripeEvent)
  | opened (dispute payment : Nat) (tickets : List Id)
  /-- The win of a dispute has been applied and made the tickets valid. -/
  | won (dispute : Nat) (tickets : List Id)
  | changed (tickets : List Id)

structure Db where
  events : List EventRow := []
  ticketTypes : List TicketTypeRow := []
  tickets : List Ticket := []
  participants : List Participant := []
  checkouts : List CheckoutSession := []
  exchanges : List TicketExchange := []
  exchangeRefunds : List ExchangeRefund := []
  refundAllocations : List RefundAllocation := []
  creditGrants : List CreditGrant := []
  creditRedemptions : List CreditRedemption := []
  stripe : Stripe := {}
  history : List Entry := []

/-- What keeps `ACTIVE_CHECKOUT_HOLD_SQL`: an unexpired checkout, or one whose payment is being handled. -/
def CheckoutSession.holds (row : CheckoutSession) (now : Nat) : Bool :=
  match row.status with
  | .creating | .pending => now < row.expiresAt
  | .paymentPending | .fulfilling | .paymentMismatch => true
  | _ => false

/-- `ACTIVE_EXCHANGE_HOLD_SQL`. -/
def ExchangeStatus.active : ExchangeStatus → Bool
  | .processing | .awaitingPayment | .refundPending => true
  | _ => false

def Ticket.soldFor (slug : Nat) (type email : Option Nat) (row : Ticket) : Bool :=
  row.eventSlug == slug && row.status == .valid && type.all (row.ticketTypeId == ·) && email.all (row.email == some ·)

namespace Db

def event (db : Db) (slug : Nat) : Option EventRow := db.events.find? (·.slug == slug)

def ticketType (db : Db) (slug id : Nat) : Option TicketTypeRow :=
  db.ticketTypes.find? fun row => row.eventSlug == slug && row.id == id

def ticket (db : Db) (id : Id) : Option Ticket := db.tickets.find? (·.id == id)

def exchange (db : Db) (id : Id) : Option TicketExchange := db.exchanges.find? (·.id == id)

def checkout (db : Db) (reference : Nat) : Option CheckoutSession := db.checkouts.find? (·.reference == reference)

def sold (db : Db) (slug : Nat) (type email : Option Nat) : Nat := db.tickets.countP (·.soldFor slug type email)

def countCheckoutHolds (db : Db) (now slug : Nat) (type email excludeReference : Option Nat) : Nat :=
  ((db.checkouts.filter fun row =>
    row.eventSlug == slug && type.all (row.ticketTypeId == ·) && email.all (row.email == ·) &&
      excludeReference.all (row.reference != ·) && row.holds now).map (·.quantity)).sum

def countExchangeHolds (db : Db) (slug : Nat) (type email : Option Nat) (order : Option Id) : Nat :=
  db.exchanges.countP fun row =>
    row.eventSlug == slug && type.all (row.toTicketTypeId == ·) &&
      (db.ticket row.ticketId).any (fun ticket => email.all (ticket.email == some ·)) &&
      order.all (row.orderId == ·) && row.status.active

end Db

end MilkAndHenny.Tickets

import MilkAndHenny.Library.Table

/-! The rows of the ticket shop, with the columns its workflows read. Slugs, email
hashes and the provider's own ids are numbers; money is in minor units and times
are milliseconds. -/

namespace MilkAndHenny.Tickets
variable {error : String} {status : Nat}

/-- A randomly drawn id. It sorts by its text; no two draws agree in both the
worker that drew it and the serial number of the draw. -/
structure Id where
  text : Nat
  worker : Nat
  serial : Nat
deriving DecidableEq

def Id.le (a b : Id) : Bool :=
  a.text < b.text || (a.text == b.text && (a.worker < b.worker || (a.worker == b.worker && a.serial ≤ b.serial)))

inductive Currency where
  | gbp
  | other (code : Nat)
deriving DecidableEq

inductive TicketStatus where
  | valid | void | refunded
deriving DecidableEq

inductive TicketKind where
  | paid | free | comp

inductive EventStatus where
  | draft | published | soldOut | cancelled
deriving DecidableEq

/-- What `tickets.refund_ref` may point at. -/
inductive RefundRef where
  | refund (id : Nat)
  | dispute (id : Nat)
  | payment (id : Nat)
  | checkout (reference : Nat)
  | exchange (id : Id)
  /-- `refund-group:` with the id of a per-ticket refund request. -/
  | group (request : Id)
  | order (refunds : List Nat)
  /-- Free text of a staff action. -/
  | note (text : Nat)
deriving DecidableEq

structure EventRow where
  slug : Nat
  capacity : Option Nat
  status : EventStatus
  startsAt : Nat
  endsAt : Option Nat
  doorsAt : Option Nat

structure TicketTypeRow where
  eventSlug : Nat
  id : Nat
  name : String
  priceMinor : Int
  currency : Currency
  quantity : Nat
  perPersonLimit : Nat
  salesStart : Option Nat
  salesEnd : Option Nat
  hidden : Bool

structure Ticket where
  id : Id
  eventSlug : Nat
  ticketTypeId : Nat
  kind : TicketKind
  status : TicketStatus
  email : Option Nat
  orderId : Id
  parentTicketId : Option Id
  issuedAt : Nat
  redeemedAt : Option Nat
  paymentRef : Option Nat
  checkoutRef : Option Nat
  amountPaidMinor : Option Int
  currency : Option Currency
  refundedAt : Option Nat
  refundRef : Option RefundRef

/-- `order by issued_at, id`. -/
def Ticket.le (a b : Ticket) : Bool :=
  a.issuedAt < b.issuedAt || (a.issuedAt == b.issuedAt && a.id.le b.id)

inductive ParticipantStatus where
  | active | refunded | void | disqualified | merged
deriving DecidableEq

structure Participant where
  id : Id
  eventSlug : Nat
  ticketId : Option Id
  status : ParticipantStatus

inductive CheckoutStatus where
  | creating | pending | paymentPending | fulfilling | paymentMismatch | fulfilled
  | failed | expired | refunded | refundPending | refundFailed | disputed
deriving DecidableEq

def CheckoutStatus.name : CheckoutStatus → String
  | .creating => "creating"
  | .pending => "pending"
  | .paymentPending => "payment_pending"
  | .fulfilling => "fulfilling"
  | .paymentMismatch => "payment_mismatch"
  | .fulfilled => "fulfilled"
  | .failed => "failed"
  | .expired => "expired"
  | .refunded => "refunded"
  | .refundPending => "refund_pending"
  | .refundFailed => "refund_failed"
  | .disputed => "disputed"

/-- `checkout_sessions.id`: a placeholder until the provider has answered. -/
inductive CheckoutId where
  | reservation (reference : Nat)
  | session (id : Nat)
deriving DecidableEq

structure CheckoutSession where
  id : CheckoutId
  eventSlug : Nat
  ticketTypeId : Nat
  quantity : Nat
  email : Nat
  amountMinor : Int
  amountAllocationsMinor : List Int
  creditDiscountMinor : Int
  currency : Currency
  reference : Nat
  status : CheckoutStatus
  expiresAt : Nat
  processingStartedAt : Option Nat
  paymentRef : Option Nat
  refundRef : Option RefundRef
  orderId : Option Id
  createdAt : Nat

inductive ExchangeStatus where
  | processing | awaitingPayment | refundPending | completed | failed | cancelled | expired
deriving DecidableEq

inductive ActorType where
  | purchaser | admin
deriving DecidableEq

structure TicketExchange where
  id : Id
  eventSlug : Nat
  orderId : Id
  ticketId : Id
  fromTicketTypeId : Nat
  toTicketTypeId : Nat
  actorType : ActorType
  status : ExchangeStatus
  amountDeltaMinor : Int
  currency : Currency
  checkoutRef : Option Nat
  paymentRef : Option Nat
  disputeRef : Option Nat
  createdAt : Nat
  completedAt : Option Nat

inductive SettlementStatus where
  | processing | pending | succeeded | failed | cancelled
deriving DecidableEq

/-- A row of `ticket_exchange_refunds`, keyed by exchange and payment. -/
structure ExchangeRefund where
  exchangeId : Id
  paymentRef : Nat
  amountMinor : Int
  status : SettlementStatus
  refundRef : Option Nat

/-- A row of `ticket_refund_allocations`. -/
structure RefundAllocation where
  id : Id
  requestId : Id
  ticketId : Id
  eventSlug : Nat
  paymentRef : Nat
  amountMinor : Int
  currency : Currency
  state : SettlementStatus
  refundRef : Option Nat

/-- A grant of `attendee_credit_grants` joined with its campaign. -/
structure CreditGrant where
  id : Nat
  email : Nat
  unitsTotal : Nat
  claimed : Bool
  revoked : Bool
  campaignActive : Bool
  amountMinor : Int
  currency : Currency
  redemptionEventSlug : Nat
  redeemExpiresAt : Option Nat

inductive RedemptionStatus where
  | reserved | redeemed | released
deriving DecidableEq

structure CreditRedemption where
  grantId : Nat
  checkoutReference : Nat
  eventSlug : Nat
  units : Nat
  unitAmountMinor : Int
  status : RedemptionStatus
  checkoutSessionId : Option Nat
  orderId : Option Id

/-- `TicketOpResult` when it is not ok. -/
structure OpError where
  status : Nat
  error : String

abbrev TicketOpResult (α : Type) : Type := Except OpError α

def refuse {α : Type} (status : Nat) (error : String) : TicketOpResult α := .error ⟨status, error⟩

def ensure (holds : Bool) (status : Nat) (error : String) : TicketOpResult Unit :=
  if holds then .ok () else refuse status error

def require {α : Type} (found : Option α) (status : Nat) (error : String) : TicketOpResult α :=
  match found with
  | some value => .ok value
  | none => refuse status error

theorem bind_ok_iff {α β : Type} {check : TicketOpResult α} {rest : α → TicketOpResult β} {value : β} :
    (check >>= rest) = .ok value ↔ ∃ passed, check = .ok passed ∧ rest passed = .ok value := by
  cases check with
  | error | ok => simp [bind, Except.bind]

@[simp] theorem ensure_ok_iff {holds : Bool} {passed : Unit} :
    ensure holds status error = .ok passed ↔ holds := by
  cases holds <;> simp [ensure, refuse]

@[simp] theorem require_ok_iff {α : Type} {found : Option α} {value : α} :
    require found status error = .ok value ↔ found = some value := by
  cases found <;> simp [require, refuse]

def soldOutMessage (name : String) : String := s!"{name} is sold out"

def limitMessage (limit : Nat) (subject name : String) : String := s!"Limit of {limit} per {subject} for {name}"

def leftMessage (available : Nat) : String := if available = 0 then "Sold out" else s!"Only {available} left"

def leftOfMessage (remaining : Nat) (name : String) : String := s!"Only {remaining} {name} left"

/-- `getCheckoutMinimumMinor`: only pounds have a minimum. -/
def Currency.minimumMinor : Currency → Option Int
  | .gbp => some 30
  | .other _ => none

/-- `isCheckoutTotalSupported` for one line. -/
def checkoutTotalSupported (total : Int) (currency : Currency) : Bool :=
  currency.minimumMinor.all (· ≤ total)

/-- Whether a new ticket may still be sold, as `ticketTypeSalesState` decides with nothing sold. -/
def onSale (event : EventRow) (type : TicketTypeRow) (now : Nat) : Bool :=
  event.status != .cancelled && event.status != .soldOut &&
  now ≤ event.endsAt.getD event.startsAt &&
  type.salesStart.all (· ≤ now) && type.salesEnd.all (now ≤ ·) && 0 < type.quantity

end MilkAndHenny.Tickets

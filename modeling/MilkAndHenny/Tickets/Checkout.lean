import MilkAndHenny.Tickets.Credits
import MilkAndHenny.Tickets.Store

/-! The checkout ledger: the reservation a checkout starts with, the claim that
lets one call fulfil it, and the updates that move its row between statuses. -/

namespace MilkAndHenny.Tickets
open Library

structure CheckoutRequest where
  eventSlug : Nat
  ticketTypeId : Nat
  email : Nat
  quantity : Nat
  reference : Nat

/-- What the reservation transaction hands on: the open session of an earlier
attempt, or the amounts to open one for. -/
inductive CheckoutReservation where
  | existing (session : CheckoutId)
  | reserved (ticketAmountsMinor : List Int) (currency : Currency)

def twoMinutes : Nat := 120000

namespace Db

def updateCheckout (db : Db) (which : CheckoutSession → Bool) (change : CheckoutSession → CheckoutSession) : Db :=
  { db with checkouts := update db.checkouts which change }

def updateSession (db : Db) (session : Nat) (change : CheckoutSession → CheckoutSession) : Db :=
  db.updateCheckout (·.id == .session session) change

def checkoutChanged (prior : CheckoutSession) (request : CheckoutRequest) : Bool :=
  prior.eventSlug != request.eventSlug || prior.ticketTypeId != request.ticketTypeId ||
    prior.quantity != request.quantity || prior.email != request.email

/-- The credits are reserved first; the amount they leave is checked afterwards, and
a refusal at that point still commits the reservation. -/
def reserveAmount (db : Db) (now : Nat) (type : TicketTypeRow) (request : CheckoutRequest)
    (prior : Option CheckoutSession) : TicketOpResult CheckoutReservation × Db :=
  let minimumChargeMinor := type.currency.minimumMinor.getD 0
  let (credit, db) := reserveCreditsForCheckout
    { checkoutReference := request.reference, email := request.email, eventSlug := request.eventSlug,
      quantity := request.quantity, ticketPriceMinor := type.priceMinor, currency := type.currency,
      minimumChargeMinor } now db
  let amountMinor := credit.ticketAmountsMinor.sum
  if prior.any (·.amountMinor != amountMinor) then (refuse 409 "This checkout request has changed", db)
  else if !checkoutTotalSupported amountMinor type.currency then
    (refuse 409 "Online payments must total at least £0.30", db)
  else
    let reply := .ok (.reserved credit.ticketAmountsMinor type.currency)
    match prior with
    | none =>
      (reply, { db with
        checkouts := db.checkouts ++ [
          { id := .reservation request.reference, eventSlug := request.eventSlug
            ticketTypeId := request.ticketTypeId, quantity := request.quantity, email := request.email
            amountMinor, amountAllocationsMinor := credit.ticketAmountsMinor
            creditDiscountMinor := credit.discountMinor, currency := type.currency
            reference := request.reference, status := .creating, expiresAt := now + twoMinutes
            processingStartedAt := none, paymentRef := none, refundRef := none, orderId := none
            createdAt := now }] })
    | some _ =>
      (reply, db.updateCheckout (·.reference == request.reference) fun row =>
        { row with
          status := .creating, amountMinor, amountAllocationsMinor := credit.ticketAmountsMinor
          creditDiscountMinor := credit.discountMinor, expiresAt := now + twoMinutes })

/-- The checks of the reservation transaction before it looks at the amount. -/
def checkCheckout (db : Db) (now : Nat) (request : CheckoutRequest) (event : EventRow) (type : TicketTypeRow) :
    TicketOpResult Unit := do
  let prior := db.checkout request.reference
  ensure (prior.all (·.status == .creating)) 409 "This checkout is no longer active. Start again."
  ensure (!type.hidden) 404 "Ticket type not found"
  ensure (decide (0 < type.priceMinor)) 400 "This ticket is free — no payment needed"
  ensure (onSale event type now) 409 "These tickets aren't on sale right now"
  ensure (request.quantity ≤ type.perPersonLimit) 409 (limitMessage type.perPersonLimit "person" type.name)
  ensure (prior.all (·.currency == type.currency)) 409 "This checkout request has changed"
  ensure (db.personHeld now request.eventSlug type.id request.email (some request.reference) + request.quantity ≤
    type.perPersonLimit) 409 (limitMessage type.perPersonLimit "person" type.name)
  ensure (request.quantity ≤ db.remaining now event type (some request.reference)) 409
    (leftMessage (db.remaining now event type (some request.reference)))

def openCheckout (db : Db) (now : Nat) (request : CheckoutRequest) : Option CheckoutSession :=
  (db.checkout request.reference).filter fun row => row.status == .pending && now < row.expiresAt

/-- The reservation transaction of `startCheckout`. -/
def reserveCheckout (db : Db) (now : Nat) (request : CheckoutRequest) : TicketOpResult CheckoutReservation × Db :=
  match db.event request.eventSlug, db.ticketType request.eventSlug request.ticketTypeId with
  | some event, some type =>
    if (db.checkout request.reference).any (checkoutChanged · request) then
      (refuse 409 "This checkout request has changed", db)
    else
      match db.openCheckout now request with
      | some row => (.ok (.existing row.id), db)
      | none =>
        match db.checkCheckout now request event type with
        | .error error => (.error error, db)
        | .ok () => db.reserveAmount now type request (db.checkout request.reference)
  | _, _ => (refuse 404 "Ticket type not found", db)

/-- The claim of `fulfilCheckout`: a waiting row, or one whose claim is older than two minutes. -/
def claimable (row : CheckoutSession) (now : Nat) : Bool :=
  match row.status with
  | .pending | .paymentPending => true
  | .fulfilling => row.processingStartedAt.any (· + twoMinutes < now)
  | _ => false

def claimCheckout (db : Db) (now session : Nat) : Option CheckoutSession × Db :=
  let which (row : CheckoutSession) : Bool := row.id == .session session && claimable row now
  (db.checkouts.find? which,
    db.updateCheckout which fun row => { row with status := .fulfilling, processingStartedAt := some now })

def findCheckoutForPayment (db : Db) (payment : Nat) (reference : Option Nat) : Option CheckoutSession :=
  (orderBy (fun a b => b.createdAt ≤ a.createdAt) (db.checkouts.filter fun row =>
    row.paymentRef == some payment || (row.paymentRef.isNone && reference == some row.reference))).head?

end Db

inductive CheckoutStatement : Type → Type where
  | reserve (request : CheckoutRequest) : CheckoutStatement (TicketOpResult CheckoutReservation)
  | failCreating (reference : Nat) : CheckoutStatement Unit
  | persistSession (reference session expiresAt : Nat) : CheckoutStatement (Option Bool)
  | findByReference (reference : Nat) : CheckoutStatement (Option CheckoutSession)
  | find (session : Nat) : CheckoutStatement (Option CheckoutSession)
  | claim (session : Nat) : CheckoutStatement (Option CheckoutSession)
  | setStatus (session : Nat) (status : CheckoutStatus) : CheckoutStatement Unit
  | releaseClaim (session : Nat) : CheckoutStatement Unit
  | setPaymentRef (session payment : Nat) : CheckoutStatement Unit
  | setRefunded (session : Nat) (settled : Bool) (refund : Option Nat) : CheckoutStatement Unit
  | setFulfilled (session : Nat) (order : Id) : CheckoutStatement Unit
  | expire (session : Nat) : CheckoutStatement (Option Nat)
  | findForPayment (payment : Nat) (reference : Option Nat) : CheckoutStatement (Option CheckoutSession)
  | cancel (checkout : CheckoutId) (payment : Nat) (settled : Bool) (refund : Option Nat) : CheckoutStatement Unit
  | markDisputed (checkout : CheckoutId) (payment dispute : Nat) : CheckoutStatement Unit
  | reopenWonDispute (payment dispute : Nat) : CheckoutStatement (Option CheckoutId)
  | updateRefundStatus (refund : Nat) (succeeded : Bool) : CheckoutStatement (Option Nat)

def refundedStatus (settled : Bool) : CheckoutStatus := if settled then .refunded else .refundPending

def CheckoutStatement.exec {β : Type} : CheckoutStatement β → Ctx → Db → β × Db
  | .reserve request, ctx, db => db.reserveCheckout ctx.now request
  | .failCreating reference, _, db =>
    ((), db.updateCheckout (fun row => row.reference == reference && row.status == .creating) fun row =>
      { row with status := .failed })
  | .persistSession reference session expiresAt, ctx, db =>
    let which (row : CheckoutSession) : Bool := row.reference == reference && row.status == .creating
    if ctx.fault then (none, db)
    else (some (db.checkouts.any which),
      db.updateCheckout which fun row => { row with id := .session session, expiresAt, status := .pending })
  | .findByReference reference, _, db => (db.checkout reference, db)
  | .find session, _, db => (db.checkouts.find? (·.id == .session session), db)
  | .claim session, ctx, db => db.claimCheckout ctx.now session
  | .setStatus session status, _, db =>
    ((), db.updateSession session fun row => { row with status, processingStartedAt := none })
  | .releaseClaim session, _, db =>
    ((), db.updateCheckout (fun row => row.id == .session session && row.status == .fulfilling) fun row =>
      { row with status := .paymentPending, processingStartedAt := none })
  | .setPaymentRef session payment, _, db =>
    ((), db.updateSession session fun row => { row with paymentRef := some payment })
  | .setRefunded session settled refund, _, db =>
    ((), db.updateSession session fun row =>
      { row with
        status := refundedStatus settled, refundRef := (refund.map .refund).orElse fun _ => row.refundRef
        processingStartedAt := none })
  | .setFulfilled session order, _, db =>
    ((), db.updateSession session fun row =>
      { row with status := .fulfilled, orderId := some order, processingStartedAt := none })
  | .expire session, _, db =>
    let which (row : CheckoutSession) : Bool :=
      row.id == .session session && (row.status == .pending || row.status == .paymentPending)
    ((db.checkouts.find? which).map (·.reference), db.updateCheckout which fun row => { row with status := .expired })
  | .findForPayment payment reference, _, db => (db.findCheckoutForPayment payment reference, db)
  | .cancel checkout payment settled refund, _, db =>
    ((), db.updateCheckout (fun row => row.id == checkout && row.status != .fulfilled) fun row =>
      { row with
        paymentRef := some payment, status := refundedStatus settled
        refundRef := (refund.map .refund).orElse fun _ => row.refundRef, processingStartedAt := none })
  | .markDisputed checkout payment dispute, _, db =>
    ((), db.updateCheckout (fun row => row.id == checkout && row.status != .fulfilled) fun row =>
      { row with
        paymentRef := some payment, status := .disputed, refundRef := some (.dispute dispute)
        processingStartedAt := none })
  | .reopenWonDispute payment dispute, _, db =>
    let which (row : CheckoutSession) : Bool :=
      row.paymentRef == some payment && row.status == .disputed && row.refundRef == some (.dispute dispute)
    ((db.checkouts.find? which).map (·.id),
      db.updateCheckout which fun row => { row with status := .pending, refundRef := none })
  | .updateRefundStatus refund succeeded, _, db =>
    let which (row : CheckoutSession) : Bool :=
      row.refundRef == some (.refund refund) && (row.status == .refundPending || row.status == .refundFailed)
    ((db.checkouts.find? which).map (·.reference),
      db.updateCheckout which fun row => { row with status := if succeeded then .refunded else .refundFailed })

end MilkAndHenny.Tickets

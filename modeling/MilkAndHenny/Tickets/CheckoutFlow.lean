import MilkAndHenny.Tickets.Statement

/-! Buying tickets: `startCheckout`, `issueTickets`, `fulfilCheckout` and the calls
that end a checkout without tickets. Checks of the submitted form come before all
of this and only refuse. -/

namespace MilkAndHenny.Tickets
open Library

def maxTicketsPerOrder : Nat := 10

def couldNotStart {α : Type} : TicketOpResult α := refuse 502 "Could not start checkout. Try again."

def finaliseCheckout (reference session expiresAt : Nat) : Flow (TicketOpResult CheckoutId) := do
  let undo : Flow (TicketOpResult CheckoutId) := do
    let _ ← stripe (.expireCheckoutSession session)
    checkout (.failCreating reference)
    credit (.release reference)
    return couldNotStart
  let attach : Flow (TicketOpResult CheckoutId) := do
    if ← credit (.attach reference session) then return .ok (.session session)
    else undo
  match ← checkout (.persistSession reference session expiresAt) with
  | none => undo
  | some true => attach
  | some false =>
    let current ← checkout (.findByReference reference)
    if current.any fun row => row.id == .session session && row.status == .pending then attach
    else undo

def startCheckout (request : CheckoutRequest) (expiresAt : Nat) : Flow (TicketOpResult CheckoutId) := do
  if request.quantity < 1 ∨ maxTicketsPerOrder < request.quantity then
    return refuse 400 "Choose between 1 and 10"
  match ← checkout (.reserve request) with
  | .error error => return .error error
  | .ok (.existing session) => return .ok session
  | .ok (.reserved amounts currency) =>
    match ← stripe (.createCheckoutSession (.checkout request.reference) amounts.sum currency) with
    | none =>
      checkout (.failCreating request.reference)
      credit (.release request.reference)
      return couldNotStart
    | some session => finaliseCheckout request.reference session expiresAt

def expireCheckout (session : Nat) : Flow Unit := do
  match ← checkout (.expire session) with
  | some reference => credit (.release reference)
  | none => return ()

structure IssueRequest where
  eventSlug : Nat
  ticketTypeId : Nat
  kind : TicketKind
  email : Option Nat
  quantity : Nat
  paymentRef : Option Nat
  checkoutRef : Option Nat
  capacityHoldReference : Option Nat
  amounts : Option (List Int)
  currency : Option Currency
  bypassSalesWindow : Bool
  bypassCapacity : Bool

/-- `none` is an exception of the database. -/
def issueTickets (request : IssueRequest) : Flow (Option (TicketOpResult (Id × List Ticket))) := do
  if request.quantity < 1 ∨ maxTicketsPerOrder < request.quantity then
    return some (refuse 400 "Choose between 1 and 10")
  match ← store (.getTicketType request.eventSlug request.ticketTypeId) with
  | none => return some (refuse 404 "Ticket type not found")
  | some type =>
    let refusal ← store (.checkSale request.eventSlug request.ticketTypeId)
    match if request.bypassSalesWindow then none else refusal with
    | some error => return some (.error error)
    | none =>
      if !request.bypassCapacity && type.perPersonLimit < request.quantity then
        return some (refuse 409 (limitMessage type.perPersonLimit "person" type.name))
      else if request.amounts.any fun amounts => amounts.length != request.quantity || amounts.any (· < 0) then
        return some (refuse 400 "Ticket payment allocations are invalid")
      else
        let amounts := request.amounts.elim (List.replicate request.quantity none) (·.map some)
        let outcome ← store (.insertTicketsWithCapacity
          { eventSlug := request.eventSlug, ticketTypeId := request.ticketTypeId, kind := request.kind
            email := request.email, paymentRef := request.paymentRef, checkoutRef := request.checkoutRef
            capacityHoldReference := request.capacityHoldReference, amountPaidMinor := none
            currency := some (request.currency.getD type.currency), bypassCapacity := request.bypassCapacity
            enforceSalesWindow := !request.bypassSalesWindow } amounts)
        return outcome.map fun
          | (order, .issued tickets) => .ok (order, tickets)
          | (_, .unknownType) => refuse 404 "Ticket type not found"
          | (_, .perPersonLimit limit) => refuse 409 (limitMessage limit "person" type.name)
          | (_, .notOnSale) => refuse 409 "These tickets aren't on sale right now"
          | (_, .soldOut remaining) =>
            refuse 409 (if remaining = 0 then soldOutMessage type.name else leftOfMessage remaining type.name)

inductive FulfilResult where
  | issued (tickets : List Ticket)
  | alreadyIssued
  | unknownSession
  | cancelled (status : CheckoutStatus)
  | awaitingPayment
  | refundedOversold
  | failed (error : String)
  | threw

/-- The paid total per ticket: as reserved, or split with the odd units on the first tickets. -/
def amountAllocations (row : CheckoutSession) : List Int :=
  if row.amountAllocationsMinor.length = row.quantity then row.amountAllocationsMinor
  else
    let base := row.amountMinor / max 1 (row.quantity : Int)
    let extra := row.amountMinor - base * row.quantity
    (List.range row.quantity).map fun index => base + if (index : Int) < extra then 1 else 0

/-- Another attempt may come: the claim is given back. -/
def retryLater (session : Nat) (error : String) : Flow FulfilResult := do
  checkout (.setStatus session .paymentPending)
  return .failed error

/-- What follows the refund of a payment that gets no tickets. -/
def recordRefund (session reference : Nat) (refund : Option RefundReply) (settled : Bool) : Flow FulfilResult := do
  checkout (.setRefunded session settled (refund.map (·.refundId)))
  credit (.release reference)
  return .refundedOversold

def rejected (reply : RefundReply) : Bool := reply.status == .failed || reply.status == .canceled

def refundRemainder (session payment reference : Nat) (remaining : Int) : Flow FulfilResult := do
  if remaining ≤ 0 then recordRefund session reference none true
  else
    match ← stripe (.refundPayment ⟨payment, some remaining, .preFulfil (.session session) remaining⟩) with
    | none => retryLater session "Refund failed at the payment provider"
    | some reply =>
      if rejected reply then retryLater session "Stripe could not process the remaining refund"
      else recordRefund session reference (some reply) (reply.status == .succeeded)

/-- The tickets could not be issued: the whole payment goes back. -/
def refundOversold (session payment reference : Nat) : Flow FulfilResult := do
  match ← stripe (.refundPayment ⟨payment, none, .oversold session⟩) with
  | none => retryLater session "Refund failed at the payment provider"
  | some reply =>
    if rejected reply then retryLater session "Stripe could not process the refund"
    else recordRefund session reference (some reply) (reply.status == .succeeded)

def issueOrRefund (row : CheckoutSession) (session payment : Nat) : Flow FulfilResult := do
  match ← store (.listTicketsForCheckout session) with
  | ticket :: _ =>
    checkout (.setFulfilled session ticket.orderId)
    credit (.redeem row.reference ticket.orderId)
    return .alreadyIssued
  | [] =>
    let issued ← issueTickets
      { eventSlug := row.eventSlug, ticketTypeId := row.ticketTypeId, kind := .paid, email := some row.email
        quantity := row.quantity, paymentRef := some payment, checkoutRef := some session
        capacityHoldReference := some row.reference, amounts := some (amountAllocations row)
        currency := some row.currency, bypassSalesWindow := true, bypassCapacity := false }
    match issued with
    | none =>
      checkout (.releaseClaim session)
      return .threw
    | some (.error _) => refundOversold session payment row.reference
    | some (.ok (order, tickets)) =>
      checkout (.setFulfilled session order)
      credit (.redeem row.reference order)
      return .issued tickets

/-- The call holds the claim and asks the provider about the payment. -/
def settleClaim (row : CheckoutSession) (session : Nat) : Flow FulfilResult := do
  match ← stripe (.retrieveSession session) with
  | none =>
    checkout (.setStatus session .pending)
    return .failed "Session could not be retrieved"
  | some view =>
    if !view.paid then
      checkout (.setStatus session (if view.complete then .paymentPending else .pending))
      return .awaitingPayment
    else if view.amountMinor ≠ row.amountMinor ∨ view.currency ≠ row.currency ∨
        view.reference ≠ .checkout row.reference then
      checkout (.setStatus session .paymentMismatch)
      return .failed "Paid session values do not match checkout"
    else
      match view.paymentIntentId with
      | none => retryLater session "Paid session has no PaymentIntent"
      | some payment =>
        checkout (.setPaymentRef session payment)
        if view.disputed then
          checkout (.setStatus session .disputed)
          return .cancelled .disputed
        else if 0 < view.amountRefundedMinor then
          refundRemainder session payment row.reference (row.amountMinor - view.amountRefundedMinor)
        else issueOrRefund row session payment

def fulfilCheckout (session : Nat) : Flow FulfilResult := do
  match ← checkout (.claim session) with
  | some row => settleClaim row session
  | none =>
    match ← checkout (.find session) with
    | none => return .unknownSession
    | some row =>
      match row.status with
      | .fulfilled => return .alreadyIssued
      | .expired | .refunded | .refundPending | .disputed => return .cancelled row.status
      | status =>
        let name := status.name
        return .failed s!"Checkout is {name}"

/-- A refund that arrived before fulfilment ends the checkout and sends back the rest. -/
def cancelUnfulfilledCheckout (payment : Nat) (reference : Option Nat) (amountRefundedMinor : Int) : Flow Unit := do
  match (← checkout (.findForPayment payment reference)).filter (·.status != .fulfilled) with
  | none => return ()
  | some row =>
    let remaining := max 0 (row.amountMinor - amountRefundedMinor)
    if remaining = 0 then
      checkout (.cancel row.id payment true none)
      credit (.release row.reference)
    else
      match ← stripe (.refundPayment ⟨payment, some remaining, .preFulfil row.id remaining⟩) with
      | none => return ()
      | some reply =>
        if rejected reply then return ()
        else
          checkout (.cancel row.id payment (reply.status == .succeeded) (some reply.refundId))
          credit (.release row.reference)

def markUnfulfilledCheckoutDisputed (payment : Nat) (reference : Option Nat) (dispute : Nat) : Flow Unit := do
  match (← checkout (.findForPayment payment reference)).filter (·.status != .fulfilled) with
  | none => return ()
  | some row => checkout (.markDisputed row.id payment dispute)

def updateCheckoutRefundStatus (refund : Nat) (status : RefundStatus) : Flow Unit := do
  if status = .pending then return ()
  else
    match ← checkout (.updateRefundStatus refund (status == .succeeded)) with
    | some reference => if status = .succeeded then credit (.release reference) else return ()
    | none => return ()

end MilkAndHenny.Tickets

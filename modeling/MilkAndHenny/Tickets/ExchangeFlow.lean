import MilkAndHenny.Tickets.RefundFlow

/-! Changing a ticket's type: an even change completes at once, a cheaper one after
its refunds, a dearer one after its payment. -/

namespace MilkAndHenny.Tickets
open Library

inductive ExchangeResult where
  | completed (exchange : Id)
  | refundPending (exchange : Id)
  | checkout (exchange : Id) (session : Nat)

inductive ExchangeOutcome where
  | pending
  | failed
  | complete (ticket : Id)

def allocateExchangeRefunds (row : TicketExchange) (originalPaymentRef : Option Nat) :
    Flow (TicketOpResult (List (Nat × Int))) := do
  let upgrades ← exchange (.orderUpgradePayments row.orderId)
  match ← allocatePayments "Could not verify the refundable balance"
      "The refundable payment balance is lower than this ticket's price difference"
      (distinct (upgrades.map Prod.snd ++ originalPaymentRef.toList)) row.amountDeltaMinor.natAbs with
  | .error error => return .error error
  | .ok allocations =>
    exchange (.insertRefunds row.id allocations)
    return .ok allocations

def requestExchangeRefunds (row : TicketExchange) : List (Nat × Int) → Bool → Bool → Flow (TicketOpResult Bool)
  | [], pending, _ => return .ok pending
  | (payment, amount) :: allocations, pending, refundStarted => do
    let failed (error : String) : Flow (TicketOpResult Bool) := do
      let _ ← exchange (.failRefund row.id payment refundStarted)
      return refuse 502 (if refundStarted then
        "Part of the refund succeeded, but Stripe could not finish it. Message us and we'll complete it." else error)
    match ← stripe (.refundPayment ⟨payment, some amount, .exchange row.id payment⟩) with
    | none => failed "Refund failed at the payment provider"
    | some reply =>
      if rejected reply then failed "Stripe could not process the partial refund"
      else
        exchange (.recordRefund row.id payment reply.refundId (reply.status == .succeeded))
        requestExchangeRefunds row allocations (pending || reply.status != .succeeded) true

/-- An exchange error of the database, which the caller does not catch. -/
def thrown {α : Type} : TicketOpResult α := refuse 500 "Ticket changed while its exchange was completing"

def completeNow (row : TicketExchange) : Flow (TicketOpResult ExchangeResult) := do
  if ← exchange (.complete row) then return .ok (.completed row.id)
  else return thrown

def refundDifference (row : TicketExchange) (ticket : Ticket) : Flow (TicketOpResult ExchangeResult) := do
  match ← allocateExchangeRefunds row ticket.paymentRef with
  | .error error =>
    let _ ← exchange (.setStatus row.id .failed)
    return .error error
  | .ok allocations =>
    match ← requestExchangeRefunds row allocations false false with
    | .error error => return .error error
    | .ok true =>
      if ← exchange (.setStatus row.id .refundPending) then return .ok (.refundPending row.id)
      else return thrown
    | .ok false =>
      let current ← exchange (.find row.id)
      if current.any (·.status == .completed) then return .ok (.completed row.id)
      else completeNow row

def collectDifference (row : TicketExchange) (ticket : Ticket) : Flow (TicketOpResult ExchangeResult) := do
  if !checkoutTotalSupported row.amountDeltaMinor row.currency then
    let _ ← exchange (.setStatus row.id .cancelled)
    return refuse 409 "The price difference must be at least £0.30"
  else if ticket.email.isNone then
    let _ ← exchange (.setStatus row.id .cancelled)
    return refuse 409 "Add an email address before creating a payment link"
  else
    match ← stripe (.createCheckoutSession (.exchange row.id) row.amountDeltaMinor row.currency) with
    | none =>
      let _ ← exchange (.setStatus row.id .failed)
      return couldNotStart
    | some session =>
      if ← exchange (.awaitPayment row.id session) then return .ok (.checkout row.id session)
      else return thrown

def beginTicketExchange (request : ExchangeRequest) : Flow (TicketOpResult ExchangeResult) := do
  match ← exchange (.reserve request) with
  | .error error => return .error error
  | .ok reserved =>
    if reserved.exchange.amountDeltaMinor = 0 then completeNow reserved.exchange
    else if reserved.exchange.amountDeltaMinor < 0 then refundDifference reserved.exchange reserved.ticket
    else collectDifference reserved.exchange reserved.ticket

/-- `none` where no exchange waits for the session. -/
def fulfilTicketExchangeCheckout (session : Nat) : Flow (Option ExchangeOutcome) := do
  match ← exchange (.findByCheckout session) with
  | none => return none
  | some row =>
    if row.status = .completed then return some (.complete row.ticketId)
    else if row.status ≠ .awaitingPayment then return some (if row.status.active then .pending else .failed)
    else
      match ← stripe (.retrieveSession session) with
      | none => return some .pending
      | some view =>
        match view.paymentIntentId with
        | none => return some .pending
        | some payment =>
          if view.amountMinor ≠ row.amountDeltaMinor ∨ view.currency ≠ row.currency ∨
              view.reference ≠ .exchange row.id then
            let _ ← exchange (.setStatus row.id .failed)
            return some .failed
          else
            let claimed ← exchange (.claimAndComplete row.id payment)
            return some (if claimed.isSome then .complete row.ticketId else .failed)

def completePendingExchangeRefund (refundId : Nat) (status : RefundStatus) (key : RefundKey) : Flow Bool := do
  match ← exchange (.findRefund refundId key) with
  | none => return false
  | some allocation =>
    match ← exchange (.find allocation.exchangeId) with
    | none => return false
    | some row =>
      let _ ← exchange (.settleRefund row allocation.paymentRef refundId status)
      return true

/-- A provider-side refund of an upgrade cannot leave the upgraded ticket valid. -/
def voidExchangePaymentRefund (payment : Nat) (reference : RefundRef) : Flow Bool := do
  match (← exchange (.findByPayment payment)).filter (·.status == .completed) with
  | none => return false
  | some row =>
    exchange (.setTicketValidity row false (some reference))
    return true

def voidExchangePaymentDispute (payment dispute : Nat) : Flow Bool := do
  match (← exchange (.findByPayment payment)).filter (·.status == .completed) with
  | none => return false
  | some row =>
    exchange (.setTicketValidity row false (some (.dispute dispute)))
    exchange (.setDispute row.id (some dispute))
    return true

def restoreExchangePaymentDispute (payment dispute : Nat) : Flow Bool := do
  match ← exchange (.findByDispute payment dispute) with
  | none => return false
  | some row =>
    exchange (.setTicketValidity row true none)
    exchange (.setDispute row.id none)
    return true

end MilkAndHenny.Tickets

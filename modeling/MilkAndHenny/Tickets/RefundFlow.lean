import MilkAndHenny.Tickets.CheckoutFlow

/-! Giving money back: `refundTicket` for one ticket, `refundOrder` for a whole
order, and the reconciliation of what the provider reports. -/

namespace MilkAndHenny.Tickets
open Library

structure RefundOutcome where
  pending : Bool
  refunded : Nat

/-- Take the amount from the payments in turn, as far as their balances go. -/
def allocatePayments (unverified short : String) : List Nat → Int → Flow (TicketOpResult (List (Nat × Int)))
  | [], remaining => do
    if 0 < remaining then return refuse 409 short
    else return .ok []
  | payment :: payments, remaining => do
    if remaining = 0 then return .ok []
    else
      match ← stripe (.retrievePaymentBalance payment) with
      | none => return refuse 502 unverified
      | some balance =>
        let amount := min remaining balance.remainingMinor
        match ← allocatePayments unverified short payments (remaining - amount) with
        | .error error => return .error error
        | .ok allocations => return .ok (if 0 < amount then (payment, amount) :: allocations else allocations)

def allocateTicketRefundPayments (ticket : Ticket) : Flow (TicketOpResult (List (Nat × Int))) := do
  match ticket.paymentRef, ticket.amountPaidMinor.filter (· ≠ 0) with
  | some payment, some amount =>
    let upgrades ← exchange (.ticketUpgradePayments ticket.id)
    allocatePayments "Could not verify the refundable payment balance"
      "The refundable balance is lower than this ticket's paid amount"
      (distinct (upgrades ++ [payment])) amount
  | _, _ => return refuse 400 "This ticket has no refundable payment"

/-- Request one refund per allocation. The first failure ends the request: it makes
the ticket valid again unless an earlier allocation went through. The answer tells
whether some refund is still pending. -/
def requestRefunds (prepared : PreparedRefund) : List RefundAllocation → Bool → Bool → Flow (TicketOpResult Bool)
  | [], pending, _ => return .ok pending
  | allocation :: allocations, pending, refundStarted => do
    let failed (error : String) : Flow (TicketOpResult Bool) := do
      refund (.failAllocation allocation.id prepared.ticket.id refundStarted)
      return refuse 502
        (if refundStarted then "Part of the refund completed, but the rest needs support review" else error)
    match ← stripe (.refundPayment ⟨allocation.paymentRef, some allocation.amountMinor,
        .ticket prepared.ticket.id prepared.requestId allocation.id⟩) with
    | none => failed "Refund failed at the payment provider"
    | some reply =>
      if rejected reply then failed "Stripe could not process the refund"
      else
        refund (.recordAllocation allocation.id (reply.status == .succeeded) reply.refundId)
        requestRefunds prepared allocations (pending || reply.status != .succeeded) true

def refundTicket (id : Id) : Flow (TicketOpResult RefundOutcome) := do
  match ← store (.getTicket id) with
  | none => return refuse 404 "Ticket not found"
  | some snapshot =>
    if snapshot.status = .refunded then return .ok ⟨false, 0⟩
    else if snapshot.status ≠ .valid ∨ snapshot.redeemedAt.isSome then
      return refuse 409 "This ticket is not refundable"
    else if snapshot.currency.isNone then return refuse 400 "This ticket has no refundable payment"
    else
      match ← allocateTicketRefundPayments snapshot with
      | .error error => return .error error
      | .ok allocations =>
        match ← refund (.prepare snapshot allocations) with
        | .error error => return .error error
        | .ok none => return .ok ⟨false, 0⟩
        | .ok (some prepared) =>
          match ← requestRefunds prepared prepared.allocations false false with
          | .error error => return .error error
          | .ok true => return .ok ⟨true, 1⟩
          | .ok false =>
            let updated ← store (.markTicketStatus prepared.ticket.id true (some (.group prepared.requestId)))
            return .ok ⟨false, updated.length⟩

def updateAllocatedTicketRefund (refundId : Nat) (status : RefundStatus) : Flow Bool := do
  if status = .pending then return false
  else
    match ← refund (.findAllocation refundId) with
    | none => return false
    | some existing =>
      if existing.state = .succeeded ∨ existing.state = .failed then return true
      else
        match ← refund (.settleAllocation refundId (status == .succeeded)) with
        | none => return false
        | some allocation =>
          let group ← refund (.requestAllocations allocation.requestId)
          if status = .succeeded then
            if group.any (·.state != .succeeded) then return true
            else
              let _ ← store (.markTicketStatus allocation.ticketId true (some (.group allocation.requestId)))
              return true
          else
            let siblings := group.filter (·.refundRef != some refundId)
            if siblings.any fun row => row.state != .failed && row.state != .cancelled then return true
            else
              refund (.restoreTicket allocation.ticketId)
              refund (.restoreParticipant allocation.ticketId)
              return true

def reconcilePaymentRefunds (payment : Nat) (authoritativeAmountMinor : Int) : Flow Int := do
  let refunds ← stripe (.listPaymentRefunds payment)
  let succeeded := refunds.filter (·.status == .succeeded)
  let amountRefundedMinor := max authoritativeAmountMinor (succeeded.map (·.amountMinor)).sum
  if amountRefundedMinor = 0 then return 0
  else
    let exchangeRefundedMinor ← exchange (.refundTotalForPayment payment)
    let cancellationRefundedMinor := max 0 (amountRefundedMinor - exchangeRefundedMinor)
    if cancellationRefundedMinor = 0 then return amountRefundedMinor
    else
      let refundRef := (succeeded.getLast?.map fun row => RefundRef.refund row.id).getD (.payment payment)
      let _ ← store (.markOrderRefunded payment refundRef cancellationRefundedMinor)
      return amountRefundedMinor

def expireExchanges : List TicketExchange → Flow (TicketOpResult Unit)
  | [] => return .ok ()
  | row :: rows => do
    let unpaid ← match row.checkoutRef with
      | none => pure false
      | some session => stripe (.expireCheckoutSession session)
    if unpaid then
      exchange (.cancelAwaiting row.id)
      expireExchanges rows
    else
      return refuse 409
        "A ticket upgrade may already be paid. Refresh the ticket before refunding this order."

def cancelAwaitingOrderExchanges (order : Id) : Flow (TicketOpResult Unit) := do
  let active ← exchange (.listActive order)
  if active.any (·.status != .awaitingPayment) then
    return refuse 409 "A ticket change is processing. Wait for it to finish before refunding this order."
  else expireExchanges active

def refundPayments (order : Id) : List (Option Id × Nat) → List RefundReply → Bool → Flow (TicketOpResult (List RefundReply))
  | [], refunds, _ => return .ok refunds
  | (exchangeId, payment) :: payments, refunds, refundStarted => do
    let fail (error : String) (started : Bool) : Flow (TicketOpResult (List RefundReply)) := do
      if started then
        let _ ← store (.markTicketOrderRefundPending order (.order (refunds.map (·.refundId))))
        return refuse 502 error
      else return refuse 502 error
    match ← stripe (.retrievePaymentBalance payment) with
    | none => fail "Could not verify the refundable balance" refundStarted
    | some balance =>
      let started := refundStarted || 0 < balance.amountRefundedMinor
      if balance.remainingMinor = 0 then refundPayments order payments refunds started
      else
        match ← stripe (.refundPayment ⟨payment, some balance.remainingMinor, .order order exchangeId⟩) with
        | none => fail "Refund failed at the payment provider" started
        | some reply =>
          if rejected reply then fail "Stripe could not process the refund" started
          else refundPayments order payments (refunds ++ [reply]) true

def refundOrder (id : Id) (selfServe : Bool) : Flow (TicketOpResult RefundOutcome) := do
  match ← store (.getTicket id) with
  | none => return refuse 404 "Ticket not found"
  | some anchor =>
    if selfServe && anchor.parentTicketId.isSome then
      return refuse 403 "Only the purchaser ticket can refund this order"
    else
      match anchor.paymentRef with
      | none => return refuse 400 "This ticket was not paid for"
      | some purchase =>
        let tickets ← store (.listTicketsForOrder anchor.orderId)
        if tickets.any (·.redeemedAt.isSome) then
          return refuse 409 "Someone on this order has already checked in — message us and we'll sort it."
        else if tickets.all (·.status == .refunded) then return .ok ⟨false, 0⟩
        else
          match ← cancelAwaitingOrderExchanges anchor.orderId with
          | .error error => return .error error
          | .ok () =>
            let upgrades ← exchange (.orderUpgradePayments anchor.orderId)
            let payments := upgrades.map (fun row => (some row.1, row.2)) ++ [(none, purchase)]
            match ← refundPayments anchor.orderId payments [] false with
            | .error error => return .error error
            | .ok refunds =>
              let reference := RefundRef.order (refunds.map (·.refundId))
              if refunds.any (·.status != .succeeded) then
                let pending ← store (.markTicketOrderRefundPending anchor.orderId reference)
                return .ok ⟨true, pending.length⟩
              else
                let updated ← store (.markTicketOrderRefunded anchor.orderId reference)
                return .ok ⟨false, updated.length⟩

end MilkAndHenny.Tickets

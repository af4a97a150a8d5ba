import MilkAndHenny.Tickets.ExchangeFlow

/-! The webhook that orchestrates the provider's events, and the requests that the
pool of workers serves. -/

namespace MilkAndHenny.Tickets
open Library

/-- `charge.metadata.checkoutReference`, which an exchange fills with its own id. -/
def Reference.checkoutReference : Reference → Option Nat
  | .checkout reference => some reference
  | .exchange _ => none

def Reference.refundRef : Reference → RefundRef
  | .checkout reference => .checkout reference
  | .exchange id => .exchange id

def handleStripeWebhookEvent : StripeEvent → Flow Unit
  | .sessionCompleted session => do
    match ← fulfilTicketExchangeCheckout session with
    | some _ => return ()
    | none =>
      let _ ← fulfilCheckout session
  | .sessionExpired session => do
    if ← exchange (.expire session) then return ()
    else expireCheckout session
  | .chargeRefunded payment reference amountRefunded _ => do
    if ← voidExchangePaymentRefund payment reference.refundRef then return ()
    else
      let reconciled ← reconcilePaymentRefunds payment amountRefunded
      cancelUnfulfilledCheckout payment reference.checkoutReference (max amountRefunded reconciled)
  | .refundUpdated refund status payment key => do
    updateCheckoutRefundStatus refund status
    let allocated ← updateAllocatedTicketRefund refund status
    if ← completePendingExchangeRefund refund status key then return ()
    else if allocated then return ()
    else if status = .succeeded then
      let _ ← reconcilePaymentRefunds payment 0
    else if status = .failed then
      let _ ← store (.markRefundFailed (.refund refund))
  | .disputeCreated dispute payment => do
    if ← voidExchangePaymentDispute payment dispute then return ()
    else
      match ← stripe (.retrievePaymentMetadata payment) with
      | none => return ()
      | some reference =>
        markUnfulfilledCheckoutDisputed payment reference.checkoutReference dispute
        let _ ← store (.markOrderDisputed payment dispute)
  | .disputeClosed _ _ false => return ()
  | .disputeClosed dispute payment true => do
    if ← restoreExchangePaymentDispute payment dispute then return ()
    else
      let _ ← store (.restoreDisputedTickets payment dispute)
      match ← checkout (.reopenWonDispute payment dispute) with
      | some (.session session) =>
        let _ ← fulfilCheckout session
      | _ => return ()

inductive Request where
  | startCheckout (request : CheckoutRequest) (expiresAt : Nat)
  | pollCheckout (session : Nat)
  /-- Issuance by staff, which names no payment and no checkout. -/
  | issueTickets (request : IssueRequest)
  | beginTicketExchange (request : ExchangeRequest)
  | resolveTicketExchange (session : Nat)
  | refundTicket (ticket : Id)
  | refundOrder (ticket : Id) (selfServe : Bool)
  | voidTicket (ticket : Id) (refunded : Bool) (note : Option Nat)
  | redeemTicket (ticket : Id)
  | unredeemTicket (ticket : Id)
  | claimCredit (grant : Nat)
  | updateTicketType (row : TicketTypeRow)
  | deliver (event : Nat)
  /-- A step that the provider or its customers take by themselves. -/
  | provider (op : StripeStatement Unit)

def discard {α : Type} (flow : Flow α) : Flow (Option StripeEvent) := flow.bind fun _ => .done none

/-- The answer is the event that the webhook acknowledges. -/
def serve : Request → Flow (Option StripeEvent)
  | .startCheckout request expiresAt => discard (startCheckout request expiresAt)
  | .pollCheckout session => discard (fulfilCheckout session)
  | .issueTickets request => discard (issueTickets { request with paymentRef := none, checkoutRef := none })
  | .beginTicketExchange request => discard (beginTicketExchange request)
  | .resolveTicketExchange session => discard (fulfilTicketExchangeCheckout session)
  | .refundTicket ticket => discard (refundTicket ticket)
  | .refundOrder ticket selfServe => discard (refundOrder ticket selfServe)
  | .voidTicket ticket refunded note => discard (store (.markTicketStatus ticket refunded (note.map .note)))
  | .redeemTicket ticket => discard (store (.claimRedemption ticket))
  | .unredeemTicket ticket => discard (store (.releaseRedemption ticket))
  | .claimCredit grant => discard (credit (.claimGrant grant))
  | .updateTicketType row => discard (store (.updateTicketType row))
  | .deliver event => do
    match ← stripe (.receive event) with
    | some event =>
      handleStripeWebhookEvent event
      return some event
    | none => return none
  | .provider op => discard (stripe op)

def shop (db : Db) : Pool Statement (Option StripeEvent) Db := { db, workers := [] }

abbrev serveAll (provider : Provider) (db : Db) (events : List (Event Request Ctx)) : Pool Statement (Option StripeEvent) Db :=
  (shop db).run (engine provider) serve events

def call (worker : Nat) (request : Request) (count : Nat) : List (Event Request Ctx) :=
  .start request :: List.replicate count (.step worker {})

def oneType (capacity : Option Nat) (quantity : Nat) : Db where
  events := [{ slug := 0, capacity, status := .published, startsAt := 1000, endsAt := none, doorsAt := none }]
  ticketTypes := [{ eventSlug := 0, id := 0, name := "Entry", priceMinor := 1000, currency := .gbp, quantity,
                    perPersonLimit := 4, salesStart := none, salesEnd := none, hidden := false }]

end MilkAndHenny.Tickets

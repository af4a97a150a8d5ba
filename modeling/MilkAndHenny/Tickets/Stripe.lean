import MilkAndHenny.Tickets.Records

/-! The payment provider, as far as the shop can observe it: sessions, payments,
refunds, disputes and the events it has sent. The provider acts on its own at any
moment; what it does not promise is read from the context of the call. -/

namespace MilkAndHenny.Tickets
open Library

/-- The `checkoutReference` that a session and its payment carry as metadata. -/
inductive Reference where
  | checkout (reference : Nat)
  | exchange (id : Id)
deriving DecidableEq

inductive SessionStatus where
  | opened | complete | expired
deriving DecidableEq

structure Session where
  id : Nat
  reference : Reference
  amountMinor : Int
  currency : Currency
  status : SessionStatus
  paymentIntentId : Option Nat

structure Payment where
  id : Nat
  reference : Reference
  amountMinor : Int
  currency : Currency

inductive RefundStatus where
  | pending | succeeded | failed | canceled
deriving DecidableEq

/-- The `reference` a refund is requested under, which is its idempotency key.
A refund made in the provider's own dashboard has none. -/
inductive RefundKey where
  | preFulfil (checkout : CheckoutId) (remaining : Int)
  | oversold (session : Nat)
  | ticket (ticket request allocation : Id)
  | exchange (exchange : Id) (payment : Nat)
  | order (order : Id) (exchange : Option Id)
  | outside
deriving DecidableEq

structure Refund where
  id : Nat
  paymentIntentId : Nat
  amountMinor : Int
  status : RefundStatus
  key : RefundKey
  /-- The status first answered, which a repeated request gets again. -/
  answered : RefundStatus

inductive DisputeStatus where
  | opened | won | lost
deriving DecidableEq

structure Dispute where
  id : Nat
  paymentIntentId : Nat
  status : DisputeStatus

/-- A webhook event with the snapshot it carries. `cause` is the refund that made
the provider send a `charge.refunded`; the shop never sees it. -/
inductive StripeEvent where
  | sessionCompleted (session : Nat)
  | sessionExpired (session : Nat)
  | chargeRefunded (payment : Nat) (reference : Reference) (amountRefunded : Int) (cause : Nat)
  | refundUpdated (refund : Nat) (status : RefundStatus) (payment : Nat) (key : RefundKey)
  | disputeCreated (dispute payment : Nat)
  | disputeClosed (dispute payment : Nat) (won : Bool)

structure Stripe where
  sessions : List Session := []
  payments : List Payment := []
  refunds : List Refund := []
  disputes : List Dispute := []
  events : List StripeEvent := []

/-- How a request to the provider ends: answered, refused without effect, or
carried out with the answer lost on the way. -/
inductive Answer where
  | answered | refused | lost
deriving DecidableEq

/-- What a call reads besides the tables. -/
structure Ctx where
  now : Nat := 0
  /-- The text of the ids that the call draws. -/
  draw : Nat → Nat := fun serial => serial
  answer : Answer := .answered
  refundStatus : RefundStatus := .succeeded
  wonDisputeShown : Bool := false
  /-- Whether a statement of the database fails for a reason of its own. -/
  fault : Bool := false
  /-- Whether the transfer tables stop the refund of a ticket. -/
  transferRefuses : Bool := false

def Ctx.ids (ctx : Ctx) (worker serial : Nat) : Id := ⟨ctx.draw serial, worker, serial⟩

structure SessionView where
  paid : Bool
  complete : Bool
  paymentIntentId : Option Nat
  amountMinor : Int
  currency : Currency
  reference : Reference
  amountRefundedMinor : Int
  disputed : Bool

structure PaymentBalance where
  amountMinor : Int
  amountRefundedMinor : Int
  remainingMinor : Int

structure RefundRequest where
  paymentIntentId : Nat
  amountMinor : Option Int
  key : RefundKey

structure RefundReply where
  refundId : Nat
  status : RefundStatus

/-- Requests of the shop to the provider, and what the provider does by itself. -/
inductive StripeStatement : Type → Type where
  | createCheckoutSession (reference : Reference) (amount : Int) (currency : Currency) :
      StripeStatement (Option Nat)
  | expireCheckoutSession (session : Nat) : StripeStatement Bool
  | refundPayment (request : RefundRequest) : StripeStatement (Option RefundReply)
  | retrieveSession (session : Nat) : StripeStatement (Option SessionView)
  | retrievePaymentBalance (payment : Nat) : StripeStatement (Option PaymentBalance)
  | listPaymentRefunds (payment : Nat) : StripeStatement (List Refund)
  | retrievePaymentMetadata (payment : Nat) : StripeStatement (Option Reference)
  | receive (event : Nat) : StripeStatement (Option StripeEvent)
  | completeSession (session : Nat) (paid : Bool) : StripeStatement Unit
  | lapseSession (session : Nat) : StripeStatement Unit
  | refundInDashboard (payment : Nat) (amount : Int) : StripeStatement Unit
  | settleRefund (refund : Nat) (status : RefundStatus) : StripeStatement Unit
  | openDispute (payment : Nat) : StripeStatement Unit
  | closeDispute (dispute : Nat) (won : Bool) : StripeStatement Unit
  | send (event : StripeEvent) : StripeStatement Unit

namespace Stripe

def payment (stripe : Stripe) (id : Nat) : Option Payment := stripe.payments.find? (·.id == id)

def reference (stripe : Stripe) (payment : Nat) : Option Reference := (stripe.payment payment).map (·.reference)

def disputed (stripe : Stripe) (dispute : Nat) : Option Nat :=
  (stripe.disputes.find? (·.id == dispute)).map (·.paymentIntentId)

/-- What the shop may remember of the provider. -/
structure Grows (stripe after : Stripe) : Prop where
  reference : ∀ payment reference, stripe.reference payment = some reference → after.reference payment = some reference
  disputed : ∀ dispute payment, stripe.disputed dispute = some payment → after.disputed dispute = some payment

/-- What an event tells for good. -/
def Told (stripe : Stripe) : StripeEvent → Prop
  | .disputeCreated dispute payment | .disputeClosed dispute payment _ => stripe.disputed dispute = some payment
  | _ => True

def disputeOpen (stripe : Stripe) (dispute : Nat) : Bool :=
  stripe.disputes.any fun row => row.id == dispute && row.status == .opened

end Stripe

/-- What the shop relies on of the provider: its answers are so, and what it has told stays so. -/
structure Provider where
  exec : {β : Type} → StripeStatement β → Ctx → Stripe → β × Stripe
  /-- What is so at any moment. -/
  sane : Stripe → Prop
  stays : ∀ {β : Type} (op : StripeStatement β) ctx stripe, sane stripe → sane (exec op ctx stripe).2
  grows : ∀ {β : Type} (op : StripeStatement β) ctx stripe, sane stripe → stripe.Grows (exec op ctx stripe).2
  /-- A dispute that has been closed is not opened again. -/
  closed : ∀ {β : Type} (op : StripeStatement β) ctx stripe dispute payment, sane stripe → stripe.disputed dispute = some payment →
    (exec op ctx stripe).2.disputeOpen dispute → stripe.disputeOpen dispute
  /-- A paid session is shown with the reference of its payment. -/
  retrieved : ∀ session ctx stripe view payment, sane stripe → (exec (.retrieveSession session) ctx stripe).1 = some view →
    view.paymentIntentId = some payment → (exec (.retrieveSession session) ctx stripe).2.reference payment = some view.reference
  received : ∀ index ctx stripe event, sane stripe → (exec (.receive index) ctx stripe).1 = some event →
    (exec (.receive index) ctx stripe).2.Told event

end MilkAndHenny.Tickets

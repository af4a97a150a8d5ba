import MilkAndHenny.Library.Contract
import MilkAndHenny.Tickets.Webhook

/-! Which parts of the shop each workflow touches. -/

namespace MilkAndHenny.Tickets
open Library Library.Program

/-- The part of the shop that a statement belongs to. What ties tickets to payments or
to disputes stands apart. -/
inductive Part where
  | stripe | credit | checkout | issue | store | dispute | upgrade | validity | exchange | refund
deriving DecidableEq

def StoreStatement.part {β : Type} : StoreStatement β → Part
  | .insertTicketsWithCapacity _ _ => .issue
  | .markOrderDisputed _ _ => .dispute
  | .markTicketStatus _ false (some (.dispute _)) => .dispute
  | .markTicketOrderRefundPending _ (.dispute _) => .dispute
  | .markRefundFailed (.dispute _) => .dispute
  | _ => .store

def ExchangeStatement.part {β : Type} : ExchangeStatement β → Part
  | .claimAndComplete _ _ => .upgrade
  | .setTicketValidity _ _ _ => .validity
  | _ => .exchange

def Statement.part {β : Type} : Statement β → Part
  | .stripe _ => .stripe
  | .credit _ => .credit
  | .checkout _ => .checkout
  | .store op => op.part
  | .exchange op => op.part
  | .refund _ => .refund

/-- The workflow makes statements of these parts only. -/
def Within {α : Type} (parts : List Part) (flow : Flow α) : Prop := flow.makes fun op => parts.contains op.part

namespace Within

variable {α β : Type} {parts more : List Part} {flow : Flow α}

theorem mono (within : Within parts flow) (fewer : parts ⊆ more) : Within more flow :=
  makes_mono within fun _ listed => contains_iff_mem.mpr (fewer (contains_iff_mem.mp listed))

theorem bind {next : α → Flow β} (first : Within parts flow) (rest : ∀ value, Within parts (next value)) :
    Within parts (flow.bind next) := makes_bind first rest

theorem perform {op : Statement α} (listed : parts.contains op.part) : Within parts (.perform op) :=
  ⟨listed, fun _ => trivial⟩

theorem done (value : α) : Within parts (.done value) := trivial

end Within

/-! Each workflow in turn; the ones it calls come first. -/

theorem startCheckout_within (request : CheckoutRequest) (expiresAt : Nat) :
    Within [.stripe, .checkout, .credit] (startCheckout request expiresAt) := by
  unfold startCheckout finaliseCheckout
  repeat' first | exact .perform rfl | exact .done _ | refine .bind ?_ fun _ => ?_ | split

theorem expireCheckout_within (session : Nat) : Within [.checkout, .credit] (expireCheckout session) := by
  repeat' first | exact .perform rfl | exact .done _ | refine .bind ?_ fun _ => ?_ | split

theorem refundRemainder_within (session payment reference : Nat) (remaining : Int) :
    Within [.stripe, .checkout, .credit] (refundRemainder session payment reference remaining) := by
  unfold refundRemainder recordRefund retryLater
  repeat' first | exact .perform rfl | exact .done _ | refine .bind ?_ fun _ => ?_ | split

theorem refundOversold_within (session payment reference : Nat) :
    Within [.stripe, .checkout, .credit] (refundOversold session payment reference) := by
  repeat' first | exact .perform rfl | exact .done _ | refine .bind ?_ fun _ => ?_ | split

theorem cancelUnfulfilledCheckout_within (payment : Nat) (reference : Option Nat) (amount : Int) :
    Within [.stripe, .checkout, .credit] (cancelUnfulfilledCheckout payment reference amount) := by
  repeat' first | exact .perform rfl | exact .done _ | refine .bind ?_ fun _ => ?_ | split | dsimp only

theorem markUnfulfilledCheckoutDisputed_within (payment : Nat) (reference : Option Nat) (dispute : Nat) :
    Within [.checkout] (markUnfulfilledCheckoutDisputed payment reference dispute) := by
  repeat' first | exact .perform rfl | exact .done _ | refine .bind ?_ fun _ => ?_ | split

theorem updateCheckoutRefundStatus_within (refund : Nat) (status : RefundStatus) :
    Within [.checkout, .credit] (updateCheckoutRefundStatus refund status) := by
  unfold updateCheckoutRefundStatus
  repeat' first | exact .perform rfl | exact .done _ | refine .bind ?_ fun _ => ?_ | split

theorem allocatePayments_within (unverified short : String) (payments : List Nat) (remaining : Int) :
    Within [.stripe] (allocatePayments unverified short payments remaining) := by
  induction payments generalizing remaining with
  | nil =>
    unfold allocatePayments
    split <;> exact .done _
  | cons payment payments ih =>
    unfold allocatePayments
    repeat' first | exact ih _ | exact .perform rfl | exact .done _ | refine .bind ?_ fun _ => ?_ | split

theorem requestRefunds_within (prepared : PreparedRefund) (rows : List RefundAllocation) (pending started : Bool) :
    Within [.stripe, .refund] (requestRefunds prepared rows pending started) := by
  induction rows generalizing pending started with
  | nil => exact .done _
  | cons row rows ih =>
    repeat' first | exact ih _ _ | exact .perform rfl | exact .done _ | refine .bind ?_ fun _ => ?_ | split

theorem refundTicket_within (id : Id) : Within [.stripe, .store, .exchange, .refund] (refundTicket id) := by
  unfold refundTicket allocateTicketRefundPayments
  repeat' first
    | exact .perform rfl
    | exact .done _
    | exact (allocatePayments_within ..).mono (by decide)
    | exact (requestRefunds_within ..).mono (by decide)
    | refine .bind ?_ fun _ => ?_
    | split

theorem updateAllocatedTicketRefund_within (refund : Nat) (status : RefundStatus) :
    Within [.store, .refund] (updateAllocatedTicketRefund refund status) := by
  unfold updateAllocatedTicketRefund
  repeat' first | exact .perform rfl | exact .done _ | refine .bind ?_ fun _ => ?_ | split | dsimp only

theorem reconcilePaymentRefunds_within (payment : Nat) (amount : Int) :
    Within [.stripe, .store, .exchange] (reconcilePaymentRefunds payment amount) := by
  repeat' first | exact .perform rfl | exact .done _ | refine .bind ?_ fun _ => ?_ | split | dsimp only

theorem expireExchanges_within (rows : List TicketExchange) : Within [.stripe, .exchange] (expireExchanges rows) := by
  induction rows with
  | nil => exact .done _
  | cons row rows ih =>
    unfold expireExchanges
    repeat' first | exact ih | exact .perform rfl | exact .done _ | refine .bind ?_ fun _ => ?_ | split | dsimp only

theorem refundPayments_within (order : Id) (payments : List (Option Id × Nat)) (refunds : List RefundReply)
    (started : Bool) : Within [.stripe, .store] (refundPayments order payments refunds started) := by
  induction payments generalizing refunds started with
  | nil => exact .done _
  | cons payment payments ih =>
    repeat' first | exact ih _ _ | exact .perform rfl | exact .done _ | refine .bind ?_ fun _ => ?_ | split | dsimp only

theorem refundOrder_within (id : Id) (selfServe : Bool) :
    Within [.stripe, .store, .exchange] (refundOrder id selfServe) := by
  repeat' first
    | exact .perform rfl
    | exact .done _
    | exact (expireExchanges_within _).mono (by decide)
    | exact (refundPayments_within ..).mono (by decide)
    | refine .bind ?_ fun _ => ?_
    | split

theorem requestExchangeRefunds_within (row : TicketExchange) (allocations : List (Nat × Int)) (pending started : Bool) :
    Within [.stripe, .exchange] (requestExchangeRefunds row allocations pending started) := by
  induction allocations generalizing pending started with
  | nil => exact .done _
  | cons allocation allocations ih =>
    repeat' first | exact ih _ _ | exact .perform rfl | exact .done _ | refine .bind ?_ fun _ => ?_ | split

theorem beginTicketExchange_within (request : ExchangeRequest) :
    Within [.stripe, .exchange] (beginTicketExchange request) := by
  unfold beginTicketExchange completeNow refundDifference collectDifference allocateExchangeRefunds
  repeat' first
    | exact .perform rfl
    | exact .done _
    | exact (allocatePayments_within ..).mono (by decide)
    | exact requestExchangeRefunds_within ..
    | refine .bind ?_ fun _ => ?_
    | split

theorem completePendingExchangeRefund_within (refund : Nat) (status : RefundStatus) (key : RefundKey) :
    Within [.exchange] (completePendingExchangeRefund refund status key) := by
  repeat' first | exact .perform rfl | exact .done _ | refine .bind ?_ fun _ => ?_ | split

end MilkAndHenny.Tickets

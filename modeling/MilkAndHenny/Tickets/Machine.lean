import MilkAndHenny.Tickets.Stripe

/-! A provider that keeps its promises, with one payment for each paid session, and refunds that
fit what is left of a payment. -/

namespace MilkAndHenny.Tickets
open Library

def RefundStatus.counted : RefundStatus → Bool
  | .pending | .succeeded => true
  | .failed | .canceled => false

namespace Stripe

def session (stripe : Stripe) (id : Nat) : Option Session := stripe.sessions.find? (·.id == id)

/-- `charge.amount_refunded`: pending refunds count, failed ones do not. -/
def amountRefunded (stripe : Stripe) (payment : Nat) : Int :=
  ((stripe.refunds.filter fun refund => refund.paymentIntentId == payment && refund.status.counted).map
    (·.amountMinor)).sum

def hasOpenDispute (stripe : Stripe) (payment : Nat) : Bool :=
  stripe.disputes.any fun dispute => dispute.paymentIntentId == payment && dispute.status == .opened

/-- One session per idempotency key; the same key with another total is refused. -/
def createCheckoutSession (reference : Reference) (amount : Int) (currency : Currency) (ctx : Ctx)
    (stripe : Stripe) : Option Nat × Stripe :=
  if ctx.answer = .refused then (none, stripe)
  else
    let reply (id : Nat) : Option Nat := if ctx.answer = .lost then none else some id
    match stripe.sessions.find? (·.reference = reference) with
    | some session =>
      if session.amountMinor = amount ∧ session.currency = currency then (reply session.id, stripe) else (none, stripe)
    | none =>
      let session := { id := stripe.sessions.length, reference, amountMinor := amount, currency,
                       status := .opened, paymentIntentId := none }
      (reply session.id, { stripe with sessions := stripe.sessions ++ [session] })

def expireCheckoutSession (session : Nat) (ctx : Ctx) (stripe : Stripe) : Bool × Stripe :=
  match stripe.session session with
  | some found =>
    if ctx.answer = .refused || found.status != .opened then (false, stripe)
    else (ctx.answer == .answered,
      { stripe with sessions := update stripe.sessions (·.id == session) fun row => { row with status := .expired } })
  | none => (false, stripe)

/-- A new refund must fit what is left of the payment; without an amount it takes all of that. -/
def createRefund (request : RefundRequest) (ctx : Ctx) (stripe : Stripe) : Option RefundReply × Stripe :=
  match stripe.payment request.paymentIntentId with
  | none => (none, stripe)
  | some payment =>
    let left := payment.amountMinor - stripe.amountRefunded payment.id
    let amount := request.amountMinor.getD left
    if 0 < amount ∧ amount ≤ left then
      let refund := { id := stripe.refunds.length, paymentIntentId := payment.id, amountMinor := amount,
                      status := ctx.refundStatus, key := request.key, answered := ctx.refundStatus }
      (some ⟨refund.id, refund.status⟩, { stripe with refunds := stripe.refunds ++ [refund] })
    else (none, stripe)

/-- A repeated key gets the first answer again, and is refused for another payment or amount. -/
def refundPayment (request : RefundRequest) (ctx : Ctx) (stripe : Stripe) : Option RefundReply × Stripe :=
  if ctx.answer = .refused then (none, stripe)
  else
    let result :=
      match stripe.refunds.find? (·.key = request.key) with
      | some refund =>
        if refund.paymentIntentId = request.paymentIntentId ∧ request.amountMinor.all (· = refund.amountMinor) then
          (some ⟨refund.id, refund.answered⟩, stripe)
        else (none, stripe)
      | none => stripe.createRefund request ctx
    if ctx.answer = .lost then (none, result.2) else result

def retrieveSession (session : Nat) (ctx : Ctx) (stripe : Stripe) : Option SessionView :=
  if ctx.answer ≠ .answered then none
  else (stripe.session session).map fun found =>
    { paid := found.paymentIntentId.isSome
      complete := found.status == .complete
      paymentIntentId := found.paymentIntentId
      amountMinor := found.amountMinor
      currency := found.currency
      reference := found.reference
      amountRefundedMinor := (found.paymentIntentId.map stripe.amountRefunded).getD 0
      disputed := found.paymentIntentId.any fun payment =>
        stripe.hasOpenDispute payment ||
          (ctx.wonDisputeShown && stripe.disputes.any (·.paymentIntentId == payment)) }

def retrievePaymentBalance (payment : Nat) (ctx : Ctx) (stripe : Stripe) : Option PaymentBalance :=
  if ctx.answer ≠ .answered then none
  else (stripe.payment payment).map fun found =>
    { amountMinor := found.amountMinor
      amountRefundedMinor := stripe.amountRefunded payment
      remainingMinor := max 0 (found.amountMinor - stripe.amountRefunded payment) }

def listPaymentRefunds (payment : Nat) (stripe : Stripe) : List Refund :=
  stripe.refunds.filter (·.paymentIntentId == payment)

def completeSession (session : Nat) (paid : Bool) (stripe : Stripe) : Stripe :=
  match stripe.session session with
  | some found =>
    if found.status = .expired ∨ found.paymentIntentId.isSome then stripe
    else
      let payment := stripe.payments.length
      { stripe with
        sessions := update stripe.sessions (·.id == session) fun row =>
          { row with status := .complete, paymentIntentId := if paid then some payment else none }
        payments := if paid then stripe.payments ++
          [{ id := payment, reference := found.reference, amountMinor := found.amountMinor, currency := found.currency }]
          else stripe.payments }
  | none => stripe

def lapseSession (session : Nat) (stripe : Stripe) : Stripe :=
  { stripe with
    sessions := update stripe.sessions (fun row => row.id == session && row.status == .opened) fun row =>
      { row with status := .expired } }

/-- A failed or canceled refund stays so. -/
def settleRefund (refund : Nat) (status : RefundStatus) (stripe : Stripe) : Stripe :=
  { stripe with
    refunds := update stripe.refunds (fun row => row.id == refund && row.status.counted) fun row => { row with status } }

def openDispute (payment : Nat) (stripe : Stripe) : Stripe :=
  if (stripe.payment payment).isSome then
    { stripe with disputes := stripe.disputes ++
        [{ id := stripe.disputes.length, paymentIntentId := payment, status := .opened }] }
  else stripe

def closeDispute (dispute : Nat) (won : Bool) (stripe : Stripe) : Stripe :=
  { stripe with
    disputes := update stripe.disputes (fun row => row.id == dispute && row.status == .opened) fun row =>
      { row with status := if won then .won else .lost } }

/-- An event is sent only if it tells what is so at that moment. -/
def truthful (stripe : Stripe) : StripeEvent → Bool
  | .sessionCompleted session => (stripe.session session).any (·.status == .complete)
  | .sessionExpired session => (stripe.session session).any (·.status == .expired)
  | .chargeRefunded payment reference amount cause =>
    (stripe.payment payment).any (·.reference == reference) && stripe.amountRefunded payment == amount &&
      stripe.refunds.any (fun row => row.id == cause && row.paymentIntentId == payment && row.status.counted)
  | .refundUpdated refund status payment key =>
    stripe.refunds.any fun row =>
      row.id == refund && row.status == status && row.paymentIntentId == payment && row.key == key
  | .disputeCreated dispute payment =>
    stripe.disputes.any fun row => row.id == dispute && row.paymentIntentId == payment
  | .disputeClosed dispute payment won =>
    stripe.disputes.any fun row => row.id == dispute && row.paymentIntentId == payment &&
      row.status == if won then .won else .lost

def send (event : StripeEvent) (stripe : Stripe) : Stripe :=
  if stripe.truthful event then { stripe with events := stripe.events ++ [event] } else stripe

end Stripe

def StripeStatement.exec {β : Type} : StripeStatement β → Ctx → Stripe → β × Stripe
  | .createCheckoutSession reference amount currency, ctx, stripe =>
    stripe.createCheckoutSession reference amount currency ctx
  | .expireCheckoutSession session, ctx, stripe => stripe.expireCheckoutSession session ctx
  | .refundPayment request, ctx, stripe => stripe.refundPayment request ctx
  | .retrieveSession session, ctx, stripe => (stripe.retrieveSession session ctx, stripe)
  | .retrievePaymentBalance payment, ctx, stripe => (stripe.retrievePaymentBalance payment ctx, stripe)
  | .listPaymentRefunds payment, _, stripe => (stripe.listPaymentRefunds payment, stripe)
  | .retrievePaymentMetadata payment, ctx, stripe =>
    (if ctx.answer = .answered then (stripe.payment payment).map (·.reference) else none, stripe)
  | .receive event, _, stripe => (stripe.events[event]?, stripe)
  | .completeSession session paid, _, stripe => ((), stripe.completeSession session paid)
  | .lapseSession session, _, stripe => ((), stripe.lapseSession session)
  | .refundInDashboard payment amount, ctx, stripe =>
    ((), (stripe.createRefund ⟨payment, some amount, .outside⟩ ctx).2)
  | .settleRefund refund status, _, stripe => ((), stripe.settleRefund refund status)
  | .openDispute payment, _, stripe => ((), stripe.openDispute payment)
  | .closeDispute dispute won, _, stripe => ((), stripe.closeDispute dispute won)
  | .send event, _, stripe => ((), stripe.send event)

variable {stripe : Stripe} {β : Type} {payment dispute : Nat}

namespace Stripe

structure Sane (stripe : Stripe) : Prop where
  sessions : Numbered Session.id stripe.sessions
  payments : Numbered Payment.id stripe.payments
  disputes : Numbered Dispute.id stripe.disputes
  paid : ∀ session ∈ stripe.sessions, ∀ payment, session.paymentIntentId = some payment →
    stripe.reference payment = some session.reference
  told : ∀ event ∈ stripe.events, stripe.Told event

theorem Grows.refl (stripe : Stripe) : stripe.Grows stripe := ⟨fun _ _ same => same, fun _ _ same => same⟩

theorem Grows.trans {a b c : Stripe} (first : a.Grows b) (second : b.Grows c) : a.Grows c :=
  ⟨fun p r same => second.reference p r (first.reference p r same),
    fun d p same => second.disputed d p (first.disputed d p same)⟩

theorem Grows.of_eq {after : Stripe} (payments : after.payments = stripe.payments)
    (disputes : after.disputes = stripe.disputes) : stripe.Grows after := by
  constructor
  · intro p r same
    rwa [Stripe.reference, Stripe.payment, payments]
  · intro d p same
    rwa [Stripe.disputed, disputes]

theorem Told.later {after : Stripe} (grows : stripe.Grows after) {event : StripeEvent} (told : stripe.Told event) :
    after.Told event := by
  cases event with
  | disputeCreated | disputeClosed => exact grows.disputed _ _ told
  | _ => trivial

theorem told_of_truthful (sane : stripe.Sane) {event : StripeEvent} (truthful : stripe.truthful event) :
    stripe.Told event := by
  have unique {dispute : Nat} {row : Dispute} (mem : row ∈ stripe.disputes) (same : row.id = dispute) :
      stripe.disputed dispute = some row.paymentIntentId := by
    have found : (stripe.disputes.find? (·.id == dispute)).isSome :=
      find?_isSome.mpr ⟨row, mem, by simp [same]⟩
    obtain ⟨other, found⟩ := isSome_iff_exists.mp found
    have named : other.id = dispute := by simpa using find?_some found
    have otherIs : other = row := inj_on_of_nodup_map sane.disputes.nodup (mem_of_find?_eq_some found) mem
      (named.trans same.symm)
    rw [disputed, found, otherIs, map_some]
  cases event with
  | disputeCreated =>
    obtain ⟨row, mem, holds⟩ := any_eq_true.mp truthful
    simp only [and_eq_true, beq_iff_eq] at holds
    exact (unique mem holds.1).trans (congrArg some holds.2)
  | disputeClosed =>
    obtain ⟨row, mem, holds⟩ := any_eq_true.mp truthful
    simp only [and_eq_true, beq_iff_eq] at holds
    exact (unique mem holds.1.1).trans (congrArg some holds.1.2)
  | _ => trivial

theorem Sane.same {after : Stripe} (sane : stripe.Sane) (sessions : Numbered Session.id after.sessions)
    (paid : ∀ session ∈ after.sessions, ∀ payment, session.paymentIntentId = some payment →
      ∃ old ∈ stripe.sessions, old.paymentIntentId = some payment ∧ old.reference = session.reference)
    (payments : after.payments = stripe.payments) (disputes : after.disputes = stripe.disputes)
    (events : after.events = stripe.events) : after.Sane := by
  have grows : stripe.Grows after := .of_eq payments disputes
  refine ⟨sessions, payments ▸ sane.payments, disputes ▸ sane.disputes, fun session mem payment same => ?_, ?_⟩
  · obtain ⟨old, listed, paidBy, reference⟩ := paid session mem payment same
    exact reference ▸ grows.reference _ _ (sane.paid old listed payment paidBy)
  · intro event mem
    exact (sane.told event (events ▸ mem)).later grows

theorem Sane.update (sane : stripe.Sane) {which : Session → Bool} {change : Session → Session}
    (kept : ∀ row, (change row).id = row.id ∧ (change row).paymentIntentId = row.paymentIntentId ∧
      (change row).reference = row.reference) :
    Sane { stripe with sessions := Library.update stripe.sessions which change } := by
  refine sane.same (sane.sessions.update fun row => (kept row).1) (fun session mem payment same => ?_) rfl rfl rfl
  obtain ⟨old, listed, rfl⟩ := mem_update.mp mem
  refine ⟨old, listed, ?_⟩
  split at same <;> rename_i picked <;> simp only [picked, if_true, if_false, false_eq_true]
  · exact ⟨(kept old).2.1.symm.trans same, (kept old).2.2.symm⟩
  · exact ⟨same, trivial⟩

theorem grows_openDispute (stripe : Stripe) (payment : Nat) : stripe.Grows (stripe.openDispute payment) := by
  unfold openDispute
  split
  · refine ⟨fun _ _ same => same, fun dispute payment same => ?_⟩
    obtain ⟨row, found, same⟩ := map_eq_some_iff.mp same
    simp [disputed, found, same]
  · exact .refl stripe

theorem grows_closeDispute (stripe : Stripe) (dispute : Nat) (won : Bool) : stripe.Grows (stripe.closeDispute dispute won) := by
  refine ⟨fun _ _ same => same, fun dispute payment same => ?_⟩
  obtain ⟨row, found, rfl⟩ := map_eq_some_iff.mp same
  simp only [disputed, closeDispute]
  rw [find?_update (by intros; rfl), found, map_some, map_some]
  split <;> rfl

theorem grows_completeSession (session : Nat) (paid : Bool) : stripe.Grows (stripe.completeSession session paid) := by
  unfold completeSession
  split
  · split
    · exact .refl stripe
    · refine ⟨fun payment reference same => ?_, fun _ _ same => same⟩
      cases paid with
      | false => exact same
      | true =>
        obtain ⟨row, found, same⟩ := map_eq_some_iff.mp same
        simp only [Stripe.payment] at found
        simp [Stripe.reference, Stripe.payment, found, same]
  · exact .refl stripe

theorem sane_completeSession (sane : stripe.Sane) (session : Nat) (paid : Bool) :
    (stripe.completeSession session paid).Sane := by
  have grows := @grows_completeSession stripe session paid
  revert grows
  unfold completeSession
  split
  · rename_i found isFound
    split
    · exact fun _ => sane
    intro grows
    refine ⟨sane.sessions.update fun _ => rfl, ?_, sane.disputes, ?_, fun event mem => (sane.told event mem).later grows⟩
    · cases paid with
      | false => exact sane.payments
      | true => exact sane.payments.append rfl
    · intro row mem payment same
      obtain ⟨old, listed, rfl⟩ := mem_update.mp mem
      split at same
      · rename_i picked
        cases paid with
        | false => simp at same
        | true =>
          have named : found.id = session := by simpa using find?_some isFound
          have oldIs : old = found := inj_on_of_nodup_map sane.sessions.nodup listed (mem_of_find?_eq_some isFound)
            ((eq_of_beq picked).trans named.symm)
          obtain rfl : stripe.payments.length = payment := by simpa using same
          subst oldIs
          simp only [Stripe.reference, Stripe.payment, if_true, find?_append, sane.payments.find?_next, picked]
          simp
      · rename_i other
        simp only [other, if_false, false_eq_true]
        exact grows.reference _ _ (sane.paid old listed payment same)
  · exact fun _ => sane

/-- The provider remembers, and stays sane. -/
theorem exec_grows (op : StripeStatement β) (ctx : Ctx) (sane : stripe.Sane) :
    stripe.Grows (op.exec ctx stripe).2 ∧ (op.exec ctx stripe).2.Sane := by
  have same_ : stripe.Grows stripe ∧ stripe.Sane := ⟨.refl stripe, sane⟩
  have refunded (refunds : List Refund) :
      stripe.Grows { stripe with refunds } ∧ Sane { stripe with refunds } :=
    ⟨.of_eq rfl rfl, sane.same sane.sessions (fun session mem _ paid => ⟨session, mem, paid, rfl⟩) rfl rfl rfl⟩
  have created (request : RefundRequest) :
      stripe.Grows (stripe.createRefund request ctx).2 ∧ (stripe.createRefund request ctx).2.Sane := by
    unfold createRefund
    split
    · exact same_
    · dsimp only
      split
      · exact refunded _
      · exact same_
  cases op <;> simp only [StripeStatement.exec]
  case createCheckoutSession reference amount currency =>
    unfold createCheckoutSession
    split
    · exact same_
    dsimp only
    split
    · split <;> exact same_
    · refine ⟨.of_eq rfl rfl, sane.same (sane.sessions.append rfl) (fun session mem payment paid => ?_) rfl rfl rfl⟩
      rcases mem_append.mp mem with old | new
      · exact ⟨session, old, paid, rfl⟩
      · simp [mem_singleton.mp new] at paid
  case expireCheckoutSession session =>
    unfold expireCheckoutSession
    split
    · split
      · exact same_
      · exact ⟨.of_eq rfl rfl, sane.update fun _ => ⟨rfl, rfl, rfl⟩⟩
    · exact same_
  case refundPayment request =>
    unfold refundPayment
    split
    · exact same_
    dsimp only
    split
    · split
      · split <;> exact same_
      · exact created request
    · split
      · split <;> exact same_
      · exact created request
  case completeSession session paid => exact ⟨grows_completeSession session paid, sane_completeSession sane session paid⟩
  case lapseSession session => exact ⟨.of_eq rfl rfl, sane.update fun _ => ⟨rfl, rfl, rfl⟩⟩
  case refundInDashboard payment amount => exact created _
  case settleRefund refund status => exact refunded _
  case openDispute payment =>
    have grows := grows_openDispute stripe payment
    refine ⟨grows, ?_⟩
    revert grows
    unfold openDispute
    split
    · exact fun grows => ⟨sane.sessions, sane.payments, sane.disputes.append rfl, sane.paid,
        fun event mem => (sane.told event mem).later grows⟩
    · exact fun _ => sane
  case closeDispute dispute won =>
    have grows := grows_closeDispute stripe dispute won
    exact ⟨grows, sane.sessions, sane.payments, sane.disputes.update fun _ => rfl, sane.paid,
      fun event mem => (sane.told event mem).later grows⟩
  case send event =>
    unfold send
    split
    · rename_i truthful
      refine ⟨.of_eq rfl rfl, sane.sessions, sane.payments, sane.disputes, sane.paid, fun event mem => ?_⟩
      rcases mem_append.mp mem with old | new
      · exact (sane.told event old).later (.of_eq rfl rfl)
      · exact mem_singleton.mp new ▸ (told_of_truthful sane truthful).later (.of_eq rfl rfl)
    · exact same_
  all_goals exact same_

end Stripe

theorem StripeStatement.disputes_cases (op : StripeStatement β) (ctx : Ctx) (stripe : Stripe) :
    (op.exec ctx stripe).2.disputes = stripe.disputes ∨
      (∃ payment, (op.exec ctx stripe).2 = stripe.openDispute payment) ∨
      ∃ dispute won, (op.exec ctx stripe).2 = stripe.closeDispute dispute won := by
  have created (request : RefundRequest) : (stripe.createRefund request ctx).2.disputes = stripe.disputes := by
    unfold Stripe.createRefund
    split
    · rfl
    · dsimp only
      split <;> rfl
  cases op <;> simp only [StripeStatement.exec]
  case openDispute payment => exact .inr (.inl ⟨payment, rfl⟩)
  case closeDispute dispute won => exact .inr (.inr ⟨dispute, won, rfl⟩)
  case refundInDashboard => exact .inl (created _)
  case refundPayment request =>
    left
    unfold Stripe.refundPayment
    split
    · rfl
    dsimp only
    split
    · split
      · split <;> rfl
      · exact created request
    · split
      · split <;> rfl
      · exact created request
  case createCheckoutSession =>
    left
    unfold Stripe.createCheckoutSession
    split
    · rfl
    dsimp only
    split
    · split <;> rfl
    · rfl
  case expireCheckoutSession =>
    left
    unfold Stripe.expireCheckoutSession
    split
    · split <;> rfl
    · rfl
  case completeSession =>
    left
    unfold Stripe.completeSession
    split
    · split <;> rfl
    · rfl
  case send =>
    left
    unfold Stripe.send
    split <;> rfl
  all_goals first | exact .inl trivial | exact .inl rfl

theorem Stripe.disputeOpen_exec (op : StripeStatement β) (ctx : Ctx) (sane : stripe.Sane)
    (known : stripe.disputed dispute = some payment)
    (isOpen : (op.exec ctx stripe).2.disputeOpen dispute) : stripe.disputeOpen dispute := by
  obtain same | ⟨payment, same⟩ | ⟨closed, won, same⟩ := op.disputes_cases ctx stripe
  · rwa [disputeOpen, same] at isOpen
  · rw [same, openDispute] at isOpen
    split at isOpen
    · obtain ⟨row, found, -⟩ := map_eq_some_iff.mp known
      have named : row.id = dispute := by simpa using find?_some found
      have before := sane.disputes.lt (mem_of_find?_eq_some found)
      simp only [disputeOpen, any_append, or_eq_true] at isOpen
      refine isOpen.resolve_right fun new => ?_
      simp only [any_cons, any_nil, Bool.or_false, and_eq_true, beq_iff_eq] at new
      omega
    · exact isOpen
  · rw [same] at isOpen
    simp only [disputeOpen, closeDispute, any_eq_true] at isOpen ⊢
    obtain ⟨_, mem, holds⟩ := isOpen
    obtain ⟨old, listed, rfl⟩ := mem_update.mp mem
    split at holds
    · cases won <;> simp at holds
    · exact ⟨old, listed, holds⟩

theorem retrieved_reference (sane : stripe.Sane) {session : Nat} {ctx : Ctx} {view : SessionView}
    (shown : stripe.retrieveSession session ctx = some view) (paid : view.paymentIntentId = some payment) :
    stripe.reference payment = some view.reference := by
  unfold Stripe.retrieveSession at shown
  split at shown
  · simp at shown
  obtain ⟨found, isFound, rfl⟩ := map_eq_some_iff.mp shown
  exact sane.paid found (mem_of_find?_eq_some isFound) payment paid

def machine : Provider where
  exec := StripeStatement.exec
  sane := Stripe.Sane
  stays op ctx _ sane := (Stripe.exec_grows op ctx sane).2
  grows op ctx _ sane := (Stripe.exec_grows op ctx sane).1
  closed op ctx _ _ _ := Stripe.disputeOpen_exec op ctx
  retrieved _ _ _ _ _ sane shown paid := retrieved_reference sane shown paid
  received _ _ _ _ sane found := sane.told _ (mem_of_getElem? found)

end MilkAndHenny.Tickets

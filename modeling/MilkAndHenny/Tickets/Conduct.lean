import MilkAndHenny.Tickets.Provenance

/-! Every workflow of the shop has read what it ties tickets to, in every interleaving
and whatever else is asked of the runs. -/

namespace MilkAndHenny.Tickets
variable {provider : Provider} {β : Type} {db : Db} {α : Type} {flow : Flow α} {payment : Nat}
open Library Library.Program

/-- The sources of what the shop ties together are known, beside what else is to hold. -/
def conduct (provider : Provider) (valid : Db → Prop) : Contract Statement (Option StripeEvent) Db where
  valid db := Sourced provider db ∧ valid db
  owes _ _ op db := op.Grounded db
  allows _ before after := Grows before after
  ends _ _ _ := True

/-- A statement of the parts that tie tickets to nothing. -/
def ordinary : List Part := [.stripe, .credit, .checkout, .store, .exchange, .refund]

theorem grounded_of_ordinary {op : Statement β} (listed : ordinary.contains op.part) (db : Db) : op.Grounded db := by
  cases op with
  | store op =>
    cases op with
    | insertTicketsWithCapacity | markOrderDisputed => cases listed
    | markTicketStatus id refunded refundRef =>
      obtain refunded | refunded := refunded
      · obtain _ | refundRef := refundRef
        · trivial
        · cases refundRef <;> trivial
      · trivial
    | markTicketOrderRefundPending _ refundRef | markRefundFailed refundRef =>
      cases refundRef <;> trivial
    | _ => trivial
  | exchange op =>
    cases op with
    | claimAndComplete | setTicketValidity => cases listed
    | _ => trivial
  | stripe | credit | checkout | refund => trivial

theorem Sourced.history (sourced : Sourced provider db) (history : List Entry) : Sourced provider { db with history } :=
  ⟨⟨sourced.ticketIds, sourced.exchangeIds, sourced.refers⟩, sourced.stripe, sourced.bought, sourced.upgraded⟩

theorem Grows.history {after : Db} (grows : Grows db after) (history : List Entry) : Grows db { after with history } :=
  ⟨grows.stripe, grows.exchanges⟩

theorem Sourced.engine (sourced : Sourced provider db) (worker : Nat) {op : Statement β} (ctx : Ctx)
    (grounded : op.Grounded db) :
    Sourced provider ((engine provider).exec worker op ctx db).2 ∧ Grows db ((engine provider).exec worker op ctx db).2 :=
  ⟨(sourced.exec worker ctx grounded).1.history _, (sourced.exec worker ctx grounded).2.history _⟩

section
variable {valid : Db → Prop} {condition : Condition Statement Ctx Db} {worker : Nat} {db : Db} {α β : Type}

/-- The workflow keeps the contract from the database on. -/
abbrev Conducts (provider : Provider) (valid : Db → Prop) (condition : Condition Statement Ctx Db) (worker : Nat) {α : Type} (flow : Flow α)
    (db : Db) : Prop :=
  flow.keeps (engine provider) (conduct provider valid) condition worker (fun _ _ => True) db

theorem conducts_within {parts : List Part} (within : Within parts flow)
    (fewer : parts ⊆ ordinary) : Conducts provider valid condition worker flow db :=
  keeps_of_makes (within.mono fewer) (fun _ listed db _ => grounded_of_ordinary listed db) fun _ _ => trivial

private theorem conducts_last {op : Statement β} (listed : ordinary.contains op.part) (value : β → α) :
    Conducts provider valid condition worker ((Program.perform op).bind fun reply => .done (value reply)) db :=
  conducts_within (Within.bind (.perform listed) fun _ => .done _) (List.Subset.refl ordinary)

theorem conducts_call {op : Statement β} {next : β → Flow α} (grounded : ∀ before, Grows db before → op.Grounded before)
    (rest : ∀ before ctx reply after, (engine provider).exec worker op ctx before = (reply, after) → Sourced provider before →
      Grows db before → Grows db after → Conducts provider valid condition worker (next reply) after) :
    Conducts provider valid condition worker ((Program.perform op).bind next) db := by
  intro before grows kept
  refine ⟨grounded before grows, fun live ctx met after => ?_⟩
  exact rest before ctx _ _ rfl kept.1 grows (grows.trans (kept.1.engine worker ctx (grounded before grows)).2)

private theorem conducts_remember {first : Db}
    (conducts : Conducts provider valid condition worker flow db) (grown : Grows first db) :
    flow.keeps (engine provider) (conduct provider valid) condition worker (fun _ after => Grows first after) db := by
  induction flow generalizing db with
  | done => exact grown
  | call op next ih =>
    intro before grows kept
    obtain ⟨grounded, rest⟩ := conducts before grows kept
    refine ⟨grounded, fun live ctx met after => ih _ (rest live ctx met after) ?_⟩
    exact grown.trans (grows.trans (kept.1.engine worker ctx grounded).2)

theorem conducts_bind {flow : Flow β} {next : β → Flow α} (first : Conducts provider valid condition worker flow db)
    (rest : ∀ value after, Grows db after → Conducts provider valid condition worker (next value) after) :
    Conducts provider valid condition worker (flow.bind next) db :=
  keeps_bind (conducts_remember first (.refl db)) rest

theorem issueTickets_conducts (request : IssueRequest)
    (bought : ∀ payment, request.paymentRef = some payment → db.Purchase payment) :
    Conducts provider valid condition worker (issueTickets request) db := by
  unfold issueTickets
  split
  · trivial
  refine conducts_call (fun _ _ => trivial) fun _ _ type _ _ _ _ grows => ?_
  split
  · trivial
  refine conducts_call (fun _ _ => trivial) fun _ _ refusal _ _ _ _ grows' => ?_
  split
  · trivial
  split
  · trivial
  split
  · trivial
  refine conducts_call (fun before later payment paid => ?_) fun _ _ _ _ _ _ _ _ => trivial
  exact (bought payment paid).later ((grows.trans grows').trans later)

theorem issueOrRefund_conducts (row : CheckoutSession) (session payment : Nat) (bought : db.Purchase payment) :
    Conducts provider valid condition worker (issueOrRefund row session payment) db := by
  refine conducts_call (fun _ _ => trivial) fun _ _ tickets _ _ _ _ grows => ?_
  split
  · exact conducts_within (Within.bind (.perform rfl) fun _ => .bind (.perform rfl) fun _ => .done _) (List.Subset.refl ordinary)
  · refine conducts_bind (issueTickets_conducts _ fun payment paid => ?_) fun issued db _ => ?_
    · cases paid
      exact bought.later grows
    · split
      · exact conducts_last rfl _
      · exact conducts_within (refundOversold_within ..) (by decide)
      · exact conducts_within (Within.bind (.perform rfl) fun _ => .bind (.perform rfl) fun _ => .done _) (List.Subset.refl ordinary)

theorem settleClaim_conducts (row : CheckoutSession) (session : Nat) (db : Db) :
    Conducts provider valid condition worker (settleClaim row session) db := by
  refine conducts_call (fun _ _ => trivial) fun before ctx view after ran sourced _ _ => ?_
  split
  · exact conducts_last rfl _
  split
  · exact conducts_last rfl _
  split
  · exact conducts_last rfl _
  rename_i matches_
  split
  · exact conducts_last rfl _
  rename_i payment paid
  have bought : after.Purchase payment := by
    obtain ⟨shown, rfl⟩ := Prod.mk.inj ran
    have reference := provider.retrieved _ ctx _ _ _ sourced.stripe shown paid
    simp only [not_or, not_not] at matches_
    exact ⟨row.reference, by rw [← matches_.2.2]; exact reference⟩
  refine conducts_call (fun _ _ => trivial) fun _ _ _ _ _ _ _ grows => ?_
  split
  · exact conducts_last rfl _
  split
  · exact conducts_within (refundRemainder_within ..) (by decide)
  · exact issueOrRefund_conducts row session payment (bought.later grows)

theorem fulfilCheckout_conducts (session : Nat) (db : Db) :
    Conducts provider valid condition worker (fulfilCheckout session) db := by
  refine conducts_call (fun _ _ => trivial) fun _ _ claimed _ _ _ _ _ => ?_
  split
  · exact settleClaim_conducts _ session _
  · refine conducts_call (fun _ _ => trivial) fun _ _ found _ _ _ _ _ => ?_
    repeat' first | trivial | split

theorem fulfilTicketExchangeCheckout_conducts (session : Nat) (db : Db) :
    Conducts provider valid condition worker (fulfilTicketExchangeCheckout session) db := by
  refine conducts_call (fun _ _ => trivial) fun _ _ found _ _ _ _ _ => ?_
  split
  · trivial
  split
  · trivial
  split
  · trivial
  refine conducts_call (fun _ _ => trivial) fun before ctx view after ran sourced _ _ => ?_
  split
  · trivial
  split
  · trivial
  rename_i payment paid
  split
  · exact conducts_last rfl _
  rename_i matches_
  refine conducts_call (fun before later => ?_) fun _ _ _ _ _ _ _ _ => trivial
  obtain ⟨shown, rfl⟩ := Prod.mk.inj ran
  have reference := provider.retrieved _ ctx _ _ _ sourced.stripe shown paid
  simp only [not_or, not_not] at matches_
  rw [matches_.2.2] at reference
  exact later.stripe.reference _ _ reference

theorem voidExchangePaymentRefund_conducts (payment : Nat) (reference : Reference) (db : Db) :
    Conducts provider valid condition worker (voidExchangePaymentRefund payment reference.refundRef) db := by
  refine conducts_call (fun _ _ => trivial) fun _ _ found _ _ _ _ _ => ?_
  split
  · trivial
  · refine conducts_call (fun _ _ => ?_) fun _ _ _ _ _ _ _ _ => trivial
    cases reference <;> trivial

theorem linked_of_found (sourced : Sourced provider db) {dispute : Nat} {row : TicketExchange}
    (listed : row ∈ db.exchanges) (paid : row.paymentRef = some payment)
    (told : db.stripe.disputed dispute = some payment) : db.Linked row dispute :=
  ⟨payment, paid, sourced.upgraded row listed payment paid, told, row, listed, rfl, rfl⟩

theorem voidExchangePaymentDispute_conducts (payment dispute : Nat) (told : db.stripe.disputed dispute = some payment) :
    Conducts provider valid condition worker (voidExchangePaymentDispute payment dispute) db := by
  refine conducts_call (fun _ _ => trivial) fun before ctx found after ran sourced later _ => ?_
  split
  · trivial
  rename_i row isFound
  obtain ⟨shown, rfl⟩ := Prod.mk.inj ran
  obtain ⟨isFound, -⟩ := filter_eq_some_iff.mp isFound
  rw [← shown] at isFound
  have linked := linked_of_found sourced (mem_of_find?_eq_some isFound) (by simpa using find?_some isFound)
    (later.stripe.disputed _ _ told)
  refine conducts_call (fun _ grows => linked.later grows) fun _ _ _ _ _ _ _ _ => ?_
  exact conducts_last rfl _

theorem restoreExchangePaymentDispute_conducts (payment dispute : Nat)
    (told : db.stripe.disputed dispute = some payment) :
    Conducts provider valid condition worker (restoreExchangePaymentDispute payment dispute) db := by
  refine conducts_call (fun _ _ => trivial) fun before ctx found after ran sourced later _ => ?_
  split
  · trivial
  rename_i row
  obtain ⟨isFound, rfl⟩ := Prod.mk.inj ran
  have named : row.paymentRef = some payment ∧ row.disputeRef = some dispute := by simpa using find?_some isFound
  have linked := linked_of_found sourced (mem_of_find?_eq_some isFound) named.1 (later.stripe.disputed _ _ told)
  refine conducts_call (fun _ grows => ⟨rfl, dispute, named.2, linked.later grows⟩) fun _ _ _ _ _ _ _ _ => ?_
  exact conducts_last rfl _

theorem handleStripeWebhookEvent_conducts (event : StripeEvent) (told : db.stripe.Told event) :
    Conducts provider valid condition worker (handleStripeWebhookEvent event) db := by
  cases event with
  | sessionCompleted session =>
    refine conducts_bind (fulfilTicketExchangeCheckout_conducts session db) fun outcome after _ => ?_
    split
    · trivial
    · exact conducts_bind (fulfilCheckout_conducts session _) fun _ _ _ => trivial
  | sessionExpired session =>
    refine conducts_call (fun _ _ => trivial) fun _ _ expired _ _ _ _ _ => ?_
    split
    · trivial
    · exact conducts_within (expireCheckout_within session) (by decide)
  | chargeRefunded payment reference =>
    refine conducts_bind (voidExchangePaymentRefund_conducts payment reference db) fun voided after _ => ?_
    split
    · trivial
    · exact conducts_bind (conducts_within (reconcilePaymentRefunds_within _ _) (by decide)) fun _ _ _ =>
        conducts_within (cancelUnfulfilledCheckout_within ..) (by decide)
  | refundUpdated =>
    refine conducts_bind (conducts_within (updateCheckoutRefundStatus_within _ _) (by decide)) fun _ _ _ => ?_
    refine conducts_bind (conducts_within (updateAllocatedTicketRefund_within _ _) (by decide)) fun allocated _ _ => ?_
    refine conducts_bind (conducts_within (completePendingExchangeRefund_within ..) (by decide)) fun done _ _ => ?_
    split
    · trivial
    split
    · trivial
    split
    · exact conducts_bind (conducts_within (reconcilePaymentRefunds_within _ _) (by decide)) fun _ _ _ => trivial
    split
    · exact conducts_last rfl _
    · trivial
  | disputeCreated dispute payment =>
    refine conducts_bind (voidExchangePaymentDispute_conducts payment dispute told) fun voided _ grows => ?_
    split
    · trivial
    refine conducts_call (fun _ _ => trivial) fun _ _ reference _ _ _ _ grows' => ?_
    split
    · trivial
    refine conducts_bind (conducts_within (markUnfulfilledCheckoutDisputed_within ..) (by decide)) fun _ _ grows'' => ?_
    refine conducts_call (fun _ later => ?_) fun _ _ _ _ _ _ _ _ => trivial
    exact (((grows.trans grows').trans grows'').trans later).stripe.disputed _ _ told
  | disputeClosed dispute payment won =>
    cases won with
    | false => trivial
    | true =>
      refine conducts_bind (restoreExchangePaymentDispute_conducts payment dispute told) fun restored _ _ => ?_
      split
      · trivial
      refine conducts_call (fun _ _ => trivial) fun _ _ _ _ _ _ _ _ => ?_
      refine conducts_call (fun _ _ => trivial) fun _ _ reopened _ _ _ _ _ => ?_
      split
      · exact conducts_bind (fulfilCheckout_conducts _ _) fun _ _ _ => trivial
      · trivial

theorem serve_conducts (request : Request) (db : Db) : Conducts provider valid condition worker (serve request) db := by
  have discarded {α : Type} {flow : Flow α} (kept : Conducts provider valid condition worker flow db) :
      Conducts provider valid condition worker (discard flow) db := conducts_bind kept fun _ _ _ => trivial
  have single {op : Statement Unit} (listed : ordinary.contains op.part) :
      Conducts provider valid condition worker (discard (.perform op)) db :=
    discarded (conducts_within (Within.perform listed) (List.Subset.refl ordinary))
  cases request with
  | startCheckout => exact discarded (conducts_within (startCheckout_within _ _) (by decide))
  | pollCheckout session => exact discarded (fulfilCheckout_conducts session db)
  | issueTickets => exact discarded (issueTickets_conducts _ nofun)
  | beginTicketExchange => exact discarded (conducts_within (beginTicketExchange_within _) (by decide))
  | resolveTicketExchange session => exact discarded (fulfilTicketExchangeCheckout_conducts session db)
  | refundTicket => exact discarded (conducts_within (refundTicket_within _) (by decide))
  | refundOrder => exact discarded (conducts_within (refundOrder_within _ _) (by decide))
  | voidTicket ticket refunded note =>
    refine discarded (conducts_within (Within.perform ?_) (List.Subset.refl ordinary))
    cases refunded <;> cases note <;> rfl
  | deliver event =>
    refine conducts_call (fun _ _ => trivial) fun before ctx event after ran sourced _ _ => ?_
    split
    · rename_i event
      obtain ⟨received, rfl⟩ := Prod.mk.inj ran
      have told := provider.received _ ctx _ event sourced.stripe received
      exact conducts_bind (handleStripeWebhookEvent_conducts event told) fun _ _ _ => trivial
    · trivial
  | redeemTicket | unredeemTicket | claimCredit | updateTicketType | provider => exact single rfl

theorem run_conducted (step : ∀ live worker {β} (op : Statement β) ctx db, Sourced provider db → valid db → op.Grounded db →
      condition live worker op ctx db → valid ((engine provider).exec worker op ctx db).2)
    (events : List (Event Request Ctx)) (db : Db) (sourced : Sourced provider db) (kept : valid db)
    (met : (shop db).along (engine provider) serve condition events) : valid (serveAll provider db events).db := by
  have sound : (conduct provider valid).Sound (engine provider) condition := by
    refine ⟨fun _ {_ _ _} => Grows.trans, ?_, ?_, fun _ _ _ _ _ _ _ _ _ _ _ _ => trivial⟩
    · exact fun live worker _ op ctx db kept grounded met =>
        ⟨(kept.1.engine worker ctx grounded).1, step live worker op ctx db kept.1 kept.2 grounded met⟩
    · exact fun _ worker _ _ ctx _ kept grounded _ _ _ _ => (kept.1.engine worker ctx grounded).2
  have start : (conduct provider valid).Kept (engine provider) condition (shop db) := ⟨⟨sourced, kept⟩, fun _ _ found => by simp [shop] at found⟩
  have all_ : Contract.only (fun _ => true) events := by
    simp only [Contract.only, all_eq_true]
    exact fun event _ => by cases event <;> rfl
  exact (Contract.run_kept sound (fun _ db => .refl db) (fun request _ worker db => serve_conducts request db) events
    (shop db) start all_ met).valid.2

end

end MilkAndHenny.Tickets

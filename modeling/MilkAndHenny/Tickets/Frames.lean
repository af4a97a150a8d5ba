import MilkAndHenny.Tickets.Webhook

/-! What each family of statements leaves alone. -/

namespace MilkAndHenny.Tickets
variable {exchange : TicketExchange} {after : Db}
open Library

variable {β : Type} (worker : Nat) (ctx : Ctx) (db : Db)

theorem CreditStatement.frame (op : CreditStatement β) :
    ∃ creditGrants creditRedemptions, (op.exec ctx db).2 = { db with creditGrants, creditRedemptions } := by
  cases op <;> simp only [CreditStatement.exec]
  case attach => split <;> exact ⟨_, _, rfl⟩
  all_goals exact ⟨_, _, rfl⟩

theorem reserveCredits_frame (request : CreditRequest) (now : Nat) :
    ∃ creditRedemptions, (reserveCreditsForCheckout request now db).2 = { db with creditRedemptions } := by
  unfold reserveCreditsForCheckout
  split <;> exact ⟨_, rfl⟩

theorem reserveAmount_frame (now : Nat) (type : TicketTypeRow) (request : CheckoutRequest) (prior : Option CheckoutSession) :
    ∃ checkouts creditRedemptions, (db.reserveAmount now type request prior).2 = { db with checkouts, creditRedemptions } := by
  unfold Db.reserveAmount
  obtain ⟨redemptions, same⟩ := reserveCredits_frame db
    { checkoutReference := request.reference, email := request.email, eventSlug := request.eventSlug,
      quantity := request.quantity, ticketPriceMinor := type.priceMinor, currency := type.currency,
      minimumChargeMinor := type.currency.minimumMinor.getD 0 } now
  dsimp only
  rw [same]
  split
  · exact ⟨_, _, rfl⟩
  split
  · exact ⟨_, _, rfl⟩
  split <;> exact ⟨_, _, rfl⟩

theorem reserveCheckout_frame (now : Nat) (request : CheckoutRequest) :
    ∃ checkouts creditRedemptions, (db.reserveCheckout now request).2 = { db with checkouts, creditRedemptions } := by
  unfold Db.reserveCheckout
  split
  · split
    · exact ⟨_, _, rfl⟩
    split
    · exact ⟨_, _, rfl⟩
    split
    · exact ⟨_, _, rfl⟩
    · exact reserveAmount_frame db now _ request _
  · exact ⟨_, _, rfl⟩

theorem CheckoutStatement.frame (op : CheckoutStatement β) :
    ∃ checkouts creditRedemptions, (op.exec ctx db).2 = { db with checkouts, creditRedemptions } := by
  cases op <;> simp only [CheckoutStatement.exec]
  case reserve request => exact reserveCheckout_frame db ctx.now request
  case persistSession => split <;> exact ⟨_, _, rfl⟩
  all_goals exact ⟨_, _, rfl⟩

theorem StoreStatement.frame (op : StoreStatement β) :
    ∃ tickets participants ticketTypes, (op.exec worker ctx db).2 = { db with tickets, participants, ticketTypes } := by
  cases op <;> simp only [StoreStatement.exec]
  case insertTicketsWithCapacity input amounts =>
    split
    · exact ⟨_, _, _, rfl⟩
    obtain ⟨_, -, same⟩ | ⟨same, -⟩ := db.insertTicketsWithCapacity_cases ctx.now input (ctx.ids worker 0)
      (Db.newTickets (ctx.ids worker) amounts)
    · rw [same]
      exact ⟨_, _, _, rfl⟩
    · rw [same]
      exact ⟨_, _, _, rfl⟩
  all_goals exact ⟨_, _, _, rfl⟩

variable {db}

theorem committed_cases {p : Db → Prop} {result : Option Db} (thrown : p db) (each : ∀ after, result = some after → p after) :
    p (committed db result).2 := by
  cases result with
  | none => exact thrown
  | some after => exact each after rfl

theorem completeExchange_frame {now : Nat} (done : db.completeExchange now exchange = some after) :
    after = { db with
      tickets := update db.tickets exchange.moves exchange.move
      exchanges := update db.exchanges (·.id == exchange.id) fun row =>
        { row with status := .completed, completedAt := some now } } := by
  unfold Db.completeExchange at done
  split at done
  · exact (some.inj done).symm
  · cases done

theorem setExchangeStatus_frame {id : Id} {status : ExchangeStatus} {change : TicketExchange → TicketExchange}
    (done : db.setExchangeStatus id status change = some after) :
    after = { db with
      exchanges := update db.exchanges (·.id == id) fun row => { change row with status } } := by
  unfold Db.setExchangeStatus at done
  split at done
  · cases done
  · exact (some.inj done).symm

theorem settleExchangeRefund_frame {now payment refund : Nat} {status : RefundStatus}
    (done : db.settleExchangeRefund now exchange payment refund status = some after) :
    let recorded := db.updateExchangeRefund exchange.id payment fun row =>
      { row with refundRef := some refund, status := status.settlement }
    recorded.setExchangeStatus exchange.id .refundPending id = some after ∨
      recorded.setExchangeStatus exchange.id .failed id = some after ∨
      recorded.completeExchange now exchange = some after ∨ after = recorded := by
  intro recorded
  unfold Db.settleExchangeRefund at done
  dsimp only at done
  split at done
  · split at done
    · exact .inl done
    · exact .inr (.inl done)
  split at done
  · exact .inr (.inr (.inl done))
  · exact .inr (.inr (.inr (some.inj done).symm))

variable (db)

def Db.Exchanged (after : Db) : Prop :=
  ∃ tickets participants exchanges exchangeRefunds, after = { db with tickets, participants, exchanges, exchangeRefunds }

theorem ExchangeStatement.frame (op : ExchangeStatement β) : db.Exchanged (op.exec worker ctx db).2 := by
  have unchanged : db.Exchanged db := ⟨_, _, _, _, rfl⟩
  have restatus {before after : Db} {id : Id} {status : ExchangeStatus} {change : TicketExchange → TicketExchange}
      (exchanged : db.Exchanged before) (done : before.setExchangeStatus id status change = some after) : db.Exchanged after := by
    obtain ⟨_, _, _, _, rfl⟩ := exchanged
    exact setExchangeStatus_frame done ▸ ⟨_, _, _, _, rfl⟩
  have complete {before after : Db} {now : Nat} {row : TicketExchange} (exchanged : db.Exchanged before)
      (done : before.completeExchange now row = some after) : db.Exchanged after := by
    obtain ⟨_, _, _, _, rfl⟩ := exchanged
    exact completeExchange_frame done ▸ ⟨_, _, _, _, rfl⟩
  cases op <;> simp only [ExchangeStatement.exec]
  case reserve request =>
    unfold Db.reserveExchange
    split <;> exact ⟨_, _, _, _, rfl⟩
  case setStatus | awaitPayment => exact committed_cases unchanged fun after done => restatus unchanged done
  case failRefund => exact committed_cases unchanged fun after done => restatus ⟨_, _, _, _, rfl⟩ done
  case complete => exact committed_cases unchanged fun after done => complete unchanged done
  case claimAndComplete =>
    split
    · exact unchanged
    split
    · exact complete ⟨_, _, _, _, rfl⟩ ‹_›
    · exact unchanged
  case settleRefund =>
    refine committed_cases unchanged fun after done => ?_
    obtain done | done | done | rfl := settleExchangeRefund_frame done
    · exact restatus ⟨_, _, _, _, rfl⟩ done
    · exact restatus ⟨_, _, _, _, rfl⟩ done
    · exact complete ⟨_, _, _, _, rfl⟩ done
    · exact ⟨_, _, _, _, rfl⟩
  all_goals exact ⟨_, _, _, _, rfl⟩

theorem prepareTicketRefund_cases (ids : Nat → Id) (transferRefuses : Bool) (snapshot : Ticket) (allocations : List (Nat × Int)) :
    (∃ reply, db.prepareTicketRefund ids transferRefuses snapshot allocations = (reply, db)) ∨
      ∃ ticket currency, db.ticket snapshot.id = some ticket ∧
        db.checkTicketRefund transferRefuses snapshot ticket allocations = .ok currency ∧
        let rows := Db.newAllocations ids ticket currency allocations
        db.prepareTicketRefund ids transferRefuses snapshot allocations =
          (.ok (some { ticket, requestId := ids 0, allocations := rows }),
            { db.setTicketStatus (·.id == ticket.id) .void (·.ticketId == some ticket.id) .void with
              refundAllocations := db.refundAllocations ++ rows }) := by
  unfold Db.prepareTicketRefund
  split
  · exact .inl ⟨_, rfl⟩
  split
  · exact .inl ⟨_, rfl⟩
  split
  · exact .inl ⟨_, rfl⟩
  · exact .inr ⟨_, _, ‹_›, ‹_›, rfl⟩

variable {db} in
theorem checkTicketRefund_valid {transferRefuses : Bool} {snapshot ticket : Ticket} {allocations : List (Nat × Int)}
    {currency : Currency} (passed : db.checkTicketRefund transferRefuses snapshot ticket allocations = .ok currency) :
    ticket.status = .valid := by
  simp only [Db.checkTicketRefund, bind_ok_iff, ensure_ok_iff, beq_iff_eq] at passed
  obtain ⟨_, valid, _⟩ := passed
  exact valid

theorem RefundStatement.frame (op : RefundStatement β) :
    ∃ tickets participants refundAllocations,
      (op.exec worker ctx db).2 = { db with tickets, participants, refundAllocations } := by
  cases op <;> simp only [RefundStatement.exec]
  case prepare snapshot allocations =>
    obtain ⟨_, same⟩ | ⟨_, _, _, _, same⟩ :=
      prepareTicketRefund_cases db (ctx.ids worker) ctx.transferRefuses snapshot allocations
    · exact ⟨_, _, _, congrArg Prod.snd same⟩
    · exact ⟨_, _, _, congrArg Prod.snd same⟩
  case failAllocation allocation ticket partly =>
    cases partly <;> exact ⟨_, _, _, rfl⟩
  all_goals exact ⟨_, _, _, rfl⟩

end MilkAndHenny.Tickets

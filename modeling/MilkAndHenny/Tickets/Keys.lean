import MilkAndHenny.Tickets.Frames

/-! Keys and references of the rows that every statement keeps: the ids of tickets
and of exchanges are unique, and an exchange refers to a ticket of its own event. -/

namespace MilkAndHenny.Tickets
variable {β : Type} {now : Nat} {exchange : TicketExchange} {ids : Nat → Id}
open Library

structure Keyed (db : Db) : Prop where
  ticketIds : (db.tickets.map (·.id)).Nodup
  exchangeIds : (db.exchanges.map (·.id)).Nodup
  refers : ∀ row ∈ db.exchanges, ∃ ticket ∈ db.tickets, ticket.id = row.ticketId ∧ ticket.eventSlug = row.eventSlug

/-- Nothing that the seats of an event depend on has changed. -/
structure SameSeats (db after : Db) : Prop where
  tickets : after.tickets = db.tickets
  exchanges : after.exchanges = db.exchanges
  ticketTypes : after.ticketTypes = db.ticketTypes
  events : after.events = db.events

theorem CreditStatement.sameSeats (op : CreditStatement β) (ctx : Ctx) (db : Db) : SameSeats db (op.exec ctx db).2 := by
  obtain ⟨_, _, same⟩ := op.frame ctx db
  exact same ▸ ⟨rfl, rfl, rfl, rfl⟩

theorem CheckoutStatement.sameSeats (op : CheckoutStatement β) (ctx : Ctx) (db : Db) :
    SameSeats db (op.exec ctx db).2 := by
  obtain ⟨_, _, same⟩ := op.frame ctx db
  exact same ▸ ⟨rfl, rfl, rfl, rfl⟩

/-- What an update of exchanges leaves alone. -/
def TicketExchange.stays (row after : TicketExchange) : Prop :=
  after.id = row.id ∧ after.ticketId = row.ticketId ∧ after.eventSlug = row.eventSlug ∧
    after.toTicketTypeId = row.toTicketTypeId

namespace Keyed

variable {db after : Db} {change : TicketExchange → TicketExchange}

theorem same (kept : Keyed db) (same : SameSeats db after) : Keyed after := by
  obtain ⟨tickets, exchanges, -, -⟩ := same
  refine ⟨tickets ▸ kept.ticketIds, exchanges ▸ kept.exchangeIds, ?_⟩
  rw [exchanges, tickets]
  exact kept.refers

theorem ticket_eq (kept : Keyed db) {a b : Ticket} (first : a ∈ db.tickets) (second : b ∈ db.tickets)
    (same : a.id = b.id) : a = b :=
  inj_on_of_nodup_map kept.ticketIds first second same

theorem exchange_eq (kept : Keyed db) {a b : TicketExchange} (first : a ∈ db.exchanges) (second : b ∈ db.exchanges)
    (same : a.id = b.id) : a = b :=
  inj_on_of_nodup_map kept.exchangeIds first second same

theorem slug_of_refers (kept : Keyed db) {row : TicketExchange} {ticket : Ticket} (listed : row ∈ db.exchanges)
    (mem : ticket ∈ db.tickets) (same : ticket.id = row.ticketId) : ticket.eventSlug = row.eventSlug := by
  obtain ⟨other, inTickets, id, slugs⟩ := kept.refers row listed
  exact kept.ticket_eq inTickets mem (id.trans same.symm) ▸ slugs

theorem updateTickets (kept : Keyed db) {which : Ticket → Bool} {change : Ticket → Ticket}
    (tickets : after.tickets = update db.tickets which change) (exchanges : after.exchanges = db.exchanges)
    (ids : ∀ row, (change row).id = row.id) (slugs : ∀ row, (change row).eventSlug = row.eventSlug) : Keyed after := by
  refine ⟨?_, exchanges ▸ kept.exchangeIds, ?_⟩
  · rw [tickets, map_update ids]
    exact kept.ticketIds
  · intro row mem
    obtain ⟨ticket, listed, id, slug⟩ := kept.refers row (exchanges ▸ mem)
    refine ⟨_, tickets ▸ mem_update.mpr ⟨ticket, listed, rfl⟩, ?_, ?_⟩
    · split <;> simp [ids, id]
    · split <;> simp [slugs, slug]

theorem updateExchanges (kept : Keyed db) {which : TicketExchange → Bool}
    (tickets : after.tickets = db.tickets) (exchanges : after.exchanges = update db.exchanges which change)
    (stays : ∀ row : TicketExchange, row.stays (change row)) : Keyed after := by
  refine ⟨tickets ▸ kept.ticketIds, ?_, ?_⟩
  · rw [exchanges, map_update fun row => (stays row).1]
    exact kept.exchangeIds
  · intro row mem
    obtain ⟨old, listed, rfl⟩ := mem_update.mp (exchanges ▸ mem)
    obtain ⟨ticket, inTickets, id, slugs⟩ := kept.refers old listed
    refine ⟨ticket, tickets ▸ inTickets, ?_, ?_⟩
    · split <;> simp [(stays old).2.1, id]
    · split <;> simp [(stays old).2.2.1, slugs]

theorem completeExchange (kept : Keyed db) (done : db.completeExchange now exchange = some after) : Keyed after := by
  cases completeExchange_frame done
  have moved : Keyed { db with tickets := update db.tickets exchange.moves exchange.move } :=
    kept.updateTickets rfl rfl (fun _ => rfl) fun _ => rfl
  exact moved.updateExchanges rfl rfl fun _ => ⟨rfl, rfl, rfl, rfl⟩

theorem setExchangeStatus {id : Id} {status : ExchangeStatus}
    (kept : Keyed db) (done : db.setExchangeStatus id status change = some after)
    (stays : ∀ row : TicketExchange, row.stays (change row)) : Keyed after := by
  cases setExchangeStatus_frame done
  exact kept.updateExchanges rfl rfl stays

theorem reserveExchange {id : Id} {request : ExchangeRequest} (kept : Keyed db) :
    Keyed (db.reserveExchange now id request).2 := by
  unfold Db.reserveExchange
  split
  · exact kept
  rename_i reserved passed
  obtain ⟨ticket, type, able, rfl⟩ := Db.checkExchange_ok passed
  refine ⟨kept.ticketIds, ?_, ?_⟩
  · simp only [map_append, map_cons, map_nil]
    refine nodup_append.mpr ⟨kept.exchangeIds, nodup_singleton _, ?_⟩
    intro old listed new isNew
    obtain ⟨row, inExchanges, rfl⟩ := mem_map.mp listed
    cases mem_singleton.mp isNew
    exact able.fresh row inExchanges
  · intro row listed
    rcases mem_append.mp listed with old | new
    · exact kept.refers row old
    · cases mem_singleton.mp new
      exact ⟨ticket, able.member, rfl, rfl⟩

theorem insertTickets (kept : Keyed db) {rows : List Ticket}
    (fresh : ∀ row ∈ rows, ∀ ticket ∈ db.tickets, ticket.id ≠ row.id) (unique : (rows.map (·.id)).Nodup) :
    Keyed (db.insertTickets rows) := by
  refine ⟨?_, kept.exchangeIds, ?_⟩
  · simp only [Db.insertTickets, map_append]
    refine nodup_append.mpr ⟨kept.ticketIds, unique, ?_⟩
    intro old listed new isNew
    obtain ⟨ticket, inTickets, rfl⟩ := mem_map.mp listed
    obtain ⟨row, mem, rfl⟩ := mem_map.mp isNew
    exact fresh row mem ticket inTickets
  · intro row listed
    obtain ⟨ticket, inTickets, same⟩ := kept.refers row listed
    exact ⟨ticket, mem_append_left _ inTickets, same⟩

end Keyed

theorem newRows_fresh {db : Db} (drawn : ∀ i j, ids i = ids j → i = j) {input : IssueInput} {order : Id}
    {amounts : List (Option Int)} (free : ((Db.newTickets ids amounts).any (db.ticketIdTaken ·.id)) = false) :
    (∀ row ∈ (Db.newTickets ids amounts).map (Db.newRow input order now), ∀ ticket ∈ db.tickets, ticket.id ≠ row.id) ∧
      (((Db.newTickets ids amounts).map (Db.newRow input order now)).map (·.id)).Nodup := by
  refine ⟨fun row mem ticket inTickets sameId => ?_, ?_⟩
  · obtain ⟨new, listed, rfl⟩ := mem_map.mp mem
    simp only [any_eq_false, Db.ticketIdTaken, any_eq_true, not_exists, not_and, beq_iff_eq] at free
    exact free new listed ticket inTickets sameId
  · simp only [map_map, Db.newTickets]
    refine (List.nodup_iff_getElem?_ne_getElem?).mpr fun i j before inRange sameAt => ?_
    simp only [length_map, List.length_mapIdx] at inRange
    simp only [getElem?_map, List.getElem?_mapIdx, getElem?_eq_getElem inRange,
      getElem?_eq_getElem (before.trans inRange), map_some, some.injEq, Function.comp_apply,
      Db.newRow] at sameAt
    have := drawn _ _ sameAt
    omega

theorem Ctx.ids_inj {ctx : Ctx} {worker i j : Nat} (same : ctx.ids worker i = ctx.ids worker j) : i = j :=
  congrArg Id.serial same

theorem StoreStatement.insert_cases (worker : Nat) (input : IssueInput) (amounts : List (Option Int)) (ctx : Ctx) (db : Db) :
    (StoreStatement.exec worker (.insertTicketsWithCapacity input amounts) ctx db).2 = db ∨
    ∃ rows, (StoreStatement.exec worker (.insertTicketsWithCapacity input amounts) ctx db).2 = db.insertTickets rows ∧
      rows = (Db.newTickets (ctx.ids worker) amounts).map (Db.newRow input (ctx.ids worker 0) ctx.now) ∧
      (∀ row ∈ rows, ∀ ticket ∈ db.tickets, ticket.id ≠ row.id) ∧ (rows.map (·.id)).Nodup := by
  simp only [StoreStatement.exec]
  split
  · exact .inl rfl
  rename_i free
  simp only [or_eq_true, not_or, not_eq_true] at free
  obtain ⟨_, -, same⟩ | ⟨same, -⟩ := db.insertTicketsWithCapacity_cases ctx.now input (ctx.ids worker 0)
    (Db.newTickets (ctx.ids worker) amounts)
  · exact .inl (congrArg Prod.snd same)
  · exact .inr ⟨_, congrArg Prod.snd same, rfl, newRows_fresh (fun _ _ => Ctx.ids_inj) free.2⟩

namespace Keyed

variable {db : Db}

theorem insertTicketsWithCapacity (kept : Keyed db) (worker : Nat) (input : IssueInput) (amounts : List (Option Int))
    (ctx : Ctx) : Keyed (StoreStatement.exec worker (.insertTicketsWithCapacity input amounts) ctx db).2 := by
  obtain same | ⟨rows, same, -, fresh, unique⟩ := StoreStatement.insert_cases worker input amounts ctx db
  · rwa [same]
  · rw [same]
    exact kept.insertTickets fresh unique

theorem prepareTicketRefund (kept : Keyed db) {refuses : Bool} {snapshot : Ticket}
    {allocations : List (Nat × Int)} : Keyed (db.prepareTicketRefund ids refuses snapshot allocations).2 := by
  obtain ⟨_, same⟩ | ⟨_, _, _, _, same⟩ := prepareTicketRefund_cases db ids refuses snapshot allocations <;> rw [same]
  · exact kept
  · exact kept.updateTickets rfl rfl (fun _ => rfl) fun _ => rfl

theorem settleExchangeRefund {after : Db} {payment refund : Nat} {status : RefundStatus}
    (kept : Keyed db) (done : db.settleExchangeRefund now exchange payment refund status = some after) : Keyed after := by
  have recorded : Keyed (db.updateExchangeRefund exchange.id payment fun row =>
      { row with refundRef := some refund, status := status.settlement }) :=
    kept.same ⟨rfl, rfl, rfl, rfl⟩
  obtain done | done | done | rfl := settleExchangeRefund_frame done
  · exact recorded.setExchangeStatus done fun _ => ⟨rfl, rfl, rfl, rfl⟩
  · exact recorded.setExchangeStatus done fun _ => ⟨rfl, rfl, rfl, rfl⟩
  · exact recorded.completeExchange done
  · exact recorded

theorem exchange_step (kept : Keyed db) (worker : Nat) (op : ExchangeStatement β) (ctx : Ctx) :
    Keyed (op.exec worker ctx db).2 := by
  cases op <;> simp only [ExchangeStatement.exec]
  case reserve request => exact kept.reserveExchange
  case setStatus | awaitPayment =>
    exact committed_cases kept fun after done => kept.setExchangeStatus done fun _ => ⟨rfl, rfl, rfl, rfl⟩
  case complete row => exact committed_cases kept fun after done => kept.completeExchange done
  case failRefund id payment refundStarted =>
    have recorded : Keyed (db.updateExchangeRefund id payment fun row => { row with status := .failed }) :=
      kept.same ⟨rfl, rfl, rfl, rfl⟩
    exact committed_cases kept fun after done => recorded.setExchangeStatus done fun _ => ⟨rfl, rfl, rfl, rfl⟩
  case claimAndComplete id payment =>
    split
    · exact kept
    split
    · rename_i after done
      refine Keyed.completeExchange ?_ done
      exact kept.updateExchanges rfl rfl fun _ => ⟨rfl, rfl, rfl, rfl⟩
    · exact kept
  case settleRefund row payment refund status =>
    exact committed_cases kept fun after done => kept.settleExchangeRefund done
  case expire | cancelAwaiting | setDispute =>
    exact kept.updateExchanges rfl rfl fun _ => ⟨rfl, rfl, rfl, rfl⟩
  case setTicketValidity => exact kept.updateTickets rfl rfl (fun _ => rfl) fun _ => rfl
  all_goals first | exact kept | exact kept.same ⟨rfl, rfl, rfl, rfl⟩

theorem step {provider : Provider} (kept : Keyed db) (worker : Nat) (op : Statement β) (ctx : Ctx) : Keyed (op.exec provider worker ctx db).2 := by
  cases op with
  | stripe => exact kept.same ⟨rfl, rfl, rfl, rfl⟩
  | credit op | checkout op => exact kept.same (op.sameSeats ctx db)
  | exchange op => exact kept.exchange_step worker op ctx
  | store op =>
    cases op <;> simp only [Statement.exec, StoreStatement.exec]
    case insertTicketsWithCapacity input amounts => exact kept.insertTicketsWithCapacity worker input amounts ctx
    case updateTicketType row => exact ⟨kept.ticketIds, kept.exchangeIds, kept.refers⟩
    case claimRedemption | releaseRedemption | markTicketStatus | markOrderRefunded | markTicketOrderRefundPending |
        markTicketOrderRefunded | markRefundFailed | markOrderDisputed | restoreDisputedTickets =>
      exact kept.updateTickets rfl rfl (fun _ => rfl) fun _ => rfl
    all_goals exact kept
  | refund op =>
    cases op <;> simp only [Statement.exec, RefundStatement.exec]
    case prepare snapshot allocations => exact kept.prepareTicketRefund
    case failAllocation allocation ticket partly =>
      cases partly with
      | true => exact kept.same ⟨rfl, rfl, rfl, rfl⟩
      | false => exact kept.updateTickets rfl rfl (fun _ => rfl) fun _ => rfl
    case restoreTicket ticket => exact kept.updateTickets rfl rfl (fun _ => rfl) fun _ => rfl
    all_goals exact kept.same ⟨rfl, rfl, rfl, rfl⟩

end Keyed

end MilkAndHenny.Tickets

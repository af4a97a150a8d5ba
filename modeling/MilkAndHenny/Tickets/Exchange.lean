import MilkAndHenny.Tickets.Store

/-! Ticket exchanges: the seat they hold while they wait, the refunds or payment
that settles the price difference, and the ticket they move. -/

namespace MilkAndHenny.Tickets
open Library

structure ExchangeRequest where
  managerTicketId : Option Id
  ticketId : Id
  targetTicketTypeId : Nat
  actorType : ActorType

def ExchangeRequest.purchaser (request : ExchangeRequest) : Bool := request.actorType == .purchaser

structure ReservedExchange where
  exchange : TicketExchange
  ticket : Ticket
  target : TicketTypeRow

def RefundStatus.settlement : RefundStatus → SettlementStatus
  | .succeeded => .succeeded
  | .failed | .canceled => .failed
  | .pending => .pending

def TicketExchange.moves (exchange : TicketExchange) (row : Ticket) : Bool :=
  row.id == exchange.ticketId && row.ticketTypeId == exchange.fromTicketTypeId && row.status == .valid

def TicketExchange.move (exchange : TicketExchange) (row : Ticket) : Ticket :=
  { row with
    ticketTypeId := exchange.toTicketTypeId
    amountPaidMinor := some (row.amountPaidMinor.getD 0 + exchange.amountDeltaMinor) }

namespace Db
variable {request : ExchangeRequest}

/-- The ticket the caller may change: any for staff, one of the manager's order for a purchaser. -/
def managedTicket (db : Db) (request : ExchangeRequest) : Option Ticket :=
  match request.actorType with
  | .admin => db.ticket request.ticketId
  | .purchaser =>
    (db.ticket request.ticketId).filter fun target =>
      (db.ticket (request.managerTicketId.getD request.ticketId)).any fun manager =>
        manager.orderId == target.orderId && manager.parentTicketId.isNone

/-- `ticket_exchanges_active_ticket_idx`: another exchange of the ticket is under way. -/
def activeElsewhere (db : Db) (exchange ticket : Id) : Bool :=
  db.exchanges.any fun row => row.id != exchange && row.ticketId == ticket && row.status.active

/-- What the buyer holds of the target type: by email, or by order where no email is known. -/
def exchangeHeld (db : Db) (now : Nat) (ticket : Ticket) (type : Nat) (actor : ActorType) : Nat :=
  let byOrder := db.tickets.countP fun row =>
    row.eventSlug == ticket.eventSlug && row.ticketTypeId == type && row.orderId == ticket.orderId &&
      row.status == .valid
  match ticket.email with
  | some email =>
    (if actor = .purchaser then db.sold ticket.eventSlug (some type) (some email)
      -- the staff query compares the order id with the email hash, which never match
      else 0) +
      db.countCheckoutHolds now ticket.eventSlug (some type) (some email) none +
      db.countExchangeHolds ticket.eventSlug (some type) (some email) none
  | none => byOrder + db.countExchangeHolds ticket.eventSlug (some type) none (some ticket.orderId)

def newExchange (now : Nat) (id : Id) (request : ExchangeRequest) (ticket : Ticket) (type : TicketTypeRow) :
    TicketExchange where
  id := id
  eventSlug := ticket.eventSlug
  orderId := ticket.orderId
  ticketId := ticket.id
  fromTicketTypeId := ticket.ticketTypeId
  toTicketTypeId := type.id
  actorType := request.actorType
  status := .processing
  amountDeltaMinor := type.priceMinor - ticket.amountPaidMinor.getD 0
  currency := type.currency
  checkoutRef := none
  paymentRef := none
  disputeRef := none
  createdAt := now
  completedAt := none

def checkExchange (db : Db) (now : Nat) (id : Id) (request : ExchangeRequest) : TicketOpResult ReservedExchange := do
  let ticket ← require (db.managedTicket request) 403 "This link cannot manage that ticket"
  ensure (ticket.status == .valid) 409 "Only a valid ticket can be changed"
  ensure ticket.redeemedAt.isNone 409 "This ticket has already been checked in"
  ensure (ticket.ticketTypeId != request.targetTicketTypeId) 409 "That ticket already has this type"
  let event ← require (db.event ticket.eventSlug) 404 "Event not found"
  ensure (now < event.doorsAt.getD event.startsAt) 409 "Ticket changes close when doors open"
  ensure (!request.purchaser || event.status != .cancelled) 409 "Tickets for a cancelled event cannot be changed"
  let type ← require (db.ticketType ticket.eventSlug request.targetTicketTypeId) 404 "That ticket type is not available"
  ensure (!(request.purchaser && type.hidden)) 404 "That ticket type is not available"
  ensure (!request.purchaser || (type.salesStart.all (· ≤ now) && type.salesEnd.all (now < ·))) 409
    "That ticket type is not on sale right now"
  ensure (type.currency == ticket.currency.getD type.currency) 409
    "Ticket types with different currencies cannot be exchanged"
  ensure (db.sold ticket.eventSlug (some type.id) none +
      db.countCheckoutHolds now ticket.eventSlug (some type.id) none none +
      db.countExchangeHolds ticket.eventSlug (some type.id) none none < type.quantity) 409 (soldOutMessage type.name)
  ensure (db.exchangeHeld now ticket type.id request.actorType + 1 ≤ type.perPersonLimit) 409
    (limitMessage type.perPersonLimit (if request.purchaser then "person" else "order") type.name)
  ensure (!db.activeElsewhere id ticket.id && db.exchanges.all (·.id != id)) 500
    "duplicate key value violates unique constraint"
  return { exchange := newExchange now id request ticket type, ticket, target := type }

def reserveExchange (db : Db) (now : Nat) (id : Id) (request : ExchangeRequest) :
    TicketOpResult ReservedExchange × Db :=
  match db.checkExchange now id request with
  | .error error => (.error error, db)
  | .ok reserved => (.ok reserved, { db with exchanges := db.exchanges ++ [reserved.exchange] })

structure Exchangeable (db : Db) (id : Id) (request : ExchangeRequest) (ticket : Ticket) (type : TicketTypeRow) :
    Prop where
  managed : db.managedTicket request = some ticket
  valid : ticket.status = .valid
  target : db.ticketType ticket.eventSlug request.targetTicketTypeId = some type
  other : ticket.ticketTypeId ≠ request.targetTicketTypeId
  left : db.sold ticket.eventSlug (some type.id) none +
    db.countExchangeHolds ticket.eventSlug (some type.id) none none < type.quantity
  alone : db.activeElsewhere id ticket.id = false
  fresh : ∀ row ∈ db.exchanges, row.id ≠ id

theorem checkExchange_ok {db : Db} {now : Nat} {id : Id} {reserved : ReservedExchange}
    (passed : db.checkExchange now id request = .ok reserved) :
    ∃ ticket type, db.Exchangeable id request ticket type ∧
      reserved = { exchange := newExchange now id request ticket type, ticket, target := type } := by
  simp only [checkExchange, bind_ok_iff, ensure_ok_iff, require_ok_iff, pure, Except.pure, Except.ok.injEq] at passed
  obtain ⟨ticket, managed, _, valid, _, -, _, other, event, -, _, -, _, -, type, target, _, -, _, -, _, -, _, left, _, -, _,
    unique, same⟩ := passed
  simp only [and_eq_true, not_eq_true', all_eq_true, bne_iff_ne, decide_eq_true_eq, beq_iff_eq]
    at valid other left unique
  exact ⟨ticket, type, ⟨managed, valid, target, other, by omega, unique.1, unique.2⟩, same.symm⟩

theorem Exchangeable.member {db : Db} {id : Id} {ticket : Ticket} {type : TicketTypeRow}
    (able : db.Exchangeable id request ticket type) : ticket ∈ db.tickets := by
  have managed := able.managed
  unfold managedTicket at managed
  split at managed
  · exact mem_of_find?_eq_some managed
  · exact mem_of_find?_eq_some (filter_eq_some_iff.mp managed).1

def updateExchange (db : Db) (id : Id) (change : TicketExchange → TicketExchange) : Db :=
  { db with exchanges := update db.exchanges (·.id == id) change }

/-- `completeExchange`; `none` is the error it throws, which rolls its transaction back. -/
def completeExchange (db : Db) (now : Nat) (exchange : TicketExchange) : Option Db :=
  if db.tickets.any exchange.moves then
    some { db with
      tickets := update db.tickets exchange.moves exchange.move
      exchanges := update db.exchanges (·.id == exchange.id) fun row =>
        { row with status := .completed, completedAt := some now } }
  else none

/-- Set the status of an exchange; `none` where that would break the index on active exchanges. -/
def setExchangeStatus (db : Db) (id : Id) (status : ExchangeStatus)
    (change : TicketExchange → TicketExchange) : Option Db :=
  if status.active && (db.exchange id).any (fun row => db.activeElsewhere id row.ticketId) then none
  else some (db.updateExchange id fun row => { change row with status })

/-- Completed upgrades, last first: `order by completed_at desc, created_at desc`. -/
def upgrades (db : Db) (which : TicketExchange → Bool) : List TicketExchange :=
  orderBy (fun a b => b.completedAt.getD 0 < a.completedAt.getD 0 ||
      (a.completedAt == b.completedAt && b.createdAt ≤ a.createdAt))
    (db.exchanges.filter fun row =>
      which row && row.status == .completed && decide (0 < row.amountDeltaMinor) && row.paymentRef.isSome)

def updateExchangeRefund (db : Db) (exchange : Id) (payment : Nat) (change : ExchangeRefund → ExchangeRefund) : Db :=
  { db with
    exchangeRefunds := update db.exchangeRefunds
      (fun row => row.exchangeId == exchange && row.paymentRef == payment) change }

/-- `exchangeRefundTotalForPayment`. -/
def exchangeRefundTotal (db : Db) (payment : Nat) : Int :=
  ((db.exchangeRefunds.filter fun row =>
    row.paymentRef == payment && (row.status == .processing || row.status == .pending || row.status == .succeeded)).map
      (·.amountMinor)).sum

/-- The transaction of `completePendingExchangeRefund`, with the exchange as read before it. -/
def settleExchangeRefund (db : Db) (now : Nat) (exchange : TicketExchange) (payment refund : Nat)
    (status : RefundStatus) : Option Db :=
  let db := db.updateExchangeRefund exchange.id payment fun row =>
    { row with refundRef := some refund, status := status.settlement }
  let rows := db.exchangeRefunds.filter (·.exchangeId == exchange.id)
  if status.settlement = .failed then
    db.setExchangeStatus exchange.id (if rows.any (·.status == .succeeded) then .refundPending else .failed) id
  else if rows.all (·.status == .succeeded) && exchange.status != .completed then db.completeExchange now exchange
  else some db

def setExchangeTicketValidity (db : Db) (exchange : TicketExchange) (valid : Bool) (reference : Option RefundRef) : Db :=
  { db with
    tickets := update db.tickets
      (fun row => row.id == exchange.ticketId && row.status == if valid then .void else .valid)
      fun row => { row with status := if valid then .valid else .void, refundRef := reference }
    participants := update db.participants (·.ticketId == some exchange.ticketId)
      fun row => { row with status := if valid then .active else .void } }

end Db

inductive ExchangeStatement : Type → Type where
  | reserve (request : ExchangeRequest) : ExchangeStatement (TicketOpResult ReservedExchange)
  | find (id : Id) : ExchangeStatement (Option TicketExchange)
  | findByCheckout (session : Nat) : ExchangeStatement (Option TicketExchange)
  | findByPayment (payment : Nat) : ExchangeStatement (Option TicketExchange)
  | findByDispute (payment dispute : Nat) : ExchangeStatement (Option TicketExchange)
  | ticketUpgradePayments (ticket : Id) : ExchangeStatement (List Nat)
  | orderUpgradePayments (order : Id) : ExchangeStatement (List (Id × Nat))
  | insertRefunds (exchange : Id) (allocations : List (Nat × Int)) : ExchangeStatement Unit
  | setStatus (id : Id) (status : ExchangeStatus) : ExchangeStatement Bool
  | awaitPayment (id : Id) (session : Nat) : ExchangeStatement Bool
  | complete (exchange : TicketExchange) : ExchangeStatement Bool
  | failRefund (exchange : Id) (payment : Nat) (refundStarted : Bool) : ExchangeStatement Bool
  | recordRefund (exchange : Id) (payment refund : Nat) (settled : Bool) : ExchangeStatement Unit
  | claimAndComplete (exchange : Id) (payment : Nat) : ExchangeStatement (Option Bool)
  | expire (session : Nat) : ExchangeStatement Bool
  | findRefund (refund : Nat) (key : RefundKey) : ExchangeStatement (Option ExchangeRefund)
  | settleRefund (exchange : TicketExchange) (payment refund : Nat) (status : RefundStatus) : ExchangeStatement Bool
  | refundTotalForPayment (payment : Nat) : ExchangeStatement Int
  | setTicketValidity (exchange : TicketExchange) (valid : Bool) (reference : Option RefundRef) :
      ExchangeStatement Unit
  | setDispute (exchange : Id) (dispute : Option Nat) : ExchangeStatement Unit
  | listActive (order : Id) : ExchangeStatement (List TicketExchange)
  | cancelAwaiting (exchange : Id) : ExchangeStatement Unit

/-- The reply of an update that may throw. -/
def committed (db : Db) : Option Db → Bool × Db
  | some after => (true, after)
  | none => (false, db)

def ExchangeStatement.exec {β : Type} (worker : Nat) : ExchangeStatement β → Ctx → Db → β × Db
  | .reserve request, ctx, db => db.reserveExchange ctx.now (ctx.ids worker 0) request
  | .find id, _, db => (db.exchange id, db)
  | .findByCheckout session, _, db => (db.exchanges.find? (·.checkoutRef == some session), db)
  | .findByPayment payment, _, db => (db.exchanges.find? (·.paymentRef == some payment), db)
  | .findByDispute payment dispute, _, db =>
    (db.exchanges.find? fun row => row.paymentRef == some payment && row.disputeRef == some dispute, db)
  | .ticketUpgradePayments ticket, _, db => ((db.upgrades (·.ticketId == ticket)).filterMap (·.paymentRef), db)
  | .orderUpgradePayments order, _, db =>
    ((db.upgrades (·.orderId == order)).filterMap fun row => row.paymentRef.map (row.id, ·), db)
  | .insertRefunds exchange allocations, _, db =>
    ((), { db with
      exchangeRefunds := db.exchangeRefunds ++ allocations.map fun (payment, amount) =>
        { exchangeId := exchange, paymentRef := payment, amountMinor := amount, status := .processing
          refundRef := none } })
  | .setStatus exchange status, _, db => committed db (db.setExchangeStatus exchange status id)
  | .awaitPayment exchange session, _, db =>
    committed db (db.setExchangeStatus exchange .awaitingPayment fun row => { row with checkoutRef := some session })
  | .complete exchange, ctx, db => committed db (db.completeExchange ctx.now exchange)
  | .failRefund exchange payment refundStarted, _, db =>
    committed db ((db.updateExchangeRefund exchange payment fun row => { row with status := .failed }).setExchangeStatus
      exchange (if refundStarted then .refundPending else .failed) id)
  | .recordRefund exchange payment refund settled, _, db =>
    ((), db.updateExchangeRefund exchange payment fun row =>
      { row with refundRef := some refund, status := if settled then .succeeded else .pending })
  | .claimAndComplete exchange payment, ctx, db =>
    match (db.exchange exchange).filter (·.status == .awaitingPayment) with
    | none => (some false, db)
    | some row =>
      let claimed := db.updateExchange exchange fun row =>
        { row with status := .processing, paymentRef := some payment }
      match claimed.completeExchange ctx.now { row with paymentRef := some payment } with
      | some after => (some true, after)
      | none => (none, db)
  | .expire session, _, db =>
    let which (row : TicketExchange) : Bool := row.checkoutRef == some session && row.status == .awaitingPayment
    (db.exchanges.any which,
      { db with exchanges := update db.exchanges which fun row => { row with status := .expired } })
  | .findRefund refund key, _, db =>
    (db.exchangeRefunds.find? fun row =>
      row.refundRef == some refund || key == .exchange row.exchangeId row.paymentRef, db)
  | .settleRefund exchange payment refund status, ctx, db =>
    committed db (db.settleExchangeRefund ctx.now exchange payment refund status)
  | .refundTotalForPayment payment, _, db => (db.exchangeRefundTotal payment, db)
  | .setTicketValidity exchange valid reference, _, db => ((), db.setExchangeTicketValidity exchange valid reference)
  | .setDispute exchange dispute, _, db =>
    ((), db.updateExchange exchange fun row => { row with disputeRef := dispute })
  | .listActive order, _, db => (db.exchanges.filter fun row => row.orderId == order && row.status.active, db)
  | .cancelAwaiting exchange, _, db =>
    ((), { db with
      exchanges := update db.exchanges (fun row => row.id == exchange && row.status == .awaitingPayment) fun row =>
        { row with status := .cancelled } })

end MilkAndHenny.Tickets

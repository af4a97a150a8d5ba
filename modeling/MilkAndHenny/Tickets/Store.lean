import MilkAndHenny.Tickets.Db

/-! The ticket store: issuance under the capacity check, and the statements that
change the status of tickets and of the participants they carry. -/

namespace MilkAndHenny.Tickets
open Library

structure IssueInput where
  eventSlug : Nat
  ticketTypeId : Nat
  kind : TicketKind
  email : Option Nat
  paymentRef : Option Nat
  checkoutRef : Option Nat
  capacityHoldReference : Option Nat
  amountPaidMinor : Option Int
  currency : Option Currency
  bypassCapacity : Bool
  enforceSalesWindow : Bool

structure NewTicket where
  id : Id
  parentTicketId : Option Id
  amountPaidMinor : Option Int

inductive IssueOutcome where
  | issued (tickets : List Ticket)
  | soldOut (remaining : Nat)
  | perPersonLimit (limit : Nat)
  | notOnSale
  | unknownType

namespace Db

variable (db : Db) (now : Nat)

def typeRemaining (now slug : Nat) (type : TicketTypeRow) (excludeReference : Option Nat) : Nat :=
  type.quantity - db.sold slug (some type.id) none -
    db.countCheckoutHolds now slug (some type.id) none excludeReference -
    db.countExchangeHolds slug (some type.id) none none

/-- Places left in the room; `none` where the event has no capacity of its own. -/
def eventRemaining (event : EventRow) (excludeReference : Option Nat) : Option Nat :=
  event.capacity.map fun capacity =>
    capacity - db.sold event.slug none none - db.countCheckoutHolds now event.slug none none excludeReference

def remaining (event : EventRow) (type : TicketTypeRow) (excludeReference : Option Nat) : Nat :=
  let ofType := db.typeRemaining now event.slug type excludeReference
  (db.eventRemaining now event excludeReference).elim ofType (min ofType)

def personHeld (now slug type email : Nat) (excludeReference : Option Nat) : Nat :=
  db.sold slug (some type) (some email) +
    db.countCheckoutHolds now slug (some type) (some email) excludeReference +
    db.countExchangeHolds slug (some type) (some email) none

/-- The primary key of `tickets` refuses the id. -/
def ticketIdTaken (id : Id) : Bool := db.tickets.any (·.id == id)

def insertTickets (rows : List Ticket) : Db :=
  { db with
    tickets := db.tickets ++ rows
    participants := db.participants ++ rows.map fun row =>
      { id := row.id, eventSlug := row.eventSlug, ticketId := some row.id, status := .active } }

/-- The first check of `issueTickets` on the sales window, made again under the locks. -/
def saleRefusal (now slug id : Nat) : Option OpError :=
  match db.event slug, db.ticketType slug id with
  | some event, some type =>
    if type.hidden then some ⟨404, "Ticket type not found"⟩
    else if event.status = .cancelled then some ⟨409, "This event has been cancelled"⟩
    else if event.status = .soldOut then none
    else if event.endsAt.getD event.startsAt < now then some ⟨409, "Ticket sales have closed"⟩
    else if type.salesStart.any (now < ·) then some ⟨409, "Tickets aren't on sale yet"⟩
    else if type.salesEnd.any (· < now) then some ⟨409, "Ticket sales have closed"⟩
    else none
  | _, _ => some ⟨404, "Ticket type not found"⟩

def newTickets (ids : Nat → Id) (amounts : List (Option Int)) : List NewTicket :=
  amounts.mapIdx fun index amount =>
    { id := ids (index + 1), parentTicketId := if index = 0 then none else some (ids 1), amountPaidMinor := amount }

def newRow (input : IssueInput) (order : Id) (now : Nat) (ticket : NewTicket) : Ticket where
  id := ticket.id
  eventSlug := input.eventSlug
  ticketTypeId := input.ticketTypeId
  kind := input.kind
  status := .valid
  email := input.email
  orderId := order
  parentTicketId := ticket.parentTicketId
  issuedAt := now
  redeemedAt := none
  paymentRef := input.paymentRef
  checkoutRef := input.checkoutRef
  amountPaidMinor := ticket.amountPaidMinor.orElse fun _ => input.amountPaidMinor
  currency := input.currency
  refundedAt := none
  refundRef := none

def insertTicketsWithCapacity (input : IssueInput) (order : Id) (newTickets : List NewTicket) :
    IssueOutcome × Db :=
  let rows := newTickets.map (newRow input order now)
  let insert : IssueOutcome × Db := (.issued rows, db.insertTickets rows)
  match db.event input.eventSlug, db.ticketType input.eventSlug input.ticketTypeId with
  | some event, some type =>
    if input.enforceSalesWindow && type.hidden then (.unknownType, db)
    else if input.enforceSalesWindow && !onSale event type now then (.notOnSale, db)
    else if input.bypassCapacity then insert
    else if input.email.any fun email =>
        type.perPersonLimit <
          db.personHeld now event.slug type.id email input.capacityHoldReference + newTickets.length then
      (.perPersonLimit type.perPersonLimit, db)
    else
      let remaining := db.remaining now event type input.capacityHoldReference
      if remaining < newTickets.length then (.soldOut remaining, db) else insert
  | _, _ => (.unknownType, db)

theorem insertTicketsWithCapacity_cases (db : Db) (now : Nat) (input : IssueInput) (order : Id) (tickets : List NewTicket) :
    (∃ outcome, (∀ rows, outcome ≠ .issued rows) ∧
      db.insertTicketsWithCapacity now input order tickets = (outcome, db)) ∨
    (db.insertTicketsWithCapacity now input order tickets =
        (.issued (tickets.map (newRow input order now)), db.insertTickets (tickets.map (newRow input order now))) ∧
      (input.bypassCapacity = false → ∃ event type, db.event input.eventSlug = some event ∧
        db.ticketType input.eventSlug input.ticketTypeId = some type ∧
        tickets.length ≤ db.remaining now event type input.capacityHoldReference)) := by
  unfold insertTicketsWithCapacity
  simp only
  split
  · rename_i event type foundEvent foundType
    split
    · exact .inl ⟨_, by simp, rfl⟩
    split
    · exact .inl ⟨_, by simp, rfl⟩
    split
    · rename_i bypass
      exact .inr ⟨rfl, fun no => by simp [no] at bypass⟩
    split
    · exact .inl ⟨_, by simp, rfl⟩
    split
    · exact .inl ⟨_, by simp, rfl⟩
    · rename_i fits
      exact .inr ⟨rfl, fun _ => ⟨event, type, foundEvent, foundType, Nat.le_of_not_lt fits⟩⟩
  · exact .inl ⟨_, by simp, rfl⟩

/-- `update tickets … returning *`, and the status of the participants of the rows it returned. -/
def changeTickets (which : Ticket → Bool) (change : Ticket → Ticket) (status : ParticipantStatus) :
    List Ticket × Db :=
  let affected := db.tickets.filter which
  (affected.map change,
    { db with
      tickets := update db.tickets which change
      participants := update db.participants (fun row => affected.any fun ticket => row.ticketId == some ticket.id)
        fun row => { row with status } })

def markTicketStatus (id : Id) (refunded : Bool) (refundRef : Option RefundRef) :
    List Ticket × Db :=
  db.changeTickets (·.id == id)
    (fun row => { row with
      status := if refunded then .refunded else .void
      refundedAt := if refunded then some now else row.refundedAt
      refundRef := refundRef.orElse fun _ => row.refundRef })
    (if refunded then .refunded else .void)

def coveredPrefix : List Ticket → Int → List Ticket
  | [], _ => []
  | row :: rows, remaining =>
    let price := row.amountPaidMinor.getD 0
    if price ≤ 0 ∨ remaining < price then [] else row :: coveredPrefix rows (remaining - price)

def paymentOrder (payment : Nat) : List Ticket :=
  orderBy Ticket.le (db.tickets.filter (·.paymentRef == some payment))

/-- The rows of the payment that `markOrderRefunded` takes as paid back. -/
def coveredTickets (payment : Nat) (amountRefundedMinor : Int) : List Ticket :=
  let order := db.paymentOrder payment
  if 0 < amountRefundedMinor ∧ amountRefundedMinor < (order.map fun row => row.amountPaidMinor.getD 0).sum then
    coveredPrefix order amountRefundedMinor
  else order

def toRefund (payment : Nat) (amountRefundedMinor : Int) : List Ticket :=
  (db.coveredTickets payment amountRefundedMinor).filter (·.status != .refunded)

def markOrderRefunded (payment : Nat) (refundRef : RefundRef) (amountRefundedMinor : Int) :
    List Ticket × Db :=
  let ids := (db.toRefund payment amountRefundedMinor).map (·.id)
  db.changeTickets (fun row => ids.contains row.id)
    (fun row => { row with status := .refunded, refundedAt := some now, refundRef := some refundRef }) .refunded

def markTicketOrderRefundPending (order : Id) (refundRef : RefundRef) : List Ticket × Db :=
  db.changeTickets (fun row => row.orderId == order && row.status == .valid)
    (fun row => { row with status := .void, refundRef := some refundRef }) .void

def markTicketOrderRefunded (order : Id) (refundRef : RefundRef) : List Ticket × Db :=
  db.changeTickets (fun row => row.orderId == order && row.status != .refunded)
    (fun row => { row with status := .refunded, refundedAt := some now, refundRef := some refundRef }) .refunded

def markRefundFailed (refundRef : RefundRef) : List Ticket × Db :=
  db.changeTickets (fun row => row.refundRef == some refundRef && row.status == .refunded)
    (fun row => { row with status := .void, refundedAt := none }) .void

def markOrderDisputed (payment dispute : Nat) : List Ticket × Db :=
  db.changeTickets (fun row => row.paymentRef == some payment && row.status == .valid)
    (fun row => { row with status := .void, refundRef := some (.dispute dispute) }) .void

def disputedBy (payment dispute : Nat) (row : Ticket) : Bool :=
  row.paymentRef == some payment && row.status == .void && row.refundRef == some (.dispute dispute) &&
    row.refundedAt.isNone

def restoreDisputedTickets (payment dispute : Nat) : List Ticket × Db :=
  db.changeTickets (disputedBy payment dispute)
    (fun row => { row with status := .valid, refundRef := none }) .active

def voided (id : Id) (row : Ticket) : Bool := row.id == id && row.status == .void

/-- `claimRedemption`, the single admission at the door. -/
def claimRedemption (id : Id) : Db :=
  { db with
    tickets := update db.tickets (fun row => row.id == id && row.redeemedAt.isNone && row.status == .valid)
      fun row => { row with redeemedAt := some now } }

def releaseRedemption (id : Id) : Db :=
  { db with tickets := update db.tickets (·.id == id) fun row => { row with redeemedAt := none } }

def listTicketsForOrder (order : Id) : List Ticket :=
  orderBy (fun a b => (a.parentTicketId.isNone && b.parentTicketId.isSome) ||
    (a.parentTicketId.isNone == b.parentTicketId.isNone && a.le b)) (db.tickets.filter (·.orderId == order))

def listTicketsForCheckout (session : Nat) : List Ticket :=
  orderBy (fun a b => a.issuedAt ≤ b.issuedAt) (db.tickets.filter (·.checkoutRef == some session))

end Db

inductive StoreStatement : Type → Type where
  | getEvent (slug : Nat) : StoreStatement (Option EventRow)
  | getTicketType (slug id : Nat) : StoreStatement (Option TicketTypeRow)
  | checkSale (slug id : Nat) : StoreStatement (Option OpError)
  | getTicket (id : Id) : StoreStatement (Option Ticket)
  | listTicketsForOrder (order : Id) : StoreStatement (List Ticket)
  | listTicketsForCheckout (session : Nat) : StoreStatement (List Ticket)
  | insertTicketsWithCapacity (input : IssueInput) (amounts : List (Option Int)) :
      StoreStatement (Option (Id × IssueOutcome))
  | markTicketStatus (id : Id) (refunded : Bool) (refundRef : Option RefundRef) : StoreStatement (List Ticket)
  | markOrderRefunded (payment : Nat) (refundRef : RefundRef) (amount : Int) : StoreStatement (List Ticket)
  | markTicketOrderRefundPending (order : Id) (refundRef : RefundRef) : StoreStatement (List Ticket)
  | markTicketOrderRefunded (order : Id) (refundRef : RefundRef) : StoreStatement (List Ticket)
  | markRefundFailed (refundRef : RefundRef) : StoreStatement (List Ticket)
  | markOrderDisputed (payment dispute : Nat) : StoreStatement (List Ticket)
  | restoreDisputedTickets (payment dispute : Nat) : StoreStatement (List Ticket)
  | claimRedemption (id : Id) : StoreStatement Unit
  | releaseRedemption (id : Id) : StoreStatement Unit
  | updateTicketType (row : TicketTypeRow) : StoreStatement Unit

def StoreStatement.exec {β : Type} (worker : Nat) : StoreStatement β → Ctx → Db → β × Db
  | .getEvent slug, _, db => (db.event slug, db)
  | .getTicketType slug id, _, db => (db.ticketType slug id, db)
  | .checkSale slug id, ctx, db => (db.saleRefusal ctx.now slug id, db)
  | .getTicket id, _, db => (db.ticket id, db)
  | .listTicketsForOrder order, _, db => (db.listTicketsForOrder order, db)
  | .listTicketsForCheckout session, _, db => (db.listTicketsForCheckout session, db)
  | .insertTicketsWithCapacity input amounts, ctx, db =>
    let ids := ctx.ids worker
    let rows := Db.newTickets ids amounts
    if ctx.fault || rows.any (db.ticketIdTaken ·.id) then (none, db)
    else
      let result := db.insertTicketsWithCapacity ctx.now input (ids 0) rows
      (some (ids 0, result.1), result.2)
  | .markTicketStatus id refunded refundRef, ctx, db => db.markTicketStatus ctx.now id refunded refundRef
  | .markOrderRefunded payment refundRef amount, ctx, db => db.markOrderRefunded ctx.now payment refundRef amount
  | .markTicketOrderRefundPending order refundRef, _, db => db.markTicketOrderRefundPending order refundRef
  | .markTicketOrderRefunded order refundRef, ctx, db => db.markTicketOrderRefunded ctx.now order refundRef
  | .markRefundFailed refundRef, _, db => db.markRefundFailed refundRef
  | .markOrderDisputed payment dispute, _, db => db.markOrderDisputed payment dispute
  | .restoreDisputedTickets payment dispute, _, db => db.restoreDisputedTickets payment dispute
  | .claimRedemption id, ctx, db => ((), db.claimRedemption ctx.now id)
  | .releaseRedemption id, _, db => ((), db.releaseRedemption id)
  | .updateTicketType row, _, db =>
    ((), { db with
      ticketTypes := update db.ticketTypes (fun old => old.eventSlug == row.eventSlug && old.id == row.id)
        fun _ => row })

end MilkAndHenny.Tickets

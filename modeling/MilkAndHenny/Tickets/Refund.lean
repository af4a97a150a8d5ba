import MilkAndHenny.Tickets.Store

/-! The refund of one ticket: a request voids the ticket and reserves an allocation
for every payment that pays it back; each allocation is settled on its own. -/

namespace MilkAndHenny.Tickets
open Library

structure PreparedRefund where
  ticket : Ticket
  requestId : Id
  allocations : List RefundAllocation

namespace Db

def activeAllocation (row : RefundAllocation) : Bool :=
  row.state == .processing || row.state == .pending || row.state == .succeeded

def newAllocations (ids : Nat → Id) (ticket : Ticket) (currency : Currency) (allocations : List (Nat × Int)) :
    List RefundAllocation :=
  allocations.mapIdx fun index (payment, amount) =>
    { id := ids (index + 1), requestId := ids 0, ticketId := ticket.id, eventSlug := ticket.eventSlug
      paymentRef := payment, amountMinor := amount, currency, state := .processing, refundRef := none }

def setTicketStatus (db : Db) (which : Ticket → Bool) (status : TicketStatus)
    (whose : Participant → Bool) (participant : ParticipantStatus) : Db :=
  { db with
    tickets := update db.tickets which fun row => { row with status }
    participants := update db.participants whose fun row => { row with status := participant } }

/-- The checks of the transaction of `refundTicket` on a ticket that is not refunded yet. -/
def checkTicketRefund (db : Db) (transferRefuses : Bool) (snapshot ticket : Ticket) (allocations : List (Nat × Int)) :
    TicketOpResult Currency := do
  ensure (ticket.status == .valid) 409 "This ticket is not refundable"
  ensure ticket.redeemedAt.isNone 409 "This ticket has already checked in"
  let amount ← require (ticket.amountPaidMinor.filter (· ≠ 0)) 400 "This ticket has no refundable payment"
  let currency ← require ticket.currency 400 "This ticket has no refundable payment"
  ensure ticket.paymentRef.isSome 400 "This ticket has no refundable payment"
  ensure (ticket.paymentRef == snapshot.paymentRef && ticket.amountPaidMinor == snapshot.amountPaidMinor &&
      ticket.currency == snapshot.currency && (allocations.map Prod.snd).sum == amount) 409
    "The ticket changed while its refund was being prepared. Try again."
  ensure (!db.exchanges.any fun row => row.ticketId == ticket.id && row.status.active) 409
    "Finish or cancel the ticket change first"
  ensure (!transferRefuses) 409 "A transferred ticket needs the current holder's consent before refund"
  ensure (!db.refundAllocations.any fun row => row.ticketId == ticket.id && activeAllocation row &&
      (allocations.map Prod.fst).contains row.paymentRef) 500 "duplicate key value violates unique constraint"
  return currency

/-- The transaction of `refundTicket` that reserves the allocations; `none` means already refunded. -/
def prepareTicketRefund (db : Db) (ids : Nat → Id) (transferRefuses : Bool) (snapshot : Ticket)
    (allocations : List (Nat × Int)) : TicketOpResult (Option PreparedRefund) × Db :=
  match db.ticket snapshot.id with
  | none => (refuse 404 "Ticket not found", db)
  | some ticket =>
    if ticket.status = .refunded then (.ok none, db)
    else
      match db.checkTicketRefund transferRefuses snapshot ticket allocations with
      | .error error => (.error error, db)
      | .ok currency =>
        let rows := newAllocations ids ticket currency allocations
        let voided := db.setTicketStatus (·.id == ticket.id) .void (·.ticketId == some ticket.id) .void
        (.ok (some { ticket, requestId := ids 0, allocations := rows }),
          { voided with refundAllocations := db.refundAllocations ++ rows })

def updateAllocation (db : Db) (which : RefundAllocation → Bool) (change : RefundAllocation → RefundAllocation) : Db :=
  { db with refundAllocations := update db.refundAllocations which change }

def restoreRefundedTicket (db : Db) (ticket : Id) : Db :=
  { db with
    tickets := update db.tickets (voided ticket) fun row => { row with status := .valid } }

def restoreRefundedParticipant (db : Db) (ticket : Id) : Db :=
  { db with
    participants := update db.participants (fun row => row.ticketId == some ticket && row.status == .void)
      fun row => { row with status := .active } }

end Db

inductive RefundStatement : Type → Type where
  | prepare (snapshot : Ticket) (allocations : List (Nat × Int)) : RefundStatement (TicketOpResult (Option PreparedRefund))
  | failAllocation (allocation ticket : Id) (partly : Bool) : RefundStatement Unit
  | recordAllocation (allocation : Id) (settled : Bool) (refund : Nat) : RefundStatement Unit
  | findAllocation (refund : Nat) : RefundStatement (Option RefundAllocation)
  | settleAllocation (refund : Nat) (succeeded : Bool) : RefundStatement (Option RefundAllocation)
  | requestAllocations (request : Id) : RefundStatement (List RefundAllocation)
  | restoreTicket (ticket : Id) : RefundStatement Unit
  | restoreParticipant (ticket : Id) : RefundStatement Unit

def RefundStatement.exec {β : Type} (worker : Nat) : RefundStatement β → Ctx → Db → β × Db
  | .prepare snapshot allocations, ctx, db =>
    db.prepareTicketRefund (ctx.ids worker) ctx.transferRefuses snapshot allocations
  | .failAllocation allocation ticket partly, _, db =>
    let failed := db.updateAllocation (·.id == allocation) fun row => { row with state := .failed }
    ((), if partly then failed else (failed.restoreRefundedTicket ticket).restoreRefundedParticipant ticket)
  | .recordAllocation allocation settled refund, _, db =>
    ((), db.updateAllocation (·.id == allocation) fun row =>
      { row with state := if settled then .succeeded else .pending, refundRef := some refund })
  | .findAllocation refund, _, db => (db.refundAllocations.find? (·.refundRef == some refund), db)
  | .settleAllocation refund succeeded, _, db =>
    let which (row : RefundAllocation) : Bool :=
      row.refundRef == some refund && (row.state == .processing || row.state == .pending)
    (db.refundAllocations.find? which,
      db.updateAllocation which fun row => { row with state := if succeeded then .succeeded else .failed })
  | .requestAllocations request, _, db => (db.refundAllocations.filter (·.requestId == request), db)
  | .restoreTicket ticket, _, db => ((), db.restoreRefundedTicket ticket)
  | .restoreParticipant ticket, _, db => ((), db.restoreRefundedParticipant ticket)

end MilkAndHenny.Tickets

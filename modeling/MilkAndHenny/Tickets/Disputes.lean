import MilkAndHenny.Tickets.Conduct

/-! Chargebacks. A ticket is void while a dispute on a payment that funds it is open,
and a won dispute gives back what that dispute took away. -/

namespace MilkAndHenny.Tickets
variable {db after : Db} {row : Ticket} {which : Ticket → Bool}
variable {dispute : Nat} {entry : Entry} {rows : List Ticket} {change : Ticket → Ticket} {ticket : Id} {payment : Nat}
  {history : List Entry}
open Library

namespace Entry

def opens : Entry → Option (Nat × Nat)
  | .opened dispute payment _ => some (dispute, payment)
  | _ => none

def restated : Entry → List Id
  | .opened _ _ tickets | .won _ tickets | .changed tickets => tickets
  | _ => []

def passes : Entry → Bool
  | .claimed _ _ | .received _ _ => true
  | _ => false

theorem opens_of_passes (passes : entry.passes) : entry.opens = none := by
  cases entry <;> first | rfl | cases passes

end Entry

def madeVoidBy (ticket : Id) : List Entry → Option Nat
  | [] => none
  | entry :: older => if ticket ∈ entry.restated then entry.opens.map Prod.fst else madeVoidBy ticket older

/-- Each win has made valid exactly the tickets that its dispute had made void. -/
def Fair : List Entry → Prop
  | [] => True
  | .won dispute tickets :: older =>
    (∀ ticket, ticket ∈ tickets ↔ madeVoidBy ticket older = some dispute) ∧ Fair older
  | _ :: older => Fair older

section
variable {entries history : List Entry} (passing : ∀ entry ∈ entries, entry.passes)
include passing

theorem madeVoidBy_append (ticket : Id) : madeVoidBy ticket (entries ++ history) = madeVoidBy ticket history := by
  induction entries with
  | nil => rfl
  | cons entry older ih =>
    rw [forall_mem_cons] at passing
    have nothing : entry.restated = [] := by cases entry <;> first | rfl | cases passing.1
    rw [cons_append, madeVoidBy, nothing, if_neg not_mem_nil]
    exact ih passing.2

theorem fair_append : Fair (entries ++ history) ↔ Fair history := by
  induction entries with
  | nil => rfl
  | cons entry older ih =>
    rw [forall_mem_cons] at passing
    cases entry <;> first | exact ih passing.2 | cases passing.1

end

def Ticket.disputeRef (row : Ticket) : Option Nat :=
  match row.refundRef with
  | some (.dispute dispute) => some dispute
  | _ => none

theorem refundRef_of_disputeRef (marked : row.disputeRef = some dispute) : row.refundRef = some (.dispute dispute) := by
  unfold Ticket.disputeRef at marked
  split at marked
  · rename_i found
    rw [found, some.inj marked]
  · cases marked

namespace Db

def funds (db : Db) (payment : Nat) (row : Ticket) : Bool :=
  row.paymentRef == some payment ||
    db.exchanges.any fun exchange => exchange.ticketId == row.id && exchange.paymentRef == some payment

/-- The shop has been told of a dispute on the payment that the provider has not closed. -/
def underDispute (db : Db) (payment : Nat) : Bool :=
  db.history.any fun entry => entry.opens.any fun (dispute, about) => about == payment && db.stripe.disputeOpen dispute

def contested (db : Db) (row : Ticket) : Bool :=
  db.history.any fun entry => entry.opens.any fun (dispute, payment) => db.stripe.disputeOpen dispute && db.funds payment row

/-- The tickets that a failed refund makes valid are not in dispute and have not been paid back. -/
def mayRestore (db : Db) (ticket : Id) : Bool :=
  db.tickets.all fun row => !voided ticket row ||
    (!db.contested row && row.disputeRef.isNone && row.refundedAt.isNone)

end Db

/-- What makes tickets valid again leaves alone those in dispute, what ties a ticket to
a payment finds no dispute on it, and nothing overwrites the mark of a dispute. -/
def disputesKept : Condition Statement Ctx Db
  | _, _, _, .refund (.failAllocation _ ticket false), _, db => db.mayRestore ticket
  | _, _, _, .refund (.restoreTicket ticket), _, db => db.mayRestore ticket
  | _, _, _, .exchange (.setTicketValidity exchange true _), _, db =>
    db.tickets.all fun row => !Db.voided exchange.ticketId row ||
      (!db.contested row && row.disputeRef == exchange.disputeRef && row.refundedAt.isNone)
  | _, _, _, .store (.restoreDisputedTickets payment dispute), _, db =>
    db.tickets.all fun row => row.status != .void || row.disputeRef != some dispute || row.refundedAt.isSome ||
      (!db.contested row && row.paymentRef == some payment)
  | _, _, _, .store (.markOrderDisputed payment _), _, db =>
    db.tickets.all fun row => row.status != .valid || row.paymentRef == some payment || !db.funds payment row
  | _, _, _, .store (.markTicketStatus id false (some _)), _, db =>
    db.tickets.all fun row => !Db.voided id row || row.disputeRef.isNone || row.refundedAt.isSome
  | _, _, _, .store (.insertTicketsWithCapacity input _), _, db => input.paymentRef.all (!db.underDispute ·)
  | _, _, _, .exchange (.claimAndComplete _ payment), _, db => !db.underDispute payment
  | _, _, _, _, _, _ => true

/-- How the rows of tickets and the history agree about disputes. -/
structure Settled (db : Db) : Prop where
  told : ∀ entry ∈ db.history, ∀ dispute payment, entry.opens = some (dispute, payment) →
    db.stripe.disputed dispute = some payment ∧ ∀ ticket ∈ entry.restated,
      (∃ row ∈ db.tickets, row.id = ticket ∧ row.paymentRef = some payment) ∨
      ∃ row ∈ db.exchanges, row.ticketId = ticket ∧ db.stripe.reference payment = some (.exchange row.id)
  valid : ∀ row ∈ db.tickets, row.status = .valid →
    db.contested row = false ∧ row.disputeRef = none ∧ row.refundedAt = none
  void : ∀ row ∈ db.tickets, row.status = .void → row.refundedAt = none → ∀ dispute, row.disputeRef = some dispute →
    madeVoidBy row.id db.history = some dispute
  made : ∀ ticket dispute, madeVoidBy ticket db.history = some dispute →
    ∃ row ∈ db.tickets, row.id = ticket ∧ row.status = .void ∧ row.disputeRef = some dispute ∧ row.refundedAt = none
  refunded : ∀ row ∈ db.tickets, row.status = .refunded → row.refundedAt.isSome
  fair : Fair db.history

theorem restated_append (tickets : after.tickets = db.tickets ++ rows) : restated db after = [] := by
  rw [restated, tickets]
  induction db.tickets with
  | nil => rfl
  | cons row others ih => simpa using ih

theorem mem_restated (tickets : after.tickets = update db.tickets which change)
    : ticket ∈ restated db after ↔
      ∃ row ∈ db.tickets, row.id = ticket ∧ which row ∧ (change row).status ≠ row.status := by
  rw [restated, tickets, update, ← List.map_prod_left_eq_zip, filter_map, map_map]
  simp only [mem_map, mem_filter, Function.comp_apply, bne_iff_ne]
  constructor
  · rintro ⟨row, ⟨mem, changed⟩, rfl⟩
    split at changed
    · exact ⟨row, mem, rfl, ‹_›, changed.symm⟩
    · exact absurd rfl changed
  · rintro ⟨row, mem, rfl, picked, changed⟩
    exact ⟨row, ⟨mem, by rw [if_pos picked]; exact changed.symm⟩, rfl⟩

/-- What one statement makes of a ticket, if `maker` is the dispute that it applies. -/
structure Retold (maker : Option Nat) (row after : Ticket) : Prop where
  fixed : after.fixed = row.fixed
  valid : after.status = .valid → after.disputeRef = none ∧ after.refundedAt = none
  refunded : after.status = .refunded → after.refundedAt.isSome
  stays : after.status = .void → row.status = .void → ∀ dispute,
    (after.disputeRef = some dispute ∧ after.refundedAt = none ↔ row.disputeRef = some dispute ∧ row.refundedAt = none)
  becomes : after.status = .void → row.status ≠ .void → ∀ dispute,
    (after.disputeRef = some dispute ∧ after.refundedAt = none ↔ maker = some dispute)
  leaves : after.status ≠ .void → row.status ≠ after.status → maker = none

namespace Retold

variable {after : Ticket}

theorem of_refunded (fixed : after.fixed = row.fixed) (refunded : after.status = .refunded) (since : after.refundedAt.isSome) :
    Retold none row after := by
  refine ⟨fixed, fun now => ?_, fun _ => since, fun now => ?_, fun now => ?_, fun _ _ => rfl⟩ <;>
    simp [refunded] at now

theorem of_valid (fixed : after.fixed = row.fixed) (valid : after.status = .valid) (unmarked : after.disputeRef = none)
    (unpaid : after.refundedAt = none) : Retold none row after := by
  refine ⟨fixed, fun _ => ⟨unmarked, unpaid⟩, fun now => ?_, fun now => ?_, fun now => ?_, fun _ _ => rfl⟩ <;>
    simp [valid] at now

theorem of_void (fixed : after.fixed = row.fixed) (void : after.status = .void)
    (stays : row.status = .void → ∀ dispute, (after.disputeRef = some dispute ∧ after.refundedAt = none ↔
      row.disputeRef = some dispute ∧ row.refundedAt = none))
    (unmarked : row.status ≠ .void → ∀ dispute, ¬ (after.disputeRef = some dispute ∧ after.refundedAt = none)) :
    Retold none row after := by
  refine ⟨fixed, fun now => ?_, fun now => ?_, fun _ => stays, fun _ was dispute => ?_, fun _ _ => rfl⟩
  · simp [void] at now
  · simp [void] at now
  · exact ⟨fun marked => absurd marked (unmarked was dispute), nofun⟩

end Retold

namespace Settled

/-- A statement that updates tickets, with the dispute that it applies if it applies one. -/
theorem updateTickets (keyed : Keyed db) (settled : Settled db)     (tickets : after.tickets = update db.tickets which change) (maker : Option Nat)
    (retold : ∀ row ∈ db.tickets, which row → Retold maker row (change row))
    (history : ∀ ticket, madeVoidBy ticket after.history =
      if ticket ∈ restated db after then maker else madeVoidBy ticket db.history)
    (told : ∀ entry ∈ after.history, ∀ dispute payment, entry.opens = some (dispute, payment) →
      after.stripe.disputed dispute = some payment ∧ ∀ ticket ∈ entry.restated,
        (∃ row ∈ after.tickets, row.id = ticket ∧ row.paymentRef = some payment) ∨
        ∃ row ∈ after.exchanges, row.ticketId = ticket ∧ after.stripe.reference payment = some (.exchange row.id))
    (contested : ∀ row ∈ after.tickets, row.status = .valid → after.contested row = false)
    (fair : Fair after.history) : Settled after := by
  have ids : ∀ row ∈ db.tickets, which row → (change row).id = row.id := fun row mem picked =>
    (congrArg Ticket.id (retold row mem picked).fixed :)
  have changed : ∀ row ∈ db.tickets, row.id ∈ restated db after ↔ which row ∧ (change row).status ≠ row.status := by
    intro row mem
    rw [mem_restated tickets]
    constructor
    · rintro ⟨other, listed, same, holds⟩
      exact keyed.ticket_eq listed mem same ▸ holds
    · exact fun holds => ⟨row, mem, rfl, holds⟩
  refine ⟨told, fun row mem valid => ⟨contested row mem valid, ?_⟩, ?_, ?_, ?_, fair⟩
  · obtain ⟨old, listed, rfl⟩ := mem_update.mp (tickets ▸ mem)
    split at valid
    · rename_i picked
      rw [if_pos picked]
      exact (retold old listed picked).valid valid
    · rename_i other
      rw [if_neg other]
      exact (settled.valid old listed valid).2
  · intro row mem void unpaid dispute ref
    obtain ⟨old, listed, rfl⟩ := mem_update.mp (tickets ▸ mem)
    by_cases picked : which old = true
    · rw [if_pos picked] at void unpaid ref ⊢
      rw [history, ids old listed picked]
      by_cases was : old.status = .void
      · rw [if_neg fun inside => ((changed old listed).mp inside).2 (void.trans was.symm)]
        obtain ⟨oldRef, oldUnpaid⟩ := ((retold old listed picked).stays void was dispute).mp ⟨ref, unpaid⟩
        exact settled.void old listed was oldUnpaid dispute oldRef
      · rw [if_pos ((changed old listed).mpr ⟨picked, fun same => was (same.symm.trans void)⟩)]
        exact ((retold old listed picked).becomes void was dispute).mp ⟨ref, unpaid⟩
    · rw [if_neg picked] at void unpaid ref ⊢
      rw [history, if_neg fun inside => picked ((changed old listed).mp inside).1]
      exact settled.void old listed void unpaid dispute ref
  · intro ticket dispute isMade
    rw [history] at isMade
    split at isMade
    · rename_i inside
      obtain ⟨row, mem, rfl, picked, differs⟩ := (mem_restated tickets).mp inside
      have void : (change row).status = .void := by
        by_contra other
        rw [(retold row mem picked).leaves other (Ne.symm differs)] at isMade
        cases isMade
      obtain ⟨ref, unpaid⟩ := ((retold row mem picked).becomes void (fun was => differs (void.trans was.symm)) dispute).mpr isMade
      refine ⟨change row, ?_, ids row mem picked, void, ref, unpaid⟩
      rw [tickets]
      exact mem_update.mpr ⟨row, mem, by rw [if_pos picked]⟩
    · rename_i outside
      obtain ⟨row, mem, rfl, void, ref, unpaid⟩ := settled.made ticket dispute isMade
      by_cases picked : which row = true
      · have stillVoid : (change row).status = .void := by
          by_contra other
          exact outside ((changed row mem).mpr ⟨picked, fun same => other (same.trans void)⟩)
        obtain ⟨newRef, newUnpaid⟩ := ((retold row mem picked).stays stillVoid void dispute).mpr ⟨ref, unpaid⟩
        refine ⟨change row, ?_, ids row mem picked, stillVoid, newRef, newUnpaid⟩
        rw [tickets]
        exact mem_update.mpr ⟨row, mem, by rw [if_pos picked]⟩
      · refine ⟨row, ?_, rfl, void, ref, unpaid⟩
        rw [tickets]
        exact mem_update.mpr ⟨row, mem, by rw [if_neg picked]⟩
  · intro row mem refunded
    obtain ⟨old, listed, rfl⟩ := mem_update.mp (tickets ▸ mem)
    split at refunded
    · rename_i picked
      rw [if_pos picked]
      exact (retold old listed picked).refunded refunded
    · rename_i other
      rw [if_neg other]
      exact settled.refunded old listed refunded

end Settled

namespace Db

variable {payment : Nat}

theorem contested_iff : db.contested row ↔ ∃ entry ∈ db.history, ∃ dispute payment,
    entry.opens = some (dispute, payment) ∧ db.stripe.disputeOpen dispute ∧ db.funds payment row := by
  simp [contested, Option.any_eq_true]

theorem underDispute_iff : db.underDispute payment ↔ ∃ entry ∈ db.history, ∃ dispute,
    entry.opens = some (dispute, payment) ∧ db.stripe.disputeOpen dispute := by
  simp [underDispute, Option.any_eq_true]

theorem funds_iff : db.funds payment row ↔
    row.paymentRef = some payment ∨ ∃ exchange ∈ db.exchanges, exchange.ticketId = row.id ∧ exchange.paymentRef = some payment := by
  simp [funds]

end Db

namespace Settled

variable {change : Ticket → Ticket}

theorem told_later (settled : Settled db) (grows : Grows db after)
    (tickets : ∀ row ∈ db.tickets, ∃ later ∈ after.tickets, later.fixed = row.fixed)
    (listed : entry ∈ db.history) (opens : entry.opens = some (dispute, payment)) :
    after.stripe.disputed dispute = some payment ∧ ∀ ticket ∈ entry.restated,
      (∃ row ∈ after.tickets, row.id = ticket ∧ row.paymentRef = some payment) ∨
      ∃ row ∈ after.exchanges, row.ticketId = ticket ∧ after.stripe.reference payment = some (.exchange row.id) := by
  obtain ⟨about, funded⟩ := settled.told entry listed dispute payment opens
  refine ⟨grows.stripe.disputed _ _ about, fun ticket inside => ?_⟩
  rcases funded ticket inside with ⟨row, mem, rfl, paid⟩ | ⟨row, mem, rfl, reference⟩
  · obtain ⟨later, inAfter, same⟩ := tickets row mem
    exact .inl ⟨later, inAfter, (congrArg Ticket.id same :), (congrArg Ticket.paymentRef same :).trans paid⟩
  · obtain ⟨later, inAfter, same⟩ := grows.exchanges row mem
    have sameId : later.id = row.id := (congrArg TicketExchange.id same :)
    refine .inr ⟨later, inAfter, (congrArg TicketExchange.ticketId same :), ?_⟩
    rw [sameId]
    exact grows.stripe.reference _ _ reference

/-- A statement that applies no dispute and opens none. A payment that it ties to a valid
ticket has no dispute, and a ticket that it makes valid is not contested. -/
theorem unopened (keyed : Keyed db) (settled : Settled db) (grows : Grows db after)
    (tickets : after.tickets = update db.tickets which change)
    (retold : ∀ row ∈ db.tickets, which row → Retold none row (change row))
    (older : ∀ entry ∈ after.history, entry.opens ≠ none → entry ∈ db.history)
    (history : ∀ ticket, madeVoidBy ticket after.history =
      if ticket ∈ restated db after then none else madeVoidBy ticket db.history)
    (fair : Fair after.history) (opened : ∀ dispute payment, db.stripe.disputed dispute = some payment →
      after.stripe.disputeOpen dispute → db.stripe.disputeOpen dispute)
    (exchanges : ∀ exchange ∈ after.exchanges, ∀ payment, exchange.paymentRef = some payment →
      db.underDispute payment = false ∨ ∃ old ∈ db.exchanges, old.ticketId = exchange.ticketId ∧ old.paymentRef = some payment)
    (uncontested : ∀ row ∈ db.tickets, which row → (change row).status = .valid → row.status = .valid ∨ db.contested row = false) :
    Settled after := by
  have fixed : ∀ row ∈ db.tickets, (if which row then change row else row).fixed = row.fixed := by
    intro row listed
    split
    · exact (retold row listed ‹_›).fixed
    · rfl
  refine settled.updateTickets keyed tickets none retold history (fun entry mem dispute payment opens => ?_)
    (fun row mem valid => ?_) fair
  · refine settled.told_later grows (fun row listed => ?_) (older entry mem (by simp [opens])) opens
    exact ⟨_, tickets ▸ mem_update.mpr ⟨row, listed, rfl⟩, fixed row listed⟩
  · obtain ⟨old, listed, rfl⟩ := mem_update.mp (tickets ▸ mem)
    have before : db.contested old = false := by
      split at valid
      · exact (uncontested old listed ‹_› valid).elim (fun was => (settled.valid old listed was).1) id
      · exact (settled.valid old listed valid).1
    rw [← not_eq_true] at before ⊢
    intro contested
    obtain ⟨entry, inAfter, dispute, payment, opens, isOpen, funds⟩ := Db.contested_iff.mp contested
    have listedEntry := older entry inAfter (by simp [opens])
    have wasOpen := opened dispute payment (settled.told entry listedEntry dispute payment opens).1 isOpen
    refine before (Db.contested_iff.mpr ⟨entry, listedEntry, dispute, payment, opens, wasOpen, Db.funds_iff.mpr ?_⟩)
    have sameId : (if which old then change old else old).id = old.id := (congrArg Ticket.id (fixed old listed) :)
    have samePayment : (if which old then change old else old).paymentRef = old.paymentRef :=
      (congrArg Ticket.paymentRef (fixed old listed) :)
    rcases Db.funds_iff.mp funds with direct | ⟨exchange, later, ofTicket, paid⟩
    · exact .inl (samePayment ▸ direct)
    · obtain clear | ⟨earlier, inDb, same, paidEarlier⟩ := exchanges exchange later payment paid
      · exact absurd (Db.underDispute_iff.mpr ⟨entry, listedEntry, dispute, opens, wasOpen⟩) (by simp [clear])
      · exact .inr ⟨earlier, inDb, same.trans (ofTicket.trans sameId), paidEarlier⟩

/-- The history after a statement that the observer has nothing more to say about. -/
def Recorded (db after : Db) : Prop :=
  after.history = (if (restated db after).isEmpty then [] else [.changed (restated db after)]) ++ db.history

theorem Recorded.older (recorded : Recorded db after) : ∀ entry ∈ after.history, entry.opens ≠ none → entry ∈ db.history := by
  intro entry mem opens
  rw [recorded] at mem
  rcases mem_append.mp mem with new | old
  · split at new
    · cases new
    · exact absurd (mem_singleton.mp new ▸ rfl) opens
  · exact old

theorem Recorded.madeVoidBy (recorded : Recorded db after) (ticket : Id) : Tickets.madeVoidBy ticket after.history =
    if ticket ∈ restated db after then none else Tickets.madeVoidBy ticket db.history := by
  rw [recorded]
  split
  · rename_i nothing
    rw [List.isEmpty_iff.mp nothing, if_neg not_mem_nil]
    rfl
  · rfl

theorem Recorded.fair (recorded : Recorded db after) (fair : Fair db.history) : Fair after.history := by
  rw [recorded]
  split <;> exact fair

theorem Recorded.unchanged {ids : List Id} (nothing : ids = []) :
    (if ids.isEmpty then [] else [Entry.changed ids]) ++ history = history := by
  rw [nothing]
  rfl

theorem recorded (keyed : Keyed db) (settled : Settled db) (recorded : Recorded db after) (stripe : after.stripe = db.stripe)
    (tickets : after.tickets = update db.tickets which change)
    (retold : ∀ row ∈ db.tickets, which row → Retold none row (change row)) (kept : ∀ row ∈ db.exchanges, ∃ later ∈ after.exchanges, later.fixed = row.fixed)
    (exchanges : ∀ exchange ∈ after.exchanges, ∀ payment, exchange.paymentRef = some payment →
      db.underDispute payment = false ∨ ∃ old ∈ db.exchanges, old.ticketId = exchange.ticketId ∧ old.paymentRef = some payment)
    (uncontested : ∀ row ∈ db.tickets, which row → (change row).status = .valid → row.status = .valid ∨ db.contested row = false) :
    Settled after :=
  settled.unopened keyed ⟨stripe ▸ .refl _, kept⟩ tickets retold recorded.older recorded.madeVoidBy
    (recorded.fair settled.fair) (fun _ _ _ isOpen => stripe ▸ isOpen) exchanges uncontested

end Settled

theorem update_none {α : Type} (rows : List α) : update rows (fun _ => false) id = rows := by
  simp [update]

structure Quiet (row after : Ticket) : Prop where
  fixed : after.fixed = row.fixed
  status : after.status = row.status
  refundRef : after.refundRef = row.refundRef
  refundedAt : after.refundedAt = row.refundedAt

theorem Quiet.retold {db : Db} (settled : Settled db) {after : Ticket} (mem : row ∈ db.tickets)
    (quiet : Quiet row after) : Retold none row after := by
  obtain ⟨fixed, status, refundRef, refundedAt⟩ := quiet
  have disputeRef : after.disputeRef = row.disputeRef := by rw [Ticket.disputeRef, refundRef, Ticket.disputeRef]
  refine ⟨fixed, fun valid => ?_, fun refunded => ?_, fun _ _ _ => ?_, fun void was => ?_, fun _ differs => ?_⟩
  · rw [disputeRef, refundedAt]
    exact (settled.valid row mem (status ▸ valid)).2
  · rw [refundedAt]
    exact settled.refunded row mem (status ▸ refunded)
  · rw [disputeRef, refundedAt]
  · exact absurd (status ▸ void) was
  · exact absurd status.symm differs

def Db.Quieted (db after : Db) : Prop :=
  ∃ which change, after.tickets = update db.tickets which change ∧ ∀ row, Quiet row (change row)

theorem ExchangeStatement.quiet {β : Type} (op : ExchangeStatement β) (worker : Nat) (ctx : Ctx) (db : Db)
    (other : op.part ≠ .validity) : db.Quieted (op.exec worker ctx db).2 := by
  have unchanged {after : Db} (same : after.tickets = db.tickets) : db.Quieted after :=
    ⟨fun _ => false, id, by rw [same, update_none], fun _ => ⟨rfl, rfl, rfl, rfl⟩⟩
  have restatus {before after : Db} {id : Id} {status : ExchangeStatus} {change : TicketExchange → TicketExchange}
      (done : before.setExchangeStatus id status change = some after) (same : before.tickets = db.tickets) : db.Quieted after :=
    unchanged ((congrArg Db.tickets (setExchangeStatus_frame done) :).trans same)
  have completed {before after : Db} {now : Nat} {row : TicketExchange} (done : before.completeExchange now row = some after)
      (same : before.tickets = db.tickets) : db.Quieted after :=
    ⟨row.moves, row.move, by rw [completeExchange_frame done, same], fun _ => ⟨rfl, rfl, rfl, rfl⟩⟩
  cases op <;> simp only [ExchangeStatement.exec]
  case setTicketValidity => exact absurd rfl other
  case reserve request =>
    unfold Db.reserveExchange
    split <;> exact unchanged rfl
  case setStatus | awaitPayment | failRefund =>
    refine committed_cases (unchanged rfl) fun after done => ?_
    exact restatus done rfl
  case complete => exact committed_cases (unchanged rfl) fun after done => completed done rfl
  case claimAndComplete =>
    split
    · exact unchanged rfl
    split
    · rename_i done
      exact completed done rfl
    · exact unchanged rfl
  case settleRefund =>
    refine committed_cases (unchanged rfl) fun after done => ?_
    obtain done | done | done | rfl := settleExchangeRefund_frame done
    · exact restatus done rfl
    · exact restatus done rfl
    · exact completed done rfl
    · exact unchanged rfl
  all_goals exact unchanged rfl

theorem opened_of_madeVoidBy     (made : madeVoidBy ticket history = some dispute) :
    ∃ entry ∈ history, ∃ payment, entry.opens = some (dispute, payment) ∧ ticket ∈ entry.restated := by
  induction history with
  | nil => cases made
  | cons entry older ih =>
    rw [madeVoidBy] at made
    split at made
    · obtain ⟨⟨_, payment⟩, opens, rfl⟩ := map_eq_some_iff.mp made
      exact ⟨entry, mem_cons_self, payment, opens, ‹_›⟩
    · obtain ⟨found, mem, holds⟩ := ih made
      exact ⟨found, mem_cons_of_mem _ mem, holds⟩

namespace Settled

theorem opened (sourced : Sourced provider db) (settled : Settled db) (about : db.stripe.disputed dispute = some payment)
    (tickets : after.tickets = update db.tickets which fun row =>
      { row with status := .void, refundRef := some (.dispute dispute) })
    (exchanges : after.exchanges = db.exchanges) (stripe : after.stripe = db.stripe)
    (history : after.history = .opened dispute payment (restated db after) :: db.history)
    (picks : ∀ row, which row → row.status = .valid)
    (funded : ∀ row ∈ db.tickets, which row → row.paymentRef = some payment ∨
      ∃ exchange ∈ db.exchanges, exchange.ticketId = row.id ∧ db.stripe.reference payment = some (.exchange exchange.id))
    (reaches : ∀ row ∈ db.tickets, row.status = .valid → ¬ which row → ¬ db.funds payment row) : Settled after := by
  have grows : Grows db after := ⟨stripe ▸ .refl _, fun row mem => ⟨row, exchanges.symm ▸ mem, rfl⟩⟩
  have later : ∀ row ∈ db.tickets, ∃ new ∈ after.tickets, new.fixed = row.fixed := fun row listed =>
    ⟨_, tickets ▸ mem_update.mpr ⟨row, listed, rfl⟩, by split <;> rfl⟩
  refine settled.updateTickets sourced.toKeyed tickets (some dispute) (fun row mem picked => ?_) (fun ticket => ?_)
    (fun entry mem d p opens => ?_) (fun row mem valid => ?_) (history ▸ settled.fair)
  · have valid := picks row picked
    refine ⟨rfl, fun now => ?_, fun now => ?_, fun _ was => ?_, fun _ _ other => ?_, absurd rfl⟩
    · cases now
    · cases now
    · rw [valid] at was
      cases was
    · simp [Ticket.disputeRef, (settled.valid row mem valid).2.2]
  · rw [history]
    rfl
  · rw [history] at mem
    rcases mem_cons.mp mem with rfl | old
    · obtain ⟨rfl, rfl⟩ := Prod.mk.inj (some.inj opens)
      refine ⟨stripe.symm ▸ about, fun ticket inside => ?_⟩
      obtain ⟨row, listed, rfl, picked, -⟩ := (mem_restated tickets).mp inside
      rcases funded row listed picked with paid | ⟨exchange, inDb, same, reference⟩
      · obtain ⟨new, inAfter, fixed⟩ := later row listed
        exact .inl ⟨new, inAfter, (congrArg Ticket.id fixed :), (congrArg Ticket.paymentRef fixed :).trans paid⟩
      · exact .inr ⟨exchange, exchanges.symm ▸ inDb, same, stripe.symm ▸ reference⟩
    · exact settled.told_later grows later old opens
  · obtain ⟨old, listed, rfl⟩ := mem_update.mp (tickets ▸ mem)
    split at valid
    · cases valid
    rename_i other
    rw [if_neg other, ← not_eq_true]
    intro contested
    obtain ⟨entry, inAfter, d, p, opens, isOpen, funds⟩ := Db.contested_iff.mp contested
    have before : db.funds p old := by rwa [Db.funds, ← exchanges]
    rw [history] at inAfter
    rcases mem_cons.mp inAfter with rfl | inDb
    · obtain ⟨rfl, rfl⟩ := Prod.mk.inj (some.inj opens)
      exact reaches old listed valid other before
    · have clear := (settled.valid old listed valid).1
      rw [← not_eq_true] at clear
      exact clear (Db.contested_iff.mpr ⟨entry, inDb, d, p, opens, stripe ▸ isOpen, before⟩)

theorem won (keyed : Keyed db) (settled : Settled db)
    (tickets : after.tickets = update db.tickets which fun row => { row with status := .valid, refundRef := none })
    (exchanges : after.exchanges = db.exchanges) (stripe : after.stripe = db.stripe)
    (history : after.history = .won dispute (restated db after) :: db.history) (picks : ∀ row ∈ db.tickets, which row →
      row.status = .void ∧ row.disputeRef = some dispute ∧ row.refundedAt = none ∧ db.contested row = false)
    (all_ : ∀ row ∈ db.tickets, madeVoidBy row.id db.history = some dispute → row.status = .void →
      row.disputeRef = some dispute → row.refundedAt = none → which row) : Settled after := by
  refine settled.unopened keyed ⟨stripe ▸ .refl _, fun row mem => ⟨row, exchanges.symm ▸ mem, rfl⟩⟩ tickets
    (fun row mem picked => ?_) (fun entry mem opens => ?_) (fun ticket => ?_) ?_
    (fun _ _ _ isOpen => stripe ▸ isOpen)
    (fun exchange mem payment paid => .inr ⟨exchange, exchanges ▸ mem, rfl, paid⟩)
    (fun row mem picked _ => .inr (picks row mem picked).2.2.2)
  · obtain ⟨void, -, unpaid, -⟩ := picks row mem picked
    refine ⟨rfl, fun _ => ⟨rfl, unpaid⟩, fun now => ?_, fun now => ?_, fun now => ?_, fun _ _ => rfl⟩ <;> cases now
  · rw [history] at mem
    exact (mem_cons.mp mem).resolve_left fun same => opens (same ▸ rfl)
  · rw [history]
    rfl
  · rw [history]
    refine ⟨fun ticket => ?_, settled.fair⟩
    rw [mem_restated tickets]
    constructor
    · rintro ⟨row, mem, rfl, picked, -⟩
      obtain ⟨void, ref, unpaid, -⟩ := picks row mem picked
      exact settled.void row mem void unpaid dispute ref
    · intro made
      obtain ⟨row, mem, rfl, void, ref, unpaid⟩ := settled.made ticket dispute made
      refine ⟨row, mem, rfl, all_ row mem made void ref unpaid, ?_⟩
      rw [void]
      exact nofun

theorem issued (keyed : Keyed db) (settled : Settled db) (tickets : after.tickets = db.tickets ++ rows)
    (exchanges : after.exchanges = db.exchanges) (stripe : after.stripe = db.stripe) (history : after.history = db.history)
    (fresh : ∀ row ∈ rows, ∀ ticket ∈ db.tickets, ticket.id ≠ row.id)
    (new : ∀ row ∈ rows, row.status = .valid ∧ row.refundRef = none ∧ row.refundedAt = none ∧
      ∀ payment, row.paymentRef = some payment → db.underDispute payment = false) : Settled after := by
  have contested : ∀ row, after.contested row = db.contested row := by
    intro row
    unfold Db.contested Db.funds
    rw [history, exchanges, stripe]
  refine ⟨fun entry mem dispute payment opens => ?_, fun row mem valid => ?_, fun row mem void unpaid dispute ref => ?_,
    fun ticket dispute made => ?_, fun row mem refunded => ?_, history ▸ settled.fair⟩
  · refine settled.told_later ⟨stripe ▸ .refl _, fun row listed => ⟨row, exchanges.symm ▸ listed, rfl⟩⟩
      (fun row listed => ⟨row, tickets ▸ mem_append_left _ listed, rfl⟩) (history ▸ mem) opens
  · rw [contested]
    rcases mem_append.mp (tickets ▸ mem) with old | isNew
    · exact settled.valid row old valid
    · obtain ⟨-, unmarked, unpaid, clear⟩ := new row isNew
      refine ⟨?_, by rw [Ticket.disputeRef, unmarked], unpaid⟩
      rw [← not_eq_true]
      intro isContested
      obtain ⟨entry, listed, dispute, payment, opens, isOpen, funds⟩ := Db.contested_iff.mp isContested
      rcases Db.funds_iff.mp funds with direct | ⟨exchange, inDb, ofTicket, -⟩
      · exact absurd (Db.underDispute_iff.mpr ⟨entry, listed, dispute, opens, isOpen⟩) (by simp [clear payment direct])
      · obtain ⟨ticket, inTickets, same, -⟩ := keyed.refers exchange inDb
        exact fresh row isNew ticket inTickets (same.trans ofTicket)
  · rcases mem_append.mp (tickets ▸ mem) with old | isNew
    · rw [history]
      exact settled.void row old void unpaid dispute ref
    · rw [(new row isNew).1] at void
      cases void
  · obtain ⟨row, mem, holds⟩ := settled.made ticket dispute (history ▸ made)
    exact ⟨row, tickets ▸ mem_append_left _ mem, holds⟩
  · rcases mem_append.mp (tickets ▸ mem) with old | isNew
    · exact settled.refunded row old refunded
    · rw [(new row isNew).1] at refunded
      cases refunded

end Settled

namespace Settled

variable {β : Type}

theorem insert_step (keyed : Keyed db) (settled : Settled db) (worker : Nat) (ctx : Ctx) {input : IssueInput}
    {amounts : List (Option Int)} (clear : input.paymentRef.all (!db.underDispute ·)) :
    Settled ((engine provider).exec worker (.store (.insertTicketsWithCapacity input amounts)) ctx db).2 := by
  obtain same | ⟨rows, same, rfl, fresh, -⟩ := StoreStatement.insert_cases worker input amounts ctx db
  · have tickets : (Statement.exec provider worker (.store (.insertTicketsWithCapacity input amounts)) ctx db).2.tickets = db.tickets ++ [] := by
      rw [append_nil]
      exact congrArg Db.tickets same
    refine settled.issued keyed tickets (congrArg Db.exchanges same :) (congrArg Db.stripe same :) ?_ (by simp) (by simp)
    exact Recorded.unchanged (restated_append tickets)
  · have tickets : (Statement.exec provider worker (.store (.insertTicketsWithCapacity input amounts)) ctx db).2.tickets = db.tickets ++ _ :=
      congrArg Db.tickets same
    refine settled.issued keyed tickets (congrArg Db.exchanges same :) (congrArg Db.stripe same :) ?_ fresh fun row mem => ?_
    · exact Recorded.unchanged (restated_append tickets)
    · obtain ⟨ticket, -, rfl⟩ := mem_map.mp mem
      refine ⟨rfl, rfl, rfl, fun payment named => ?_⟩
      simpa [show input.paymentRef = some payment from named] using clear

theorem store_step (sourced : Sourced provider db) (settled : Settled db) (live : Nat → Bool) (worker : Nat)
    (op : StoreStatement β) (ctx : Ctx) (grounded : (Statement.store op).Grounded db)
    (met : disputesKept live worker (.store op) ctx db) : Settled ((engine provider).exec worker (.store op) ctx db).2 := by
  have kept : ∀ row ∈ db.exchanges, ∃ later ∈ db.exchanges, later.fixed = row.fixed := fun row mem => ⟨row, mem, rfl⟩
  have funded : ∀ exchange ∈ db.exchanges, ∀ payment, exchange.paymentRef = some payment → db.underDispute payment = false ∨
      ∃ old ∈ db.exchanges, old.ticketId = exchange.ticketId ∧ old.paymentRef = some payment :=
    fun exchange mem payment paid => .inr ⟨exchange, mem, rfl, paid⟩
  have read {after : Db} (same : after = { db with history := after.history, ticketTypes := after.ticketTypes })
      (recorded : Recorded db after) : Settled after := by
    have tickets : after.tickets = update db.tickets (fun _ => false) id := by rw [update_none, same]
    exact settled.recorded sourced.toKeyed recorded (congrArg Db.stripe same :) tickets (fun _ _ no => by cases no)
      (by rw [same]; exact kept) (by rw [same]; exact funded) fun _ _ no => by cases no
  have update {after : Db} {which : Ticket → Bool} {change : Ticket → Ticket} (tickets : after.tickets = Library.update db.tickets which change)
      (same : after = { db with tickets := after.tickets, participants := after.participants, history := after.history })
      (recorded : Recorded db after) (retold : ∀ row ∈ db.tickets, which row → Retold none row (change row))
      (uncontested : ∀ row ∈ db.tickets, which row → (change row).status = .valid → row.status = .valid) : Settled after :=
    settled.recorded sourced.toKeyed recorded (congrArg Db.stripe same :) tickets retold (by rw [same]; exact kept)
      (by rw [same]; exact funded) fun row mem picked valid => .inl (uncontested row mem picked valid)
  cases op
  case insertTicketsWithCapacity input amounts => exact settled.insert_step sourced.toKeyed worker ctx met
  case restoreDisputedTickets payment dispute =>
    simp only [disputesKept, all_eq_true, or_eq_true, bne_iff_ne, and_eq_true, not_eq_true',
      beq_iff_eq] at met
    refine settled.won sourced.toKeyed rfl rfl rfl rfl (fun row mem picked => ?_) fun row mem _ void ref unpaid => ?_
    · simp only [Db.disputedBy, and_eq_true, beq_iff_eq, isNone_iff_eq_none] at picked
      have marked : row.disputeRef = some dispute := by rw [Ticket.disputeRef, picked.1.2]
      simpa [picked, marked] using met row mem
    · have found := met row mem
      simp only [void, ref, unpaid, ne_eq, not_true_eq_false, Option.isSome_none, false_eq_true, or_false, false_or] at found
      simp [Db.disputedBy, void, unpaid, found.2, refundRef_of_disputeRef ref]
  case markOrderDisputed payment dispute =>
    simp only [disputesKept, all_eq_true, or_eq_true, bne_iff_ne, not_eq_true', beq_iff_eq] at met
    refine settled.opened sourced grounded rfl rfl rfl rfl (fun row picked => ?_) (fun row _ picked => .inl ?_)
      fun row mem valid other => ?_
    · simp only [and_eq_true, beq_iff_eq] at picked
      exact picked.2
    · simp only [and_eq_true, beq_iff_eq] at picked
      exact picked.1
    · have found := met row mem
      simp only [and_eq_true, beq_iff_eq, valid, and_true] at other
      simpa [valid, other] using found
  case claimRedemption | releaseRedemption =>
    exact update rfl rfl rfl (fun row mem _ => Quiet.retold settled mem ⟨rfl, rfl, rfl, rfl⟩) fun _ _ _ valid => valid
  case markTicketStatus id refunded refundRef =>
    cases refunded with
    | true =>
      exact update rfl rfl rfl (fun row _ _ => .of_refunded rfl rfl rfl) fun _ _ _ valid => by cases valid
    | false =>
      refine update rfl rfl rfl (fun row mem picked => .of_void rfl rfl (fun void dispute => ?_) fun other dispute => ?_)
        fun _ _ _ valid => by cases valid
      · cases refundRef with
        | none => rfl
        | some refundRef =>
          simp only [disputesKept, all_eq_true, or_eq_true, not_eq_true', isNone_iff_eq_none] at met
          have overwritten : row.disputeRef = none ∨ row.refundedAt.isSome := by
            simpa [Db.voided, eq_of_beq picked, void] using met row mem
          constructor
          · cases refundRef <;> first | exact grounded.elim | simp [Ticket.disputeRef]
          · rintro ⟨ref, unpaid⟩
            simp [ref, unpaid] at overwritten
      · cases refundRef with
        | none =>
          rintro ⟨ref, unpaid⟩
          have ref_ : row.disputeRef = some dispute := ref
          cases status : row.status with
          | void => exact other status
          | valid => simp [(settled.valid row mem status).2.1] at ref_
          | refunded =>
            have since := settled.refunded row mem status
            simp [show row.refundedAt = none from unpaid] at since
        | some refundRef => cases refundRef <;> first | exact grounded.elim | simp [Ticket.disputeRef]
  case markOrderRefunded payment refundRef amount =>
    exact update rfl rfl rfl (fun row _ _ => .of_refunded rfl rfl rfl) fun _ _ _ valid => by cases valid
  case markTicketOrderRefunded =>
    exact update rfl rfl rfl (fun row _ _ => .of_refunded rfl rfl rfl) fun _ _ _ valid => by cases valid
  case markTicketOrderRefundPending order refundRef =>
    refine update rfl rfl rfl (fun row _ picked => .of_void rfl rfl (fun void _ => ?_) fun _ dispute => ?_)
      fun _ _ _ valid => by cases valid
    · simp [void] at picked
    · cases refundRef <;> first | exact grounded.elim | simp [Ticket.disputeRef]
  case markRefundFailed refundRef =>
    refine update rfl rfl rfl (fun row _ picked => .of_void rfl rfl (fun void _ => ?_) fun _ dispute => ?_)
      fun _ _ _ valid => by cases valid
    · simp [void] at picked
    · simp only [and_eq_true, beq_iff_eq] at picked
      cases refundRef <;> first | exact grounded.elim | simp [Ticket.disputeRef, picked.1]
  all_goals exact read rfl rfl

theorem validity_step (sourced : Sourced provider db) (settled : Settled db) (live : Nat → Bool) (worker : Nat)
    (exchange : TicketExchange) (valid : Bool) (reference : Option RefundRef) (ctx : Ctx)
    (grounded : (Statement.exchange (.setTicketValidity exchange valid reference)).Grounded db)
    (met : disputesKept live worker (.exchange (.setTicketValidity exchange valid reference)) ctx db) :
    Settled ((engine provider).exec worker (.exchange (.setTicketValidity exchange valid reference)) ctx db).2 := by
  have ofExchange {payment : Nat} {row : TicketExchange} (linked : row ∈ db.exchanges)
      (sameId : row.id = exchange.id) (paid : db.stripe.reference payment = some (.exchange exchange.id))
      {other : TicketExchange} (mem : other ∈ db.exchanges)
      (same : db.stripe.reference payment = some (.exchange other.id)) : other = row := by
    refine sourced.exchange_eq mem linked (Eq.trans ?_ sameId.symm)
    exact (Reference.exchange.inj (some.inj (paid.symm.trans same))).symm
  cases valid with
  | true =>
    obtain ⟨rfl, dispute, marked, payment, paid, ofPayment, about, row, linked, sameId, sameTicket⟩ := grounded
    simp only [disputesKept, all_eq_true, or_eq_true, not_eq_true', and_eq_true, beq_iff_eq,
      isNone_iff_eq_none] at met
    have history : ((engine provider).exec worker (.exchange (.setTicketValidity exchange true none)) ctx db).2.history =
        .won dispute (restated db ((engine provider).exec worker (.exchange (.setTicketValidity exchange true none)) ctx db).2) ::
          db.history := by
      change List.map _ exchange.disputeRef.toList ++ db.history = _
      rw [marked]
      rfl
    refine settled.won sourced.toKeyed rfl rfl rfl history (fun ticket mem picked => ?_)
      fun ticket mem made void ref unpaid => ?_
    · have voided : Db.voided exchange.ticketId ticket = true := picked
      have found := (met ticket mem).resolve_left (by simp [voided])
      simp only [and_eq_true, beq_iff_eq] at picked
      exact ⟨by simpa using picked.2, found.1.2.trans marked, found.2, found.1.1⟩
    · -- the dispute is about the payment of this exchange, so it took nothing else away
      obtain ⟨entry, listed, other, opens, inside⟩ := opened_of_madeVoidBy made
      obtain ⟨about', funded⟩ := settled.told entry listed dispute other opens
      obtain rfl : payment = other := some.inj (about.symm.trans about')
      suffices ticket.id = exchange.ticketId by simp [this, void]
      rcases funded ticket.id inside with ⟨bought, inTickets, same, paidBy⟩ | ⟨upgraded, inExchanges, same, ofUpgrade⟩
      · obtain ⟨reference, isPurchase⟩ := sourced.bought bought inTickets payment paidBy
        simp [ofPayment] at isPurchase
      · rw [ofExchange linked sameId ofPayment inExchanges ofUpgrade] at same
        exact same.symm.trans sameTicket
  | false =>
    by_cases isDispute : ∃ dispute, reference = some (.dispute dispute)
    · obtain ⟨dispute, rfl⟩ := isDispute
      obtain ⟨payment, paid, ofPayment, about, row, linked, sameId, sameTicket⟩ := grounded
      have history : ((engine provider).exec worker (.exchange (.setTicketValidity exchange false (some (.dispute dispute)))) ctx db).2.history =
          .opened dispute payment (restated db ((engine provider).exec worker (.exchange (.setTicketValidity exchange false
            (some (.dispute dispute)))) ctx db).2) :: db.history := by
        change List.map _ exchange.paymentRef.toList ++ db.history = _
        rw [paid]
        rfl
      refine settled.opened sourced about rfl rfl rfl history (fun ticket picked => ?_) (fun ticket _ picked => .inr ?_)
        fun ticket mem isValid other funds => ?_
      · simp only [and_eq_true, beq_iff_eq] at picked
        simpa using picked.2
      · simp only [and_eq_true, beq_iff_eq] at picked
        exact ⟨row, linked, sameTicket.trans picked.1.symm, by rw [sameId]; exact ofPayment⟩
      · have otherId : ticket.id ≠ exchange.ticketId := fun same => other (by simp [same, isValid])
        rcases Db.funds_iff.mp funds with direct | ⟨upgraded, inExchanges, same, paidBy⟩
        · obtain ⟨reference, isPurchase⟩ := sourced.bought ticket mem payment direct
          simp [ofPayment] at isPurchase
        · rw [ofExchange linked sameId ofPayment inExchanges (sourced.upgraded upgraded inExchanges payment paidBy)] at same
          exact otherId (same.symm.trans sameTicket)
    · have recorded : Recorded db ((engine provider).exec worker (.exchange (.setTicketValidity exchange false reference)) ctx db).2 := by
        rcases reference with _ | reference
        · rfl
        · cases reference <;> first | rfl | exact absurd ⟨_, rfl⟩ isDispute
      refine settled.recorded sourced.toKeyed recorded rfl rfl (fun ticket mem picked => ?_)
        (fun row mem => ⟨row, mem, rfl⟩) (fun row mem payment paid => .inr ⟨row, mem, rfl, paid⟩)
        fun _ _ _ valid => by cases valid
      refine .of_void rfl rfl (fun void => ?_) fun _ dispute marked => ?_
      · simp [void] at picked
      · exact isDispute ⟨dispute, refundRef_of_disputeRef marked.1⟩

theorem exchange_step (sourced : Sourced provider db) (settled : Settled db) (live : Nat → Bool) (worker : Nat)
    (op : ExchangeStatement β) (ctx : Ctx) (grounded : (Statement.exchange op).Grounded db)
    (met : disputesKept live worker (.exchange op) ctx db) : Settled ((engine provider).exec worker (.exchange op) ctx db).2 := by
  by_cases validity : op.part = .validity
  · cases op <;> first | exact settled.validity_step sourced live worker _ _ _ ctx grounded met | cases validity
  obtain ⟨which, change, tickets, quiet⟩ := op.quiet worker ctx db validity
  have traced : Traced db (Statement.exchange op).pays (op.exec worker ctx db).2 := op.traced worker ctx
  obtain ⟨_, _, _, _, frame⟩ := op.frame worker ctx db
  have recorded : Recorded db ((engine provider).exec worker (.exchange op) ctx db).2 := by
    cases op <;> first | rfl | exact absurd rfl validity
  refine settled.recorded sourced.toKeyed recorded (congrArg Db.stripe frame :) tickets
    (fun row mem _ => (quiet row).retold settled mem) traced.kept (fun row mem payment paid => ?_)
    fun row _ _ valid => .inl ((quiet row).status ▸ valid)
  obtain ⟨old, listed, same, keeps | ⟨other, pays, paidBy⟩⟩ | unpaid := traced.rows row mem
  · exact .inr ⟨old, listed, (congrArg TicketExchange.ticketId same.symm :), keeps.symm.trans paid⟩
  · obtain rfl : other = payment := some.inj (paidBy.symm.trans paid)
    cases op <;> simp only [Statement.pays, reduceCtorEq, some.injEq, Prod.mk.injEq] at pays
    obtain ⟨rfl, rfl⟩ := pays
    exact .inl (by simpa [disputesKept] using met)
  · rw [unpaid] at paid
    cases paid

theorem refund_step (sourced : Sourced provider db) (settled : Settled db) (live : Nat → Bool) (worker : Nat)
    (op : RefundStatement β) (ctx : Ctx) (met : disputesKept live worker (.refund op) ctx db) :
    Settled ((engine provider).exec worker (.refund op) ctx db).2 := by
  have update {after : Db} {which : Ticket → Bool} {change : Ticket → Ticket} (tickets : after.tickets = Library.update db.tickets which change)
      (exchanges : after.exchanges = db.exchanges) (stripe : after.stripe = db.stripe)
      (recorded : Recorded db after) (retold : ∀ row ∈ db.tickets, which row → Retold none row (change row))
      (uncontested : ∀ row ∈ db.tickets, which row → (change row).status = .valid → db.contested row = false) : Settled after :=
    settled.recorded sourced.toKeyed recorded stripe tickets retold
      (fun row mem => ⟨row, exchanges.symm ▸ mem, rfl⟩)
      (fun row mem payment paid => .inr ⟨row, exchanges ▸ mem, rfl, paid⟩)
      fun row mem picked valid => .inr (uncontested row mem picked valid)
  have aside {after : Db} (tickets : after.tickets = db.tickets) (exchanges : after.exchanges = db.exchanges)
      (stripe : after.stripe = db.stripe) (recorded : Recorded db after) : Settled after :=
    update (tickets.trans (update_none _).symm) exchanges stripe recorded
      (fun _ _ no => by cases no) fun _ _ no => by cases no
  have restored {ticket : Id} (may : db.mayRestore ticket = true) {after : Db}
      (tickets : after.tickets = Library.update db.tickets (Db.voided ticket) fun row => { row with status := .valid })
      (exchanges : after.exchanges = db.exchanges) (stripe : after.stripe = db.stripe)
      (recorded : Recorded db after) : Settled after := by
    simp only [Db.mayRestore, all_eq_true, or_eq_true, not_eq_true', and_eq_true,
      isNone_iff_eq_none] at may
    refine update tickets exchanges stripe recorded (fun row mem picked => ?_) fun row mem picked _ => ?_
    · have found := (may row mem).resolve_left (by simp [picked])
      exact .of_valid rfl rfl found.1.2 found.2
    · exact ((may row mem).resolve_left (by simp [picked])).1.1
  cases op
  case prepare snapshot allocations =>
    have unchanged {reply : TicketOpResult (Option PreparedRefund)}
        (same : db.prepareTicketRefund (ctx.ids worker) ctx.transferRefuses snapshot allocations = (reply, db)) :
        Settled ((engine provider).exec worker (.refund (.prepare snapshot allocations)) ctx db).2 := by
      have kept : (Statement.exec provider worker (.refund (.prepare snapshot allocations)) ctx db).2 = db := congrArg Prod.snd same
      exact aside (congrArg Db.tickets kept :) (congrArg Db.exchanges kept :) (congrArg Db.stripe kept :) rfl
    obtain ⟨reply, same⟩ | ⟨ticket, currency, found, passed, same⟩ :=
      prepareTicketRefund_cases db (ctx.ids worker) ctx.transferRefuses snapshot allocations
    · exact unchanged same
    · have voided := congrArg Prod.snd same
      have valid := checkTicketRefund_valid passed
      refine update (congrArg Db.tickets voided :) (congrArg Db.exchanges voided :) (congrArg Db.stripe voided :) rfl
        (fun row mem picked => ?_) fun _ _ _ valid => by cases valid
      have isTicket : row = ticket :=
        sourced.ticket_eq mem (mem_of_find?_eq_some found) (by simpa using picked)
      refine .of_void rfl rfl (fun void => ?_) fun _ dispute => ?_
      · simp [isTicket, valid] at void
      · have unmarked := (settled.valid row mem (isTicket ▸ valid)).2.1
        rintro ⟨marked, -⟩
        exact absurd (unmarked.symm.trans marked) (by simp)
  case failAllocation allocation ticket partly =>
    cases partly with
    | true => exact aside rfl rfl rfl rfl
    | false => exact restored met rfl rfl rfl rfl
  case restoreTicket ticket => exact restored met rfl rfl rfl rfl
  all_goals exact aside rfl rfl rfl rfl

theorem untouched (keyed : Keyed db) (settled : Settled db) (grows : Grows db after) (tickets : after.tickets = db.tickets)
    (exchanges : after.exchanges = db.exchanges)
    (opened : ∀ dispute payment, db.stripe.disputed dispute = some payment →
      after.stripe.disputeOpen dispute → db.stripe.disputeOpen dispute)
    {entries : List Entry} (history : after.history = entries ++ db.history) (passing : ∀ entry ∈ entries, entry.passes) :
    Settled after := by
  have nothing : restated db after = [] := restated_append (tickets.trans (append_nil _).symm)
  refine settled.unopened keyed grows (tickets.trans (update_none _).symm) (fun _ _ no => by cases no)
    (fun entry mem opens => ?_) (fun ticket => ?_) ?_ opened (fun row mem payment paid => ?_) fun _ _ no => by cases no
  · rcases mem_append.mp (history ▸ mem) with new | old
    · exact absurd (Entry.opens_of_passes (passing entry new)) opens
    · exact old
  · rw [nothing, if_neg not_mem_nil, history, madeVoidBy_append passing]
  · rw [history, fair_append passing]
    exact settled.fair
  · exact .inr ⟨row, exchanges ▸ mem, rfl, paid⟩

theorem stripe_step (sourced : Sourced provider db) (settled : Settled db) (worker : Nat) (op : StripeStatement β)
    (ctx : Ctx) : Settled ((engine provider).exec worker (.stripe op) ctx db).2 := by
  have nothing : restated db (Statement.exec provider worker (.stripe op) ctx db).2 = [] := restated_append (append_nil _).symm
  have grows := (sourced.engine worker ctx (show (Statement.stripe op).Grounded db from trivial)).2
  have closed dispute payment := provider.closed op ctx db.stripe dispute payment sourced.stripe
  refine settled.untouched sourced.toKeyed grows rfl rfl closed rfl fun entry mem => ?_
  cases op <;> first
    | (obtain ⟨_, -, rfl⟩ := mem_map.mp mem; rfl)
    | (change entry ∈ (if (restated _ _).isEmpty then [] else _) at mem; rw [nothing] at mem; cases mem)

theorem checkout_step (sourced : Sourced provider db) (settled : Settled db) (worker : Nat) (op : CheckoutStatement β)
    (ctx : Ctx) : Settled ((engine provider).exec worker (.checkout op) ctx db).2 := by
  obtain ⟨_, _, frame⟩ := op.frame ctx db
  have tickets : (op.exec ctx db).2.tickets = db.tickets := (congrArg Db.tickets frame :)
  have nothing : restated db (Statement.exec provider worker (.checkout op) ctx db).2 = [] :=
    restated_append (tickets.trans (append_nil _).symm)
  have grows := (sourced.engine worker ctx (show (Statement.checkout op).Grounded db from trivial)).2
  refine settled.untouched sourced.toKeyed grows tickets (congrArg Db.exchanges frame :) (fun _ _ _ isOpen => ?_) rfl
    fun entry mem => ?_
  · rwa [show ((engine provider).exec worker (.checkout op) ctx db).2.stripe = db.stripe from (congrArg Db.stripe frame :)] at isOpen
  cases op
  case claim session =>
    change entry ∈ (if _ then [Entry.claimed session worker] else []) at mem
    split at mem
    · exact mem_singleton.mp mem ▸ rfl
    · cases mem
  all_goals
    change entry ∈ (if (restated _ _).isEmpty then [] else _) at mem
    rw [nothing] at mem
    cases mem

theorem credit_step (sourced : Sourced provider db) (settled : Settled db) (worker : Nat) (op : CreditStatement β)
    (ctx : Ctx) : Settled ((engine provider).exec worker (.credit op) ctx db).2 := by
  obtain ⟨_, _, frame⟩ := op.frame ctx db
  have tickets : (op.exec ctx db).2.tickets = db.tickets := (congrArg Db.tickets frame :)
  have nothing : restated db (op.exec ctx db).2 = [] := restated_append (tickets.trans (append_nil _).symm)
  have grows := (sourced.engine worker ctx (show (Statement.credit op).Grounded db from trivial)).2
  have history : ((engine provider).exec worker (.credit op) ctx db).2.history =
      (if (restated db (op.exec ctx db).2).isEmpty then [] else [.changed (restated db (op.exec ctx db).2)]) ++ db.history := rfl
  rw [nothing] at history
  refine settled.untouched sourced.toKeyed grows tickets (congrArg Db.exchanges frame :) (fun _ _ _ isOpen => ?_) history
    nofun
  rwa [show ((engine provider).exec worker (.credit op) ctx db).2.stripe = db.stripe from (congrArg Db.stripe frame :)] at isOpen

end Settled

theorem disputesKept_step (live : Nat → Bool) (worker : Nat) {β : Type} (op : Statement β) (ctx : Ctx) (db : Db)
    (sourced : Sourced provider db) (settled : Settled db) (grounded : op.Grounded db) (met : disputesKept live worker op ctx db) :
    Settled ((engine provider).exec worker op ctx db).2 := by
  cases op with
  | stripe op => exact settled.stripe_step sourced worker op ctx
  | credit op => exact settled.credit_step sourced worker op ctx
  | store op => exact settled.store_step sourced live worker op ctx grounded met
  | checkout op => exact settled.checkout_step sourced worker op ctx
  | exchange op => exact settled.exchange_step sourced live worker op ctx grounded met
  | refund op => exact settled.refund_step sourced live worker op ctx met

/-- No valid ticket is under an open dispute, and each win gave back what its dispute took. -/
def DisputesHandled (db : Db) : Prop :=
  (∀ row ∈ db.tickets, db.contested row → row.status ≠ .valid) ∧ Fair db.history

/-- However the calls of the shop interleave: while nothing but the win of its own dispute
makes a disputed ticket valid, disputes are handled. -/
theorem disputes_handled (db : Db) (sourced : Sourced provider db) (settled : Settled db) (events : List (Event Request Ctx))
    (met : (shop db).along (engine provider) serve disputesKept events) : DisputesHandled (serveAll provider db events).db := by
  have final := run_conducted disputesKept_step events db sourced settled met
  refine ⟨fun row mem contested valid => ?_, final.fair⟩
  rw [(final.valid row mem valid).1] at contested
  cases contested

theorem oneType_settled (capacity : Option Nat) (quantity : Nat) : Settled (oneType capacity quantity) where
  told := nofun
  valid := fun _ listed => absurd listed not_mem_nil
  void := fun _ listed => absurd listed not_mem_nil
  made := nofun
  refunded := fun _ listed => absurd listed not_mem_nil
  fair := trivial

def bought : List (Event Request Ctx) :=
  call 0 (.startCheckout ⟨0, 0, 7, 1, 1⟩ 500) 4 ++ call 1 (.provider (.completeSession 0 true)) 1 ++
  call 2 (.provider (.send (.sessionCompleted 0))) 1 ++ call 3 (.deliver 0) 12

def disputeWon : List (Event Request Ctx) :=
  call 4 (.provider (.openDispute 0)) 1 ++ call 5 (.provider (.send (.disputeCreated 0 0))) 1 ++ call 6 (.deliver 1) 6 ++
  call 7 (.deliver 1) 6 ++ call 8 (.provider (.closeDispute 0 true)) 1 ++
  call 9 (.provider (.send (.disputeClosed 0 0 true))) 1 ++ call 10 (.deliver 2) 4

theorem disputes_handled_disputeWon : DisputesHandled (serveAll machine (oneType none 4) (bought ++ disputeWon)).db :=
  disputes_handled (oneType none 4) (oneType_sourced none 4) (oneType_settled none 4) (bought ++ disputeWon)
    (by decide +kernel)

def boughtTicket : Id := ⟨1, 3, 1⟩

def refundFails : List (Event Request Ctx) :=
  .start (.refundTicket boughtTicket) :: List.replicate 8 (.step 4 { refundStatus := .pending }) ++
  call 5 (.provider (.openDispute 0)) 1 ++ call 6 (.provider (.send (.disputeCreated 0 0))) 1 ++ call 7 (.deliver 1) 6 ++
  call 8 (.provider (.settleRefund 0 .failed)) 1 ++
  call 9 (.provider (.send (.refundUpdated 0 .failed 0 (.ticket boughtTicket ⟨0, 4, 0⟩ ⟨1, 4, 1⟩)))) 1 ++
  call 10 (.deliver 2) 9

theorem refundFails_validInDispute : ¬ DisputesHandled (serveAll machine (oneType none 4) (bought ++ refundFails)).db := by
  intro handled
  have found : (serveAll machine (oneType none 4) (bought ++ refundFails)).db.tickets.any fun row =>
      (serveAll machine (oneType none 4) (bought ++ refundFails)).db.contested row && row.status == .valid := by
    decide +kernel
  simp only [any_eq_true, and_eq_true, beq_iff_eq] at found
  obtain ⟨row, mem, contested, valid⟩ := found
  exact handled.1 row mem contested valid

end MilkAndHenny.Tickets

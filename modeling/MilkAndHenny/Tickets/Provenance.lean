import MilkAndHenny.Tickets.Footprint
import MilkAndHenny.Tickets.Keys
import MilkAndHenny.Tickets.Machine

/-! Where the payments and disputes that the shop names come from. Each statement
that ties a ticket or an exchange to one of them has read it from the provider. -/

namespace MilkAndHenny.Tickets
variable {db after : Db}
variable {payment : Nat} {provider : Provider} {β : Type} {op : Statement β}
open Library Library.Program

/-- The columns of a ticket that no statement changes. -/
def Ticket.fixed (row : Ticket) : Ticket :=
  { row with ticketTypeId := 0, status := .valid, redeemedAt := none, amountPaidMinor := none, refundedAt := none, refundRef := none }

/-- The columns of an exchange that no statement changes. -/
def TicketExchange.fixed (row : TicketExchange) : TicketExchange :=
  { row with status := .processing, checkoutRef := none, paymentRef := none, disputeRef := none, completedAt := none }

def Statement.issued (worker : Nat) (ctx : Ctx) (db : Db) : {β : Type} → Statement β → List Ticket
  | _, .store (.insertTicketsWithCapacity input amounts) =>
    if ctx.fault || (Db.newTickets (ctx.ids worker) amounts).any (db.ticketIdTaken ·.id) then []
    else
      match (db.insertTicketsWithCapacity ctx.now input (ctx.ids worker 0) (Db.newTickets (ctx.ids worker) amounts)).1 with
      | .issued rows => rows
      | _ => []
  | _, _ => []

def Statement.pays : {β : Type} → Statement β → Option (Id × Nat)
  | _, .exchange (.claimAndComplete id payment) => some (id, payment)
  | _, _ => none

section
variable (worker : Nat) (ctx : Ctx)

theorem RefundStatement.tickets_fixed (op : RefundStatement β) :
    (op.exec worker ctx db).2.tickets.map Ticket.fixed = db.tickets.map Ticket.fixed := by
  cases op <;> simp only [RefundStatement.exec]
  case prepare snapshot allocations =>
    obtain ⟨_, same⟩ | ⟨_, _, _, _, same⟩ :=
      prepareTicketRefund_cases db (ctx.ids worker) ctx.transferRefuses snapshot allocations <;> rw [same]
    · exact map_update fun _ => rfl
  case failAllocation allocation ticket partly =>
    cases partly with
    | true => rfl
    | false => exact map_update fun _ => rfl
  case restoreTicket ticket => exact map_update fun _ => rfl
  all_goals rfl

/-- The rows of an exchange after a statement: as they were but for their progress, or
just reserved, or tied to the payment that the statement names. -/
structure Traced (db : Db) (pays : Option (Id × Nat)) (after : Db) : Prop where
  tickets : after.tickets.map Ticket.fixed = db.tickets.map Ticket.fixed
  kept : ∀ row ∈ db.exchanges, ∃ later ∈ after.exchanges, later.fixed = row.fixed
  rows : ∀ row ∈ after.exchanges,
    (∃ old ∈ db.exchanges, row.fixed = old.fixed ∧
      (row.paymentRef = old.paymentRef ∨ ∃ payment, pays = some (row.id, payment) ∧ row.paymentRef = some payment)) ∨
    row.paymentRef = none

namespace Traced

variable {pays : Option (Id × Nat)}

theorem same (tickets : after.tickets.map Ticket.fixed = db.tickets.map Ticket.fixed)
    (exchanges : after.exchanges = db.exchanges) : Traced db pays after :=
  ⟨tickets, fun row mem => ⟨row, exchanges ▸ mem, rfl⟩,
    fun row mem => .inl ⟨row, exchanges ▸ mem, rfl, .inl rfl⟩⟩

theorem update (tickets : after.tickets.map Ticket.fixed = db.tickets.map Ticket.fixed)
    {which : TicketExchange → Bool} {change : TicketExchange → TicketExchange}
    (exchanges : after.exchanges = Library.update db.exchanges which change)
    (fixed : ∀ row, (change row).fixed = row.fixed)
    (paid : ∀ row ∈ db.exchanges, which row → (change row).paymentRef = row.paymentRef ∨
      ∃ payment, pays = some (row.id, payment) ∧ (change row).paymentRef = some payment) : Traced db pays after := by
  refine ⟨tickets, fun row mem => ?_, fun row mem => .inl ?_⟩
  · refine ⟨_, exchanges ▸ mem_update.mpr ⟨row, mem, rfl⟩, ?_⟩
    split
    · exact fixed row
    · rfl
  · obtain ⟨old, listed, rfl⟩ := mem_update.mp (exchanges ▸ mem)
    refine ⟨old, listed, ?_⟩
    split
    · have sameId : (change old).id = old.id := (congrArg TicketExchange.id (fixed old) :)
      refine ⟨fixed old, ?_⟩
      rw [sameId]
      exact paid old listed ‹_›
    · exact ⟨rfl, .inl rfl⟩

end Traced

theorem ExchangeStatement.traced (op : ExchangeStatement β) :
    Traced db (Statement.exchange op).pays (op.exec worker ctx db).2 := by
  have refl (pays : Option (Id × Nat)) : Traced db pays db := .same rfl rfl
  have restatus {pays : Option (Id × Nat)} {before after : Db} {id : Id} {status : ExchangeStatus}
      {change : TicketExchange → TicketExchange} (done : before.setExchangeStatus id status change = some after)
      (same : before.exchanges = db.exchanges) (tickets : before.tickets = db.tickets)
      (fixed : ∀ row, { change row with status }.fixed = row.fixed)
      (paid : ∀ row, (change row).paymentRef = row.paymentRef) : Traced db pays after := by
    rw [setExchangeStatus_frame done]
    exact .update (congrArg _ tickets)
      (congrArg (fun rows => update rows (·.id == id) fun row => { change row with status }) same)
      fixed fun row _ _ => .inl (paid row)
  have complete {pays : Option (Id × Nat)} {before after : Db} {now : Nat} {row : TicketExchange}
      (done : before.completeExchange now row = some after) (same : before.exchanges = db.exchanges)
      (tickets : before.tickets = db.tickets) : Traced db pays after := by
    rw [completeExchange_frame done]
    have moved : (update before.tickets row.moves row.move).map Ticket.fixed = before.tickets.map Ticket.fixed :=
      map_update fun _ => rfl
    refine .update (moved.trans (congrArg _ tickets))
      (congrArg (fun rows => update rows (·.id == row.id) fun row =>
        { row with status := .completed, completedAt := some now }) same) ?_ ?_
    · exact fun _ => rfl
    · exact fun _ _ _ => .inl rfl
  cases op <;> simp only [ExchangeStatement.exec]
  case reserve request =>
    unfold Db.reserveExchange
    split
    · exact refl _
    · rename_i reserved passed
      obtain ⟨ticket, type, -, rfl⟩ := Db.checkExchange_ok passed
      refine ⟨rfl, fun row mem => ⟨row, mem_append_left _ mem, rfl⟩, fun row mem => ?_⟩
      rcases mem_append.mp mem with old | new
      · exact .inl ⟨row, old, rfl, .inl rfl⟩
      · exact .inr (mem_singleton.mp new ▸ rfl)
  case setStatus | awaitPayment | failRefund =>
    exact committed_cases (refl _) fun after done => restatus done rfl rfl (fun _ => rfl) fun _ => rfl
  case complete row => exact committed_cases (refl _) fun after done => complete done rfl rfl
  case claimAndComplete id payment =>
    split
    · exact refl _
    rename_i row found
    have named : row.id = id := by simpa using find?_some (filter_eq_some_iff.mp found).1
    split
    · rename_i after done
      have framed := completeExchange_frame done
      have joined : after.exchanges = update db.exchanges (·.id == id) fun row =>
          { row with status := .completed, completedAt := some ctx.now, paymentRef := some payment } := by
        rw [framed]
        simp only [Db.updateExchange, update, map_map, named]
        refine map_congr_left fun old _ => ?_
        simp only [Function.comp_apply]
        by_cases same : old.id == id <;> simp [same]
      refine .update (framed ▸ map_update fun _ => rfl) joined (fun _ => rfl) fun old _ picked => .inr ⟨payment, ?_, rfl⟩
      rw [Statement.pays, eq_of_beq picked]
    · exact refl _
  case settleRefund row payment refund status =>
    refine committed_cases (refl _) fun after done => ?_
    obtain done | done | done | rfl := settleExchangeRefund_frame done
    · exact restatus done rfl rfl (fun _ => rfl) fun _ => rfl
    · exact restatus done rfl rfl (fun _ => rfl) fun _ => rfl
    · exact complete done rfl rfl
    · exact .same rfl rfl
  case expire | cancelAwaiting | setDispute => exact .update rfl rfl (fun _ => rfl) fun _ _ _ => .inl rfl
  case setTicketValidity => exact .same (map_update fun _ => rfl) rfl
  all_goals exact .same rfl rfl

theorem StoreStatement.traced (op : StoreStatement β) :
    (op.exec worker ctx db).2.tickets.map Ticket.fixed =
        (db.tickets ++ (Statement.store op).issued worker ctx db).map Ticket.fixed ∧
      (op.exec worker ctx db).2.exchanges = db.exchanges := by
  cases op <;> simp only [StoreStatement.exec, Statement.issued, append_nil]
  case insertTicketsWithCapacity input amounts =>
    split
    · exact ⟨by simp, rfl⟩
    obtain ⟨outcome, none_, same⟩ | ⟨same, -⟩ := db.insertTicketsWithCapacity_cases ctx.now input (ctx.ids worker 0)
      (Db.newTickets (ctx.ids worker) amounts)
    · rw [same]
      cases outcome with
      | issued rows => exact absurd rfl (none_ rows)
      | soldOut | perPersonLimit | notOnSale | unknownType => exact ⟨by simp, rfl⟩
    · rw [same]
      exact ⟨rfl, rfl⟩
  case claimRedemption | releaseRedemption | markTicketStatus | markOrderRefunded | markTicketOrderRefundPending |
      markTicketOrderRefunded | markRefundFailed | markOrderDisputed | restoreDisputedTickets =>
    exact ⟨map_update fun _ => rfl, rfl⟩
  all_goals exact ⟨trivial, trivial⟩

end

namespace Db

def Linked (db : Db) (exchange : TicketExchange) (dispute : Nat) : Prop :=
  ∃ payment, exchange.paymentRef = some payment ∧ db.stripe.reference payment = some (.exchange exchange.id) ∧
    db.stripe.disputed dispute = some payment ∧
    ∃ row ∈ db.exchanges, row.id = exchange.id ∧ row.ticketId = exchange.ticketId

def Purchase (db : Db) (payment : Nat) : Prop := ∃ reference, db.stripe.reference payment = some (.checkout reference)

end Db

/-- What ties tickets and exchanges to payments is true of these. -/
structure Sourced (provider : Provider) (db : Db) : Prop extends Keyed db where
  stripe : provider.sane db.stripe
  bought : ∀ row ∈ db.tickets, ∀ payment, row.paymentRef = some payment → db.Purchase payment
  upgraded : ∀ row ∈ db.exchanges, ∀ payment, row.paymentRef = some payment →
    db.stripe.reference payment = some (.exchange row.id)

/-- What a worker may remember while the others go on. -/
structure Grows (db after : Db) : Prop where
  stripe : db.stripe.Grows after.stripe
  exchanges : ∀ row ∈ db.exchanges, ∃ later ∈ after.exchanges, later.fixed = row.fixed

/-- What a worker has read before it makes the statement. -/
def Statement.Grounded (db : Db) : {β : Type} → Statement β → Prop
  | _, .store (.insertTicketsWithCapacity input _) => ∀ payment, input.paymentRef = some payment → db.Purchase payment
  | _, .store (.markOrderDisputed payment dispute) => db.stripe.disputed dispute = some payment
  -- only a dispute leaves the mark of a dispute
  | _, .store (.markTicketStatus _ false (some (.dispute _))) => False
  | _, .store (.markTicketOrderRefundPending _ (.dispute _)) => False
  | _, .store (.markRefundFailed (.dispute _)) => False
  | _, .exchange (.claimAndComplete id payment) => db.stripe.reference payment = some (.exchange id)
  | _, .exchange (.setTicketValidity row false (some (.dispute dispute))) => db.Linked row dispute
  | _, .exchange (.setTicketValidity row true reference) =>
    reference = none ∧ ∃ dispute, row.disputeRef = some dispute ∧ db.Linked row dispute
  | _, _ => True

theorem Grows.refl (db : Db) : Grows db db := ⟨.refl _, fun row mem => ⟨row, mem, rfl⟩⟩

theorem Grows.trans {a b c : Db} (first : Grows a b) (second : Grows b c) : Grows a c := by
  refine ⟨first.stripe.trans second.stripe, fun row mem => ?_⟩
  obtain ⟨middle, listed, same⟩ := first.exchanges row mem
  obtain ⟨last, inLast, again⟩ := second.exchanges middle listed
  exact ⟨last, inLast, again.trans same⟩

theorem Db.Purchase.later (grows : Grows db after) (bought : db.Purchase payment) : after.Purchase payment :=
  bought.imp fun _ same => grows.stripe.reference _ _ same

theorem Db.Linked.later (grows : Grows db after) {exchange : TicketExchange} {dispute : Nat}
    (linked : db.Linked exchange dispute) : after.Linked exchange dispute := by
  obtain ⟨payment, paid, reference, disputed, row, mem, id, ticket⟩ := linked
  obtain ⟨later, listed, same⟩ := grows.exchanges row mem
  exact ⟨payment, paid, grows.stripe.reference _ _ reference, grows.stripe.disputed _ _ disputed, later, listed,
    (congrArg TicketExchange.id same :).trans id, (congrArg TicketExchange.ticketId same :).trans ticket⟩

theorem Statement.issued_payment {worker : Nat} {ctx : Ctx} {db : Db}
    (grounded : op.Grounded db) {row : Ticket} (mem : row ∈ op.issued worker ctx db)
    (paid : row.paymentRef = some payment) : db.Purchase payment := by
  unfold Statement.issued at mem
  split at mem
  · rename_i input amounts
    split at mem
    · simp at mem
    obtain ⟨outcome, none_, same⟩ | ⟨same, -⟩ := db.insertTicketsWithCapacity_cases ctx.now input (ctx.ids worker 0)
      (Db.newTickets (ctx.ids worker) amounts)
    · rw [same] at mem
      split at mem
      · rename_i isIssued
        exact absurd isIssued (none_ _)
      · simp at mem
    · rw [same] at mem
      obtain ⟨new, -, rfl⟩ := mem_map.mp mem
      exact grounded payment paid
  · simp at mem

namespace Sourced

theorem exec (sourced : Sourced provider db) (worker : Nat) (ctx : Ctx) (grounded : op.Grounded db) :
    Sourced provider (op.exec provider worker ctx db).2 ∧ Grows db (op.exec provider worker ctx db).2 := by
  have keyed : Keyed (op.exec provider worker ctx db).2 := sourced.toKeyed.step worker op ctx
  -- what the shop's own statements do to tickets and exchanges
  have own {after : Db} (keyed : Keyed after) (stripe : after.stripe = db.stripe)
      (tickets : after.tickets.map Ticket.fixed = (db.tickets ++ op.issued worker ctx db).map Ticket.fixed)
      (kept : ∀ row ∈ db.exchanges, ∃ later ∈ after.exchanges, later.fixed = row.fixed)
      (rows : ∀ row ∈ after.exchanges, (∃ old ∈ db.exchanges, row.fixed = old.fixed ∧
        (row.paymentRef = old.paymentRef ∨ ∃ payment, op.pays = some (row.id, payment) ∧ row.paymentRef = some payment)) ∨
        row.paymentRef = none) : Sourced provider after ∧ Grows db after := by
    have grows : Grows db after := ⟨stripe ▸ .refl _, kept⟩
    refine ⟨⟨keyed, stripe ▸ sourced.stripe, fun row mem payment paid => ?_, fun row mem payment paid => ?_⟩, grows⟩
    · have listed : row.fixed ∈ (db.tickets ++ op.issued worker ctx db).map Ticket.fixed :=
        tickets ▸ mem_map_of_mem mem
      obtain ⟨old, inOld, same⟩ := mem_map.mp listed
      have paidOld : old.paymentRef = some payment := (congrArg Ticket.paymentRef same :).trans paid
      refine Db.Purchase.later grows ?_
      rcases mem_append.mp inOld with before | new
      · exact sourced.bought old before payment paidOld
      · exact Statement.issued_payment grounded new paidOld
    · obtain ⟨old, inOld, same, kept | ⟨other, names, paidBy⟩⟩ | unpaid := rows row mem
      · have sameId : row.id = old.id := (congrArg TicketExchange.id same :)
        rw [sameId]
        exact grows.stripe.reference _ _ (sourced.upgraded old inOld payment (kept ▸ paid))
      · obtain rfl : other = payment := some.inj (paidBy.symm.trans paid)
        refine grows.stripe.reference _ _ ?_
        unfold Statement.pays at names
        split at names
        · obtain ⟨rfl, rfl⟩ := Prod.mk.inj (some.inj names)
          exact grounded
        · simp at names
      · simp [unpaid] at paid
  have traced {after : Db} (keyed : Keyed after) (stripe : after.stripe = db.stripe) (issued : op.issued worker ctx db = [])
      (traced : Traced db op.pays after) : Sourced provider after ∧ Grows db after :=
    own keyed stripe (by rw [issued, append_nil]; exact traced.tickets) traced.kept traced.rows
  cases op with
  | stripe op =>
    have stripeGrows := provider.grows op ctx _ sourced.stripe
    have grows : Grows db (Statement.exec provider worker (.stripe op) ctx db).2 := ⟨stripeGrows, fun row mem => ⟨row, mem, rfl⟩⟩
    exact ⟨⟨keyed, provider.stays op ctx _ sourced.stripe, fun row mem payment paid => (sourced.bought row mem payment paid).later grows,
      fun row mem payment paid => stripeGrows.reference _ _ (sourced.upgraded row mem payment paid)⟩, grows⟩
  | credit op | checkout op =>
    obtain ⟨_, _, same⟩ := op.frame ctx db
    exact traced keyed (congrArg Db.stripe same :) rfl (.same (congrArg _ ((congrArg Db.tickets same :))) ((congrArg Db.exchanges same :)))
  | store op =>
    obtain ⟨tickets, exchanges⟩ := op.traced worker ctx
    obtain ⟨_, _, _, same⟩ := op.frame worker ctx db
    refine own keyed (congrArg Db.stripe same :) tickets ?_ ?_
    · exact fun row mem => ⟨row, exchanges.symm ▸ mem, rfl⟩
    · exact fun row mem => .inl ⟨row, exchanges ▸ mem, rfl, .inl rfl⟩
  | exchange op =>
    obtain ⟨_, _, _, _, same⟩ := op.frame worker ctx db
    exact traced keyed (congrArg Db.stripe same :) rfl (op.traced worker ctx)
  | refund op =>
    obtain ⟨_, _, _, same⟩ := op.frame worker ctx db
    exact traced keyed (congrArg Db.stripe same :) rfl (.same (op.tickets_fixed worker ctx) ((congrArg Db.exchanges same :)))

end Sourced

theorem oneType_sourced (capacity : Option Nat) (quantity : Nat) : Sourced machine (oneType capacity quantity) where
  ticketIds := nodup_nil
  exchangeIds := nodup_nil
  refers := nofun
  stripe := ⟨rfl, rfl, rfl, nofun, fun _ listed => absurd listed not_mem_nil⟩
  bought := fun _ listed => absurd listed not_mem_nil
  upgraded := nofun

end MilkAndHenny.Tickets

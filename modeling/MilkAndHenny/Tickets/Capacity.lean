import MilkAndHenny.Tickets.Keys
import MilkAndHenny.Tickets.Machine

/-! The places of an event. A ticket takes a place of its type while it is valid,
and one of another type while an active exchange holds that for it. Whatever makes
a ticket valid again, or an exchange active again, needs a place for it. -/

namespace MilkAndHenny.Tickets
open Library

variable {db after : Db} {type : Nat} {ticket : Id} {which : Ticket → Bool} {change : TicketExchange → TicketExchange}

namespace Db

def placeHeld (db : Db) (ticket : Id) (type : Nat) : Bool :=
  db.exchanges.any fun row => row.ticketId == ticket && row.toTicketTypeId == type && row.status.active

def takesPlace (db : Db) (slug type : Nat) (row : Ticket) : Bool :=
  row.eventSlug == slug &&
    ((row.ticketTypeId == type && row.status == .valid) || (row.ticketTypeId != type && db.placeHeld row.id type))

def promised (db : Db) (slug type : Nat) : Nat := db.tickets.countP (db.takesPlace slug type)

def picked (db : Db) (which : Ticket → Bool) (slug : Nat) (type : Option Nat) : Nat :=
  db.tickets.countP fun row => which row && row.eventSlug == slug && type.all (row.ticketTypeId == ·)

def roomFor (db : Db) (which : Ticket → Bool) : Bool :=
  (db.ticketTypes.all fun type =>
    db.promised type.eventSlug type.id + db.picked which type.eventSlug (some type.id) ≤ type.quantity) &&
  db.events.all fun event => event.capacity.all fun capacity =>
    db.sold event.slug none none + db.picked which event.slug none ≤ capacity

def placeLeft (db : Db) (slug type : Nat) : Bool :=
  db.ticketTypes.all fun row =>
    row.eventSlug != slug || row.id != type || decide (db.promised slug type + 1 ≤ row.quantity)

def mayActivate (db : Db) (id : Id) : Bool :=
  db.exchanges.all fun row => row.id != id || row.status.active ||
    (db.tickets.all fun ticket => ticket.id != row.ticketId || ticket.ticketTypeId == row.toTicketTypeId) ||
    db.placeLeft row.eventSlug row.toTicketTypeId

def mayComplete (db : Db) (exchange : TicketExchange) : Bool :=
  db.placeHeld exchange.ticketId exchange.toTicketTypeId ||
    db.tickets.all fun ticket => ticket.id != exchange.ticketId ||
      db.placeLeft ticket.eventSlug exchange.toTicketTypeId

def mayReport (db : Db) (exchange : TicketExchange) (payment refund : Nat) (status : RefundStatus) : Bool :=
  let rows := (db.updateExchangeRefund exchange.id payment fun row =>
    { row with refundRef := some refund, status := status.settlement }).exchangeRefunds.filter
      (·.exchangeId == exchange.id)
  if status.settlement = .failed then !rows.any (·.status == .succeeded) || db.mayActivate exchange.id
  else !(rows.all (·.status == .succeeded) && exchange.status != .completed) || db.mayComplete exchange

end Db

/-- Staff admit nobody beyond capacity, the size of a type stays, and there is a
place for whatever becomes valid or active again. -/
def placesKept : Condition Statement Ctx Db
  | _, _, _, .store (.insertTicketsWithCapacity input _), _, _ => !input.bypassCapacity
  | _, _, _, .store (.updateTicketType row), _, db =>
    (db.ticketType row.eventSlug row.id).all (·.quantity == row.quantity)
  | _, _, _, .store (.restoreDisputedTickets payment dispute), _, db =>
    db.roomFor (Db.disputedBy payment dispute)
  | _, _, _, .exchange (.setTicketValidity exchange true _), _, db => db.roomFor (Db.voided exchange.ticketId)
  | _, _, _, .refund (.failAllocation _ ticket false), _, db => db.roomFor (Db.voided ticket)
  | _, _, _, .refund (.restoreTicket ticket), _, db => db.roomFor (Db.voided ticket)
  | _, _, _, .exchange (.setStatus id status), _, db => !status.active || db.mayActivate id
  | _, _, _, .exchange (.awaitPayment id _), _, db => db.mayActivate id
  | _, _, _, .exchange (.failRefund id _ refundStarted), _, db => !refundStarted || db.mayActivate id
  | _, _, _, .exchange (.complete row), _, db => db.mayComplete row
  | _, _, _, .exchange (.settleRefund row payment refund status), _, db => db.mayReport row payment refund status
  | _, _, _, _, _, _ => true

/-- No type has more places taken or promised than it has, and no room more tickets. -/
structure WithinPlaces (db : Db) : Prop extends Keyed db where
  places : ∀ slug id type, db.ticketType slug id = some type → db.promised slug id ≤ type.quantity
  rooms : ∀ slug event capacity, db.event slug = some event → event.capacity = some capacity →
    db.sold slug none none ≤ capacity

namespace Db

theorem takesPlace_congr (same : after.exchanges = db.exchanges) : after.takesPlace = db.takesPlace := by
  funext slug type row
  simp [takesPlace, placeHeld, same]

theorem takesPlace_iff {slug : Nat} {row : Ticket} :
    db.takesPlace slug type row ↔ row.eventSlug = slug ∧
      ((row.ticketTypeId = type ∧ row.status = .valid) ∨ (row.ticketTypeId ≠ type ∧ db.placeHeld row.id type)) := by
  simp [takesPlace]

theorem placeHeld_iff :
    db.placeHeld ticket type ↔
      ∃ row ∈ db.exchanges, row.ticketId = ticket ∧ row.toTicketTypeId = type ∧ row.status.active := by
  simp [placeHeld, and_assoc]

theorem sold_le_promised (db : Db) (slug type : Nat) : db.sold slug (some type) none ≤ db.promised slug type := by
  refine countP_mono_left fun row _ holds => ?_
  simp only [Ticket.soldFor, and_eq_true, all_some, beq_iff_eq] at holds
  exact takesPlace_iff.mpr ⟨holds.1.1.1, .inl ⟨holds.1.2, holds.1.1.2⟩⟩

end Db

namespace WithinPlaces

variable {type : TicketTypeRow} {slug id : Nat} {now : Nat}

theorem same (kept : WithinPlaces db) (same : SameSeats db after) : WithinPlaces after := by
  refine ⟨kept.toKeyed.same same, ?_, ?_⟩ <;> obtain ⟨tickets, exchanges, ticketTypes, events⟩ := same
  · intro slug id type found
    rw [Db.promised, Db.takesPlace_congr exchanges, tickets]
    exact kept.places slug id type (by rwa [Db.ticketType, ticketTypes] at found)
  · intro slug event capacity found
    rw [Db.sold, tickets]
    exact kept.rooms slug event capacity (by rwa [Db.event, events] at found)

theorem promised_le_checked (kept : WithinPlaces db) (slug type : Nat) :
    db.promised slug type ≤ db.sold slug (some type) none + db.countExchangeHolds slug (some type) none none := by
  have split : db.promised slug type ≤ db.sold slug (some type) none +
      db.tickets.countP fun row => row.eventSlug == slug && db.placeHeld row.id type := by
    refine le_trans (countP_mono_left fun row _ holds => ?_) (countP_or_le ..)
    obtain ⟨here, ⟨same, valid⟩ | ⟨-, held⟩⟩ := Db.takesPlace_iff.mp holds
    · simp [Ticket.soldFor, here, same, valid]
    · simp [here, held]
  refine split.trans (Nat.add_le_add_left ?_ _)
  refine countP_le_of_keys kept.ticketIds (·.ticketId) fun row mem holds => ?_
  simp only [and_eq_true, Db.placeHeld_iff] at holds
  obtain ⟨here, partner, listed, sameTicket, target, active⟩ := holds
  obtain ⟨ticket, inTickets, id, slugs⟩ := kept.refers partner listed
  have ticketIs : ticket = row :=
    inj_on_of_nodup_map kept.ticketIds inTickets mem (id.trans sameTicket)
  have exists_ : (db.ticket partner.ticketId).any fun _ => true := by
    simp only [Db.ticket, Option.any_true, find?_isSome]
    exact ⟨row, mem, by simp [sameTicket]⟩
  exact ⟨partner, listed, by simp_all, sameTicket⟩

theorem updateTickets (kept : WithinPlaces db) {change : Ticket → Ticket}
    (tickets : after.tickets = update db.tickets which change) (exchanges : after.exchanges = db.exchanges)
    (ticketTypes : after.ticketTypes = db.ticketTypes) (events : after.events = db.events)
    (ids : ∀ row, (change row).id = row.id) (slugs : ∀ row, (change row).eventSlug = row.eventSlug)
    (types : ∀ row, (change row).ticketTypeId = row.ticketTypeId)
    (room : (∀ row ∈ db.tickets, which row → (change row).status = .valid → row.status = .valid) ∨
      db.roomFor which = true) : WithinPlaces after := by
  refine ⟨kept.toKeyed.updateTickets tickets exchanges ids slugs, ?_, ?_⟩
  · intro slug id type found
    rw [Db.ticketType, ticketTypes] at found
    have listed := mem_of_find?_eq_some found
    have named : type.eventSlug = slug ∧ type.id = id := by simpa using find?_some found
    have before := kept.places slug id type found
    rw [Db.promised, Db.takesPlace_congr exchanges, tickets]
    rcases room with fewer | room
    · refine (countP_update_le (fun row mem picked holds => ?_) fun _ _ _ holds => holds).trans before
      simp only [Db.takesPlace_iff, ids, slugs, types] at holds ⊢
      exact ⟨holds.1, holds.2.imp_left fun now => ⟨now.1, fewer row mem picked now.2⟩⟩
    · simp only [Db.roomFor, and_eq_true, all_eq_true, decide_eq_true_eq] at room
      have fits := room.1 type listed
      rw [named.1, named.2] at fits
      refine (countP_update_le (q := fun row => db.takesPlace slug id row ||
        (which row && row.eventSlug == slug && row.ticketTypeId == id)) (fun row mem picked holds => ?_)
          fun row _ _ holds => by simp [holds]).trans ((countP_or_le ..).trans fits)
      simp only [Db.takesPlace_iff, ids, slugs, types, and_eq_true, or_eq_true, beq_iff_eq] at holds ⊢
      rcases holds.2 with now | held
      · exact .inr ⟨⟨picked, holds.1⟩, now.1⟩
      · exact .inl ⟨holds.1, .inr held⟩
  · intro slug event capacity found limited
    rw [Db.event, events] at found
    have listed := mem_of_find?_eq_some found
    have named : event.slug = slug := by simpa using find?_some found
    have before := kept.rooms slug event capacity found limited
    rw [Db.sold, tickets]
    rcases room with fewer | room
    · refine (countP_update_le (fun row mem picked holds => ?_) fun _ _ _ holds => holds).trans before
      simp only [Ticket.soldFor, slugs, and_eq_true, Option.all_none, beq_iff_eq, and_true] at holds ⊢
      exact ⟨holds.1, fewer row mem picked holds.2⟩
    · simp only [Db.roomFor, and_eq_true, all_eq_true, decide_eq_true_eq] at room
      have fits := room.2 event listed
      rw [limited, named] at fits
      simp only [all_some, decide_eq_true_eq] at fits
      refine (countP_update_le (q := fun row : Ticket => row.soldFor slug none none ||
        (which row && row.eventSlug == slug && Option.all (row.ticketTypeId == ·) none))
          (fun row mem picked holds => ?_) fun row _ _ holds => by simp [holds]).trans
            ((countP_or_le ..).trans fits)
      simp only [Ticket.soldFor, slugs, and_eq_true, beq_iff_eq] at holds
      simp [picked, holds.1.1.1]

theorem countP_le_succ (kept : WithinPlaces db) {p q : Ticket → Bool} (id : Id)
    (more : ∀ row ∈ db.tickets, p row → q row ∨ row.id = id) : db.tickets.countP p ≤ db.tickets.countP q + 1 :=
  (countP_mono_left fun row mem holds => by simpa using more row mem holds).trans
    ((countP_or_le q (fun row => row.id == id) _).trans
      (Nat.add_le_add_left (countP_key_le_one kept.ticketIds id) _))

theorem placeLeft_spec (left : db.placeLeft slug id)
    (found : db.ticketType slug id = some type) : db.promised slug id + 1 ≤ type.quantity := by
  simp only [Db.placeLeft, all_eq_true] at left
  have named : type.eventSlug = slug ∧ type.id = id := by simpa using find?_some found
  simpa [named.1, named.2] using left type (mem_of_find?_eq_some found)

theorem updateExchanges (kept : WithinPlaces db) {which : TicketExchange → Bool} (tickets : after.tickets = db.tickets)
    (exchanges : after.exchanges = update db.exchanges which change)
    (ticketTypes : after.ticketTypes = db.ticketTypes) (events : after.events = db.events)
    (stays : ∀ row : TicketExchange, row.stays (change row))
    (room : (∀ row ∈ db.exchanges, which row → (change row).status.active → row.status.active) ∨
      ∃ id, (∀ row, which row → row.id = id) ∧ db.mayActivate id = true) : WithinPlaces after := by
  have held : ∀ id type, after.placeHeld id type → db.placeHeld id type ∨
      ∃ row ∈ db.exchanges, which row ∧ row.ticketId = id ∧ row.toTicketTypeId = type ∧
        (change row).status.active := by
    intro id type holds
    simp only [Db.placeHeld_iff, exchanges] at holds ⊢
    obtain ⟨_, mem, ticket, target, active⟩ := holds
    obtain ⟨row, listed, rfl⟩ := mem_update.mp mem
    split at ticket
    · rename_i picked
      obtain ⟨-, sameTicket, -, sameTarget⟩ := stays row
      simp only [picked, if_true, sameTicket, sameTarget] at ticket target active
      exact .inr ⟨row, listed, picked, ticket, target, active⟩
    · rename_i other
      simp only [other, if_false, false_eq_true] at target active
      exact .inl ⟨row, listed, ticket, target, active⟩
  refine ⟨kept.toKeyed.updateExchanges tickets exchanges stays, ?_, ?_⟩
  · intro slug type row found
    rw [Db.ticketType, ticketTypes] at found
    have before := kept.places slug type row found
    rw [Db.promised, tickets]
    -- the one exchange that the update may activate, and the ticket it would take a place for
    by_cases fewer : ∀ ticket ∈ db.tickets, after.takesPlace slug type ticket → db.takesPlace slug type ticket
    · exact (countP_mono_left fewer).trans before
    · push Not at fewer
      obtain ⟨ticket, inTickets, now, notBefore⟩ := fewer
      rw [Db.takesPlace_iff] at now
      rw [Ne, Db.takesPlace_iff] at notBefore
      obtain ⟨notValid, notHeld⟩ := not_or.mp fun some => notBefore ⟨now.1, some⟩
      obtain ⟨other, isHeld⟩ := now.2.resolve_left notValid
      replace notHeld := fun holds => notHeld ⟨other, holds⟩
      obtain ⟨old, listed, picked, ofTicket, target, active⟩ :=
        (held _ _ isHeld).resolve_left notHeld
      rcases room with fewer | ⟨id, onlyId, may⟩
      · exact absurd (Db.placeHeld_iff.mpr ⟨old, listed, ofTicket, target, fewer old listed picked active⟩) notHeld
      · simp only [Db.mayActivate, all_eq_true, or_eq_true, bne_iff_ne, beq_iff_eq] at may
        have slugs := kept.slug_of_refers listed inTickets ofTicket.symm
        rcases may old listed with ((unnamed | was) | moved) | left
        · exact absurd (onlyId old picked) unnamed
        · exact absurd (Db.placeHeld_iff.mpr ⟨old, listed, ofTicket, target, was⟩) notHeld
        · exact absurd ((moved ticket inTickets).resolve_left (not_not_intro ofTicket.symm) |>.trans target) other
        · rw [← slugs, now.1, target] at left
          refine (kept.countP_le_succ ticket.id fun row mem holds => ?_).trans (placeLeft_spec left found)
          rw [Db.takesPlace_iff] at holds ⊢
          rcases holds.2 with valid | ⟨different, isHeld⟩
          · exact .inl ⟨holds.1, .inl valid⟩
          · rcases held _ _ isHeld with still | ⟨last, inExchanges, alsoPicked, ofRow, -⟩
            · exact .inl ⟨holds.1, .inr ⟨different, still⟩⟩
            · have lastIs : last = old := inj_on_of_nodup_map kept.exchangeIds inExchanges listed
                ((onlyId last alsoPicked).trans (onlyId old picked).symm)
              exact .inr (ofRow.symm.trans (lastIs ▸ ofTicket))
  · intro slug event capacity found
    rw [Db.sold, tickets]
    exact kept.rooms slug event capacity (by rwa [Db.event, events] at found)

theorem completeExchange {exchange : TicketExchange} (kept : WithinPlaces db)
    (done : db.completeExchange now exchange = some after) (may : db.mayComplete exchange = true) :
    WithinPlaces after := by
  refine ⟨kept.toKeyed.completeExchange done, ?_, ?_⟩ <;> rw [completeExchange_frame done]
  · intro slug type row found
    have held : ∀ id type, Db.placeHeld { db with
        exchanges := update db.exchanges (·.id == exchange.id) fun row =>
          { row with status := .completed, completedAt := some now } } id type → db.placeHeld id type := by
      intro id type holds
      simp only [Db.placeHeld_iff] at holds ⊢
      obtain ⟨_, mem, ticket, target, active⟩ := holds
      obtain ⟨old, listed, rfl⟩ := mem_update.mp mem
      split at active
      · simp [ExchangeStatus.active] at active
      · rename_i other
        simp only [other, false_eq_true, if_false] at ticket target
        exact ⟨old, listed, ticket, target, active⟩
    -- before its move the ticket took a place of its old type, or of the new one by the exchange
    have moved : ∀ ticket : Ticket, exchange.moves ticket → Db.takesPlace { db with
        exchanges := update db.exchanges (·.id == exchange.id) fun row =>
          { row with status := .completed, completedAt := some now } } slug type (exchange.move ticket) →
        db.takesPlace slug type ticket ∨ (ticket.id = exchange.ticketId ∧ ticket.eventSlug = slug ∧
          exchange.toTicketTypeId = type ∧ ¬ db.placeHeld exchange.ticketId exchange.toTicketTypeId) := by
      intro ticket moves holds
      simp only [TicketExchange.moves, and_eq_true, beq_iff_eq] at moves
      rw [Db.takesPlace_iff] at holds ⊢
      obtain ⟨here, ⟨target, -⟩ | ⟨-, still⟩⟩ := holds
      · by_cases already : ticket.ticketTypeId = type
        · exact .inl ⟨here, .inl ⟨already, moves.2⟩⟩
        · by_cases wasHeld : db.placeHeld exchange.ticketId exchange.toTicketTypeId
          · exact .inl ⟨here, .inr ⟨already, by rwa [moves.1.1, ← show exchange.toTicketTypeId = type from target]⟩⟩
          · exact .inr ⟨moves.1.1, here, target, wasHeld⟩
      · by_cases already : ticket.ticketTypeId = type
        · exact .inl ⟨here, .inl ⟨already, moves.2⟩⟩
        · exact .inl ⟨here, .inr ⟨already, held _ _ still⟩⟩
    have others : ∀ ticket : Ticket, Db.takesPlace { db with
        exchanges := update db.exchanges (·.id == exchange.id) fun row =>
          { row with status := .completed, completedAt := some now } } slug type ticket →
        db.takesPlace slug type ticket := by
      intro ticket holds
      rw [Db.takesPlace_iff] at holds ⊢
      exact ⟨holds.1, holds.2.imp_right fun there => ⟨there.1, held _ _ there.2⟩⟩
    by_cases needed : ∃ ticket ∈ db.tickets, ticket.id = exchange.ticketId ∧ ticket.eventSlug = slug ∧
        exchange.toTicketTypeId = type ∧ ¬ db.placeHeld exchange.ticketId exchange.toTicketTypeId
    · obtain ⟨ticket, mem, id, here, target, notHeld⟩ := needed
      simp only [Db.mayComplete, or_eq_true, all_eq_true, bne_iff_ne] at may
      have left := (may.resolve_left notHeld ticket mem).resolve_left (not_not_intro id)
      rw [here, target] at left
      refine le_trans ?_ (placeLeft_spec left found)
      refine (countP_update_le (q := fun row => db.takesPlace slug type row || row.id == exchange.ticketId)
        (fun row _ moves holds => ?_) fun row _ _ holds => by simp [others row holds]).trans
          (kept.countP_le_succ exchange.ticketId fun row _ holds => by simpa using holds)
      rcases moved row moves holds with before | ⟨same, -⟩
      · simp [before]
      · simp [same]
    · refine (countP_update_le (fun row mem moves holds => ?_) fun row _ _ holds => others row holds).trans
        (kept.places slug type row found)
      exact (moved row moves holds).resolve_right fun new => needed ⟨row, mem, new⟩
  · intro slug event capacity found limited
    refine (countP_update_le (fun ticket mem moved holds => ?_) fun _ _ _ holds => holds).trans
      (kept.rooms slug event capacity found limited)
    simpa [Ticket.soldFor, TicketExchange.move] using holds

theorem reserveExchange {now : Nat} {id : Id} {request : ExchangeRequest} (kept : WithinPlaces db) :
    WithinPlaces (db.reserveExchange now id request).2 := by
  have keys : Keyed (db.reserveExchange now id request).2 := Keyed.reserveExchange kept.toKeyed
  revert keys
  unfold Db.reserveExchange
  split
  · exact fun _ => kept
  intro keys
  rename_i reserved passed
  obtain ⟨ticket, type, able, same⟩ := Db.checkExchange_ok passed
  have mem := able.member
  have named : type.eventSlug = ticket.eventSlug ∧ type.id = request.targetTicketTypeId := by
    simpa using find?_some able.target
  subst same
  have held : ∀ id' target, Db.placeHeld { db with
      exchanges := db.exchanges ++ [Db.newExchange now id request ticket type] } id' target →
      db.placeHeld id' target ∨ (id' = ticket.id ∧ target = type.id) := by
    intro id' target holds
    obtain ⟨row, listed, ofTicket, toType, active⟩ := Db.placeHeld_iff.mp holds
    rcases mem_append.mp listed with old | new
    · exact .inl (Db.placeHeld_iff.mpr ⟨row, old, ofTicket, toType, active⟩)
    · cases mem_singleton.mp new
      exact .inr ⟨ofTicket.symm, toType.symm⟩
  refine ⟨keys, ?_, kept.rooms⟩
  · intro slug target row found
    by_cases here : ticket.eventSlug = slug ∧ target = type.id
    · obtain ⟨rfl, rfl⟩ := here
      have foundIs : row = type := by
        have target := able.target
        rw [← named.2] at target
        exact some.inj (found.symm.trans target)
      subst foundIs
      have checked := kept.promised_le_checked ticket.eventSlug row.id
      have left := able.left
      refine (kept.countP_le_succ ticket.id fun other _ holds => ?_).trans
        (show db.promised ticket.eventSlug row.id + 1 ≤ row.quantity by omega)
      rw [Db.takesPlace_iff] at holds ⊢
      rcases holds.2 with valid | ⟨different, isHeld⟩
      · exact .inl ⟨holds.1, .inl valid⟩
      · rcases held _ _ isHeld with still | ⟨same, -⟩
        · exact .inl ⟨holds.1, .inr ⟨different, still⟩⟩
        · exact .inr same
    · refine (countP_mono_left fun other listed holds => ?_).trans (kept.places slug target row found)
      rw [Db.takesPlace_iff] at holds ⊢
      refine ⟨holds.1, holds.2.imp_right fun there => ⟨there.1, (held _ _ there.2).resolve_right ?_⟩⟩
      rintro ⟨same, toType⟩
      have otherIs : other = ticket := inj_on_of_nodup_map kept.ticketIds listed mem same
      exact here ⟨otherIs ▸ holds.1, toType⟩

theorem insertTickets (kept : WithinPlaces db) {rows : List Ticket} {event : EventRow} {excluded : Option Nat}
    (fresh : ∀ row ∈ rows, ∀ ticket ∈ db.tickets, ticket.id ≠ row.id) (unique : (rows.map (·.id)).Nodup)
    (ofType : ∀ row ∈ rows, row.eventSlug = slug ∧ row.ticketTypeId = id)
    (foundEvent : db.event slug = some event) (foundType : db.ticketType slug id = some type)
    (left : rows.length ≤ db.remaining now event type excluded) : WithinPlaces (db.insertTickets rows) := by
  have namedEvent : event.slug = slug := by simpa using find?_some foundEvent
  have namedType : type.eventSlug = slug ∧ type.id = id := by simpa using find?_some foundType
  have takes : ∀ row ∈ rows, ∀ slug' id', (db.insertTickets rows).takesPlace slug' id' row → slug' = slug ∧ id' = id := by
    intro row mem slug' id' holds
    obtain ⟨here, ⟨same, -⟩ | ⟨-, held⟩⟩ := Db.takesPlace_iff.mp holds
    · exact ⟨here.symm.trans (ofType row mem).1, same.symm.trans (ofType row mem).2⟩
    · obtain ⟨exchange, listed, ofTicket, -⟩ := Db.placeHeld_iff.mp held
      obtain ⟨ticket, inTickets, same, -⟩ := kept.refers exchange listed
      exact absurd (same.trans ofTicket) (fresh row mem ticket inTickets)
  refine ⟨kept.toKeyed.insertTickets fresh unique, ?_, ?_⟩
  · intro slug' id' row found
    have before := kept.places slug' id' row found
    have counted : (db.insertTickets rows).promised slug' id' =
        db.promised slug' id' + rows.countP ((db.insertTickets rows).takesPlace slug' id') := by
      simp only [Db.promised, Db.insertTickets, countP_append]
      rfl
    by_cases here : slug' = slug ∧ id' = id
    · obtain ⟨rfl, rfl⟩ := here
      obtain rfl : row = type := some.inj (found.symm.trans foundType)
      have checked := kept.promised_le_checked slug' id'
      have few := List.countP_le_length (p := (db.insertTickets rows).takesPlace slug' id') (l := rows)
      have some_ : rows.length ≤ db.typeRemaining now event.slug row excluded := by
        refine left.trans ?_
        unfold Db.remaining
        cases db.eventRemaining now event excluded with
        | none => exact le_rfl
        | some => exact min_le_left _ _
      simp only [Db.typeRemaining, namedEvent, namedType.2] at some_
      omega
    · have none_ : rows.countP ((db.insertTickets rows).takesPlace slug' id') = 0 :=
        countP_eq_zero.mpr fun row mem holds => here (takes row mem _ _ holds)
      omega
  · intro slug' event' capacity found limited
    have before := kept.rooms slug' event' capacity found limited
    have counted : (db.insertTickets rows).sold slug' none none =
        db.sold slug' none none + rows.countP (Ticket.soldFor slug' none none) := by
      simp [Db.sold, Db.insertTickets]
    by_cases here : slug' = slug
    · subst here
      obtain rfl : event' = event := some.inj (found.symm.trans foundEvent)
      have few := List.countP_le_length (p := Ticket.soldFor slug' none none) (l := rows)
      have some_ : rows.length ≤ capacity - db.sold slug' none none := by
        refine left.trans ?_
        simp only [Db.remaining, Db.eventRemaining, limited, map_some, elim_some, namedEvent]
        exact (min_le_right _ _).trans (Nat.sub_le _ _)
      omega
    · have none_ : rows.countP (Ticket.soldFor slug' none none) = 0 := by
        refine countP_eq_zero.mpr fun row mem holds => here ?_
        simp only [Ticket.soldFor, and_eq_true, beq_iff_eq] at holds
        exact holds.1.1.1.symm.trans (ofType row mem).1
      omega

end WithinPlaces

namespace WithinPlaces

variable (kept : WithinPlaces db)
include kept

theorem changeTickets {change : Ticket → Ticket}
    {status : ParticipantStatus} (stays : ∀ row, (change row).id = row.id ∧ (change row).eventSlug = row.eventSlug ∧
      (change row).ticketTypeId = row.ticketTypeId)
    (room : (∀ row, which row → (change row).status = .valid → row.status = .valid) ∨ db.roomFor which = true) :
    WithinPlaces (db.changeTickets which change status).2 :=
  kept.updateTickets rfl rfl rfl rfl (fun row => (stays row).1) (fun row => (stays row).2.1)
    (fun row => (stays row).2.2) (room.imp_left fun fewer row _ => fewer row)

theorem restoreRefunded (room : db.roomFor (Db.voided ticket) = true) :
    WithinPlaces (db.restoreRefundedTicket ticket) :=
  kept.updateTickets rfl rfl rfl rfl (fun _ => rfl) (fun _ => rfl) (fun _ => rfl) (.inr room)

theorem setExchangeStatus {after : Db} {id : Id} {status : ExchangeStatus}
    (done : db.setExchangeStatus id status change = some after) (stays : ∀ row : TicketExchange, row.stays (change row))
    (may : status.active → db.mayActivate id = true) : WithinPlaces after := by
  rw [setExchangeStatus_frame done]
  refine kept.updateExchanges rfl rfl rfl rfl stays ?_
  by_cases active : status.active
  · exact .inr ⟨id, fun row named => by simpa using named, may active⟩
  · exact .inl fun row _ _ now => absurd now active

theorem insertTicketsWithCapacity (worker : Nat) {input : IssueInput}
    (amounts : List (Option Int)) (ctx : Ctx) (public_ : input.bypassCapacity = false) :
    WithinPlaces (StoreStatement.exec worker (.insertTicketsWithCapacity input amounts) ctx db).2 := by
  simp only [StoreStatement.exec]
  split
  · exact kept
  rename_i free
  simp only [or_eq_true, not_or, not_eq_true] at free
  obtain ⟨_, -, same⟩ | ⟨same, fits⟩ := db.insertTicketsWithCapacity_cases ctx.now input (ctx.ids worker 0)
    (Db.newTickets (ctx.ids worker) amounts)
  · rw [same]
    exact kept
  rw [same]
  obtain ⟨event, type, foundEvent, foundType, left⟩ := fits public_
  obtain ⟨fresh, unique⟩ := newRows_fresh (fun _ _ => Ctx.ids_inj) free.2
  refine kept.insertTickets fresh unique ?_ foundEvent foundType (by simpa using left)
  intro row mem
  obtain ⟨new, -, rfl⟩ := mem_map.mp mem
  exact ⟨rfl, rfl⟩

theorem updateTicketType {row : TicketTypeRow}
    (same : (db.ticketType row.eventSlug row.id).all (·.quantity == row.quantity)) :
    WithinPlaces { db with
      ticketTypes := update db.ticketTypes (fun old => old.eventSlug == row.eventSlug && old.id == row.id) fun _ => row } := by
  refine ⟨⟨kept.ticketIds, kept.exchangeIds, kept.refers⟩, fun slug id type found => ?_, kept.rooms⟩
  have found_ : ((db.ticketType slug id).map fun old =>
      if old.eventSlug == row.eventSlug && old.id == row.id then row else old) = some type := by
    rw [← found]
    refine (find?_update fun old picked => ?_).symm
    simp only [and_eq_true, beq_iff_eq] at picked
    rw [picked.1, picked.2]
  obtain ⟨old, foundOld, rfl⟩ := map_eq_some_iff.mp found_
  have before := kept.places slug id old foundOld
  split
  · rename_i picked
    have named : old.eventSlug = slug ∧ old.id = id := by simpa using find?_some foundOld
    simp only [and_eq_true, beq_iff_eq, named.1, named.2] at picked
    rw [← picked.1, ← picked.2, foundOld, all_some, beq_iff_eq] at same
    exact same ▸ before
  · exact before

end WithinPlaces

theorem WithinPlaces.prepareTicketRefund {db : Db} (kept : WithinPlaces db) {ids : Nat → Id} {refuses : Bool}
    {snapshot : Ticket} {allocations : List (Nat × Int)} :
    WithinPlaces (db.prepareTicketRefund ids refuses snapshot allocations).2 := by
  obtain ⟨_, same⟩ | ⟨_, _, _, _, same⟩ := prepareTicketRefund_cases db ids refuses snapshot allocations <;> rw [same]
  · exact kept
  · exact kept.updateTickets rfl rfl rfl rfl (fun _ => rfl) (fun _ => rfl) (fun _ => rfl)
      (.inl fun _ _ _ valid => by simp at valid)

private theorem exchange_step (worker : Nat) {β : Type} (op : ExchangeStatement β) (ctx : Ctx) (db : Db)
    (kept : WithinPlaces db) {live : Nat → Bool} (met : placesKept live worker (.exchange op) ctx db) :
    WithinPlaces (op.exec worker ctx db).2 := by
  cases op <;> simp only [ExchangeStatement.exec]
  case reserve request => exact kept.reserveExchange
  case setStatus id status =>
    refine committed_cases kept fun after done => kept.setExchangeStatus done (fun _ => ⟨rfl, rfl, rfl, rfl⟩) fun active => ?_
    simpa [placesKept, active] using met
  case awaitPayment id session =>
    exact committed_cases kept fun after done =>
      kept.setExchangeStatus done (fun _ => ⟨rfl, rfl, rfl, rfl⟩) fun _ => met
  case complete row => exact committed_cases kept fun after done => kept.completeExchange done met
  case failRefund id payment refundStarted =>
    refine committed_cases kept fun after done => ?_
    have recorded : WithinPlaces (db.updateExchangeRefund id payment fun row => { row with status := .failed }) :=
      kept.same ⟨rfl, rfl, rfl, rfl⟩
    refine recorded.setExchangeStatus done (fun _ => ⟨rfl, rfl, rfl, rfl⟩) fun active => ?_
    cases refundStarted with
    | true => exact met
    | false => simp [ExchangeStatus.active] at active
  case claimAndComplete id payment =>
    split
    · exact kept
    rename_i row found
    obtain ⟨found, waiting⟩ := filter_eq_some_iff.mp found
    have listed : row ∈ db.exchanges := mem_of_find?_eq_some found
    have named : row.id = id := by simpa using find?_some found
    have claimed : WithinPlaces (db.updateExchange id fun row =>
        { row with status := .processing, paymentRef := some payment }) := by
      refine kept.updateExchanges rfl rfl rfl rfl (fun _ => ⟨rfl, rfl, rfl, rfl⟩) (.inl fun other mem picked _ => ?_)
      have same : other = row := inj_on_of_nodup_map kept.exchangeIds mem listed
        ((eq_of_beq picked).trans named.symm)
      rw [same, eq_of_beq waiting]
      rfl
    split
    · rename_i after done
      refine claimed.completeExchange done ?_
      simp only [Db.mayComplete, or_eq_true, Db.placeHeld_iff]
      refine .inl ⟨_, mem_update.mpr ⟨row, listed, rfl⟩, ?_, ?_, ?_⟩ <;> simp only [named, beq_self_eq_true, if_true]
      rfl
    · exact kept
  case expire session =>
    exact kept.updateExchanges rfl rfl rfl rfl (fun _ => ⟨rfl, rfl, rfl, rfl⟩)
      (.inl fun _ _ _ active => by simp [ExchangeStatus.active] at active)
  case cancelAwaiting id =>
    exact kept.updateExchanges rfl rfl rfl rfl (fun _ => ⟨rfl, rfl, rfl, rfl⟩)
      (.inl fun _ _ _ active => by simp [ExchangeStatus.active] at active)
  case setDispute id dispute =>
    exact kept.updateExchanges rfl rfl rfl rfl (fun _ => ⟨rfl, rfl, rfl, rfl⟩) (.inl fun _ _ _ active => active)
  case setTicketValidity ticket valid reference =>
    refine kept.updateTickets rfl rfl rfl rfl (fun _ => rfl) (fun _ => rfl) (fun _ => rfl) ?_
    cases valid with
    | true => exact .inr met
    | false => exact .inl fun _ _ _ valid => by simp at valid
  case settleRefund row payment refund status =>
    refine committed_cases kept fun after done => ?_
    have recorded : WithinPlaces (db.updateExchangeRefund row.id payment fun old =>
        { old with refundRef := some refund, status := status.settlement }) :=
      kept.same ⟨rfl, rfl, rfl, rfl⟩
    simp only [placesKept, Db.mayReport] at met
    unfold Db.settleExchangeRefund at done
    dsimp only at done
    split at done
    · rename_i failed
      rw [if_pos failed, or_eq_true] at met
      refine recorded.setExchangeStatus done (fun _ => ⟨rfl, rfl, rfl, rfl⟩) fun active => ?_
      refine met.resolve_left fun none_ => ?_
      simp only [not_eq_true'] at none_
      simp only [none_, false_eq_true, if_false] at active
      simp [ExchangeStatus.active] at active
    · rename_i failed
      rw [if_neg failed, or_eq_true] at met
      split at done
      · rename_i complete
        refine recorded.completeExchange done (met.resolve_left ?_)
        rw [complete]
        exact Bool.false_ne_true
      · exact some.inj done ▸ recorded
  all_goals first | exact kept | exact kept.same ⟨rfl, rfl, rfl, rfl⟩

variable {provider : Provider}

private theorem placesKept_exec (live : Nat → Bool) (worker : Nat) {β : Type} (op : Statement β) (ctx : Ctx) (db : Db)
    (kept : WithinPlaces db) (met : placesKept live worker op ctx db) : WithinPlaces (op.exec provider worker ctx db).2 := by
  cases op with
  | stripe => exact kept.same ⟨rfl, rfl, rfl, rfl⟩
  | credit op | checkout op => exact kept.same (op.sameSeats ctx db)
  | store op =>
    cases op <;> simp only [Statement.exec, StoreStatement.exec]
    case insertTicketsWithCapacity input amounts => exact kept.insertTicketsWithCapacity worker amounts ctx (by simpa [placesKept] using met)
    case updateTicketType row => exact kept.updateTicketType met
    case restoreDisputedTickets payment dispute =>
      exact kept.changeTickets (fun _ => ⟨rfl, rfl, rfl⟩) (.inr met)
    case markTicketStatus id refunded refundRef =>
      refine kept.changeTickets (fun _ => ⟨rfl, rfl, rfl⟩) (.inl fun row _ valid => ?_)
      cases refunded <;> simp at valid
    case claimRedemption | releaseRedemption =>
      exact kept.updateTickets rfl rfl rfl rfl (fun _ => rfl) (fun _ => rfl) (fun _ => rfl)
        (.inl fun _ _ _ valid => valid)
    case markOrderRefunded | markTicketOrderRefundPending | markTicketOrderRefunded | markRefundFailed |
        markOrderDisputed =>
      exact kept.changeTickets (fun _ => ⟨rfl, rfl, rfl⟩) (.inl fun _ _ valid => by simp at valid)
    all_goals exact kept
  | exchange op => exact exchange_step worker op ctx db kept met
  | refund op =>
    cases op <;> simp only [Statement.exec, RefundStatement.exec]
    case prepare snapshot allocations => exact kept.prepareTicketRefund
    case failAllocation allocation ticket partly =>
      cases partly with
      | true => exact kept.same ⟨rfl, rfl, rfl, rfl⟩
      | false => exact (kept.restoreRefunded met).same ⟨rfl, rfl, rfl, rfl⟩
    case restoreTicket ticket => exact kept.restoreRefunded met
    all_goals exact kept.same ⟨rfl, rfl, rfl, rfl⟩

theorem placesKept_step (live : Nat → Bool) (worker : Nat) {β : Type} (op : Statement β) (ctx : Ctx) (db : Db)
    (kept : WithinPlaces db) (met : placesKept live worker op ctx db) : WithinPlaces ((engine provider).exec worker op ctx db).2 :=
  (placesKept_exec live worker op ctx db kept met).same ⟨rfl, rfl, rfl, rfl⟩

/-- No type has more valid tickets than its quantity, and no event more than its capacity. -/
def WithinCapacity (db : Db) : Prop :=
  (∀ slug id type, db.ticketType slug id = some type → db.sold slug (some id) none ≤ type.quantity) ∧
  ∀ slug event capacity, db.event slug = some event → event.capacity = some capacity → db.sold slug none none ≤ capacity

/-- However the calls of the shop interleave: while every restored ticket and every
reactivated exchange finds a place, no ticket type and no room is oversold. -/
theorem capacity_kept (db : Db) (kept : WithinPlaces db) (events : List (Event Request Ctx))
    (met : (shop db).along (engine provider) serve placesKept events) : WithinCapacity (serveAll provider db events).db := by
  have final := Pool.run_valid (p := WithinPlaces) placesKept_step events (shop db) kept met
  exact ⟨fun slug id type found => (Db.sold_le_promised _ slug id).trans (final.places slug id type found), final.rooms⟩

/-- A room with one place. -/
def oneSeat : Db := oneType (some 1) 1

def disputedSeat : List (Event Request Ctx) :=
  call 0 (.startCheckout ⟨0, 0, 7, 1, 1⟩ 500) 4 ++ call 1 (.provider (.completeSession 0 true)) 1 ++
  call 2 (.provider (.send (.sessionCompleted 0))) 1 ++ call 3 (.deliver 0) 12 ++
  call 4 (.provider (.openDispute 0)) 1 ++ call 5 (.provider (.send (.disputeCreated 0 0))) 1 ++ call 6 (.deliver 1) 6

def resoldSeat : List (Event Request Ctx) :=
  call 7 (.startCheckout ⟨0, 0, 8, 1, 2⟩ 500) 4 ++ call 8 (.provider (.completeSession 1 true)) 1 ++
  call 9 (.provider (.send (.sessionCompleted 1))) 1 ++ call 10 (.deliver 2) 12 ++
  call 11 (.provider (.closeDispute 0 true)) 1 ++ call 12 (.provider (.send (.disputeClosed 0 0 true))) 1 ++
  call 13 (.deliver 3) 4

theorem oneSeat_withinPlaces : WithinPlaces oneSeat where
  ticketIds := nodup_nil
  exchangeIds := nodup_nil
  refers := nofun
  places := fun _ _ _ _ => Nat.zero_le _
  rooms := fun _ _ _ _ _ => Nat.zero_le _

def returnedSeat : List (Event Request Ctx) :=
  call 7 (.provider (.closeDispute 0 true)) 1 ++ call 8 (.provider (.send (.disputeClosed 0 0 true))) 1 ++
  call 9 (.deliver 2) 4

theorem capacity_kept_returnedSeat : WithinCapacity (serveAll machine oneSeat (disputedSeat ++ returnedSeat)).db :=
  capacity_kept oneSeat oneSeat_withinPlaces (disputedSeat ++ returnedSeat) (by decide +kernel)

theorem resoldSeat_oversold : ¬ WithinCapacity (serveAll machine oneSeat (disputedSeat ++ resoldSeat)).db := by
  intro within
  have room : ((serveAll machine oneSeat (disputedSeat ++ resoldSeat)).db.event 0).all fun event =>
      event.capacity.all ((serveAll machine oneSeat (disputedSeat ++ resoldSeat)).db.sold 0 none none ≤ ·) := by
    simp only [Option.all_eq_true, decide_eq_true_eq]
    exact fun event found capacity limited => within.2 0 event capacity found limited
  exact absurd room (by decide +kernel)

end MilkAndHenny.Tickets

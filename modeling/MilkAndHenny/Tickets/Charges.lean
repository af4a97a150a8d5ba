import Mathlib.Algebra.Order.BigOperators.Group.List
import MilkAndHenny.Tickets.Amounts

/-! What checkouts charge in any run: reservations and their retries, between any other statements and with prices,
grants and campaigns changing. -/

namespace MilkAndHenny.Tickets
open Library

variable {now : Nat} {request : CheckoutRequest} {desk : Desk} {redemptions : List CreditRedemption} {db after : Db}
  {type : TicketTypeRow}

def CheckoutSession.charges (row later : CheckoutSession) : Prop :=
  later.reference = row.reference ∧ later.quantity = row.quantity ∧ later.currency = row.currency ∧ later.amountMinor = row.amountMinor ∧
    later.amountAllocationsMinor = row.amountAllocationsMinor

/-- The units are still what they were, unless they have been released. -/
def CreditRedemption.stays (row later : CreditRedemption) : Prop :=
  later.checkoutReference = row.checkoutReference ∧ later.units = row.units ∧ later.unitAmountMinor = row.unitAmountMinor ∧ (later.used → row.used)

/-- What a step that reserves nothing may do: change prices and grants, and bring checkouts and redemptions to another status. -/
structure Evolves (db after : Db) : Prop where
  checkouts : Forall₂ CheckoutSession.charges db.checkouts after.checkouts
  redemptions : Forall₂ CreditRedemption.stays db.creditRedemptions after.creditRedemptions
  grants : (db.creditGrants.map (·.id)).Nodup → (after.creditGrants.map (·.id)).Nodup

structure Step where
  apply : Db → Db
  evolves : ∀ db, Evolves db (apply db)

inductive Deed
  | reserve (now : Nat) (request : CheckoutRequest) (asked : 1 ≤ request.quantity)
  | step (step : Step)

/-- What the units of a reference were reserved for. -/
structure Offer where
  quantity : Nat
  priceMinor : Int
  currency : Currency

structure Desk where
  db : Db
  /-- By reference, the latest first. -/
  offers : List (Nat × Offer)

def creditRequest (request : CheckoutRequest) (type : TicketTypeRow) : CreditRequest where
  checkoutReference := request.reference
  email := request.email
  eventSlug := request.eventSlug
  quantity := request.quantity
  ticketPriceMinor := type.priceMinor
  currency := type.currency
  minimumChargeMinor := type.currency.minimumMinor.getD 0

def pricedType (db : Db) (now : Nat) (request : CheckoutRequest) : Option TicketTypeRow :=
  match db.event request.eventSlug, db.ticketType request.eventSlug request.ticketTypeId with
  | some event, some type =>
    if (db.checkout request.reference).any (Db.checkoutChanged · request) then none
    else
      match db.openCheckout now request, db.checkCheckout now request event type with
      | none, .ok () => some type
      | _, _ => none
  | _, _ => none

/-- A first reservation notes what it reserves units for. -/
def Desk.next (deed : Deed) (desk : Desk) : Desk :=
  match deed with
  | .reserve now request _ =>
    let db := (desk.db.reserveCheckout now request).2
    match pricedType desk.db now request with
    | none => { desk with db }
    | some type =>
      let offer := { quantity := request.quantity, priceMinor := type.priceMinor, currency := type.currency }
      { db, offers := if (creditRows desk.db.creditRedemptions request.reference).isEmpty then (request.reference, offer) :: desk.offers else desk.offers }
  | .step step => { desk with db := step.apply desk.db }

/-- Checkouts of before either store the amounts of their tickets or are older than these. -/
structure Opening where
  db : Db
  unreserved : db.creditRedemptions = []
  grants : (db.creditGrants.map (·.id)).Nodup
  quantities : ∀ row ∈ db.checkouts, 1 ≤ row.quantity
  amounts : ∀ row ∈ db.checkouts, row.amountAllocationsMinor.length = row.quantity → row.amountAllocationsMinor.sum = row.amountMinor

def begun (opening : Opening) : Desk := { db := opening.db, offers := [] }

/-- The credit that a request comes to, if it comes so far. -/
def Deed.credits (deed : Deed) (desk : Desk) (holds : CheckoutRequest → TicketTypeRow → CheckoutCreditReservation → Db → Prop) : Prop :=
  match deed with
  | .reserve now request _ => ∀ type ∈ pricedType desk.db now request,
    let (credit, db) := reserveCreditsForCheckout (creditRequest request type) now desk.db
    holds request type credit db
  | .step _ => True

def AlwaysAddsUp (deed : Deed) (desk : Desk) : Prop :=
  deed.credits desk fun request type credit after =>
    AddsUp credit request.quantity type.priceMinor (type.currency.minimumMinor.getD 0) ∧ WithinGrants desk.db after

/-- A reservation adds up unless the price has fallen since its units were reserved. -/
def AddsUpAtPrice (deed : Deed) (desk : Desk) : Prop :=
  deed.credits desk fun request type credit after =>
    Splits credit request.quantity type.priceMinor ∧ WithinGrants desk.db after ∧
      ((creditRows desk.db.creditRedemptions request.reference = [] ∨
          ∃ offer ∈ desk.offers.lookup request.reference, offer.priceMinor ≤ type.priceMinor) →
        AddsUp credit request.quantity type.priceMinor (type.currency.minimumMinor.getD 0))

def ChargesExactly (desk : Desk) : Prop := ∀ row ∈ desk.db.checkouts, (amountAllocations row).sum = row.amountMinor

theorem sum_extra (base : Int) (count : Nat) (extra : Int) (small : extra ≤ count) (positive : 0 ≤ extra) :
    ((List.range count).map fun (index : Nat) => base + if (index : Int) < extra then 1 else 0).sum = base * count + extra := by
  have each (count : Nat) : ((List.range count).map fun (index : Nat) => base + if (index : Int) < extra then 1 else 0).sum =
      base * count + min extra count := by
    induction count with
    | zero => simp [positive]
    | succ count ih =>
      rw [List.range_succ, map_append, sum_append, ih, map_singleton, sum_singleton, Nat.cast_add_one, mul_add, mul_one]
      split <;> omega
  rw [each, min_eq_left small]

theorem sum_amountAllocations {row : CheckoutSession} (quantity : 1 ≤ row.quantity)
    (amounts : row.amountAllocationsMinor.length = row.quantity → row.amountAllocationsMinor.sum = row.amountMinor) :
    (amountAllocations row).sum = row.amountMinor := by
  unfold amountAllocations
  split
  · next stored => exact amounts stored
  · have positive : (0 : Int) < row.quantity := by omega
    have whole : max 1 (row.quantity : Int) = row.quantity := by omega
    have division := Int.ediv_mul_add_emod row.amountMinor row.quantity
    have nonneg := Int.emod_nonneg row.amountMinor positive.ne'
    have small := Int.emod_lt_of_pos row.amountMinor positive
    simp only [bind_pure_comp, List.map_eq_map, map_map, Function.comp_def, whole]
    rw [sum_extra _ _ _ (by omega) (by omega)]
    omega

section
variable {rows others : List CreditRedemption} {offer : Offer}

/-- Units that fit the tickets and the price that they were reserved for. -/
structure Fits (rows : List CreditRedemption) (offer : Offer) : Prop where
  units : (rows.map (·.units)).sum ≤ offer.quantity
  worth : ∀ row ∈ rows, 0 ≤ row.unitAmountMinor ∧ row.unitAmountMinor ≤ offer.priceMinor
  chargeable : offer.currency.minimumMinor.getD 0 ≤ offer.quantity * offer.priceMinor - (rows.map (·.discountMinor)).sum

def CreditRedemption.worth (row : CreditRedemption) : Nat × Int := (row.units, row.unitAmountMinor)

theorem units_worth (rows : List CreditRedemption) : rows.map (·.units) = (rows.map (·.worth)).map Prod.fst := by
  rw [map_map]
  rfl

theorem discounts_worth (rows : List CreditRedemption) : rows.map (·.discountMinor) = (rows.map (·.worth)).map fun unit => (unit.1 : Int) * unit.2 := by
  rw [map_map]
  rfl

theorem Fits.sublist (fits : Fits rows offer) (fewer : (others.map (·.worth)).Sublist (rows.map (·.worth))) : Fits others offer := by
  have worth : ∀ row ∈ others, 0 ≤ row.unitAmountMinor ∧ row.unitAmountMinor ≤ offer.priceMinor := by
    intro row mem
    obtain ⟨old, listed, same⟩ := mem_map.mp (fewer.subset (mem_map_of_mem (f := (·.worth)) mem))
    rw [← show old.unitAmountMinor = row.unitAmountMinor from congrArg Prod.snd same]
    exact fits.worth old listed
  have less : (others.map (·.discountMinor)).sum ≤ (rows.map (·.discountMinor)).sum := by
    rw [discounts_worth, discounts_worth]
    refine (fewer.map _).sum_le_sum fun discount mem => ?_
    obtain ⟨unit, listed, rfl⟩ := mem_map.mp mem
    obtain ⟨row, inside, rfl⟩ := mem_map.mp listed
    exact Int.mul_nonneg (Int.natCast_nonneg _) (fits.worth row inside).1
  have units : (others.map (·.units)).sum ≤ (rows.map (·.units)).sum := by
    rw [units_worth, units_worth]
    exact (fewer.map _).sum_le_sum fun _ _ => Nat.zero_le _
  exact ⟨units.trans fits.units, worth, fits.chargeable.trans (by omega)⟩

theorem Fits.perm (fits : Fits rows offer) (perm : others.Perm rows) : Fits others offer where
  units := by
    rw [(perm.map _).sum_nat]
    exact fits.units
  worth row mem := fits.worth row (perm.mem_iff.mp mem)
  chargeable := by
    rw [(perm.map _).sum_eq]
    exact fits.chargeable

theorem held_evolves {later : List CreditRedemption} (pairs : Forall₂ CreditRedemption.stays redemptions later) (reference : Nat) :
    ((heldRows later reference).map (·.worth)).Sublist ((heldRows redemptions reference).map (·.worth)) := by
  unfold heldRows
  induction pairs with
  | nil => exact .slnil
  | @cons row next rows others pair _ ih =>
    obtain ⟨same, units, amount, used⟩ := pair
    have worth : next.worth = row.worth := by rw [CreditRedemption.worth, units, amount]; rfl
    rw [filter_cons, filter_cons, same]
    cases held : next.used with
    | true =>
      rw [used held]
      split
      · rw [map_cons, map_cons, worth]
        exact ih.cons_cons _
      · exact ih
    | false =>
      rw [if_neg (by simp)]
      split
      · exact ih.cons _
      · exact ih

end

section
variable {db : Db} {type : TicketTypeRow} {redemptions : List CreditRedemption} {row : CheckoutSession} {charged : Int}

theorem checkCheckout_ok {event : EventRow} (passed : db.checkCheckout now request event type = .ok ()) :
    0 < type.priceMinor ∧ ∀ prior ∈ db.checkout request.reference, prior.currency = type.currency := by
  simp only [Db.checkCheckout, bind_ok_iff, ensure_ok_iff, decide_eq_true_eq] at passed
  obtain ⟨_, _, _, _, _, priced, _, _, _, _, _, currency, _⟩ := passed
  exact ⟨priced, fun prior held => eq_of_beq ((Option.all_eq_true _ _).mp currency prior held)⟩

theorem reserveCheckout_unpriced (unpriced : pricedType db now request = none) : (db.reserveCheckout now request).2 = db := by
  unfold pricedType at unpriced
  unfold Db.reserveCheckout
  split
  · next event type there known =>
    simp only [there, known] at unpriced
    split
    · rfl
    · next same =>
      rw [if_neg same] at unpriced
      split
      · rfl
      · next closed =>
        rw [closed] at unpriced
        split
        · rfl
        · next passed => simp [passed] at unpriced
  · rfl

theorem reserveCheckout_priced (priced : pricedType db now request = some type) :
    db.reserveCheckout now request = db.reserveAmount now type request (db.checkout request.reference) ∧ 0 < type.priceMinor ∧
      ∀ prior ∈ db.checkout request.reference, prior.quantity = request.quantity ∧ prior.currency = type.currency := by
  unfold pricedType at priced
  split at priced
  · next event found there known =>
    split at priced
    · cases priced
    · next same =>
      split at priced
      · next closed passed =>
        cases priced
        obtain ⟨positive, currency⟩ := checkCheckout_ok passed
        refine ⟨by simp [Db.reserveCheckout, there, known, if_neg same, closed, passed], positive, fun prior held => ⟨?_, currency prior held⟩⟩
        have asked : Db.checkoutChanged prior request = false := by
          rw [mem_def.mp held] at same
          simpa using same
        simp only [Db.checkoutChanged, or_eq_false_iff, bne_eq_false_iff_eq] at asked
        exact asked.1.2
      · cases priced
  · cases priced

/-- What a reservation that comes to its amount leaves of the checkouts. -/
structure Recorded (db after : Db) (request : CheckoutRequest) (type : TicketTypeRow) (charged : Int) : Prop where
  grants : after.creditGrants = db.creditGrants
  lasting : ∀ reference prior, db.checkout reference = some prior →
    ∃ later, after.checkout reference = some later ∧ later.quantity = prior.quantity ∧ later.currency = prior.currency
  quantities : 1 ≤ request.quantity → (∀ row ∈ db.checkouts, 1 ≤ row.quantity) → ∀ row ∈ after.checkouts, 1 ≤ row.quantity
  amounts : (∀ row ∈ db.checkouts, row.amountAllocationsMinor.length = row.quantity → row.amountAllocationsMinor.sum = row.amountMinor) →
    ∀ row ∈ after.checkouts, row.amountAllocationsMinor.length = row.quantity → row.amountAllocationsMinor.sum = row.amountMinor
  there : db.checkout request.reference = none → checkoutTotalSupported charged type.currency →
    ∃ row, after.checkout request.reference = some row ∧ row.quantity = request.quantity ∧ row.currency = type.currency

theorem recorded_append (first : db.checkout request.reference = none)
    (reference : row.reference = request.reference) (quantity : row.quantity = request.quantity) (currency : row.currency = type.currency)
    (stored : row.amountAllocationsMinor.sum = charged) (total : row.amountMinor = charged) :
    Recorded db { db with creditRedemptions := redemptions, checkouts := db.checkouts ++ [row] } request type charged where
  grants := rfl
  lasting reference prior found := by
    rw [Db.checkout] at found
    refine ⟨prior, ?_, rfl, rfl⟩
    rw [Db.checkout, find?_append, found]
    rfl
  quantities asked before := by
    refine List.forall_mem_append.mpr ⟨before, List.forall_mem_singleton.mpr ?_⟩
    rwa [quantity]
  amounts before := by
    refine List.forall_mem_append.mpr ⟨before, List.forall_mem_singleton.mpr fun _ => ?_⟩
    rw [stored, total]
  there _ _ := by
    rw [Db.checkout] at first
    refine ⟨row, ?_, quantity, currency⟩
    rw [Db.checkout, find?_append, first, List.find?_singleton, if_pos (beq_iff_eq.mpr reference)]
    rfl

theorem recorded_update {change : CheckoutSession → CheckoutSession} (prior : db.checkout request.reference = some row)
    (kept : ∀ row, (change row).reference = row.reference ∧ (change row).quantity = row.quantity ∧ (change row).currency = row.currency)
    (stored : ∀ row, (change row).amountAllocationsMinor.sum = (change row).amountMinor) :
    Recorded db { db with creditRedemptions := redemptions, checkouts := update db.checkouts (·.reference == request.reference) change } request type
      charged where
  grants := rfl
  lasting reference old found := by
    have later : ({ db with
        creditRedemptions := redemptions, checkouts := update db.checkouts (·.reference == request.reference) change } : Db).checkout reference =
          (db.checkout reference).map fun row => if row.reference == request.reference then change row else row :=
      find?_update fun row _ => by rw [(kept row).1]
    rw [found, map_some] at later
    refine ⟨_, later, ?_⟩
    split
    · exact (kept old).2
    · exact ⟨rfl, rfl⟩
  quantities _ before row mem := by
    obtain ⟨old, listed, same⟩ := mem_update.mp mem
    have quantity := before old listed
    rw [same]
    split
    · rwa [(kept old).2.1]
    · exact quantity
  amounts before row mem := by
    obtain ⟨old, listed, same⟩ := mem_update.mp mem
    have amounts := before old listed
    rw [same]
    split
    · exact fun _ => stored old
    · exact amounts
  there none := absurd (prior.symm.trans none) (some_ne_none _)

theorem reserveAmount_recorded (db : Db) (now : Nat) (type : TicketTypeRow) (request : CheckoutRequest) :
    let credit := reserveCreditsForCheckout (creditRequest request type) now db
    let after := (db.reserveAmount now type request (db.checkout request.reference)).2
    after.creditRedemptions = credit.2.creditRedemptions ∧ Recorded db after request type credit.1.ticketAmountsMinor.sum := by
  obtain ⟨redemptions, same⟩ := reserveCredits_frame db (creditRequest request type) now
  have inline : ({
      checkoutReference := request.reference, email := request.email, eventSlug := request.eventSlug, quantity := request.quantity
      ticketPriceMinor := type.priceMinor, currency := type.currency, minimumChargeMinor := type.currency.minimumMinor.getD 0 } : CreditRequest) =
    creditRequest request type := rfl
  unfold Db.reserveAmount
  dsimp only
  rw [inline]
  generalize reserveCreditsForCheckout (creditRequest request type) now db = credit at same ⊢
  obtain ⟨credit, after⟩ := credit
  cases same
  have refused (stays : db.checkout request.reference = none → ¬ checkoutTotalSupported credit.ticketAmountsMinor.sum type.currency) :
      Recorded db { db with creditRedemptions := redemptions } request type credit.ticketAmountsMinor.sum :=
    ⟨rfl, fun _ prior found => ⟨prior, found, rfl, rfl⟩, fun _ before => before, fun before => before,
      fun none supported => absurd supported (stays none)⟩
  split
  · next changed =>
    refine ⟨rfl, refused fun none => ?_⟩
    rw [none] at changed
    cases changed
  · split
    · next small => exact ⟨rfl, refused fun _ => by simpa using small⟩
    · cases prior : db.checkout request.reference with
      | none => exact ⟨rfl, recorded_append prior rfl rfl rfl rfl rfl⟩
      | some => exact ⟨rfl, recorded_update prior (fun _ => ⟨rfl, rfl, rfl⟩) fun _ => rfl⟩

end

section
variable {β : Type} {provider : Provider}

theorem charges_refl (row : CheckoutSession) : row.charges row := ⟨rfl, rfl, rfl, rfl, rfl⟩

theorem stays_refl (row : CreditRedemption) : row.stays row := ⟨rfl, rfl, rfl, id⟩

theorem evolves_refl (checkouts : after.checkouts = db.checkouts) (redemptions : after.creditRedemptions = db.creditRedemptions)
    (grants : after.creditGrants = db.creditGrants) : Evolves db after where
  checkouts := by
    rw [checkouts]
    exact forall₂_same.mpr fun row _ => charges_refl row
  redemptions := by
    rw [redemptions]
    exact forall₂_same.mpr fun row _ => stays_refl row
  grants unique := by rwa [grants]

theorem evolves_checkouts {db : Db} {which : CheckoutSession → Bool} {change : CheckoutSession → CheckoutSession}
    (kept : ∀ row : CheckoutSession, row.charges (change row)) : Evolves db (db.updateCheckout which change) where
  checkouts := forall₂_update charges_refl fun row _ => kept row
  redemptions := forall₂_same.mpr fun row _ => stays_refl row
  grants := id

theorem evolves_redemptions {db : Db} {reference : Nat} {change : CreditRedemption → CreditRedemption}
    (kept : ∀ row : CreditRedemption, row.status = .reserved → row.stays (change row)) : Evolves db (db.updateReserved reference change) where
  checkouts := forall₂_same.mpr fun row _ => charges_refl row
  redemptions := forall₂_update stays_refl fun row chosen => kept row (by simp_all)
  grants := id

/-- The reservation that a statement makes, if it makes one. -/
def Statement.reserves : {β : Type} → Statement β → Option CheckoutRequest
  | _, .checkout (.reserve request) => some request
  | _, _ => none

theorem CreditStatement.evolves (op : CreditStatement β) (ctx : Ctx) (db : Db) : Evolves db (op.exec ctx db).2 := by
  have reserved (row : CreditRedemption) (held : row.status = .reserved) : row.used := by simp [CreditRedemption.used, held]
  cases op with
  | attach =>
    rw [CreditStatement.exec]
    split
    · exact evolves_refl rfl rfl rfl
    · exact evolves_redemptions fun _ _ => ⟨rfl, rfl, rfl, id⟩
  | release | redeem => exact evolves_redemptions fun row held => ⟨rfl, rfl, rfl, fun _ => reserved row held⟩
  | claimGrant =>
    refine ⟨?_, ?_, fun unique => nodup_update (fun _ => rfl) unique⟩
    · exact forall₂_same.mpr fun row _ => charges_refl row
    · exact forall₂_same.mpr fun row _ => stays_refl row

theorem CheckoutStatement.evolves (op : CheckoutStatement β) (ctx : Ctx) (db : Db) (unreserved : (Statement.checkout op).reserves = none) :
    Evolves db (op.exec ctx db).2 := by
  cases op with
  | reserve => cases unreserved
  | persistSession =>
    simp only [CheckoutStatement.exec]
    split
    · exact evolves_refl rfl rfl rfl
    · exact evolves_checkouts fun row => charges_refl row
  | findByReference | find | findForPayment => exact evolves_refl rfl rfl rfl
  | _ => exact evolves_checkouts fun row => charges_refl row

theorem Statement.evolves (op : Statement β) (worker : Nat) (ctx : Ctx) (db : Db) (unreserved : op.reserves = none) :
    Evolves db (op.exec provider worker ctx db).2 := by
  cases op with
  | stripe => exact evolves_refl rfl rfl rfl
  | credit op => exact op.evolves ctx db
  | store op =>
    obtain ⟨_, _, _, same⟩ := op.frame worker ctx db
    rw [Statement.exec, same]
    exact evolves_refl rfl rfl rfl
  | checkout op => exact op.evolves ctx db unreserved
  | exchange op =>
    obtain ⟨_, _, _, _, same⟩ := op.frame worker ctx db
    rw [Statement.exec, same]
    exact evolves_refl rfl rfl rfl
  | refund op =>
    obtain ⟨_, _, _, same⟩ := op.frame worker ctx db
    rw [Statement.exec, same]
    exact evolves_refl rfl rfl rfl

/-- Every statement of the shop is a deed at the desk. -/
theorem Statement.deed (op : Statement β) (worker : Nat) (ctx : Ctx) (asked : ∀ request ∈ op.reserves, 1 ≤ request.quantity) :
    ∃ deed, ∀ desk : Desk, (desk.next deed).db = (op.exec provider worker ctx desk.db).2 := by
  cases reserved : op.reserves with
  | none => exact ⟨.step ⟨fun db => (op.exec provider worker ctx db).2, fun db => op.evolves worker ctx db reserved⟩, fun _ => rfl⟩
  | some request =>
    refine ⟨.reserve ctx.now request (asked request reserved), fun desk => ?_⟩
    cases op with
    | checkout op =>
      cases op <;> cases reserved
      simp only [Desk.next]
      split <;> rfl
    | _ => cases reserved

/-- A statement that a worker of the shop has carried out. -/
structure Call : Type 1 where
  {β : Type}
  op : Statement β
  worker : Nat
  ctx : Ctx
  asked : ∀ request ∈ op.reserves, 1 ≤ request.quantity

def Call.next (provider : Provider) (db : Db) (call : Call) : Db := (call.op.exec provider call.worker call.ctx db).2

/-- Any run of the shop's statements is one of the desk. -/
theorem calls_deeds (calls : List Call) : ∃ deeds, ∀ desk : Desk, (runFrom Desk.next desk deeds).db = calls.foldl (Call.next provider) desk.db := by
  induction calls with
  | nil => exact ⟨[], fun _ => rfl⟩
  | cons call calls ih =>
    obtain ⟨deed, same⟩ := call.op.deed call.worker call.ctx call.asked
    obtain ⟨deeds, rest⟩ := ih
    exact ⟨deed :: deeds, fun desk => (rest (desk.next deed)).trans (congrArg (calls.foldl (Call.next provider)) (same desk))⟩

end

section
variable {reference : Nat}

structure Kept (desk : Desk) : Prop where
  grants : (desk.db.creditGrants.map (·.id)).Nodup
  quantities : ∀ row ∈ desk.db.checkouts, 1 ≤ row.quantity
  amounts : ∀ row ∈ desk.db.checkouts, row.amountAllocationsMinor.length = row.quantity → row.amountAllocationsMinor.sum = row.amountMinor
  held : ∀ reference, heldRows desk.db.creditRedemptions reference ≠ [] → ∃ prior offer,
    desk.db.checkout reference = some prior ∧ desk.offers.lookup reference = some offer ∧ prior.quantity = offer.quantity ∧
      prior.currency = offer.currency ∧ Fits (heldRows desk.db.creditRedemptions reference) offer

theorem checkout_evolves (evolves : Evolves db after) {prior : CheckoutSession}
    (found : db.checkout reference = some prior) : ∃ later, after.checkout reference = some later ∧ prior.charges later := by
  have within {rows others : List CheckoutSession} (pairs : Forall₂ CheckoutSession.charges rows others)
      (found : rows.find? (·.reference == reference) = some prior) : ∃ later, others.find? (·.reference == reference) = some later ∧ prior.charges later := by
    induction pairs with
    | nil => cases found
    | @cons row next rows others pair _ ih =>
      rw [find?_cons] at found ⊢
      rw [pair.1]
      cases same : row.reference == reference with
      | true =>
        rw [same] at found
        cases found
        exact ⟨next, rfl, pair⟩
      | false =>
        rw [same] at found
        exact ih found
  exact within evolves.checkouts found

theorem kept_step (kept : Kept desk) (step : Step) : Kept (desk.next (.step step)) := by
  have evolves := step.evolves desk.db
  refine ⟨evolves.grants kept.grants, fun row mem => ?_, fun row mem => ?_, fun reference held => ?_⟩
  · obtain ⟨old, listed, -, quantity, -⟩ := mem_pairs evolves.checkouts mem
    exact quantity ▸ kept.quantities old listed
  · obtain ⟨old, listed, -, quantity, -, total, amounts⟩ := mem_pairs evolves.checkouts mem
    rw [quantity, total, amounts]
    exact kept.amounts old listed
  · have fewer := held_evolves evolves.redemptions reference
    have before : heldRows desk.db.creditRedemptions reference ≠ [] := by
      intro none
      rw [none] at fewer
      exact held (map_eq_nil_iff.mp (List.sublist_nil.mp fewer))
    obtain ⟨prior, offer, found, noted, quantity, currency, fits⟩ := kept.held reference before
    obtain ⟨later, there, -, sameQuantity, sameCurrency, -⟩ := checkout_evolves evolves found
    exact ⟨later, offer, there, noted, sameQuantity.trans quantity, sameCurrency.trans currency, fits.sublist fewer⟩

theorem held_append (redemptions rows : List CreditRedemption) (reference : Nat) :
    heldRows (redemptions ++ rows) reference = heldRows redemptions reference ++ heldRows rows reference := filter_append ..

theorem creditRows_nil : creditRows redemptions reference = [] ↔ heldRows redemptions reference = [] := by
  have perm := creditRows_perm redemptions reference
  exact ⟨fun none => (none ▸ perm).nil_eq.symm, fun none => (none ▸ perm).eq_nil⟩

theorem held_firstRows (db : Db) (request : CreditRequest) (now reference : Nat) :
    heldRows (firstRows db request now) reference = if reference = request.checkoutReference then firstRows db request now else [] := by
  have taken := firstRows_taken db request now
  split
  · next same => exact filter_eq_self.mpr fun row mem => by simp [(taken.reserved row mem).1, (taken.reserved row mem).2, same]
  · next apart => exact filter_eq_nil_iff.mpr fun row mem => by simp [(taken.reserved row mem).1, Ne.symm apart]

theorem firstRows_fits (taken : firstRows db (creditRequest request type) now ≠ []) :
    Fits (firstRows db (creditRequest request type) now) { quantity := request.quantity, priceMinor := type.priceMinor, currency := type.currency } := by
  have rows := firstRows_taken db (creditRequest request type) now
  have capacity : 0 < max 0 (type.priceMinor * request.quantity - type.currency.minimumMinor.getD 0) := rows.capacity taken
  have discount : ((firstRows db (creditRequest request type) now).map (·.discountMinor)).sum ≤
      max 0 (type.priceMinor * request.quantity - type.currency.minimumMinor.getD 0) := rows.discount
  rw [mul_comm] at capacity discount
  refine ⟨rows.units, fun row mem => ⟨(rows.worth row mem).1.le, (rows.worth row mem).2⟩, ?_⟩
  dsimp only
  omega

theorem supported_of_le {total : Int} {currency : Currency} (enough : currency.minimumMinor.getD 0 ≤ total) : checkoutTotalSupported total currency := by
  unfold checkoutTotalSupported
  cases least : currency.minimumMinor with
  | none => rfl
  | some =>
    rw [least] at enough
    exact decide_eq_true enough

theorem kept_reserve (kept : Kept desk) (asked : 1 ≤ request.quantity) : Kept (desk.next (.reserve now request asked)) := by
  simp only [Desk.next]
  cases priced : pricedType desk.db now request with
  | none =>
    simp only [reserveCheckout_unpriced priced]
    exact kept
  | some type =>
    obtain ⟨same, positive, prior⟩ := reserveCheckout_priced priced
    obtain ⟨redemptions, recorded⟩ := reserveAmount_recorded desk.db now type request
    simp only [same]
    generalize (desk.db.reserveAmount now type request (desk.db.checkout request.reference)).2 = after at redemptions recorded ⊢
    refine ⟨by rw [recorded.grants]; exact kept.grants, recorded.quantities asked kept.quantities, recorded.amounts kept.amounts, fun reference held => ?_⟩
    have before (held : heldRows desk.db.creditRedemptions reference ≠ []) : ∃ prior offer, after.checkout reference = some prior ∧
        desk.offers.lookup reference = some offer ∧ prior.quantity = offer.quantity ∧ prior.currency = offer.currency ∧
          Fits (heldRows desk.db.creditRedemptions reference) offer := by
      obtain ⟨row, offer, found, noted, quantity, currency, fits⟩ := kept.held reference held
      obtain ⟨later, there, sameQuantity, sameCurrency⟩ := recorded.lasting reference row found
      exact ⟨later, offer, there, noted, sameQuantity.trans quantity, sameCurrency.trans currency, fits⟩
    by_cases first : creditRows desk.db.creditRedemptions request.reference = []
    · rw [reserve_first first] at redemptions recorded
      simp only [redemptions, first, List.isEmpty_nil, if_true] at held ⊢
      rw [held_append, held_firstRows] at held ⊢
      by_cases here : reference = request.reference
      · subst here
        rw [creditRows_nil.mp first, nil_append, if_pos (show request.reference = (creditRequest request type).checkoutReference from rfl)] at held ⊢
        have there : ∃ row, after.checkout request.reference = some row ∧ row.quantity = request.quantity ∧ row.currency = type.currency := by
          cases old : desk.db.checkout request.reference with
          | some row =>
            obtain ⟨later, found, quantity, currency⟩ := recorded.lasting request.reference row old
            obtain ⟨sameQuantity, sameCurrency⟩ := prior row old
            exact ⟨later, found, quantity.trans sameQuantity, currency.trans sameCurrency⟩
          | none =>
            have fits := firstRows_fits held
            have total := (@first_addsUp desk.db (creditRequest request type) now positive.le).total
            refine recorded.there old (supported_of_le ?_)
            rw [total]
            exact fits.chargeable
        obtain ⟨row, found, quantity, currency⟩ := there
        exact ⟨row, _, found, lookup_cons_self, quantity, currency, firstRows_fits held⟩
      · rw [if_neg (show reference ≠ (creditRequest request type).checkoutReference from here), append_nil] at held ⊢
        have apart : (reference == request.reference) = false := beq_false_of_ne here
        rw [lookup_cons, apart]
        exact before held
    · rw [reserve_again first] at redemptions
      have full : (creditRows desk.db.creditRedemptions request.reference).isEmpty = false := by simpa using first
      simp only [redemptions, full] at held ⊢
      exact before held

end

theorem kept_begun (opening : Opening) : Kept (begun opening) where
  grants := opening.grants
  quantities := opening.quantities
  amounts := opening.amounts
  held reference held := by
    have none : (begun opening).db.creditRedemptions = [] := opening.unreserved
    rw [none] at held
    exact absurd rfl held

theorem kept_next (kept : Kept desk) (deed : Deed) : Kept (desk.next deed) := by
  cases deed with
  | reserve now request asked => exact kept_reserve kept asked
  | step step => exact kept_step kept step

theorem addsUp_again (kept : Kept desk) {now : Nat} {request : CheckoutRequest} (priced : pricedType desk.db now request = some type)
    (again : creditRows desk.db.creditRedemptions request.reference ≠ []) :
    let credit := reservationFromRows (creditRows desk.db.creditRedemptions request.reference) request.quantity type.priceMinor
    Splits credit request.quantity type.priceMinor ∧
      ((∃ offer ∈ desk.offers.lookup request.reference, offer.priceMinor ≤ type.priceMinor) →
        AddsUp credit request.quantity type.priceMinor (type.currency.minimumMinor.getD 0)) := by
  obtain ⟨-, positive, prior⟩ := reserveCheckout_priced priced
  obtain ⟨row, offer, found, noted, quantity, currency, fits⟩ := kept.held request.reference fun none => again (creditRows_nil.mpr none)
  obtain ⟨sameQuantity, sameCurrency⟩ := prior row found
  have rows := fits.perm (creditRows_perm desk.db.creditRedemptions request.reference)
  have units := rows.units
  rw [← quantity, sameQuantity] at units
  have splits := reservation_splits units (fun row mem => (rows.worth row mem).1) positive.le
  refine ⟨splits, ?_⟩
  rintro ⟨other, same, risen⟩
  obtain rfl : offer = other := some.inj (noted.symm.trans same)
  have total := reservation_total units fun row mem => (rows.worth row mem).2.trans risen
  refine ⟨splits, total, fun _ => ?_⟩
  have chargeable := rows.chargeable
  rw [← quantity, ← currency, sameQuantity, sameCurrency] at chargeable
  have dearer : (request.quantity : Int) * offer.priceMinor ≤ request.quantity * type.priceMinor :=
    Int.mul_le_mul_of_nonneg_left risen (Int.natCast_nonneg _)
  omega

theorem addsUp_next (kept : Kept desk) (deed : Deed) : AddsUpAtPrice deed desk := by
  cases deed with
  | step => trivial
  | reserve now request =>
    intro type priced
    obtain ⟨-, positive, -⟩ := reserveCheckout_priced priced
    by_cases first : creditRows desk.db.creditRedemptions request.reference = []
    · rw [reserve_first first]
      have addsUp := @first_addsUp desk.db (creditRequest request type) now positive.le
      exact ⟨addsUp.toSplits, first_withinGrants kept.grants, fun _ => addsUp⟩
    · rw [reserve_again first]
      obtain ⟨splits, addsUp⟩ := addsUp_again kept priced first
      exact ⟨splits, fun _ _ => le_max_left _ _, fun unchanged => addsUp (unchanged.resolve_left first)⟩

/-- A first reservation adds up for any grants, quantity, price and minimum. In any run a retry still does unless the price has fallen since, and
fulfilment charges the tickets of each checkout exactly what the checkout charged. -/
theorem checkout_amounts_add_up :
    (∀ (db : Db) (request : CreditRequest) (now : Nat), (db.creditGrants.map (·.id)).Nodup → 0 ≤ request.ticketPriceMinor →
      creditRows db.creditRedemptions request.checkoutReference = [] →
        let (credit, after) := reserveCreditsForCheckout request now db
        AddsUp credit request.quantity request.ticketPriceMinor request.minimumChargeMinor ∧ WithinGrants db after) ∧
      ∀ (opening : Opening) (deeds : List Deed),
        EachStep Desk.next AddsUpAtPrice (begun opening) deeds ∧ Throughout Desk.next ChargesExactly (begun opening) deeds := by
  refine ⟨fun db request now keyed priced first => ?_, fun opening deeds => ?_⟩
  · rw [reserve_first first]
    exact ⟨first_addsUp priced, first_withinGrants keyed⟩
  · have steps : Throughout Desk.next Kept (begun opening) deeds ∧ EachStep Desk.next AddsUpAtPrice (begun opening) deeds :=
      @EachStep.shows _ _ Desk.next (fun _ _ => True) Kept AddsUpAtPrice (fun kept _ => ⟨kept_next kept _, addsUp_next kept _⟩) (begun opening) deeds
        (kept_begun opening) (@EachStep.always _ _ _ (fun _ => True) _ _ fun _ _ => trivial)
    exact ⟨steps.2, steps.1.imp fun desk kept row mem => sum_amountAllocations (kept.quantities row mem) (kept.amounts row mem)⟩

def pound : Opening where
  db := {
    events := [{ slug := 0, capacity := none, status := .published, startsAt := 1000, endsAt := none, doorsAt := none }]
    ticketTypes := [{ eventSlug := 0, id := 0, name := "Entry", priceMinor := 100, currency := .gbp, quantity := 10,
                      perPersonLimit := 4, salesStart := none, salesEnd := none, hidden := false }]
    creditGrants := [{ id := 0, email := 7, unitsTotal := 1, claimed := true, revoked := false, campaignActive := true, amountMinor := 100,
                       currency := .gbp, redemptionEventSlug := 0, redeemExpiresAt := none }] }
  unreserved := rfl
  grants := by decide
  quantities := forall_mem_nil _
  amounts := forall_mem_nil _

def reprice (priceMinor : Int) : Step where
  apply db := { db with ticketTypes := db.ticketTypes.map fun row => { row with priceMinor } }
  evolves _ := evolves_refl rfl rfl rfl

def twoTickets : CheckoutRequest := { eventSlug := 0, ticketTypeId := 0, email := 7, quantity := 2, reference := 1 }

/-- A unit that was worth a ticket is worth more than one. -/
def cheaperRetry : List Deed := [.reserve 0 twoTickets (by decide), .step (reprice 50)]

theorem cheaper_retry_differs : ¬ EachStep Desk.next AlwaysAddsUp (begun pound) (cheaperRetry ++ [.reserve 1 twoTickets (by decide)]) := by
  intro each
  have last := each.last
  have differs : (pricedType (runFrom Desk.next (begun pound) cheaperRetry).db 1 twoTickets).any fun type =>
      let credit := (reserveCreditsForCheckout (creditRequest twoTickets type) 1 (runFrom Desk.next (begun pound) cheaperRetry).db).1
      credit.ticketAmountsMinor.sum != twoTickets.quantity * type.priceMinor - credit.discountMinor := by decide +kernel
  obtain ⟨type, priced, wrong⟩ := (Option.any_eq_true _ _).mp differs
  exact bne_iff_ne.mp wrong (last type priced).1.total

end MilkAndHenny.Tickets

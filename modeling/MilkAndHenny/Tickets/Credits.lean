import MilkAndHenny.Tickets.Db

/-! Attendee credits: units of a grant are reserved by a checkout reference, then
redeemed by its order or released. -/

namespace MilkAndHenny.Tickets
open Library

structure CheckoutCreditReservation where
  units : Nat
  discountMinor : Int
  ticketAmountsMinor : List Int

structure CreditRequest where
  checkoutReference : Nat
  email : Nat
  eventSlug : Nat
  quantity : Nat
  ticketPriceMinor : Int
  currency : Currency
  minimumChargeMinor : Int

namespace CreditRedemption

/-- A unit that is not free for another checkout. -/
def used (row : CreditRedemption) : Bool := row.status == .reserved || row.status == .redeemed

def discountMinor (row : CreditRedemption) : Int := row.units * row.unitAmountMinor

end CreditRedemption

def discounted : List Int → List Int → List Int
  | amount :: amounts, unit :: units => max 0 (amount - unit) :: discounted amounts units
  | amounts, _ => amounts

def reservationFromRows (rows : List CreditRedemption) (quantity : Nat) (ticketPriceMinor : Int) :
    CheckoutCreditReservation where
  units := (rows.map (·.units)).sum
  discountMinor := (rows.map (·.discountMinor)).sum
  ticketAmountsMinor := discounted (List.replicate quantity ticketPriceMinor)
    (rows.flatMap fun row => List.replicate row.units row.unitAmountMinor)

def CreditGrant.reservable (grant : CreditGrant) (request : CreditRequest) (now : Nat) : Bool :=
  grant.email == request.email && grant.claimed && !grant.revoked && grant.campaignActive &&
    grant.redemptionEventSlug == request.eventSlug && grant.currency == request.currency &&
    grant.redeemExpiresAt.all (now < ·)

/-- `order by amount_minor desc, redeem_expires_at asc nulls last`. -/
def CreditGrant.first (a b : CreditGrant) : Bool :=
  b.amountMinor < a.amountMinor || (a.amountMinor == b.amountMinor &&
    match a.redeemExpiresAt, b.redeemExpiresAt with
    | some x, some y => x ≤ y
    | none, some _ => false
    | _, none => true)

def usedUnits (redemptions : List CreditRedemption) (grant : Nat) : Nat :=
  ((redemptions.filter fun row => row.grantId == grant && row.used).map (·.units)).sum

def takeUnits (request : CreditRequest) (redemptions : List CreditRedemption) :
    List CreditGrant → Nat → Int → List CreditRedemption
  | [], _, _ => []
  | grant :: grants, unitsLeft, discountCapacity =>
    if unitsLeft = 0 ∨ discountCapacity = 0 then []
    else
      let availableUnits := grant.unitsTotal - usedUnits redemptions grant.id
      let unitAmountMinor := min grant.amountMinor request.ticketPriceMinor
      if availableUnits = 0 ∨ unitAmountMinor ≤ 0 then takeUnits request redemptions grants unitsLeft discountCapacity
      else
        let units := min unitsLeft (min availableUnits (discountCapacity / unitAmountMinor).toNat)
        if units = 0 then takeUnits request redemptions grants unitsLeft discountCapacity
        else
          { grantId := grant.id, checkoutReference := request.checkoutReference, eventSlug := request.eventSlug,
            units, unitAmountMinor, status := .reserved, checkoutSessionId := none, orderId := none } ::
          takeUnits request redemptions grants (unitsLeft - units) (discountCapacity - units * unitAmountMinor)

def creditRows (redemptions : List CreditRedemption) (reference : Nat) : List CreditRedemption :=
  orderBy (fun a b => b.unitAmountMinor ≤ a.unitAmountMinor)
    (redemptions.filter fun row => row.checkoutReference == reference && row.used)

def reserveCreditsForCheckout (request : CreditRequest) (now : Nat) (db : Db) : CheckoutCreditReservation × Db :=
  match creditRows db.creditRedemptions request.checkoutReference with
  | [] =>
    let grants := orderBy CreditGrant.first (db.creditGrants.filter (·.reservable request now))
    let discountCapacity := max 0 (request.ticketPriceMinor * request.quantity - request.minimumChargeMinor)
    let reserved := takeUnits request db.creditRedemptions grants request.quantity discountCapacity
    (reservationFromRows reserved request.quantity request.ticketPriceMinor,
      { db with creditRedemptions := db.creditRedemptions ++ reserved })
  | existing => (reservationFromRows existing request.quantity request.ticketPriceMinor, db)

namespace Db

def updateReserved (db : Db) (reference : Nat) (change : CreditRedemption → CreditRedemption) : Db :=
  { db with creditRedemptions :=
      update db.creditRedemptions (fun row => row.checkoutReference == reference && row.status == .reserved) change }

def attachCreditReservationToCheckout (db : Db) (reference session : Nat) : Db :=
  db.updateReserved reference fun row => { row with checkoutSessionId := some session }

def releaseCreditReservation (db : Db) (reference : Nat) : Db :=
  db.updateReserved reference fun row => { row with status := .released }

def redeemCreditReservation (db : Db) (reference : Nat) (order : Id) : Db :=
  db.updateReserved reference fun row => { row with status := .redeemed, orderId := some order }

def claimCreditGrant (db : Db) (grant : Nat) : Db :=
  { db with creditGrants := update db.creditGrants (·.id == grant) fun row => { row with claimed := true } }

end Db

inductive CreditStatement : Type → Type where
  | attach (reference session : Nat) : CreditStatement Bool
  | release (reference : Nat) : CreditStatement Unit
  | redeem (reference : Nat) (order : Id) : CreditStatement Unit
  | claimGrant (grant : Nat) : CreditStatement Unit

def CreditStatement.exec {β : Type} : CreditStatement β → Ctx → Db → β × Db
  | .attach reference session, ctx, db =>
    if ctx.fault then (false, db) else (true, db.attachCreditReservationToCheckout reference session)
  | .release reference, _, db => ((), db.releaseCreditReservation reference)
  | .redeem reference order, _, db => ((), db.redeemCreditReservation reference order)
  | .claimGrant grant, _, db => ((), db.claimCreditGrant grant)

end MilkAndHenny.Tickets

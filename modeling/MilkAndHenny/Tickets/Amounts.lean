import Mathlib.Tactic.Ring
import MilkAndHenny.Library.Machine
import MilkAndHenny.Tickets.Frames

/-! What a checkout charges for each ticket: the price less one unit of credit at most, or an even split
of the stored total. -/

namespace MilkAndHenny.Tickets
open Library

variable {rows : List CreditRedemption}

section

def unitAmounts (rows : List CreditRedemption) : List Int := rows.flatMap fun row => List.replicate row.units row.unitAmountMinor

theorem length_unitAmounts (rows : List CreditRedemption) : (unitAmounts rows).length = (rows.map (·.units)).sum := by
  simp [unitAmounts, List.length_flatMap]

theorem sum_unitAmounts (rows : List CreditRedemption) : (unitAmounts rows).sum = (rows.map (·.discountMinor)).sum := by
  induction rows with
  | nil => rfl
  | cons row rows ih =>
    rw [unitAmounts] at ih
    rw [unitAmounts, flatMap_cons, sum_append, ih, map_cons, sum_cons, List.sum_replicate, CreditRedemption.discountMinor,
      nsmul_eq_mul]

theorem mem_unitAmounts {unit : Int} (mem : unit ∈ unitAmounts rows) : ∃ row ∈ rows, row.unitAmountMinor = unit := by
  obtain ⟨row, listed, inside⟩ := mem_flatMap.mp mem
  exact ⟨row, listed, (List.eq_of_mem_replicate inside).symm⟩

theorem discounted_replicate {quantity : Nat} {units : List Int} (price : Int) (fits : units.length ≤ quantity) :
    discounted (List.replicate quantity price) units =
      units.map (fun unit => max 0 (price - unit)) ++ List.replicate (quantity - units.length) price := by
  induction units generalizing quantity with
  | nil => cases quantity <;> rfl
  | cons unit units ih =>
    cases quantity with
    | zero => exact absurd fits (Nat.not_succ_le_zero _)
    | succ =>
      rw [List.replicate_succ, discounted, ih (Nat.le_of_succ_le_succ fits), length_cons, Nat.succ_sub_succ]
      rfl

structure Splits (credit : CheckoutCreditReservation) (quantity : Nat) (price : Int) : Prop where
  units : credit.units ≤ quantity
  between : ∀ amount ∈ credit.ticketAmountsMinor, 0 ≤ amount ∧ amount ≤ price
  oneEach : ∃ units : List Int, units.length = credit.units ∧ units.sum = credit.discountMinor ∧
    credit.ticketAmountsMinor = units.map (fun unit => max 0 (price - unit)) ++ List.replicate (quantity - credit.units) price

structure AddsUp (credit : CheckoutCreditReservation) (quantity : Nat) (price minimum : Int) : Prop extends Splits credit quantity price where
  total : credit.ticketAmountsMinor.sum = quantity * price - credit.discountMinor
  chargeable : minimum ≤ quantity * price → minimum ≤ credit.ticketAmountsMinor.sum

variable {rows : List CreditRedemption} {quantity : Nat} {price : Int}

theorem reservation_amounts (price : Int) (fits : (rows.map (·.units)).sum ≤ quantity) :
    (reservationFromRows rows quantity price).ticketAmountsMinor =
      (unitAmounts rows).map (fun unit => max 0 (price - unit)) ++ List.replicate (quantity - (rows.map (·.units)).sum) price := by
  rw [← length_unitAmounts] at fits ⊢
  exact discounted_replicate price fits

theorem reservation_splits (fits : (rows.map (·.units)).sum ≤ quantity) (positive : ∀ row ∈ rows, 0 ≤ row.unitAmountMinor) (priced : 0 ≤ price) :
    Splits (reservationFromRows rows quantity price) quantity price := by
  refine ⟨fits, fun amount mem => ?_, unitAmounts rows, length_unitAmounts rows, sum_unitAmounts rows, reservation_amounts price fits⟩
  rw [reservation_amounts price fits] at mem
  rcases mem_append.mp mem with reduced | full
  · obtain ⟨unit, listed, rfl⟩ := mem_map.mp reduced
    obtain ⟨row, inside, rfl⟩ := mem_unitAmounts listed
    have worth := positive row inside
    omega
  · cases List.eq_of_mem_replicate full
    exact ⟨priced, le_rfl⟩

theorem reservation_total (fits : (rows.map (·.units)).sum ≤ quantity) (worth : ∀ row ∈ rows, row.unitAmountMinor ≤ price) :
    (reservationFromRows rows quantity price).ticketAmountsMinor.sum = quantity * price - (rows.map (·.discountMinor)).sum := by
  have reduced : (unitAmounts rows).map (fun unit => max 0 (price - unit)) = (unitAmounts rows).map (fun unit => price - unit) := by
    refine map_congr_left fun unit mem => ?_
    obtain ⟨row, inside, rfl⟩ := mem_unitAmounts mem
    have most := worth row inside
    omega
  have less (units : List Int) : (units.map fun unit => price - unit).sum = units.length * price - units.sum := by
    induction units with
    | nil => simp
    | cons unit units ih =>
      rw [map_cons, sum_cons, sum_cons, ih, length_cons]
      push_cast
      ring
  rw [reservation_amounts price fits, reduced, sum_append, less, sum_unitAmounts, List.sum_replicate, length_unitAmounts, nsmul_eq_mul,
    Nat.cast_sub fits]
  ring

end

section
variable {request : CreditRequest} {redemptions : List CreditRedemption} {discountCapacity : Int}

/-- What the loop over the grants takes, within its three budgets. -/
structure Taken (request : CreditRequest) (redemptions : List CreditRedemption) (grants : List CreditGrant) (unitsLeft : Nat)
    (discountCapacity : Int) (rows : List CreditRedemption) : Prop where
  units : (rows.map (·.units)).sum ≤ unitsLeft
  discount : (rows.map (·.discountMinor)).sum ≤ discountCapacity
  reserved : ∀ row ∈ rows, row.checkoutReference = request.checkoutReference ∧ row.used
  worth : ∀ row ∈ rows, 0 < row.unitAmountMinor ∧ row.unitAmountMinor ≤ request.ticketPriceMinor
  capacity : rows ≠ [] → 0 < discountCapacity
  available : ∀ row ∈ rows, ∃ grant ∈ grants, grant.id = row.grantId ∧ row.units ≤ grant.unitsTotal - usedUnits redemptions grant.id
  once : (rows.map (·.grantId)).Sublist (grants.map (·.id))

theorem Taken.skip {grant : CreditGrant} {grants : List CreditGrant} {unitsLeft : Nat}
    (taken : Taken request redemptions grants unitsLeft discountCapacity rows) :
    Taken request redemptions (grant :: grants) unitsLeft discountCapacity rows where
  units := taken.units
  discount := taken.discount
  reserved := taken.reserved
  worth := taken.worth
  capacity := taken.capacity
  available row mem := by
    obtain ⟨other, listed, same⟩ := taken.available row mem
    exact ⟨other, mem_cons_of_mem _ listed, same⟩
  once := taken.once.cons _

theorem takeUnits_taken (grants : List CreditGrant) (unitsLeft : Nat) (capacity : 0 ≤ discountCapacity) :
    Taken request redemptions grants unitsLeft discountCapacity (takeUnits request redemptions grants unitsLeft discountCapacity) := by
  have nothing (grants : List CreditGrant) (unitsLeft : Nat) {discountCapacity : Int} (capacity : 0 ≤ discountCapacity) :
      Taken request redemptions grants unitsLeft discountCapacity [] :=
    ⟨Nat.zero_le _, capacity, forall_mem_nil _, forall_mem_nil _, absurd rfl, forall_mem_nil _, List.nil_sublist _⟩
  induction grants generalizing unitsLeft discountCapacity with
  | nil => exact nothing [] unitsLeft capacity
  | cons grant grants ih =>
    unfold takeUnits
    split
    · exact nothing _ unitsLeft capacity
    · next goOn =>
      dsimp only
      split
      · exact (ih unitsLeft capacity).skip
      · next some =>
        split
        · exact (ih unitsLeft capacity).skip
        · have unit : 0 < min grant.amountMinor request.ticketPriceMinor := by omega
          have affordable : ((discountCapacity / min grant.amountMinor request.ticketPriceMinor).toNat : Int) * min grant.amountMinor request.ticketPriceMinor ≤
              discountCapacity := by
            rw [Int.toNat_of_nonneg (Int.ediv_nonneg capacity unit.le)]
            exact Int.ediv_mul_le _ unit.ne'
          generalize (discountCapacity / min grant.amountMinor request.ticketPriceMinor).toNat = most at affordable ⊢
          generalize taken : min unitsLeft (min (grant.unitsTotal - usedUnits redemptions grant.id) most) = units
          have available : units ≤ grant.unitsTotal - usedUnits redemptions grant.id := by omega
          have cost : (units : Int) * min grant.amountMinor request.ticketPriceMinor ≤ discountCapacity :=
            (Int.mul_le_mul_of_nonneg_right (by omega) unit.le).trans affordable
          have rest := ih (unitsLeft - units) (show 0 ≤ discountCapacity - units * min grant.amountMinor request.ticketPriceMinor by omega)
          refine ⟨?_, ?_, ?_, ?_, fun _ => by omega, ?_, ?_⟩
          · rw [map_cons, sum_cons]
            have others := rest.units
            dsimp only
            omega
          · rw [map_cons, sum_cons]
            have others := rest.discount
            rw [CreditRedemption.discountMinor]
            dsimp only
            omega
          · exact forall_mem_cons.mpr ⟨⟨rfl, rfl⟩, rest.reserved⟩
          · exact forall_mem_cons.mpr ⟨⟨unit, min_le_right _ _⟩, rest.worth⟩
          · exact forall_mem_cons.mpr ⟨⟨grant, mem_cons_self, rfl, available⟩, rest.skip.available⟩
          · exact rest.once.cons_cons _

end

section
variable {db : Db} {request : CreditRequest} {now : Nat}

def heldRows (redemptions : List CreditRedemption) (reference : Nat) : List CreditRedemption :=
  redemptions.filter fun row => row.checkoutReference == reference && row.used

theorem creditRows_perm (redemptions : List CreditRedemption) (reference : Nat) :
    (creditRows redemptions reference).Perm (heldRows redemptions reference) := perm_insertionSort _ _

/-- No grant gives more than it had left. -/
def WithinGrants (db after : Db) : Prop :=
  ∀ grant ∈ db.creditGrants, usedUnits after.creditRedemptions grant.id ≤ max (usedUnits db.creditRedemptions grant.id) grant.unitsTotal

def firstRows (db : Db) (request : CreditRequest) (now : Nat) : List CreditRedemption :=
  takeUnits request db.creditRedemptions (orderBy CreditGrant.first (db.creditGrants.filter (·.reservable request now))) request.quantity
    (max 0 (request.ticketPriceMinor * request.quantity - request.minimumChargeMinor))

theorem reserve_first (first : creditRows db.creditRedemptions request.checkoutReference = []) :
    reserveCreditsForCheckout request now db = (reservationFromRows (firstRows db request now) request.quantity request.ticketPriceMinor,
      { db with creditRedemptions := db.creditRedemptions ++ firstRows db request now }) := by
  rw [reserveCreditsForCheckout, first]
  rfl

theorem reserve_again (again : creditRows db.creditRedemptions request.checkoutReference ≠ []) :
    reserveCreditsForCheckout request now db =
      (reservationFromRows (creditRows db.creditRedemptions request.checkoutReference) request.quantity request.ticketPriceMinor, db) := by
  rw [reserveCreditsForCheckout]
  split
  · next none => exact absurd none again
  · rfl

theorem firstRows_taken (db : Db) (request : CreditRequest) (now : Nat) :
    Taken request db.creditRedemptions (orderBy CreditGrant.first (db.creditGrants.filter (·.reservable request now))) request.quantity
      (max 0 (request.ticketPriceMinor * request.quantity - request.minimumChargeMinor)) (firstRows db request now) :=
  takeUnits_taken _ _ (le_max_left 0 _)

theorem first_addsUp (priced : 0 ≤ request.ticketPriceMinor) :
    AddsUp (reservationFromRows (firstRows db request now) request.quantity request.ticketPriceMinor) request.quantity request.ticketPriceMinor
      request.minimumChargeMinor := by
  have taken := firstRows_taken db request now
  have total := reservation_total taken.units fun row mem => (taken.worth row mem).2
  refine ⟨reservation_splits taken.units (fun row mem => (taken.worth row mem).1.le) priced, total, fun enough => ?_⟩
  have discount := taken.discount
  rw [mul_comm request.ticketPriceMinor, max_eq_right (by omega)] at discount
  omega

theorem first_withinGrants (keyed : (db.creditGrants.map (·.id)).Nodup) :
    WithinGrants db { db with creditRedemptions := db.creditRedemptions ++ firstRows db request now } := by
  intro grant listed
  have taken := firstRows_taken db request now
  have ids : ((firstRows db request now).map (·.grantId)).Nodup := by
    refine List.Nodup.sublist taken.once ?_
    have sorted := (perm_insertionSort (fun a b => CreditGrant.first a b) (db.creditGrants.filter (·.reservable request now))).map (·.id)
    exact sorted.nodup_iff.mpr (keyed.sublist (filter_sublist.map _))
  have added : usedUnits (db.creditRedemptions ++ firstRows db request now) grant.id =
      usedUnits db.creditRedemptions grant.id + usedUnits (firstRows db request now) grant.id := by
    simp [usedUnits]
  have most : usedUnits (firstRows db request now) grant.id ≤ grant.unitsTotal - usedUnits db.creditRedemptions grant.id := by
    have used : (firstRows db request now).filter (fun row => row.grantId == grant.id && row.used) =
        (firstRows db request now).filter (fun row => row.grantId == grant.id) :=
      filter_congr fun row mem => by rw [(taken.reserved row mem).2, Bool.and_true]
    rw [usedUnits, used]
    by_cases there : ∃ row ∈ firstRows db request now, row.grantId = grant.id
    · obtain ⟨row, mem, same⟩ := there
      obtain ⟨other, inside, id, available⟩ := taken.available row mem
      have granted : other ∈ db.creditGrants := mem_of_mem_filter ((perm_insertionSort _ _).mem_iff.mp inside)
      cases inj_on_of_nodup_map keyed granted listed (id.trans same)
      rw [id, filter_key ids mem]
      simpa [id] using available
    · rw [filter_eq_nil_iff.mpr fun row mem same => there ⟨row, mem, eq_of_beq same⟩]
      exact Nat.zero_le _
  rw [added]
  omega

end

end MilkAndHenny.Tickets

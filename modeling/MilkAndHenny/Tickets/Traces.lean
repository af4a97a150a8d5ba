import MilkAndHenny.Tickets.Charges
import MilkAndHenny.Tickets.Disputes

/-! What the tables of the shop keep of payments and credits, whatever is asked of it and however its calls interleave. -/

namespace MilkAndHenny.Tickets
open Library Library.Program

variable {β : Type} {db after : Db} {change : CreditRedemption → CreditRedemption}

section
variable {last : Db}

/-- What was issued and begun is still there. -/
structure Retains (db after : Db) : Prop where
  tickets : db.tickets.map Ticket.fixed <+: after.tickets.map Ticket.fixed
  exchanges : ∀ row ∈ db.exchanges, ∃ later ∈ after.exchanges, later.fixed = row.fixed

theorem Retains.then_ (retains : Retains db after) (tickets : after.tickets.map Ticket.fixed <+: last.tickets.map Ticket.fixed)
    (grows : Grows after last) : Retains db last where
  tickets := retains.tickets.trans tickets
  exchanges row mem := by
    obtain ⟨middle, listed, same⟩ := retains.exchanges row mem
    obtain ⟨later, inside, again⟩ := grows.exchanges middle listed
    exact ⟨later, inside, again.trans same⟩

/-- A statement changes nothing of a ticket that is fixed, and adds those that it issues. -/
theorem Statement.issues (op : Statement β) (worker : Nat) (ctx : Ctx) (db : Db) :
    (op.exec provider worker ctx db).2.tickets.map Ticket.fixed = (db.tickets ++ op.issued worker ctx db).map Ticket.fixed := by
  have quiet {after : Db} (same : after.tickets.map Ticket.fixed = db.tickets.map Ticket.fixed) :
      after.tickets.map Ticket.fixed = (db.tickets ++ []).map Ticket.fixed := by
    rw [same, append_nil]
  cases op with
  | stripe => exact quiet rfl
  | credit op | checkout op =>
    obtain ⟨_, _, same⟩ := op.frame ctx db
    exact quiet (congrArg (·.tickets.map Ticket.fixed) same :)
  | store op => exact (op.traced worker ctx).1
  | exchange op => exact quiet (op.traced worker ctx).tickets
  | refund op => exact quiet (op.tickets_fixed worker ctx)

/-- However the calls of the shop interleave, and wherever a worker stops: no ticket and no exchange is lost or becomes
another's, ids stay unique, the payment of a ticket is one that the provider took for a checkout, and the payment of an
exchange is one that it took for that exchange. -/
theorem payments_traced (db : Db) (sourced : Sourced provider db) (events : List (Event Request Ctx)) :
    let after := (serveAll provider db events).db
    Keyed after ∧ Retains db after ∧
      (∀ row ∈ after.tickets, ∀ payment, row.paymentRef = some payment → after.Purchase payment) ∧
      ∀ row ∈ after.exchanges, ∀ payment, row.paymentRef = some payment → after.stripe.reference payment = some (.exchange row.id) := by
  have start : Sourced provider db ∧ Retains db db := ⟨sourced, List.prefix_rfl, fun row mem => ⟨row, mem, rfl⟩⟩
  have step (worker : Nat) {β : Type} (op : Statement β) (ctx : Ctx) (found : Db) (sourced : Sourced provider found) (retains : Retains db found)
      (grounded : op.Grounded found) : Sourced provider ((engine provider).exec worker op ctx found).2 ∧ Retains db ((engine provider).exec worker op ctx found).2 := by
    obtain ⟨later, grows⟩ := sourced.engine worker ctx grounded
    have issues : found.tickets.map Ticket.fixed <+: (op.exec provider worker ctx found).2.tickets.map Ticket.fixed := by
      rw [op.issues worker ctx found, map_append]
      exact List.prefix_append ..
    exact ⟨later, retains.then_ issues grows⟩
  obtain ⟨final, retains⟩ := @run_conducted provider (fun after => Sourced provider after ∧ Retains db after) (fun _ _ _ _ _ _ => true)
    (fun _ worker _ op ctx found sourced kept grounded _ => step worker op ctx found sourced kept.2 grounded)
    events db sourced start (Pool.along_true events (shop db))
  exact ⟨final.toKeyed, retains, final.bought, final.upgraded⟩

theorem payments_traced_bought : Retains (oneType none 4) (serveAll machine (oneType none 4) (bought ++ refundFails)).db :=
  (payments_traced (oneType none 4) (oneType_sourced none 4) (bought ++ refundFails)).2.1

end

/-- What a grant is worth for good. -/
def CreditGrant.worth (grant : CreditGrant) : Nat × Nat := (grant.id, grant.unitsTotal)

/-- A step of the credits: no grant gives more than it had left, and none changes what it is worth. -/
structure Spends (db after : Db) : Prop where
  grants : after.creditGrants.map CreditGrant.worth = db.creditGrants.map CreditGrant.worth
  within : WithinGrants db after

theorem Spends.of_eq (grants : after.creditGrants = db.creditGrants) (redemptions : after.creditRedemptions = db.creditRedemptions) :
    Spends db after where
  grants := by rw [grants]
  within grant listed := by
    rw [redemptions]
    exact le_max_left ..

/-- A change of reserved units to another status frees them or leaves them in use. -/
theorem usedUnits_updateReserved {reference grant : Nat}
    (kept : ∀ row, (change row).grantId = row.grantId ∧ (change row).units = row.units) :
    usedUnits (db.updateReserved reference change).creditRedemptions grant ≤ usedUnits db.creditRedemptions grant := by
  change usedUnits (update db.creditRedemptions _ change) grant ≤ _
  induction db.creditRedemptions with
  | nil => exact Nat.le_refl _
  | cons row rows ih =>
    unfold usedUnits at ih ⊢
    rw [update_cons, filter_cons, filter_cons]
    by_cases chosen : (row.checkoutReference == reference && row.status == .reserved) = true
    · have used : row.used = true := by simp [CreditRedemption.used, (and_eq_true_iff.mp chosen).2]
      simp only [if_pos chosen, (kept row).1, used, Bool.and_true]
      by_cases mine : (row.grantId == grant) = true
      · rw [if_pos mine, map_cons, sum_cons]
        split
        · rw [map_cons, sum_cons, (kept row).2]
          omega
        · omega
      · rw [if_neg mine, if_neg fun both => mine (and_eq_true_iff.mp both).1]
        exact ih
    · rw [if_neg chosen]
      split
      · simp only [map_cons, sum_cons]
        omega
      · exact ih

theorem spends_updateReserved (db : Db) (reference : Nat)
    (kept : ∀ row, (change row).grantId = row.grantId ∧ (change row).units = row.units) : Spends db (db.updateReserved reference change) :=
  ⟨rfl, fun _ _ => (usedUnits_updateReserved kept).trans (le_max_left ..)⟩

theorem CreditStatement.spends (op : CreditStatement β) (ctx : Ctx) (db : Db) : Spends db (op.exec ctx db).2 := by
  cases op with
  | attach reference =>
    simp only [CreditStatement.exec]
    split
    · exact .of_eq rfl rfl
    · exact spends_updateReserved db reference fun _ => ⟨rfl, rfl⟩
  | release reference | redeem reference => exact spends_updateReserved db reference fun _ => ⟨rfl, rfl⟩
  | claimGrant => exact ⟨map_update fun _ => rfl, fun _ _ => le_max_left ..⟩

theorem reserveCheckout_spends (keyed : (db.creditGrants.map (·.id)).Nodup) (now : Nat) (request : CheckoutRequest) :
    Spends db (db.reserveCheckout now request).2 := by
  obtain ⟨_, _, frame⟩ := reserveCheckout_frame db now request
  refine ⟨congrArg (·.creditGrants.map CreditGrant.worth) frame, ?_⟩
  cases priced : pricedType db now request with
  | none =>
    rw [reserveCheckout_unpriced priced]
    exact fun _ _ => le_max_left ..
  | some type =>
    have redemptions : (db.reserveCheckout now request).2.creditRedemptions =
        (reserveCreditsForCheckout (creditRequest request type) now db).2.creditRedemptions := by
      rw [(reserveCheckout_priced priced).1]
      unfold Db.reserveAmount
      dsimp only
      split
      · rfl
      split
      · rfl
      split <;> rfl
    intro grant listed
    rw [redemptions]
    by_cases first : creditRows db.creditRedemptions request.reference = []
    · rw [reserve_first first]
      exact first_withinGrants keyed grant listed
    · rw [reserve_again first]
      exact le_max_left ..

theorem Statement.spends (op : Statement β) (keyed : (db.creditGrants.map (·.id)).Nodup) (worker : Nat) (ctx : Ctx) :
    Spends db (op.exec provider worker ctx db).2 := by
  cases op with
  | stripe => exact .of_eq rfl rfl
  | credit op => exact op.spends ctx db
  | checkout op =>
    cases op with
    | reserve request => exact reserveCheckout_spends keyed ctx.now request
    | persistSession =>
      simp only [Statement.exec, CheckoutStatement.exec]
      split <;> exact .of_eq rfl rfl
    | _ => exact .of_eq rfl rfl
  | store op =>
    obtain ⟨_, _, _, same⟩ := op.frame worker ctx db
    exact .of_eq (congrArg Db.creditGrants same :) (congrArg Db.creditRedemptions same :)
  | exchange op =>
    obtain ⟨_, _, _, _, same⟩ := op.frame worker ctx db
    exact .of_eq (congrArg Db.creditGrants same :) (congrArg Db.creditRedemptions same :)
  | refund op =>
    obtain ⟨_, _, _, same⟩ := op.frame worker ctx db
    exact .of_eq (congrArg Db.creditGrants same :) (congrArg Db.creditRedemptions same :)

structure WithinTotals (db : Db) : Prop where
  keyed : (db.creditGrants.map (·.id)).Nodup
  within : ∀ grant ∈ db.creditGrants, usedUnits db.creditRedemptions grant.id ≤ grant.unitsTotal

theorem WithinTotals.step (within : WithinTotals db) (spends : Spends db after) : WithinTotals after where
  keyed := by
    have ids := congrArg (List.map Prod.fst) spends.grants
    rw [map_map, map_map] at ids
    exact (congrArg List.Nodup ids).mpr within.keyed
  within grant listed := by
    have worth : grant.worth ∈ db.creditGrants.map CreditGrant.worth := spends.grants ▸ mem_map_of_mem listed
    obtain ⟨old, before, same⟩ := mem_map.mp worth
    obtain ⟨id, total⟩ := Prod.mk.inj same
    rw [← id, ← total]
    exact (spends.within old before).trans (max_le (within.within old before) (Nat.le_refl _))

/-- However checkouts, retries, expiries, fulfilments and refunds interleave, and wherever a worker stops: the units
of a grant that are reserved or redeemed never exceed its total. -/
theorem credits_bounded (db : Db) (within : WithinTotals db) (events : List (Event Request Ctx)) : WithinTotals (serveAll provider db events).db :=
  Pool.run_valid (fun _ worker _ op ctx _ within _ => (within.step (op.spends within.keyed worker ctx)).step (.of_eq rfl rfl))
    events (shop db) within (Pool.along_true events (shop db))

/-- A grant of one unit, of which the attendee has not heard yet. -/
def oneCredit : Db :=
  { oneType none 4 with creditGrants := [{ id := 0, email := 7, unitsTotal := 1, claimed := false, revoked := false, campaignActive := true
                                           amountMinor := 400, currency := .gbp, redemptionEventSlug := 0, redeemExpiresAt := none }] }

theorem credits_bounded_claimed : WithinTotals (serveAll machine oneCredit (call 0 (.claimCredit 0) 1 ++ call 1 (.startCheckout ⟨0, 0, 7, 1, 1⟩ 500) 4)).db :=
  credits_bounded oneCredit ⟨nodup_singleton _, by decide⟩ _

end MilkAndHenny.Tickets

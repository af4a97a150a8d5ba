import Mathlib.Logic.Relation
import MilkAndHenny.Liars.Phases

/-! What a night writes on the players' records, and what it leaves alone. -/

namespace MilkAndHenny.Liars
open Library

namespace LiarsRoom

/-- What a night can do to a record, of which the escort's card is the only one that an attack writes. -/
inductive Touched (plan : NightPlan) (row : PlayerState) : PlayerState → Prop where
  | interrupted (round : Nat) : Touched plan row (remember round none "your night was interrupted" row)
  | fires : Touched plan row { row with vigilanteUsed := true }
  | dies (round : Nat) (cause : LiarsDeathCause) (lastWords : Option String) :
    Touched plan row { row with alive := false, deathRound := some round, deathCause := some cause, lastWords }
  | testifies (text : String) : Touched plan row { row with lastWords := some text }
  | saved : Touched plan row { row with savedCount := row.savedCount + 1 }
  | guilty : Touched plan row { row with guiltPending := true }
  | sees (escort : plan.escortId = some row.id) (out : plan.escortTargetId.isSome) (round : Nat) (name : Option String) (line : String)
    (report : LiarsNightReport) : Touched plan row { remember round name line row with report := some report }

def deserted (room : LiarsRoom) : LiarsRoom := { room with players := [] }

structure Night (plan : NightPlan) (before after : LiarsRoom) : Prop where
  same : after.deserted = before.deserted
  rows : Forall₂ (Relation.ReflTransGen (Touched plan)) before.players after.players

namespace Night
variable {plan : NightPlan} {before room after : LiarsRoom} {outcome : NightOutcome} {ctx : GameContext} {target attacker : PlayerState} {change : PlayerState → PlayerState}

theorem refl (room : LiarsRoom) : Night plan room room := ⟨rfl, forall₂_same.mpr fun _ _ => .refl⟩

theorem pairs (night : Night plan before after) {r : PlayerState → PlayerState → Prop} (refl : ∀ row, r row row)
    (trans : ∀ old new newest, r old new → r new newest → r old newest) (touched : ∀ row new, Touched plan row new → r row new) :
    Forall₂ r before.players after.players := by
  refine night.rows.imp fun old new touches => ?_
  induction touches with
  | refl => exact refl old
  | tail _ last ih => exact trans _ _ _ ih (touched _ _ last)

theorem update (night : Night plan before room) {which : PlayerState → Bool}
    (touched : ∀ row, Touched plan row (change row)) : Night plan before { room with players := Library.update room.players which change } where
  same := night.same
  rows := pairs_trans (fun _ _ _ => .trans) night.rows (forall₂_update (fun _ => .refl) fun row _ => .single (touched row))

theorem row (night : Night plan before room) {id : Nat}
    (touched : ∀ row, row.id = id → Touched plan row (change row)) : Night plan before (room.updatePlayer id change) where
  same := night.same
  rows := by
    refine pairs_trans (fun _ _ _ => .trans) night.rows (forall₂_updateFirst (fun _ => .refl) fun row found => .single (touched row ?_))
    exact eq_of_beq (find?_some (p := fun row : PlayerState => row.id == id) found)

theorem kill (night : Night plan before room) (id : Nat) (cause : LiarsDeathCause) : Night plan before (room.kill id cause) :=
  night.row fun _ _ => .dies ..

theorem escortDies (night : Night plan before outcome.room) : Night plan before (escortDies plan attacker target outcome).room := by
  unfold LiarsRoom.escortDies
  split
  · exact night
  · split
    · exact night
    · exact (night.kill _ .killed).row fun _ _ => .testifies _

theorem strike (night : Night plan before outcome.room) {fromMafia : Bool} : Night plan before (strike plan target attacker fromMafia outcome).room := by
  unfold LiarsRoom.strike
  split
  · exact night.row fun _ _ => .saved
  · split
    · exact night.kill _ .bodyguard
    · have killed : Night plan before (LiarsRoom.escortDies plan attacker target
          { outcome with room := outcome.room.kill target.id .killed, deaths := outcome.deaths ++ [outcome.room.deathOf target] }).room :=
        escortDies (night.kill target.id .killed)
      split
      · split
        · exact killed.row fun _ _ => .guilty
        · exact killed
      · exact killed

theorem escortSees (night : Night plan before room) : Night plan before (escortSees ctx plan target attacker room) := by
  unfold LiarsRoom.escortSees
  split
  · exact night
  · next escort known =>
    split
    · exact night
    · next out =>
      refine night.row fun row named => .sees (named ▸ known) ?_ ..
      rw [not_not.mp out, isSome_some]

theorem attacked (night : Night plan before outcome.room) (attacks : List (Nat × PlayerState × Bool)) :
    Night plan before (attacks.foldl (resolveAttack ctx plan) outcome).room := by
  induction attacks generalizing outcome with
  | nil => exact night
  | cons attack attacks ih =>
    apply ih
    simp only [resolveAttack]
    split
    · exact night
    · split
      · exact night
      · exact strike night.escortSees

theorem resolveGuilt (night : Night plan before outcome.room) : Night plan before (resolveGuilt outcome).room := by
  unfold LiarsRoom.resolveGuilt
  split
  · exact night
  · split
    · exact night.kill _ .guilt
    · exact night

end Night

theorem nightOutcome_night (ctx : GameContext) (room : LiarsRoom) :
    Night (room.writeNightReports ctx).nightPlan (room.writeNightReports ctx) (room.nightOutcome ctx).room := by
  unfold nightOutcome
  generalize room.writeNightReports ctx = cards
  refine Night.resolveGuilt (Night.attacked ?_ _)
  have interrupted : Night cards.nightPlan cards (cards.interrupt cards.nightPlan.blockedId) := (Night.refl cards).update fun _ => .interrupted _
  split
  · cases cards.nightPlan.vigilanteId with
    | none => exact interrupted
    | some => exact interrupted.row fun _ _ => .fires
  · exact interrupted

end LiarsRoom

end MilkAndHenny.Liars

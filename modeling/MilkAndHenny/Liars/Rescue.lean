import MilkAndHenny.Library.Machine
import MilkAndHenny.Liars.Actions
import MilkAndHenny.Liars.Night

/-! Who was saved in the night. The dawn may keep it to itself, but every roster counts how
often each player has been saved. -/

namespace MilkAndHenny.Liars
open Library

def revivals (deaths : List LiarsDeathEvent) (id : Nat) : Nat :=
  deaths.countP fun death => death.revived && death.playerId == id

theorem revivals_append {deaths more : List LiarsDeathEvent} {id : Nat} :
    revivals (deaths ++ more) id = revivals deaths id + revivals more id := countP_append

namespace LiarsRoom
variable {ctx : GameContext} {room : LiarsRoom} {now : Int} {before after : LiarsRoom}

def savedOf (room : LiarsRoom) (id : Nat) : Nat := (room.player id).elim 0 (·.savedCount)

/-- Who is at the table, and how often each has been saved. -/
def saves (room : LiarsRoom) : List (Nat × Nat) := room.players.map fun player => (player.id, player.savedCount)

theorem savedOf_saves (room : LiarsRoom) (id : Nat) : room.savedOf id = (room.saves.find? (·.1 == id)).elim 0 Prod.snd := by
  unfold savedOf player saves
  rw [find?_map]
  change _ = ((room.players.find? (·.id == id)).map _).elim 0 Prod.snd
  cases room.players.find? (·.id == id) <;> rfl

theorem seated_congr (same : after.saves = before.saves) (id : Nat) :
    (after.player id).isSome = (before.player id).isSome := by
  have listed (room : LiarsRoom) : (room.player id).isSome = (room.saves.find? (·.1 == id)).isSome := by
    unfold player saves
    rw [find?_map, isSome_map]
    rfl
  rw [listed, same, ← listed]

theorem savedOf_congr (same : after.saves = before.saves) (id : Nat) : after.savedOf id = before.savedOf id := by
  rw [savedOf_saves, same, ← savedOf_saves]

theorem updatePlayer_saves {id : Nat} {change : PlayerState → PlayerState}
    (kept : ∀ player, ((change player).id, (change player).savedCount) = (player.id, player.savedCount)) :
    (room.updatePlayer id change).saves = room.saves := map_updateFirst kept

theorem kill_saves {id : Nat} {cause : LiarsDeathCause} : (room.kill id cause).saves = room.saves :=
  updatePlayer_saves fun _ => rfl

theorem writeNightReports_saves : (room.writeNightReports ctx).saves = room.saves := by
  simp only [writeNightReports]
  split
  · refine map_update fun player => ?_
    simp only [withReport]
    split <;> rfl
  · rfl

theorem savedOf_save {savedId : Nat} (seated : (room.player savedId).isSome) (id : Nat) :
    (room.updatePlayer savedId fun row => { row with savedCount := row.savedCount + 1 }).savedOf id =
      room.savedOf id + if savedId = id then 1 else 0 := by
  unfold savedOf
  by_cases same : savedId = id
  · subst same
    obtain ⟨row, found⟩ := isSome_iff_exists.mp seated
    rw [player_updatePlayer_same (by exact fun _ => rfl), found, if_pos rfl]
    rfl
  · rw [player_updatePlayer_other (by exact fun _ => rfl) same, if_neg same, Nat.add_zero]

structure Accounts (before : LiarsRoom) (savedId : Option Nat) (outcome : NightOutcome) : Prop where
  counted : ∀ id, outcome.room.savedOf id = before.savedOf id + revivals outcome.deaths id
  watched : ∀ death ∈ outcome.deaths, death.revived → savedId = some death.playerId

namespace Accounts
variable {before : LiarsRoom} {savedId : Option Nat} {outcome : NightOutcome} {plan : NightPlan} {target attacker : PlayerState}

theorem start {after : LiarsRoom} (same : after.saves = before.saves) : Accounts before savedId { room := after } where
  counted := savedOf_congr same
  watched := by simp

theorem dies (accounts : Accounts before savedId outcome) {after : NightOutcome} {deaths : List LiarsDeathEvent}
    (saves : after.room.saves = outcome.room.saves) (added : after.deaths = outcome.deaths ++ deaths)
    (final : ∀ death ∈ deaths, death.revived = false) : Accounts before savedId after where
  counted id := by
    have none : revivals deaths id = 0 := countP_eq_zero.mpr fun death mem => by simp [final death mem]
    rw [savedOf_congr saves, accounts.counted, added, revivals_append, none, Nat.add_zero]
  watched death mem undone := by
    rcases mem_append.mp (added ▸ mem) with old | new
    · exact accounts.watched death old undone
    · exact absurd undone (by simp [final death new])

theorem escortDies (accounts : Accounts before savedId outcome) {plan : NightPlan} {attacker target : PlayerState} :
    Accounts before savedId (escortDies plan attacker target outcome) := by
  unfold LiarsRoom.escortDies
  split
  · exact accounts
  · next escort seated =>
    split
    · exact accounts
    · refine accounts.dies ?_ rfl (by simp)
      refine (updatePlayer_saves ?_).trans kill_saves
      exact fun _ => rfl

theorem strike (accounts : Accounts before savedId outcome) (doctor : plan.savedId = savedId)
    {fromMafia : Bool} (seated : (outcome.room.player target.id).isSome) :
    Accounts before savedId (strike plan target attacker fromMafia outcome) := by
  unfold LiarsRoom.strike
  split
  · next saved =>
    constructor
    · intro id
      have added : revivals (outcome.deaths ++ [{ playerId := target.id, name := target.name, revived := true
                                                  substituteName := none, cause := .killed }]) id =
          revivals outcome.deaths id + if target.id = id then 1 else 0 := by
        simp [revivals]
      rw [savedOf_save seated, accounts.counted, added, Nat.add_assoc]
    · intro death mem undone
      rcases mem_append.mp mem with old | new
      · exact accounts.watched death old undone
      · cases mem_singleton.mp new
        rw [← doctor, saved]
  · split
    · exact accounts.dies kill_saves rfl (by simp)
    · have killed : Accounts before savedId
          { outcome with room := outcome.room.kill target.id .killed, deaths := outcome.deaths ++ [outcome.room.deathOf target] } :=
        accounts.dies kill_saves rfl (by simp [deathOf])
      have after := @Accounts.escortDies _ _ _ killed plan attacker target
      split
      · split
        · exact after.dies (updatePlayer_saves fun _ => rfl) (append_nil _).symm (by simp)
        · exact after
      · exact after

theorem escortSees_saves : (escortSees ctx plan target attacker room).saves = room.saves := by
  unfold escortSees
  split
  · rfl
  · split
    · rfl
    · exact updatePlayer_saves fun _ => rfl

theorem resolveAttack (accounts : Accounts before savedId outcome) (doctor : plan.savedId = savedId)
    (attack : Nat × PlayerState × Bool) : Accounts before savedId (resolveAttack ctx plan outcome attack) := by
  obtain ⟨targetId, attacker, fromMafia⟩ := attack
  simp only [LiarsRoom.resolveAttack]
  split
  · exact accounts
  · next target found =>
    split
    · exact accounts
    · have seen : Accounts before savedId { outcome with room := escortSees ctx plan target attacker outcome.room } :=
        accounts.dies escortSees_saves (append_nil _).symm (by simp)
      obtain ⟨seated, -⟩ := filter_eq_some_iff.mp found
      refine seen.strike doctor ?_
      rw [seated_congr escortSees_saves, player_id seated, seated]
      rfl

theorem resolveGuilt (accounts : Accounts before savedId outcome) : Accounts before savedId (resolveGuilt outcome) := by
  unfold LiarsRoom.resolveGuilt
  split
  · exact accounts
  · split
    · exact accounts.dies kill_saves rfl (by simp)
    · exact accounts

theorem attacked (accounts : Accounts before savedId outcome) {plan : NightPlan} (doctor : plan.savedId = savedId)
    (attacks : List (Nat × PlayerState × Bool)) :
    Accounts before savedId (attacks.foldl (LiarsRoom.resolveAttack ctx plan) outcome) := by
  induction attacks generalizing outcome with
  | nil => exact accounts
  | cons attack attacks ih => exact ih (accounts.resolveAttack doctor attack)

end Accounts

theorem interrupt_saves {blockedId : Option Nat} : (room.interrupt blockedId).saves = room.saves :=
  map_update fun _ => rfl

theorem nightOutcome_accounts : ∃ savedId, Accounts room savedId (room.nightOutcome ctx) := by
  refine ⟨(room.writeNightReports ctx).nightPlan.savedId, Accounts.resolveGuilt (Accounts.attacked (Accounts.start ?_) rfl _)⟩
  have interrupted (blockedId : Option Nat) : ((room.writeNightReports ctx).interrupt blockedId).saves = room.saves :=
    interrupt_saves.trans writeNightReports_saves
  split
  · cases (room.writeNightReports ctx).nightPlan.vigilanteId with
    | none => exact interrupted _
    | some =>
      refine (updatePlayer_saves ?_).trans (interrupted _)
      exact fun _ => rfl
  · exact interrupted _

theorem narrate_players {outcome : NarrationOutcome} {slots : NarrationSlots} :
    (room.narrate ctx outcome slots).2.players = room.players := by
  unfold narrate
  split <;> rfl

theorem dawnNarration_players (ctx : GameContext) (room : LiarsRoom) (deaths : List LiarsDeathEvent) :
    (room.dawnNarration ctx deaths).2.players = room.players := by
  unfold dawnNarration
  split
  · exact narrate_players
  · split
    · split
      · exact narrate_players
      · rfl
    · split <;> exact narrate_players

theorem notes_players (names : List String) :
    (names.foldl (fun room name => room.note .night (name ++ " was seen moving.")) room).players = room.players := by
  induction names generalizing room with
  | nil => rfl
  | cons name names ih => exact ih

theorem checkWinner_players {jester : Option Nat} :
    ((room.checkWinner ctx now jester).getD room).players = room.players := by
  unfold checkWinner
  cases room.detectWinner room.living jester <;> rfl

theorem tellDawn_players {outcome : NightOutcome} : (tellDawn ctx outcome now).players = outcome.room.players := by
  unfold tellDawn
  rcases tells : outcome.room.dawnNarration ctx outcome.deaths with ⟨narration, told⟩
  rw [notes_players]
  change told.players = _
  rw [← dawnNarration_players ctx outcome.room outcome.deaths, tells]

theorem enterPhase_players {phase : LiarsPhase} : (room.enterPhase ctx phase now).players = room.players := rfl

theorem resolveNight_players : (room.resolveNight ctx now).players = (room.nightOutcome ctx).room.players := by
  simp only [resolveNight]
  rw [checkWinner_players, enterPhase_players, tellDawn_players]

/-- The doctor saved this player in the night. -/
def NightSaves (ctx : GameContext) (room : LiarsRoom) (id : Nat) : Prop :=
  ∃ death ∈ (room.nightOutcome ctx).deaths, death.revived ∧ death.playerId = id

theorem snapshot_saves (room : LiarsRoom) (viewerId : Option Nat) (now : Int) :
    (room.snapshot viewerId now).players.map (fun player => (player.id, player.savedCount)) = room.saves :=
  map_map ..

end LiarsRoom

/-- Two nights at the same table in which different players were saved: every viewer can tell
them apart in the morning. -/
theorem savedNights_differ {ctx : GameContext} {room other : LiarsRoom} {a b : Nat} (table : room.saves = other.saves)
    (different : a ≠ b) (first : room.NightSaves ctx a) (second : other.NightSaves ctx b) (now later : Int)
    (viewerId : Option Nat) :
    (room.resolveNight ctx now).snapshot viewerId later ≠ (other.resolveNight ctx now).snapshot viewerId later := by
  intro same
  obtain ⟨savedId, accounts⟩ := @LiarsRoom.nightOutcome_accounts ctx room
  obtain ⟨otherId, others⟩ := @LiarsRoom.nightOutcome_accounts ctx other
  have shown : (room.nightOutcome ctx).room.saves = (other.nightOutcome ctx).room.saves := by
    have listed := congrArg (fun snapshot => snapshot.players.map fun player => (player.id, player.savedCount)) same
    simp only [LiarsRoom.snapshot_saves] at listed
    rwa [LiarsRoom.saves, LiarsRoom.saves, LiarsRoom.resolveNight_players, LiarsRoom.resolveNight_players] at listed
  have saved : 0 < revivals (room.nightOutcome ctx).deaths a := by
    obtain ⟨death, mem, undone, rfl⟩ := first
    exact countP_pos_iff.mpr ⟨death, mem, by simp [undone]⟩
  have unsaved : revivals (other.nightOutcome ctx).deaths a = 0 := by
    obtain ⟨death, mem, undone, rfl⟩ := second
    refine countP_eq_zero.mpr fun again listed => ?_
    have watched := others.watched death mem undone
    intro named
    obtain ⟨revived, same⟩ := and_eq_true_iff.mp named
    have again := others.watched again listed revived
    rw [watched, eq_of_beq same] at again
    exact different (some.inj again).symm
  have counts := accounts.counted a
  rw [LiarsRoom.savedOf_congr shown, others.counted, ← LiarsRoom.savedOf_congr table, unsaved] at counts
  omega

def savedNight (target : Nat) : LiarsRoom :=
  runFrom Command.apply (lobbyOf .mafia { announceAttackTarget := some false } ["Ada", "Bo", "Cy", "Di", "Em"])
    [.byHost 2 1 (.start []), .read (.plain 20000) (.token 0) none, .by 10 30000 2 (.nightSelect 1 (some target)),
      .by 2 30000 3 (.nightSelect 1 (some target)), .read (.plain 50000) (.token 0) none, .read (.plain 70000) (.token 0) none]

/-- The dawn is the same, and yet a villager who slept sees who was saved. -/
theorem savedNight_namesTheSaved :
    (savedNight 4).toggles.announceAttackTarget = false ∧
    ((savedNight 4).resolveNight (.plain 75002) 75002).dawn = ((savedNight 6).resolveNight (.plain 75002) 75002).dawn ∧
    ((savedNight 4).resolveNight (.plain 75002) 75002).snapshot (some 8) 76000 ≠
      ((savedNight 6).resolveNight (.plain 75002) 75002).snapshot (some 8) 76000 := by
  refine ⟨by decide +kernel, by decide +kernel, fun same => ?_⟩
  have counts := congrArg (fun snapshot => snapshot.players.map (·.savedCount)) same
  exact absurd counts (by decide +kernel)

theorem savedNights_differ_doctorAtTheDoor :
    ((savedNight 4).resolveNight (.plain 75002) 75002).snapshot (some 8) 76000 ≠
      ((savedNight 6).resolveNight (.plain 75002) 75002).snapshot (some 8) 76000 := by
  refine savedNights_differ (by decide +kernel) (by decide : (4 : Nat) ≠ 6) ?_ ?_ 75002 76000 (some 8)
  · have saved : ∃ death ∈ ((savedNight 4).nightOutcome (.plain 75002)).deaths, death.revived ∧ death.playerId = 4 := by
      decide +kernel
    exact saved
  · have saved : ∃ death ∈ ((savedNight 6).nightOutcome (.plain 75002)).deaths, death.revived ∧ death.playerId = 6 := by
      decide +kernel
    exact saved

end MilkAndHenny.Liars

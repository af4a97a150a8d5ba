import MilkAndHenny.Liars.Chronicle

/-! The guilt of the vigilante. A shot at the town is paid for with the shooter's own life, a night later
where it was fired in the first night, and in the same night where it was fired later. -/

namespace MilkAndHenny.Liars
open Library

namespace LiarsRoom

def slain (room : LiarsRoom) (id : Nat) : Bool := (room.player id).any fun row => !row.alive && row.deathCause == some .killed

namespace Decision

def cards (night : Decision) : LiarsRoom := night.room.writeNightReports night.ctx

def plan (night : Decision) : NightPlan := night.cards.nightPlan

/-- The night after the mafia has come, and before the vigilante does. -/
def raided (night : Decision) : NightOutcome :=
  (night.plan.attacks.filter (·.2.2)).foldl (resolveAttack night.ctx night.plan) { room := night.cards.armed }

def struck (night : Decision) : NightOutcome :=
  night.plan.attacks.foldl (resolveAttack night.ctx night.plan) { room := night.cards.armed }

def shootsTown (night : Decision) (id : Nat) : Bool :=
  night.plan.attacks.any fun (targetId, shooter, fromMafia) =>
    !fromMafia && shooter.id == id &&
      (night.raided.room.player targetId).any (fun target => target.alive && liarsRoleSide target.played != .mafia) &&
      night.struck.room.slain targetId

def guilty (night : Decision) : List Nat :=
  ((night.room.nightOutcome night.ctx).deaths.filter (·.cause == .guilt)).map (·.playerId)

end Decision

/-! ### What one night does -/

/-- What the attacks of a night do to a player, where `shot` tells whom their shot at the town burdens. -/
structure Fares (shot : Nat → Bool) (old new : Trail) : Prop where
  named : new.id = old.id
  lives : new.alive → old.alive ∧ new.deathRound = old.deathRound
  blamed : new.alive = false → new.deathCause = some .guilt → old.alive = false ∧ old.deathCause = some .guilt
  used : old.vigilanteUsed → new.vigilanteUsed
  pending : new.guiltPending = (old.guiltPending || shot old.id)

def nobody (_ : Nat) : Bool := false

def stakes (trail : Trail) : Nat × Bool × Option Nat × Option LiarsDeathCause × Bool × Bool :=
  (trail.id, trail.alive, trail.deathRound, trail.deathCause, trail.vigilanteUsed, trail.guiltPending)

theorem Fares.of_stakes {old new : Trail} (same : stakes new = stakes old) : Fares nobody old new := by
  simp only [stakes, Prod.mk.injEq] at same
  obtain ⟨named, alive, round, cause, used, pending⟩ := same
  constructor
  · exact named
  · rw [alive, round]
    exact fun lives => ⟨lives, rfl⟩
  · rw [alive, cause]
    exact fun dead guilt => ⟨dead, guilt⟩
  · rw [used]
    exact id
  · rw [pending, nobody, Bool.or_false]

theorem Fares.refl (trail : Trail) : Fares nobody trail trail := .of_stakes rfl

theorem Fares.trans {shot : Nat → Bool} {old new newest : Trail} (first : Fares nobody old new)
    (second : Fares shot new newest) : Fares shot old newest where
  named := second.named.trans first.named
  lives alive := by
    obtain ⟨before, same⟩ := second.lives alive
    obtain ⟨earlier, as⟩ := first.lives before
    exact ⟨earlier, same.trans as⟩
  blamed dead cause := by
    obtain ⟨before, as⟩ := second.blamed dead cause
    exact first.blamed before as
  used := second.used ∘ first.used
  pending := by rw [second.pending, first.pending, first.named, nobody, Bool.or_false]

section
variable {change : PlayerState → PlayerState} {cause : LiarsDeathCause} {fromMafia : Bool}
variable {ctx : GameContext} {plan : NightPlan} {before room : LiarsRoom} {outcome : NightOutcome}
    {target attacker : PlayerState} {id : Nat}

def Fare (shot : Nat → Bool) (before after : LiarsRoom) : Prop := Forall₂ (Fares shot) before.trails after.trails

namespace Fare
variable {shot : Nat → Bool} {after : LiarsRoom}

theorem refl (room : LiarsRoom) : Fare nobody room room := forall₂_same.mpr fun trail _ => .refl trail

theorem trans {middle after : LiarsRoom} (first : Fare nobody before middle) (second : Fare shot middle after) :
    Fare shot before after := pairs_comp (r := Fares nobody) (s := Fares shot) (fun _ _ _ => Fares.trans) first second

theorem of_eq (same : after.trails = before.trails) : Fare nobody before after := by
  unfold Fare
  rw [same]
  exact refl before

theorem kill (room : LiarsRoom) (id : Nat) {cause : LiarsDeathCause} (innocent : cause ≠ .guilt) :
    Fare nobody room (room.kill id cause) := by
  have dies : (room.kill id cause).trails = updateFirst room.trails (·.id == id) fun trail =>
      { trail with alive := false, deathRound := some room.round, deathCause := some cause } :=
    map_updateFirst_through (fun _ => rfl) fun _ => rfl
  unfold Fare
  rw [dies]
  refine forall₂_updateFirst Fares.refl fun trail _ => ⟨rfl, nofun, ?_, fun used => used, (Bool.or_false _).symm⟩
  intro _ guilt
  exact absurd (some.inj guilt) innocent

theorem ids (fare : Fare shot before after) : after.trails.map (·.id) = before.trails.map (·.id) :=
  (map_pairs fare fun _ _ fares => fares.named.symm).symm

theorem burden (unique : (room.trails.map (·.id)).Nodup) (id : Nat) :
    Fare (id == ·) room (room.updatePlayer id fun row => { row with guiltPending := true }) := by
  have burdened : (room.updatePlayer id fun row => { row with guiltPending := true }).trails =
      updateFirst room.trails (·.id == id) fun trail => { trail with guiltPending := true } :=
        map_updateFirst_through (fun _ => rfl) fun _ => rfl
  unfold Fare
  rw [burdened, updateFirst_eq_update unique]
  refine forall₂_map_right_iff.mpr (forall₂_same.mpr fun trail _ => ?_)
  by_cases own : trail.id == id
  · rw [if_pos own]
    refine ⟨rfl, fun alive => ⟨alive, rfl⟩, fun dead cause => ⟨dead, cause⟩, fun used => used, ?_⟩
    rw [eq_of_beq own, beq_self_eq_true, Bool.or_true]
  · rw [if_neg own]
    refine ⟨rfl, fun alive => ⟨alive, rfl⟩, fun dead cause => ⟨dead, cause⟩, fun used => used, ?_⟩
    have apart : (id == trail.id) = false := by
      rw [eq_false_iff]
      intro same
      exact own (by simpa using (eq_of_beq same).symm)
    rw [apart, Bool.or_false]

end Fare

theorem trails_ids (room : LiarsRoom) : room.trails.map (·.id) = room.players.map (·.id) := by
  rw [trails, map_map]
  rfl

theorem updatePlayer_trails (same : ∀ row, (change row).trail = row.trail) :
    (room.updatePlayer id change).trails = room.trails := map_updateFirst same

theorem escortSees_trails : (escortSees ctx plan target attacker room).trails = room.trails := by
  unfold escortSees
  split
  · rfl
  · split
    · rfl
    · exact updatePlayer_trails fun _ => rfl

theorem escortDies_fares : Fare nobody outcome.room (escortDies plan attacker target outcome).room := by
  unfold escortDies
  split
  · exact .refl _
  · split
    · exact .refl _
    · next escort _ _ =>
      have dies : Fare nobody outcome.room (outcome.room.kill escort.id .killed) := .kill _ _ (by simp)
      refine dies.trans (.of_eq (updatePlayer_trails ?_))
      exact fun _ => rfl

theorem slain_updatePlayer (named : ∀ row, (change row).id = row.id)
    (kept : ∀ row, ((change row).alive, (change row).deathCause) = (row.alive, row.deathCause)) (other : Nat) :
    (room.updatePlayer other change).slain id = room.slain id := by
  unfold slain
  by_cases same : other = id
  · rw [same, player_updatePlayer_same named, any_map]
    congr 1
    funext row
    obtain ⟨alive, cause⟩ := Prod.mk.inj (kept row)
    simp [alive, cause]
  · rw [player_updatePlayer_other named same]

theorem slain_kill (seated : (room.player id).isSome) : (room.kill id cause).slain id = (cause == .killed) := by
  obtain ⟨row, found⟩ := isSome_iff_exists.mp seated
  unfold slain kill
  rw [player_updatePlayer_same, found]
  · rfl
  · exact fun _ => rfl

theorem slain_kill_other {other : Nat} (apart : other ≠ id) : (room.kill other cause).slain id = room.slain id := by
  unfold slain kill
  rw [player_updatePlayer_other _ apart]
  exact fun _ => rfl

theorem escortDies_slain (down : outcome.room.slain id) : (escortDies plan attacker target outcome).room.slain id := by
  unfold escortDies
  split
  · exact down
  · next escort found =>
    split
    · exact down
    · refine Eq.trans (b := (outcome.room.kill escort.id .killed).slain id) ?_ ?_
      · apply slain_updatePlayer
        · exact fun _ => rfl
        · exact fun _ => rfl
      · by_cases same : escort.id = id
        · obtain ⟨escortId, -, seated⟩ := bind_eq_some_iff.mp found
          cases player_id seated
          rw [← same, slain_kill (by simp [seated])]
          rfl
        · rw [slain_kill_other same]
          exact down

theorem guarded_slain {guardId : Nat} (stands : room.isAlive (some id)) : (room.kill guardId .bodyguard).slain id = false := by
  obtain ⟨row, found, alive⟩ := isAlive_iff.mp stands
  by_cases same : guardId = id
  · rw [same, slain_kill (by simp [found])]
    rfl
  · rw [slain_kill_other same, slain, found]
    simp [alive]

/-- Whom an attack burdens with guilt. -/
def burdens (plan : NightPlan) (target : PlayerState) (fromMafia : Bool) (after : LiarsRoom) (id : Nat) : Bool :=
  !fromMafia && plan.vigilanteId == some id && liarsRoleSide target.played != .mafia && after.slain target.id

theorem burdens_nobody {after : LiarsRoom} (spared : after.slain target.id = false) :
    burdens plan target fromMafia after = nobody := by
  funext id
  rw [burdens, spared, Bool.and_false, nobody]

theorem strike_fares (unique : (outcome.room.players.map (·.id)).Nodup) {fromMafia : Bool}
    (stands : outcome.room.isAlive (some target.id)) :
    Fare (burdens plan target fromMafia (strike plan target attacker fromMafia outcome).room) outcome.room
      (strike plan target attacker fromMafia outcome).room := by
  obtain ⟨row, found, alive⟩ := isAlive_iff.mp stands
  unfold strike
  split
  · have spared : (outcome.room.updatePlayer target.id fun row =>
        { row with savedCount := row.savedCount + 1 }).slain target.id = false := by
      refine Eq.trans (b := outcome.room.slain target.id) ?_ ?_
      · apply slain_updatePlayer
        · exact fun _ => rfl
        · exact fun _ => rfl
      · rw [slain, found]
        simp [alive]
    rw [burdens_nobody spared]
    refine .of_eq (updatePlayer_trails ?_)
    exact fun _ => rfl
  · split
    · next guard _ =>
      rw [burdens_nobody (guarded_slain stands)]
      exact .kill _ _ (by simp)
    · dsimp only
      generalize dead : ({ outcome with room := outcome.room.kill target.id .killed
                                        deaths := outcome.deaths ++ [outcome.room.deathOf target] } : NightOutcome) = killed
      have dies : Fare nobody outcome.room killed.room := by
        rw [← dead]
        exact .kill _ _ (by simp)
      have down : killed.room.slain target.id := by
        rw [← dead]
        exact slain_kill (by simp [found])
      have after : Fare nobody outcome.room (escortDies plan attacker target killed).room := dies.trans escortDies_fares
      have down : (escortDies plan attacker target killed).room.slain target.id := escortDies_slain down
      generalize escortDies plan attacker target killed = left at after down ⊢
      cases shooter : plan.vigilanteId with
      | none =>
        have idle : burdens plan target fromMafia left.room = nobody := by
          funext id
          rw [burdens, shooter]
          simp [nobody]
        rw [idle]
        exact after
      | some vigilante =>
        dsimp only
        split
        · next shot =>
          have kept : (left.room.updatePlayer vigilante fun row => { row with guiltPending := true }).slain target.id =
              left.room.slain target.id := by
            apply slain_updatePlayer
            · exact fun _ => rfl
            · exact fun _ => rfl
          have burden : burdens plan target fromMafia (left.room.updatePlayer vigilante fun row =>
              { row with guiltPending := true }) = (vigilante == ·) := by
            funext id
            rw [burdens, kept, down, shooter, Bool.and_true, Bool.and_right_comm, shot, Bool.true_and]
            rfl
          rw [burden]
          refine after.trans (.burden ?_ vigilante)
          rw [after.ids, trails_ids]
          exact unique
        · next spared =>
          have idle : burdens plan target fromMafia left.room = nobody := by
            funext id
            rw [burdens, Bool.and_right_comm (!fromMafia), eq_false_iff.mpr spared, Bool.false_and, Bool.false_and, nobody]
          rw [idle]
          exact after

def hits (plan : NightPlan) (attack : Nat × PlayerState × Bool) (before after : LiarsRoom) (id : Nat) : Bool :=
  !attack.2.2 && plan.vigilanteId == some id &&
    (before.player attack.1).any (fun target => target.alive && liarsRoleSide target.played != .mafia) && after.slain attack.1

theorem resolveAttack_fares (unique : (outcome.room.players.map (·.id)).Nodup) (attack : Nat × PlayerState × Bool) :
    Fare (hits plan attack outcome.room (resolveAttack ctx plan outcome attack).room) outcome.room (resolveAttack ctx plan outcome attack).room := by
  obtain ⟨targetId, attacker, fromMafia⟩ := attack
  simp only [resolveAttack]
  split
  · next away =>
    have idle : hits plan (targetId, attacker, fromMafia) outcome.room outcome.room = nobody := by
      funext id
      have gone : (outcome.room.player targetId).any (fun target =>
          target.alive && liarsRoleSide target.played != .mafia) = false := by
        rw [Option.any_eq_false]
        intro target found
        have dead := Option.filter_eq_none_iff.mp away target found
        simpa using fun alive => absurd alive dead
      rw [hits, gone, Bool.and_false, Bool.false_and, nobody]
    rw [idle]
    exact .refl _
  · next target found =>
    obtain ⟨seated, alive⟩ := filter_eq_some_iff.mp found
    cases player_id seated
    split
    · have idle : hits plan (target.id, attacker, fromMafia) outcome.room outcome.room = nobody := by
        funext id
        have spared : outcome.room.slain target.id = false := by
          rw [slain, seated]
          simp [alive]
        rw [hits, spared, Bool.and_false, nobody]
      rw [idle]
      exact .refl _
    · have seen : Fare nobody outcome.room (escortSees ctx plan target attacker outcome.room) := .of_eq escortSees_trails
      have same : (escortSees ctx plan target attacker outcome.room).players.map entry =
          outcome.room.players.map entry := escortSees_entries ..
      have stands : (escortSees ctx plan target attacker outcome.room).isAlive (some target.id) := by
        rw [isAlive_congr same]
        exact isAlive_iff.mpr ⟨target, seated, alive⟩
      have struck := @strike_fares plan { outcome with room := escortSees ctx plan target attacker outcome.room } target attacker
        (unique_entries same unique) fromMafia stands
      have same : hits plan (target.id, attacker, fromMafia) outcome.room = burdens plan target fromMafia := by
        funext after id
        rw [hits, burdens, seated]
        simp [alive]
      rw [same]
      exact seen.trans struck

theorem attacked_fares (unique : (outcome.room.players.map (·.id)).Nodup) {attacks : List (Nat × PlayerState × Bool)}
    (raids : ∀ attack ∈ attacks, attack.2.2 = true) :
    Fare nobody outcome.room (attacks.foldl (resolveAttack ctx plan) outcome).room := by
  induction attacks generalizing outcome with
  | nil => exact .refl _
  | cons attack attacks ih =>
    obtain ⟨first, others⟩ := forall_mem_cons.mp raids
    have idle (before after : LiarsRoom) : hits plan attack before after = nobody := by
      funext id
      rw [hits, first]
      rfl
    have fares := @resolveAttack_fares ctx plan outcome unique attack
    rw [idle] at fares
    refine fares.trans (ih ?_ others)
    rw [← trails_ids, fares.ids, trails_ids]
    exact unique

theorem nightPlan_attacks (room : LiarsRoom) :
    ∃ raid shot : Option (Nat × PlayerState × Bool), room.nightPlan.attacks = raid.toList ++ shot.toList ∧
    (∀ attack ∈ raid, attack.2.2 = true) ∧ ∀ attack ∈ shot, attack.2.2 = false ∧
      room.nightPlan.vigilanteId = some attack.2.1.id := by
  refine ⟨_, _, rfl, ?_, ?_⟩
  · intro attack raids
    obtain ⟨caller, -, goes⟩ := bind_eq_some_iff.mp raids
    obtain ⟨target, -, rfl⟩ := map_eq_some_iff.mp goes
    rfl
  · intro attack shoots
    obtain ⟨player, armed, goes⟩ := bind_eq_some_iff.mp shoots
    obtain ⟨target, -, rfl⟩ := map_eq_some_iff.mp goes
    refine ⟨rfl, ?_⟩
    have vigilante := (filter_eq_some_iff.mp (filter_eq_some_iff.mp armed).1).1
    exact congrArg (Option.map (·.id)) vigilante

/-- Nobody has died of guilt so far. -/
def NightOutcome.Innocent (outcome : NightOutcome) : Prop := ∀ death ∈ outcome.deaths, death.cause ≠ .guilt

variable (innocent : outcome.Innocent)
include innocent

theorem innocent_dies {later : NightOutcome} {death : LiarsDeathEvent} (told : later.deaths = outcome.deaths ++ [death])
    (cause : death.cause = .killed) : later.Innocent := by
  intro other listed
  rw [told] at listed
  rcases mem_append.mp listed with old | new
  · exact innocent other old
  · rw [mem_singleton.mp new, cause]
    simp

theorem escortDies_innocent : (escortDies plan attacker target outcome).Innocent := by
  unfold escortDies
  split
  · exact innocent
  · split
    · exact innocent
    · exact innocent_dies innocent rfl rfl

theorem strike_innocent : (strike plan target attacker fromMafia outcome).Innocent := by
  unfold strike
  split
  · exact innocent_dies innocent rfl rfl
  · split
    · exact innocent_dies innocent rfl rfl
    · generalize dead : ({ outcome with room := outcome.room.kill target.id .killed, deaths := outcome.deaths ++ [outcome.room.deathOf target] } :
        NightOutcome) = killed
      have dies : killed.Innocent := by
        rw [← dead]
        exact innocent_dies innocent rfl rfl
      have left : (escortDies plan attacker target killed).Innocent := escortDies_innocent dies
      split
      · split
        · exact left
        · exact left
      · exact left

theorem resolveAttack_innocent (attack : Nat × PlayerState × Bool) :
    (resolveAttack ctx plan outcome attack).Innocent := by
  simp only [resolveAttack]
  split
  · exact innocent
  · split
    · exact innocent
    · exact strike_innocent innocent

end

namespace Decision
variable {night : Decision} {room : LiarsRoom} {id : Nat}

theorem cards_trails (night : Decision) : night.cards.trails = night.room.trails :=
  congrArg Course.trails (writeNightReports_course night.ctx night.room)

theorem armed_fares (unique : (room.players.map (·.id)).Nodup) : Fare nobody room room.armed ∧
    (room.nightPlan.attacks.any (!·.2.2) → ∀ trail ∈ room.armed.trails, room.nightPlan.vigilanteId = some trail.id →
      trail.vigilanteUsed) := by
  have interrupted : (room.interrupt room.nightPlan.blockedId).trails = room.trails := map_update fun _ => rfl
  unfold armed
  cases shot : room.nightPlan.attacks.any (!·.2.2) with
  | false => exact ⟨.of_eq interrupted, nofun⟩
  | true =>
    simp only [if_true]
    cases shooter : room.nightPlan.vigilanteId with
    | none => exact ⟨.of_eq interrupted, fun _ _ _ => nofun⟩
    | some id =>
      have spent : ((room.interrupt room.nightPlan.blockedId).updatePlayer id fun row =>
          { row with vigilanteUsed := true }).trails =
          update room.trails (·.id == id) fun trail => { trail with vigilanteUsed := true } := by
        rw [← interrupted, ← updateFirst_eq_update]
        · exact map_updateFirst_through (fun _ => rfl) fun _ => rfl
        · rw [interrupted, trails_ids]
          exact unique
      simp only [elim_some]
      constructor
      · unfold Fare
        rw [spent]
        refine forall₂_update Fares.refl fun trail _ => ?_
        exact ⟨rfl, fun alive => ⟨alive, rfl⟩, fun dead cause => ⟨dead, cause⟩, fun _ => rfl, (Bool.or_false _).symm⟩
      · intro _ trail listed named
        rw [spent] at listed
        obtain ⟨old, -, rfl⟩ := mem_update.mp listed
        by_cases own : old.id == id
        · rw [if_pos own]
        · rw [if_neg own] at named
          exact absurd (beq_iff_eq.mpr (some.inj named).symm) own

theorem struck_shot (night : Decision) : ∃ shot : Option (Nat × PlayerState × Bool),
    night.struck = shot.toList.foldl (resolveAttack night.ctx night.plan) night.raided ∧
    (∀ id, night.shootsTown id = shot.any fun attack => hits night.plan attack night.raided.room night.struck.room id) ∧
    (shot.isSome → night.plan.attacks.any (!·.2.2)) := by
  obtain ⟨raid, shot, attacks, raids, shoots⟩ := nightPlan_attacks night.cards
  change night.plan.attacks = _ at attacks
  have raided : night.plan.attacks.filter (·.2.2) = raid.toList := by
    rw [attacks, filter_append, filter_eq_self.mpr fun attack listed => raids attack (mem_toList.mp listed),
      filter_eq_nil_iff.mpr fun attack listed => by simp [(shoots attack (mem_toList.mp listed)).1], append_nil]
  refine ⟨shot, ?_, ?_, ?_⟩
  · rw [struck, Decision.raided, raided, attacks, foldl_append]
  · intro id
    have early : raid.toList.any (fun (targetId, shooter, fromMafia) => !fromMafia && shooter.id == id &&
        (night.raided.room.player targetId).any (fun target => target.alive && liarsRoleSide target.played != .mafia) &&
        night.struck.room.slain targetId) = false := by
      rw [any_eq_false]
      intro attack listed
      simp [raids attack (mem_toList.mp listed)]
    rw [shootsTown, attacks, any_append, early, Bool.false_or]
    cases shot with
    | none => rfl
    | some attack =>
      obtain ⟨-, known⟩ := shoots attack rfl
      change night.plan.vigilanteId = _ at known
      rw [toList_some, any_cons, any_nil, Bool.or_false, any_some, hits, known]
      rfl
  · intro fired
    obtain ⟨attack, rfl⟩ := isSome_iff_exists.mp fired
    rw [attacks, any_append]
    simp [(shoots attack rfl).1]

theorem shootsTown_vigilante (shoots : night.shootsTown id) : night.plan.vigilanteId = some id := by
  obtain ⟨shot, -, town, -⟩ := struck_shot night
  rw [town] at shoots
  obtain ⟨attack, -, hit⟩ := (Option.any_eq_true _ _).mp shoots
  simp only [hits, and_eq_true, beq_iff_eq] at hit
  exact hit.1.1.2

theorem struck_fares (unique : (night.room.players.map (·.id)).Nodup) : Fare night.shootsTown night.room night.struck.room ∧
    ∀ trail ∈ night.struck.room.trails, night.shootsTown trail.id → trail.vigilanteUsed := by
  have unique' : (night.cards.players.map (·.id)).Nodup := by
    rw [← trails_ids, cards_trails, trails_ids]
    exact unique
  obtain ⟨arms, spends⟩ := armed_fares unique'
  obtain ⟨shot, last, town, fired⟩ := struck_shot night
  have armed : Fare nobody night.room night.cards.armed := (Fare.of_eq (cards_trails night)).trans arms
  have raids : Fare nobody night.cards.armed night.raided.room := by
    refine @attacked_fares night.ctx night.plan { room := night.cards.armed } ?_ (night.plan.attacks.filter (·.2.2))
      fun attack listed => (mem_filter.mp listed).2
    rw [← trails_ids, arms.ids, trails_ids]
    exact unique'
  have early : Fare nobody night.room night.raided.room := armed.trans raids
  have unique'' : (night.raided.room.players.map (·.id)).Nodup := by
    rw [← trails_ids, early.ids, trails_ids]
    exact unique
  have late : Fare night.shootsTown night.raided.room night.struck.room := by
    cases shot with
    | none =>
      have idle : night.shootsTown = nobody := funext town
      rw [idle, last]
      exact .refl _
    | some attack =>
      have hit : night.shootsTown = hits night.plan attack night.raided.room night.struck.room := funext town
      rw [hit, last]
      exact resolveAttack_fares unique'' attack
  refine ⟨early.trans late, ?_⟩
  intro trail listed shoots
  obtain ⟨middle, there, after⟩ := mem_pairs late listed
  obtain ⟨first, here, before⟩ := mem_pairs raids there
  have known : night.plan.vigilanteId = some trail.id := shootsTown_vigilante shoots
  refine after.used (before.used (spends (fired ?_) first here ?_))
  · rw [town] at shoots
    obtain ⟨attack, rfl, -⟩ := Option.any_eq_true _ _ |>.mp shoots
    rfl
  · rw [← before.named, ← after.named]
    exact known

theorem struck_innocent (night : Decision) : night.struck.Innocent := by
  unfold struck
  have opens : ({ room := night.cards.armed } : NightOutcome).Innocent := nofun
  generalize ({ room := night.cards.armed } : NightOutcome) = outcome at opens ⊢
  generalize night.plan.attacks = attacks
  induction attacks generalizing outcome with
  | nil => exact opens
  | cons attack attacks ih => exact ih _ (resolveAttack_innocent opens attack)

theorem struck_round (night : Decision) : night.struck.room.round = night.room.round := by
  have same : night.struck.room.deserted = night.cards.deserted := ((Night.refl _).attacked _).same.trans (armed_deserted _)
  have cards : night.cards.course = night.room.course := writeNightReports_course night.ctx night.room
  exact (congrArg LiarsRoom.round same).trans (congrArg Course.round cards)

theorem nightOutcome_struck (night : Decision) : night.room.nightOutcome night.ctx = resolveGuilt night.struck := rfl

theorem guilt_falls (night : Decision) :
    (night.guilty = [] ∧ (night.room.nightOutcome night.ctx).room = night.struck.room ∧
      ((∀ row ∈ night.struck.room.players, row.alive → row.guiltPending = false) ∨
        ∃ row ∈ night.struck.room.players, row.alive ∧ row.guiltPending ∧
        ¬ (row.vigilanteUsed ∧ row.deathRound = none ∧ 1 < night.room.round))) ∨
    ∃ row ∈ night.struck.room.players, row.alive ∧ row.guiltPending ∧ 1 < night.room.round ∧ night.guilty = [row.id] ∧
      (night.room.nightOutcome night.ctx).room = night.struck.room.kill row.id .guilt := by
  have innocent : night.struck.deaths.filter (·.cause == .guilt) = [] := by
    rw [filter_eq_nil_iff]
    intro death listed
    simpa using night.struck_innocent death listed
  rw [guilty, nightOutcome_struck, ← struck_round]
  unfold resolveGuilt
  cases found : night.struck.room.living.find? (·.guiltPending) with
  | none =>
    refine .inl ⟨by simp [innocent], rfl, .inl fun row seated alive => ?_⟩
    have calm := find?_eq_none.mp found row (mem_filter.mpr ⟨seated, alive⟩)
    simpa using calm
  | some row =>
    obtain ⟨seated, alive⟩ := mem_filter.mp (mem_of_find?_eq_some found)
    have pending : row.guiltPending := find?_some found
    dsimp only
    split
    · next falls =>
      simp only [and_eq_true, isNone_iff_eq_none, decide_eq_true_eq] at falls
      refine .inr ⟨row, seated, alive, pending, falls.2, ?_, rfl⟩
      rw [filter_append, innocent]
      rfl
    · next stays =>
      simp only [and_eq_true, isNone_iff_eq_none, decide_eq_true_eq, and_assoc] at stays
      exact .inl ⟨by simp [innocent], rfl, .inr ⟨row, seated, alive, pending, stays⟩⟩

end Decision

end LiarsRoom

end MilkAndHenny.Liars

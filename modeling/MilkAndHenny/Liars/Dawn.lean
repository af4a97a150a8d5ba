import MilkAndHenny.Liars.Cards
import MilkAndHenny.Liars.Jammer

/-! The account of the night. Whoever is missing in the morning is named by one of the deaths that
the dawn tells, and whoever had no power that night changes nothing about it. -/

namespace MilkAndHenny.Liars
open Library

variable {room : LiarsRoom} {id : Nat}

/-- Whom the town buries for a death of the night: nobody where the doctor undid it, and the
bodyguard where they stepped in. -/
def casualty (bodyguardId : Option Nat) (death : LiarsDeathEvent) : Option Nat :=
  if death.revived then none else if death.substituteName.isSome then bodyguardId else some death.playerId

namespace LiarsRoom

def livingIds (room : LiarsRoom) : List Nat := room.living.map (·.id)

/-- Whoever was alive before and is not any more. -/
def fallen (before after : LiarsRoom) : List Nat := before.livingIds.filter (· ∉ after.livingIds)

section
variable {before after : LiarsRoom} {plan : NightPlan} {outcome : NightOutcome}

/-- What the account of a night is kept of: who sits there under which name, and who of them lives. -/
def entry (player : PlayerState) : Nat × String × Bool := (player.id, player.name, player.alive)

theorem livingIds_congr (same : after.players.map entry = before.players.map entry) : after.livingIds = before.livingIds := by
  have entries (room : LiarsRoom) : room.livingIds = ((room.players.map entry).filter (·.2.2)).map (·.1) := by
    rw [filter_map, map_map]
    rfl
  rw [entries, same, ← entries]

theorem player_column {β : Type} {column : PlayerState → Nat × β} (named : ∀ row, (column row).1 = row.id)
    (same : after.players.map column = before.players.map column) (id : Nat) :
    (after.player id).map column = (before.player id).map column :=
  @find?_column _ before.players _ column after.players (·.id == id) (·.1 == id) (fun row => congrArg (· == id) (named row)) same

theorem isAlive_congr (same : after.players.map entry = before.players.map entry) (id : Option Nat) :
    after.isAlive id = before.isAlive id := by
  cases id with
  | none => rfl
  | some id =>
    have entries (room : LiarsRoom) : room.isAlive (some id) = ((room.player id).map entry).any (·.2.2) := by
      rw [any_map]
      rfl
    rw [entries, player_column (fun _ => rfl) same, ← entries]

theorem isAlive_iff : room.isAlive (some id) ↔ ∃ row, room.player id = some row ∧ row.alive := by
  rw [isAlive, bind_some, Option.any_eq_true]

theorem kill_livingIds (stands : room.isAlive (some id)) (cause : LiarsDeathCause) :
    room.livingIds.Perm (id :: (room.kill id cause).livingIds) := by
  obtain ⟨row, found, alive⟩ := isAlive_iff.mp stands
  have listed : row ∈ room.living := mem_filter.mpr ⟨mem_of_find?_eq_some found, alive⟩
  obtain ⟨fallen, front, back, -, named, split, rest⟩ :=
    List.exists_of_eraseP listed (p := (·.id == id)) (by simpa using player_id found)
  rw [livingIds, livingIds, living_kill found alive, rest, split, map_append, map_append, map_cons, eq_of_beq named]
  exact perm_middle

structure Toll (before : LiarsRoom) (plan : NightPlan) (outcome : NightOutcome) : Prop where
  seated : outcome.room.players.map (fun row => (row.id, row.name)) = before.players.map fun row => (row.id, row.name)
  paid : before.livingIds.Perm (outcome.deaths.filterMap (casualty plan.bodyguardId) ++ outcome.room.livingIds)
  substitute : ∀ death ∈ outcome.deaths, ∀ name ∈ death.substituteName,
    death.revived = false ∧ (plan.bodyguardId.bind before.player).map (·.name) = some name

theorem escortSees_entries (ctx : GameContext) (plan : NightPlan) (target attacker : PlayerState) (room : LiarsRoom) :
    (escortSees ctx plan target attacker room).players.map entry = room.players.map entry := by
  unfold escortSees
  split
  · rfl
  · split
    · rfl
    · exact map_updateFirst fun _ => rfl

namespace Toll
variable {death : LiarsDeathEvent} {later : NightOutcome}

theorem keeps (toll : Toll before plan outcome) {later : NightOutcome}
    (same : later.room.players.map entry = outcome.room.players.map entry)
    (deaths : later.deaths = outcome.deaths) : Toll before plan later where
  seated := by
    have seats (room : LiarsRoom) :
        room.players.map (fun row => (row.id, row.name)) = (room.players.map entry).map fun seen => (seen.1, seen.2.1) := by
      rw [map_map]
      rfl
    rw [seats, same, ← seats, toll.seated]
  paid := by
    rw [deaths, livingIds_congr same]
    exact toll.paid
  substitute := by
    rw [deaths]
    exact toll.substitute

theorem dies (toll : Toll before plan outcome) {id : Nat} (stands : outcome.room.isAlive (some id)) (cause : LiarsDeathCause)
    (names : casualty plan.bodyguardId death = some id)
    (substitute : ∀ name ∈ death.substituteName, (plan.bodyguardId.bind before.player).map (·.name) = some name)
    (killed : later.room.players.map entry = (outcome.room.kill id cause).players.map entry)
    (told : later.deaths = outcome.deaths ++ [death]) : Toll before plan later := by
  suffices dead : Toll before plan { outcome with room := outcome.room.kill id cause, deaths := outcome.deaths ++ [death] } from
    dead.keeps killed told
  constructor
  · rw [← toll.seated]
    exact map_updateFirst fun _ => rfl
  · have told : (outcome.deaths ++ [death]).filterMap (casualty plan.bodyguardId) ++ (outcome.room.kill id cause).livingIds =
        outcome.deaths.filterMap (casualty plan.bodyguardId) ++ id :: (outcome.room.kill id cause).livingIds := by
      rw [List.filterMap_append, List.filterMap_cons_some names, List.filterMap_nil, append_assoc]
      rfl
    refine toll.paid.trans ?_
    rw [told]
    exact (kill_livingIds stands cause).append_left _
  · intro other mem
    rcases mem_append.mp mem with old | new
    · exact toll.substitute other old
    · cases mem_singleton.mp new
      intro name listed
      refine ⟨eq_false_iff.mpr fun revived => ?_, substitute name listed⟩
      rw [casualty, if_pos revived] at names
      cases names

theorem undone (toll : Toll before plan outcome) (revived : death.revived) (alone : death.substituteName = none)
    (same : later.room.players.map entry = outcome.room.players.map entry)
    (told : later.deaths = outcome.deaths ++ [death]) : Toll before plan later := by
  have nobody : casualty plan.bodyguardId death = none := if_pos revived
  have kept := @Toll.keeps before plan outcome toll { later with deaths := outcome.deaths } same rfl
  refine ⟨kept.seated, ?_, ?_⟩
  · rw [told, List.filterMap_append, List.filterMap_cons_none nobody, List.filterMap_nil, append_nil]
    exact kept.paid
  · intro other mem
    rw [told] at mem
    rcases mem_append.mp mem with old | new
    · exact toll.substitute other old
    · cases mem_singleton.mp new
      rw [alone]
      intro name listed
      cases listed

theorem escortDies (toll : Toll before plan outcome) (attacker target : PlayerState) :
    Toll before plan (LiarsRoom.escortDies plan attacker target outcome) := by
  unfold LiarsRoom.escortDies
  split
  · exact toll
  · next escort found =>
    split
    · exact toll
    · next stays =>
      rw [not_or, not_eq_true', not_eq_false] at stays
      obtain ⟨escortId, known, seated⟩ := bind_eq_some_iff.mp found
      have named : escort.id = escortId := player_id seated
      refine toll.dies (isAlive_iff.mpr ⟨escort, named ▸ seated, stays.2⟩) .killed rfl ?_ ?_ rfl
      · intro name listed
        cases listed
      · exact map_updateFirst fun _ => rfl

theorem strike (toll : Toll before plan outcome) {target : PlayerState} (attacker : PlayerState) (fromMafia : Bool)
    (stands : outcome.room.isAlive (some target.id)) :
    Toll before plan (LiarsRoom.strike plan target attacker fromMafia outcome) := by
  unfold LiarsRoom.strike
  split
  · exact toll.undone rfl rfl (map_updateFirst fun _ => rfl) rfl
  · split
    · next guard found =>
      obtain ⟨seated, guards⟩ := filter_eq_some_iff.mp found
      obtain ⟨guardId, known, there⟩ := bind_eq_some_iff.mp seated
      rw [and_eq_true] at guards
      have named : guard.id = guardId := player_id there
      have called : (plan.bodyguardId.bind before.player).map (·.name) = some guard.name := by
        have same := player_column (fun _ => rfl) toll.seated guardId
        rw [there, map_some] at same
        obtain ⟨row, found, equal⟩ := map_eq_some_iff.mp same.symm
        rw [known, bind_some, found]
        exact congrArg some (Prod.mk.inj equal).2
      refine toll.dies (isAlive_iff.mpr ⟨guard, named ▸ there, guards.2⟩) .bodyguard ?_ ?_ rfl rfl
      · rw [casualty, if_neg Bool.false_ne_true, if_pos (by exact rfl), known, named]
      · intro name listed
        rw [← some.inj listed]
        exact called
    · have killed : Toll before plan
          { outcome with room := outcome.room.kill target.id .killed, deaths := outcome.deaths ++ [outcome.room.deathOf target] } := by
        refine toll.dies stands .killed rfl ?_ rfl rfl
        intro name listed
        cases listed
      have after := killed.escortDies attacker target
      split
      · split
        · exact after.keeps (map_updateFirst fun _ => rfl) rfl
        · exact after
      · exact after

theorem resolveAttack {ctx : GameContext} (toll : Toll before plan outcome) (attack : Nat × PlayerState × Bool) :
    Toll before plan (LiarsRoom.resolveAttack ctx plan outcome attack) := by
  obtain ⟨targetId, attacker, fromMafia⟩ := attack
  simp only [LiarsRoom.resolveAttack]
  split
  · exact toll
  · next target found =>
    obtain ⟨seated, alive⟩ := filter_eq_some_iff.mp found
    have named : target.id = targetId := player_id seated
    split
    · exact toll
    · have sees := escortSees_entries ctx plan target attacker outcome.room
      have seen : Toll before plan { outcome with room := escortSees ctx plan target attacker outcome.room } :=
        toll.keeps sees rfl
      refine seen.strike attacker fromMafia ?_
      rw [isAlive_congr sees]
      exact isAlive_iff.mpr ⟨target, named ▸ seated, alive⟩

theorem attacked {ctx : GameContext} (toll : Toll before plan outcome) (attacks : List (Nat × PlayerState × Bool)) :
    Toll before plan (attacks.foldl (LiarsRoom.resolveAttack ctx plan) outcome) := by
  induction attacks generalizing outcome with
  | nil => exact toll
  | cons attack attacks ih => exact ih (toll.resolveAttack attack)

theorem resolveGuilt (toll : Toll before plan outcome) (unique : (outcome.room.players.map (·.id)).Nodup) :
    Toll before plan (LiarsRoom.resolveGuilt outcome) := by
  unfold LiarsRoom.resolveGuilt
  split
  · exact toll
  · next guilty found =>
    split
    · obtain ⟨seated, alive⟩ := mem_filter.mp (mem_of_find?_eq_some found)
      refine toll.dies (isAlive_iff.mpr ⟨guilty, find?_key unique seated, alive⟩) .guilt rfl ?_ rfl rfl
      intro name listed
      cases listed
    · exact toll

end Toll

end

section
variable {ctx : GameContext} {now : Int} {plan : NightPlan} {outcome : NightOutcome} {other : LiarsRoom}

theorem alike_entries (alike : Alike other room) : other.players.map entry = room.players.map entry := by
  have entries (rows : List PlayerState) : rows.map entry = (rows.map bare).map entry := by
    rw [map_map]
    rfl
  rw [entries, alike.players, ← entries]

theorem Toll.opens {plan : NightPlan} {begun : LiarsRoom} (same : begun.players.map entry = room.players.map entry) :
    Toll room plan { room := begun } where
  seated := by
    have seats (rows : List PlayerState) :
        rows.map (fun row => (row.id, row.name)) = (rows.map entry).map fun seen => (seen.1, seen.2.1) := by
      rw [map_map]
      rfl
    rw [seats, same, ← seats]
  paid := by
    rw [livingIds_congr same]
    rfl
  substitute := by simp

theorem unique_entries (same : other.players.map entry = room.players.map entry)
    (unique : (room.players.map (·.id)).Nodup) : (other.players.map (·.id)).Nodup := by
  have ids (rows : List PlayerState) : rows.map (·.id) = (rows.map entry).map (·.1) := by
    rw [map_map]
    rfl
  rwa [ids, same, ← ids]

theorem Toll.unique (toll : Toll room plan outcome) (unique : (room.players.map (·.id)).Nodup) :
    (outcome.room.players.map (·.id)).Nodup := by
  have ids (rows : List PlayerState) : rows.map (·.id) = (rows.map fun row => (row.id, row.name)).map Prod.fst := by
    rw [map_map]
    rfl
  rwa [ids, toll.seated, ← ids]

/-- The room before the attacks: the jammer's victim knows, and the vigilante's one shot is spent. -/
def armed (room : LiarsRoom) : LiarsRoom :=
  let interrupted := room.interrupt room.nightPlan.blockedId
  if room.nightPlan.attacks.any (!·.2.2) then
    room.nightPlan.vigilanteId.elim interrupted fun id => interrupted.updatePlayer id fun row =>
      { row with vigilanteUsed := true }
  else interrupted

theorem nightOutcome_armed (ctx : GameContext) (room : LiarsRoom) :
    let cards := room.writeNightReports ctx
    room.nightOutcome ctx = resolveGuilt (cards.nightPlan.attacks.foldl (resolveAttack ctx cards.nightPlan)
      { room := cards.armed }) := rfl

theorem armed_entries (room : LiarsRoom) : room.armed.players.map entry = room.players.map entry := by
  have interrupted := alike_entries (interrupt_alike room room.nightPlan.blockedId)
  unfold armed
  split
  · cases room.nightPlan.vigilanteId with
    | none => exact interrupted
    | some =>
      refine (map_updateFirst ?_).trans interrupted
      exact fun _ => rfl
  · exact interrupted

theorem nightOutcome_toll (ctx : GameContext) (unique : (room.players.map (·.id)).Nodup) :
    Toll room (room.writeNightReports ctx).nightPlan (room.nightOutcome ctx) := by
  have opens : Toll room (room.writeNightReports ctx).nightPlan { room := (room.writeNightReports ctx).armed } :=
    Toll.opens ((armed_entries _).trans (alike_entries (writeNightReports_alike ctx room)))
  have attacked := @Toll.attacked _ _ _ ctx opens (room.writeNightReports ctx).nightPlan.attacks
  exact attacked.resolveGuilt (attacked.unique unique)

/-- The doctor is alive, the jammer is not at their door, and this is the door they are at. -/
structure Protects (room : LiarsRoom) (doctor : PlayerState) (id : Nat) : Prop where
  holds : room.roleHolder .doctor = some doctor
  unblocked : (room.roleHolder .jammer).bind (·.nightTarget) ≠ some doctor.id
  chooses : doctor.nightTarget = some id

/-- Whoever is dead, or has the jammer at their door. -/
def Powerless (room : LiarsRoom) (id : Nat) : Prop :=
  ¬ room.isAlive (some id) ∨ (room.roleHolder .jammer).bind (·.nightTarget) = some id

/-- The same evening, but this player chooses nobody. -/
def hush (room : LiarsRoom) (id : Nat) : LiarsRoom :=
  { room with players := update room.players (·.id == id) fun row => { row with nightTarget := none } }

theorem writeNightReports_targets (ctx : GameContext) (room : LiarsRoom) :
    (room.writeNightReports ctx).players.map (fun row => (row.id, row.nightTarget)) =
      room.players.map fun row => (row.id, row.nightTarget) := by
  unfold writeNightReports
  dsimp only
  split
  · refine map_update fun row => ?_
    unfold withReport
    dsimp only
    split <;> rfl
  · rfl

def choiceOf (room : LiarsRoom) (id : Nat) : Option Nat := (room.player id).bind (·.nightTarget)

theorem choiceOf_congr
    (same : other.players.map (fun row => (row.id, row.nightTarget)) = room.players.map fun row => (row.id, row.nightTarget)) :
    other.choiceOf = room.choiceOf := by
  funext id
  have choice (room : LiarsRoom) : room.choiceOf id = ((room.player id).map fun row => (row.id, row.nightTarget)).bind (·.2) := by
    rw [choiceOf, Option.bind_map]
    rfl
  rw [choice, player_column (fun _ => rfl) same, ← choice]

theorem choiceOf_seated (unique : (room.players.map (·.id)).Nodup) {row : PlayerState} (seated : row ∈ room.players) :
    row.nightTarget = room.choiceOf row.id := by
  have found : room.player row.id = some row := find?_key unique seated
  rw [choiceOf, found, bind_some]

theorem mem_livingIds (unique : (room.players.map (·.id)).Nodup) {id : Nat} : id ∈ room.livingIds ↔ room.isAlive (some id) := by
  rw [isAlive_iff, livingIds, mem_map]
  constructor
  · rintro ⟨row, listed, rfl⟩
    obtain ⟨seated, alive⟩ := mem_filter.mp listed
    exact ⟨row, find?_key unique seated, alive⟩
  · rintro ⟨row, found, alive⟩
    exact ⟨row, mem_filter.mpr ⟨mem_of_find?_eq_some found, alive⟩, player_id found⟩

theorem hush_alike (room : LiarsRoom) (id : Nat) : Alike (room.hush id) room := ⟨map_update fun _ => rfl, rfl, rfl⟩

theorem hush_choiceOf (room : LiarsRoom) (id : Nat) : (room.hush id).choiceOf = staying id room.choiceOf := by
  funext other
  have found : (room.hush id).player other =
      (room.player other).map fun row => if row.id == id then { row with nightTarget := none } else row := by
    refine find?_update fun row _ => ?_
    rfl
  rw [choiceOf, found, staying, choiceOf]
  cases seated : room.player other with
  | none => simp
  | some row =>
    have named : row.id = other := player_id seated
    by_cases own : other = id <;> simp [named, own]

theorem roleHolder_acts (unique : (room.players.map (·.id)).Nodup) (role : LiarsRole) :
    (room.roleHolder role).bind (·.nightTarget) = acts room.choiceOf (room.roleHolder role) := by
  cases held : room.roleHolder role with
  | none => rfl
  | some row =>
    have seated : row ∈ room.players := mem_of_mem_filter (mem_roleHolder held)
    rw [acts, bind_some, bind_some, choiceOf_seated unique seated]

theorem hush_plans (ctx : GameContext) (unique : (room.players.map (·.id)).Nodup) (powerless : room.Powerless id) :
    SamePlan (room.writeNightReports ctx).nightPlan ((room.hush id).writeNightReports ctx).nightPlan := by
  have written := writeNightReports_alike ctx room
  have hushed := (writeNightReports_alike ctx (room.hush id)).trans (hush_alike room id)
  have unique' (other : LiarsRoom) (alike : Alike other room) : (other.players.map (·.id)).Nodup :=
    unique_entries (alike_entries alike) unique
  have choice : (room.writeNightReports ctx).choiceOf = room.choiceOf := choiceOf_congr (writeNightReports_targets ctx room)
  have choice' : ((room.hush id).writeNightReports ctx).choiceOf = staying id room.choiceOf :=
    (choiceOf_congr (writeNightReports_targets ctx _)).trans (hush_choiceOf room id)
  have blocks := roleHolder_acts (unique' _ written) .jammer
  have blocks' := roleHolder_acts (unique' _ hushed) .jammer
  rw [choice, acts_alike (roleHolder_alike written .jammer)] at blocks
  rw [choice', acts_alike (roleHolder_alike hushed .jammer)] at blocks'
  have chose : ∀ row ∈ (room.writeNightReports ctx).living, row.nightTarget = room.choiceOf row.id := by
    intro row listed
    rw [← choice]
    exact choiceOf_seated (unique' _ written) (mem_of_mem_filter listed)
  have chose' : ∀ row ∈ ((room.hush id).writeNightReports ctx).living, row.nightTarget = staying id room.choiceOf row.id := by
    intro row listed
    rw [← choice']
    exact choiceOf_seated (unique' _ hushed) (mem_of_mem_filter listed)
  have alike := written.trans hushed.symm
  rcases powerless with dead | jammed
  · have other {row : PlayerState} {after : LiarsRoom} (same : Alike after room) (listed : row ∈ after.living) : row.id ≠ id := by
      rintro rfl
      apply dead
      rw [← mem_livingIds unique, ← livingIds_congr (alike_entries same)]
      exact mem_map_of_mem listed
    have cancels (i : Nat) : (if some i = acts room.choiceOf (room.roleHolder .jammer) then none else room.choiceOf i) =
        if some i = ((room.writeNightReports ctx).roleHolder .jammer).bind (·.nightTarget) then none else room.choiceOf i := by
      rw [blocks]
    refine samePlan alike chose (fun row listed => (chose' row listed).trans (if_neg (other hushed listed))) cancels fun i => ?_
    have same : acts (staying id room.choiceOf) (room.roleHolder .jammer) = acts room.choiceOf (room.roleHolder .jammer) := by
      cases held : room.roleHolder .jammer with
      | none => rfl
      | some => exact if_neg (other ⟨rfl, rfl, rfl⟩ (mem_roleHolder held))
    rw [blocks', same]
  · have jam : acts room.choiceOf (room.roleHolder .jammer) = some id := (roleHolder_acts unique .jammer).symm.trans jammed
    have cancels (i : Nat) : staying id room.choiceOf i =
        if some i = ((room.writeNightReports ctx).roleHolder .jammer).bind (·.nightTarget) then none else room.choiceOf i := by
      rw [blocks, jam, staying]
      simp
    refine samePlan alike chose chose' cancels fun i => ?_
    · rw [blocks']
      obtain ⟨jammer, held, target⟩ := bind_eq_some_iff.mp jam
      rw [held]
      exact staying_cancels target i

theorem Protects.savedId {doctor : PlayerState} {id : Nat} (protects : room.Protects doctor id)
    (unique : (room.players.map (·.id)).Nodup)
    (ctx : GameContext) : (room.writeNightReports ctx).nightPlan.savedId = some id := by
  have written := writeNightReports_alike ctx room
  have choice : (room.writeNightReports ctx).choiceOf = room.choiceOf := choiceOf_congr (writeNightReports_targets ctx room)
  have chose : ∀ row ∈ (room.writeNightReports ctx).living, row.nightTarget = room.choiceOf row.id := by
    intro row listed
    rw [← choice]
    exact choiceOf_seated (unique_entries (alike_entries written) unique) (mem_of_mem_filter listed)
  have blocks := roleHolder_acts (unique_entries (alike_entries written) unique) .jammer
  rw [choice, acts_alike (roleHolder_alike written .jammer), ← roleHolder_acts unique .jammer] at blocks
  have cancels (i : Nat) : (if some i = (room.roleHolder .jammer).bind (·.nightTarget) then none else room.choiceOf i) =
      if some i = ((room.writeNightReports ctx).roleHolder .jammer).bind (·.nightTarget) then none else room.choiceOf i := by
    rw [blocks]
  have saved := (nightPlan_acts chose cancels).1
  have seated : doctor ∈ room.players := mem_of_mem_filter (mem_roleHolder protects.holds)
  rw [saved, acts_alike (roleHolder_alike written .doctor), protects.holds, acts, bind_some, if_neg protects.unblocked.symm,
    ← choiceOf_seated unique seated, protects.chooses]

theorem saved_survive {attack : Nat × PlayerState × Bool} (saved : plan.savedId = some attack.1)
    (outcome : NightOutcome) : (resolveAttack ctx plan outcome attack).room.livingIds = outcome.room.livingIds := by
  obtain ⟨targetId, attacker, fromMafia⟩ := attack
  simp only [resolveAttack]
  split
  · rfl
  · next target found =>
    have named : target.id = targetId := player_id (filter_eq_some_iff.mp found).1
    split
    · rfl
    · rw [strike, if_pos (named ▸ saved)]
      apply livingIds_congr
      refine (map_updateFirst ?_).trans (escortSees_entries ..)
      exact fun _ => rfl

theorem dawnOf_casualties (outcome : NightOutcome) (narration : String) (bodyguardId : Option Nat) :
    (dawnOf outcome narration now).deaths.filterMap (casualty bodyguardId) = outcome.deaths.filterMap (casualty bodyguardId) := by
  unfold dawnOf
  split
  · rfl
  · rw [List.filterMap_filter]
    apply List.filterMap_congr
    intro death _
    unfold casualty
    cases death.revived <;> rfl

theorem Toll.oneSubstitute (toll : Toll room plan outcome) (unique : (room.players.map (·.id)).Nodup) :
    (outcome.deaths.filterMap (casualty plan.bodyguardId)).Nodup ∧ outcome.deaths.countP (·.substituteName.isSome) ≤ 1 := by
  have living : room.livingIds.Nodup := unique.sublist (filter_sublist.map _)
  have once : (outcome.deaths.filterMap (casualty plan.bodyguardId)).Nodup := (toll.paid.nodup_iff.mp living).of_append_left
  refine ⟨once, ?_⟩
  by_cases any : ∃ death ∈ outcome.deaths, death.substituteName.isSome
  · obtain ⟨death, listed, stood⟩ := any
    obtain ⟨name, substitute⟩ := isSome_iff_exists.mp stood
    obtain ⟨-, named⟩ := toll.substitute death listed name substitute
    cases guards : plan.bodyguardId with
    | none => simp [guards] at named
    | some guard =>
      have counted : outcome.deaths.countP (·.substituteName.isSome) ≤
          (outcome.deaths.filterMap (casualty (some guard))).count guard := by
        rw [List.count, List.countP_filterMap]
        refine countP_mono_left fun other mem stood => ?_
        obtain ⟨name, substitute⟩ := isSome_iff_exists.mp stood
        obtain ⟨final, -⟩ := toll.substitute other mem name substitute
        simp [casualty, final, stood]
      rw [guards] at once
      exact counted.trans (List.nodup_iff_count_le_one.mp once guard)
  · have none : outcome.deaths.countP (·.substituteName.isSome) = 0 :=
        countP_eq_zero.mpr fun death listed stood => any ⟨death, listed, stood⟩
    omega

theorem fallen_perm (toll : Toll room plan outcome) (unique : (room.players.map (·.id)).Nodup) :
    (room.fallen outcome.room).Perm (outcome.deaths.filterMap (casualty plan.bodyguardId)) := by
  have living : room.livingIds.Nodup := unique.sublist (filter_sublist.map _)
  have apart := List.disjoint_of_nodup_append (toll.paid.nodup_iff.mp living)
  have buried : (outcome.deaths.filterMap (casualty plan.bodyguardId)).filter (· ∉ outcome.room.livingIds) =
      outcome.deaths.filterMap (casualty plan.bodyguardId) := by
    rw [filter_eq_self]
    intro id listed
    exact decide_eq_true (apart listed)
  have left : outcome.room.livingIds.filter (· ∉ outcome.room.livingIds) = [] := by
    rw [filter_eq_nil_iff]
    intro id listed
    simpa using listed
  have missing := toll.paid.filter (· ∉ outcome.room.livingIds)
  rwa [filter_append, buried, left, append_nil] at missing

theorem nightPlan_bodyguardId (ctx : GameContext) (room : LiarsRoom) :
    (room.writeNightReports ctx).nightPlan.bodyguardId = (room.roleHolder .bodyguard).map (·.id) := by
  have ids (holder : Option PlayerState) : holder.map (·.id) = (holder.map bare).map (·.id) := by
    rw [Option.map_map]
    rfl
  rw [nightPlan, ids, roleHolder_alike (writeNightReports_alike ctx room) .bodyguard, ← ids]

theorem resolveNight_buries (unique : (room.players.map (·.id)).Nodup) (ctx : GameContext) (now : Int)
    {guard : Option PlayerState}
    (guards : room.roleHolder .bodyguard = guard) : ∃ dawn ∈ (room.resolveNight ctx now).dawn,
      (room.fallen (room.resolveNight ctx now)).Perm (dawn.deaths.filterMap (casualty (guard.map (·.id)))) ∧
      (dawn.deaths.filterMap (casualty (guard.map (·.id)))).Nodup ∧
      (∀ death ∈ dawn.deaths, ∀ name ∈ death.substituteName, guard.map (·.name) = some name) ∧
      dawn.deaths.countP (·.substituteName.isSome) ≤ 1 := by
  have toll := nightOutcome_toll ctx unique
  have plan := nightPlan_bodyguardId ctx room
  rw [guards] at plan
  have missing : room.fallen (room.resolveNight ctx now) = room.fallen (room.nightOutcome ctx).room := by
    rw [fallen, fallen, livingIds_congr (congrArg (List.map entry) resolveNight_players)]
  obtain ⟨narration, shown⟩ := @resolveNight_dawn room ctx now
  obtain ⟨once, substitutes⟩ := toll.oneSubstitute unique
  have sub : (dawnOf (room.nightOutcome ctx) narration now).deaths.Sublist (room.nightOutcome ctx).deaths := by
    unfold dawnOf
    split
    · exact .refl _
    · exact filter_sublist
  refine ⟨_, shown, ?_, ?_, ?_, sub.countP_le.trans substitutes⟩
  · rw [missing, dawnOf_casualties, ← plan]
    exact fallen_perm toll unique
  · rw [dawnOf_casualties, ← plan]
    exact once
  · intro death listed name stood
    obtain ⟨-, named⟩ := toll.substitute death (sub.subset listed) name stood
    rw [plan] at named
    cases guard with
    | none => cases named
    | some row =>
      have seated : row ∈ room.players := mem_of_mem_filter (mem_roleHolder guards)
      have found : room.player row.id = some row := find?_key unique seated
      rw [map_some, bind_some, found] at named
      exact named

/-- The night's books balance. Whoever is missing in the morning is buried by exactly one of the deaths
that the dawn shows, the bodyguard for the death they stood in for, and they stand in once at most;
nobody dies of an attack on whom the doctor watches over; and whoever has no power that night might
as well have chosen nobody. -/
theorem resolveNight_accounts (unique : (room.players.map (·.id)).Nodup) (ctx : GameContext) (now : Int) :
    (∃ dawn ∈ (room.resolveNight ctx now).dawn,
      (room.fallen (room.resolveNight ctx now)).Perm (dawn.deaths.filterMap (casualty ((room.roleHolder .bodyguard).map (·.id)))) ∧
      (dawn.deaths.filterMap (casualty ((room.roleHolder .bodyguard).map (·.id)))).Nodup ∧
      (∀ death ∈ dawn.deaths, ∀ name ∈ death.substituteName, (room.roleHolder .bodyguard).map (·.name) = some name) ∧
      dawn.deaths.countP (·.substituteName.isSome) ≤ 1) ∧
    (∀ doctor id, room.Protects doctor id → ∀ outcome attacker fromMafia,
      (resolveAttack ctx (room.writeNightReports ctx).nightPlan outcome (id, attacker, fromMafia)).room.livingIds =
        outcome.room.livingIds) ∧
    ∀ id, room.Powerless id →
      ((room.hush id).nightOutcome ctx).deaths = (room.nightOutcome ctx).deaths ∧
      ((room.hush id).resolveNight ctx now).players.map bare = (room.resolveNight ctx now).players.map bare := by
  refine ⟨resolveNight_buries unique ctx now rfl, ?_, ?_⟩
  · intro doctor id protects outcome attacker fromMafia
    exact saved_survive (protects.savedId unique ctx) outcome
  · intro id powerless
    have same := nightOutcome_same (hush_alike room id).symm (hush_plans ctx unique powerless)
    refine ⟨same.deaths.symm, ?_⟩
    rw [resolveNight_players, resolveNight_players, same.room.players]

end

end LiarsRoom

def guardedNight : LiarsRoom :=
  runFrom Command.apply (lobbyOf .mafia {} ["Ada", "Bo", "Cy", "Di", "Em", "Flo", "Gus", "Hal", "Ida", "Jo", "Kit"])
    [.byHost 2 1 (.start []), .read (.plain 20000) (.token 0) none, .by 22 30000 2 (.nightSelect 1 (some 14)),
      .by 12 30000 3 (.nightSelect 1 (some 14)), .read (.plain 50000) (.token 0) none, .read (.plain 70000) (.token 0) none]

theorem resolveNight_accounts_guarded :
    guardedNight.fallen (guardedNight.resolveNight (.plain 75002) 75002) = [12] ∧
    ∃ dawn ∈ (guardedNight.resolveNight (.plain 75002) 75002).dawn,
      (guardedNight.fallen (guardedNight.resolveNight (.plain 75002) 75002)).Perm (dawn.deaths.filterMap (casualty (some 12))) := by
  obtain ⟨dawn, shown, missing, -⟩ := (@LiarsRoom.resolveNight_accounts guardedNight (by decide +kernel) (.plain 75002) 75002).1
  exact ⟨by decide +kernel, dawn, shown, missing⟩

end MilkAndHenny.Liars

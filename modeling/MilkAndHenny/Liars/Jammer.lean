import MilkAndHenny.Liars.Rescue

/-! The jammer's night, beside the night in which their target chose nobody. The power is cancelled at
dawn, but the cards are written before. -/

namespace MilkAndHenny.Liars
open Library

variable {room other : LiarsRoom} {ctx : GameContext} {choice free first last : Nat → Option Nat}
  {cards ends : GameContext}

namespace LiarsRoom

/-- Everybody's choice as it stands. -/
def chosen (room : LiarsRoom) (choice : Nat → Option Nat) : LiarsRoom :=
  { room with players := room.players.map fun row => { row with nightTarget := choice row.id } }

def night (room : LiarsRoom) (cards ends : GameContext) (first last : Nat → Option Nat) : NightOutcome :=
  (((room.chosen first).writeNightReports cards).chosen last).nightOutcome ends

/-- The same choices, but this player chooses nobody. -/
def staying (id : Nat) (choice : Nat → Option Nat) (other : Nat) : Option Nat := if other = id then none else choice other

/-- The living jammer's target is a living player whose card is still to be written. -/
structure Jams (room : LiarsRoom) (last : Nat → Option Nat) (player : PlayerState) : Prop where
  jammer : ∃ jammer, room.roleHolder .jammer = some jammer ∧ last jammer.id = some player.id
  seated : room.player player.id = some player
  alive : player.alive
  unwritten : player.report = none

/-- What a player's private card says, and what they know besides interruptions. -/
structure Learned where
  line : Option (String × Option Glyph)
  knowledge : List LiarsKnowledgeEntry
  deriving DecidableEq

def learned (room : LiarsRoom) (id : Nat) : Option Learned :=
  (room.player id).map fun row =>
    { line := row.report.map fun report => (report.line, report.glyph)
      knowledge := row.knowledge.filter (·.text ≠ "your night was interrupted") }

def bare (row : PlayerState) : PlayerState := { row with nightTarget := none, report := none, knowledge := [] }

section
variable {p : PlayerState → Bool}

/-- Rooms that differ in choices, cards and knowledge at most. -/
structure Alike (room other : LiarsRoom) : Prop where
  players : room.players.map bare = other.players.map bare
  round : room.round = other.round
  toggles : room.toggles = other.toggles

theorem column_alike {β : Type} (column : PlayerState → β) (seen : ∀ row, column (bare row) = column row) {x y : PlayerState} (equal : bare x = bare y) :
    column x = column y := by rw [← seen x, equal, seen y]

theorem filter_alike {a b : Option PlayerState} (same : a.map bare = b.map bare) (seen : ∀ row, p (bare row) = p row) :
    (a.filter p).map bare = (b.filter p).map bare := by
  rcases cases_of_map same with ⟨rfl, rfl⟩ | ⟨x, y, rfl, rfl, equal⟩
  · rfl
  · have also : p x = p y := by rw [← seen x, equal, seen y]
    rw [filter_some, filter_some, also]
    split
    · exact congrArg some equal
    · rfl

theorem find?_alike {rows others : List PlayerState} (same : rows.map bare = others.map bare) (seen : ∀ row, p (bare row) = p row) :
    (rows.find? p).map bare = (others.find? p).map bare := find?_column seen same

namespace Alike

theorem symm (alike : Alike room other) : Alike other room := ⟨alike.players.symm, alike.round.symm, alike.toggles.symm⟩

theorem trans {third : LiarsRoom} (first : Alike room other) (second : Alike other third) : Alike room third :=
  ⟨first.players.trans second.players, first.round.trans second.round, first.toggles.trans second.toggles⟩

theorem player (alike : Alike room other) (id : Nat) : (room.player id).map bare = (other.player id).map bare :=
  find?_alike alike.players fun _ => rfl

theorem living (alike : Alike room other) : room.living.map bare = other.living.map bare := by
  have kept (rows : List PlayerState) : (rows.filter (·.alive)).map bare = (rows.map bare).filter (·.alive) := by
    rw [filter_map]
    rfl
  rw [LiarsRoom.living, LiarsRoom.living, kept, kept, alike.players]

theorem change (alike : Alike room other) (id : Nat) {change change' : PlayerState → PlayerState} (plain : PlayerState → PlayerState)
    (first : ∀ row, bare (change row) = plain (bare row)) (second : ∀ row, bare (change' row) = plain (bare row)) :
    Alike (room.updatePlayer id change) (other.updatePlayer id change') := by
  have moved {change : PlayerState → PlayerState} (same : ∀ row, bare (change row) = plain (bare row)) (rows : List PlayerState) :
      (updateFirst rows (·.id == id) change).map bare = updateFirst (rows.map bare) (·.id == id) plain := by
    induction rows with
    | nil => rfl
    | cons row rows ih =>
      simp only [updateFirst, map_cons]
      have named : (bare row).id = row.id := rfl
      rw [named]
      split
      · rw [map_cons, same]
      · rw [map_cons, ih]
  refine ⟨?_, alike.round, alike.toggles⟩
  rw [LiarsRoom.updatePlayer, LiarsRoom.updatePlayer, moved first, moved second, alike.players]

theorem updatePlayer (alike : Alike room other) {id : Nat} {change : PlayerState → PlayerState} (seen : ∀ row, bare (change row) = change (bare row)) :
    Alike (room.updatePlayer id change) (other.updatePlayer id change) := alike.change id change seen seen

theorem kill (alike : Alike room other) (id : Nat) (cause : LiarsDeathCause) : Alike (room.kill id cause) (other.kill id cause) := by
  unfold LiarsRoom.kill
  rw [alike.round, alike.toggles]
  exact alike.updatePlayer fun _ => rfl

end Alike

structure SameNight (night other : NightOutcome) : Prop where
  room : Alike night.room other.room
  deaths : night.deaths = other.deaths
  testimony : night.testimony = other.testimony

end

section
variable {outcome others : NightOutcome} {plan second : NightPlan} {target also attacker assailant : PlayerState}

def seen (attacks : List (Nat × PlayerState × Bool)) : List (Nat × String × Bool) := attacks.map fun attack => (attack.1, attack.2.1.name, attack.2.2)

/-- Plans that attacks cannot tell apart. -/
structure SamePlan (plan second : NightPlan) : Prop where
  savedId : plan.savedId = second.savedId
  bodyguardId : plan.bodyguardId = second.bodyguardId
  guardedId : plan.guardedId = second.guardedId
  escortId : plan.escortId = second.escortId
  escortTargetId : plan.escortTargetId = second.escortTargetId
  vigilanteId : plan.vigilanteId = second.vigilanteId
  attacks : seen plan.attacks = seen second.attacks

theorem deathOf_alike {other : LiarsRoom} (alike : Alike room other) (equal : bare target = bare also) : room.deathOf target = other.deathOf also := by
  have id : target.id = also.id := column_alike PlayerState.id (fun _ => rfl) equal
  have name : target.name = also.name := column_alike PlayerState.name (fun _ => rfl) equal
  have role : target.role = also.role := column_alike PlayerState.role (fun _ => rfl) equal
  rw [deathOf, deathOf, id, name, role, alike.toggles]

namespace SameNight

theorem escortDies (same : SameNight outcome others) (plans : SamePlan plan second) (equal : bare target = bare also)
    (name : attacker.name = assailant.name) : SameNight (escortDies plan attacker target outcome) (LiarsRoom.escortDies second assailant also others) := by
  have id : target.id = also.id := column_alike PlayerState.id (fun _ => rfl) equal
  unfold LiarsRoom.escortDies
  rw [← plans.escortId, ← plans.escortTargetId, ← id, ← name]
  have found : (plan.escortId.bind outcome.room.player).map bare = (plan.escortId.bind others.room.player).map bare := by
    cases plan.escortId with
    | none => rfl
    | some escort => exact same.room.player escort
  rcases cases_of_map found with ⟨none, none'⟩ | ⟨escort, escort', found, found', equal⟩
  · rw [none, none']
    exact same
  · have escortId : escort.id = escort'.id := column_alike PlayerState.id (fun _ => rfl) equal
    have escortName : escort.name = escort'.name := column_alike PlayerState.name (fun _ => rfl) equal
    have alive : escort.alive = escort'.alive := column_alike PlayerState.alive (fun _ => rfl) equal
    rw [found, found']
    simp only [escortId, escortName, alive]
    split
    · exact same
    · refine ⟨(same.room.kill escort'.id .killed).updatePlayer fun _ => rfl, ?_, ?_⟩
      · rw [same.deaths, same.room.toggles]
      · rw [same.testimony]

theorem strike (same : SameNight outcome others) (plans : SamePlan plan second) (equal : bare target = bare also)
    (name : attacker.name = assailant.name) (fromMafia : Bool) :
    SameNight (strike plan target attacker fromMafia outcome) (LiarsRoom.strike second also assailant fromMafia others) := by
  have id : target.id = also.id := column_alike PlayerState.id (fun _ => rfl) equal
  have called : target.name = also.name := column_alike PlayerState.name (fun _ => rfl) equal
  have role : target.role = also.role := column_alike PlayerState.role (fun _ => rfl) equal
  unfold LiarsRoom.strike
  rw [← plans.savedId, ← plans.bodyguardId, ← plans.guardedId, ← plans.vigilanteId, ← id, ← called]
  split
  · exact ⟨same.room.updatePlayer fun _ => rfl, by rw [same.deaths], same.testimony⟩
  · have guards : ((plan.bodyguardId.bind outcome.room.player).filter fun guard => plan.guardedId == some target.id && guard.alive).map bare =
        ((plan.bodyguardId.bind others.room.player).filter fun guard => plan.guardedId == some target.id && guard.alive).map bare := by
      refine filter_alike ?_ fun _ => rfl
      cases plan.bodyguardId with
      | none => rfl
      | some guard => exact same.room.player guard
    rcases cases_of_map guards with ⟨none, none'⟩ | ⟨guard, guard', found, found', equalGuard⟩
    · rw [none, none']
      have killed : SameNight { outcome with room := outcome.room.kill target.id .killed, deaths := outcome.deaths ++ [outcome.room.deathOf target] }
          { others with room := others.room.kill target.id .killed, deaths := others.deaths ++ [others.room.deathOf also] } :=
        ⟨same.room.kill target.id .killed, by rw [same.deaths, deathOf_alike same.room equal], same.testimony⟩
      have after := killed.escortDies plans equal name
      have played : target.played = also.played := by rw [PlayerState.played, PlayerState.played, role]
      rw [played]
      cases plan.vigilanteId with
      | none => exact after
      | some =>
        dsimp only
        split
        · exact ⟨after.room.updatePlayer fun _ => rfl, after.deaths, after.testimony⟩
        · exact after
    · have guardId : guard.id = guard'.id := column_alike PlayerState.id (fun _ => rfl) equalGuard
      have guardName : guard.name = guard'.name := column_alike PlayerState.name (fun _ => rfl) equalGuard
      rw [found, found']
      simp only [guardId, guardName]
      exact ⟨same.room.kill guard'.id .bodyguard, by rw [same.deaths], same.testimony⟩

theorem escortSees (same : SameNight outcome others) (plans : SamePlan plan second) (equal : bare target = bare also) {ctx' : GameContext} :
    SameNight { outcome with room := escortSees ctx plan target attacker outcome.room }
      { others with room := LiarsRoom.escortSees ctx' second also assailant others.room } := by
  have named : target.id = also.id := column_alike PlayerState.id (fun _ => rfl) equal
  refine ⟨?_, same.deaths, same.testimony⟩
  unfold LiarsRoom.escortSees
  rw [← plans.escortId, ← plans.escortTargetId, ← named]
  cases plan.escortId with
  | none => exact same.room
  | some escort =>
    dsimp only
    split
    · exact same.room
    · exact same.room.change escort id (fun _ => rfl) fun _ => rfl

theorem resolveAttack (same : SameNight outcome others) (plans : SamePlan plan second) {attack attack' : Nat × PlayerState × Bool}
    (alike : (attack.1, attack.2.1.name, attack.2.2) = (attack'.1, attack'.2.1.name, attack'.2.2)) :
    SameNight (resolveAttack ctx plan outcome attack) (LiarsRoom.resolveAttack ctx second others attack') := by
  obtain ⟨targetId, attacker, fromMafia⟩ := attack
  obtain ⟨targetId', assailant, fromMafia'⟩ := attack'
  simp only [Prod.mk.injEq] at alike
  obtain ⟨rfl, name, rfl⟩ := alike
  simp only [LiarsRoom.resolveAttack]
  rw [← plans.escortId, ← plans.escortTargetId]
  rcases cases_of_map (filter_alike (p := fun row => row.alive) (same.room.player targetId) fun _ => rfl) with
    ⟨none, none'⟩ | ⟨target, also, found, found', equal⟩
  · rw [none, none']
    exact same
  · rw [found, found']
    have id : target.id = also.id := column_alike PlayerState.id (fun _ => rfl) equal
    simp only [id]
    split
    · exact same
    · exact (same.escortSees plans equal).strike plans equal name fromMafia

theorem attacked (same : SameNight outcome others) (plans : SamePlan plan second) {attacks more : List (Nat × PlayerState × Bool)}
    (alike : seen attacks = seen more) :
    SameNight (attacks.foldl (LiarsRoom.resolveAttack ctx plan) outcome) (more.foldl (LiarsRoom.resolveAttack ctx second) others) := by
  induction attacks generalizing more outcome others with
  | nil =>
    cases map_eq_nil_iff.mp alike.symm
    exact same
  | cons attack attacks ih =>
    cases more with
    | nil => cases alike
    | cons =>
      obtain ⟨first, rest⟩ := List.cons.inj alike
      exact ih (same.resolveAttack plans first) rest

theorem resolveGuilt (same : SameNight outcome others) : SameNight (resolveGuilt outcome) (LiarsRoom.resolveGuilt others) := by
  unfold LiarsRoom.resolveGuilt
  rcases cases_of_map (find?_alike (p := fun row => row.guiltPending) same.room.living fun _ => rfl) with
    ⟨none, none'⟩ | ⟨guilty, guilty', found, found', equal⟩
  · rw [none, none']
    exact same
  · have id : guilty.id = guilty'.id := column_alike PlayerState.id (fun _ => rfl) equal
    have name : guilty.name = guilty'.name := column_alike PlayerState.name (fun _ => rfl) equal
    have used : guilty.vigilanteUsed = guilty'.vigilanteUsed := column_alike PlayerState.vigilanteUsed (fun _ => rfl) equal
    have round : guilty.deathRound = guilty'.deathRound := column_alike PlayerState.deathRound (fun _ => rfl) equal
    rw [found, found']
    simp only [id, name, used, round, same.room.round]
    split
    · exact ⟨same.room.kill guilty'.id .guilt, by rw [same.deaths], same.testimony⟩
    · exact same

end SameNight

end

section
variable {free : Nat → Option Nat} {a b : Option PlayerState} {row : PlayerState}

/-- Whom the holder of a power acts on, once what is blocked is left out. -/
def acts (free : Nat → Option Nat) (holder : Option PlayerState) : Option Nat := holder.bind fun row => free row.id

theorem unblocked_acts {blocked : Option Nat} {holder : Option PlayerState}
    (chose : ∀ row ∈ holder, row.nightTarget = choice row.id) (cancels : ∀ id, free id = if some id = blocked then none else choice id) :
    (holder.filter fun row => some row.id != blocked).bind (·.nightTarget) = acts free holder := by
  cases holder with
  | none => rfl
  | some row =>
    rw [acts, filter_some, bind_some, cancels]
    by_cases same : some row.id = blocked
    · simp [same]
    · rw [if_pos (by simpa using same), if_neg same, bind_some, chose row rfl]

theorem acts_alike (same : a.map bare = b.map bare) : acts free a = acts free b := by
  rcases cases_of_map same with ⟨rfl, rfl⟩ | ⟨x, y, rfl, rfl, equal⟩
  · rfl
  · rw [acts, acts, bind_some, bind_some, column_alike PlayerState.id (fun _ => rfl) equal]

theorem roleHolder_alike (alike : Alike room other) (role : LiarsRole) : (room.roleHolder role).map bare = (other.roleHolder role).map bare :=
  find?_alike alike.living fun _ => rfl

theorem mafiaCaller_alike (alike : Alike room other) : room.mafiaCaller.map bare = other.mafiaCaller.map bare := by
  have kept (rows : List PlayerState) : (rows.filter (·.isMafia)).map bare = (rows.map bare).filter (·.isMafia) := by
    rw [filter_map]
    rfl
  have mafia : (room.living.filter (·.isMafia)).map bare = (other.living.filter (·.isMafia)).map bare := by rw [kept, kept, alike.living]
  have sorted (rows : List PlayerState) : (orderBy (fun a b => a.joinedAt ≤ b.joinedAt) rows).map bare = orderBy (fun a b => a.joinedAt ≤ b.joinedAt) (rows.map bare) :=
    List.map_insertionSort _ _ _ _ fun _ _ _ _ => Iff.rfl
  have eldest (rows : List PlayerState) : (orderBy (fun a b => a.joinedAt ≤ b.joinedAt) rows).head?.map bare =
      (orderBy (fun a b => a.joinedAt ≤ b.joinedAt) (rows.map bare)).head? := by
    rw [← List.head?_map, sorted]
  unfold mafiaCaller
  dsimp only
  have first := find?_alike (p := fun row : PlayerState => row.role == some .godfather) mafia fun _ => rfl
  rcases cases_of_map first with ⟨none, none'⟩ | ⟨x, y, found, found', equal⟩
  · rw [none, none', none_or, none_or, eldest, eldest, mafia]
  · rw [found, found', some_or, some_or]
    exact congrArg some equal

theorem mem_mafiaCaller (called : row ∈ room.mafiaCaller) : row ∈ room.living := by
  rcases Option.or_eq_some_iff.mp called with found | ⟨-, found⟩
  · exact mem_of_mem_filter (mem_of_find?_eq_some found)
  · exact mem_of_mem_filter ((perm_insertionSort _ _).mem_iff.mp (List.mem_of_head? found))

theorem mem_roleHolder {role : LiarsRole} (holds : row ∈ room.roleHolder role) : row ∈ room.living :=
  mem_of_find?_eq_some holds

def attackOf (free : Nat → Option Nat) (fromMafia : Bool) (holder : Option PlayerState) : List (Nat × String × Bool) :=
  (holder.bind fun row => (free row.id).map fun target => (target, row.name, fromMafia)).toList

theorem unblocked_attack {blocked : Option Nat} {holder : Option PlayerState}
    (chose : ∀ row ∈ holder, row.nightTarget = choice row.id) (cancels : ∀ id, free id = if some id = blocked then none else choice id) (fromMafia : Bool) :
    seen ((holder.filter fun row => some row.id != blocked).bind fun row => row.nightTarget.map fun target => (target, row, fromMafia)).toList =
      attackOf free fromMafia holder := by
  cases holder with
  | none => rfl
  | some row =>
    have freed : free row.id = _ := (unblocked_acts chose cancels).symm
    rw [attackOf, bind_some, freed, filter_some]
    split
    · rw [bind_some, bind_some]
      cases row.nightTarget <;> rfl
    · rfl

theorem attackOf_alike {fromMafia : Bool} (same : a.map bare = b.map bare) :
    attackOf free fromMafia a = attackOf free fromMafia b := by
  rcases cases_of_map same with ⟨rfl, rfl⟩ | ⟨x, y, rfl, rfl, equal⟩
  · rfl
  · rw [attackOf, attackOf, bind_some, bind_some, column_alike PlayerState.id (fun _ => rfl) equal,
      column_alike PlayerState.name (fun _ => rfl) equal]

theorem nightPlan_acts (chose : ∀ row ∈ room.living, row.nightTarget = choice row.id)
    (cancels : ∀ id, free id = if some id = (room.roleHolder .jammer).bind (·.nightTarget) then none else choice id) :
    room.nightPlan.savedId = acts free (room.roleHolder .doctor) ∧ room.nightPlan.guardedId = acts free (room.roleHolder .bodyguard) ∧
      room.nightPlan.escortTargetId = acts free (room.roleHolder .escort) ∧
        seen room.nightPlan.attacks =
          attackOf free true room.mafiaCaller ++ attackOf free false ((room.roleHolder .vigilante).filter (!·.vigilanteUsed)) := by
  refine ⟨unblocked_acts (fun row holds => chose row (mem_roleHolder holds)) cancels, unblocked_acts (fun row holds => chose row (mem_roleHolder holds)) cancels,
    unblocked_acts (fun row holds => chose row (mem_roleHolder holds)) cancels, ?_⟩
  have swapped (holder : Option PlayerState) (p q : PlayerState → Bool) : (holder.filter p).filter q = (holder.filter q).filter p := by
    cases holder with
    | none => rfl
    | some row =>
      cases first : p row <;> cases second : q row <;> simp [first, second, filter_some]
  unfold nightPlan seen
  rw [map_append, swapped]
  have mafia := unblocked_attack (fun row called => chose row (mem_mafiaCaller called)) cancels true
  have shot := @unblocked_attack choice free _ ((room.roleHolder .vigilante).filter (!·.vigilanteUsed))
    (fun row holds => chose row (mem_roleHolder (filter_eq_some_iff.mp holds).1)) cancels false
  rw [← mafia, ← shot]
  rfl

theorem samePlan (alike : Alike room other) {choice' : Nat → Option Nat} (chose : ∀ row ∈ room.living, row.nightTarget = choice row.id)
    (chose' : ∀ row ∈ other.living, row.nightTarget = choice' row.id)
    (cancels : ∀ id, free id = if some id = (room.roleHolder .jammer).bind (·.nightTarget) then none else choice id)
    (cancels' : ∀ id, free id = if some id = (other.roleHolder .jammer).bind (·.nightTarget) then none else choice' id) :
    SamePlan room.nightPlan other.nightPlan := by
  obtain ⟨saved, guarded, stays, attacks⟩ := nightPlan_acts chose cancels
  obtain ⟨saved', guarded', stays', attacks'⟩ := nightPlan_acts chose' cancels'
  have ids {role : LiarsRole} : (room.roleHolder role).map (·.id) = (other.roleHolder role).map (·.id) := by
    rcases cases_of_map (roleHolder_alike alike role) with ⟨none, none'⟩ | ⟨x, y, found, found', equal⟩
    · rw [none, none']
    · rw [found, found', map_some, map_some, column_alike PlayerState.id (fun _ => rfl) equal]
  refine ⟨?_, ids, ?_, ids, ?_, ids, ?_⟩
  · rw [saved, saved', acts_alike (roleHolder_alike alike _)]
  · rw [guarded, guarded', acts_alike (roleHolder_alike alike _)]
  · rw [stays, stays', acts_alike (roleHolder_alike alike _)]
  · refine attacks.trans (Eq.trans ?_ attacks'.symm)
    rw [attackOf_alike (mafiaCaller_alike alike),
      attackOf_alike (filter_alike (p := fun row => !row.vigilanteUsed) (roleHolder_alike alike .vigilante) fun _ => rfl)]

end

section
variable {cards ends : GameContext} {player : PlayerState} {first last choice : Nat → Option Nat}

theorem chosen_alike (room : LiarsRoom) (choice : Nat → Option Nat) : Alike (room.chosen choice) room := ⟨map_map .., rfl, rfl⟩

theorem withReport_bare (room : LiarsRoom) (row : PlayerState) : bare (room.withReport ctx row) = bare row := by
  unfold withReport
  dsimp only
  split <;> rfl

theorem writeNightReports_alike (ctx : GameContext) (room : LiarsRoom) : Alike (room.writeNightReports ctx) room := by
  unfold writeNightReports
  dsimp only
  split
  · exact ⟨map_update fun row => withReport_bare room row, rfl, rfl⟩
  · exact ⟨rfl, rfl, rfl⟩

theorem interrupt_alike (room : LiarsRoom) (blockedId : Option Nat) : Alike (room.interrupt blockedId) room := ⟨map_update fun _ => rfl, rfl, rfl⟩

theorem nightOutcome_same (alike : Alike room other)
    (plans : SamePlan (room.writeNightReports ctx).nightPlan (other.writeNightReports ctx).nightPlan) :
    SameNight (room.nightOutcome ctx) (other.nightOutcome ctx) := by
  have written : Alike (room.writeNightReports ctx) (other.writeNightReports ctx) :=
    ((writeNightReports_alike ctx room).trans alike).trans (writeNightReports_alike ctx other).symm
  unfold nightOutcome
  dsimp only
  generalize room.writeNightReports ctx = cards at plans written ⊢
  generalize other.writeNightReports ctx = cards' at plans written ⊢
  have shots : cards.nightPlan.attacks.any (!·.2.2) = cards'.nightPlan.attacks.any (!·.2.2) := by
    have visible (attacks : List (Nat × PlayerState × Bool)) : attacks.any (!·.2.2) = (seen attacks).any (!·.2.2) := by
      rw [seen, List.any_map]
      rfl
    rw [visible, visible, plans.attacks]
  have interrupted : Alike (cards.interrupt cards.nightPlan.blockedId) (cards'.interrupt cards'.nightPlan.blockedId) :=
    ((interrupt_alike cards _).trans written).trans (interrupt_alike cards' _).symm
  rw [shots, ← plans.vigilanteId]
  refine SameNight.resolveGuilt (SameNight.attacked ?_ plans plans.attacks)
  refine ⟨?_, rfl, rfl⟩
  split
  · cases cards.nightPlan.vigilanteId with
    | none => exact interrupted
    | some => exact interrupted.updatePlayer fun _ => rfl
  · exact interrupted

theorem target_written {row : PlayerState} (mem : row ∈ ((room.chosen choice).writeNightReports ctx).players) :
    row.nightTarget = choice row.id := by
  have chose : ∀ row ∈ (room.chosen choice).players, row.nightTarget = choice row.id := by
    intro row listed
    obtain ⟨old, -, rfl⟩ := mem_map.mp listed
    rfl
  unfold writeNightReports at mem
  dsimp only at mem
  split at mem
  · obtain ⟨old, listed, same⟩ := mem_update.mp mem
    have before := chose old listed
    rw [same]
    split
    · simp only [withReport]
      split <;> exact before
    · exact before
  · exact chose row mem

def dawning (room : LiarsRoom) (cards ends : GameContext) (first last : Nat → Option Nat) : LiarsRoom :=
  (((room.chosen first).writeNightReports cards).chosen last).writeNightReports ends

theorem dawning_alike (room : LiarsRoom) (cards ends : GameContext) (first last : Nat → Option Nat) : Alike (room.dawning cards ends first last) room :=
  (((writeNightReports_alike ends _).trans (chosen_alike _ last)).trans (writeNightReports_alike cards _)).trans (chosen_alike room first)

theorem staying_cancels {jammerId blockedId : Nat} (blocks : choice jammerId = some blockedId) (id : Nat) :
    staying blockedId choice id = if some id = staying blockedId choice jammerId then none else staying blockedId choice id := by
  by_cases own : id = blockedId
  · rw [staying, if_pos own, ite_self]
  · rw [if_neg]
    rw [staying]
    split
    · exact some_ne_none _
    · rw [blocks]
      exact fun same => own (some.inj same)

theorem jam_cancels (jams : Jams room last player)
    (chose : choice = last ∨ choice = staying player.id last) (id : Nat) :
    staying player.id last id = if some id = ((room.dawning cards ends first choice).roleHolder .jammer).bind (·.nightTarget) then none else choice id := by
  obtain ⟨jammer, holds, blocks⟩ := jams.jammer
  have blocked : ((room.dawning cards ends first choice).roleHolder .jammer).bind (·.nightTarget) = choice jammer.id := by
    have alike := roleHolder_alike (dawning_alike room cards ends first choice) .jammer
    rw [holds] at alike
    rcases cases_of_map alike with ⟨-, none⟩ | ⟨x, y, found, same, equal⟩
    · cases none
    · cases same
      rw [found, bind_some, target_written (mem_of_mem_filter (mem_roleHolder found)), column_alike PlayerState.id (fun _ => rfl) equal]
  rw [blocked]
  rcases chose with rfl | rfl
  · rw [blocks, staying]
    simp
  · exact staying_cancels blocks id

theorem night_plans (jams : Jams room last player) :
    SamePlan (room.dawning cards ends first last).nightPlan (room.dawning cards ends (staying player.id first) (staying player.id last)).nightPlan :=
  samePlan ((dawning_alike room ..).trans (dawning_alike room ..).symm) (fun _ listed => target_written (mem_of_mem_filter listed))
    (fun _ listed => target_written (mem_of_mem_filter listed)) (jam_cancels jams (.inl rfl)) (jam_cancels jams (.inr rfl))

theorem night_same (jams : Jams room last player) :
    SameNight (room.night cards ends first last) (room.night cards ends (staying player.id first) (staying player.id last)) := by
  have ready (first last : Nat → Option Nat) : Alike (((room.chosen first).writeNightReports cards).chosen last) room :=
    ((chosen_alike _ last).trans (writeNightReports_alike cards _)).trans (chosen_alike room first)
  exact nightOutcome_same ((ready first last).trans (ready (staying player.id first) (staying player.id last)).symm) (night_plans jams)

theorem inside_jammed (jams : Jams room last player)
    (chose : choice = last ∨ choice = staying player.id last) (escorts : (room.dawning cards ends first choice).nightPlan.escortId = some player.id) :
    (room.dawning cards ends first choice).nightPlan.escortTargetId = none := by
  have escorted := (@nightPlan_acts (room.dawning cards ends first choice) choice _
    (fun _ listed => target_written (mem_of_mem_filter listed)) (jam_cancels jams chose)).2.2.1
  rw [escorted]
  obtain ⟨escort, holds, named⟩ := map_eq_some_iff.mp escorts
  rw [holds, acts, bind_some, named, staying, if_pos rfl]

end

theorem learned_nightOutcome {id : Nat}
    (inside : (room.writeNightReports ctx).nightPlan.escortId = some id → (room.writeNightReports ctx).nightPlan.escortTargetId = none) :
    (room.nightOutcome ctx).room.learned id = (room.writeNightReports ctx).learned id := by
  have pairs := (nightOutcome_night ctx room).pairs
    (r := fun old new => new.id = old.id ∧ (old.id = id → new.report = old.report ∧
      new.knowledge.filter (·.text ≠ "your night was interrupted") = old.knowledge.filter (·.text ≠ "your night was interrupted")))
    (fun _ => ⟨rfl, fun _ => ⟨rfl, rfl⟩⟩) (fun old new newest first second => ?_) fun row new touched => ?_
  · refine (map_find?_pairs pairs (fun row new pair => by rw [pair.1]) fun row new pair same => ?_).symm
    obtain ⟨report, knowledge⟩ := pair.2 (eq_of_beq same)
    rw [report, knowledge]
  · refine ⟨second.1.trans first.1, fun same => ?_⟩
    obtain ⟨report, knowledge⟩ := first.2 same
    obtain ⟨report', knowledge'⟩ := second.2 (first.1.trans same)
    exact ⟨report'.trans report, knowledge'.trans knowledge⟩
  · cases touched with
    | interrupted => exact ⟨rfl, fun _ => ⟨rfl, by simp [remember]⟩⟩
    | sees known out =>
      refine ⟨rfl, fun same => ?_⟩
      rw [inside (same ▸ known)] at out
      cases out
    | _ => exact ⟨rfl, fun _ => ⟨rfl, rfl⟩⟩

theorem player_chosen (room : LiarsRoom) (choice : Nat → Option Nat) (id : Nat) :
    (room.chosen choice).player id = (room.player id).map fun row => { row with nightTarget := choice row.id } := find?_map ..

theorem player_writeNightReports (ctx : GameContext) (room : LiarsRoom) (id : Nat) :
    (room.writeNightReports ctx).player id = (room.player id).map fun row => if row.alive && row.report.isNone then room.withReport ctx row else row := by
  unfold writeNightReports
  dsimp only
  split
  · refine find?_update fun row _ => ?_
    exact congrArg (· == id) (column_alike PlayerState.id (fun _ => rfl) (withReport_bare room row))
  · next written =>
    cases found : room.player id with
    | none => rfl
    | some row =>
      have written : (row.alive && row.report.isNone) = false :=
        eq_false_iff.mpr (any_eq_false.mp (eq_false_iff.mpr written) row (mem_of_find?_eq_some found))
      rw [map_some, written]
      rfl

def learnedFrom (room : LiarsRoom) (player : PlayerState) : Learned :=
  let target := player.nightTarget.bind room.player
  let (line, glyph, remembered) := room.reportLine player target
  let knowledge := if remembered then player.knowledge ++ [{ round := room.round, subjectName := target.map (·.name), text := line }] else player.knowledge
  { line := some (line, glyph), knowledge := knowledge.filter (·.text ≠ "your night was interrupted") }

theorem learned_night {player : PlayerState} (seated : room.player player.id = some player)
    (alive : player.alive) (unwritten : player.report = none)
    (inside : (room.dawning cards ends first last).nightPlan.escortId = some player.id →
      (room.dawning cards ends first last).nightPlan.escortTargetId = none) :
    (room.night cards ends first last).room.learned player.id =
      some ((room.chosen first).learnedFrom { player with nightTarget := first player.id }) := by
  rw [night, learned_nightOutcome inside, learned, player_writeNightReports, player_chosen, player_writeNightReports, player_chosen, seated]
  simp only [map_some, alive, unwritten, Option.isNone_none, Bool.and_self, if_true, withReport, learnedFrom]
  generalize (room.chosen first).reportLine _ _ = card
  obtain ⟨line, glyph, remembered⟩ := card
  cases remembered <;> simp [remember]

theorem reportLine_some (room : LiarsRoom) (player target : PlayerState) : (room.reportLine player (some target)).1 ≠ "you stayed in" := by
  have visited (names : List String) : joinNames names ++ " came to their door" ≠ "you stayed in" := by
    intro same
    have length := congrArg String.length same
    rw [String.length_append] at length
    have least : (" came to their door" : String).length = 19 := by decide
    have stayed : ("you stayed in" : String).length = 13 := by decide
    omega
  have verb (role : LiarsRole) : (liarsRoles role).reportVerb.getD "you held" ≠ "you stayed in" := by cases role <;> decide
  unfold reportLine
  dsimp only
  split
  · split <;> decide
  · split
    · decide
    · exact visited _
  · split <;> decide
  · split <;> decide
  · exact verb _

/-- Beside the night in which the jammer's target chooses nobody: the same deaths, the same saves and guards and the same records, and the same cards
and knowledge for the target exactly if they had chosen nobody of the room when the cards were written. -/
theorem jammed_nights {player : PlayerState} (jams : Jams room last player) :
    SameNight (room.night cards ends first last) (room.night cards ends (staying player.id first) (staying player.id last)) ∧
      SamePlan (room.dawning cards ends first last).nightPlan (room.dawning cards ends (staying player.id first) (staying player.id last)).nightPlan ∧
        ((room.night cards ends first last).room.learned player.id =
            (room.night cards ends (staying player.id first) (staying player.id last)).room.learned player.id ↔
          (first player.id).bind room.player = none) := by
  refine ⟨night_same jams, night_plans jams, ?_⟩
  rw [learned_night jams.seated jams.alive jams.unwritten (inside_jammed jams (.inl rfl)),
    learned_night jams.seated jams.alive jams.unwritten (inside_jammed jams (.inr rfl))]
  have stays : staying player.id first player.id = none := if_pos rfl
  have there : (first player.id).bind (room.chosen first).player = none ↔ (first player.id).bind room.player = none := by
    cases first player.id with
    | none => rfl
    | some => rw [bind_some, bind_some, player_chosen, map_eq_none_iff]
  rw [stays, ← there]
  simp only [learnedFrom, Option.bind_none]
  cases (first player.id).bind (room.chosen first).player with
  | none => simp [reportLine]
  | some =>
    refine iff_of_false (fun same => ?_) (some_ne_none _)
    have line := congrArg Learned.line (some.inj same)
    exact reportLine_some _ _ _ (congrArg Prod.fst (some.inj line))

theorem jams_of {id : Nat} (jammer : (room.roleHolder .jammer).any fun row => last row.id == some id)
    (seated : (room.player id).any fun row => row.alive && row.report.isNone) : ∃ player, player.id = id ∧ room.Jams last player := by
  obtain ⟨holder, holds, targets⟩ := (Option.any_eq_true _ _).mp jammer
  obtain ⟨player, found, fits⟩ := (Option.any_eq_true _ _).mp seated
  simp only [and_eq_true, isNone_iff_eq_none] at fits
  have named : player.id = id := player_id found
  exact ⟨player, named, ⟨holder, holds, by rw [named]; exact eq_of_beq targets⟩, by rw [named]; exact found, fits.1, fits.2⟩

/-- The first night of twelve players, before its cards. -/
def twelve : LiarsRoom :=
  runFrom Command.apply (lobbyOf .mafia {} ["Ada", "Bo", "Cy", "Di", "Em", "Flo", "Gus", "Hal", "Ida", "Jo", "Kit", "Lou"])
    [.byHost 2 1 (.start []), .read (.plain 20000) (.token 0) none, .read (.plain 30000) (.token 0) none]

/-- The jammer, who is 4, blocks the detective, who is 8 and looks at the mafia, who are 2. -/
def investigation (id : Nat) : Option Nat := if id = 4 then some 8 else if id = 8 then some 2 else none

theorem jammed_detective_learns : ∃ player, twelve.Jams investigation player ∧
    (twelve.night (.plain 70000) (.plain 80000) investigation investigation).room.learned player.id ≠
      (twelve.night (.plain 70000) (.plain 80000) (staying player.id investigation) (staying player.id investigation)).room.learned player.id := by
  obtain ⟨player, named, jams⟩ := @jams_of twelve investigation 8 (by decide +kernel) (by decide +kernel)
  refine ⟨player, jams, ?_⟩
  rw [named]
  decide +kernel

/-- The detective who looks at nobody learns nothing more. -/
theorem jammed_nights_twelve :
    let idle := staying 8 investigation
    ∃ player : PlayerState, player.id = 8 ∧ (twelve.night (.plain 70000) (.plain 80000) idle investigation).room.learned player.id =
      (twelve.night (.plain 70000) (.plain 80000) (staying player.id idle) (staying player.id investigation)).room.learned player.id := by
  obtain ⟨player, named, jams⟩ := @jams_of twelve investigation 8 (by decide +kernel) (by decide +kernel)
  refine ⟨player, named, (jammed_nights jams).2.2.mpr ?_⟩
  rw [named]
  rfl

end LiarsRoom

end MilkAndHenny.Liars

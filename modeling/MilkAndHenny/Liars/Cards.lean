import MilkAndHenny.Liars.Contested

/-! The cards of a night beside the morning. They are written once, ten seconds before the night ends, but a choice
can be changed until it does. -/

namespace MilkAndHenny.Liars
open Library

variable {room : LiarsRoom} {ctx : GameContext} {now : Int} {other : LiarsRoom} {new : PlayerState}

/-- What a card says of whom. -/
def LiarsNightReport.tells (report : LiarsNightReport) : Option String × String × Option Glyph := (report.subjectName, report.line, report.glyph)

namespace LiarsRoom

section
variable {other : LiarsRoom}

def cardFor (room : LiarsRoom) (player : PlayerState) : Option String × String × Option Glyph :=
  let target := player.nightTarget.bind room.player
  let (line, glyph, _) := room.reportLine player target
  (target.map (·.name), line, glyph)

/-- What cards are written from. -/
def face (player : PlayerState) : Nat × String × Option LiarsRole × Bool × Option Nat :=
  (player.id, player.name, player.role, player.alive, player.nightTarget)

variable (faces : room.players.map face = other.players.map face)
include faces

theorem player_faces (id : Nat) : (room.player id).map face = (other.player id).map face :=
  @find?_column _ other.players _ face room.players (·.id == id) (·.1 == id) (fun _ => rfl) faces

theorem visitors_faces (id : Nat) : (room.visitorsOf id).map (·.name) = (other.visitorsOf id).map (·.name) := by
  have names (players : List PlayerState) :
      ((players.filter (·.alive)).filter fun row => row.id != id && row.nightTarget == some id && liarsActionMoves row.played row.nightTarget).map (·.name) =
        (((players.map face).filter (·.2.2.2.1)).filter fun row =>
          row.1 != id && row.2.2.2.2 == some id && liarsActionMoves (row.2.2.1.getD .villager) row.2.2.2.2).map (·.2.1) := by
    rw [filter_map, filter_map, map_map]
    rfl
  rw [visitorsOf, living, names, faces, ← names, visitorsOf, living]

theorem cardFor_faces {row also : PlayerState} (same : face row = face also) :
    room.cardFor row = other.cardFor also := by
  have played {a b : PlayerState} (same : face a = face b) : a.played = b.played := congrArg (fun seen => seen.2.2.1.getD .villager) same
  have target : row.nightTarget = also.nightTarget := congrArg (·.2.2.2.2) same
  have targets : (row.nightTarget.bind room.player).map face = (also.nightTarget.bind other.player).map face := by
    rw [← target]
    cases row.nightTarget with
    | none => rfl
    | some id => exact player_faces faces id
  unfold cardFor reportLine
  rw [played same]
  rcases cases_of_map targets with ⟨none, none'⟩ | ⟨watched, seen, there, there', equal⟩
  · rw [none, none']
  · have id : watched.id = seen.id := congrArg (·.1) equal
    have name : watched.name = seen.name := congrArg (·.2.1) equal
    have chose : watched.nightTarget = seen.nightTarget := congrArg (·.2.2.2.2) equal
    rw [there, there']
    simp [id, name, chose, played equal, visitors_faces faces]

end

/-- Every card of a living player says what the choices say that stand. -/
def Written (room : LiarsRoom) : Prop := ∀ row ∈ room.players, row.alive → ∀ report ∈ row.report, report.tells = room.cardFor row

/-- What cards are written from, and the cards. -/
def shown (player : PlayerState) : (Nat × String × Option LiarsRole × Bool × Option Nat) × Option LiarsNightReport := (face player, player.report)

theorem Written.congr (written : room.Written) (same : other.players.map shown = room.players.map shown) : other.Written := by
  have faces : other.players.map face = room.players.map face := by
    have seen := congrArg (List.map Prod.fst) same
    rwa [map_map, map_map] at seen
  intro row mem alive report reported
  obtain ⟨old, listed, equal⟩ := mem_map.mp (same ▸ mem_map_of_mem (f := shown) mem)
  have face : face old = face row := congrArg Prod.fst equal
  have living : old.alive = row.alive := congrArg (·.2.2.2.1) face
  have cards : old.report = row.report := congrArg Prod.snd equal
  rw [← cardFor_faces faces.symm face]
  exact written old listed (living.trans alive) report (cards ▸ reported)

theorem written_blank (blank : ∀ row ∈ room.players, row.alive → row.report = none) : room.Written := by
  intro row mem alive report reported
  rw [blank row mem alive] at reported
  cases reported

theorem face_withReport (row : PlayerState) : face (room.withReport ctx row) = face row := by
  unfold withReport
  dsimp only
  split <;> rfl

theorem tells_withReport (row : PlayerState) : (room.withReport ctx row).report.map LiarsNightReport.tells = some (room.cardFor row) := by
  rfl

theorem writeNightReports_faces : (room.writeNightReports ctx).players.map face = room.players.map face := by
  unfold writeNightReports
  dsimp only
  split
  · exact map_update face_withReport
  · rfl

theorem Written.everyone (written : room.Written) {row : PlayerState} (mem : row ∈ (room.writeNightReports ctx).players) (alive : row.alive) :
    row.report.map LiarsNightReport.tells = some ((room.writeNightReports ctx).cardFor row) := by
  have faces := @writeNightReports_faces room ctx
  have carded {old : PlayerState} (listed : old ∈ room.players) (alive : old.alive) (carded : ¬ (old.alive && old.report.isNone)) :
      old.report.map LiarsNightReport.tells = some (room.cardFor old) := by
    cases reported : old.report with
    | none => simp [alive, reported] at carded
    | some report => rw [map_some, written old listed alive report reported]
  generalize after : room.writeNightReports ctx = cards at mem faces ⊢
  unfold writeNightReports at after
  dsimp only at after
  split at after
  · rw [← after] at mem
    obtain ⟨old, listed, rfl⟩ := mem_update.mp mem
    split at alive
    · next unwritten =>
      rw [if_pos unwritten, tells_withReport, cardFor_faces faces (face_withReport old)]
    · next already =>
      rw [if_neg already, carded listed alive already, cardFor_faces faces rfl]
  · next nobody =>
    subst after
    exact carded mem alive fun unwritten => nobody (any_eq_true.mpr ⟨row, mem, unwritten⟩)

theorem Written.write (written : room.Written) : (room.writeNightReports ctx).Written := by
  intro row mem alive report reported
  have told := @Written.everyone room ctx written row mem alive
  rw [reported] at told
  exact some.inj told

section
variable {before after : LiarsRoom}

structure Aged (old new : PlayerState) : Prop where
  named : new.id = old.id
  called : new.name = old.name
  role : new.role = old.role
  chose : new.nightTarget = old.nightTarget
  card : old.role ≠ some .escort → new.report = old.report
  alive : new.alive → old.alive

theorem Aged.refl (row : PlayerState) : Aged row row := ⟨rfl, rfl, rfl, rfl, fun _ => rfl, id⟩

theorem Aged.trans {old newest : PlayerState} (first : Aged old new) (second : Aged new newest) : Aged old newest where
  named := second.named.trans first.named
  called := second.called.trans first.called
  role := second.role.trans first.role
  chose := second.chose.trans first.chose
  card other := (second.card (first.role ▸ other)).trans (first.card other)
  alive := first.alive ∘ second.alive

def Later (before after : LiarsRoom) : Prop := Forall₂ Aged before.players after.players

namespace Later

theorem player (later : Later before after) {id : Nat} (found : after.player id = some new) :
    ∃ old, before.player id = some old ∧ Aged old new :=
  partner_found later (fun _ _ aged => by rw [aged.named]) found

theorem visitorsOf (later : Later before after) (id : Nat) : ((after.visitorsOf id).map (·.name)).Sublist ((before.visitorsOf id).map (·.name)) := by
  unfold LiarsRoom.visitorsOf living
  rw [filter_filter, filter_filter]
  refine sublist_pairs later (fun old new aged visits => ?_) fun _ _ aged => aged.called
  simp only [and_eq_true] at visits ⊢
  rw [PlayerState.played, ← aged.named, ← aged.chose, ← aged.role]
  exact ⟨visits.1, aged.alive visits.2⟩

end Later

theorem escort_holds (unique : (room.players.map (·.id)).Nodup) {row : PlayerState} (mem : row ∈ room.players)
    (named : room.nightPlan.escortId = some row.id) : row.role = some .escort := by
  obtain ⟨holder, holds, same⟩ := map_eq_some_iff.mp named
  have role := @find?_some _ (fun row : PlayerState => row.role == some .escort) _ _ holds
  have listed : holder ∈ room.players := mem_of_mem_filter (mem_of_find?_eq_some holds)
  rw [← inj_on_of_nodup_map unique listed mem same]
  exact eq_of_beq role

theorem nightOutcome_later (unique : (room.players.map (·.id)).Nodup) : Later (room.writeNightReports ctx) (room.nightOutcome ctx).room := by
  have ids : ((room.writeNightReports ctx).players.map (·.id)).Nodup := by
    have kept := ((@writeNightReports_keeps ctx room room (.refl room)).through Prod.fst).players
    change (room.writeNightReports ctx).players.map (·.id) = room.players.map (·.id) at kept
    rwa [kept]
  have aged := (nightOutcome_night ctx room).pairs
    (r := fun old new => ((room.writeNightReports ctx).nightPlan.escortId = some old.id → old.role = some .escort) → Aged old new)
    (fun row _ => .refl row) (fun old new newest first second escort => ?_) fun row new touched escort => ?_
  · refine ((List.forall₂_and_left _ _).mpr ⟨fun row mem => escort_holds ids mem, aged⟩).imp ?_
    exact fun _ _ both => both.2 both.1
  · have middle := first escort
    refine middle.trans (second ?_)
    rw [middle.named, middle.role]
    exact escort
  · cases touched with
    | sees known => exact ⟨rfl, rfl, rfl, rfl, fun other => absurd (escort known) other, id⟩
    | dies => exact ⟨rfl, rfl, rfl, rfl, fun _ => rfl, nofun⟩
    | _ => exact ⟨rfl, rfl, rfl, rfl, fun _ => rfl, id⟩

end

def watches (row : PlayerState) : Bool := row.played == .villager || row.played == .jester

/-- The cards of a night agree with what the morning makes of it: `before` is the room that the resolution of the night counts. -/
structure Agrees (before morning : LiarsRoom) : Prop where
  cards : ∀ row ∈ before.living, row.report.map LiarsNightReport.tells = some (before.cardFor row)
  watchers : ∀ row ∈ before.living, watches row → (row.report.bind (·.glyph) = some .moved ↔
    (row.nightTarget.bind before.player).any fun target => liarsActionMoves target.played target.nightTarget)
  /-- Nobody's choice changes at dawn, and nobody's card but the escort's. -/
  later : Later before morning
  sightings : ∀ dawn ∈ morning.dawn, ∀ name ∈ dawn.movementSeen, ∃ target ∈ morning.players, target.name = name ∧
    ∀ row ∈ morning.living, watches row → row.nightTarget = some target.id →
      row.report.map LiarsNightReport.tells = some (some name, "they went out", some .moved)
  witnesses : ∀ id, ((morning.visitorsOf id).map (·.name)).Sublist ((before.visitorsOf id).map (·.name))

theorem resolveNight_dawn : ∃ narration, (room.resolveNight ctx now).dawn = some (dawnOf (room.nightOutcome ctx) narration now) := by
  have noted (names : List String) (told : LiarsRoom) :
      (names.foldl (fun room name => room.note .night (name ++ " was seen moving.")) told).dawn = told.dawn := by
    induction names generalizing told with
    | nil => rfl
    | cons name names ih => exact ih _
  have checked (told : LiarsRoom) : ((told.checkWinner ctx now none).getD told).dawn = told.dawn := by
    unfold checkWinner
    cases told.detectWinner told.living none <;> rfl
  have told (outcome : NightOutcome) : ∃ narration, (tellDawn ctx outcome now).dawn = some (dawnOf outcome narration now) := by
    unfold tellDawn
    rcases outcome.room.dawnNarration ctx outcome.deaths with ⟨narration, told⟩
    exact ⟨narration, noted _ _⟩
  obtain ⟨narration, same⟩ := told (room.nightOutcome ctx)
  have entered (told : LiarsRoom) : (told.enterPhase ctx .dawn now).dawn = told.dawn := rfl
  refine ⟨narration, ?_⟩
  simp only [resolveNight]
  rw [checked, entered, same]

theorem mem_player {id : Nat} {row : PlayerState} (found : room.player id = some row) : row ∈ room.players := mem_of_find?_eq_some found

theorem cardFor_watching {row target : PlayerState} (sleeps : watches row) (watched : row.nightTarget.bind room.player = some target) :
    room.cardFor row = (some target.name, if liarsActionMoves target.played target.nightTarget then "they went out" else "their door didn't open",
      some (if liarsActionMoves target.played target.nightTarget then .moved else .still)) := by
  simp only [watches, or_eq_true, beq_iff_eq] at sleeps
  unfold cardFor reportLine
  rw [watched]
  rcases sleeps with villager | jester
  · simp [villager]
  · simp [jester]

/-- Where every written card says what the choices say that stand, the night and the morning agree. -/
theorem Written.agrees (written : room.Written) (unique : (room.players.map (·.id)).Nodup) : Agrees (room.writeNightReports ctx) (room.resolveNight ctx now) := by
  have later : Later (room.writeNightReports ctx) (room.resolveNight ctx now) := by
    unfold Later
    rw [resolveNight_players]
    exact nightOutcome_later unique
  have cards : ∀ row ∈ (room.writeNightReports ctx).living,
      row.report.map LiarsNightReport.tells = some ((room.writeNightReports ctx).cardFor row) := fun row living =>
    written.everyone (mem_of_mem_filter living) (mem_filter.mp living).2
  refine ⟨cards, fun row living sleeps => ?_, later, fun dawn there name seen => ?_, later.visitorsOf⟩
  · have told := cards row living
    obtain ⟨report, reported, same⟩ := map_eq_some_iff.mp told
    have glyph : report.glyph = ((room.writeNightReports ctx).cardFor row).2.2 := congrArg (·.2.2) same
    rw [reported, bind_some, glyph]
    cases watched : row.nightTarget.bind (room.writeNightReports ctx).player with
    | none => simp [cardFor, reportLine, watched]
    | some target =>
      rw [cardFor_watching sleeps watched]
      cases moves : liarsActionMoves target.played target.nightTarget <;> simp [moves]
  · obtain ⟨narration, dawned⟩ := @resolveNight_dawn room ctx now
    obtain rfl := some.inj (dawned.symm.trans there)
    have players : (room.nightOutcome ctx).room.players = (room.resolveNight ctx now).players := resolveNight_players.symm
    simp only [dawnOf, corroboratedMovement, mem_filterMap] at seen
    obtain ⟨⟨targetId, count⟩, -, named⟩ := seen
    split at named
    · cases named
    · obtain ⟨target, found, rfl⟩ := map_eq_some_iff.mp named
      obtain ⟨found, moves⟩ := filter_eq_some_iff.mp found
      have there : (room.resolveNight ctx now).player targetId = some target := by
        rw [LiarsRoom.player, ← players]
        exact found
      obtain ⟨old, seated, aged⟩ := later.player there
      refine ⟨target, mem_player there, rfl, fun row living sleeps chose => ?_⟩
      obtain ⟨listed, alive⟩ := mem_filter.mp living
      obtain ⟨before, mem, kept⟩ := mem_pairs later listed
      have played : row.played = before.played := by rw [PlayerState.played, PlayerState.played, kept.role]
      have other : before.role ≠ some .escort := by
        intro escort
        rw [watches, PlayerState.played, kept.role, escort] at sleeps
        cases sleeps
      have watched : before.nightTarget.bind (room.writeNightReports ctx).player = some old := by
        rw [← kept.chose, chose, bind_some, player_id there, seated]
      have gone : liarsActionMoves old.played old.nightTarget := by
        rw [PlayerState.played, ← aged.role, ← aged.chose]
        exact moves
      rw [kept.card other, cards before (mem_filter.mpr ⟨mem, kept.alive alive⟩),
        cardFor_watching (by rwa [watches, ← played]) watched, if_pos gone, if_pos gone, aged.called]

section
variable {player : PlayerState} {targetId : Option Nat} {actionId round : Nat}

structure Carded (room : LiarsRoom) : Prop where
  unique : (room.players.map (·.id)).Nodup
  written : room.phase = .night → room.Written

theorem Carded.congr (carded : room.Carded) (same : other.players.map shown = room.players.map shown) (phase : other.phase = room.phase) :
    other.Carded := by
  refine ⟨?_, fun night => (carded.written (phase.symm.trans night)).congr same⟩
  have ids := congrArg (List.map fun seen => seen.1.1) same
  rw [map_map, map_map] at ids
  change other.players.map (·.id) = room.players.map (·.id) at ids
  rw [ids]
  exact carded.unique

theorem Carded.write (carded : room.Carded) : (room.writeNightReports ctx).Carded := by
  refine ⟨?_, fun night => (carded.written (writeNightReports_phase.symm.trans night)).write⟩
  have ids := congrArg (List.map (·.1)) (@writeNightReports_faces room ctx)
  rw [map_map, map_map] at ids
  change (room.writeNightReports ctx).players.map (·.id) = room.players.map (·.id) at ids
  rw [ids]
  exact carded.unique

theorem startRound_written : (room.startRound ctx now).Written := by
  have cleared : ∀ row ∈ (room.startRound ctx now).players, row.report = none := by
    have players : (room.startRound ctx now).players = ({ room with round := room.round + 1 } : LiarsRoom).clearRoundState.players := by
      unfold startRound
      split <;> rfl
    rw [players]
    intro row mem
    obtain ⟨old, -, rfl⟩ := mem_map.mp mem
    rfl
  exact written_blank fun row mem _ => cleared row mem

theorem transition_written (night : (room.transition ctx).phase = .night) : (room.transition ctx).Written := by
  unfold transition at night ⊢
  split
  · exact startRound_written
  · next phase =>
    rw [phase] at night
    rcases room.resolveNight_phase ctx room.phaseEndsAt with dawn | ended
    · simp [night] at dawn
    · simp [night] at ended
  · next phase =>
    simp only [phase] at night
    obtain ⟨-, -, talk | ⟨-, clue, -⟩ | ⟨-, same, -⟩⟩ := room.advanceClue_cases ctx room.phaseEndsAt
    · simp [night] at talk
    · simp [night] at clue
    · simp [night, phase] at same
  · next phase =>
    simp only [phase] at night
    cases night
  · next phase =>
    simp only [phase] at night
    cases night
  · next phase =>
    simp only [phase] at night
    obtain ⟨verdict | ⟨again, -⟩, -⟩ := room.resolveVote_cases ctx room.phaseEndsAt
    · simp [night] at verdict
    · simp [night] at again
  · next phase =>
    simp only [phase] at night
    unfold afterVerdict at night ⊢
    cases wins : room.checkWinner ctx room.phaseEndsAt room.ejectedJesterId with
    | some =>
      rw [wins] at night
      exact absurd night (by simp [checkWinner_phase wins])
    | none =>
      rw [wins] at night
      dsimp only at night ⊢
      split at night
      · cases night
      · next continues =>
        rw [if_neg continues]
        exact startRound_written
  · next phase =>
    simp only [phase] at night
    simp [resolveFinalGuess_phase] at night
  · next phase =>
    simp only [phase] at night
    cases night
  · next phase =>
    simp only [phase] at night
    cases night

theorem visits_carded (guard : Nat) (carded : room.Carded) : ∀ visited ∈ room :: visits ctx now guard room, visited.Carded := by
  induction guard generalizing room with
  | zero =>
    intro visited mem
    obtain rfl := mem_singleton.mp mem
    exact carded
  | succ guard ih =>
    intro visited mem
    rcases mem_cons.mp mem with rfl | mem
    · exact carded
    · rw [visits] at mem
      split at mem
      · exact ih ⟨transition_unique carded.unique, transition_written⟩ visited mem
      · cases mem

def passes (ctx : GameContext) (room : LiarsRoom) (playerId : Option Nat) (force : Bool) : List LiarsRoom :=
  let woken := (room.touch playerId ctx.now force).awaken ctx (room.idleFor ctx.now)
  woken :: visits ctx ctx.now 8 woken

theorem touch_carded (carded : room.Carded) (playerId : Option Nat) (force : Bool) : (room.touch playerId now force).Carded := by
  refine carded.congr ?_ ?_
  · have seats := congrArg (List.map shown) (room.touch_seats playerId now force)
    rwa [map_map, map_map] at seats
  · obtain ⟨players, active, since, narrator, -, touched⟩ := room.touch_keeps playerId now force
    rw [touched]

theorem passes_carded (carded : room.Carded) (playerId : Option Nat) (force : Bool) : ∀ passed ∈ room.passes ctx playerId force, passed.Carded := by
  refine visits_carded 8 ?_
  unfold awaken
  dsimp only
  split
  · exact (touch_carded carded playerId force).congr rfl rfl
  · exact touch_carded carded playerId force

theorem attend_carded (carded : room.Carded) (playerId : Option Nat) (force : Bool) : (room.attend ctx playerId force).Carded := by
  unfold attend advance
  split
  · exact touch_carded carded playerId force
  · have last := @passes_carded room ctx carded playerId force _ (List.getLastD_mem_cons ..)
    rcases advancePhases_visits 8 ((room.touch playerId ctx.now force).awaken ctx (room.idleFor ctx.now)) with same | written
    · exact same ▸ last
    · exact written ▸ last.write

def maySelect (room : LiarsRoom) (player : PlayerState) (round : Nat) (targetId : Option Nat) : Bool :=
  player.alive && room.phase == .night && round == room.round && !player.nightLocked && targetId.all (room.mayTarget player)

/-- The command is a new selection that changes a choice, and a living player already has a card. -/
def revises (ctx : GameContext) (room : LiarsRoom) (input : PlayerInput) : Bool :=
  let found := room.attend ctx (some input.playerId) true
  match input.action with
  | .nightSelect round targetId =>
    room.mayPlay input && !found.processedActions.contains input.actionId && found.living.any (·.report.isSome) &&
      (found.player input.playerId).any fun player => found.maySelect player round targetId && player.nightTarget != targetId
  | _ => false

theorem select_written (unwritten : room.living.any (·.report.isSome) = false) (id : Nat) (targetId : Option Nat) :
    (room.updatePlayer id fun row => { row with nightTarget := targetId }).Written := by
  have same : (room.updatePlayer id fun row => { row with nightTarget := targetId }).players.map (fun row => (row.alive, row.report)) =
      room.players.map fun row => (row.alive, row.report) := map_updateFirst fun _ => rfl
  refine written_blank fun row mem alive => ?_
  obtain ⟨old, listed, equal⟩ := mem_map.mp (same ▸ mem_map_of_mem (f := fun row : PlayerState => (row.alive, row.report)) mem)
  simp only [Prod.mk.injEq] at equal
  rw [← equal.2]
  have blank := any_eq_false.mp unwritten old (mem_filter.mpr ⟨listed, equal.1.trans alive⟩)
  simpa using blank

theorem select_carded (carded : room.Carded) (found : room.player player.id = some player)
    (steady : room.living.any (·.report.isSome) → player.nightTarget = targetId) :
    (changed ctx (room.updatePlayer player.id fun row => { row with nightTarget := targetId })).Carded := by
  cases cards : room.living.any (·.report.isSome) with
  | true =>
    have same : updateFirst room.players (·.id == player.id) (fun row => { row with nightTarget := targetId }) = room.players := by
      refine (List.forall₂_eq_eq_eq ▸ forall₂_updateFirst (r := Eq) (fun _ => rfl) fun row there => ?_ : room.players = _).symm
      obtain rfl := some.inj (found.symm.trans there)
      rw [← steady cards]
    refine carded.congr ?_ rfl
    exact congrArg (List.map shown) same
  | false =>
    refine ⟨?_, fun _ => ?_⟩
    · have ids : (room.updatePlayer player.id fun row => { row with nightTarget := targetId }).players.map (·.id) = room.players.map (·.id) :=
        map_updateFirst fun _ => rfl
      exact ids ▸ carded.unique
    · exact (select_written cards player.id targetId).congr rfl

theorem lockNight_carded (carded : room.Carded) (id : Nat) : (room.lockNight ctx id).Carded := by
  unfold lockNight
  extract_lets locked
  have kept : locked.Carded := by
    refine carded.congr ?_ rfl
    refine map_updateFirst (k := shown) ?_
    exact fun _ => rfl
  clear_value locked
  split
  · split
    · refine Carded.write ?_
      exact kept.congr rfl rfl
    · exact kept
  · exact kept

theorem rememberAction_carded (actionId : Nat) (carded : room.Carded) : (room.rememberAction actionId).Carded := by
  unfold rememberAction
  exact carded.congr rfl rfl

theorem guard_carded {p : Prop} [Decidable p] {first second : Except Rejected LiarsRoom} (yes : p → (leftBy first).Carded)
    (no : ¬ p → (leftBy second).Carded) : (leftBy (if p then first else second)).Carded := by
  split
  · exact yes (by assumption)
  · exact no (by assumption)

theorem select_kept (carded : room.Carded) (found : room.player player.id = some player)
    (steady : room.maySelect player round targetId → room.living.any (·.report.isSome) → player.nightTarget = targetId) :
    (leftBy (room.playerCommand ctx player actionId (.nightSelect round targetId))).Carded := by
  refine guard_carded (fun _ => carded) fun alive => ?_
  refine guard_carded (fun _ => carded) fun phase => guard_carded (fun _ => carded) fun same => guard_carded (fun _ => carded) fun free => ?_
  refine guard_carded (fun targetable => ?_) fun _ => carded
  refine select_carded carded found (steady ?_)
  rw [not_not] at phase same
  simp only [not_eq_true', not_eq_false] at alive
  simp [maySelect, alive, phase, same, free, targetable]

theorem lock_kept (carded : room.Carded) :
    (leftBy (room.playerCommand ctx player actionId (.nightLock round))).Carded := by
  refine guard_carded (fun _ => carded) fun _ => ?_
  refine guard_carded (fun _ => carded) fun _ => guard_carded (fun _ => carded) fun _ => guard_carded (fun _ => carded) fun _ => ?_
  exact lockNight_carded carded player.id

end

end LiarsRoom

def Command.Nightly : Command → Prop
  | .read .. => True
  | .play _ input => (∃ round targetId, input.action = .nightSelect round targetId) ∨ ∃ round, input.action = .nightLock round
  | .join .. | .host .. => False

/-- No choice is changed after a living player's card has been written. -/
def Command.Steady : Command → LiarsRoom → Prop
  | .play ctx input, room => room.revises ctx input = false
  | _, _ => True

instance Command.steady : (command : Command) → (room : LiarsRoom) → Decidable (command.Steady room)
  | .play ctx input, room => inferInstanceAs (Decidable (room.revises ctx input = false))
  | .join .., _ | .read .., _ | .host .., _ => .isTrue trivial

def Command.passes : Command → LiarsRoom → List LiarsRoom
  | .read ctx _ playerId, room => room.passes ctx playerId false
  | .play ctx input, room => room.passes ctx (some input.playerId) true
  | .join .. , _ | .host .., _ => []

/-- If the night of the room is resolved now, or at any other moment, its cards agree with the morning. -/
def NightAgrees (room : LiarsRoom) : Prop :=
  room.phase = .night → ∀ ctx now, LiarsRoom.Agrees (room.writeNightReports ctx) (room.resolveNight ctx now)

section
variable {command : Command}

theorem LiarsRoom.Carded.agrees (carded : room.Carded) : NightAgrees room := fun night _ _ => (carded.written night).agrees carded.unique

theorem passed_agrees (carded : room.Carded) : ∀ passed ∈ command.passes room, NightAgrees passed := by
  intro passed mem
  cases command with
  | read ctx credential playerId => exact (LiarsRoom.passes_carded carded playerId false passed mem).agrees
  | play ctx input => exact (LiarsRoom.passes_carded carded (some input.playerId) true passed mem).agrees
  | join | host => cases mem

theorem apply_carded (carded : room.Carded) (nightly : command.Nightly) (steady : command.Steady room) : (command.apply room).Carded := by
  cases command with
  | join | host => cases nightly
  | read ctx credential playerId =>
    simp only [Command.apply, LiarsRoom.readLiarsSnapshot]
    split
    · exact LiarsRoom.attend_carded carded playerId false
    · exact carded
  | play ctx input =>
    have attended := @LiarsRoom.attend_carded room ctx carded (some input.playerId) true
    have steady : room.revises ctx input = false := steady
    simp only [Command.apply, LiarsRoom.applyLiarsPlayerAction]
    unfold LiarsRoom.revises at steady
    generalize room.attend ctx (some input.playerId) true = found at attended steady ⊢
    split
    · next plays =>
      cases seated : found.player input.playerId with
      | none => exact attended
      | some player =>
        have named : player.id = input.playerId := LiarsRoom.player_id seated
        refine LiarsRoom.answer_leaves (LiarsRoom.rememberAction_carded input.actionId) attended fun fresh => ?_
        rcases nightly with ⟨round, targetId, action⟩ | ⟨round, action⟩
        · rw [action] at steady ⊢
          refine LiarsRoom.select_kept attended (by rw [named, seated]) fun may cards => ?_
          simp only [plays, fresh, cards, seated, any_some, may] at steady
          simpa using steady
        · rw [action]
          exact LiarsRoom.lock_kept attended
    · exact carded

/-- In every run of selections, locks and reads from the beginning of a night in which no choice is changed after a living player's card has been written,
the cards agree with the morning: in every night that a command comes through, and whenever the night of a room on the way would be resolved. -/
theorem night_cards_agree {room : LiarsRoom} {commands : List Command} (unique : (room.players.map (·.id)).Nodup)
    (blank : ∀ row ∈ room.living, row.report = none) (nightly : ∀ command ∈ commands, command.Nightly) (steady : EachStep Command.apply Command.Steady room commands) :
    Throughout Command.apply NightAgrees room commands ∧
      EachStep Command.apply (fun command room => ∀ passed ∈ command.passes room, NightAgrees passed) room commands := by
  have start : room.Carded := ⟨unique, fun _ => LiarsRoom.written_blank fun row mem alive => blank row (mem_filter.mpr ⟨mem, alive⟩)⟩
  have allowed : EachStep Command.apply (fun command room => command.Nightly ∧ command.Steady room) room commands :=
    EachStep.and (EachStep.always nightly) steady
  obtain ⟨kept, shown⟩ := @EachStep.shows _ _ _ _ LiarsRoom.Carded (fun command room => ∀ passed ∈ command.passes room, NightAgrees passed)
    (fun carded meets => ⟨apply_carded carded meets.1 meets.2, passed_agrees carded⟩) _ _ start allowed
  exact ⟨kept.imp fun _ carded => carded.agrees, shown⟩

end

/-- The first night of five players: a doctor, who is 2, a detective, two villagers, who are 6 and 8, and one of the mafia. -/
def firstNight : LiarsRoom :=
  runFrom Command.apply (lobbyOf .mafia {} ["Ada", "Bo", "Cy", "Di", "Em"])
    [.byHost 2 1 (.start []), .read (.plain 20000) (.token 0) none, .read (.plain 30000) (.token 0) none]

def watchedDoctor : List Command :=
  [.by 6 40000 2 (.nightSelect 1 (some 2)), .by 8 40000 3 (.nightSelect 1 (some 2)), .read (.plain 70000) (.token 0) none]

theorem watchedDoctor_nightly {id now actionId round : Nat} {targetId : Option Nat} :
    ∀ command ∈ watchedDoctor ++ [.by id now actionId (.nightSelect round targetId)], command.Nightly := by
  intro command mem
  simp only [watchedDoctor, cons_append, nil_append, mem_cons, not_mem_nil, or_false] at mem
  rcases mem with rfl | rfl | rfl | rfl
  · exact .inl ⟨_, _, rfl⟩
  · exact .inl ⟨_, _, rfl⟩
  · trivial
  · exact .inl ⟨_, _, rfl⟩

def lateDoctor : List Command := watchedDoctor ++ [.by 2 70500 4 (.nightSelect 1 (some 10))]

def lateMorning : LiarsRoom := (runFrom Command.apply firstNight lateDoctor).resolveNight (.plain 80000) 80000

/-- The town hears of it, and the cards of both watchers say that the door did not open. -/
theorem lateDoctor_contradicts :
    (∀ command ∈ lateDoctor, command.Nightly) ∧ lateMorning.dawn.map (·.movementSeen) = some ["Ada"] ∧
    (∀ id ∈ [6, 8], (lateMorning.player id).bind (·.report.map (·.tells)) = some (some "Ada", "their door didn't open", some .still)) ∧
    ¬ Throughout Command.apply NightAgrees firstNight lateDoctor := by
  refine ⟨watchedDoctor_nightly, by decide +kernel, by decide +kernel, fun throughout => ?_⟩
  have agrees := throughout.last (by decide +kernel) (.plain 80000) 80000
  have watchers := agrees.watchers
  revert watchers
  decide +kernel

/-- The doctor who insists on staying in leaves the night as the cards have it. -/
theorem night_cards_agree_earlyDoctor :
    Throughout Command.apply NightAgrees firstNight (watchedDoctor ++ [.by 2 70500 4 (.nightSelect 1 none)]) ∧
      EachStep Command.apply (fun command room => ∀ passed ∈ command.passes room, NightAgrees passed) firstNight
        (watchedDoctor ++ [.by 2 70500 4 (.nightSelect 1 none)]) :=
  night_cards_agree (by decide +kernel) (by decide +kernel) watchedDoctor_nightly (by decide +kernel)

end MilkAndHenny.Liars

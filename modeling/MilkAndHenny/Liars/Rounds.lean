import MilkAndHenny.Liars.Dealing

/-! Rounds. A round starts after the deal and after a verdict that ends nothing; whoever is
gone by then has been asked about when they left, died or were ejected. -/

namespace MilkAndHenny.Liars
open Library

variable {outcome : NarrationOutcome} {slots : NarrationSlots}

namespace LiarsRoom
variable {ctx : GameContext} {room : LiarsRoom} {now : Int} {jester : Option Nat} {phase : LiarsPhase} {cause : LiarsDeathCause} {ejected : PlayerState} {target : PlayerState} {role : LiarsRole} {guard : Nat}

def Hostile (room : LiarsRoom) : Prop := room.living.any (·.isMafia)

instance : Decidable room.Hostile := inferInstanceAs (Decidable (_ = true))

/-- A game that both sides can still win. -/
def Contested (room : LiarsRoom) : Prop := room.Hostile ∧ room.detectWinner room.living none = none

instance : Decidable room.Contested := inferInstanceAs (Decidable (_ ∧ _))

def transition (ctx : GameContext) (room : LiarsRoom) : LiarsRoom :=
  match room.phase with
  | .deal => room.startRound ctx room.phaseEndsAt
  | .night => room.resolveNight ctx room.phaseEndsAt
  | .clue => room.advanceClue ctx room.phaseEndsAt
  | .dawn => room.enterPhase ctx .deliberation room.phaseEndsAt
  | .deliberation => room.enterPhase ctx .vote room.phaseEndsAt
  | .vote => room.resolveVote ctx room.phaseEndsAt
  | .verdict => room.afterVerdict ctx room.phaseEndsAt
  | .finalGuess => room.resolveFinalGuess ctx room.phaseEndsAt none
  | .lobby | .ending => room

/-- Time has made a transition due. -/
def overdue (now : Int) (room : LiarsRoom) : Bool :=
  room.winner.isNone && decide (room.phaseEndsAt ≤ now) && room.phase != .lobby && room.phase != .ending

/-- The rooms that the lazy advance passes through. -/
def visits (ctx : GameContext) (now : Int) : Nat → LiarsRoom → List LiarsRoom
  | 0, _ => []
  | guard + 1, room =>
    if room.overdue now then room.transition ctx :: visits ctx now guard (room.transition ctx) else []

def awaken (ctx : GameContext) (room : LiarsRoom) (idleFor : Int) : LiarsRoom :=
  let dormant := max 0 (idleFor - connectedWindowMs)
  if 0 < dormant then changed ctx { room.shiftClocks dormant with dawn := room.dawn.map (LiarsDawn.shift · dormant) } else room

def reporting (ctx : GameContext) (now : Int) (room : LiarsRoom) : LiarsRoom :=
  if room.winner.isNone ∧ now < room.phaseEndsAt ∧ room.phase = .night ∧ room.reportAt.any (· ≤ now) then room.writeNightReports ctx
  else room

theorem advancePhases_overdue (due : room.overdue now) :
    advancePhases ctx now (guard + 1) room = advancePhases ctx now guard (room.transition ctx) := by
  simp only [overdue, and_eq_true, decide_eq_true_eq, isNone_iff_eq_none] at due
  obtain ⟨⟨⟨open_, ended⟩, started⟩, running⟩ := due
  rw [advancePhases, if_neg (by simp [open_]), if_neg (Int.not_lt.mpr ended)]
  unfold transition
  cases phase : room.phase <;> simp_all

theorem advancePhases_reporting (rests : ¬ room.overdue now) :
    advancePhases ctx now (guard + 1) room = room.reporting ctx now := by
  unfold advancePhases reporting
  split
  · next won => exact (if_neg fun shown => by simp_all).symm
  · next open_ =>
    split
    · next early => simp_all
    · next ended =>
      have phases : room.phase = .lobby ∨ room.phase = .ending := by
        by_contra running
        simp [overdue, Int.not_lt.mp ended] at rests
        simp_all
      rcases phases with phase | phase <;> simp [phase]

theorem advancePhases_rests {guard : Nat} (rests : ¬ room.overdue now) :
    advancePhases ctx now (guard + 1) room = room ∨ advancePhases ctx now (guard + 1) room = room.writeNightReports ctx := by
  rw [advancePhases_reporting rests]
  unfold reporting
  split
  · exact .inr rfl
  · exact .inl rfl

theorem advancePhases_visits (guard : Nat) (room : LiarsRoom) :
    advancePhases ctx now guard room = (visits ctx now guard room).getLastD room ∨
      advancePhases ctx now guard room = ((visits ctx now guard room).getLastD room).writeNightReports ctx := by
  induction guard generalizing room with
  | zero => exact .inl rfl
  | succ guard ih =>
    by_cases due : room.overdue now
    · rw [advancePhases_overdue due, visits, if_pos due, List.getLastD_cons]
      exact ih (room.transition ctx)
    · rw [visits, if_neg due]
      exact advancePhases_rests due

/-! ### Who has won -/

theorem played_mafia (player : PlayerState) : (liarsRoleSide player.played == .mafia) = player.isMafia := by
  unfold PlayerState.played PlayerState.isMafia
  cases player.role <;> rfl

theorem mafiaAlive_zero : (room.living.map (·.played)).countP (liarsRoleSide · == .mafia) = 0 ↔ ¬ room.Hostile := by
  rw [countP_map, countP_eq_zero, Hostile, any_eq_true]
  simp [played_mafia]

theorem detectWinner_mafia (mode : room.mode = .mafia)
    (undecided : room.detectWinner room.living jester = none) : room.Hostile := by
  by_contra gone
  simp only [detectWinner, liarsDetectWinner, mode, mafiaAlive_zero.mpr gone] at undecided
  split at undecided <;> simp at undecided

theorem detectWinner_noJester (undecided : room.detectWinner room.living jester = none) :
    room.detectWinner room.living none = none := by
  simp only [detectWinner, liarsDetectWinner] at undecided ⊢
  split at undecided
  · cases undecided
  · simpa using undecided

theorem checkWinner_cases (room : LiarsRoom) (ctx : GameContext) (now : Int) (jester : Option Nat) :
    ((room.checkWinner ctx now jester).getD room).phase = .ending ∨
      (room.checkWinner ctx now jester).getD room = room ∧ room.detectWinner room.living jester = none := by
  unfold checkWinner
  cases room.detectWinner room.living jester with
  | none => exact .inr ⟨rfl, rfl⟩
  | some => exact .inl rfl

/-! ### Games that go on -/

structure GoesOn (room : LiarsRoom) : Prop where
  hostile : room.Hostile ∨ room.mode = .imposter ∧ 0 < room.imposterEjections
  unasked : room.mode = .imposter → room.finalGuessCorrect = none

/-- What holds of a room in the phase, between any two transitions. -/
def SoundIn (room : LiarsRoom) : LiarsPhase → Prop
  | .lobby | .finalGuess | .ending => True
  | .deal => room.Contested ∧ room.imposterEjections = 0 ∧ room.finalGuessCorrect = none
  | .night | .dawn => room.mode = .mafia ∧ room.GoesOn
  | .clue | .deliberation | .vote => room.GoesOn
  | .verdict => room.mode = .imposter → room.GoesOn

structure Sound (room : LiarsRoom) : Prop where
  now : room.SoundIn room.phase

theorem Sound.ended (ended : room.phase = .ending) : room.Sound := by
  constructor
  rw [ended]
  trivial

theorem Sound.inPhase (sound : room.Sound) (same : room.phase = phase) : room.SoundIn phase := same ▸ sound.now

def standing (player : PlayerState) : Bool × Option LiarsRole := (player.alive, player.role)

/-- The same players live and the same has been counted. -/
structure SameGame (before after : LiarsRoom) : Prop where
  mode : after.mode = before.mode
  toggles : after.toggles = before.toggles
  crewEjections : after.crewEjections = before.crewEjections
  imposterEjections : after.imposterEjections = before.imposterEjections
  finalGuessCorrect : after.finalGuessCorrect = before.finalGuessCorrect
  players : after.players.map standing = before.players.map standing

namespace SameGame
variable {before middle after : LiarsRoom}

theorem refl (room : LiarsRoom) : SameGame room room := ⟨rfl, rfl, rfl, rfl, rfl, rfl⟩

theorem trans (first : SameGame before middle) (second : SameGame middle after) : SameGame before after where
  mode := second.mode.trans first.mode
  toggles := second.toggles.trans first.toggles
  crewEjections := second.crewEjections.trans first.crewEjections
  imposterEjections := second.imposterEjections.trans first.imposterEjections
  finalGuessCorrect := second.finalGuessCorrect.trans first.finalGuessCorrect
  players := second.players.trans first.players

theorem updatePlayer {id : Nat} {change : PlayerState → PlayerState} (same : ∀ row, standing (change row) = standing row) :
    SameGame room (room.updatePlayer id change) := ⟨rfl, rfl, rfl, rfl, rfl, map_updateFirst same⟩

theorem narrate : SameGame room (room.narrate ctx outcome slots).2 := by
  unfold LiarsRoom.narrate
  split
  · exact ⟨rfl, rfl, rfl, rfl, rfl, rfl⟩
  · exact refl room

variable (same : SameGame before after)
include same

theorem note {phase : HistoryPhase} {text : String} : SameGame before (after.note phase text) :=
  ⟨same.mode, same.toggles, same.crewEjections, same.imposterEjections, same.finalGuessCorrect, same.players⟩

theorem roles : after.living.map (·.role) = before.living.map (·.role) := by
  have listed (players : List PlayerState) :
      (players.filter (·.alive)).map (·.role) = ((players.map standing).filter (·.1)).map (·.2) := by
    rw [filter_map, map_map]
    rfl
  rw [living, living, listed, listed, same.players]

theorem hostile : after.Hostile ↔ before.Hostile := by
  have listed (room : LiarsRoom) : room.Hostile ↔ (room.living.map (·.role)).any fun role => role.any (liarsRoleSide · == .mafia) := by
    rw [Hostile, List.any_map]
    rfl
  rw [listed, listed, same.roles]

theorem detectWinner {jester : Option Nat} :
    after.detectWinner after.living jester = before.detectWinner before.living jester := by
  have played (room : LiarsRoom) : room.living.map (·.played) = (room.living.map (·.role)).map (·.getD .villager) := by
    rw [map_map]
    rfl
  unfold LiarsRoom.detectWinner
  rw [played, played, same.roles, same.mode, same.toggles, same.crewEjections, same.imposterEjections, same.finalGuessCorrect]

theorem contested (contested : before.Contested) : after.Contested :=
  ⟨same.hostile.mpr contested.1, same.detectWinner.trans contested.2⟩

theorem goesOn (goesOn : before.GoesOn) : after.GoesOn where
  hostile := by
    rw [same.hostile, same.mode, same.imposterEjections]
    exact goesOn.hostile
  unasked := by
    rw [same.mode, same.finalGuessCorrect]
    exact goesOn.unasked

theorem soundIn {phase : LiarsPhase} (sound : before.SoundIn phase) : after.SoundIn phase := by
  cases phase with
  | lobby | finalGuess | ending => trivial
  | deal => exact ⟨same.contested sound.1, same.imposterEjections.trans sound.2.1, same.finalGuessCorrect.trans sound.2.2⟩
  | night | dawn => exact ⟨same.mode.trans sound.1, same.goesOn sound.2⟩
  | clue | deliberation | vote => exact same.goesOn sound
  | verdict => exact fun mode => same.goesOn (sound (same.mode.symm.trans mode))

end SameGame

/-! ### The transitions -/

theorem enterPhase_same : SameGame room (room.enterPhase ctx phase now) := ⟨rfl, rfl, rfl, rfl, rfl, rfl⟩

theorem enterPhase_sound (sound : room.SoundIn phase) : (room.enterPhase ctx phase now).Sound :=
  ⟨enterPhase_same.soundIn sound⟩

theorem writeNightReports_same : SameGame room (room.writeNightReports ctx) := by
  simp only [writeNightReports]
  split
  · refine ⟨rfl, rfl, rfl, rfl, rfl, ?_⟩
    refine map_update fun player => ?_
    simp only [withReport]
    split <;> rfl
  · exact .refl room

theorem clearRoundState_same : SameGame room room.clearRoundState where
  mode := rfl
  toggles := rfl
  crewEjections := rfl
  imposterEjections := rfl
  finalGuessCorrect := rfl
  players := by
    simp only [clearRoundState, map_map]
    rfl

theorem startRound_same : SameGame room (room.startRound ctx now) := by
  unfold startRound
  extract_lets next emptied cleared
  have counted : SameGame room next := ⟨rfl, rfl, rfl, rfl, rfl, rfl⟩
  have opened : SameGame emptied cleared := ⟨rfl, rfl, rfl, rfl, rfl, rfl⟩
  have kept : SameGame room cleared := counted.trans (clearRoundState_same.trans opened)
  clear_value cleared
  split
  · exact kept.trans ⟨rfl, rfl, rfl, rfl, rfl, rfl⟩
  · exact kept.trans enterPhase_same

theorem startRound_phase : (room.startRound ctx now).phase = if room.mode = .imposter then .clue else .night := by
  unfold startRound
  cases room.mode <;> rfl

theorem startRound_sound (hostile : room.Hostile) (unasked : room.mode = .imposter → room.finalGuessCorrect = none) :
    (room.startRound ctx now).Sound := by
  have goesOn : room.GoesOn := ⟨.inl hostile, unasked⟩
  constructor
  rw [startRound_phase]
  refine startRound_same.soundIn ?_
  split
  · exact goesOn
  · next mafia =>
    refine ⟨?_, goesOn⟩
    cases mode : room.mode with
    | mafia => rfl
    | imposter => exact absurd mode mafia

theorem checked_goesOn (mode : room.mode = .mafia)
    (undecided : room.detectWinner room.living jester = none) : room.GoesOn :=
  ⟨.inl (detectWinner_mafia mode undecided), fun imposter => nomatch mode.symm.trans imposter⟩

theorem resolveNight_sound (mode : room.mode = .mafia) : (room.resolveNight ctx now).Sound := by
  unfold resolveNight
  extract_lets entered
  have kept : Keeps place room entered := (tellDawn_keeps (nightOutcome_keeps (.refl room))).enterPhase (by decide)
  have phase : entered.phase = .dawn := rfl
  clear_value entered
  rcases entered.checkWinner_cases ctx now none with ended | ⟨same, undecided⟩
  · exact .ended ended
  · rw [same]
    refine ⟨?_⟩
    rw [phase]
    exact ⟨kept.mode.trans mode, checked_goesOn (kept.mode.trans mode) undecided⟩

theorem advanceClue_sound (goesOn : room.GoesOn) (phase : room.phase = .clue) : (room.advanceClue ctx now).Sound := by
  simp only [advanceClue]
  generalize (if room.roomMode ≠ .remote ∧ room.phaseEndsAt ≤ now then room.clueOrder.length else room.clueIndex + 1) = clueIndex
  have moved : SameGame room { room with clueIndex } := ⟨rfl, rfl, rfl, rfl, rfl, rfl⟩
  split
  · have waits : SameGame room (changed ctx { room with clueIndex, phaseStartedAt := now, phaseEndsAt := now + room.timings.clueTurn }) :=
      ⟨rfl, rfl, rfl, rfl, rfl, rfl⟩
    refine ⟨waits.soundIn ?_⟩
    change room.SoundIn room.phase
    rw [phase]
    exact goesOn
  · split
    · have circle : SameGame room ({ room with clueIndex }.startClueRound ctx now) := ⟨rfl, rfl, rfl, rfl, rfl, rfl⟩
      exact ⟨circle.soundIn (show room.SoundIn .clue from goesOn)⟩
    · exact enterPhase_sound (moved.soundIn (show room.SoundIn .deliberation from goesOn))

theorem resolveTie_sound (goesOn : room.GoesOn) : (room.resolveTie ctx now).Sound := by
  unfold resolveTie
  extract_lets tied names cleared
  have revoted : SameGame room cleared := by
    refine ⟨rfl, rfl, rfl, rfl, rfl, ?_⟩
    simp only [cleared, map_map]
    rfl
  split
  · exact enterPhase_sound (revoted.note.soundIn (show room.SoundIn .vote from goesOn))
  · have verdict : room.SoundIn .verdict := fun _ => goesOn
    exact enterPhase_sound (SameGame.narrate.note.soundIn verdict)

theorem kill_hostile (unique : (room.players.map (·.id)).Nodup) (found : room.player target.id = some target)
    (town : target.isMafia = false) (hostile : room.Hostile) : (room.kill target.id cause).Hostile := by
  obtain ⟨mem, lives, mafia⟩ := any_eq_true.mp hostile
  refine any_eq_true.mpr ⟨mem, ?_, mafia⟩
  cases alive : target.alive with
  | false =>
    have same : (room.kill target.id cause).living = room.living :=
      filter_updateFirst_dropped (p := fun player : PlayerState => player.alive) (fun _ => rfl) found alive
    rwa [same]
  | true =>
    rw [living_kill found alive, List.mem_eraseP_of_neg]
    · exact lives
    · intro same
      have listed := (mem_filter.mp lives).1
      have seated : target ∈ room.players := mem_of_find?_eq_some found
      cases inj_on_of_nodup_map unique listed seated (eq_of_beq same)
      rw [mafia] at town
      cases town

theorem countEjection_players : (room.countEjection role).players = room.players := by
  unfold countEjection
  split
  · split <;> rfl
  · rfl

theorem countEjection_goesOn (unasked : room.mode = .imposter → room.finalGuessCorrect = none)
    (imposter : room.mode = .imposter) (stays : liarsRoleSide role ≠ .mafia → room.Hostile ∨ 0 < room.imposterEjections) :
    (room.countEjection role).GoesOn := by
  unfold countEjection
  rw [if_pos imposter]
  split
  · exact ⟨.inr ⟨imposter, Nat.succ_pos _⟩, unasked⟩
  · next town =>
    refine ⟨?_, unasked⟩
    rcases stays town with hostile | counted
    · exact .inl hostile
    · exact .inr ⟨imposter, counted⟩

theorem eject_sound (unique : (room.players.map (·.id)).Nodup)
    (found : room.player ejected.id = some ejected) (goesOn : room.GoesOn) : (room.eject ctx ejected now).Sound := by
  unfold eject
  extract_lets role killed named
  have counted : (named.countEjection role).SoundIn .verdict := by
    intro mode
    have imposter : room.mode = .imposter := by
      unfold countEjection at mode
      split at mode
      · next imposter => exact imposter
      · exact mode
    refine countEjection_goesOn goesOn.unasked imposter fun town => ?_
    have spared : ejected.isMafia = false := by
      rw [← played_mafia]
      exact beq_false_of_ne town
    rcases goesOn.hostile with hostile | ⟨-, counted⟩
    · exact .inl (kill_hostile unique found spared hostile)
    · exact .inr counted
  exact enterPhase_sound (SameGame.narrate.note.soundIn counted)

theorem resolveVote_sound (unique : (room.players.map (·.id)).Nodup) (goesOn : room.GoesOn) :
    (room.resolveVote ctx now).Sound := by
  have declared (ejected : Option PlayerState) : SameGame room (room.declare ejected) := ⟨rfl, rfl, rfl, rfl, rfl, rfl⟩
  unfold resolveVote
  split
  · exact resolveTie_sound ((declared none).goesOn goesOn)
  · next ejected voted =>
    obtain ⟨id, -, found⟩ := bind_eq_some_iff.mp voted
    cases player_id found
    have voting := (declared (some ejected)).goesOn goesOn
    have seated : (room.declare (some ejected)).player ejected.id = some ejected := found
    have ids : ((room.declare (some ejected)).players.map (·.id)).Nodup := unique
    exact eject_sound ids seated voting

theorem lastImposterJustEjected_eq :
    room.lastImposterJustEjected = true ↔ ¬ room.Hostile ∧ 0 < room.imposterEjections ∧ room.finalGuessCorrect = none := by
  simp [lastImposterJustEjected, Hostile, and_assoc]

theorem afterVerdict_cases (ctx : GameContext) (now : Int) (sound : room.SoundIn .verdict) :
    ((room.afterVerdict ctx now).phase = .ending ∨ (room.afterVerdict ctx now).phase = .finalGuess) ∧
        (room.afterVerdict ctx now).round = room.round ∨
      room.Contested ∧ room.afterVerdict ctx now = room.startRound ctx now := by
  unfold afterVerdict
  cases wins : room.checkWinner ctx now room.ejectedJesterId with
  | some =>
    obtain ⟨winner, -, rfl⟩ := map_eq_some_iff.mp wins
    exact .inl ⟨.inl rfl, rfl⟩
  | none =>
    have undecided : room.detectWinner room.living room.ejectedJesterId = none := by
      simpa [checkWinner] using wins
    simp only
    split
    · exact .inl ⟨.inr rfl, rfl⟩
    · next unguessed =>
      refine .inr ⟨⟨?_, detectWinner_noJester undecided⟩, rfl⟩
      cases mode : room.mode with
      | mafia => exact detectWinner_mafia mode undecided
      | imposter =>
        have goesOn := sound mode
        by_contra gone
        rcases goesOn.hostile with hostile | ⟨-, ejected⟩
        · exact gone hostile
        · exact unguessed ⟨mode, lastImposterJustEjected_eq.mpr ⟨gone, ejected, goesOn.unasked mode⟩⟩

theorem resolveFinalGuess_phase {guess : Option String} : (room.resolveFinalGuess ctx now guess).phase = .ending := by
  unfold resolveFinalGuess
  extract_lets normalise attempt correct word text noted
  cases wins : noted.checkWinner ctx now none with
  | some => exact checkWinner_phase wins
  | none => rfl

theorem transition_sound (ctx : GameContext) (unique : (room.players.map (·.id)).Nodup) (sound : room.Sound) : (room.transition ctx).Sound := by
  unfold transition
  split
  · next phase =>
    obtain ⟨contested, -, unasked⟩ := sound.inPhase phase
    exact startRound_sound contested.1 fun _ => unasked
  · next phase => exact resolveNight_sound (sound.inPhase phase).1
  · next phase => exact advanceClue_sound (sound.inPhase phase) phase
  · next phase => exact enterPhase_sound (show room.SoundIn .deliberation from (sound.inPhase phase).2)
  · next phase =>
    have talks : room.GoesOn := sound.inPhase phase
    exact enterPhase_sound (show room.SoundIn .vote from talks)
  · next phase => exact resolveVote_sound unique (sound.inPhase phase)
  · next phase =>
    have verdict := sound.inPhase phase
    rcases afterVerdict_cases ctx room.phaseEndsAt verdict with
      ⟨ended | guesses, -⟩ | ⟨contested, starts⟩
    · exact Sound.ended ended
    · refine ⟨?_⟩
      rw [guesses]
      trivial
    · rw [starts]
      exact startRound_sound contested.1 fun imposter => (verdict imposter).unasked imposter
  · exact Sound.ended resolveFinalGuess_phase
  · exact sound
  · exact sound

/-! ### The end of a game whose hostile side is gone -/

inductive Concludes : LiarsRoom → Prop where
  | finished {room : LiarsRoom} (phase : room.phase = .finalGuess ∨ room.phase = .ending) : Concludes room
  | later {room : LiarsRoom} (same : ∀ ctx, (room.transition ctx).round = room.round) (next : ∀ ctx, Concludes (room.transition ctx)) :
      Concludes room

theorem verdict_concludes (phase : room.phase = .verdict) (sound : room.Sound) (gone : ¬ room.Hostile) : room.Concludes := by
  have moves (ctx : GameContext) : room.transition ctx = room.afterVerdict ctx room.phaseEndsAt := by
    simp [transition, phase]
  have ends (ctx : GameContext) := afterVerdict_cases ctx room.phaseEndsAt (sound.inPhase phase)
  refine .later (fun ctx => ?_) fun ctx => ?_
  · rw [moves]
    rcases ends ctx with ⟨-, same⟩ | ⟨contested, -⟩
    · exact same
    · exact absurd contested.1 gone
  · rw [moves]
    rcases ends ctx with ⟨ended | guesses, -⟩ | ⟨contested, -⟩
    · exact .finished (.inr ended)
    · exact .finished (.inl guesses)
    · exact absurd contested.1 gone

theorem narrate_round : (room.narrate ctx outcome slots).2.round = room.round := by
  unfold narrate
  split <;> rfl

theorem kill_living (found : room.player target.id = some target) :
    (room.kill target.id cause).living.Sublist room.living := by
  cases alive : target.alive with
  | false =>
    have same : (room.kill target.id cause).living = room.living :=
      filter_updateFirst_dropped (p := fun player : PlayerState => player.alive) (fun _ => rfl) found alive
    rw [same]
  | true =>
    rw [living_kill found alive]
    exact List.eraseP_sublist

theorem Hostile.of_sublist {other : LiarsRoom} (fewer : other.living.Sublist room.living) (hostile : other.Hostile) : room.Hostile := by
  obtain ⟨mem, lives, mafia⟩ := any_eq_true.mp hostile
  exact any_eq_true.mpr ⟨mem, fewer.subset lives, mafia⟩

theorem resolveTie_cases (room : LiarsRoom) (ctx : GameContext) (now : Int) :
    ((room.resolveTie ctx now).phase = .verdict ∨
      (room.resolveTie ctx now).phase = .vote ∧ (room.resolveTie ctx now).revoteUsed ∧ room.revoteUsed = false) ∧
    (room.resolveTie ctx now).round = room.round ∧ SameGame room (room.resolveTie ctx now) := by
  unfold resolveTie
  extract_lets tied names cleared
  have revoted : SameGame room cleared := by
    refine ⟨rfl, rfl, rfl, rfl, rfl, ?_⟩
    simp only [cleared, map_map]
    rfl
  split
  · next first =>
    have unused : room.revoteUsed = false := by simpa using (and_eq_true_iff.mp first).1
    exact ⟨.inr ⟨rfl, rfl, unused⟩, rfl, revoted.note.trans enterPhase_same⟩
  · exact ⟨.inl rfl, narrate_round, SameGame.narrate.note.trans enterPhase_same⟩

theorem eject_cases (ctx : GameContext) (now : Int) (found : room.player ejected.id = some ejected) :
    (room.eject ctx ejected now).phase = .verdict ∧ (room.eject ctx ejected now).round = room.round ∧
      ((room.eject ctx ejected now).Hostile → room.Hostile) := by
  unfold eject
  extract_lets role killed named
  have fewer : (named.countEjection role).living.Sublist room.living := by
    rw [living, countEjection_players]
    exact kill_living found
  have round : (named.countEjection role).round = room.round := by
    unfold countEjection
    split
    · split <;> rfl
    · rfl
  refine ⟨rfl, narrate_round.trans round, fun hostile => Hostile.of_sublist fewer ?_⟩
  exact (SameGame.narrate.note.trans enterPhase_same).hostile.mp hostile

theorem resolveVote_cases (room : LiarsRoom) (ctx : GameContext) (now : Int) :
    ((room.resolveVote ctx now).phase = .verdict ∨
      (room.resolveVote ctx now).phase = .vote ∧ (room.resolveVote ctx now).revoteUsed ∧ room.revoteUsed = false) ∧
    (room.resolveVote ctx now).round = room.round ∧ ((room.resolveVote ctx now).Hostile → room.Hostile) := by
  unfold resolveVote
  split
  · obtain ⟨phases, round, same⟩ := (room.declare none).resolveTie_cases ctx now
    exact ⟨phases, round, same.hostile.mp⟩
  · next ejected voted =>
    obtain ⟨id, -, found⟩ := bind_eq_some_iff.mp voted
    cases player_id found
    have seated : (room.declare (some ejected)).player ejected.id = some ejected := found
    have standing : (room.declare (some ejected)).Hostile → room.Hostile := id
    have round : (room.declare (some ejected)).round = room.round := rfl
    obtain ⟨phase, same, hostile⟩ := eject_cases ctx now seated
    exact ⟨.inl phase, same.trans round, standing ∘ hostile⟩

theorem transition_unique (unique : (room.players.map (·.id)).Nodup) : ((room.transition ctx).players.map (·.id)).Nodup := by
  have kept : Keeps place room (room.transition ctx) := by
    have same : Keeps place room room := .refl room
    unfold transition
    split
    · exact startRound_keeps same
    · exact resolveNight_keeps same
    · exact advanceClue_keeps same
    · exact same.enterPhase (by decide)
    · exact same.enterPhase (by decide)
    · exact resolveVote_keeps same
    · exact afterVerdict_keeps same
    · exact resolveFinalGuess_keeps same
    · exact same
    · exact same
  have ids := (kept.through Prod.fst).players
  change (room.transition ctx).players.map (·.id) = room.players.map (·.id) at ids
  rwa [ids]

theorem vote_concludes (unique : (room.players.map (·.id)).Nodup) (phase : room.phase = .vote) (sound : room.Sound)
    (gone : ¬ room.Hostile) : room.Concludes := by
  have moves {voting : LiarsRoom} (phase : voting.phase = .vote) (ctx : GameContext) :
      voting.transition ctx = voting.resolveVote ctx voting.phaseEndsAt := by simp [transition, phase]
  have decided {voting : LiarsRoom} (unique : (voting.players.map (·.id)).Nodup) (phase : voting.phase = .vote)
      (sound : voting.Sound) (gone : ¬ voting.Hostile)
      (runoff : ∀ ctx, (voting.transition ctx).phase = .vote → (voting.transition ctx).revoteUsed → voting.revoteUsed = false →
        (voting.transition ctx).Sound → ¬ (voting.transition ctx).Hostile → (voting.transition ctx).Concludes) :
      voting.Concludes := by
    refine .later (fun ctx => ?_) fun ctx => ?_
    · rw [moves phase]
      exact (voting.resolveVote_cases ctx voting.phaseEndsAt).2.1
    · have after := transition_sound ctx unique sound
      obtain ⟨phases, -, fewer⟩ := voting.resolveVote_cases ctx voting.phaseEndsAt
      rw [← moves phase] at phases fewer
      rcases phases with verdict | ⟨again, used, unused⟩
      · exact verdict_concludes verdict after (gone ∘ fewer)
      · exact runoff ctx again used unused after (gone ∘ fewer)
  refine decided unique phase sound gone fun ctx again used _ after still => ?_
  refine decided (transition_unique unique) again after still fun ctx _ _ unused => ?_
  rw [used] at unused
  cases unused

theorem deliberation_concludes (unique : (room.players.map (·.id)).Nodup) (phase : room.phase = .deliberation) (sound : room.Sound)
    (gone : ¬ room.Hostile) : room.Concludes := by
  have moves (ctx : GameContext) : room.transition ctx = room.enterPhase ctx .vote room.phaseEndsAt := by
    simp [transition, phase]
  refine .later (fun ctx => ?_) fun ctx => ?_
  · rw [moves]
    rfl
  · refine vote_concludes (transition_unique unique) ?_ (transition_sound ctx unique sound) ?_
    · rw [moves]
      rfl
    · rwa [moves, enterPhase_same.hostile]

theorem advanceClue_same : SameGame room (room.advanceClue ctx now) := by
  simp only [advanceClue]
  generalize (if room.roomMode ≠ .remote ∧ room.phaseEndsAt ≤ now then room.clueOrder.length else room.clueIndex + 1) = clueIndex
  split
  · exact ⟨rfl, rfl, rfl, rfl, rfl, rfl⟩
  · split
    · exact ⟨rfl, rfl, rfl, rfl, rfl, rfl⟩
    · exact ⟨rfl, rfl, rfl, rfl, rfl, rfl⟩

theorem advanceClue_cases (room : LiarsRoom) (ctx : GameContext) (now : Int) :
    (room.advanceClue ctx now).round = room.round ∧
    (room.advanceClue ctx now).clueRoundsBeforeVote = room.clueRoundsBeforeVote ∧
    ((room.advanceClue ctx now).phase = .deliberation ∨
      (room.advanceClue ctx now).clueRound = room.clueRound + 1 ∧ (room.advanceClue ctx now).phase = .clue ∧
        room.clueRound < room.clueRoundsBeforeVote ∨
      (room.advanceClue ctx now).clueRound = room.clueRound ∧ (room.advanceClue ctx now).phase = room.phase ∧
        (room.advanceClue ctx now).clueOrder = room.clueOrder ∧
        (room.advanceClue ctx now).clueIndex = room.clueIndex + 1 ∧ room.clueIndex + 1 < room.clueOrder.length) := by
  have stepped (p : Prop) [Decidable p] : (if p then room.clueOrder.length else room.clueIndex + 1) < room.clueOrder.length →
      (if p then room.clueOrder.length else room.clueIndex + 1) = room.clueIndex + 1 := by
    split
    · exact fun less => absurd less (Nat.lt_irrefl _)
    · exact fun _ => rfl
  have next := stepped (room.roomMode ≠ .remote ∧ room.phaseEndsAt ≤ now)
  simp only [advanceClue]
  generalize (if room.roomMode ≠ .remote ∧ room.phaseEndsAt ≤ now then room.clueOrder.length else room.clueIndex + 1) = clueIndex
    at next ⊢
  split
  · next less => exact ⟨rfl, rfl, .inr (.inr ⟨rfl, rfl, rfl, next less, next less ▸ less⟩)⟩
  · split
    · next again => exact ⟨rfl, rfl, .inr (.inl ⟨rfl, rfl, again⟩)⟩
    · exact ⟨rfl, rfl, .inl rfl⟩

theorem clue_concludes (room : LiarsRoom) (unique : (room.players.map (·.id)).Nodup) (phase : room.phase = .clue) (sound : room.Sound)
    (gone : ¬ room.Hostile) : room.Concludes := by
  have moves (ctx : GameContext) : room.transition ctx = room.advanceClue ctx room.phaseEndsAt := by
    simp [transition, phase]
  have still (ctx : GameContext) : ¬ (room.transition ctx).Hostile := by
    rwa [moves, advanceClue_same.hostile]
  refine .later (fun ctx => ?_) fun ctx => ?_
  · rw [moves]
    exact (room.advanceClue_cases ctx room.phaseEndsAt).1
  · obtain ⟨-, circles, next⟩ := room.advanceClue_cases ctx room.phaseEndsAt
    rw [← moves] at circles next
    have after := transition_sound ctx unique sound
    rcases next with talk | ⟨counted, clue, less⟩ | ⟨counted, clue, order, index, less⟩
    · exact deliberation_concludes (transition_unique unique) talk after (still ctx)
    · have fewer : (room.transition ctx).clueRoundsBeforeVote - (room.transition ctx).clueRound <
          room.clueRoundsBeforeVote - room.clueRound := by omega
      exact clue_concludes _ (transition_unique unique) clue after (still ctx)
    · have closer : (room.transition ctx).clueOrder.length - (room.transition ctx).clueIndex <
          room.clueOrder.length - room.clueIndex := by
        rw [order]
        omega
      have same : (room.transition ctx).clueRoundsBeforeVote - (room.transition ctx).clueRound =
          room.clueRoundsBeforeVote - room.clueRound := by omega
      exact clue_concludes _ (transition_unique unique) (clue.trans phase) after (still ctx)
termination_by (room.clueRoundsBeforeVote - room.clueRound, room.clueOrder.length - room.clueIndex)
decreasing_by
  · exact Prod.Lex.left _ _ fewer
  · rw [same]
    exact Prod.Lex.right _ closer

/-- A game that has started and is not yet decided. -/
def InPlay (room : LiarsRoom) : Prop := room.phase ≠ .lobby ∧ room.phase ≠ .finalGuess ∧ room.phase ≠ .ending

instance : Decidable room.InPlay := inferInstanceAs (Decidable (_ ∧ _))

theorem gone_concludes (unique : (room.players.map (·.id)).Nodup) (sound : room.Sound) (playing : room.InPlay)
    (gone : ¬ room.Hostile) : room.Concludes := by
  have hostile_of_mafia (mafia : room.mode = .mafia) (goesOn : room.GoesOn) : room.Hostile := by
    rcases goesOn.hostile with hostile | ⟨imposter, -⟩
    · exact hostile
    · exact nomatch mafia.symm.trans imposter
  obtain ⟨lobby, guess, ending⟩ := playing
  cases phase : room.phase with
  | lobby => exact absurd phase lobby
  | deal => exact absurd (sound.inPhase phase).1.1 gone
  | night | dawn => exact absurd (hostile_of_mafia (sound.inPhase phase).1 (sound.inPhase phase).2) gone
  | clue => exact clue_concludes room unique phase sound gone
  | deliberation => exact deliberation_concludes unique phase sound gone
  | vote => exact vote_concludes unique phase sound gone
  | verdict => exact verdict_concludes phase sound gone
  | finalGuess => exact absurd phase guess
  | ending => exact absurd phase ending

end LiarsRoom

end MilkAndHenny.Liars

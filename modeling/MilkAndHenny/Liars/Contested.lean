import Mathlib.Data.List.Chain
import MilkAndHenny.Liars.Rounds

/-! Which games go on. Commands keep a room sound, but for a replay with too few players and for the
last of the imposters who walks away. -/

namespace MilkAndHenny.Liars
open Library

variable {ctx : GameContext} {room after : LiarsRoom} {change : PlayerState → PlayerState}

theorem LiarsLineup.countP_cards (lineup : LiarsLineup) (side : LiarsSide) :
    lineup.cards.countP (liarsRoleSide · == side) = lineup.sideCount side := by
  unfold cards sideCount
  induction lineup.entries with
  | nil => rfl
  | cons entry entries ih =>
    rw [flatMap_cons, countP_append, ih, List.countP_replicate]
    cases same : liarsRoleSide entry.1 == side <;> simp [same]

theorem sides_of_valid {mode : LiarsMode} {lineup : LiarsLineup} {playerCount : Nat}
    (valid : liarsValidateLineup mode lineup playerCount = none) :
    lineup.sideCount .mafia ≠ 0 ∧ lineup.sideCount .mafia < lineup.sideCount .town := by
  obtain ⟨-, structural⟩ := Option.or_eq_none_iff.mp valid
  split at structural
  · cases structural
  · split at structural
    · cases structural
    · next some_ =>
      split at structural
      · cases structural
      · next fewer => exact ⟨some_, Nat.lt_of_not_le fewer⟩

namespace LiarsRoom
variable {before : LiarsRoom} {now : Int} {player : PlayerState} {leavingId : Nat} {target : PlayerState}
  {choice : Option (Option Nat)} {told : LiarsRoom}

theorem dealGame_living : (room.dealGame ctx now).living = (room.dealGame ctx now).players := by
  refine filter_eq_self.mpr fun player mem => ?_
  obtain ⟨old, -, rfl⟩ := mem_map.mp mem
  rfl

theorem dealGame_cards (ctx : GameContext) (now : Int) (seated : Seated room) (valid : liarsValidateLineup room.mode room.lineup room.players.length = none) :
    ((room.dealGame ctx now).living.map (·.played)).Perm room.lineup.cards := by
  have dealt : ((room.dealGame ctx now).players.map (·.role)).Perm (room.lineup.cards.map some) :=
    ((dealGame_dealtWell seated).mpr valid rfl).2
  have played := dealt.map (·.getD LiarsRole.villager)
  have same : room.lineup.cards.map ((·.getD LiarsRole.villager) ∘ some) = room.lineup.cards := map_id _
  rw [map_map, map_map, same] at played
  rw [dealGame_living]
  exact played

theorem dealGame_settings (room : LiarsRoom) (ctx : GameContext) (now : Int) :
    (room.dealGame ctx now).mode = room.mode ∧ (room.dealGame ctx now).toggles = room.toggles ∧
      (room.dealGame ctx now).crewEjections = 0 ∧ (room.dealGame ctx now).imposterEjections = 0 ∧
      (room.dealGame ctx now).finalGuessCorrect = none ∧ (room.dealGame ctx now).phase = .deal := by
  exact ⟨rfl, rfl, rfl, rfl, rfl, rfl⟩

theorem dealGame_contested (seated : Seated room)
    (valid : liarsValidateLineup room.mode room.lineup room.players.length = none)
    (enough : (liarsPlayerLimits room.mode).min ≤ room.players.length) : (room.dealGame ctx now).Contested := by
  have cards := dealGame_cards ctx now seated valid
  obtain ⟨mode, toggles, crew, imposters, guess, -⟩ := room.dealGame_settings ctx now
  obtain ⟨some_, fewer⟩ := sides_of_valid valid
  have mafia : ((room.dealGame ctx now).living.map (·.played)).countP (liarsRoleSide · == .mafia) = room.lineup.sideCount .mafia :=
    (cards.countP_eq _).trans (room.lineup.countP_cards .mafia)
  have town : ((room.dealGame ctx now).living.map (·.played)).countP (liarsRoleSide · == .town) = room.lineup.sideCount .town :=
    (cards.countP_eq _).trans (room.lineup.countP_cards .town)
  have count : ((room.dealGame ctx now).living.map (·.played)).length = room.players.length := by
    rw [cards.length_eq, LiarsLineup.length_cards, total_of_valid valid]
  refine ⟨?_, ?_⟩
  · by_contra gone
    rw [mafiaAlive_zero.mpr gone] at mafia
    exact some_ mafia.symm
  · unfold detectWinner liarsDetectWinner
    rw [mode, crew, guess, mafia, town, count]
    cases game : room.mode with
    | mafia => simp [some_, Nat.not_le.mpr fewer]
    | imposter =>
      have four : 4 ≤ room.players.length := by simpa [game, liarsPlayerLimits] using enough
      simp [some_, Nat.not_le.mpr (Nat.lt_of_succ_le four)]

theorem dealGame_sound (seated : Seated room)
    (valid : liarsValidateLineup room.mode room.lineup room.players.length = none)
    (enough : (liarsPlayerLimits room.mode).min ≤ room.players.length) : (room.dealGame ctx now).Sound := by
  obtain ⟨-, -, -, imposters, guess, phase⟩ := room.dealGame_settings ctx now
  exact ⟨dealGame_contested seated valid enough, imposters, guess⟩

/-! ### Commands that change nothing that counts -/

structure Calm (before after : LiarsRoom) : Prop where
  game : SameGame before after
  phase : after.phase = before.phase

namespace Calm
variable {middle : LiarsRoom}

theorem refl (room : LiarsRoom) : Calm room room := ⟨.refl room, rfl⟩

theorem trans (first : Calm before middle) (second : Calm middle after) : Calm before after :=
  ⟨first.game.trans second.game, second.phase.trans first.phase⟩

theorem sound (calm : Calm before after) (sound : before.Sound) : after.Sound := by
  refine ⟨?_⟩
  rw [calm.phase]
  exact calm.game.soundIn sound.now

theorem row {id : Nat} (same : ∀ row, standing (change row) = standing row) :
    Calm room (changed ctx (room.updatePlayer id change)) := ⟨⟨rfl, rfl, rfl, rfl, rfl, map_updateFirst same⟩, rfl⟩

end Calm

theorem touch_calm (playerId : Option Nat) (now : Int) (force : Bool) : Calm room (room.touch playerId now force) := by
  have seats := room.touch_seats playerId now force
  obtain ⟨players, active, since, narrator, -, touched⟩ := room.touch_keeps playerId now force
  rw [touched] at seats ⊢
  have listed := congrArg (List.map standing) seats
  rw [map_map, map_map] at listed
  exact ⟨⟨rfl, rfl, rfl, rfl, rfl, listed⟩, rfl⟩

theorem awaken_calm (ctx : GameContext) (idleFor : Int) : Calm room (room.awaken ctx idleFor) := by
  unfold awaken
  extract_lets dormant shifted
  split
  · exact ⟨⟨rfl, rfl, rfl, rfl, rfl, rfl⟩, rfl⟩
  · exact .refl room

theorem writeNightReports_calm : Calm room (room.writeNightReports ctx) := ⟨writeNightReports_same, writeNightReports_phase⟩

theorem handOver_calm : Calm room (room.handOver leavingId now) := by
  unfold handOver transferNarrator
  split
  · exact ⟨⟨rfl, rfl, rfl, rfl, rfl, rfl⟩, rfl⟩
  · split
    · exact .refl room
    · exact ⟨⟨rfl, rfl, rfl, rfl, rfl, rfl⟩, rfl⟩

def EntersRound (before after : LiarsRoom) : Prop := (after.phase = .night ∨ after.phase = .clue) ∧ after.phase ≠ before.phase

instance {after : LiarsRoom} : Decidable (before.EntersRound after) := inferInstanceAs (Decidable (_ ∧ _))

structure Follows (before after : LiarsRoom) : Prop where
  sound : after.Sound
  sameRound : ¬ before.EntersRound after

namespace Follows
variable {p : Prop} [Decidable p] {first second : Except Rejected LiarsRoom}

theorem stays (sound : after.Sound) (same : after.phase = before.phase) : Follows before after :=
  ⟨sound, fun enters => enters.2 same⟩

theorem leads (sound : after.Sound) (night : after.phase ≠ .night) (clue : after.phase ≠ .clue) : Follows before after :=
  ⟨sound, fun enters => enters.1.elim night clue⟩

theorem calm (calm : Calm before after) (sound : before.Sound) : Follows before after := stays (calm.sound sound) calm.phase

theorem lobby (lobby : after.phase = .lobby) : Follows before after := by
  refine leads ⟨?_⟩ (by simp [lobby]) (by simp [lobby])
  rw [lobby]
  trivial

theorem ended (ended : after.phase = .ending) : Follows before after :=
  leads (.ended ended) (by simp [ended]) (by simp [ended])

theorem same (sound : room.Sound) : Follows room room := stays sound rfl

theorem ok (follows : Follows room after) : Follows room (leftBy (.ok after)) := follows

theorem refuse (sound : room.Sound) {code : LiarsRejectionCode} {error : String} :
    Follows room (leftBy (room.refuseWith code error)) := same sound

theorem row (sound : room.Sound) {id : Nat} (same : ∀ row, standing (change row) = standing row) :
    Follows room (changed ctx (room.updatePlayer id change)) := calm (.row same) sound

theorem guard (yes : Follows room (leftBy first)) (no : ¬ p → Follows room (leftBy second)) :
    Follows room (leftBy (if p then first else second)) := by
  split
  · exact yes
  · next fails => exact no fails

end Follows

/-! ### Leaving -/

def StaysHostile (room : LiarsRoom) (leavingId : Nat) : Prop :=
  (room.player leavingId).any (·.alive) → room.mode = .imposter → room.InPlay → room.imposterEjections = 0 →
    (room.living.eraseP (·.id == leavingId)).any (·.isMafia)

instance {leavingId : Nat} : Decidable (room.StaysHostile leavingId) := inferInstanceAs (Decidable (_ → _ → _ → _ → _))

theorem killed_goesOn (found : room.player target.id = some target) (alive : target.alive)
    (playing : room.InPlay) (goesOn : room.GoesOn) (stays : room.StaysHostile target.id)
    (same : SameGame (room.kill target.id .left) told) (undecided : told.detectWinner told.living none = none) : told.GoesOn := by
  have mode : told.mode = room.mode := same.mode
  cases game : room.mode with
  | mafia => exact checked_goesOn (mode.trans game) undecided
  | imposter =>
    refine ⟨?_, fun _ => same.finalGuessCorrect.trans (goesOn.unasked game)⟩
    rw [same.imposterEjections, mode, game]
    rcases Nat.eq_zero_or_pos room.imposterEjections with none_ | counted
    · have hostile := stays (by rw [found]; exact alive) game playing none_
      have left : (room.kill target.id .left).living = room.living.eraseP (·.id == target.id) := living_kill found alive
      rw [← left] at hostile
      exact .inl (same.hostile.mpr hostile)
    · exact .inr ⟨rfl, counted⟩

theorem killed_sound (found : room.player target.id = some target) (alive : target.alive)
    (sound : room.Sound) (stays : room.StaysHostile target.id) (same : Calm (room.kill target.id .left) told)
    (undecided : told.detectWinner told.living none = none) : told.Sound := by
  have goesOn (playing : room.InPlay) (goesOn : room.GoesOn) : told.GoesOn :=
    killed_goesOn found alive playing goesOn stays same.game undecided
  have mode : told.mode = room.mode := same.game.mode
  have phased : told.phase = room.phase := same.phase
  refine ⟨?_⟩
  rw [phased]
  cases phase : room.phase with
  | lobby | finalGuess | ending => trivial
  | deal =>
    obtain ⟨⟨hostile, -⟩, ejected, unasked⟩ := sound.inPhase phase
    have still := goesOn (by simp [InPlay, phase]) ⟨.inl hostile, fun _ => unasked⟩
    have ejections : told.imposterEjections = 0 := same.game.imposterEjections.trans ejected
    refine ⟨⟨?_, undecided⟩, ejections, same.game.finalGuessCorrect.trans unasked⟩
    rcases still.hostile with hostile | ⟨-, counted⟩
    · exact hostile
    · exact absurd counted (ejections ▸ Nat.lt_irrefl 0)
  | night | dawn =>
    obtain ⟨mafia, going⟩ := sound.inPhase phase
    exact ⟨mode.trans mafia, goesOn (by simp [InPlay, phase]) going⟩
  | clue | deliberation | vote => exact goesOn (by simp [InPlay, phase]) (sound.inPhase phase)
  | verdict => exact fun imposter => goesOn (by simp [InPlay, phase]) (sound.inPhase phase (mode.symm.trans imposter))

theorem depart_follows {secret : Secret} (found : room.player target.id = some target)
    (sound : room.Sound) (stays : room.StaysHostile target.id) : Follows room (room.depart ctx target secret) := by
  have left {gone : LiarsRoom} : Calm gone (gone.updatePlayer target.id fun row => { row with leftAt := some ctx.now, tokenHash := secret }) :=
    ⟨⟨rfl, rfl, rfl, rfl, rfl, map_updateFirst fun _ => rfl⟩, rfl⟩
  have follows {gone : LiarsRoom} (follows : Follows room gone) :
      Follows room (gone.updatePlayer target.id fun row => { row with leftAt := some ctx.now, tokenHash := secret }) :=
    ⟨left.sound follows.sound, follows.sameRound⟩
  refine follows ?_
  split
  · next alive =>
    have story {outcome : NarrationOutcome} {slots : NarrationSlots} {text : String} :
        Calm (room.kill target.id .left) (((room.kill target.id .left).narrate ctx outcome slots).2.note .day text) := by
      refine ⟨SameGame.narrate.note, ?_⟩
      unfold narrate
      split <;> rfl
    have told := @story .left { victim := some target.name } ((room.kill target.id .left).narrate ctx .left { victim := some target.name }).1
    generalize (room.kill target.id .left).narrate ctx .left { victim := some target.name } = line at told ⊢
    generalize noted : line.2.note .day line.1 = after at told
    change Follows room ((line.2.note .day line.1).checkWinner ctx ctx.now none |>.getD (line.2.note .day line.1))
    rw [noted]
    rcases after.checkWinner_cases ctx ctx.now none with ended | ⟨same, undecided⟩
    · exact .ended ended
    · rw [same]
      exact .stays (killed_sound found alive sound stays told undecided) told.phase
  · exact .same sound

theorem handedOver_calm : Calm room (changed ctx (room.handOver leavingId now)) := by
  have handed : Calm room (room.handOver leavingId now) := handOver_calm
  exact ⟨⟨handed.game.mode, handed.game.toggles, handed.game.crewEjections, handed.game.imposterEjections,
    handed.game.finalGuessCorrect, handed.game.players⟩, handed.phase⟩

theorem requestReadiness_calm {waited : List PlayerState} : Calm room (room.requestReadiness ctx waited) := by
  unfold requestReadiness
  extract_lets asks
  split
  · refine ⟨⟨rfl, rfl, rfl, rfl, rfl, ?_⟩, rfl⟩
    exact map_update fun _ => rfl
  · exact .refl room

theorem dismissed_follows {dismissed : LiarsRoom} (lobby : dismissed.phase = .lobby) :
    Follows room (changed ctx (dismissed.handOver leavingId now)) := .lobby (handOver_calm.phase.trans lobby)

theorem Follows.handedOver (follows : Follows room after) :
    Follows room (changed ctx (after.handOver leavingId now)) := by
  have calm : Calm after (changed ctx (after.handOver leavingId now)) := handedOver_calm
  refine ⟨calm.sound follows.sound, fun enters => follows.sameRound ?_⟩
  unfold EntersRound at enters
  rwa [calm.phase] at enters

theorem removePlayer_follows {id : Nat} (sound : room.Sound) (stays : room.StaysHostile id) :
    Follows room (leftBy (room.removePlayer ctx id)) := by
  unfold removePlayer
  cases found : room.player id with
  | none => exact .same sound
  | some =>
    cases player_id found
    by_cases lobby : room.phase = .lobby
    · simp only [lobby, ↓reduceIte]
      exact dismissed_follows lobby
    · simp only [lobby, ↓reduceIte]
      exact (depart_follows found sound stays).handedOver

theorem leaveRoom_follows (found : room.player player.id = some player) (sound : room.Sound)
    (stays : room.StaysHostile player.id) : Follows room (room.leaveRoom ctx player) := by
  unfold leaveRoom
  by_cases lobby : room.phase = .lobby
  · simp only [lobby, ↓reduceIte]
    split <;> exact dismissed_follows lobby
  · simp only [lobby, ↓reduceIte]
    exact (depart_follows found sound stays).handedOver

/-! ### The other commands -/

theorem dealt_follows {table : LiarsRoom} (sound : (table.dealGame ctx now).Sound) : Follows room (table.dealGame ctx now) := by
  obtain ⟨-, -, -, -, -, phase⟩ := table.dealGame_settings ctx now
  exact .leads sound (by simp [phase]) (by simp [phase])

theorem startGame_follows {removed : List Nat} (fair : Fair room) (sound : room.Sound) :
    Follows room (leftBy (room.startGame ctx removed)) := by
  obtain same | ⟨asks, asked⟩ | ⟨table, dealt, seated, enough, valid⟩ := startGame_leaves fair removed
  · rw [same]
    exact .same sound
  · rw [asked]
    exact .calm requestReadiness_calm sound
  · rw [dealt]
    exact dealt_follows (dealGame_sound seated valid enough)

theorem replay_follows (seated : Seated room) (enough : (liarsPlayerLimits room.mode).min ≤ room.presentPlayerCount) :
    Follows room (room.resetGame.dealGame ctx now) := by
  have reset := resetGame_seated seated
  have count : (liarsPlayerLimits room.mode).min ≤ room.resetGame.players.length := by
    rwa [resetGame_count]
  exact dealt_follows (dealGame_sound reset ((standardLineup_valid reset.seats).mpr count) count)

theorem hostCommand_follows {action : LiarsHostAction} (starts : ∀ removed, action ≠ .start removed) (replays : action ≠ .replay)
    (removes : ∀ id, action ≠ .remove id) (sound : room.Sound) : Follows room (leftBy (room.hostCommand ctx action)) := by
  have same := Follows.same sound
  have calm {after : LiarsRoom} (calm : Calm room after) : Follows room after := .calm calm sound
  cases action with
  | admissionSet =>
    simp only [hostCommand]
    split
    · exact same
    · split
      · exact same
      · exact calm ⟨⟨rfl, rfl, rfl, rfl, rfl, rfl⟩, rfl⟩
  | configure configuration =>
    obtain ⟨phase, -⟩ := room.configureParts_lobby ctx configuration
    simp only [hostCommand, configure]
    split
    · exact same
    · split
      · exact same
      · next lobby =>
        have opened : room.phase = .lobby := by simpa using lobby
        split
        · exact .lobby (phase.trans opened)
        · split <;> exact .lobby (phase.trans opened)
  | start removed => exact absurd rfl (starts removed)
  | extend | pause => exact calm ⟨⟨rfl, rfl, rfl, rfl, rfl, rfl⟩, rfl⟩
  | resume | passHost =>
    simp only [hostCommand]
    split
    · exact same
    · exact calm ⟨⟨rfl, rfl, rfl, rfl, rfl, rfl⟩, rfl⟩
  | remove playerId => exact absurd rfl (removes playerId)
  | replay => exact absurd rfl replays
  | lobby => exact .lobby rfl
  | endGame => exact .ended rfl

theorem lockNight_calm {id : Nat} : Calm room (room.lockNight ctx id) := by
  unfold lockNight
  extract_lets locked
  have kept : Calm room locked := .row fun _ => rfl
  clear_value locked
  split
  · split
    · have timed (reportAt phaseEndsAt) : Calm room { locked with reportAt, phaseEndsAt } :=
        ⟨⟨kept.game.mode, kept.game.toggles, kept.game.crewEjections, kept.game.imposterEjections, kept.game.finalGuessCorrect,
          kept.game.players⟩, kept.phase⟩
      exact (timed _ _).trans writeNightReports_calm
    · exact kept
  · exact kept

theorem advancedClue_follows {found : LiarsRoom} (found_phase : found.phase = .clue) (goesOn : room.GoesOn) (phase : room.phase = .clue) :
    Follows found (room.advanceClue ctx now) := by
  refine ⟨advanceClue_sound goesOn phase, fun ⟨enters, other⟩ => ?_⟩
  obtain ⟨-, -, phases⟩ := room.advanceClue_cases ctx now
  rcases phases with talk | ⟨-, clue, -⟩ | ⟨-, same, -⟩
  · simp [talk] at enters
  · exact other (clue.trans found_phase.symm)
  · exact other (same.trans (phase.trans found_phase.symm))

theorem nightCommand_follows (sound : room.Sound) {round : Nat} :
    Follows room (leftBy (room.nightCommand ctx player round choice)) := by
  refine .guard (.refuse sound) fun _ => .guard (.refuse sound) fun _ => .guard (.refuse sound) fun _ => ?_
  cases choice with
  | none =>
    change Follows room (room.lockNight ctx player.id)
    exact .calm lockNight_calm sound
  | some =>
    simp only
    split
    · refine .ok (.row sound ?_)
      exact fun _ => rfl
    · exact .refuse sound

theorem clueCommand_follows (sound : room.Sound) {said : Bool} :
    Follows room (leftBy (room.clueCommand ctx player said)) := by
  refine .guard (.refuse sound) fun clue => .guard (.refuse sound) fun _ => .ok ?_
  have phase : room.phase = .clue := not_not.mp clue
  refine advancedClue_follows phase (SameGame.goesOn (SameGame.updatePlayer ?_) (sound.inPhase phase)) phase
  exact fun _ => rfl

theorem allSaid_follows (sound : room.Sound) : Follows room (leftBy (room.allSaid ctx player)) := by
  refine .guard (.refuse sound) fun clue => ?_
  have phase : room.phase = .clue := not_not.mp clue
  refine .guard (.ok ?_) fun _ => .ok (advancedClue_follows phase ?_ phase)
  · have waits : Calm room (changed ctx { room with clueFinishedBy := distinct (room.clueFinishedBy ++ [player.id]) }) :=
      ⟨⟨rfl, rfl, rfl, rfl, rfl, rfl⟩, rfl⟩
    exact .calm waits sound
  · have circle : SameGame room { { room with clueFinishedBy := distinct (room.clueFinishedBy ++ [player.id]) } with
        clueIndex := room.clueOrder.length } := ⟨rfl, rfl, rfl, rfl, rfl, rfl⟩
    exact circle.goesOn (sound.inPhase phase)

theorem declareReady_follows (sound : room.Sound) {ready : Bool} :
    Follows room (leftBy (room.declareReady ctx player ready)) := by
  have declared : Calm room (changed ctx (room.updatePlayer player.id fun row => { row with readyToVote := ready })) :=
    .row fun _ => rfl
  refine .guard (.refuse sound) fun deliberates => ?_
  have phase : room.phase = .deliberation := not_not.mp deliberates
  have talks : room.GoesOn := sound.inPhase phase
  refine .guard (.ok (.leads (enterPhase_sound ?_) (by simp) (by simp))) fun _ => .ok (.calm declared sound)
  exact declared.game.soundIn (show room.SoundIn .vote from talks)

theorem voteCommand_follows (unique : (room.players.map (·.id)).Nodup) (sound : room.Sound)
    : Follows room (leftBy (room.voteCommand ctx player choice)) := by
  refine .guard (.refuse sound) fun votes => .guard (.refuse sound) fun _ => ?_
  have phase : room.phase = .vote := not_not.mp votes
  cases choice with
  | none =>
    have locked : Calm room (changed ctx (room.updatePlayer player.id fun row => { row with voteLocked := true })) :=
      .row fun _ => rfl
    have kept : Keeps place room (changed ctx (room.updatePlayer player.id fun row => { row with voteLocked := true })) :=
      .row fun _ => rfl
    have ids := (kept.through Prod.fst).players
    refine .ok ?_
    generalize changed ctx (room.updatePlayer player.id fun row => { row with voteLocked := true }) = voted at locked ids ⊢
    split
    · have phases := (voted.resolveVote_cases ctx ctx.now).1
      refine .leads (resolveVote_sound ?_ (locked.game.goesOn (sound.inPhase phase))) ?_ ?_
      · change voted.players.map (·.id) = room.players.map (·.id) at ids
        rwa [ids]
      · rcases phases with verdict | ⟨again, -⟩ <;> simp [*]
      · rcases phases with verdict | ⟨again, -⟩ <;> simp [*]
    · exact .calm locked sound
  | some =>
    simp only
    split
    · refine .ok (.row sound ?_)
      exact fun _ => rfl
    · exact .refuse sound

theorem sayLastWords_follows (sound : room.Sound) {text : String} :
    Follows room (leftBy (room.sayLastWords ctx player text)) := by
  refine .guard ?_ fun _ => .refuse sound
  have spoken : SameGame room (room.updatePlayer player.id fun row => { row with lastWords := some (clip liarsLastWordsLength text) }) :=
    SameGame.updatePlayer fun _ => rfl
  have calm : Calm room (changed ctx { room.updatePlayer player.id fun row => { row with lastWords := some (clip liarsLastWordsLength text) } with
      dawn := room.dawn.map fun dawn => if clip liarsLastWordsLength text = "" then dawn else
        { dawn with lastWords := dawn.lastWords ++ [{ name := player.name, text := clip liarsLastWordsLength text }] } }) :=
    ⟨⟨rfl, rfl, rfl, rfl, rfl, spoken.players⟩, rfl⟩
  exact .ok (.calm calm sound)

theorem playerCommand_follows (unique : (room.players.map (·.id)).Nodup) (sound : room.Sound) {actionId : Nat}
    {action : LiarsPlayerAction} (stays : action ≠ .leave) : Follows room (leftBy (room.playerCommand ctx player actionId action)) := by
  have calm {after : LiarsRoom} (calm : Calm room after) : Follows room after := .calm calm sound
  cases action with
  | leave => exact absurd rfl stays
  | rename => exact .guard (.refuse sound) fun _ => .guard (.refuse sound) fun _ => .ok (.row sound fun _ => rfl)
  | readiness => exact .guard (.refuse sound) fun _ => .guard (.ok (.same sound)) fun _ => .ok (.row sound fun _ => rfl)
  | claimHost =>
    exact .guard (.refuse sound) fun _ => .guard (.refuse sound) fun _ => .ok (calm ⟨⟨rfl, rfl, rfl, rfl, rfl, rfl⟩, rfl⟩)
  | lastWords => exact sayLastWords_follows sound
  | wish => exact .guard (.ok (.same sound)) fun _ => .ok (.row sound fun _ => rfl)
  | pin | unpin => exact .guard (.ok (.same sound)) fun _ => .ok (calm ⟨⟨rfl, rfl, rfl, rfl, rfl, rfl⟩, rfl⟩)
  | graveyardVote => exact .guard (.refuse sound) fun _ => .ok (.row sound fun _ => rfl)
  | guess => exact .guard (.refuse sound) fun _ => .ok (.ended resolveFinalGuess_phase)
  | nightSelect | nightLock => exact .guard (.refuse sound) fun _ => nightCommand_follows sound
  | clueSaid | clueSkip => exact .guard (.refuse sound) fun _ => clueCommand_follows sound
  | clueAllSaid => exact .guard (.refuse sound) fun _ => allSaid_follows sound
  | point => exact .guard (.refuse sound) fun _ => .guard (.refuse sound) fun _ => .ok (.row sound fun _ => rfl)
  | readyToVote => exact .guard (.refuse sound) fun _ => declareReady_follows sound
  | castVote | lockVote => exact .guard (.refuse sound) fun _ => voteCommand_follows unique sound

/-! ### The rooms on the way -/

theorem resolveNight_phase (room : LiarsRoom) (ctx : GameContext) (now : Int) :
     (room.resolveNight ctx now).phase = .dawn ∨ (room.resolveNight ctx now).phase = .ending := by
  unfold resolveNight
  extract_lets entered
  have dawn : entered.phase = .dawn := rfl
  clear_value entered
  rcases entered.checkWinner_cases ctx now none with ended | ⟨same, -⟩
  · exact .inr ended
  · rw [same]
    exact .inl dawn

theorem transition_contested (sound : room.Sound) (enters : room.EntersRound (room.transition ctx)) :
    (room.transition ctx).Contested := by
  obtain ⟨entered, other⟩ := enters
  have elsewhere {phase : LiarsPhase} (leads : (room.transition ctx).phase = phase) (night : phase ≠ .night) (clue : phase ≠ .clue) :
      (room.transition ctx).Contested := by
    rw [leads] at entered
    exact absurd entered (not_or.mpr ⟨night, clue⟩)
  unfold transition at *
  cases phase : room.phase with
  | lobby | ending => simp [phase] at other
  | deal => exact startRound_same.contested (sound.inPhase phase).1
  | night =>
    simp only [phase] at elsewhere ⊢
    rcases room.resolveNight_phase ctx room.phaseEndsAt with dawn | ended
    · exact elsewhere dawn (by decide) (by decide)
    · exact elsewhere ended (by decide) (by decide)
  | clue =>
    simp only [phase] at entered other ⊢
    exact absurd ⟨entered, phase ▸ other⟩ (advancedClue_follows phase (sound.inPhase phase) phase).sameRound
  | dawn | deliberation =>
    simp only [phase] at elsewhere ⊢
    exact elsewhere enterPhase_phase (by simp) (by simp)
  | vote =>
    simp only [phase] at elsewhere ⊢
    rcases (room.resolveVote_cases ctx room.phaseEndsAt).1 with verdict | ⟨again, -⟩
    · exact elsewhere verdict (by decide) (by decide)
    · exact elsewhere again (by decide) (by decide)
  | verdict =>
    simp only [phase] at elsewhere ⊢
    rcases afterVerdict_cases ctx room.phaseEndsAt (sound.inPhase phase) with ⟨ended | guesses, -⟩ | ⟨contested, starts⟩
    · exact elsewhere ended (by decide) (by decide)
    · exact elsewhere guesses (by decide) (by decide)
    · rw [starts]
      exact startRound_same.contested contested
  | finalGuess =>
    simp only [phase] at elsewhere ⊢
    exact elsewhere resolveFinalGuess_phase (by decide) (by decide)

/-- The room that a command finds, once it is touched and woken, and the rooms that time leads it through. -/
def attending (ctx : GameContext) (room : LiarsRoom) (playerId : Option Nat) (force : Bool) : List LiarsRoom :=
  let touched := room.touch playerId ctx.now force
  if touched.phase = .lobby ∨ touched.phase = .ending ∨ touched.pausedAt.isSome then [touched]
  else touched.awaken ctx (room.idleFor ctx.now) :: visits ctx ctx.now 8 (touched.awaken ctx (room.idleFor ctx.now))

theorem advance_eq (idleFor : Int) :
    room.advance ctx now idleFor =
      if room.phase = .lobby ∨ room.phase = .ending ∨ room.pausedAt.isSome then room
      else advancePhases ctx now 8 (room.awaken ctx idleFor) := rfl

theorem attend_attending (ctx : GameContext) (room : LiarsRoom) (playerId : Option Nat) (force : Bool) :
    ∃ last ∈ (room.attending ctx playerId force).getLast?, Calm last (room.attend ctx playerId force) := by
  unfold attending attend
  rw [advance_eq]
  extract_lets touched
  split
  · exact ⟨touched, rfl, .refl touched⟩
  · generalize touched.awaken ctx (room.idleFor ctx.now) = woken
    refine ⟨(visits ctx ctx.now 8 woken).getLastD woken, ?_, ?_⟩
    · rw [List.getLast?_cons, List.getLastD_eq_getLast?]
      rfl
    · rcases advancePhases_visits 8 woken with rests | reports
      · rw [rests]
        exact .refl _
      · rw [reports]
        exact writeNightReports_calm

def Proper (room : LiarsRoom) : Prop := room.Sound ∧ (room.players.map (·.id)).Nodup

/-- Rooms of which each has led to the next, and each round is entered while both sides can win. -/
structure Passage (rooms : List LiarsRoom) : Prop where
  proper : ∀ room ∈ rooms, room.Proper
  contested : rooms.IsChain fun before after => before.EntersRound after → after.Contested

namespace Passage
variable {rooms : List LiarsRoom} {next last : LiarsRoom}

theorem single (proper : room.Proper) : Passage [room] := ⟨fun _ mem => mem_singleton.mp mem ▸ proper, .singleton _⟩

theorem cons (proper : room.Proper) (contested : room.EntersRound next → next.Contested) (passage : Passage (next :: rooms)) :
    Passage (room :: next :: rooms) where
  proper := forall_mem_cons.mpr ⟨proper, passage.proper⟩
  contested := .cons_cons contested passage.contested

theorem snoc (passage : Passage rooms) (ends : last ∈ rooms.getLast?) (proper : next.Proper)
    (contested : last.EntersRound next → next.Contested) : Passage (rooms ++ [next]) where
  proper room mem := by
    rcases mem_append.mp mem with earlier | latest
    · exact passage.proper room earlier
    · exact mem_singleton.mp latest ▸ proper
  contested := by
    refine List.isChain_append.mpr ⟨passage.contested, .singleton _, fun ending mem first listed => ?_⟩
    cases some.inj (mem.symm.trans ends)
    obtain rfl : next = first := by simpa using listed
    exact contested

theorem visits (guard : Nat) (proper : room.Proper) : Passage (room :: LiarsRoom.visits ctx now guard room) := by
  induction guard generalizing room with
  | zero => exact single proper
  | succ guard ih =>
    unfold LiarsRoom.visits
    split
    · exact cons proper (transition_contested proper.1) (ih ⟨transition_sound ctx proper.2 proper.1, transition_unique proper.2⟩)
    · exact single proper

end Passage

theorem Calm.proper (calm : Calm before after) (ids : after.players.map (·.id) = before.players.map (·.id))
    (proper : before.Proper) : after.Proper := ⟨calm.sound proper.1, ids ▸ proper.2⟩

theorem Calm.sameRound (calm : Calm before after) : ¬ before.EntersRound after := fun enters => enters.2 calm.phase

theorem touch_ids (playerId : Option Nat) (force : Bool) :
    (room.touch playerId now force).players.map (·.id) = room.players.map (·.id) :=
  ((room.touch_keepsTable playerId now force).through Prod.fst).players

theorem awaken_players (idleFor : Int) : (room.awaken ctx idleFor).players = room.players := by
  unfold awaken
  extract_lets dormant shifted
  split <;> rfl

theorem attending_passage (ctx : GameContext) (proper : room.Proper) (playerId : Option Nat) (force : Bool) :
    Passage (room :: room.attending ctx playerId force) := by
  have touched : Calm room (room.touch playerId ctx.now force) := room.touch_calm playerId ctx.now force
  have woken := touched.trans (awaken_calm ctx (room.idleFor ctx.now))
  unfold attending
  extract_lets found
  split
  · exact .cons proper (fun enters => absurd enters touched.sameRound) (.single (touched.proper (touch_ids playerId force) proper))
  · refine .cons proper (fun enters => absurd enters woken.sameRound) (.visits 8 (woken.proper ?_ proper))
    rw [awaken_players]
    exact touch_ids playerId force

end LiarsRoom

namespace LiarsRoom
variable {actionId : Nat}

theorem rememberAction_calm : Calm room (room.rememberAction actionId) := by
  refine ⟨⟨?_, ?_, ?_, ?_, ?_, ?_⟩, ?_⟩ <;> simp [rememberAction]

theorem Follows.remembers {before left : LiarsRoom} (follows : Follows before left) :
    Follows before (left.rememberAction actionId) := by
  have calm : Calm left (left.rememberAction actionId) := rememberAction_calm
  refine ⟨calm.sound follows.sound, fun enters => follows.sameRound ?_⟩
  unfold EntersRound at enters
  rwa [calm.phase] at enters

theorem attended_passage (proper : room.Proper) (playerId : Option Nat) (force : Bool) {after : LiarsRoom}
    (ids : (after.players.map (·.id)).Nodup)
    (follows : (room.attend ctx playerId force).Sound → Follows (room.attend ctx playerId force) after) :
    Passage (room :: room.attending ctx playerId force ++ [after]) := by
  have passage := attending_passage ctx proper playerId force
  obtain ⟨last, ends, calm⟩ := room.attend_attending ctx playerId force
  have listed : last ∈ room.attending ctx playerId force := List.mem_of_getLast? ends
  have attended := calm.sound (passage.proper last (mem_cons_of_mem room listed)).1
  have follows := follows attended
  have reached : last ∈ (room :: room.attending ctx playerId force).getLast? := by
    rw [List.getLast?_cons]
    simp [mem_def.mp ends]
  refine passage.snoc reached ⟨follows.sound, ids⟩ fun enters => absurd ?_ follows.sameRound
  · unfold EntersRound at enters ⊢
    rwa [calm.phase]

end LiarsRoom

namespace Command

def attended (command : Command) (room : LiarsRoom) : List LiarsRoom :=
  match command with
  | .join .. => []
  | .read ctx credential playerId => if room.authenticate credential playerId then room.attending ctx playerId false else []
  | .host ctx input =>
    if room.mayHost input then room.attending ctx (input.playerId.filter fun id => (room.player id).isSome) true else []
  | .play ctx input => if room.mayPlay input then room.attending ctx (some input.playerId) true else []

/-- All the rooms of a step, from the one that is stored before it to the one that is stored after it. -/
def passage (command : Command) (room : LiarsRoom) : List LiarsRoom := room :: command.attended room ++ [command.apply room]

/-- Nobody leaves or is removed as the last living imposter while none has been ejected. -/
def KeepsImposters (command : Command) (room : LiarsRoom) : Prop :=
  match command with
  | .host ctx input =>
    match input.action with
    | .remove id => room.mayHost input → room.processedActions.contains input.actionId = false → (room.hostFinds ctx input).StaysHostile id
    | _ => True
  | .play ctx input =>
    match input.action with
    | .leave => room.mayPlay input → room.processedActions.contains input.actionId = false →
        (room.playerFinds ctx input).StaysHostile input.playerId
    | _ => True
  | _ => True

instance {command : Command} {room : LiarsRoom} : Decidable (command.KeepsImposters room) :=
  match command with
  | .host _ ⟨_, _, _, _, action⟩ =>
    match action with
    | .remove _ => inferInstanceAs (Decidable (_ → _ → _))
    | .admissionSet _ | .configure _ | .start _ | .extend | .pause | .resume | .passHost _ | .replay | .lobby | .endGame =>
      .isTrue trivial
  | .play _ ⟨_, _, _, action⟩ =>
    match action with
    | .leave => inferInstanceAs (Decidable (_ → _ → _))
    | .rename _ | .readiness _ | .claimHost | .lastWords _ | .wish _ _ | .pin _ | .unpin _ | .graveyardVote _ | .guess _
    | .nightSelect _ _ | .nightLock _ | .clueSaid | .clueSkip | .clueAllSaid | .point _ | .readyToVote _ | .castVote _ | .lockVote =>
      .isTrue trivial
  | .join .. | .read .. => .isTrue trivial

/-- On the way of a step each round is entered with somebody of the mafia's side and nobody who
has won; and once that side is gone, the transitions lead to the last guess or the ending. -/
structure Decides (command : Command) (room : LiarsRoom) : Prop where
  contested : (command.passage room).IsChain fun before after => before.EntersRound after → after.Contested
  concludes : ∀ visited ∈ command.passage room, visited.InPlay → ¬ visited.Hostile → visited.Concludes

/-- One step: the room stays fair and sound, and every round on the way is entered while both sides can win. -/
theorem apply_passage {room : LiarsRoom} {command : Command} (fair : room.Fair) (sound : room.Sound)
    (draws : command.DrawsNewId room) (enough : command.ReplaysEnough room) (keeps : command.KeepsImposters room) :
    (command.apply room).Fair ∧ LiarsRoom.Passage (command.passage room) := by
  obtain ⟨seated, well⟩ := apply_fair fair draws
  refine ⟨⟨seated, well.mpr enough⟩, ?_⟩
  have proper : room.Proper := ⟨sound, fair.seated.unique⟩
  have rests : LiarsRoom.Passage (room :: [] ++ [room]) := .cons proper (fun enters => absurd rfl enters.2) (.single proper)
  have ids := seated.unique
  unfold passage attended
  cases command with
  | join ctx joinToken hostToken name =>
    have follows : LiarsRoom.Follows room ((Command.join ctx joinToken hostToken name).apply room) := by
      simp only [apply, LiarsRoom.joinLiarsRoom]
      split
      · exact .same sound
      · split
        · exact .same sound
        · next opened =>
          have lobby : room.phase = .lobby := by simpa using (not_or.mp opened).1
          split
          · exact .same sound
          · split
            · exact .same sound
            · exact .lobby lobby
    exact .cons proper (fun enters => absurd enters follows.sameRound) (.single ⟨follows.sound, ids⟩)
  | read ctx credential playerId =>
    simp only [apply, LiarsRoom.readLiarsSnapshot] at ids ⊢
    split
    · next allowed =>
      rw [if_pos allowed] at ids
      exact LiarsRoom.attended_passage proper playerId false ids .same
    · exact rests
  | host ctx input =>
    simp only [apply, LiarsRoom.applyLiarsHostAction, ReplaysEnough, KeepsImposters, LiarsRoom.hostFinds] at ids enough keeps ⊢
    cases allowed : room.mayHost input with
    | false => exact rests
    | true =>
      simp only [allowed, ↓reduceIte, true_imp_iff] at ids enough keeps ⊢
      refine LiarsRoom.attended_passage proper (input.playerId.filter fun id => (room.player id).isSome) true ids fun found => ?_
      have kept := room.attend_keeps ctx (input.playerId.filter fun id => (room.player id).isSome) true
      have table := attend_fair ctx fair (input.playerId.filter fun id => (room.player id).isSome) true
      have present := attend_present ctx room (input.playerId.filter fun id => (room.player id).isSome) true
      rw [← kept.processed] at enough keeps
      rw [← kept.mode, ← present] at enough
      refine LiarsRoom.answer_leaves (fun follows => follows.remembers) (.same found) fun fresh => ?_
      cases action : input.action with
      | replay =>
        rw [action] at enough
        exact LiarsRoom.replay_follows table.seated (enough fresh)
      | start => exact LiarsRoom.startGame_follows table found
      | remove =>
        rw [action] at keeps
        exact LiarsRoom.removePlayer_follows found (keeps fresh)
      | admissionSet | configure | extend | pause | resume | passHost | lobby | endGame =>
        exact LiarsRoom.hostCommand_follows (by simp) (by simp) (by simp) found
  | play ctx input =>
    simp only [apply, LiarsRoom.applyLiarsPlayerAction, KeepsImposters, LiarsRoom.playerFinds] at ids keeps ⊢
    cases allowed : room.mayPlay input with
    | false => exact rests
    | true =>
      simp only [allowed, ↓reduceIte, true_imp_iff] at ids keeps ⊢
      refine LiarsRoom.attended_passage proper (some input.playerId) true ids fun found => ?_
      have kept := room.attend_keeps ctx (some input.playerId) true
      have table := attend_fair ctx fair (some input.playerId) true
      rw [← kept.processed] at keeps
      generalize room.attend ctx (some input.playerId) true = attended at *
      cases seat : attended.player input.playerId with
      | none => exact .same found
      | some =>
        have same := LiarsRoom.player_id seat
        refine LiarsRoom.answer_leaves (fun follows => follows.remembers) (.same found) fun fresh => ?_
        cases action : input.action with
        | leave =>
          rw [action, ← same] at keeps
          exact LiarsRoom.leaveRoom_follows (same ▸ seat) found (keeps fresh)
        | rename | readiness | claimHost | lastWords | wish | pin | unpin | graveyardVote | guess | nightSelect | nightLock
        | clueSaid | clueSkip | clueAllSaid | point | readyToVote | castVote | lockVote =>
          exact LiarsRoom.playerCommand_follows table.seated.unique found (by simp)

end Command

open Command in
/-- Where every replay finds enough players and the last imposter does not walk away unejected, every
round is entered by a game that both sides can win, and a game without its hostile side ends. -/
theorem rounds_contested (ctx : GameContext) (mode : LiarsMode) (roomMode : LiarsRoomMode) (toggles : TogglesPatch)
    (timings : TimingsPatch) (managed : Bool) {commands : List Command} (meets : EachStep Command.apply
      (fun command room => command.DrawsNewId room ∧ command.ReplaysEnough room ∧ command.KeepsImposters room)
      (LiarsRoom.createLiarsRoom ctx mode roomMode toggles timings managed) commands) :
    EachStep Command.apply Command.Decides (LiarsRoom.createLiarsRoom ctx mode roomMode toggles timings managed) commands := by
  have step {room : LiarsRoom} {command : Command} (held : room.Fair ∧ room.Sound)
      (meets : command.DrawsNewId room ∧ command.ReplaysEnough room ∧ command.KeepsImposters room) :
      ((command.apply room).Fair ∧ (command.apply room).Sound) ∧ command.Decides room := by
    obtain ⟨fair, passage⟩ := apply_passage held.1 held.2 meets.1 meets.2.1 meets.2.2
    have stored : command.apply room ∈ command.passage room := mem_append_right _ (mem_singleton_self _)
    refine ⟨⟨fair, (passage.proper _ stored).1⟩, passage.contested, fun visited mem playing gone => ?_⟩
    obtain ⟨sound, unique⟩ := passage.proper visited mem
    exact LiarsRoom.gone_concludes unique sound playing gone
  have fair : (LiarsRoom.createLiarsRoom ctx mode roomMode toggles timings managed).Fair :=
    ⟨⟨nodup_nil, Nat.zero_le _⟩, fun deal => nomatch deal⟩
  exact (EachStep.shows @step ⟨fair, ⟨trivial⟩⟩ meets).2

def leavesTheDeal (leaver : Nat) : List Command :=
  ["Ada", "Bo", "Cy", "Di", "Em"].map (.join (.plain 1) none none) ++
    [.byHost 2 1 (.start []), .by leaver 3 2 .leave] ++ [.read (.plain 60000) (.token 0) none]

/-- The only imposter leaves the deal, and the first round starts without one. -/
theorem imposterLeaves_roundStarts :
    let room := LiarsRoom.createLiarsRoom (.plain 1) .imposter .sameRoom {} {} false
    EachStep Command.apply (fun command room => command.DrawsNewId room ∧ command.ReplaysEnough room) room (leavesTheDeal 10) ∧
    ¬ EachStep Command.apply Command.Decides room (leavesTheDeal 10) ∧
    (runFrom Command.apply room (leavesTheDeal 10)).phase = .clue ∧ ¬ (runFrom Command.apply room (leavesTheDeal 10)).Hostile := by
  refine ⟨by decide +kernel, fun each => ?_, by decide +kernel, by decide +kernel⟩
  exact absurd each.last.contested (by decide +kernel)

theorem rounds_contested_crewLeaves :
    EachStep Command.apply Command.Decides (LiarsRoom.createLiarsRoom (.plain 1) .imposter .sameRoom {} {} false) (leavesTheDeal 2) :=
  rounds_contested (.plain 1) .imposter .sameRoom {} {} false (by decide +kernel)

end MilkAndHenny.Liars

import MilkAndHenny.Library.Machine
import MilkAndHenny.Liars.Actions

/-! A finished game. Only somebody's leaving asks again who has won, and it asks the
players who are left. -/

namespace MilkAndHenny.Liars
open Library

variable {side : LiarsSide} {room : LiarsRoom}

namespace LiarsRoom
variable {ctx : GameContext} {room : LiarsRoom} {now : Int} {actionId : Nat} {outcome : NarrationOutcome}
  {slots : NarrationSlots} {player : PlayerState} {leavingId : Nat}

/-- The game is over and the side has won it. -/
def Over (side : LiarsSide) (room : LiarsRoom) : Prop := room.phase = .ending ∧ room.winner = some side

instance : DecidablePred (Over side) := fun room => inferInstanceAs (Decidable (room.phase = .ending ∧ room.winner = some side))

@[simp] theorem changed_over : (changed ctx room).Over side ↔ room.Over side := Iff.rfl

@[simp] theorem updatePlayer_over {id : Nat} {change : PlayerState → PlayerState} :
    (room.updatePlayer id change).Over side ↔ room.Over side := Iff.rfl

@[simp] theorem rememberAction_over : (room.rememberAction actionId).Over side ↔ room.Over side := by
  simp [rememberAction, Over]

@[simp] theorem note_over {phase : HistoryPhase} {text : String} : (room.note phase text).Over side ↔ room.Over side := Iff.rfl

theorem narrate_over : (room.narrate ctx outcome slots).2.Over side ↔ room.Over side := by
  unfold narrate
  split <;> rfl

theorem finish_over {winner : LiarsSide} : (room.finish ctx winner now).Over side ↔ winner = side := by
  simp [finish, Over, changed, applyExpiry]

theorem touch_over {playerId : Option Nat} {force : Bool} :
    (room.touch playerId now force).Over side ↔ room.Over side := by
  unfold touch
  cases playerId.bind room.player <;> rfl

theorem handOver_over : (room.handOver leavingId now).Over side ↔ room.Over side := by
  unfold handOver transferNarrator
  split
  · rfl
  · split <;> rfl

theorem attend_ended (ended : room.phase = .ending) (playerId : Option Nat) (force : Bool) :
    room.attend ctx playerId force = room.touch playerId ctx.now force := by
  have touched : (room.touch playerId ctx.now force).phase = .ending := by
    unfold touch
    cases playerId.bind room.player <;> exact ended
  simp [attend, advance, touched]

theorem checkWinner_over (isOver : room.Over side) :
    ((room.checkWinner ctx now none).getD room).Over side ↔
      ∀ winner, room.detectWinner room.living none = some winner → winner = side := by
  unfold checkWinner
  cases detected : room.detectWinner room.living none with
  | none => simpa using isOver
  | some => simp [finish_over]

def LeftWith (side : LiarsSide) (room : LiarsRoom) (leavingId : Nat) : Prop :=
  ∀ winner ∈ room.detectWinner (room.living.eraseP (·.id == leavingId)) none, winner = side

instance {leavingId : Nat} : Decidable (room.LeftWith side leavingId) :=
  inferInstanceAs (Decidable (∀ winner ∈ room.detectWinner (room.living.eraseP (·.id == leavingId)) none, winner = side))

theorem narrate_detectWinner {jester : Option Nat} :
    (room.narrate ctx outcome slots).2.detectWinner (room.narrate ctx outcome slots).2.living jester =
      room.detectWinner room.living jester := by
  unfold narrate
  split <;> rfl

theorem depart_over {target : PlayerState} {secret : Secret} (isOver : room.Over side)
    (found : room.player target.id = some target) :
    (room.depart ctx target secret).Over side ↔ (target.alive → room.LeftWith side target.id) := by
  unfold depart
  rw [updatePlayer_over]
  cases alive : target.alive with
  | false => simpa using isOver
  | true =>
    simp only [↓reduceIte, forall_const]
    generalize killed : room.kill target.id .left = dead
    have stays : dead.Over side := killed ▸ isOver
    have score : dead.detectWinner dead.living none = room.detectWinner (room.living.eraseP (·.id == target.id)) none := by
      rw [← killed, living_kill found alive]
      rfl
    generalize told : dead.narrate ctx .left { victim := some target.name } = line
    rw [checkWinner_over (note_over.mpr (told ▸ narrate_over.mpr stays))]
    have same : (line.2.note .day line.1).detectWinner (line.2.note .day line.1).living none =
        dead.detectWinner dead.living none := told ▸ narrate_detectWinner
    rw [same, score]
    rfl

def seat (player : PlayerState) : PlayerState := { player with lastSeenAt := 0 }

variable (playerId : Option Nat) (now : Int) (force : Bool)

theorem touch_seats : (room.touch playerId now force).players.map seat = room.players.map seat := by
  unfold touch
  cases playerId.bind room.player with
  | none => rfl
  | some =>
    refine map_updateFirst fun row => ?_
    split <;> rfl

theorem player_seats {other : LiarsRoom} (seats : other.players.map seat = room.players.map seat) (id : Nat) :
    (other.player id).map seat = (room.player id).map seat :=
  @find?_column _ room.players _ seat other.players (·.id == id) (·.id == id) (fun _ => rfl) seats

theorem touch_alive (id : Nat) :
    ((room.touch playerId now force).player id).any (·.alive) = (room.player id).any (·.alive) := by
  have seats := player_seats (room.touch_seats playerId now force) id
  have seated (found : Option PlayerState) : (found.map seat).any (·.alive) = found.any (·.alive) := by
    cases found <;> rfl
  rw [← seated, seats, seated]

theorem touch_processed : (room.touch playerId now force).processedActions = room.processedActions := by
  unfold touch
  cases playerId.bind room.player <;> rfl

theorem leftWith_touch : (room.touch playerId now force).LeftWith side leavingId ↔ room.LeftWith side leavingId := by
  have roles (players : List PlayerState) :
      ((players.filter (·.alive)).eraseP (·.id == leavingId)).map PlayerState.played =
        (((players.map seat).filter (·.alive)).eraseP (·.id == leavingId)).map PlayerState.played := by
    rw [filter_map, List.eraseP_map, map_map]
    rfl
  have score : (room.touch playerId now force).detectWinner
      ((room.touch playerId now force).living.eraseP (·.id == leavingId)) none =
        room.detectWinner (room.living.eraseP (·.id == leavingId)) none := by
    unfold detectWinner living
    rw [roles, touch_seats, ← roles]
    unfold touch
    cases playerId.bind room.player <;> rfl
  rw [LeftWith, LeftWith, score]

def leftBy : Except Rejected LiarsRoom → LiarsRoom
  | .error refused => refused.room
  | .ok after => after

variable (isOver : room.Over side)
include isOver

theorem answer_over {viewerId : Option Nat} {command : Except Rejected LiarsRoom} :
    (room.answer ctx viewerId actionId command).2.Over side ↔
      (room.processedActions.contains actionId = false → (leftBy command).Over side) := by
  unfold answer
  cases processed : room.processedActions.contains actionId with
  | true => simpa using isOver
  | false => cases command <;> simp [leftBy]

theorem hostCommand_over {action : LiarsHostAction} (stays : action ≠ .replay ∧ action ≠ .lobby)
    (others : ∀ id, action ≠ .remove id) : (leftBy (room.hostCommand ctx action)).Over side := by
  have ended : room.phase ≠ .lobby := by simp [isOver.1]
  cases action with
  | admissionSet => simpa [hostCommand, ended, leftBy] using isOver
  | configure =>
    simp only [hostCommand, configure]
    split
    · exact isOver
    · simpa [ended, leftBy] using isOver
  | start => simpa [hostCommand, startGame, ended, leftBy] using isOver
  | extend | pause => exact isOver
  | resume | passHost =>
    simp only [hostCommand]
    split <;> exact isOver
  | remove playerId => exact absurd rfl (others playerId)
  | replay => exact absurd rfl stays.1
  | lobby => exact absurd rfl stays.2
  | endGame => exact finish_over.mpr (by simp [isOver.2])

theorem removePlayer_over {id : Nat} :
    (leftBy (room.removePlayer ctx id)).Over side ↔ ((room.player id).any (·.alive) → room.LeftWith side id) := by
  unfold removePlayer
  cases found : room.player id with
  | none => simpa [leftBy] using isOver
  | some =>
    have ended : room.phase ≠ .lobby := by simp [isOver.1]
    cases player_id found
    simpa [leftBy, ended, handOver_over] using depart_over isOver found

theorem leaveRoom_over (found : room.player player.id = some player) :
    (room.leaveRoom ctx player).Over side ↔ (player.alive → room.LeftWith side player.id) := by
  have ended : room.phase ≠ .lobby := by simp [isOver.1]
  simpa [leaveRoom, ended, handOver_over] using depart_over isOver found

theorem playerCommand_over {action : LiarsPlayerAction}
    (stays : action ≠ .leave) : (leftBy (room.playerCommand ctx player actionId action)).Over side := by
  have phase : room.phase = .ending := isOver.1
  cases action with
  | leave => exact absurd rfl stays
  | rename | readiness | guess => simpa [playerCommand, refuseWith, phase, leftBy] using isOver
  | claimHost =>
    simp only [playerCommand, refuseWith]
    split
    · exact isOver
    · split <;> exact isOver
  | lastWords =>
    simp only [playerCommand, sayLastWords, refuseWith]
    split <;> exact isOver
  | wish | pin | unpin | graveyardVote =>
    simp only [playerCommand, refuseWith]
    split <;> exact isOver
  | nightSelect | nightLock =>
    simp only [playerCommand, nightCommand, refuseWith, phase]
    split <;> exact isOver
  | clueSaid | clueSkip =>
    simp only [playerCommand, clueCommand, refuseWith, phase]
    split <;> exact isOver
  | clueAllSaid =>
    simp only [playerCommand, allSaid, refuseWith, phase]
    split <;> exact isOver
  | point =>
    simp only [playerCommand, refuseWith, phase]
    split <;> exact isOver
  | readyToVote =>
    simp only [playerCommand, declareReady, refuseWith, phase]
    split <;> exact isOver
  | castVote | lockVote =>
    simp only [playerCommand, voteCommand, refuseWith, phase]
    split <;> exact isOver

end LiarsRoom

namespace Command

/-- `game.replay` and `game.lobby` start the room over. -/
def Restarts : Command → Prop
  | .host _ input => input.action = .replay ∨ input.action = .lobby
  | _ => False

def departing (command : Command) (room : LiarsRoom) : Option Nat :=
  let living (id : Nat) : Option Nat := if (room.player id).any (·.alive) then some id else none
  match command with
  | .host _ input =>
    match input.action with
    | .remove id => if room.mayHost input && !room.processedActions.contains input.actionId then living id else none
    | _ => none
  | .play _ input =>
    match input.action with
    | .leave => if room.mayPlay input && !room.processedActions.contains input.actionId then living input.playerId else none
    | _ => none
  | _ => none

/-- Nobody alive leaves, or those who stay do not make another side the winner. -/
def KeepsScore (side : LiarsSide) (command : Command) (room : LiarsRoom) : Prop :=
  ∀ id ∈ command.departing room, room.LeftWith side id

instance {command : Command} {room : LiarsRoom} : Decidable (command.KeepsScore side room) :=
  inferInstanceAs (Decidable (∀ id ∈ command.departing room, room.LeftWith side id))

theorem apply_over {command : Command} (isOver : room.Over side) (stays : ¬ command.Restarts) :
    (command.apply room).Over side ↔ command.KeepsScore side room := by
  cases command with
  | join =>
    have ended : room.phase ≠ .lobby := by simp [isOver.1]
    simp only [apply, LiarsRoom.joinLiarsRoom, KeepsScore, departing]
    split <;> simp [ended, isOver]
  | read =>
    simp only [apply, LiarsRoom.readLiarsSnapshot, KeepsScore, departing]
    split <;> simp [LiarsRoom.attend_ended isOver.1, LiarsRoom.touch_over, isOver]
  | host ctx input =>
    simp only [apply, LiarsRoom.applyLiarsHostAction, KeepsScore, departing]
    cases allowed : room.mayHost input with
    | false => cases input.action <;> simpa using isOver
    | true =>
      have touched (id : Option Nat) : (room.touch id ctx.now true).Over side := LiarsRoom.touch_over.mpr isOver
      rw [if_pos rfl, LiarsRoom.attend_ended isOver.1, LiarsRoom.answer_over (touched _), LiarsRoom.touch_processed]
      cases action : input.action with
      | remove id =>
        simp only [LiarsRoom.hostCommand, LiarsRoom.removePlayer_over (touched _), LiarsRoom.touch_alive,
          LiarsRoom.leftWith_touch]
        cases room.processedActions.contains input.actionId <;> cases (room.player id).any (·.alive) <;> simp
      | replay => exact absurd (.inl action) stays
      | lobby => exact absurd (.inr action) stays
      | admissionSet | configure | start | extend | pause | resume | passHost | endGame =>
        exact iff_of_true (fun _ => LiarsRoom.hostCommand_over (touched _) (by simp) (by simp)) (by simp)
  | play ctx input =>
    simp only [apply, LiarsRoom.applyLiarsPlayerAction, KeepsScore, departing]
    cases allowed : room.mayPlay input with
    | false => cases input.action <;> simpa using isOver
    | true =>
      have touched : (room.touch (some input.playerId) ctx.now true).Over side := LiarsRoom.touch_over.mpr isOver
      rw [if_pos rfl, LiarsRoom.attend_ended isOver.1]
      rw [← LiarsRoom.touch_alive (some input.playerId) ctx.now true, ← LiarsRoom.touch_processed (some input.playerId) ctx.now true]
      simp only [← room.leftWith_touch (some input.playerId) ctx.now true]
      generalize room.touch (some input.playerId) ctx.now true = attended at touched ⊢
      cases found : attended.player input.playerId with
      | none => cases input.action <;> simpa [found] using touched
      | some player =>
        have same : player.id = input.playerId := LiarsRoom.player_id found
        simp only [LiarsRoom.answer_over touched]
        cases action : input.action with
        | leave =>
          simp only [LiarsRoom.playerCommand, LiarsRoom.leftBy, LiarsRoom.leaveRoom_over touched (same ▸ found), same]
          cases attended.processedActions.contains input.actionId <;> cases alive : player.alive <;> simp [alive]
        | rename | readiness | claimHost | lastWords | wish | pin | unpin | graveyardVote | guess | nightSelect | nightLock
        | clueSaid | clueSkip | clueAllSaid | point | readyToVote | castVote | lockVote =>
          exact iff_of_true (fun _ => LiarsRoom.playerCommand_over touched (by simp)) (by simp)

end Command

/-- A finished game keeps its winner through every sequence of commands, exactly when no
departure leaves players among whom another side has won. -/
theorem ending_keepsWinner {side : LiarsSide} (isOver : room.Over side) {commands : List Command}
    (stays : ∀ command ∈ commands, ¬ command.Restarts) :
    Throughout Command.apply (·.Over side) room commands ↔
      EachStep Command.apply (Command.KeepsScore side) room commands := by
  refine throughout_iff (fun isOver stays => ?_) isOver stays
  exact Command.apply_over isOver stays

def threeTownLeft : LiarsRoom :=
  runFrom Command.apply (lobbyOf .mafia {} ["Ada", "Bo", "Cy", "Di", "Em"])
    [.byHost 2 1 (.start []), .by 2 3 2 .leave, .by 4 4 3 .leave, .by 6 5 4 .leave]

/-- The finished game is decided again when the only mafia leaves it. -/
theorem lastMafiaLeaves_townWins : threeTownLeft.Over .mafia ∧
    ¬ Throughout Command.apply (·.Over .mafia) threeTownLeft [.by 10 6 5 .leave] ∧
    ((Command.by 10 6 5 .leave).apply threeTownLeft).Over .town := by
  refine ⟨by decide +kernel, fun throughout => ?_, by decide +kernel⟩
  have kept : ((Command.by 10 6 5 .leave).apply threeTownLeft).Over .mafia := throughout.2
  exact absurd kept (by decide +kernel)

theorem ending_keepsWinner_townLeaves :
    Throughout Command.apply (·.Over .mafia) threeTownLeft [.by 8 6 5 .leave, .byHost 7 6 .pause] := by
  refine (ending_keepsWinner (by decide +kernel) ?_).mpr ⟨by decide +kernel, by decide +kernel, trivial⟩
  simp [Command.by, Command.byHost, Command.Restarts]

end MilkAndHenny.Liars

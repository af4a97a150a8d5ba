import Mathlib.Logic.Relation
import MilkAndHenny.Twin.Actions

/-! What a command can do to a room: quiet changes, which move no card, and the moves of the
game. Every command is some of these one after another. -/

namespace MilkAndHenny.Twin
open Library Multiplayer

namespace TwinRoom

section
variable {ctx : GameContext} {room : TwinRoom}

@[simp] theorem changed_phase : (changed ctx room).phase = room.phase := rfl
@[simp] theorem changed_players : (changed ctx room).players = room.players := rfl
@[simp] theorem changed_activePlayers : (changed ctx room).activePlayers = room.activePlayers := rfl

theorem mem_activePlayers {player : PlayerState} : player ∈ room.activePlayers ↔ player ∈ room.players ∧ player.withdrawn = false := by
  simp [activePlayers, mem_filter]

end

end TwinRoom

/-- A player whose cards, place and connections are left alone; only a tap that lands touches more of the heat. -/
structure Alike (row other : PlayerState) : Prop where
  id : other.id = row.id
  hand : other.hand = row.hand
  heatId : other.heatId = row.heatId
  landed : other.landedMs = row.landedMs ∨ row.hand ≠ []
  game : { other.toThisGame with misses := row.misses } = row.toThisGame
  gone : row.withdrawn = true → other.withdrawn = true

def HeatState.stake (heat : HeatState) : Nat × CardState × List TwinHeatResult := (heat.id, heat.middle, heat.results)

/-- A change that moves no card. -/
structure Mild (room after : TwinRoom) : Prop where
  phase : after.phase = room.phase ∨ after.phase = .closed
  order : room.phase ≠ .lobby → after.order = room.order ∧ after.handSize = room.handSize
  middle : after.middle = room.middle
  heat : after.heat.map HeatState.stake = room.heat.map HeatState.stake
  nextPlace : after.nextPlace = room.nextPlace
  log : room.phase ≠ .finished → after.loggedHeats = room.loggedHeats
  rows : Forall₂ Alike room.players after.players

section
variable {room after : TwinRoom}

theorem Alike.refl (row : PlayerState) : Alike row row := ⟨rfl, rfl, rfl, .inl rfl, rfl, fun gone => gone⟩

theorem alike_rows (rows : List PlayerState) : Forall₂ Alike rows rows := forall₂_same.mpr fun row _ => .refl row

theorem Mild.quiet (rows : Forall₂ Alike room.players after.players) (phase : after.phase = room.phase := by rfl)
    (order : after.order = room.order := by rfl) (handSize : after.handSize = room.handSize := by rfl)
    (middle : after.middle = room.middle := by rfl)
    (heat : after.heat.map HeatState.stake = room.heat.map HeatState.stake := by rfl)
    (nextPlace : after.nextPlace = room.nextPlace := by rfl)
    (log : after.loggedHeats = room.loggedHeats := by rfl) : Mild room after :=
  ⟨.inl phase, fun _ => ⟨order, handSize⟩, middle, heat, nextPlace, fun _ => log, rows⟩

theorem Mild.refl (room : TwinRoom) : Mild room room := .quiet (alike_rows _)

theorem Mild.updatePlayer {id : Nat} {change : PlayerState → PlayerState}
    (alike : ∀ row ∈ room.player id, Alike row (change row)) : Mild room (room.updatePlayer id change) :=
  .quiet (forall₂_updateFirst Alike.refl alike)

end

inductive Move (ctx : GameContext) (room : TwinRoom) : TwinRoom → Prop
  | mild {after : TwinRoom} (mild : Mild room after) : Move ctx room after
  | heat {now : Int}
      (due : room.phase = .dealing ∨ room.phase = .settle ∧ ∀ player ∈ room.activePlayers, player.hand ≠ []) :
      Move ctx room (room.startHeat ctx now)
  | settle {now : Int} (playing : room.phase = .heat) : Move ctx room (room.settleHeat ctx now)
  | finish (settled : room.phase = .settle) (out : ∃ player ∈ room.activePlayers, player.hand = []) :
      Move ctx room (TwinRoom.changed ctx { room with phase := .finished })
  | seat {name : String} {token : Secret} {joinId : Option Nat} (lobby : room.phase = .lobby)
      (fits : room.activePlayers.length < twinMaxPlayers)
      (fresh : ∀ player ∈ room.players, player.id ≠ ctx.randomUUID room.revision) :
      Move ctx room (room.seat ctx name token joinId)
  | remove {playerId : Nat} {removePlayerIds : List Nat} (lobby : room.phase = .lobby) :
      Move ctx room (room.removeUnready ctx playerId removePlayerIds)
  | lobby (finished : room.phase = .finished) : Move ctx room (room.toLobby ctx)

abbrev Moves (ctx : GameContext) : TwinRoom → TwinRoom → Prop := Relation.ReflTransGen (Move ctx)

inductive Deal (ctx : GameContext) (room : TwinRoom) : TwinRoom → Prop
  | start {plan : TwinDeckPlan} {after : TwinRoom} (lobby : room.phase = .lobby) (planned : room.planned = some plan)
      (dealt : { room with loggedHeats := [] }.applyDeal ctx plan ctx.now = some after) : Deal ctx room after
  | replay {plan : TwinDeckPlan} {after : TwinRoom} (finished : room.phase = .finished) (planned : room.planned = some plan)
      (dealt : { room with loggedHeats := [] }.applyDeal ctx plan ctx.now = some after) : Deal ctx room (after.startOver)

def TwinAction.deals : TwinAction → Bool
  | .start _ | .replay => true
  | _ => false

def Verdict.Follows (ctx : GameContext) (room : TwinRoom) (deals : Bool) : Verdict → Prop
  | .accept after => if deals then ∃ found, Moves ctx room found ∧ Deal ctx found after else Moves ctx room after
  | .reject after .. => Moves ctx room after
  | .fail => True

namespace TwinRoom

section
variable {ctx : GameContext} {room : TwinRoom} {now : Int}

theorem advanceDealing_moves : Moves ctx room (room.advanceDealing ctx now) := by
  unfold advanceDealing
  split
  · next due => exact .single (.heat (.inl due.1))
  · exact .refl

theorem liveHeat_eq_some {heat : HeatState} (live : room.liveHeat = some heat) : room.heat = some heat ∧ room.phase = .heat := by
  obtain ⟨played, phase⟩ := filter_eq_some_iff.mp live
  exact ⟨played, eq_of_beq phase⟩

theorem closeHeat_mild : Mild room (room.closeHeat ctx now) := by
  unfold closeHeat
  split
  · exact .refl room
  · next heat live =>
    split
    · refine { Mild.refl room with heat := ?_ }
      rw [(liveHeat_eq_some live).1]
      rfl
    · exact .refl room

theorem advanceHeat_moves : Moves ctx room (room.advanceHeat ctx now) := by
  have closed : Moves ctx room (room.closeHeat ctx now) := .single (.mild closeHeat_mild)
  unfold advanceHeat
  extract_lets closing
  split
  · next due =>
    cases live : closing.liveHeat with
    | none => simp [live] at due
    | some => exact closed.tail (.settle (liveHeat_eq_some live).2)
  · exact closed

theorem advanceSettle_moves : Moves ctx room (room.advanceSettle ctx now) := by
  unfold advanceSettle
  split
  · next due =>
    split
    · next out => exact .single (.finish due.1 (by simpa using out))
    · next further => exact .single (.heat (.inr ⟨due.1, by simpa using further⟩))
  · exact .refl

theorem advance_moves : Moves ctx room (room.advance ctx now) :=
  (advanceDealing_moves.trans advanceHeat_moves).trans advanceSettle_moves

end

section
variable {ctx : GameContext} {room : TwinRoom} {player : PlayerState} {α : Type}

theorem transferHost_eq (leavingId : Nat) (now : Int) : ∃ host, room.transferHost leavingId now = { room with hostPlayerId := host } := by
  unfold transferHost
  split
  · exact ⟨room.hostPlayerId, rfl⟩
  · exact ⟨_, rfl⟩

theorem leave_mild (playerId : Nat) : Mild room (room.leave ctx playerId) := by
  have rows : Forall₂ Alike room.players
      (updateFirst room.players (·.id == playerId) fun row => { row with withdrawn := true }) :=
    forall₂_updateFirst Alike.refl fun row _ => { Alike.refl row with gone := fun _ => rfl }
  obtain ⟨host, handed⟩ := room.transferHost_eq playerId ctx.now
  unfold leave
  rw [handed]
  extract_lets left
  split
  · exact { (Mild.quiet rows : Mild room left) with phase := .inr rfl }
  · exact .quiet rows

theorem requestReadiness_mild (asks : PlayerState → Bool) : Mild room (room.requestReadiness ctx asks) := by
  unfold requestReadiness
  split
  · refine .quiet (forall₂_map_right_iff.mpr (forall₂_same.mpr fun row _ => ?_))
    split
    · exact { Alike.refl row with }
    · exact .refl row
  · exact .refl room

theorem land_mild (held : ∀ row ∈ room.player player.id, row.hand ≠ []) (claimedMs : Int) :
    Mild room (room.land ctx player.id claimedMs) := by
  unfold land
  split
  · exact .refl room
  · next heat playing =>
    refine { Mild.refl room with heat := ?_, rows := forall₂_updateFirst Alike.refl fun row found => ?_ }
    · rw [playing]
      rfl
    · exact { Alike.refl row with landed := .inr (held row found) }

theorem start_follows (lobby : room.phase = .lobby) (playerId : Nat) (removePlayerIds : List Nat) :
    (room.start ctx playerId removePlayerIds).Follows ctx room true := by
  have seats : Moves ctx room (room.removeUnready ctx playerId removePlayerIds) := .single (.remove lobby)
  have still : (room.removeUnready ctx playerId removePlayerIds).phase = .lobby := by
    unfold removeUnready
    split <;> exact lobby
  unfold start
  extract_lets asks seated
  split
  · exact .single (.mild (requestReadiness_mild asks))
  · cases planned : seated.planned with
    | none => exact seats
    | some plan =>
      cases dealt : { seated with loggedHeats := [] }.applyDeal ctx plan ctx.now with
      | none => simp only [dealt, Verdict.Follows]
      | some =>
        simp only [dealt]
        exact ⟨seated, seats, .start still planned dealt⟩

theorem replay_follows (finished : room.phase = .finished) : (room.replay ctx).Follows ctx room true := by
  unfold replay
  extract_lets cleared
  cases planned : cleared.planned with
  | none => exact .single (.mild { Mild.refl room with log := fun playing => absurd finished playing })
  | some plan =>
    cases dealt : cleared.applyDeal ctx plan ctx.now with
    | none => simp only [dealt, Verdict.Follows]
    | some =>
      simp only [dealt]
      exact ⟨room, .refl, .replay finished planned dealt⟩

theorem refuse_eq_none {refused : Prop} [Decidable refused] {reason : α} {rest : Option α} :
    (if refused then some reason else rest) = none ↔ ¬ refused ∧ rest = none := by
  split <;> simp [*]

theorem host_open {controls : Bool} {reason : α} {refused : Option α}
    (open_ : (if controls then refused else some reason) = none) : refused = none := by
  cases controls <;> simp_all

theorem tapRefusal_eq_none {heatId : Nat} (open_ : room.tapRefusal ctx player heatId = none) :
    ∃ heat, room.liveHeat = some heat ∧ heat.id = heatId ∧ heat.settleAt.all (ctx.now < ·) ∧ heat.revealAt ≤ ctx.now ∧
      player.heatId = some heat.id ∧ player.landedMs = none ∧ player.cooldownUntil.all (· ≤ ctx.now) ∧ player.hand ≠ [] ∧
      room.expectedSymbol player ≠ none := by
  unfold tapRefusal at open_
  split at open_
  · cases open_
  · next heat live =>
    obtain ⟨live, same⟩ := filter_eq_some_iff.mp live
    refine ⟨heat, live, eq_of_beq same, ?_⟩
    simp only [refuse_eq_none] at open_
    obtain ⟨waits, revealed, dealt, unlanded, cooled, held, matched, -⟩ := open_
    refine ⟨?_, Int.not_lt.mp revealed, not_not.mp dealt, by simpa using unlanded, ?_, by simpa using held, matched⟩
    · simpa [Option.any_eq_true, Option.all_eq_true] using waits
    · simpa [Option.any_eq_true, Option.all_eq_true] using cooled

theorem carryOut_follows (found : room.player player.id = some player) {action : TwinAction}
    (open_ : room.refusal ctx player action = none) : (room.carryOut ctx player action).Follows ctx room action.deals := by
  cases action with
  | rename => exact .single (.mild (.quiet (forall₂_updateFirst Alike.refl fun row _ => { Alike.refl row with })))
  | readiness =>
    simp only [carryOut]
    split
    · exact .refl
    · exact .single (.mild (.quiet (forall₂_updateFirst Alike.refl fun row _ => { Alike.refl row with })))
  | tap heatId symbolId elapsedMs =>
    obtain ⟨_, _, _, _, _, _, _, _, held, _⟩ := tapRefusal_eq_none open_
    simp only [carryOut]
    split
    · refine .head (.mild (land_mild (fun row mem => ?_) elapsedMs)) advance_moves
      rw [found] at mem
      exact mem_some.mp mem ▸ held
    · exact .single (.mild (.quiet (forall₂_updateFirst Alike.refl fun row _ => { Alike.refl row with })))
  | admissionSet =>
    simp only [carryOut]
    split
    · exact .refl
    · exact .single (.mild (.quiet (alike_rows _)))
  | passHost => exact .single (.mild (.quiet (alike_rows _)))
  | configure handSize windowMs graceMs =>
    have lobby : room.phase = .lobby := by
      have unrefused := host_open open_
      simp only [hostRefusal, refuse_eq_none] at unrefused
      exact not_not.mp unrefused.2.1
    change (room.configure ctx handSize windowMs graceMs).Follows ctx room false
    unfold configure
    extract_lets asked
    cases asked.planned with
    | none => exact .single (.mild (.quiet (alike_rows _)))
    | some => exact .single (.mild { Mild.refl room with order := fun playing => absurd lobby playing })
  | timing => exact .single (.mild (.quiet (alike_rows _)))
  | start removePlayerIds =>
    have lobby : room.phase = .lobby := by
      have unrefused := host_open open_
      by_contra apart
      simp only [hostRefusal, if_neg apart, reduceCtorEq] at unrefused
    exact start_follows lobby player.id removePlayerIds
  | nextHeat =>
    change Moves ctx room (room.hurry ctx)
    unfold hurry
    extract_lets due
    have hurried : Mild room due := { Mild.refl room with heat := Option.map_map .. }
    exact .head (.mild hurried) advance_moves
  | replay =>
    have finished : room.phase = .finished := by
      have unrefused := host_open open_
      by_contra apart
      simp only [hostRefusal, if_neg apart, reduceCtorEq] at unrefused
    exact replay_follows finished
  | lobby =>
    have finished : room.phase = .finished := by
      have unrefused := host_open open_
      by_contra apart
      simp only [hostRefusal, if_neg apart, reduceCtorEq] at unrefused
    exact .single (.lobby finished)
  | leave => exact .single (.mild (leave_mild player.id))

theorem player_id {id : Nat} (found : room.player id = some player) : player.id = id :=
  eq_of_beq (find?_some (p := fun row : PlayerState => row.id == id) found)

theorem command_follows {id : Nat} (found : room.player id = some player) (action : TwinAction) :
    (room.command ctx player action).Follows ctx room action.deals := by
  cases player_id found
  unfold command
  cases refused : room.refusal ctx player action with
  | some => exact .refl
  | none => exact carryOut_follows found refused

theorem attend_moves (playerId : Nat) : Moves ctx room (room.attend ctx playerId) := by
  have seen : Mild room (room.updatePlayer playerId fun row => { row with lastSeenAt := ctx.now }) :=
    .updatePlayer fun row _ => { Alike.refl row with }
  exact .head (.mild seen) advance_moves

theorem processed_mild (processedActions : List Nat) : Mild room { room with processedActions } := .quiet (alike_rows _)

theorem rememberAction_mild (actionId : Nat) : Mild room (room.rememberAction actionId) := processed_mild _

theorem seat_moves (input : JoinInput) (fresh : ∀ player ∈ room.players, player.id ≠ ctx.randomUUID room.revision) :
    Moves ctx room (room.join ctx input).2 := by
  unfold join
  extract_lets existing token name seated
  clear_value existing
  split
  · exact .refl
  · split
    · split <;> exact .refl
    · split
      · exact .refl
      · next lobby =>
        split
        · exact .refl
        · split
          · exact .refl
          · next fits =>
            split
            · exact .refl
            · split
              · exact .refl
              · exact .single (.seat (not_not.mp lobby) (Nat.lt_of_not_le fits) fresh)

end

end TwinRoom

namespace Command

def ctx : Command → GameContext
  | .join ctx _ | .read ctx _ | .act ctx _ => ctx

def DrawsNewId : Command → TwinRoom → Prop
  | .join ctx _, room =>
    ∀ player ∈ (room.advance ctx ctx.clock).players, player.id ≠ ctx.randomUUID (room.advance ctx ctx.clock).revision
  | .read .., _ | .act .., _ => True

instance : (command : Command) → (room : TwinRoom) → Decidable (command.DrawsNewId room)
  | .join ctx _, room => inferInstanceAs (Decidable (∀ player ∈ (room.advance ctx ctx.clock).players,
      player.id ≠ ctx.randomUUID (room.advance ctx ctx.clock).revision))
  | .read .., _ | .act .., _ => .isTrue trivial

/-- A `game.start` or `game.replay` that is carried out. -/
def deals : Command → TwinRoom → Bool
  | .act ctx input, room =>
    input.action.deals && !room.processedActions.contains (input.actionId.getD ctx.newId) &&
      match (room.applyTwinAction ctx input).1 with
      | .accepted _ => true
      | _ => false
  | .join .., _ | .read .., _ => false

end Command

def Played (ctx : GameContext) (deals : Bool) (room after : TwinRoom) : Prop :=
  if deals then ∃ found dealt, Moves ctx room found ∧ Deal ctx found dealt ∧ Mild dealt after else Moves ctx room after

/-- What becomes of an action: it is not heard, it has been carried out before, its player leaves, or it is
judged on the room that it finds. -/
inductive Heard (ctx : GameContext) (room : TwinRoom) (input : ActionInput) : TwinActionResult × TwinRoom → Prop
  | unheard : Heard ctx room input (.unavailable, room)
  | known (authentic : room.authenticatedPlayer input.playerId input.playerToken ≠ none)
      (again : room.processedActions.contains (input.actionId.getD ctx.newId) = true ∨ input.action = .leave) :
      Heard ctx room input (room.conclude ctx input.playerId (input.actionId.getD ctx.newId) (.accept room))
  | left (leaves : input.action = .leave) :
      Heard ctx room input (room.conclude ctx input.playerId (input.actionId.getD ctx.newId) (.accept (room.leave ctx input.playerId)))
  | judged {player : PlayerState} (new : room.processedActions.contains (input.actionId.getD ctx.newId) = false)
      (found : (room.attend ctx input.playerId).player input.playerId = some player) :
      Heard ctx room input
        (room.conclude ctx input.playerId (input.actionId.getD ctx.newId) ((room.attend ctx input.playerId).command ctx player input.action))

theorem TwinRoom.applyTwinAction_heard (ctx : GameContext) (room : TwinRoom) (input : ActionInput) :
    Heard ctx room input (room.applyTwinAction ctx input) := by
  unfold TwinRoom.applyTwinAction
  cases authentic : room.authenticatedPlayer input.playerId input.playerToken with
  | none => exact .unheard
  | some player =>
    have same : player.id = input.playerId := player_id (filter_eq_some_iff.mp authentic).1
    simp only [same]
    split
    · next again => exact .known (by simp [authentic]) (.inl again)
    · next new =>
      split
      · split
        · next leaves => exact .known (by simp [authentic]) (.inr leaves)
        · exact .unheard
      · split
        · next leaves => exact .left leaves
        · cases found : (room.attend ctx input.playerId).player input.playerId with
          | none => exact .unheard
          | some player =>
            have known : player.id = input.playerId := player_id found
            simp only [known]
            exact .judged (eq_false_iff.mpr new) found

theorem Command.played {command : Command} {room : TwinRoom} (draws : command.DrawsNewId room) :
    Played command.ctx (command.deals room) room (command.apply room) := by
  cases command with
  | join ctx input => exact TwinRoom.advance_moves.trans (TwinRoom.seat_moves input draws)
  | read ctx input =>
    change Moves ctx room (room.readTwinSnapshot ctx input).2
    unfold TwinRoom.readTwinSnapshot
    split
    · exact .refl
    · next player _ =>
      extract_lets touched read
      have seen : Mild room touched := .updatePlayer fun row _ => { Alike.refl row with }
      exact .head (.mild seen) TwinRoom.advance_moves
  | act ctx input =>
    change Played ctx (deals (.act ctx input) room) room (room.applyTwinAction ctx input).2
    have heard := room.applyTwinAction_heard ctx input
    simp only [deals]
    generalize room.applyTwinAction ctx input = answered at heard
    cases heard with
    | unheard =>
      simp only [Played, Bool.and_false, false_eq_true, if_false]
      exact .refl
    | known authentic again =>
      have remembers : Moves ctx room (room.rememberAction (input.actionId.getD ctx.newId)) :=
        .single (.mild (TwinRoom.rememberAction_mild _))
      rcases again with again | leaves
      · simp only [again, Bool.not_true, Bool.and_false, Bool.false_and, Played, false_eq_true, if_false]
        exact remembers
      · simp only [leaves, TwinAction.deals, Bool.false_and, Played, false_eq_true, if_false]
        exact remembers
    | left leaves =>
      have gone : Moves ctx room ((room.leave ctx input.playerId).rememberAction (input.actionId.getD ctx.newId)) :=
        .head (.mild (TwinRoom.leave_mild input.playerId)) (.single (.mild (TwinRoom.rememberAction_mild _)))
      simp only [leaves, TwinAction.deals, Bool.false_and, Played, false_eq_true, if_false]
      exact gone
    | @judged player new found =>
      have attended : Moves ctx room (room.attend ctx input.playerId) := TwinRoom.attend_moves input.playerId
      have follows := @TwinRoom.command_follows ctx _ _ _ found input.action
      generalize (room.attend ctx input.playerId).command ctx player input.action = verdict at follows
      cases verdict with
      | accept after =>
        simp only [TwinRoom.conclude, new, Bool.not_false, Bool.and_true]
        have remembers := @TwinRoom.rememberAction_mild after (input.actionId.getD ctx.newId)
        cases dealing : input.action.deals with
        | false =>
          rw [dealing] at follows
          exact (attended.trans follows).tail (.mild remembers)
        | true =>
          rw [dealing] at follows
          obtain ⟨seated, moves, deal⟩ := follows
          exact ⟨seated, after, attended.trans moves, deal, remembers⟩
      | reject =>
        simp only [TwinRoom.conclude, Played, Bool.and_false, false_eq_true, if_false]
        exact attended.trans follows
      | fail =>
        simp only [TwinRoom.conclude, Played, Bool.and_false, false_eq_true, if_false]
        exact .refl

end MilkAndHenny.Twin

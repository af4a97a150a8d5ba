import Mathlib.Logic.Relation
import MilkAndHenny.Centre.Actions

/-! What a command can do to a room: quiet moves, with at most one deed among them that a race is
made of. -/

namespace MilkAndHenny.Centre
open Library Multiplayer

variable {room : CentreRoom} {player : PlayerState} {action : CentreAction}

/-- A time in a race. -/
structure Finish where
  playerId : Nat
  elapsedMs : Int
  finishedAt : Int

/-- What a command does to a race. -/
inductive Deed where
  | calm
  | leave (playerId : Nat)
  | finish (finish : Finish)
  | start (players : List Nat)
  | replay (players : List Nat)
  | lobby

/-- A player whose race is left alone. -/
structure Alike (row other : PlayerState) : Prop where
  id : other.id = row.id
  race : other.toThisRace = row.toThisRace
  gone : other.withdrawn = row.withdrawn

/-- A change that no race depends on. -/
structure Mild (room after : CentreRoom) : Prop where
  phase : after.phase = room.phase
  course : after.course = room.course
  gameNumber : after.gameNumber = room.gameNumber
  rows : Forall₂ Alike room.players after.players

theorem Alike.refl (row : PlayerState) : Alike row row := ⟨rfl, rfl, rfl⟩

theorem alike_rows (rows : List PlayerState) : Forall₂ Alike rows rows := forall₂_same.mpr fun row _ => .refl row

theorem Mild.refl (room : CentreRoom) : Mild room room := ⟨rfl, rfl, rfl, alike_rows _⟩

theorem Mild.updatePlayer {id : Nat} {change : PlayerState → PlayerState}
    (alike : ∀ row, Alike row (change row)) : Mild room (room.updatePlayer id change) :=
  ⟨rfl, rfl, rfl, forall₂_updateFirst Alike.refl fun row _ => alike row⟩

namespace CentreRoom

section
variable {now : Int}

@[simp] theorem changed_phase : (changed room now).phase = room.phase := rfl
@[simp] theorem changed_players : (changed room now).players = room.players := rfl

theorem changed_mild : Mild room (changed room now) := ⟨rfl, rfl, rfl, alike_rows _⟩

theorem mem_activePlayers : player ∈ room.activePlayers ↔ player ∈ room.players ∧ player.withdrawn = false := by
  simp [activePlayers, mem_filter]

theorem player_id {id : Nat} (found : room.player id = some player) : player.id = id :=
  eq_of_beq (find?_some (p := fun row : PlayerState => row.id == id) found)

end

/-- What an action that is carried out does to a race. -/
def deed (ctx : GameContext) (room : CentreRoom) (player : PlayerState) : CentreAction → Deed
  | .finish courseHash route claimedElapsedMs =>
    ((room.onCourse player).filter fun _ => player.elapsedMs.isNone).elim .calm fun (course, startsAt, entranceIndex) =>
      (course.verifies ctx entranceIndex courseHash route claimedElapsedMs).elim .calm fun routeMs =>
        .finish { playerId := player.id, elapsedMs := elapsedMsOf routeMs startsAt ctx.now, finishedAt := ctx.now }
  | .start removePlayerIds =>
    if room.players.any (isUnconfirmed player.id removePlayerIds) then .calm
    else .start ((room.removeUnready player.id removePlayerIds).activePlayers.map (·.id))
  | .replay => .replay (room.activePlayers.map (·.id))
  | .lobby => .lobby
  | _ => .calm

def heard (ctx : GameContext) (room : CentreRoom) (input : ActionInput) : Option PlayerState :=
  if room.processedActions.contains (input.actionId.getD ctx.newId) then none
  else room.validPlayer input.playerId input.playerToken

def judgedDeed (ctx : GameContext) (room : CentreRoom) (playerId : Nat) (action : CentreAction) : Deed :=
  (room.player playerId).elim .calm fun player =>
    if (room.refusal ctx player action).isSome then .calm else room.deed ctx player action

end CentreRoom

def Command.deed : Command → CentreRoom → Deed
  | .act ctx input, room =>
    (room.heard ctx input).elim .calm fun player =>
      if input.action = .leave then .leave player.id
      else (room.attend player.id ctx.now).judgedDeed ctx player.id input.action
  | .join .., _ | .read .., _ | .readReplay .., _ => .calm

inductive Move (ctx : GameContext) (room : CentreRoom) : Deed → CentreRoom → Prop
  | mild {after : CentreRoom} (mild : Mild room after) : Move ctx room .calm after
  | running {now : Int} (counted : room.phase = .countdown) :
      Move ctx room .calm (CentreRoom.changed { room with phase := .racing } now)
  | stopped {now : Int} (finishing : room.phase = .finishing) :
      Move ctx room .calm (CentreRoom.changed { room with phase := .finished } now)
  | seat {name : String} {token : Secret} {joinId : Option Nat} (lobby : room.phase = .lobby)
      (fresh : ∀ player ∈ room.players, player.id ≠ ctx.randomUUID room.revision) :
      Move ctx room .calm (room.seat ctx name token joinId)
  | arm {player : PlayerState} {armed : Bool} (waiting : room.phase = .arming) : Move ctx room .calm (room.arm player armed ctx.now)
  | retire {player : PlayerState} {course : CourseState} {entranceIndex courseHash : Nat} {route : CentreRoute}
      (raced : room.phase = .racing ∨ room.phase = .finishing ∨ room.phase = .finished) :
      Move ctx room .calm (room.retire ctx player course entranceIndex courseHash route ctx.now)
  | leave {player : PlayerState} (found : room.player player.id = some player) (active : player.withdrawn = false) :
      Move ctx room (.leave player.id) (room.leave player.id ctx.now)
  | finish {player : PlayerState} {course : CourseState} {entranceIndex : Nat} {route : CentreRoute} {elapsedMs : Int}
      (found : room.player player.id = some player) (active : player.withdrawn = false) (untimed : player.elapsedMs = none)
      (raced : room.phase = .racing ∨ room.phase = .finishing) (on : room.course = some course) :
      Move ctx room (.finish { playerId := player.id, elapsedMs, finishedAt := ctx.now })
        (room.finish player course entranceIndex route elapsedMs ctx.now)
  | start {player : PlayerState} {removePlayerIds : List Nat} (lobby : room.phase = .lobby)
      (found : room.player player.id = some player) (active : player.withdrawn = false) :
      Move ctx room (.start ((room.removeUnready player.id removePlayerIds).activePlayers.map (·.id)))
        ((room.removeUnready player.id removePlayerIds).startCourse ctx ctx.now)
  | replay {player : PlayerState} (finished : room.phase = .finished)
      (found : room.player player.id = some player) (active : player.withdrawn = false) :
      Move ctx room (.replay (room.activePlayers.map (·.id))) (room.nextGame.startCourse ctx ctx.now)
  | lobby (finished : room.phase = .finished) : Move ctx room .lobby (room.toLobby ctx.now)

/-- One quiet move after another. -/
abbrev Calm (ctx : GameContext) : CentreRoom → CentreRoom → Prop := Relation.ReflTransGen (Move ctx · .calm ·)

def Deed.isLeave : Deed → Bool
  | .leave _ => true
  | _ => false

inductive Played (ctx : GameContext) (room : CentreRoom) (deed : Deed) (after : CentreRoom) : Prop
  | mk {found left : CentreRoom} (before : Calm ctx room found) (move : Move ctx found deed left) (rest : Calm ctx left after)
      (leaves : deed.isLeave = true → found = room ∧ Mild left after)

section
variable {ctx : GameContext} {first after last : CentreRoom} {deed : Deed}

theorem Mild.trans (mild : Mild first room) (next : Mild room after) : Mild first after where
  phase := next.phase.trans mild.phase
  course := next.course.trans mild.course
  gameNumber := next.gameNumber.trans mild.gameNumber
  rows := by
    apply pairs_trans _ mild.rows next.rows
    intro row other third alike next
    exact ⟨next.id.trans alike.id, next.race.trans alike.race, next.gone.trans alike.gone⟩

theorem Calm.mild (mild : Mild room after) : Calm ctx room after := .single (.mild mild)

theorem Calm.played (calm : Calm ctx room after) : Played ctx room .calm after :=
  .mk .refl (.mild (.refl room)) calm Bool.noConfusion

theorem Move.played (move : Move ctx room deed after) : Played ctx room deed after := .mk .refl move .refl fun _ => ⟨rfl, .refl after⟩

theorem Played.tail (played : Played ctx room deed after) (mild : Mild after last) : Played ctx room deed last := by
  obtain ⟨before, move, rest, leaves⟩ := played
  exact .mk before move (rest.tail (.mild mild)) fun left => ⟨(leaves left).1, (leaves left).2.trans mild⟩

theorem Played.head (calm : Calm ctx first room) (played : Played ctx room deed after) (stays : deed.isLeave = false) :
    Played ctx first deed after := by
  obtain ⟨before, move, rest, -⟩ := played
  exact .mk (calm.trans before) move rest fun left => absurd left (by simp [stays])

end

namespace CentreRoom

section
variable {ctx : GameContext}

theorem advance_calm (now : Int) : Calm ctx room (room.advance now) := by
  have counted : Calm ctx room (room.advanceCountdown now) := by
    unfold advanceCountdown
    split
    · next due => exact .single (.running due.1)
    · exact .refl
  apply counted.trans
  unfold advance advanceFinish
  split
  · next due => exact .single (.stopped due.1)
  · exact .refl

theorem advance_rows (now : Int) : (room.advance now).players = room.players := by
  unfold advance advanceFinish advanceCountdown
  split <;> split <;> rfl

theorem attend_calm (playerId : Nat) (now : Int) : Calm ctx room (room.attend playerId now) := by
  have seen : Mild room (room.updatePlayer playerId fun row => { row with lastSeenAt := now }) :=
    .updatePlayer fun row => ⟨rfl, rfl, rfl⟩
  exact .head (.mild seen) (advance_calm now)

theorem attend_found {id : Nat} (found : room.player id = some player) (now : Int) :
    (room.attend id now).player id = some { player with lastSeenAt := now } := by
  have kept := @find?_updateFirst_same _ room.players (·.id == id) (fun row => { row with lastSeenAt := now }) fun _ same => same
  unfold attend CentreRoom.player
  rw [advance_rows]
  exact kept.trans (congrArg (Option.map _) found)

theorem processed_mild (processedActions : List Nat) : Mild room { room with processedActions } := ⟨rfl, rfl, rfl, alike_rows _⟩

theorem rememberAction_mild (actionId : Nat) : Mild room (room.rememberAction actionId) := processed_mild _

theorem requestReadiness_mild (asks : PlayerState → Bool) : Mild room (room.requestReadiness ctx asks) := by
  unfold requestReadiness
  split
  · refine ⟨rfl, rfl, rfl, forall₂_map_right_iff.mpr (forall₂_same.mpr fun row _ => ?_)⟩
    split
    · exact ⟨rfl, rfl, rfl⟩
    · exact .refl row
  · exact .refl room

theorem onCourse_course {course : CourseState} {startsAt : Int} {entranceIndex : Nat}
    (on : room.onCourse player = some (course, startsAt, entranceIndex)) : room.course = some course := by
  obtain ⟨known, isCourse, on⟩ := bind_eq_some_iff.mp on
  obtain ⟨since, -, on⟩ := bind_eq_some_iff.mp on
  obtain ⟨entrance, -, same⟩ := map_eq_some_iff.mp on
  cases same
  exact isCourse

end

end CentreRoom

def Verdict.Follows (ctx : GameContext) (room : CentreRoom) (deed : Deed) : Verdict → Prop
  | .accept after => Played ctx room deed after
  | .reject after .. => deed = .calm ∧ Calm ctx room after

namespace CentreRoom

section
variable {ctx : GameContext} {controls : Bool} {α : Type}

theorem host_open {reason : α} {refused : Option α}
    (open_ : (if controls then refused else some reason) = none) : refused = none := by
  cases controls <;> simp_all

theorem host_phase {reason other : α} {phase : CentrePhase}
    (open_ : (if controls then (if room.phase = phase then none else some other) else some reason) = none) : room.phase = phase := by
  have unrefused := host_open open_
  by_contra apart
  rw [if_neg apart] at unrefused
  cases unrefused

theorem finish_follows (found : room.player player.id = some player) (active : player.withdrawn = false) {courseHash : Nat}
    {route : CentreRoute} {claimedElapsedMs : Int}
    (open_ : room.refusal ctx player (.finish courseHash route claimedElapsedMs) = none) :
    (room.carryOut ctx player (.finish courseHash route claimedElapsedMs)).Follows ctx room
      (room.deed ctx player (.finish courseHash route claimedElapsedMs)) := by
  simp only [carryOut, deed, Verdict.Follows]
  cases on : (room.onCourse player).filter fun _ => player.elapsedMs.isNone with
  | none => exact Calm.played .refl
  | some place =>
    obtain ⟨course, startsAt, entranceIndex⟩ := place
    obtain ⟨on, untimed⟩ := filter_eq_some_iff.mp on
    have untimed : player.elapsedMs = none := by simpa using untimed
    have raced : room.phase = .racing ∨ room.phase = .finishing := by
      simp only [refusal, finishRefusal] at open_
      split at open_
      · cases open_
      · next allowed =>
        obtain ⟨-, running⟩ := filter_eq_some_iff.mp allowed
        simpa [isRunning] using (and_eq_true_iff.mp running).1
    simp only [elim_some]
    cases course.verifies ctx entranceIndex courseHash route claimedElapsedMs with
    | none => exact Calm.played .refl
    | some =>
      exact .mk .refl (.finish found active untimed raced (onCourse_course on)) (advance_calm ctx.now) Bool.noConfusion

theorem start_follows (lobby : room.phase = .lobby) (found : room.player player.id = some player) (active : player.withdrawn = false)
    (removePlayerIds : List Nat) :
    (room.start ctx player.id removePlayerIds).Follows ctx room (room.deed ctx player (.start removePlayerIds)) := by
  simp only [start, deed]
  split
  · exact ⟨rfl, Calm.mild (requestReadiness_mild _)⟩
  · exact Move.played (.start lobby found active)

theorem routes_raced (open_ : room.routeRefusal player = none) :
    room.phase = .racing ∨ room.phase = .finishing ∨ room.phase = .finished := by
  unfold routeRefusal at open_
  split at open_
  · next allowed =>
    obtain ⟨raced, -⟩ := and_eq_true_iff.mp allowed
    simpa [isRunning, or_assoc] using raced
  · cases open_

theorem carryOut_follows (found : room.player player.id = some player) (active : player.withdrawn = false)
    (stays : action ≠ .leave) (open_ : room.refusal ctx player action = none) :
    (room.carryOut ctx player action).Follows ctx room (room.deed ctx player action) := by
  cases action with
  | rename name =>
    have renamed : Mild room (room.updatePlayer player.id fun row => { row.setReady false with name }) :=
      .updatePlayer fun row => ⟨rfl, rfl, rfl⟩
    exact Calm.played (.head (.mild renamed) (Calm.mild changed_mild))
  | readiness ready =>
    have readied : Mild room (room.updatePlayer player.id (·.setReady ready)) := .updatePlayer fun row => ⟨rfl, rfl, rfl⟩
    simp only [carryOut, deed, Verdict.Follows]
    split
    · exact Calm.played .refl
    · exact Calm.played (.head (.mild readied) (Calm.mild changed_mild))
  | arming =>
    have waiting : room.phase = .arming := by simpa [refusal] using open_
    exact Calm.played (.single (.arm waiting))
  | finish => exact finish_follows found active open_
  | progress =>
    simp only [carryOut, deed]
    cases (room.onCourse player).filter fun _ => !room.isThrough player with
    | none => exact Calm.played .refl
    | some =>
      simp only [elim_some, progress]
      split
      · exact ⟨rfl, .refl⟩
      · exact Calm.played (Calm.mild ⟨rfl, rfl, rfl, alike_rows _⟩)
  | retire =>
    have raced := routes_raced (by simpa [refusal] using open_)
    simp only [carryOut, deed, Verdict.Follows]
    cases (room.onCourse player).filter fun _ => !room.isThrough player with
    | none => exact Calm.played .refl
    | some => exact Calm.played (.single (.retire raced))
  | admissionSet =>
    simp only [carryOut, deed, Verdict.Follows]
    split
    · exact Calm.played .refl
    · exact Calm.played (Calm.mild ⟨rfl, rfl, rfl, alike_rows _⟩)
  | passHost | configure => exact Calm.played (Calm.mild ⟨rfl, rfl, rfl, alike_rows _⟩)
  | start removePlayerIds =>
    have lobby : room.phase = .lobby := host_phase (by simpa [refusal, hostRefusal] using open_)
    exact start_follows lobby found active removePlayerIds
  | replay =>
    have finished : room.phase = .finished := host_phase (by simpa [refusal, hostRefusal] using open_)
    exact Move.played (.replay finished found active)
  | lobby =>
    have finished : room.phase = .finished := host_phase (by simpa [refusal, hostRefusal] using open_)
    exact Move.played (.lobby finished)
  | leave => exact absurd rfl stays

theorem seat_calm (input : JoinInput) (fresh : ∀ player ∈ room.players, player.id ≠ ctx.randomUUID room.revision) :
    Calm ctx room (room.join ctx input).2 := by
  unfold join
  extract_lets existing token name seated
  clear_value existing
  split
  · exact .refl
  · split
    · split <;> exact .refl
    · split
      · exact .refl
      · next lobby =>
        split
        · exact .refl
        · split
          · exact .refl
          · split
            · exact .refl
            · split
              · exact .refl
              · exact .single (.seat (not_not.mp lobby) fresh)

end

end CentreRoom

namespace Command

def ctx : Command → GameContext
  | .join ctx _ | .read ctx _ | .readReplay ctx _ _ | .act ctx _ => ctx

def DrawsNewId : Command → CentreRoom → Prop
  | .join ctx _, room => ∀ player ∈ room.players, player.id ≠ ctx.randomUUID (room.advance ctx.clock).revision
  | .read .., _ | .readReplay .., _ | .act .., _ => True

instance : (command : Command) → (room : CentreRoom) → Decidable (command.DrawsNewId room)
  | .join ctx _, room => inferInstanceAs (Decidable (∀ player ∈ room.players, player.id ≠ ctx.randomUUID (room.advance ctx.clock).revision))
  | .read .., _ | .readReplay .., _ | .act .., _ => .isTrue trivial

end Command

namespace CentreRoom
variable {ctx : GameContext} {input : ActionInput}

theorem judgedDeed_stays (id : Nat) (action : CentreAction) : (room.judgedDeed ctx id action).isLeave = false := by
  unfold judgedDeed
  cases room.player id with
  | none => rfl
  | some player =>
    simp only [elim_some]
    split
    · rfl
    · cases action with
      | finish courseHash route claimedElapsedMs =>
        simp only [deed]
        cases (room.onCourse player).filter fun _ => player.elapsedMs.isNone with
        | none => rfl
        | some place =>
          simp only [elim_some]
          cases place.1.verifies ctx place.2.2 courseHash route claimedElapsedMs <;> rfl
      | start =>
        simp only [deed]
        split <;> rfl
      | _ => rfl

theorem command_played {id : Nat} (found : room.player id = some player) (active : player.withdrawn = false)
    (stays : action ≠ .leave) (actionId : Nat) :
    Played ctx room (room.judgedDeed ctx id action) (conclude ctx player.id actionId (room.command ctx player action)).2 := by
  cases player_id found
  unfold judgedDeed command
  simp only [found, elim_some]
  cases refused : room.refusal ctx player action with
  | some =>
    exact Calm.played .refl
  | none =>
    have follows := carryOut_follows found active stays refused
    generalize room.carryOut ctx player action = verdict at follows
    cases verdict with
    | accept => exact Played.tail follows (rememberAction_mild actionId)
    | reject =>
      obtain ⟨calm, moves⟩ := follows
      rw [calm]
      exact Calm.played moves

theorem deed_unheard (unheard : room.heard ctx input = none) : Command.deed (.act ctx input) room = .calm := by
  simp [Command.deed, unheard]

theorem deed_heard (heard : room.heard ctx input = some player) :
    Command.deed (.act ctx input) room = if input.action = .leave then .leave player.id
      else (room.attend player.id ctx.now).judgedDeed ctx player.id input.action := by
  simp [Command.deed, heard]

theorem applyCentreAction_played (input : ActionInput) :
    Played ctx room (Command.deed (.act ctx input) room) (room.applyCentreAction ctx input).2 := by
  unfold applyCentreAction
  cases authentic : room.authenticatedPlayer input.playerId input.playerToken with
  | none =>
    rw [deed_unheard (by simp [heard, validPlayer, authentic])]
    exact Calm.played .refl
  | some player =>
    have found : room.player input.playerId = some player := (filter_eq_some_iff.mp authentic).1
    have same : player.id = input.playerId := player_id found
    extract_lets actionId
    have remembers (after : CentreRoom) : Mild after (after.rememberAction actionId) := rememberAction_mild actionId
    simp only
    split
    · next again =>
      rw [deed_unheard (if_pos again)]
      exact Calm.played (Calm.mild (remembers room))
    · next new =>
      split
      · next gone =>
        rw [deed_unheard (by simp [heard, validPlayer, authentic, gone])]
        split
        · exact Calm.played (Calm.mild (remembers room))
        · exact Calm.played .refl
      · next present =>
        have active : player.withdrawn = false := eq_false_iff.mpr present
        have listens : room.heard ctx input = some player := (if_neg new).trans (by simp [validPlayer, authentic, active])
        rw [deed_heard listens]
        split
        · next leaves =>
          exact Played.tail (Move.played (.leave (same.symm ▸ found) active)) (remembers _)
        · next stays =>
          have there := attend_found found ctx.now
          rw [same, there]
          exact Played.head (attend_calm input.playerId ctx.now) (command_played there active stays actionId) (judgedDeed_stays _ _)

end CentreRoom

theorem Command.played {command : Command} (draws : command.DrawsNewId room) :
    Played command.ctx room (command.deed room) (command.apply room) := by
  cases command with
  | join ctx input =>
    have fresh : ∀ player ∈ (room.advance ctx.clock).players, player.id ≠ ctx.randomUUID (room.advance ctx.clock).revision := by
      rw [CentreRoom.advance_rows]
      exact draws
    exact Calm.played ((CentreRoom.advance_calm ctx.clock).trans (CentreRoom.seat_calm input fresh))
  | read ctx input =>
    change Played ctx room .calm (room.readCentreSnapshot ctx input).2
    unfold CentreRoom.readCentreSnapshot
    split
    · exact Calm.played .refl
    · next player _ =>
      extract_lets touched read
      have seen : Mild room touched := .updatePlayer fun row => ⟨rfl, rfl, rfl⟩
      exact Calm.played (.head (.mild seen) (CentreRoom.advance_calm ctx.clock))
  | readReplay ctx playerId playerToken =>
    change Played ctx room .calm (room.readCentreReplay ctx playerId playerToken).2
    unfold CentreRoom.readCentreReplay
    split
    · exact Calm.played .refl
    · exact Calm.played (CentreRoom.advance_calm ctx.clock)
  | act ctx input => exact CentreRoom.applyCentreAction_played input

end MilkAndHenny.Centre

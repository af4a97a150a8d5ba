import MilkAndHenny.Library.Machine
import MilkAndHenny.SameBrain.Turns

/-! The first round of a game: who starts one, and for whom. -/

namespace MilkAndHenny.SameBrain
open Library Multiplayer

variable {ctx : GameContext} {room : SameBrainRoom}

/-- What a first round asks of a player. -/
def PlayerState.Begins (player : PlayerState) : Prop := player.leftAt = none ∧ player.score = 0 ∧ player.out = false

instance (player : PlayerState) : Decidable player.Begins := inferInstanceAs (Decidable (_ ∧ _))

namespace SameBrainRoom

/-- Enough players, all of them present, without a score and in the game. -/
structure Full (room : SameBrainRoom) : Prop where
  enough : sameBrainMinPlayers ≤ room.players.length
  fresh : ∀ player ∈ room.players, player.Begins

instance (room : SameBrainRoom) : Decidable room.Full :=
  decidable_of_iff (sameBrainMinPlayers ≤ room.players.length ∧ ∀ player ∈ room.players, player.Begins)
    ⟨fun ⟨enough, fresh⟩ => ⟨enough, fresh⟩, fun full => ⟨full.enough, full.fresh⟩⟩

/-- The first round of a game is asked, of a game that was in the lobby or is another than before. -/
def Starts (room after : SameBrainRoom) : Prop :=
  after.phase = .prompt ∧ after.round = 1 ∧ (room.phase = .lobby ∨ after.gameNumber ≠ room.gameNumber)

instance (room after : SameBrainRoom) : Decidable (room.Starts after) := inferInstanceAs (Decidable (_ ∧ _))

def Idle (room : SameBrainRoom) : Prop := room.phase = .lobby ∨ room.phase = .ending

/-- Whoever leaves a lobby is no longer listed. -/
def Present (room : SameBrainRoom) : Prop := room.phase = .lobby → ∀ player ∈ room.players, player.leftAt = none

structure Opening (room : SameBrainRoom) : Prop where
  begun : ¬ room.Idle → 1 ≤ room.round
  first : (room.phase = .prompt ∨ room.phase = .submit) → room.round = 1 →
    sameBrainMinPlayers ≤ room.players.length ∧
      ∀ player ∈ room.players, player.score = 0 ∧ (player.leftAt = none → player.out = false)

/-- The game goes on, or waits to be started. -/
structure Onward (room after : SameBrainRoom) : Prop where
  gameNumber : after.gameNumber = room.gameNumber
  idle : room.Idle → after.Idle
  present : room.Present → after.Present
  opening : room.Opening → after.Opening

def begins (room : SameBrainRoom) : Nat × SameBrainPhase × Nat × List (Int × Bool × Option Int) :=
  (room.gameNumber, room.phase, room.round, room.players.map fun player => (player.score, player.out, player.leftAt))

section
variable {other after : SameBrainRoom} {now : Int} {change : PlayerState → PlayerState}

theorem Onward.refl (room : SameBrainRoom) : Onward room room := ⟨rfl, id, id, id⟩

theorem Onward.trans (first : Onward room other) (second : Onward other after) : Onward room after where
  gameNumber := second.gameNumber.trans first.gameNumber
  idle := second.idle ∘ first.idle
  present := second.present ∘ first.present
  opening := second.opening ∘ first.opening

theorem Onward.notStarts (onward : Onward room after) : ¬ room.Starts after := by
  rintro ⟨asked, -, lobby | other⟩
  · rcases onward.idle (.inl lobby) with waits | ended
    · cases asked.symm.trans waits
    · cases asked.symm.trans ended
  · exact other onward.gameNumber

theorem Onward.quiet (same : after.begins = room.begins) : Onward room after := by
  obtain ⟨game, rest⟩ := Prod.mk.inj same
  obtain ⟨phase, rest⟩ := Prod.mk.inj rest
  obtain ⟨round, players⟩ := Prod.mk.inj rest
  have count : after.players.length = room.players.length := by simpa using congrArg List.length players
  have found : ∀ player ∈ after.players, ∃ old ∈ room.players,
      player.score = old.score ∧ player.out = old.out ∧ player.leftAt = old.leftAt := by
    intro player mem
    have seen : (player.score, player.out, player.leftAt) ∈ room.players.map fun player => (player.score, player.out, player.leftAt) :=
      players ▸ mem_map_of_mem mem
    obtain ⟨old, listed, same⟩ := mem_map.mp seen
    obtain ⟨score, same⟩ := Prod.mk.inj same
    obtain ⟨out, left⟩ := Prod.mk.inj same
    exact ⟨old, listed, score.symm, out.symm, left.symm⟩
  refine ⟨game, fun idle => ?_, fun present lobby player mem => ?_, fun opening => ⟨fun busy => ?_, fun open_ first => ?_⟩⟩
  · unfold Idle
    rwa [phase]
  · obtain ⟨old, listed, -, -, left⟩ := found player mem
    exact left.trans (present (phase ▸ lobby) old listed)
  · have still : ¬ room.Idle := fun idle => busy (by unfold Idle; rwa [phase])
    exact round ▸ opening.begun still
  · obtain ⟨enough, all⟩ := opening.first (phase ▸ open_) (round ▸ first)
    refine ⟨count ▸ enough, fun player mem => ?_⟩
    obtain ⟨old, listed, score, out, left⟩ := found player mem
    rw [score, out, left]
    exact all old listed

theorem Onward.gathered (lobby : room.phase = .lobby) (phase : after.phase = .lobby) (gameNumber : after.gameNumber = room.gameNumber)
    (listed : ∀ player ∈ after.players, player ∈ room.players ∨ player.leftAt = none) : Onward room after where
  gameNumber := gameNumber
  idle _ := .inl phase
  present present _ player mem := (listed player mem).elim (present lobby player) id
  opening _ := ⟨fun busy => absurd (.inl phase) busy, fun open_ => by simp [phase] at open_⟩

theorem Onward.ended (phase : after.phase = .ending) (gameNumber : after.gameNumber = room.gameNumber) : Onward room after where
  gameNumber := gameNumber
  idle _ := .inr phase
  present _ lobby := by simp [phase] at lobby
  opening _ := ⟨fun busy => absurd (.inr phase) busy, fun open_ => by simp [phase] at open_⟩

theorem Onward.further (busy : ¬ room.Idle) (busy' : ¬ after.Idle) (gameNumber : after.gameNumber = room.gameNumber)
    (later : room.round ≤ after.round) (past : after.phase = .sayIt ∨ after.phase = .reveal ∨ room.round < after.round) : Onward room after where
  gameNumber := gameNumber
  idle idle := absurd idle busy
  present _ lobby := absurd (.inl lobby) busy'
  opening opening := by
    have begun := opening.begun busy
    refine ⟨fun _ => begun.trans later, fun open_ first => ?_⟩
    rcases past with said | revealed | next
    · simp [said] at open_
    · simp [revealed] at open_
    · omega

theorem onward_finish : Onward room (room.finish ctx now) := .ended rfl rfl

theorem onward_startRound (revealed : room.phase = .reveal) : Onward room (room.startRound ctx now) := by
  have busy : ¬ room.Idle := by simp [Idle, revealed]
  have busy' : ¬ (room.startRound ctx now).Idle := by simp [Idle, startRound, enterPhase, changed, applyRoomExpiry]
  exact .further busy busy' rfl (Nat.le_succ _) (.inr (.inr (Nat.lt_succ_self _)))

theorem onward_afterReveal (revealed : room.phase = .reveal) : Onward room (room.afterReveal ctx now) := by
  unfold afterReveal
  split
  · exact onward_finish
  · exact onward_startRound revealed

theorem onward_opened (asked : room.phase = .prompt) : Onward room (room.enterPhase ctx .submit now) where
  gameNumber := rfl
  idle idle := by simp [Idle, asked] at idle
  present _ lobby := nomatch lobby
  opening opening := ⟨fun _ => opening.begun (by simp [Idle, asked]), fun _ first => opening.first (.inl asked) first⟩

theorem onward_shown (said : room.phase = .sayIt) : Onward room (room.enterPhase ctx .reveal now) :=
  .further (by simp [Idle, said]) (by simp [Idle, enterPhase, changed, applyRoomExpiry]) rfl le_rfl (.inr (.inl rfl))

theorem onward_closeSubmit (open_ : room.phase = .submit) : Onward room (room.closeSubmit ctx now) := by
  unfold closeSubmit
  extract_lets closed
  unfold applyResult
  extract_lets posted
  obtain ⟨players, awarded, -⟩ := posted.awardResult_keeps (closed.computeResult ctx) 1
  rw [awarded]
  refine .further (by simp [Idle, open_]) ?_ rfl le_rfl ?_
  · split <;> simp [Idle, enterPhase, changed, applyRoomExpiry]
  · split
    · exact .inl rfl
    · exact .inr (.inl rfl)

theorem onward_advance : Onward room (room.advance ctx now) := by
  unfold advance
  split
  · exact .refl room
  · rw [advancePhases]
    split
    · exact .refl room
    · split
      · next asked =>
        rw [advancePhases_enterPhase]
        exact onward_opened asked
      · next open_ => exact onward_closeSubmit open_
      · next said =>
        rw [advancePhases_enterPhase]
        exact onward_shown said
      · next revealed =>
        rw [advancePhases_afterReveal]
        exact onward_afterReveal revealed
      · exact .refl room
      · exact .refl room

theorem begins_updatePlayer {id : Nat}
    (kept : ∀ row, ((change row).score, (change row).out, (change row).leftAt) = (row.score, row.out, row.leftAt)) :
    (room.updatePlayer id change).begins = room.begins :=
  congrArg (fun players => (room.gameNumber, room.phase, room.round, players)) (map_updateFirst kept)

theorem onward_told {id : Nat}
    (kept : ∀ row, ((change row).score, (change row).out, (change row).leftAt) = (row.score, row.out, row.leftAt)) :
    Onward room (changed ctx (room.updatePlayer id change)) := by
  have same : (room.updatePlayer id change).begins = room.begins := begins_updatePlayer kept
  exact .quiet same

theorem onward_touch (playerId : Option Nat) (force : Bool) : Onward room (room.touch playerId now force) := by
  refine .quiet ?_
  unfold touch
  extract_lets seen
  have same : seen.begins = room.begins := by
    simp only [seen]
    cases playerId.bind room.player with
    | none => rfl
    | some => exact begins_updatePlayer fun _ => rfl
  exact same

theorem onward_attend (playerId : Option Nat) : Onward room (room.attend ctx playerId) := (onward_touch playerId true).trans onward_advance

theorem Onward.departed (busy : room.phase ≠ .lobby) (phase : after.phase = room.phase) (round : after.round = room.round)
    (gameNumber : after.gameNumber = room.gameNumber)
    (players : Forall₂ (fun row other => other.score = row.score ∧ (other.leftAt = none → row.leftAt = none ∧ other.out = row.out))
      room.players after.players) : Onward room after := by
  refine ⟨gameNumber, fun idle => by unfold Idle; rwa [phase], fun _ lobby => absurd (phase ▸ lobby) busy, fun opening => ⟨fun busy => ?_, ?_⟩⟩
  · have still : ¬ room.Idle := fun idle => busy (by unfold Idle; rwa [phase])
    exact round ▸ opening.begun still
  · intro open_ first
    obtain ⟨enough, all⟩ := opening.first (phase ▸ open_) (round ▸ first)
    refine ⟨players.length_eq ▸ enough, fun player mem => ?_⟩
    obtain ⟨old, listed, score, here⟩ := mem_pairs players mem
    obtain ⟨none_, in_⟩ := all old listed
    exact ⟨score.trans none_, fun stays => (here stays).2.trans (in_ (here stays).1)⟩

theorem onward_depart (busy : room.phase ≠ .lobby) (id : Nat) (secret : Secret) : Onward room (room.depart id now secret) := by
  refine .departed busy rfl rfl rfl (forall₂_updateFirst (fun row => ?_) fun row _ => ?_)
  · exact ⟨rfl, fun here => ⟨here, rfl⟩⟩
  · exact ⟨rfl, nofun⟩

theorem onward_changed : Onward room (changed ctx room) := .quiet rfl

variable (id : Nat)

theorem onward_transferHost : Onward room (room.transferHost id now) := .quiet rfl

theorem onward_handOver {p : Prop} [Decidable p] (gone : Onward room other) :
    Onward room (changed ctx (if p then other.transferHost id now else other)) := by
  refine gone.trans (Onward.trans ?_ onward_changed)
  split
  · exact onward_transferHost id
  · exact .refl other

theorem onward_dismissed (lobby : room.phase = .lobby) (id : Nat) (expiresAt : Int) :
    Onward room { room with players := room.players.filter (·.id ≠ id), expiresAt } :=
  .gathered lobby lobby rfl fun _ mem => .inl (mem_filter.mp mem).1

theorem onward_removePlayer : Onward room (leftBy (room.removePlayer ctx id)) := by
  unfold removePlayer
  split
  · exact .refl room
  · refine onward_handOver _ ?_
    split
    · next lobby => exact onward_dismissed lobby id room.expiresAt
    · next busy => exact onward_depart busy _ _

theorem onward_walkOut (busy : room.phase ≠ .lobby) (id : Nat) : Onward room (room.walkOut ctx id) := by
  have gone : Onward room (room.depart id ctx.now (.left ctx.newId id)) := onward_depart busy id _
  unfold walkOut
  extract_lets left
  split
  · exact gone.trans onward_finish
  · exact gone

theorem onward_leaveRoom : Onward room (room.leaveRoom ctx id) := by
  refine onward_handOver _ ?_
  split
  · next lobby =>
    extract_lets dismissed
    split
    · exact onward_dismissed lobby id ctx.now
    · exact onward_dismissed lobby id room.expiresAt
  · next busy => exact onward_walkOut busy id

theorem onward_correct (round : Nat) (groups : Option (Nat × Nat)) : Onward room (leftBy (room.correct ctx round groups)) := by
  unfold correct
  split
  · exact .refl room
  · next result current =>
    obtain ⟨-, revealed⟩ := filter_eq_some_iff.mp current
    split
    · exact .refl room
    · cases corrected : room.corrected ctx result groups with
      | error => exact corrected_refused corrected ▸ .refl room
      | ok next =>
        have replaced : Onward room (room.replaceResult ctx result next) := by
          obtain ⟨players, undone, -⟩ := room.awardResult_keeps result (-1)
          unfold replaceResult
          rw [undone]
          obtain ⟨others, again, -⟩ := SameBrainRoom.awardResult_keeps { room with players, result := some next } next 1
          rw [again]
          have revealed : room.phase = .reveal := eq_of_beq revealed
          exact .further (by simp [Idle, revealed]) (by simp [Idle, changed, applyRoomExpiry, revealed]) rfl le_rfl (.inr (.inl revealed))
        exact replaced

theorem onward_requestReadiness (waited : List PlayerState) (actionId : Nat) : Onward room (room.requestReadiness ctx waited actionId) := by
  unfold requestReadiness
  extract_lets asks
  split
  · refine .quiet (congrArg (fun players => (room.gameNumber, room.phase, room.round, players)) ?_)
    refine map_update ?_
    exact fun _ => rfl
  · exact .refl room

theorem onward_configure (rounds : Option Nat) (toggles : Option TogglesPatch) (timings : Option TimingsPatch) :
    Onward room (leftBy (room.configure ctx rounds toggles timings)) := by
  unfold configure
  split
  · exact .refl room
  · split
    · exact .refl room
    · exact .quiet rfl

theorem onward_advanceByHost : Onward room (leftBy (room.advanceByHost ctx)) := by
  unfold advanceByHost
  split
  · next open_ => exact onward_closeSubmit open_
  · next asked => exact onward_opened asked
  · next said => exact onward_shown said
  · next revealed => exact onward_afterReveal revealed
  · exact .refl room
  · exact .refl room

theorem onward_skipQuestion (asked : room.phase = .prompt ∨ room.phase = .submit) :
    Onward room ({ room with round := room.round - 1 }.startRound ctx now) := by
  have busy : ¬ room.Idle := by rcases asked with asked | asked <;> simp [Idle, asked]
  refine ⟨rfl, fun idle => absurd idle busy, fun _ lobby => (nomatch lobby), fun opening => ?_⟩
  have begun := opening.begun busy
  have same : ({ room with round := room.round - 1 }.startRound ctx now).round = room.round := Nat.sub_add_cancel begun
  refine ⟨fun _ => same ▸ begun, fun _ first => ?_⟩
  obtain ⟨enough, all⟩ := opening.first asked (same ▸ first)
  refine ⟨(length_map _).symm ▸ enough, fun player mem => ?_⟩
  obtain ⟨old, listed, rfl⟩ := mem_map.mp mem
  exact all old listed

theorem startGame_cases (removePlayerIds : List Nat) (actionId : Nat) :
    Onward room (leftBy (room.startGame ctx removePlayerIds actionId)) ∨
    ∃ after, room.startGame ctx removePlayerIds actionId = .ok after ∧ (room.Present → after.Full) ∧ after.phase = .prompt ∧ after.round = 1 := by
  unfold startGame
  split
  · exact .inl (.refl room)
  · next lobby =>
    split
    · exact .inl (.refl room)
    · extract_lets waited remaining seated begun
      split
      · exact .inl (onward_requestReadiness waited actionId)
      · split
        · exact .inl (.refl room)
        · next enough =>
          have listed : seated.players = remaining := by
            by_cases all : remaining.length = room.players.length
            · have same : seated = room := if_pos all
              rw [same]
              exact ((filter_sublist).eq_of_length all).symm
            · have fewer : seated = changed ctx { room with players := remaining } := if_neg all
              rw [fewer]
              rfl
          refine .inr ⟨_, rfl, fun present => ⟨?_, fun player mem => ?_⟩, rfl, rfl⟩
          · simpa [begun, startRound, enterPhase, changed, applyRoomExpiry, listed] using enough
          · obtain ⟨old, cleared, rfl⟩ := mem_map.mp mem
            obtain ⟨first, seat, rfl⟩ := mem_map.mp cleared
            have here := present (not_not.mp lobby) first (mem_filter.mp (listed ▸ seat)).1
            exact ⟨here, rfl, rfl⟩

def isNewGame : SameBrainHostAction → Bool
  | .start _ | .replay | .lobby => true
  | _ => false

theorem hostCommand_onward (actionId : Nat) {action : SameBrainHostAction} (same : isNewGame action = false) :
    Onward room (leftBy (room.hostCommand ctx actionId action)) := by
  cases action with
  | start | replay | lobby => cases same
  | configure rounds toggles timings => exact onward_configure rounds toggles timings
  | advance => exact onward_advanceByHost
  | merge round source target => exact onward_correct round (some (source, target))
  | reset round => exact onward_correct round none
  | remove playerId => exact onward_removePlayer playerId
  | endGame => exact onward_finish
  | skipQuestion =>
    simp only [hostCommand]
    split
    · exact .refl room
    · next asked => exact onward_skipQuestion (by rwa [← or_iff_not_and_not] at asked)
  | admissionSet | extend | pause | resume | passHost =>
    simp only [hostCommand]
    repeat' split
    all_goals exact .quiet rfl

theorem onward_submitAnswer (text : String) : Onward room (room.submitAnswer ctx id text) := by
  unfold submitAnswer
  extract_lets answered
  have given : Onward room answered := by
    refine onward_told ?_
    exact fun _ => rfl
  split
  · next full => exact given.trans (onward_closeSubmit full.1)
  · exact given

theorem playerCommand_onward (player : PlayerState) (action : SameBrainPlayerAction) :
    Onward room (leftBy (room.playerCommand ctx player action)) := by
  have answers (round : Nat) (text : Option String) : Onward room (leftBy (room.answerCommand ctx player.id round text)) := by
    unfold answerCommand
    split
    · exact .refl room
    · split
      · exact .refl room
      · cases text with
        | none =>
          refine onward_told ?_
          exact fun _ => rfl
        | some text =>
          dsimp only
          split
          · exact onward_submitAnswer player.id text
          · exact .refl room
  cases action with
  | leave => exact onward_leaveRoom player.id
  | rename | readiness =>
    simp only [playerCommand]
    repeat' split
    · exact .refl room
    · exact .refl room
    · refine onward_told ?_
      exact fun _ => rfl
  | submit round text =>
    simp only [playerCommand]
    split
    · exact .refl room
    · exact answers round (some text)
  | clear round =>
    simp only [playerCommand]
    split
    · exact .refl room
    · exact answers round none
  | claimHost =>
    simp only [playerCommand]
    split
    · exact .refl room
    · exact .quiet rfl

theorem onward_join (joinToken hostToken : Option Secret) (name : String) :
    Onward room (room.joinSameBrainRoom ctx joinToken hostToken name).2 := by
  unfold joinSameBrainRoom
  extract_lets name taken
  split
  · exact .refl room
  · split
    · exact .refl room
    · next open_ =>
      obtain ⟨lobby, -⟩ := not_or.mp open_
      split
      · exact .refl room
      · split
        · exact .refl room
        · refine .gathered (not_not.mp lobby) (not_not.mp lobby) rfl fun player mem => ?_
          rcases mem_append.mp mem with old | new
          · exact .inl old
          · exact .inr (mem_singleton.mp new ▸ rfl)

theorem begins_rememberAction (room : SameBrainRoom) (actionId : Nat) : (room.rememberAction actionId).gameNumber = room.gameNumber ∧
    (room.rememberAction actionId).phase = room.phase ∧ (room.rememberAction actionId).round = room.round ∧
    (room.rememberAction actionId).players = room.players := by
  unfold rememberAction
  exact ⟨rfl, rfl, rfl, rfl⟩

theorem resetGame_fresh : room.resetGame.players.length = room.presentPlayerCount ∧ ∀ player ∈ room.resetGame.players, player.Begins := by
  refine ⟨by simp [resetGame, presentPlayerCount, countP_eq_length_filter], fun player mem => ?_⟩
  obtain ⟨old, listed, rfl⟩ := mem_map.mp mem
  have here := (mem_filter.mp listed).2
  exact ⟨isNone_iff_eq_none.mp here, rfl, rfl⟩

end

end SameBrainRoom

open SameBrainRoom

namespace Command
variable {command : Command}

def hostAction (command : Command) (room : SameBrainRoom) : Option SameBrainHostAction :=
  match command with
  | .host _ input => if room.mayHost input && !(command.finds room).processedActions.contains input.actionId then some input.action else none
  | _ => none

/-- A `game.replay`, in whatever phase. -/
def replays (command : Command) (room : SameBrainRoom) : Bool :=
  match command.hostAction room with
  | some .replay => true
  | _ => false

/-- A `game.skipQuestion` that asks the first round again. -/
def skipsFirst (command : Command) (room : SameBrainRoom) : Bool :=
  match command.hostAction room with
  | some .skipQuestion => ((command.finds room).phase == .prompt || (command.finds room).phase == .submit) && (command.finds room).round == 1
  | _ => false

inductive Outcome (command : Command) (room after : SameBrainRoom) : Prop
  | onward (goes : Onward room after) (other : command.replays room = false)
  | started (full : (command.finds room).Present → after.Full) (asked : after.phase = .prompt) (first : after.round = 1)
      (other : command.replays room = false) (new : command.skipsFirst room = false)
  | replayed (again : command.replays room = true) (new : command.skipsFirst room = false) (asked : after.phase = .prompt)
      (first : after.round = 1) (next : after.gameNumber = room.gameNumber + 1)
      (count : after.players.length = (command.finds room).presentPlayerCount) (fresh : ∀ player ∈ after.players, player.Begins)
  | gathered (lobby : after.phase = .lobby) (fresh : ∀ player ∈ after.players, player.Begins)
      (other : command.replays room = false) (new : command.skipsFirst room = false)

theorem finds_onward (command : Command) (room : SameBrainRoom) : Onward room (command.finds room) := by
  unfold finds
  split
  · exact .refl room
  · exact .refl room
  · exact onward_advance
  · split
    · exact onward_attend _
    · exact .refl room
  · split
    · exact onward_attend _
    · exact .refl room

theorem onward_answer {viewerId : Option Nat} {actionId : Nat} {command : Except Rejected SameBrainRoom}
    (onward : Onward room (leftBy command)) : Onward room (room.answer ctx viewerId actionId command).2 := by
  unfold answer
  split
  · exact .refl room
  · cases command with
    | error => exact onward
    | ok after =>
      have remembered : Onward after (after.rememberAction actionId) := .quiet (by simp [begins, rememberAction])
      exact onward.trans remembered

theorem host_outcome {input : HostInput} {found : SameBrainRoom} (finding : (Command.host ctx input).finds room = found)
    (onward : Onward room found) (new : ¬ found.processedActions.contains input.actionId = true)
    (brings : (Command.host ctx input).hostAction room = some input.action) :
    Outcome (.host ctx input) room (found.answer ctx input.playerId input.actionId (found.hostCommand ctx input.actionId input.action)).2 := by
  have answered (after : SameBrainRoom) (carried : found.hostCommand ctx input.actionId input.action = .ok after) :
      (found.answer ctx input.playerId input.actionId (found.hostCommand ctx input.actionId input.action)).2 = after.rememberAction input.actionId := by
    simp only [carried, SameBrainRoom.answer, if_neg new]
  have goes (other : (Command.host ctx input).replays room = false)
      (goes : Onward found (leftBy (found.hostCommand ctx input.actionId input.action))) :
      Outcome (.host ctx input) room (found.answer ctx input.playerId input.actionId (found.hostCommand ctx input.actionId input.action)).2 :=
    .onward (onward.trans (onward_answer goes)) other
  cases asked : input.action with
  | start removePlayerIds =>
    have other : (Command.host ctx input).replays room = false := by simp [replays, brings, asked]
    rw [asked] at answered goes
    rcases @startGame_cases ctx found removePlayerIds input.actionId with waits | ⟨after, begun, full, phase, round⟩
    · exact goes other waits
    · rw [answered after begun]
      obtain ⟨-, phase', round', players⟩ := begins_rememberAction after input.actionId
      have full (present : found.Present) : (after.rememberAction input.actionId).Full :=
        ⟨by rw [players]; exact (full present).enough, by rw [players]; exact (full present).fresh⟩
      exact .started (finding ▸ full) (phase'.trans phase) (round'.trans round) other (by simp [skipsFirst, brings, asked])
  | replay =>
    obtain ⟨count, fresh⟩ := @resetGame_fresh found
    rw [asked] at answered
    rw [answered _ rfl]
    obtain ⟨gameNumber, phase, round, players⟩ := begins_rememberAction (found.resetGame.startRound ctx ctx.now) input.actionId
    refine .replayed (by simp [replays, brings, asked]) (by simp [skipsFirst, brings, asked]) phase round
      (gameNumber.trans (congrArg (· + 1) onward.gameNumber)) ?_ fun player mem => ?_
    · rw [players, finding, ← count]
      exact length_map _
    · obtain ⟨old, listed, rfl⟩ := mem_map.mp mem
      exact fresh old listed
  | lobby =>
    rw [asked] at answered
    rw [answered _ rfl]
    obtain ⟨-, phase, -, players⟩ := begins_rememberAction (found.resetGame.enterPhase ctx .lobby ctx.now) input.actionId
    exact .gathered phase (by rw [players]; exact (@resetGame_fresh found).2) (by simp [replays, brings, asked]) (by simp [skipsFirst, brings, asked])
  | _ =>
    rw [asked] at goes
    exact goes (by simp [replays, brings, asked]) (hostCommand_onward _ rfl)

theorem apply_outcome (command : Command) (room : SameBrainRoom) : Outcome command room (command.apply room) := by
  have onward := finds_onward command room
  cases command with
  | join ctx joinToken hostToken name => exact .onward (onward_join joinToken hostToken name) rfl
  | pump => exact .onward onward rfl
  | read ctx credential playerId =>
    refine .onward ?_ rfl
    simp only [apply, readSameBrainSnapshot]
    split
    · exact onward_touch playerId false
    · exact .refl room
  | play ctx input =>
    refine .onward ?_ rfl
    simp only [apply, applySameBrainPlayerAction]
    split
    · split
      · exact (onward_attend _).trans (onward_answer (playerCommand_onward _ input.action))
      · exact onward_attend _
    · exact .refl room
  | host ctx input =>
    simp only [apply, applySameBrainHostAction]
    by_cases may : room.mayHost input = true
    · have finding : (Command.host ctx input).finds room = room.attend ctx input.playerId := if_pos may
      rw [if_pos may, ← finding]
      generalize finding' : (Command.host ctx input).finds room = found at onward
      by_cases known : found.processedActions.contains input.actionId = true
      · have none_ : (Command.host ctx input).hostAction room = none := if_neg (by rw [finding', known]; simp)
        simp only [SameBrainRoom.answer, if_pos known]
        exact .onward onward (by simp [replays, none_])
      · exact host_outcome finding' onward known (if_pos (by rw [may, finding', eq_false_iff.mpr known]; rfl))
    · rw [if_neg may]
      exact .onward (.refl room) (by simp [replays, hostAction, may])

theorem apply_skipsFirst (skips : command.skipsFirst room = true) :
    ((command.finds room).phase = .prompt ∨ (command.finds room).phase = .submit) ∧ (command.finds room).round = 1 ∧
      (command.apply room).players = (command.finds room).players.map fun player => { player with answer := none } := by
  unfold skipsFirst at skips
  cases command with
  | join | pump | read | play => cases skips
  | host ctx input =>
    cases brought : (Command.host ctx input).hostAction room with
    | none => simp [brought] at skips
    | some action =>
      obtain ⟨heard, same⟩ := Option.ite_none_right_eq_some.mp brought
      obtain ⟨may, new⟩ := and_eq_true_iff.mp heard
      cases same
      cases asked : input.action with
      | skipQuestion =>
        simp only [brought, asked, and_eq_true, or_eq_true, beq_iff_eq] at skips
        refine ⟨skips.1, skips.2, ?_⟩
        have open_ : ¬ ((Command.host ctx input).finds room).phase ≠ .prompt ∨ ¬ ((Command.host ctx input).finds room).phase ≠ .submit :=
          skips.1.imp not_not.mpr not_not.mpr
        have finding : (Command.host ctx input).finds room = room.attend ctx input.playerId := if_pos may
        rw [not_eq_true'] at new
        simp only [apply, applySameBrainHostAction, may, if_true, ← finding, SameBrainRoom.answer, new, false_eq_true, if_false, asked,
          hostCommand, if_neg (not_and_or.mpr open_)]
        exact (begins_rememberAction _ _).2.2.2
      | _ => simp [brought, asked] at skips

theorem starts_iff (command : Command) (present : room.Present) :
    (room.Starts (command.apply room) → (command.apply room).Full) ↔
      (command.replays room = true → sameBrainMinPlayers ≤ (command.finds room).presentPlayerCount) := by
  cases command.apply_outcome room with
  | onward goes other => exact iff_of_true (fun starts => absurd starts goes.notStarts) (by simp [other])
  | started full _ _ other =>
    exact iff_of_true (fun _ => full ((command.finds_onward room).present present)) (by simp [other])
  | gathered lobby _ other => exact iff_of_true (fun starts => (by simp [starts.1] at lobby)) (by simp [other])
  | replayed again _ asked first next count fresh =>
    have starts : room.Starts (command.apply room) := ⟨asked, first, .inr (by omega)⟩
    constructor
    · intro full _
      exact count ▸ (full starts).enough
    · intro enough _
      exact ⟨count ▸ enough again, fresh⟩

theorem apply_present (command : Command) (present : room.Present) : (command.apply room).Present := by
  cases command.apply_outcome room with
  | onward goes => exact goes.present present
  | started _ asked _ _ _ | replayed _ _ asked _ _ _ _ => exact fun lobby => by simp [asked] at lobby
  | gathered _ fresh => exact fun _ player mem => (fresh player mem).1

theorem skipsFirst_iff (opening : room.Opening) (skips : command.skipsFirst room = true) :
    (command.apply room).Full ↔ ∀ player ∈ (command.finds room).players, player.leftAt = none := by
  obtain ⟨asked, first, players⟩ := apply_skipsFirst skips
  obtain ⟨enough, all⟩ := ((command.finds_onward room).opening opening).first asked first
  constructor
  · intro full player mem
    exact (full.fresh { player with answer := none } (players ▸ mem_map_of_mem mem)).1
  · intro stayed
    refine ⟨by rwa [players, length_map], fun player mem => ?_⟩
    rw [players] at mem
    obtain ⟨old, listed, rfl⟩ := mem_map.mp mem
    exact ⟨stayed old listed, (all old listed).1, (all old listed).2 (stayed old listed)⟩

theorem apply_opening (command : Command) (present : room.Present) (opening : room.Opening)
    (enough : command.replays room = true → sameBrainMinPlayers ≤ (command.finds room).presentPlayerCount) : (command.apply room).Opening := by
  have full {after : SameBrainRoom} (full : after.Full) (first : after.round = 1) : after.Opening :=
    ⟨fun _ => first.ge, fun _ _ => ⟨full.enough, fun player mem => ⟨(full.fresh player mem).2.1, fun _ => (full.fresh player mem).2.2⟩⟩⟩
  cases command.apply_outcome room with
  | onward goes => exact goes.opening opening
  | started begun _ first => exact full (begun ((command.finds_onward room).present present)) first
  | gathered lobby => exact ⟨fun busy => absurd (.inl lobby) busy, fun open_ => by simp [lobby] at open_⟩
  | replayed again _ _ first _ count fresh => exact full ⟨count ▸ enough again, fresh⟩ first

end Command

/-- In every run, the games are started for enough players who are all present, exactly where no replay finds too few;
and a first round that is asked again still has them all, exactly where nobody has left it. -/
theorem first_rounds_full_iff (ctx : GameContext) (rounds : Option Nat) (toggles : TogglesPatch) (timings : TimingsPatch) (managed : Bool)
    (officialResultChannelId : Option Nat) (commands : List Command) :
    let created := createSameBrainRoom ctx rounds toggles timings managed officialResultChannelId
    (EachStep Command.apply (fun command room => room.Starts (command.apply room) → (command.apply room).Full) created commands ↔
      EachStep Command.apply (fun command room =>
        command.replays room = true → sameBrainMinPlayers ≤ (command.finds room).presentPlayerCount) created commands) ∧
    (EachStep Command.apply (fun command room =>
        (room.Starts (command.apply room) ∨ command.skipsFirst room = true) → (command.apply room).Full) created commands ↔
      EachStep Command.apply (fun command room =>
        (command.replays room = true → sameBrainMinPlayers ≤ (command.finds room).presentPlayerCount) ∧
        (command.skipsFirst room = true → ∀ player ∈ (command.finds room).players, player.leftAt = none)) created commands) := by
  intro created
  have present : created.Present := fun _ player mem => absurd mem not_mem_nil
  have opening : created.Opening := ⟨fun busy => absurd (.inl rfl) busy, nofun⟩
  constructor
  · refine EachStep.iff_within (fun room => room.Present) (fun present => ⟨Command.starts_iff _ present, fun _ => Command.apply_present _ present⟩) present
  · refine EachStep.iff_within (fun room => room.Present ∧ room.Opening) (fun {room command} inside => ⟨?_, fun meets => ?_⟩) ⟨present, opening⟩
    · rw [or_imp]
      exact and_congr (Command.starts_iff command inside.1) (forall_congr' fun skips => Command.skipsFirst_iff inside.2 skips)
    · exact ⟨Command.apply_present _ inside.1, Command.apply_opening _ inside.1 inside.2 meets.1⟩

/-- Two of three players leave their game, and the host replays it for the one who is left. -/
theorem first_rounds_full_alone : ¬ ∀ (ctx : GameContext) (rounds : Option Nat) (toggles : TogglesPatch) (timings : TimingsPatch) (managed : Bool)
    (officialResultChannelId : Option Nat) (commands : List Command),
    EachStep Command.apply (fun command room => room.Starts (command.apply room) → (command.apply room).Full)
      (createSameBrainRoom ctx rounds toggles timings managed officialResultChannelId) commands := by
  intro full
  have begun := full (.plain 1) none {} {} false none
    (joins ["Ann", "Bea", "Cal"] ++ [.by 2 2 1 (.readiness true), .by 4 2 2 (.readiness true), .by 6 2 3 (.readiness true),
      .byHost 3 4 (.start []), .by 4 4 5 .leave, .by 6 5 6 .leave, .byHost 6 7 .replay])
  revert begun
  decide +kernel

end MilkAndHenny.SameBrain

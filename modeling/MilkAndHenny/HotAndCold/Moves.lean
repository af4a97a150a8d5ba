import MilkAndHenny.Library.Roster
import MilkAndHenny.HotAndCold.Actions

/-! What a command can do to the scores of a room: nothing, a reveal, another player, the end of
the game or a rematch. -/

namespace MilkAndHenny.HotAndCold
open Library Multiplayer

variable {ctx : GameContext} {room after : HotAndColdRoom}

/-- A player whose points are left alone, and who does not come back. -/
structure Alike (row other : PlayerState) : Prop where
  score : other.score = row.score
  gone : row.withdrawn = true → other.withdrawn = true

theorem Alike.refl (row : PlayerState) : Alike row row := ⟨rfl, fun gone => gone⟩

theorem Alike.trans (row other third : PlayerState) (first : Alike row other) (second : Alike other third) : Alike row third :=
  ⟨second.score.trans first.score, fun gone => second.gone (first.gone gone)⟩

/-- Rows that are left alone; nobody who has gone is dropped. -/
structure Rows (players others : List PlayerState) : Prop where
  rows : Descends (·.id) Alike players others
  stays : ∀ row ∈ players, row.withdrawn = true → ∃ other ∈ others, other.id = row.id ∧ Alike row other
  peopled : players ≠ [] → others ≠ []

namespace Rows
variable {players others thirds : List PlayerState} {change : PlayerState → PlayerState} {which : PlayerState → Bool}

theorem refl (players : List PlayerState) : Rows players players :=
  ⟨.refl Alike.refl players, fun row mem _ => ⟨row, mem, rfl, .refl row⟩, fun some => some⟩

theorem trans (first : Rows players others) (second : Rows others thirds) : Rows players thirds where
  rows := first.rows.trans Alike.trans second.rows
  stays row mem gone := by
    obtain ⟨other, listed, same, alike⟩ := first.stays row mem gone
    obtain ⟨third, listed, sameThird, next⟩ := second.stays other listed (alike.gone gone)
    exact ⟨third, listed, sameThird.trans same, alike.trans row other third next⟩
  peopled some := second.peopled (first.peopled some)

theorem of_pairs (pairs : Forall₂ (fun row other => other.id = row.id ∧ Alike row other) players others) : Rows players others where
  rows := .of_pairs pairs
  stays row mem _ := mem_pairs pairs.flip mem
  peopled some none := by
    subst none
    cases pairs
    exact some rfl

theorem updateFirst
    (alike : ∀ row, (change row).id = row.id ∧ Alike row (change row)) : Rows players (updateFirst players which change) :=
  .of_pairs (forall₂_updateFirst (fun row => ⟨rfl, .refl row⟩) fun row _ => alike row)

theorem update
    (alike : ∀ row, (change row).id = row.id ∧ Alike row (change row)) : Rows players (update players which change) := by
  refine .of_pairs (forall₂_map_right_iff.mpr (forall₂_same.mpr fun row _ => ?_))
  split
  · exact alike row
  · exact ⟨rfl, .refl row⟩

theorem filter {p : PlayerState → Bool} (gone : ∀ row, row.withdrawn = true → p row = true) {row : PlayerState} (mem : row ∈ players)
    (kept : p row = true) : Rows players (players.filter p) where
  rows := .filter Alike.refl p
  stays row mem left := ⟨row, mem_filter.mpr ⟨mem, gone row left⟩, rfl, .refl row⟩
  peopled _ := ne_nil_of_mem (mem_filter.mpr ⟨mem, kept⟩)

end Rows

/-- A change that no score depends on. -/
structure Mild (room after : HotAndColdRoom) : Prop where
  rows : Rows room.players after.players
  gameNumber : after.gameNumber = room.gameNumber
  channel : after.officialResultChannelId = room.officialResultChannelId
  lobby : after.phase = .lobby → room.phase = .lobby
  unrevealed : room.phase = .playing ∨ room.phase = .finished → after.phase ≠ .reveal
  unfinished : after.phase = .finished → room.phase = .finished

/-- Whoever is still there starts from nothing, and whoever has left keeps the score. -/
structure Rematched (room after : HotAndColdRoom) : Prop where
  ids : (after.players.map (·.id)).Sublist (room.players.map (·.id))
  peopled : room.players ≠ [] → after.players ≠ []
  fresh : ∀ row ∈ after.players, row.withdrawn = false → row.score = 0
  gameNumber : after.gameNumber = room.gameNumber + 1
  channel : after.officialResultChannelId = room.officialResultChannelId
  unfinished : after.phase ≠ .finished

structure Revealed (room found after : HotAndColdRoom) (round : RoundState) : Prop where
  mild : Mild room found
  playing : room.phase = .playing
  players : after.players = HotAndColdRoom.award found.players (found.winnersOf round)
  winners : after.round.map (·.winnerIds) = some (found.winnersOf round)
  gameNumber : after.gameNumber = room.gameNumber
  channel : after.officialResultChannelId = room.officialResultChannelId
  phase : after.phase = .reveal

structure Finished (room after : HotAndColdRoom) : Prop where
  rows : Rows room.players after.players
  gameNumber : after.gameNumber = room.gameNumber
  channel : after.officialResultChannelId = room.officialResultChannelId
  revealed : room.phase = .reveal
  phase : after.phase = .finished

/-- The moves that reads and actions are made of; one of them ends the game. -/
inductive Move (room : HotAndColdRoom) : Bool → HotAndColdRoom → Prop
  | mild {after : HotAndColdRoom} (mild : Mild room after) : Move room false after
  | reveal {found after : HotAndColdRoom} {round : RoundState} (revealed : Revealed room found after round) : Move room false after
  | finish {after : HotAndColdRoom} (finished : Finished room after) : Move room true after
  | rematch {after : HotAndColdRoom} (rematched : Rematched room after) : Move room false after

theorem Mild.refl (room : HotAndColdRoom) : Mild room room :=
  ⟨.refl _, rfl, rfl, fun lobby => lobby, fun apart revealed => by simp [revealed] at apart, fun finished => finished⟩

namespace HotAndColdRoom

section
variable {room : HotAndColdRoom} {clock : Int}

@[simp] theorem changed_phase : (changed room clock).phase = room.phase := rfl
@[simp] theorem changed_players : (changed room clock).players = room.players := rfl
@[simp] theorem changed_gameNumber : (changed room clock).gameNumber = room.gameNumber := rfl
@[simp] theorem changed_officialResultChannelId : (changed room clock).officialResultChannelId = room.officialResultChannelId := rfl

theorem mem_activePlayers {player : PlayerState} : player ∈ room.activePlayers ↔ player ∈ room.players ∧ player.withdrawn = false := by
  simp [activePlayers, mem_filter]

end

end HotAndColdRoom

theorem Mild.same (rows : Rows room.players after.players) (gameNumber : after.gameNumber = room.gameNumber)
    (channel : after.officialResultChannelId = room.officialResultChannelId) (phase : after.phase = room.phase) : Mild room after where
  rows := rows
  gameNumber := gameNumber
  channel := channel
  lobby := phase ▸ id
  unrevealed apart revealed := by simp [phase.symm.trans revealed] at apart
  unfinished := phase ▸ id

theorem Mild.trans {first : HotAndColdRoom} (mild : Mild first room) (next : Mild room after) (phase : room.phase = first.phase) :
    Mild first after where
  rows := mild.rows.trans next.rows
  gameNumber := next.gameNumber.trans mild.gameNumber
  channel := next.channel.trans mild.channel
  lobby lobby := mild.lobby (next.lobby lobby)
  unrevealed apart := next.unrevealed (phase ▸ apart)
  unfinished finished := mild.unfinished (next.unfinished finished)

namespace HotAndColdRoom

section
variable {room found : HotAndColdRoom} {round : RoundState}

theorem reveal_revealed (mild : Mild room found) (playing : room.phase = .playing) (plays : found.phase = .playing)
    (is : found.round = some round) (exact_ : Bool) (clock : Int) : Revealed room found (found.reveal exact_ clock) round := by
  have shown : found.reveal exact_ clock = changed { found with
      players := award found.players (found.winnersOf round)
      round := some { round with exact := exact_, winnerIds := found.winnersOf round, currentPlayerId := none, turnEndsAt := none }
      phase := .reveal } clock := by
    unfold reveal
    rw [is, filter_some, plays]
    rfl
  rw [shown]
  exact ⟨mild, playing, rfl, rfl, mild.gameNumber, mild.channel, rfl⟩

theorem nextTurn_move (mild : Mild room found) (playing : room.phase = .playing) (plays : found.phase = .playing)
    (is : found.round = some round) (afterId : Option Nat) (now : Int) : Move room false (found.nextTurn afterId now ctx.clock) := by
  unfold nextTurn
  split
  · exact .reveal (reveal_revealed mild playing plays is _ _)
  · exact .mild (mild.trans (.same (.refl _) rfl rfl rfl) (plays.trans playing.symm))

theorem roundWinnerIds_nil (ids : List Nat) : roundWinnerIds [] ids = [] := rfl

theorem reveal_unguessed (is : found.round = some round) (unguessed : round.guesses = []) (exact_ : Bool) (clock : Int) :
    (found.reveal exact_ clock).players = found.players := by
  unfold reveal
  split
  · rfl
  · next isRound =>
    obtain ⟨same, -⟩ := filter_eq_some_iff.mp isRound
    cases some.inj (is.symm.trans same)
    have none : found.winnersOf round = [] := by simp [winnersOf, unguessed, roundWinnerIds_nil]
    simp [none, award]

theorem reveal_same (exact_ : Bool) (clock : Int) : (found.reveal exact_ clock).gameNumber = found.gameNumber ∧
    (found.reveal exact_ clock).officialResultChannelId = found.officialResultChannelId ∧
      ((found.reveal exact_ clock).phase = found.phase ∨ (found.reveal exact_ clock).phase = .reveal) := by
  unfold reveal
  split
  · exact ⟨rfl, rfl, .inl rfl⟩
  · exact ⟨rfl, rfl, .inr rfl⟩

theorem startRound_same (index : Nat) : Rows room.players (room.startRound ctx index).players ∧
    (room.startRound ctx index).gameNumber = room.gameNumber ∧
      (room.startRound ctx index).officialResultChannelId = room.officialResultChannelId ∧
        ((room.startRound ctx index).phase = .playing ∨ (room.startRound ctx index).phase = .reveal) := by
  unfold startRound
  extract_lets started players starterIndex
  have rows : Rows room.players started.players := .update fun row => ⟨rfl, rfl, fun gone => gone⟩
  unfold nextTurn
  split
  · obtain ⟨gameNumber, channel, phase⟩ := @reveal_same started false ctx.clock
    have kept : (started.reveal false ctx.clock).players = started.players := reveal_unguessed rfl rfl _ _
    exact ⟨kept ▸ rows, gameNumber, channel, phase⟩
  · exact ⟨rows, rfl, rfl, .inl rfl⟩

theorem startRound_mild (waiting : room.phase = .lobby ∨ room.phase = .reveal) (index : Nat) : Mild room (room.startRound ctx index) := by
  obtain ⟨rows, gameNumber, channel, phase⟩ := @startRound_same ctx room index
  refine ⟨rows, gameNumber, channel, fun lobby => ?_, fun apart => ?_, fun finished => ?_⟩
  · simp [lobby] at phase
  · rcases waiting with waiting | waiting <;> simp [waiting] at apart
  · simp [finished] at phase

theorem pump_move (clock : Int) (same : ctx.clock = clock) : Move room false (room.pump clock) := by
  subst same
  unfold pump
  split
  · exact .mild (.refl room)
  · next round due =>
    obtain ⟨is, holds⟩ := filter_eq_some_iff.mp due
    have playing : room.phase = .playing := by simpa using (and_eq_true_iff.mp holds).1
    extract_lets current
    cases current with
    | none => exact nextTurn_move (.refl room) playing playing is _ _
    | some player =>
      have mild : Mild room (room.updatePlayer player.id fun row => { row with turnsUsed := row.turnsUsed + 1 }) :=
        .same (.updateFirst fun row => ⟨rfl, rfl, fun gone => gone⟩) rfl rfl rfl
      exact nextTurn_move mild playing playing is _ _

theorem pump_gameNumber (clock : Int) : (room.pump clock).gameNumber = room.gameNumber := by
  have goesOn (found : HotAndColdRoom) (afterId : Option Nat) (now : Int) : (found.nextTurn afterId now clock).gameNumber = found.gameNumber := by
    unfold nextTurn
    split
    · exact (reveal_same false clock).1
    · rfl
  unfold pump
  split
  · rfl
  · extract_lets current
    rw [goesOn]
    cases current <;> rfl

end

end HotAndColdRoom

section
variable {first room after last : HotAndColdRoom} {ends : Bool}

theorem Move.head (mild : Mild first room) (phase : room.phase = first.phase) (move : Move room ends after) : Move first ends after := by
  cases move with
  | mild next => exact .mild (mild.trans next phase)
  | reveal revealed =>
    exact .reveal ⟨mild.trans revealed.mild phase, phase ▸ revealed.playing, revealed.players, revealed.winners,
      revealed.gameNumber.trans mild.gameNumber, revealed.channel.trans mild.channel, revealed.phase⟩
  | finish finished =>
    exact .finish ⟨mild.rows.trans finished.rows, finished.gameNumber.trans mild.gameNumber, finished.channel.trans mild.channel,
      phase ▸ finished.revealed, finished.phase⟩
  | rematch rematched =>
    exact .rematch ⟨rematched.ids.trans mild.rows.rows.keys, fun some => rematched.peopled (mild.rows.peopled some), rematched.fresh,
      rematched.gameNumber.trans (congrArg (· + 1) mild.gameNumber), rematched.channel.trans mild.channel, rematched.unfinished⟩

theorem Move.processed (processedActions : List Nat) (move : Move room ends after) : Move room ends { after with processedActions } := by
  cases move with
  | mild mild => exact .mild ⟨mild.rows, mild.gameNumber, mild.channel, mild.lobby, mild.unrevealed, mild.unfinished⟩
  | reveal revealed =>
    exact .reveal ⟨revealed.mild, revealed.playing, revealed.players, revealed.winners, revealed.gameNumber, revealed.channel, revealed.phase⟩
  | finish finished => exact .finish ⟨finished.rows, finished.gameNumber, finished.channel, finished.revealed, finished.phase⟩
  | rematch rematched =>
    exact .rematch ⟨rematched.ids, rematched.peopled, rematched.fresh, rematched.gameNumber, rematched.channel, rematched.unfinished⟩

theorem Move.remember (actionId : Nat) (move : Move room ends after) : Move room ends (after.rememberAction actionId) := move.processed _

end

def HotAndColdAction.ends (room : HotAndColdRoom) : HotAndColdAction → Bool
  | .next => room.round.any fun round => decide (room.rounds ≤ round.index + 1)
  | _ => false

namespace HotAndColdRoom

section
variable {room : HotAndColdRoom} {player : PlayerState}

theorem depart_mild (id : Nat) (clock : Int) : Mild room (room.depart id clock) ∧ (room.depart id clock).round = room.round ∧
    ((room.depart id clock).phase = .playing → room.phase = .playing) := by
  have rows : Rows room.players (room.updatePlayer id fun row => { row with withdrawn := true }).players :=
    .updateFirst fun row => ⟨rfl, rfl, fun _ => rfl⟩
  unfold depart
  extract_lets gone handed
  have same : handed.players = gone.players ∧ handed.round = room.round ∧ handed.phase = room.phase ∧
      handed.gameNumber = room.gameNumber ∧ handed.officialResultChannelId = room.officialResultChannelId := by
    simp only [handed]
    split <;> exact ⟨rfl, rfl, rfl, rfl, rfl⟩
  obtain ⟨players, round, phase, gameNumber, channel⟩ := same
  split
  · refine ⟨⟨players ▸ rows, gameNumber, channel, ?_, ?_, ?_⟩, round, ?_⟩
    · intro lobby
      cases lobby
    · intro _ revealed
      cases revealed
    · intro finished
      cases finished
    · intro playing
      cases playing
  · exact ⟨.same (players ▸ rows) gameNumber channel phase, round, phase.symm.trans⟩

theorem leave_move (id : Nat) : Move room false (room.leave id ctx.clock) := by
  obtain ⟨mild, round, plays⟩ := @depart_mild room id ctx.clock
  unfold leave
  extract_lets left
  split
  · next turn =>
    obtain ⟨is, current⟩ := bind_eq_some_iff.mp turn.1
    exact nextTurn_move mild (plays turn.2) turn.2 (round.trans current.1) _ _
  · exact .mild mild

theorem submit_move {word : String} {rank : Nat} {band : HeatBand} (playing : room.phase = .playing) :
    Move room false (room.submit ctx player word rank band) := by
  unfold submit
  split
  · exact .mild (.refl room)
  · next round is =>
    extract_lets guessed
    have mild : Mild room guessed := by
      refine .same ?_ ?_ ?_ ?_
      all_goals
        simp only [guessed, ledger, changed_players, changed_gameNumber, changed_officialResultChannelId, changed_phase]
        split
      · exact .refl _
      · exact .updateFirst fun row => ⟨rfl, rfl, fun gone => gone⟩
      all_goals rfl
    have plays : guessed.phase = .playing := by
      simp only [guessed, ledger, changed_phase]
      split <;> exact playing
    split
    · exact .reveal (reveal_revealed mild playing plays rfl _ _)
    · exact nextTurn_move mild playing plays rfl _ _

theorem skip_move {id : Nat} {change : PlayerState → PlayerState} (alike : ∀ row, (change row).id = row.id ∧ Alike row (change row))
    (playing : room.phase = .playing) : Move room false (room.skip ctx id change) := by
  have mild : Mild room (changed (room.updatePlayer id change) ctx.clock) := .same (.updateFirst alike) rfl rfl rfl
  unfold skip
  split
  · next turn =>
    cases is : room.round with
    | none => simp [isTurnOf, is] at turn
    | some => exact nextTurn_move mild playing playing is _ _
  · exact .mild mild

theorem start_move {actionId : Nat} {removePlayerIds : List Nat} (lobby : room.phase = .lobby) (mem : player ∈ room.players) :
    Move room false (room.start ctx actionId player.id removePlayerIds).room := by
  unfold start
  extract_lets asks remaining
  split
  · exact .mild (.refl room)
  · split
    · exact .mild (.same (.update fun row => ⟨rfl, rfl, fun gone => gone⟩) rfl rfl rfl)
    · split
      · exact .mild (.refl room)
      · have kept : Rows room.players remaining :=
          .filter (fun row gone => by simp [keepsSeat, gone]) mem (by simp [keepsSeat])
        split
        · have mild : Mild room (changed { room with players := remaining } ctx.clock) := .same kept rfl rfl rfl
          have waiting : (changed { room with players := remaining } ctx.clock).phase = .lobby := lobby
          exact (Move.mild (startRound_mild (.inl waiting) 0)).head mild rfl
        · exact .mild (startRound_mild (.inl lobby) 0)

theorem next_move (revealed : room.phase = .reveal) : Move room (HotAndColdAction.next.ends room) (room.next ctx) := by
  unfold next HotAndColdAction.ends
  cases room.round with
  | none => exact .mild (.refl room)
  | some =>
    simp only [any_some]
    split
    · next through =>
      rw [decide_eq_true through]
      exact .finish ⟨.refl _, rfl, rfl, revealed, rfl⟩
    · next more =>
      rw [decide_eq_false more]
      exact .mild (startRound_mild (.inr revealed) _)

theorem rematch_rematched (replay : Bool) : Rematched room (room.rematch ctx replay) where
  ids := by
    have kept : (room.rematch ctx replay).players.map (·.id) = room.players.map (·.id) := map_update fun row => rfl
    rw [kept]
  peopled some none := some (map_eq_nil_iff.mp none)
  fresh row mem active := by
    obtain ⟨old, -, rfl⟩ := mem_update.mp mem
    split at active
    · rw [if_pos ‹_›]
    · next gone => simp [active] at gone
  gameNumber := rfl
  channel := rfl
  unfinished finished := by cases finished

theorem replay_rematched : Rematched room ((room.rematch ctx true).startRound ctx 0) := by
  have first := @rematch_rematched ctx room true
  obtain ⟨rows, gameNumber, channel, phase⟩ := @startRound_same ctx (room.rematch ctx true) 0
  refine ⟨rows.rows.keys.trans first.ids, fun some => rows.peopled (first.peopled some), fun row mem active => ?_,
    gameNumber, channel, ?_⟩
  · obtain ⟨old, listed, -, alike⟩ := rows.rows.source row mem
    rw [alike.score]
    refine first.fresh old listed (eq_false_iff.mpr fun gone => ?_)
    simp [alike.gone gone] at active
  · rcases phase with playing | revealed <;> simp_all

theorem hostRefusal_none {action : HotAndColdAction} (open_ : room.hostRefusal ctx player action = none) :
    (∀ removePlayerIds, action = .start removePlayerIds → room.phase = .lobby) ∧ (action = .next → room.phase = .reveal) ∧
      (∀ roundId, action ≠ .pass roundId ∧ action ≠ .giveUp roundId) := by
  unfold hostRefusal at open_
  split at open_
  · cases open_
  · refine ⟨?_, ?_, ?_⟩
    · rintro removePlayerIds rfl
      by_contra apart
      simp [apart] at open_
    · rintro rfl
      by_contra apart
      simp [apart] at open_
    · intro roundId
      constructor
      · rintro rfl
        cases open_
      · rintro rfl
        cases open_

theorem carryOut_move {actionId : Nat} {action : HotAndColdAction} (found : player ∈ room.players) (open_ : room.refusal ctx player action = none) :
    Move room (action.ends room) (room.carryOut ctx actionId player action).room := by
  cases action with
  | leave => exact leave_move player.id
  | rename | readiness => exact .mild (.same (.updateFirst fun row => ⟨rfl, rfl, fun gone => gone⟩) rfl rfl rfl)
  | guess =>
    have playing : room.phase = .playing := by
      simp only [refusal, guessRefusal] at open_
      split at open_
      · cases open_
      · next turn => simp_all [isPlaying]
    simp only [carryOut]
    split
    · exact submit_move playing
    · exact .mild (.refl room)
  | pass roundId =>
    simp only [refusal] at open_
    split at open_
    · next plays =>
      have playing : room.phase = .playing := by simpa using (and_eq_true_iff.mp plays).1
      exact skip_move (fun row => ⟨rfl, rfl, fun gone => gone⟩) playing
    · exact absurd rfl ((hostRefusal_none open_).2.2 roundId).1
  | giveUp roundId =>
    simp only [refusal] at open_
    split at open_
    · next plays =>
      have playing : room.phase = .playing := by simpa using (and_eq_true_iff.mp plays).1
      exact skip_move (fun row => ⟨rfl, rfl, fun gone => gone⟩) playing
    · exact absurd rfl ((hostRefusal_none open_).2.2 roundId).2
  | admissionSet =>
    simp only [carryOut, Verdict.room]
    split
    · exact .mild (.refl room)
    · exact .mild (.same (.refl _) rfl rfl rfl)
  | passHost | configure => exact .mild (.same (.refl _) rfl rfl rfl)
  | start removePlayerIds =>
    simp only [refusal] at open_
    exact start_move ((hostRefusal_none open_).1 removePlayerIds rfl) found
  | next =>
    simp only [refusal] at open_
    exact next_move ((hostRefusal_none open_).2.1 rfl)
  | replay => exact .rematch replay_rematched
  | lobby => exact .rematch (rematch_rematched false)

end

end HotAndColdRoom

namespace Command

def found : Command → HotAndColdRoom → HotAndColdRoom
  | .join .., room => room
  | .read ctx input, room => (room.readHotAndColdSnapshot ctx input).2
  | .act ctx input, room => if (room.validPlayer input.playerId input.playerToken).isSome then room.pump ctx.clock else room

def heard : Command → HotAndColdRoom → Option (HotAndColdRoom × PlayerState)
  | .act ctx input, room =>
    let pumped := room.pump ctx.clock
    if (room.validPlayer input.playerId input.playerToken).isSome && !pumped.processedActions.contains input.actionId then
      ((pumped.attend input.playerId ctx.now).player input.playerId).map ((pumped.attend input.playerId ctx.now), ·)
    else none
  | .join .., _ | .read .., _ => none

def ends : Command → HotAndColdRoom → Bool
  | .act ctx input, room => ((Command.act ctx input).heard room).any fun (room, player) =>
      (room.refusal ctx player input.action).isNone && input.action.ends room
  | .join .., _ | .read .., _ => false

def DrawsNewId : Command → HotAndColdRoom → Prop
  | .join ctx _, room => ∀ player ∈ room.players, player.id ≠ ctx.randomUUID room.revision
  | .read .., _ | .act .., _ => True

instance : (command : Command) → (room : HotAndColdRoom) → Decidable (command.DrawsNewId room)
  | .join ctx _, room => inferInstanceAs (Decidable (∀ player ∈ room.players, player.id ≠ ctx.randomUUID room.revision))
  | .read .., _ | .act .., _ => .isTrue trivial

end Command

/-- What a command does: its clock first, then what it is about. -/
inductive Played (ctx : GameContext) (room found : HotAndColdRoom) (ends : Bool) (after : HotAndColdRoom) : Prop
  | moves (clock : Move room false found) (same : found.gameNumber = room.gameNumber) (move : Move found ends after)
  | seat {name : String} {token : Secret} {joinId : Option Nat} (lobby : room.phase = .lobby)
      (fresh : ∀ player ∈ room.players, player.id ≠ ctx.randomUUID room.revision) (still : found = room) (stays : ends = false)
      (seated : after = room.seat ctx name token joinId)

section
variable {room : HotAndColdRoom}

theorem join_played (input : JoinInput) (fresh : ∀ player ∈ room.players, player.id ≠ ctx.randomUUID room.revision) :
    Played ctx room room false (room.joinHotAndColdRoom ctx input).2 := by
  have still : Played ctx room room false room := .moves (.mild (.refl room)) rfl (.mild (.refl room))
  unfold HotAndColdRoom.joinHotAndColdRoom
  extract_lets existing token name seated
  clear_value existing
  split
  · exact still
  · split
    · split <;> exact still
    · split
      · exact still
      · next lobby =>
        split
        · exact still
        · split
          · exact still
          · split
            · exact still
            · split
              · exact still
              · exact .seat (not_not.mp lobby) fresh rfl rfl rfl

theorem read_move (input : ReadInput) : Move room false (room.readHotAndColdSnapshot ctx input).2 := by
  unfold HotAndColdRoom.readHotAndColdSnapshot
  split
  · exact .mild (.refl room)
  · next player _ =>
    extract_lets touched read
    have seen : Mild room touched := .same (.updateFirst fun row => ⟨rfl, rfl, fun gone => gone⟩) rfl rfl rfl
    exact (@HotAndColdRoom.pump_move ctx touched ctx.clock rfl).head seen rfl

theorem read_gameNumber (input : ReadInput) : (room.readHotAndColdSnapshot ctx input).2.gameNumber = room.gameNumber := by
  unfold HotAndColdRoom.readHotAndColdSnapshot
  split
  · rfl
  · exact HotAndColdRoom.pump_gameNumber ctx.clock

theorem act_played (input : ActionInput) :
    Played ctx room ((Command.act ctx input).found room) ((Command.act ctx input).ends room) (room.applyHotAndColdAction ctx input).2 := by
  have still : Played ctx room room false room := .moves (.mild (.refl room)) rfl (.mild (.refl room))
  unfold HotAndColdRoom.applyHotAndColdAction
  cases valid : room.validPlayer input.playerId input.playerToken with
  | none => simpa [Command.found, Command.ends, Command.heard, valid] using still
  | some player =>
    extract_lets pumped attended
    have clock : Move room false pumped := @HotAndColdRoom.pump_move ctx room ctx.clock rfl
    have found : (Command.act ctx input).found room = pumped := by simp [Command.found, valid, pumped]
    rw [found]
    refine .moves clock (HotAndColdRoom.pump_gameNumber ctx.clock) ?_
    cases seen : pumped.processedActions.contains input.actionId with
    | true =>
      have ends : (Command.act ctx input).ends room = false := by simp [Command.ends, Command.heard, pumped] at seen ⊢; simp [seen]
      rw [ends, if_pos rfl]
      exact Move.remember _ (.mild (.refl pumped))
    | false =>
      have attends : Mild pumped attended := .same (.updateFirst fun row => ⟨rfl, rfl, fun gone => gone⟩) rfl rfl rfl
      have heard : (Command.act ctx input).heard room = (attended.player input.playerId).map (attended, ·) := by
        simp only [Command.heard, valid, isSome_some, Bool.true_and]
        rw [if_pos (by simpa using seen)]
      have ends : (Command.act ctx input).ends room = (attended.player input.playerId).any fun player =>
          (attended.refusal ctx player input.action).isNone && input.action.ends attended := by
        simp [Command.ends, heard, any_map]
      rw [ends, if_neg Bool.false_ne_true]
      cases isPlayer : attended.player input.playerId with
      | none => exact .mild attends
      | some player =>
        refine Move.head attends rfl ?_
        simp only [any_some]
        unfold HotAndColdRoom.command
        cases refused : attended.refusal ctx player input.action with
        | some => exact .mild (.refl attended)
        | none =>
          have carried := @HotAndColdRoom.carryOut_move ctx attended player input.actionId input.action (mem_of_find?_eq_some isPlayer) refused
          generalize attended.carryOut ctx input.actionId player input.action = verdict at carried
          cases verdict with
          | accept => exact carried.remember _
          | reject => exact carried

theorem Command.played {command : Command} (draws : command.DrawsNewId room) :
    Played command.ctx room (command.found room) (command.ends room) (command.apply room) := by
  cases command with
  | join ctx input => exact join_played input draws
  | read ctx input => exact .moves (read_move input) (read_gameNumber input) (.mild (.refl _))
  | act ctx input => exact act_played input

end

end MilkAndHenny.HotAndCold

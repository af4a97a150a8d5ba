import MilkAndHenny.Library.Reorder
import MilkAndHenny.SameBrain.Actions
import MilkAndHenny.SameBrain.Game

/-! The room plays the game: what time does to a room is one turn, and so is what a command does. -/

namespace MilkAndHenny.SameBrain
open Library Multiplayer

variable {result : SameBrainRoundResult}

/-! ### The scoring of a round -/

section
variable {clusters : List SameBrainCluster} {answers : List SameBrainAnswer} {source target playerCount : Nat}

theorem group_members (clusters : List SameBrainCluster) (answer : SameBrainAnswer) :
    ((group clusters answer).flatMap (·.playerIds)).Perm (clusters.flatMap (·.playerIds) ++ [answer.playerId]) := by
  unfold group
  split
  · next found =>
    induction clusters with
    | nil => simp at found
    | cons head clusters ih =>
      simp only [updateFirst]
      by_cases same : head.label == answer.normalised
      · simp only [same, ↓reduceIte, flatMap_cons, append_assoc]
        exact List.Perm.append_left _ List.perm_append_comm
      · simp only [same, false_eq_true, ↓reduceIte, flatMap_cons, append_assoc]
        exact List.Perm.append_left _ (ih (by simpa [same] using found))
  · simp

theorem clusterByExactMatch_members (answers : List SameBrainAnswer) :
    ((clusterByExactMatch answers).flatMap (·.playerIds)).Perm (answers.map (·.playerId)) := by
  have grouped (clusters : List SameBrainCluster) : ((answers.foldl group clusters).flatMap (·.playerIds)).Perm
      (clusters.flatMap (·.playerIds) ++ answers.map (·.playerId)) := by
    induction answers generalizing clusters with
    | nil => simp
    | cons answer answers ih =>
      refine (ih (group clusters answer)).trans ?_
      rw [map_cons, ← singleton_append, ← append_assoc]
      exact (group_members clusters answer).append_right _
  exact grouped []

theorem oddPlayerOf_member {herdIndex : Option Nat} {id : Nat} (odd : oddPlayerOf clusters herdIndex = some id) :
    id ∈ clusters.flatMap (·.playerIds) := by
  unfold oddPlayerOf at odd
  split at odd
  · cases odd
  · split at odd
    · next loner alone =>
      have listed : loner ∈ clusters := (mem_filter.mp (alone ▸ mem_singleton_self loner)).1
      exact mem_flatMap.mpr ⟨loner, listed, List.mem_of_mem_head? odd⟩
    · cases odd

theorem scoreRound_proper (round : Nat) (question : String) (playerCount : Nat) (unique : (answers.map (·.playerId)).Nodup) :
    (scoreRound round question answers playerCount).Proper where
  apart := (clusterByExactMatch_members answers).nodup_iff.mpr unique
  odd _ odd := oddPlayerOf_member odd

theorem merge_members (apart : source ≠ target) (first : source < result.clusters.length)
    (second : target < result.clusters.length) :
    (result.merge source target playerCount).members.Perm result.members := by
  refine flatMap_absorb_perm apart first second ?_
  rw [getElem?_eq_getElem first]
  rfl

theorem merge_proper (proper : result.Proper) (apart : source ≠ target)
    (first : source < result.clusters.length) (second : target < result.clusters.length) :
    (result.merge source target playerCount).Proper where
  apart := (merge_members apart first second).nodup_iff.mpr proper.apart
  odd _ odd := oddPlayerOf_member odd

theorem herd_members (result : SameBrainRoundResult) : result.herd.Sublist result.members := by
  unfold SameBrainRoundResult.herd SameBrainRoundResult.members
  cases named : result.herdIndex.bind (result.clusters[·]?) with
  | none => simp
  | some =>
    obtain ⟨index, -, found⟩ := bind_eq_some_iff.mp named
    exact List.sublist_flatten_of_mem (mem_map_of_mem (mem_of_getElem? found))

end

def PlayerState.award (eliminates : Bool) (result : SameBrainRoundResult) (sign : Int) (player : PlayerState) : PlayerState :=
  { player with
    score := player.score + sign * result.pointsFor player.id
    aloneCount := if result.oddPlayerId = some player.id then max 0 (player.aloneCount + sign) else player.aloneCount
    out := if result.oddPlayerId = some player.id ∧ eliminates then sign == 1 else player.out }

namespace SameBrainRoom
variable {ctx : GameContext} {room : SameBrainRoom} {now : Int} {groups : Option (Nat × Nat)} {phase : SameBrainPhase}
  {actionId : Nat}

def game (room : SameBrainRoom) : Game where
  phase := room.phase
  gameNumber := room.gameNumber
  round := room.round
  rounds := room.rounds
  eliminates := room.toggles.eliminateOddOne
  standings := room.players.map PlayerState.standing
  result := room.result
  baseline := room.resultBaseline
  history := room.history
  winnerIds := room.winnerIds

def Seated (room : SameBrainRoom) : Prop := (room.players.map (·.id)).Nodup

instance : Decidable room.Seated := inferInstanceAs (Decidable (room.players.map (·.id)).Nodup)

theorem ids_standings (room : SameBrainRoom) : room.game.standings.map (·.id) = room.players.map (·.id) := by
  simp only [game, map_map]
  rfl

/-! ### What the functions of the engine do to the game -/

theorem game_players {players : List PlayerState}
    (standings : players.map PlayerState.standing = room.players.map PlayerState.standing) :
    ({ room with players } : SameBrainRoom).game = room.game := by
  simp [game, standings]

theorem game_updatePlayer {id : Nat} {change : PlayerState → PlayerState} (kept : ∀ row, (change row).standing = row.standing) :
    (room.updatePlayer id change).game = room.game := game_players (map_updateFirst kept)

theorem players_updatePlayer (seated : room.Seated) (id : Nat) (change : PlayerState → PlayerState) :
    (room.updatePlayer id change).players = room.players.map fun row => if row.id = id then change row else row := by
  have all : (room.updatePlayer id change).players = update room.players (·.id == id) change := updateFirst_eq_update seated
  simp [all, update]

theorem game_enterPhase : (room.enterPhase ctx phase now).game = room.game.enter phase := rfl

theorem game_startRound : (room.startRound ctx now).game = room.game.ask (room.round + 1) := by
  simp only [startRound, game_enterPhase]
  simp only [game, Game.ask, map_map]
  rfl

theorem game_finish : (room.finish ctx now).game = room.game.finish := rfl

theorem gameOver_iff : room.gameOver ↔ room.game.Over := by
  have count : room.playing.length = room.game.playingCount := by
    simp only [playing, Game.playingCount, game, countP_map, ← countP_eq_length_filter]
    rfl
  simp only [gameOver, Game.Over, or_eq_true, and_eq_true, decide_eq_true_eq, count]
  rfl

theorem Seated.updatePlayer (seated : room.Seated) {id : Nat} {change : PlayerState → PlayerState}
    (kept : ∀ row, (change row).id = row.id) : (room.updatePlayer id change).Seated := by
  unfold Seated SameBrainRoom.updatePlayer
  simp only [map_updateFirst kept]
  exact seated

theorem awardEach_keeps (room : SameBrainRoom) (points : Int) (ids : List Nat) :
    ∃ players, room.awardEach points ids = { room with players } ∧ players.map (·.id) = room.players.map (·.id) := by
  induction ids generalizing room with
  | nil => exact ⟨room.players, rfl, rfl⟩
  | cons id ids ih =>
    obtain ⟨players, awarded, same⟩ := ih (room.updatePlayer id fun row => { row with score := row.score + points })
    exact ⟨players, awarded, same.trans (map_updateFirst fun _ => rfl)⟩

theorem players_awardEach (seated : room.Seated) {ids : List Nat} (apart : ids.Nodup) (points : Int) :
    (room.awardEach points ids).players = room.players.map fun row =>
      { row with score := row.score + if row.id ∈ ids then points else 0 } := by
  induction ids generalizing room with
  | nil => simp [awardEach]
  | cons id ids ih =>
    obtain ⟨fresh, apart⟩ := nodup_cons.mp apart
    have first := players_updatePlayer seated id fun row => { row with score := row.score + points }
    have rest := ih (@Seated.updatePlayer _ seated id (fun row => { row with score := row.score + points }) fun _ => rfl) apart
    refine rest.trans ?_
    rw [first, map_map]
    refine map_congr_left fun row _ => ?_
    simp only [Function.comp_apply, mem_cons]
    split
    · next same =>
      subst same
      simp [fresh]
    · next other => simp [other]

theorem awardResult_keeps (room : SameBrainRoom) (result : SameBrainRoundResult) (sign : Int) :
    ∃ players, room.awardResult result sign = { room with players } ∧ players.map (·.id) = room.players.map (·.id) := by
  obtain ⟨players, awarded, ids⟩ := room.awardEach_keeps (sign * result.pointsEach) result.herd
  unfold awardResult
  extract_lets scored
  have listed : scored = { room with players } := awarded
  clear_value scored
  subst listed
  split
  · exact ⟨players, rfl, ids⟩
  · refine ⟨_, rfl, (map_updateFirst ?_).trans ids⟩
    exact fun _ => rfl

theorem players_awardResult (seated : room.Seated) (proper : result.Proper) (sign : Int) :
    (room.awardResult result sign).players = room.players.map (PlayerState.award room.toggles.eliminateOddOne result sign) := by
  have points (row : PlayerState) : (if row.id ∈ result.herd then sign * result.pointsEach else 0) =
      sign * result.pointsFor row.id := by
    unfold SameBrainRoundResult.pointsFor
    split <;> simp
  have herd := players_awardEach seated ((herd_members result).nodup proper.apart) (sign * result.pointsEach)
  obtain ⟨players, awarded, ids⟩ := room.awardEach_keeps (sign * result.pointsEach) result.herd
  have still : (room.awardEach (sign * result.pointsEach) result.herd).Seated := by
    rw [awarded]
    exact (congrArg List.Nodup ids).mpr seated
  simp only [points] at herd
  unfold awardResult
  extract_lets scored
  have same : scored = room.awardEach (sign * result.pointsEach) result.herd := rfl
  rw [← same] at herd still
  clear_value scored
  unfold PlayerState.award
  cases odd : result.oddPlayerId with
  | none => simpa using herd
  | some id =>
    refine (players_updatePlayer still id _).trans ?_
    rw [herd, map_map]
    refine map_congr_left fun row _ => ?_
    simp only [Function.comp_apply, some.injEq]
    by_cases named : row.id = id
    · simp [named]
    · simp [named, Ne.symm named]

theorem awardResult_eq (seated : room.Seated) {result : SameBrainRoundResult} (proper : result.Proper) (sign : Int) :
    room.awardResult result sign =
      { room with players := room.players.map (PlayerState.award room.toggles.eliminateOddOne result sign) } := by
  have players := players_awardResult seated proper sign
  obtain ⟨awarded, same, -⟩ := room.awardResult_keeps result sign
  rw [same] at players ⊢
  exact congrArg (fun players => { room with players }) players

theorem game_awardResult (seated : room.Seated) {result : SameBrainRoundResult} (proper : result.Proper) (sign : Int) :
    (room.awardResult result sign).game =
      { room.game with standings := room.game.standings.map (Standing.award room.toggles.eliminateOddOne result sign) } := by
  simp only [awardResult_eq seated proper, game, map_map]
  rfl

theorem answers_playing (room : SameBrainRoom) (ctx : GameContext) :
    ((room.answers ctx).map (·.playerId)).Sublist (room.playing.map (·.id)) := by
  refine map_filterMap_sublist room.playing fun player answer given => ?_
  obtain ⟨text, -, rfl⟩ := map_eq_some_iff.mp given
  rfl

theorem computeResult_scores (seated : room.Seated) (ctx : GameContext) : room.game.Scores (room.computeResult ctx) := by
  have playing := room.answers_playing ctx
  have sub : (room.playing.map (·.id)).Sublist (room.players.map (·.id)) := filter_sublist.map _
  refine ⟨scoreRound_proper _ _ _ ((playing.trans sub).nodup seated), fun standing mem inside => ?_⟩
  obtain ⟨player, listed, rfl⟩ := mem_map.mp mem
  have answered := playing.subset ((clusterByExactMatch_members (room.answers ctx)).mem_iff.mp inside)
  obtain ⟨other, plays, same⟩ := mem_map.mp answered
  obtain ⟨inRoom, here⟩ := mem_filter.mp plays
  obtain rfl : other = player := inj_on_of_nodup_map seated inRoom listed same
  simpa [PlayerState.standing] using here

theorem game_closeSubmit (seated : room.Seated) :
    ∃ next, (next = .sayIt ∨ next = .reveal) ∧ (room.closeSubmit ctx now).game = room.game.post (room.computeResult ctx) next := by
  have proper : (room.computeResult ctx).Proper := (computeResult_scores seated ctx).1
  unfold closeSubmit
  extract_lets closed
  have result : closed.computeResult ctx = room.computeResult ctx := rfl
  rw [result]
  unfold applyResult
  extract_lets posted
  have awarded := @game_awardResult posted seated _ proper 1
  rw [game_enterPhase, awarded]
  refine ⟨_, ?_, rfl⟩
  split
  · exact .inl rfl
  · exact .inr rfl

theorem Seated.awardResult (seated : room.Seated) {sign : Int} : (room.awardResult result sign).Seated := by
  obtain ⟨players, awarded, ids⟩ := room.awardResult_keeps result sign
  rw [awarded]
  exact (congrArg List.Nodup ids).mpr seated

theorem game_replaceResult (seated : room.Seated) {result next : SameBrainRoundResult} (first : result.Proper) (second : next.Proper) :
    (room.replaceResult ctx result next).game = room.game.amend result next := by
  have undone := game_awardResult seated first (-1)
  have house : (room.awardResult result (-1)).toggles = room.toggles := by
    obtain ⟨players, awarded, -⟩ := room.awardResult_keeps result (-1)
    rw [awarded]
  have still : (room.awardResult result (-1)).Seated := seated.awardResult
  have again := @game_awardResult { room.awardResult result (-1) with result := some next } still _ second 1
  have set_aside : ({ room.awardResult result (-1) with result := some next } : SameBrainRoom).game =
      { (room.awardResult result (-1)).game with result := some next } := rfl
  have entered (awarded : SameBrainRoom) :
      (changed ctx { awarded with history := awarded.history.set (awarded.history.length - 1) next }).game =
        { awarded.game with history := awarded.game.history.set (awarded.game.history.length - 1) next } := rfl
  unfold replaceResult
  rw [entered, again, set_aside, undone, house]
  simp only [Game.amend, map_map]
  rfl

/-! ### What time does -/

theorem Tidy.seated (tidy : room.game.Tidy) : room.Seated := by
  unfold Seated
  rw [← ids_standings]
  exact tidy.unique

theorem afterReveal_turn (revealed : room.phase = .reveal) : Turn room.game .other (room.afterReveal ctx now).game := by
  unfold afterReveal
  split
  · next isOver => exact .concluded revealed (gameOver_iff.mp isOver)
  · next further =>
    rw [game_startRound]
    exact .goesOn revealed fun isOver => further (gameOver_iff.mpr isOver)

theorem closeSubmit_turn (seated : room.Seated) (open_ : room.phase = .submit) :
    Turn room.game .other (room.closeSubmit ctx now).game := by
  obtain ⟨next, shown, closed⟩ := @game_closeSubmit ctx room now seated
  rw [closed]
  exact .closed open_ (computeResult_scores seated ctx) shown

theorem advancePhases_enterPhase (guard : Nat) :
    advancePhases ctx now guard (room.enterPhase ctx phase now) = room.enterPhase ctx phase now := by
  cases guard with
  | zero => rfl
  | succ =>
    have entered : (room.enterPhase ctx phase now).phaseEndsAt = 0 ∨ now < (room.enterPhase ctx phase now).phaseEndsAt := by
      have ends : (room.enterPhase ctx phase now).phaseEndsAt = if 0 < room.phaseDuration phase then now + room.phaseDuration phase else 0 := rfl
      rw [ends]
      split
      · next runs => exact .inr (Int.lt_add_of_pos_right now runs)
      · exact .inl rfl
    rw [advancePhases, if_pos entered]

theorem advancePhases_afterReveal (guard : Nat) :
    advancePhases ctx now guard (room.afterReveal ctx now) = room.afterReveal ctx now := by
  unfold afterReveal
  split
  · have ended (room : SameBrainRoom) (ends : room.phase = .ending) : advancePhases ctx now guard room = room := by
      cases guard with
      | zero => rfl
      | succ => simp [advancePhases, ends]
    exact ended _ rfl
  · exact advancePhases_enterPhase guard

theorem advance_turn (seated : room.Seated) : Turn room.game .other (room.advance ctx now).game := by
  unfold advance
  split
  · exact .calm
  · rw [advancePhases]
    split
    · exact .calm
    · split
      · next asked =>
        rw [advancePhases_enterPhase]
        exact .opened asked
      · next open_ => exact closeSubmit_turn seated open_
      · next said =>
        rw [advancePhases_enterPhase]
        exact .shown said
      · next revealed =>
        rw [advancePhases_afterReveal]
        exact afterReveal_turn revealed
      · exact .calm
      · exact .calm

theorem game_touch (room : SameBrainRoom) (playerId : Option Nat) (now : Int) (force : Bool) :
    (room.touch playerId now force).game = room.game := by
  unfold touch
  extract_lets seen
  have same : seen.game = room.game := by
    simp only [seen]
    cases playerId.bind room.player with
    | none => rfl
    | some =>
      refine game_updatePlayer ?_
      exact fun _ => rfl
  exact same

/-! ### What the commands do -/

def leftBy : Except Rejected SameBrainRoom → SameBrainRoom
  | .ok room => room
  | .error refused => refused.room

def correctionOf (ctx : GameContext) (room : SameBrainRoom) (round : Nat) (groups : Option (Nat × Nat)) :
    Option SameBrainRoundResult :=
  (room.result.filter fun _ => room.phase == .reveal && round == room.round).bind fun result =>
    (room.corrected ctx result groups).toOption

def hostAct (ctx : GameContext) (room : SameBrainRoom) : SameBrainHostAction → Act
  | .merge round source target => ((room.correctionOf ctx round (some (source, target))).map Act.correct).getD .other
  | .reset round => ((room.correctionOf ctx round none).map Act.correct).getD .other
  | .replay | .lobby => .again
  | .endGame => .stop
  | _ => .other

def playerAct (room : SameBrainRoom) (id : Nat) : SameBrainPlayerAction → Act
  | .leave => if room.phase = .lobby then .other else .leave id
  | _ => .other

theorem game_handOver {p : Prop} [Decidable p] {id : Nat} :
    (changed ctx (if p then room.transferHost id now else room)).game = room.game := by
  split <;> rfl

theorem game_depart (seated : room.Seated) (id : Nat) (secret : Secret) : (room.depart id now secret).game = room.game.depart id := by
  have players : (room.depart id now secret).players = _ := players_updatePlayer seated id _
  have departed : (room.depart id now secret).game =
      { room.game with standings := (room.depart id now secret).players.map PlayerState.standing } := rfl
  rw [departed, players, map_map]
  refine congrArg (fun standings => { room.game with standings }) ?_
  simp only [game, map_map]
  refine map_congr_left fun row _ => ?_
  simp only [Function.comp_apply, Standing.depart]
  by_cases same : row.id = id
  · rw [if_pos same, if_pos (show row.standing.id = id from same)]
    rfl
  · rw [if_neg same, if_neg (show row.standing.id ≠ id from same)]

theorem dismissed_turn (tidy : room.game.Tidy) (lobby : room.phase = .lobby) (id : Nat) (expiresAt : Int) :
    Turn room.game .other ({ room with players := room.players.filter (·.id ≠ id), expiresAt } : SameBrainRoom).game := by
  have seated : ∀ standing ∈ (room.players.filter (·.id ≠ id)).map PlayerState.standing,
      standing ∈ room.game.standings ∨ standing.IsFresh := by
    intro standing mem
    obtain ⟨player, listed, rfl⟩ := mem_map.mp mem
    exact .inl (mem_map_of_mem (mem_filter.mp listed).1)
  refine .gathered lobby seated ?_
  exact (filter_sublist.map PlayerState.standing |>.map (·.id)).nodup tidy.unique

theorem removePlayer_turn (tidy : room.game.Tidy) (id : Nat) : Turn room.game .other (leftBy (room.removePlayer ctx id)).game := by
  unfold removePlayer
  split
  · exact .calm
  · next target found =>
    extract_lets without
    rw [leftBy, game_handOver]
    by_cases lobby : room.phase = .lobby
    · have dismissed : without = { room with players := room.players.filter (·.id ≠ id) } := if_pos lobby
      rw [dismissed]
      exact dismissed_turn tidy lobby id room.expiresAt
    · have departed : without = room.depart target.id ctx.now (.removed ctx.newId target.id) := if_neg lobby
      rw [departed, game_depart (Tidy.seated tidy)]
      exact .removed lobby

theorem walkOut_turn (tidy : room.game.Tidy) (begun : room.phase ≠ .lobby) (id : Nat) :
    Turn room.game (.leave id) (room.walkOut ctx id).game := by
  have departed := @game_depart room ctx.now (Tidy.seated tidy) id (.left ctx.newId id)
  unfold walkOut
  extract_lets gone
  split
  · next isOver =>
    rw [gameOver_iff, departed] at isOver
    rw [game_finish, departed]
    exact .walkedOut begun isOver
  · next further =>
    rw [gameOver_iff, departed] at further
    rw [departed]
    exact .left begun further

theorem leaveRoom_turn (tidy : room.game.Tidy) (id : Nat) :
    Turn room.game (room.playerAct id .leave) (room.leaveRoom ctx id).game := by
  unfold leaveRoom playerAct
  extract_lets dismissed without
  rw [game_handOver]
  by_cases lobby : room.phase = .lobby
  · rw [if_pos lobby]
    have gone : without = if dismissed.players.isEmpty then { dismissed with expiresAt := ctx.now } else dismissed := if_pos lobby
    rw [gone]
    by_cases empty : dismissed.players.isEmpty
    · rw [if_pos empty]
      exact dismissed_turn tidy lobby id ctx.now
    · rw [if_neg empty]
      exact dismissed_turn tidy lobby id room.expiresAt
  · have gone : without = room.walkOut ctx id := if_neg lobby
    rw [if_neg lobby, gone]
    exact walkOut_turn tidy lobby id

theorem corrected_refused {refused : Rejected}
    (made : room.corrected ctx result groups = .error refused) : refused.room = room := by
  unfold corrected at made
  split at made
  · split at made <;> cases made
    rfl
  · split at made <;> cases made
    rfl

theorem corrected_turn (tidy : room.game.Tidy) (revealed : room.phase = .reveal) {result next : SameBrainRoundResult}
    (found : room.result = some result) (made : room.corrected ctx result groups = .ok next) :
    Turn room.game (.correct next) (room.replaceResult ctx result next).game := by
  have proper : result.Proper := tidy.result result found
  have regrouped : room.resultBaseline = some next ∨ next.Proper ∧ next.members.Perm result.members := by
    unfold corrected at made
    split at made
    · split at made
      · next baseline kept =>
        cases made
        exact .inl (Option.eq_some_of_filter_eq_some kept)
      · cases made
    · next source target =>
      split at made
      · cases made
      · next two =>
        cases made
        simp only [not_or, Nat.not_le] at two
        exact .inr ⟨merge_proper proper two.1 two.2.1 two.2.2, merge_members two.1 two.2.1 two.2.2⟩
  rw [game_replaceResult (Tidy.seated tidy) proper (regrouped.elim (tidy.baseline next) (·.1))]
  exact .amended revealed found regrouped

theorem correct_turn (tidy : room.game.Tidy) (round : Nat) (groups : Option (Nat × Nat)) :
    Turn room.game (((room.correctionOf ctx round groups).map Act.correct).getD .other)
      (leftBy (room.correct ctx round groups)).game := by
  unfold correct correctionOf
  cases found : room.result with
  | none => exact .calm
  | some result =>
    by_cases revealed : room.phase = .reveal
    · by_cases same : round = room.round
      · simp only [Option.filter, revealed, same, beq_self_eq_true, Bool.and_self, ↓reduceIte, ne_eq, not_true_eq_false,
          bind_some]
        cases made : room.corrected ctx result groups with
        | ok => exact corrected_turn tidy revealed found made
        | error =>
          simp only [Except.map, leftBy, corrected_refused made]
          exact .calm
      · simp only [Option.filter, revealed, beq_false_of_ne same, beq_self_eq_true, Bool.and_false, false_eq_true, ↓reduceIte,
          ne_eq, same, not_false_eq_true]
        exact .calm
    · simp only [Option.filter, beq_eq_false_iff_ne.mpr revealed]
      exact .calm

theorem cleared_fresh {player : PlayerState} (here : player.leftAt = none) : player.cleared.standing.IsFresh := by
  simp [PlayerState.cleared, PlayerState.standing, Standing.IsFresh, here]

theorem requestReadiness_game {waited : List PlayerState} :
    (room.requestReadiness ctx waited actionId).game = room.game := by
  unfold requestReadiness
  extract_lets asks
  split
  · have standings : (update room.players asks fun player =>
          { player with toReadiness := player.toReadiness.request actionId ctx.now }).map PlayerState.standing =
        room.players.map PlayerState.standing := by
      refine map_update ?_
      exact fun _ => rfl
    exact @game_players room _ standings
  · rfl

theorem startGame_turn (tidy : room.game.Tidy) (removePlayerIds : List Nat) (actionId : Nat) :
    Turn room.game .other (leftBy (room.startGame ctx removePlayerIds actionId)).game := by
  unfold startGame
  split
  · exact .calm
  · next lobby =>
    have lobby : room.phase = .lobby := by simpa using lobby
    split
    · exact .calm
    · extract_lets waited remaining seated begun
      split
      · have asked : (leftBy ((room.requestReadiness ctx waited actionId).refuseWith .playersNotReady
            (notReadyMessage (waited.map (·.name))))).game = room.game := requestReadiness_game
        rw [asked]
        exact .calm
      · split
        · exact .calm
        · have sub : seated.players.Sublist room.players := by
            by_cases all : remaining.length = room.players.length
            · have same : seated = room := if_pos all
              rw [same]
            · have fewer : seated = changed ctx { room with players := remaining } := if_neg all
              rw [fewer]
              exact filter_sublist
          have fresh : ∀ standing ∈ begun.players.map PlayerState.standing, standing.IsFresh := by
            intro standing mem
            obtain ⟨player, listed, rfl⟩ := mem_map.mp mem
            obtain ⟨old, seat, rfl⟩ := mem_map.mp listed
            have here := tidy.present lobby old.standing (mem_map_of_mem (sub.subset seat))
            exact cleared_fresh (by simpa [PlayerState.standing] using here)
          have unique : ((begun.players.map PlayerState.standing).map (·.id)).Nodup := by
            have ids : (begun.players.map PlayerState.standing).map (·.id) = seated.players.map (·.id) := by
              simp only [begun, map_map]
              rfl
            have seats : (seated.players.map (·.id)).Sublist (room.players.map (·.id)) := sub.map _
            rw [ids]
            exact seats.nodup (Tidy.seated tidy)
          have same : begun.game = { room.game with
              standings := begun.players.map PlayerState.standing, round := 0, history := [], winnerIds := [] } := by
            by_cases all : remaining.length = room.players.length
            · have same : seated = room := if_pos all
              simp only [begun, same]
              rfl
            · have fewer : seated = changed ctx { room with players := remaining } := if_neg all
              simp only [begun, fewer]
              rfl
          rw [leftBy, game_startRound, same, round]
          exact .started lobby fresh unique

theorem advanceByHost_turn (tidy : room.game.Tidy) : Turn room.game .other (leftBy (room.advanceByHost ctx)).game := by
  unfold advanceByHost
  split
  · next open_ => exact closeSubmit_turn (Tidy.seated tidy) open_
  · next asked => exact .opened asked
  · next said => exact .shown said
  · next revealed => exact afterReveal_turn revealed
  · exact .calm
  · exact .calm

theorem resetGame_turn (tidy : room.game.Tidy) {left : SameBrainRoom}
    (reset : left = room.resetGame.startRound ctx now ∨ left = room.resetGame.enterPhase ctx .lobby now) :
    Turn room.game .again left.game := by
  have fresh : ∀ standing ∈ room.resetGame.players.map PlayerState.standing, standing.IsFresh := by
    intro standing mem
    obtain ⟨player, listed, rfl⟩ := mem_map.mp mem
    obtain ⟨old, seat, rfl⟩ := mem_map.mp listed
    have here := (mem_filter.mp seat).2
    exact @cleared_fresh old (by simpa using here)
  have unique : ((room.resetGame.players.map PlayerState.standing).map (·.id)).Nodup := by
    have ids : (room.resetGame.players.map PlayerState.standing).map (·.id) = (room.players.filter (·.leftAt.isNone)).map (·.id) := by
      simp only [resetGame, map_map]
      rfl
    have sub : ((room.players.filter (·.leftAt.isNone)).map (·.id)).Sublist (room.players.map (·.id)) := filter_sublist.map _
    rw [ids]
    exact sub.nodup (Tidy.seated tidy)
  refine .again fresh unique ?_
  rcases reset with rfl | rfl
  · rw [game_startRound]
    exact .inl rfl
  · exact .inr rfl

theorem configure_turn (tidy : room.game.Tidy) (rounds : Option Nat) (toggles : Option TogglesPatch) (timings : Option TimingsPatch) :
    Turn room.game .other (leftBy (room.configure ctx rounds toggles timings)).game := by
  unfold configure
  split
  · exact .calm
  · split
    · exact .calm
    · next lobby =>
      have lobby : room.phase = .lobby := by simpa using lobby
      exact .gathered lobby (fun _ => .inl) tidy.unique

theorem hostCommand_turn (tidy : room.game.Tidy) (actionId : Nat) (action : SameBrainHostAction) :
    Turn room.game (room.hostAct ctx action) (leftBy (room.hostCommand ctx actionId action)).game := by
  cases action with
  | configure rounds toggles timings => exact configure_turn tidy rounds toggles timings
  | start removePlayerIds => exact startGame_turn tidy removePlayerIds actionId
  | advance => exact advanceByHost_turn tidy
  | merge round source target => exact correct_turn tidy round (some (source, target))
  | reset round => exact correct_turn tidy round none
  | remove playerId => exact removePlayer_turn tidy playerId
  | replay => exact resetGame_turn tidy (.inl rfl)
  | lobby => exact resetGame_turn tidy (.inr rfl)
  | endGame => exact .stopped
  | skipQuestion =>
    simp only [hostCommand]
    split
    · exact .calm
    · next asked =>
      rw [leftBy, game_startRound]
      exact .skipped (by rwa [← or_iff_not_and_not] at asked)
  | admissionSet | extend | pause | resume | passHost =>
    simp only [hostCommand]
    repeat' split
    all_goals exact .calm

theorem submitAnswer_turn (seated : room.Seated) (id : Nat) (text : String) :
    Turn room.game .other (room.submitAnswer ctx id text).game := by
  unfold submitAnswer
  extract_lets answered
  have same : answered.game = room.game := by
    have given : (room.updatePlayer id fun row => { row with answer := some (clip sameBrainMaxAnswerLength text) }).game = room.game := by
      refine game_updatePlayer ?_
      exact fun _ => rfl
    exact given
  have still : answered.Seated := by
    refine seated.updatePlayer ?_
    exact fun _ => rfl
  rw [← same]
  split
  · next all => exact closeSubmit_turn still all.1
  · exact .calm

theorem answerCommand_turn (seated : room.Seated) (id round : Nat) (text : Option String) :
    Turn room.game .other (leftBy (room.answerCommand ctx id round text)).game := by
  unfold answerCommand
  split
  · exact .calm
  · split
    · exact .calm
    · cases text with
      | none =>
        have same : (room.updatePlayer id fun row => { row with answer := none }).game = room.game := by
          refine game_updatePlayer ?_
          exact fun _ => rfl
        change Turn room.game .other (room.updatePlayer id fun row => { row with answer := none }).game
        rw [same]
        exact .calm
      | some text =>
        simp only
        split
        · exact submitAnswer_turn seated id text
        · exact .calm

theorem playerCommand_turn (tidy : room.game.Tidy) (player : PlayerState) (action : SameBrainPlayerAction) :
    Turn room.game (room.playerAct player.id action) (leftBy (room.playerCommand ctx player action)).game := by
  have readied (id : Nat) (change : PlayerState → PlayerState) (kept : ∀ row, (change row).standing = row.standing) :
      Turn room.game .other (leftBy (.ok (changed ctx (room.updatePlayer id change)))).game := by
    have same : (room.updatePlayer id change).game = room.game := game_updatePlayer kept
    change Turn room.game .other (room.updatePlayer id change).game
    rw [same]
    exact .calm
  cases action with
  | leave => exact leaveRoom_turn tidy player.id
  | rename | readiness =>
    simp only [playerCommand]
    split
    · exact .calm
    · split
      · exact .calm
      · exact readied _ _ fun _ => rfl
  | claimHost =>
    simp only [playerCommand]
    split <;> exact .calm
  | submit round text =>
    simp only [playerCommand]
    split
    · exact .calm
    · exact answerCommand_turn (Tidy.seated tidy) player.id round (some text)
  | clear round =>
    simp only [playerCommand]
    split
    · exact .calm
    · exact answerCommand_turn (Tidy.seated tidy) player.id round none

/-- The id of an action that has been carried out carries nothing out again. -/
def firstOf (room : SameBrainRoom) (actionId : Nat) (act : Act) : Act :=
  if room.processedActions.contains actionId then .other else act

theorem answer_turn {viewerId : Option Nat} {command : Except Rejected SameBrainRoom} {act : Act}
    (turn : Turn room.game act (leftBy command).game) :
    Turn room.game (room.firstOf actionId act) (room.answer ctx viewerId actionId command).2.game := by
  unfold answer firstOf
  split
  · exact .calm
  · cases command with
    | ok after =>
      have remembered : (after.rememberAction actionId).game = after.game := by simp [rememberAction, game]
      simp only [remembered]
      exact turn
    | error => exact turn

theorem joinSameBrainRoom_turn (tidy : room.game.Tidy) (new : ∀ player ∈ room.players, player.id ≠ ctx.token room.revision 0)
    (joinToken hostToken : Option Secret) (name : String) :
    Turn room.game .other (room.joinSameBrainRoom ctx joinToken hostToken name).2.game := by
  unfold joinSameBrainRoom
  extract_lets name taken id
  split
  · exact .calm
  · split
    · exact .calm
    · next lobby =>
      have lobby : room.phase = .lobby := by
        by_contra begun
        exact lobby (.inl begun)
      split
      · exact .calm
      · split
        · exact .calm
        · have joined : (changed ctx { room with
                players := room.players ++
                  [{ id, name, tokenHash := .token (ctx.token room.revision 1), joinedAt := ctx.clock, lastSeenAt := ctx.clock }]
                hostPlayerId := if hostToken = some room.hostHash then some id else room.hostPlayerId.or (some id) }).game =
              { room.game with standings := room.game.standings ++ [{ id }] } := by
            simp only [game, changed, applyRoomExpiry, map_append]
            rfl
          rw [joined]
          refine .gathered lobby (fun standing mem => ?_) ?_
          · rcases mem_append.mp mem with old | added
            · exact .inl old
            · rw [mem_singleton.mp added]
              exact .inr rfl
          · rw [map_append, ids_standings, map_singleton]
            refine (Tidy.seated tidy).append (nodup_singleton id) fun old listed added => ?_
            obtain ⟨player, mem, rfl⟩ := mem_map.mp listed
            exact new player mem (mem_singleton.mp added)

theorem readSameBrainSnapshot_game (room : SameBrainRoom) (ctx : GameContext) (credential : Secret) (playerId : Option Nat) :
    (room.readSameBrainSnapshot ctx credential playerId).2.game = room.game := by
  unfold readSameBrainSnapshot
  split
  · exact game_touch room playerId ctx.clock false
  · rfl

end SameBrainRoom

namespace Command

def finds : Command → SameBrainRoom → SameBrainRoom
  | .join .., room | .read .., room => room
  | .pump ctx, room => room.advance ctx ctx.now
  | .host ctx input, room => if room.mayHost input then room.attend ctx input.playerId else room
  | .play ctx input, room => if room.mayPlay input then room.attend ctx (some input.playerId) else room

def act (command : Command) (room : SameBrainRoom) : Act :=
  match command with
  | .host ctx input =>
    if room.mayHost input then (command.finds room).firstOf input.actionId ((command.finds room).hostAct ctx input.action)
    else .other
  | .play _ input =>
    if room.mayPlay input then
      (command.finds room).firstOf input.actionId (((command.finds room).player input.playerId).elim .other fun player =>
        (command.finds room).playerAct player.id input.action)
    else .other
  | _ => .other

def DrawsNewId : Command → SameBrainRoom → Prop
  | .join ctx .., room => ∀ player ∈ room.players, player.id ≠ ctx.token room.revision 0
  | _, _ => True

instance : (command : Command) → (room : SameBrainRoom) → Decidable (command.DrawsNewId room)
  | .join .., _ => inferInstanceAs (Decidable (∀ _ ∈ _, _))
  | .pump _, _ | .read .., _ | .host .., _ | .play .., _ => .isTrue trivial

variable {command : Command} {room : SameBrainRoom} (command : Command)

theorem finds_turn (tidy : room.game.Tidy) : Turn room.game .other (command.finds room).game := by
  have attended (ctx : GameContext) (playerId : Option Nat) : Turn room.game .other (room.attend ctx playerId).game := by
    have same := room.game_touch playerId ctx.now true
    have turn := @SameBrainRoom.advance_turn ctx (room.touch playerId ctx.now true) ctx.now (SameBrainRoom.Tidy.seated (same ▸ tidy))
    rwa [same] at turn
  unfold finds
  split
  · exact .calm
  · exact .calm
  · exact SameBrainRoom.advance_turn (SameBrainRoom.Tidy.seated tidy)
  · split
    · exact attended _ _
    · exact .calm
  · split
    · exact attended _ _
    · exact .calm

theorem finds_tidy (tidy : room.game.Tidy) : (command.finds room).game.Tidy := (command.finds_turn tidy).tidy tidy

theorem apply_turn (tidy : room.game.Tidy) (draws : command.DrawsNewId room) :
    Turn (command.finds room).game (command.act room) (command.apply room).game := by
  have found := command.finds_tidy tidy
  cases command with
  | join ctx joinToken hostToken name => exact SameBrainRoom.joinSameBrainRoom_turn tidy draws joinToken hostToken name
  | pump => exact .calm
  | read =>
    simp only [finds, act, apply, SameBrainRoom.readSameBrainSnapshot_game]
    exact .calm
  | host ctx input =>
    simp only [finds, act, apply, SameBrainRoom.applySameBrainHostAction] at found ⊢
    split
    · next may =>
      rw [if_pos may] at found
      exact SameBrainRoom.answer_turn (SameBrainRoom.hostCommand_turn found input.actionId input.action)
    · exact .calm
  | play ctx input =>
    simp only [finds, act, apply, SameBrainRoom.applySameBrainPlayerAction] at found ⊢
    split
    · next may =>
      rw [if_pos may] at found
      cases (room.attend ctx (some input.playerId)).player input.playerId with
      | none =>
        simp only [elim_none, SameBrainRoom.firstOf, ite_self]
        exact .calm
      | some player => exact SameBrainRoom.answer_turn (SameBrainRoom.playerCommand_turn found player input.action)
    · exact .calm

theorem apply_tidy (tidy : room.game.Tidy) (draws : command.DrawsNewId room) : (command.apply room).game.Tidy :=
  (command.apply_turn tidy draws).tidy (command.finds_tidy tidy)

end Command

theorem createSameBrainRoom_tidy (ctx : GameContext) (rounds : Option Nat) (toggles : TogglesPatch) (timings : TimingsPatch)
    (managed : Bool) (officialResultChannelId : Option Nat) :
    (SameBrainRoom.createSameBrainRoom ctx rounds toggles timings managed officialResultChannelId).game.Tidy :=
  ⟨nodup_nil, nofun, nofun, nofun⟩

end MilkAndHenny.SameBrain

import MilkAndHenny.Library.Machine
import MilkAndHenny.HotAndCold.Moves

/-! The points of a game against the rounds that have been won, and against the result that is
sealed once it is over. -/

namespace MilkAndHenny.HotAndCold
open Library Multiplayer

variable {hunt : Hunt} {room found after : HotAndColdRoom} {round : RoundState} {ends : Bool} {command : Command}
  {player : PlayerState} {sealed : Option OfficialGameResultEnvelope} {ctx : GameContext}

structure Hunt where
  rounds : List (List Nat) := []
  gone : List Nat := []
  sealed : Option OfficialGameResultEnvelope := none

namespace Hunt

def wins (hunt : Hunt) (id : Nat) : Nat := hunt.rounds.countP (·.contains id)

def stage (hunt : Hunt) (room after : HotAndColdRoom) : Hunt :=
  if after.gameNumber ≠ room.gameNumber then { gone := (after.players.filter (·.withdrawn)).map (·.id) }
  else if room.phase = .playing ∧ after.phase = .reveal then
    { hunt with rounds := hunt.rounds ++ [after.round.elim [] (·.winnerIds)] }
  else hunt

end Hunt

structure Watched where
  hunt : Hunt
  room : HotAndColdRoom

namespace Command

def seals (command : Command) (room : HotAndColdRoom) : Option OfficialGameResultEnvelope :=
  if room.phase ≠ .finished ∧ (command.apply room).phase = .finished then (command.apply room).hotAndColdOfficialResult command.ctx.clock
  else none

def watch (command : Command) (watched : Watched) : Watched where
  hunt :=
    let staged := (watched.hunt.stage watched.room (command.found watched.room)).stage (command.found watched.room) (command.apply watched.room)
    { staged with sealed := command.seals watched.room <|> staged.sealed }
  room := command.apply watched.room

end Command

def Precedes (row other : OfficialResultPlayer) : Prop := ∃ place ∈ row.placement, ∃ next ∈ other.placement, place < next

structure Agrees (room : HotAndColdRoom) (envelope : OfficialGameResultEnvelope) : Prop where
  raw : envelope.players.map (fun row => (row.playerId, row.rawScore)) = room.players.map fun player => (player.id, some (player.score : Int))
  hashed : envelope.payloadHash.payload.players.map (·.rawScore) = envelope.rawScores
  won : ∀ viewer clock, ∀ row ∈ envelope.players, row.won = some true ↔ row.playerId ∈ (room.snapshot viewer clock).winnerIds
  places : ∀ player ∈ room.activePlayers, ∀ other ∈ room.activePlayers, player.score < other.score →
    ∀ row ∈ envelope.players, ∀ better ∈ envelope.players, row.playerId = player.id → better.playerId = other.id → Precedes better row

/-- A finished game has the points of its rounds, and its result agrees. -/
structure Settled (watched : Watched) : Prop where
  scores : watched.room.phase = .finished → ∀ player ∈ watched.room.players, player.score = watched.hunt.wins player.id
  result : watched.room.phase = .finished → ∀ envelope ∈ watched.hunt.sealed, Agrees watched.room envelope

/-- What every sealed result says of the room: no raw score, the winners that are shown, and one place for all the others. -/
structure Projects (room : HotAndColdRoom) (envelope : OfficialGameResultEnvelope) : Prop where
  ids : envelope.players.map (·.playerId) = room.players.map (·.id)
  raw : ∀ row ∈ envelope.players ++ envelope.payloadHash.payload.players, row.rawScore = none
  won : ∀ viewer clock, ∀ row ∈ envelope.players, row.won = some true ↔ row.playerId ∈ (room.snapshot viewer clock).winnerIds
  places : ∀ player ∈ room.activePlayers, ∀ other ∈ room.activePlayers, player.score < other.score →
    ∀ row ∈ envelope.players, ∀ better ∈ envelope.players, row.playerId = player.id → better.playerId = other.id →
      ¬ Precedes row better ∧ ∀ viewer clock, Precedes better row ↔ other.id ∈ (room.snapshot viewer clock).winnerIds

/-- A command that a game does not end with, unless its result goes nowhere and nobody who had left before it began has points. -/
def Command.EndsTrue (command : Command) (watched : Watched) : Prop :=
  command.ends watched.room → watched.room.officialResultChannelId = none ∧
    ∀ player ∈ watched.room.players, player.id ∈ watched.hunt.gone → player.score = 0

instance (command : Command) (watched : Watched) : Decidable (command.EndsTrue watched) :=
  inferInstanceAs (Decidable (_ → _ ∧ ∀ player ∈ watched.room.players, player.id ∈ watched.hunt.gone → player.score = 0))

theorem mem_roundWinnerIds {guesses : List (Nat × Int)} {ids : List Nat} {id : Nat} :
    id ∈ roundWinnerIds guesses ids ↔
      id ∈ ids ∧ ∃ rank, (id, rank) ∈ guesses ∧ ∀ other ∈ guesses, other.1 ∈ ids → rank ≤ other.2 := by
  unfold roundWinnerIds
  extract_lets ranked
  have mem_ranked {guess : Nat × Int} : guess ∈ ranked ↔ guess ∈ guesses ∧ guess.1 ∈ ids := by simp [ranked, mem_filter]
  cases least : (ranked.map (·.2)).min? with
  | none =>
    have empty : ranked = [] := map_eq_nil_iff.mp (List.min?_eq_none_iff.mp least)
    constructor
    · intro winner
      cases winner
    · rintro ⟨eligible, rank, guessed, -⟩
      have listed : (id, rank) ∈ ranked := mem_ranked.mpr ⟨guessed, eligible⟩
      simp [empty] at listed
  | some best =>
    obtain ⟨attained, least⟩ := List.min?_eq_some_iff.mp least
    have least : ∀ guess ∈ ranked, best ≤ guess.2 := fun guess listed => least _ (mem_map_of_mem listed)
    simp only [mem_distinct, mem_map, mem_filter, beq_iff_eq]
    constructor
    · rintro ⟨guess, ⟨listed, rfl⟩, rfl⟩
      obtain ⟨guessed, eligible⟩ := mem_ranked.mp listed
      exact ⟨eligible, guess.2, guessed, fun other guessed eligible => least other (mem_ranked.mpr ⟨guessed, eligible⟩)⟩
    · rintro ⟨eligible, rank, guessed, lowest⟩
      have listed : (id, rank) ∈ ranked := mem_ranked.mpr ⟨guessed, eligible⟩
      obtain ⟨other, listedOther, rfl⟩ := mem_map.mp attained
      obtain ⟨guessedOther, eligibleOther⟩ := mem_ranked.mp listedOther
      have same : rank = other.2 := Int.le_antisymm (lowest other guessedOther eligibleOther) (least _ listed)
      exact ⟨(id, rank), ⟨listed, same⟩, rfl⟩

theorem nodup_roundWinnerIds (guesses : List (Nat × Int)) (ids : List Nat) : (roundWinnerIds guesses ids).Nodup := by
  unfold roundWinnerIds
  extract_lets ranked
  split
  · exact nodup_nil
  · exact nodup_distinct _

theorem award_eq {players : List PlayerState} (unique : (players.map (·.id)).Nodup) (winnerIds : List Nat) :
    HotAndColdRoom.award players winnerIds = players.map fun row => { row with score := row.score + winnerIds.count row.id } := by
  induction winnerIds generalizing players with
  | nil => simp [HotAndColdRoom.award]
  | cons id winnerIds ih =>
    have first : HotAndColdRoom.award players (id :: winnerIds) =
        HotAndColdRoom.award (updateFirst players (·.id == id) fun row => { row with score := row.score + 1 }) winnerIds := rfl
    have kept : ((update players (·.id == id) fun row => { row with score := row.score + 1 }).map (·.id)).Nodup :=
      nodup_update (fun row => rfl) unique
    rw [first, updateFirst_eq_update unique, ih kept, update, map_map]
    refine map_congr_left fun row _ => ?_
    by_cases same : row.id = id
    · simp [same]
      omega
    · simp [same, Ne.symm same]

/-- What holds of the game that is on, beside the room. -/
structure Recorded (hunt : Hunt) (room : HotAndColdRoom) : Prop where
  unique : (room.players.map (·.id)).Nodup
  peopled : room.players ≠ []
  scores : ∀ player ∈ room.players, player.id ∉ hunt.gone → player.score = hunt.wins player.id
  gone : ∀ player ∈ room.players, player.id ∈ hunt.gone → player.withdrawn = true ∧ hunt.wins player.id = 0
  listed : ∀ id ∈ hunt.gone, id ∈ room.players.map (·.id)
  lobby : room.phase = .lobby → hunt.rounds = []
  sealed : ∀ envelope ∈ hunt.sealed, ∃ row ∈ envelope.players, row.rawScore = none
  unsealed : room.officialResultChannelId = none → hunt.sealed = none

theorem same_player (unique : (room.players.map (·.id)).Nodup) {other : PlayerState} (mem : player ∈ room.players)
    (listed : other ∈ room.players) (same : player.id = other.id) : player = other :=
  inj_on_of_nodup_map unique mem listed same

theorem stage_still (gameNumber : after.gameNumber = room.gameNumber) (unrevealed : room.phase = .playing → after.phase ≠ .reveal) :
    hunt.stage room after = hunt := by
  unfold Hunt.stage
  rw [if_neg (not_not.mpr gameNumber), if_neg]
  rintro ⟨playing, revealed⟩
  exact unrevealed playing revealed

theorem Mild.stage (mild : Mild room after) : hunt.stage room after = hunt :=
  stage_still mild.gameNumber fun playing => mild.unrevealed (.inl playing)

theorem Finished.stage (finished : Finished room after) : hunt.stage room after = hunt :=
  stage_still finished.gameNumber fun _ revealed => by simp [finished.phase] at revealed

theorem Revealed.stage (revealed : Revealed room found after round) :
    hunt.stage room after = { hunt with rounds := hunt.rounds ++ [found.winnersOf round] } := by
  obtain ⟨shown, isRound, winners⟩ := map_eq_some_iff.mp revealed.winners
  unfold Hunt.stage
  rw [if_neg (not_not.mpr revealed.gameNumber), if_pos ⟨revealed.playing, revealed.phase⟩, isRound, elim_some, winners]

theorem Rematched.stage (rematched : Rematched room after) :
    hunt.stage room after = { gone := (after.players.filter (·.withdrawn)).map (·.id) } := by
  exact if_pos (by simp [rematched.gameNumber])

theorem wins_append {rounds : List (List Nat)} {gone : List Nat} {winners : List Nat}
    (once : winners.Nodup) (id : Nat) :
    Hunt.wins { rounds := rounds ++ [winners], gone, sealed } id = Hunt.wins { rounds, gone, sealed } id + winners.count id := by
  unfold Hunt.wins
  rw [countP_append, countP_singleton, once.count]
  simp

theorem winnersOf_active {id : Nat} (winner : id ∈ room.winnersOf round) : ∃ player ∈ room.players, player.id = id ∧ player.withdrawn = false := by
  obtain ⟨eligible, -⟩ := mem_roundWinnerIds.mp winner
  obtain ⟨player, listed, rfl⟩ := mem_map.mp eligible
  obtain ⟨mem, active⟩ := HotAndColdRoom.mem_activePlayers.mp (mem_filter.mp listed).1
  exact ⟨player, mem, rfl, active⟩

theorem count_winnersOf (unique : (room.players.map (·.id)).Nodup) (mem : player ∈ room.players)
    (gone : player.withdrawn = true) : (room.winnersOf round).count player.id = 0 := by
  refine List.count_eq_zero.mpr fun winner => ?_
  obtain ⟨other, listed, same, active⟩ := winnersOf_active winner
  cases same_player unique listed mem same
  simp [gone] at active

theorem Recorded.rows (recorded : Recorded hunt room) (rows : Rows room.players after.players)
    (channel : after.officialResultChannelId = room.officialResultChannelId) (lobby : after.phase = .lobby → room.phase = .lobby) :
    Recorded hunt after where
  unique := rows.rows.nodup recorded.unique
  peopled := rows.peopled recorded.peopled
  scores player mem here := by
    obtain ⟨row, listed, same, alike⟩ := rows.rows.source player mem
    rw [alike.score, same]
    exact recorded.scores row listed (same ▸ here)
  gone player mem gone := by
    obtain ⟨row, listed, same, alike⟩ := rows.rows.source player mem
    obtain ⟨withdrawn, none⟩ := recorded.gone row listed (same ▸ gone)
    exact ⟨alike.gone withdrawn, same ▸ none⟩
  listed id gone := by
    obtain ⟨row, listed, rfl⟩ := mem_map.mp (recorded.listed id gone)
    obtain ⟨other, mem, same, -⟩ := rows.stays row listed (recorded.gone row listed gone).1
    exact mem_map.mpr ⟨other, mem, same⟩
  lobby isLobby := recorded.lobby (lobby isLobby)
  sealed := recorded.sealed
  unsealed none := recorded.unsealed (channel.symm.trans none)

theorem Revealed.players_eq (revealed : Revealed room found after round) (unique : (found.players.map (·.id)).Nodup) :
    after.players = found.players.map fun row => { row with score := row.score + (found.winnersOf round).count row.id } :=
  revealed.players.trans (award_eq unique _)

theorem Revealed.recorded (revealed : Revealed room found after round) (recorded : Recorded hunt room) :
    Recorded { hunt with rounds := hunt.rounds ++ [found.winnersOf round] } after := by
  have before : Recorded hunt found := recorded.rows revealed.mild.rows revealed.mild.channel revealed.mild.lobby
  have players := revealed.players_eq before.unique
  have ids : after.players.map (·.id) = found.players.map (·.id) := by simp [players, Function.comp_def]
  have once : (found.winnersOf round).Nodup := nodup_roundWinnerIds _ _
  refine ⟨ids ▸ before.unique, ?_, ?_, ?_, ids ▸ before.listed, ?_, recorded.sealed, ?_⟩
  · simpa [players] using before.peopled
  · intro player mem here
    rw [players] at mem
    obtain ⟨row, listed, rfl⟩ := mem_map.mp mem
    rw [wins_append once]
    exact congrArg (· + _) (before.scores row listed here)
  · intro player mem gone
    rw [players] at mem
    obtain ⟨row, listed, rfl⟩ := mem_map.mp mem
    obtain ⟨withdrawn, none⟩ := before.gone row listed gone
    rw [wins_append once]
    refine ⟨withdrawn, ?_⟩
    have out : (found.winnersOf round).count row.id = 0 := count_winnersOf before.unique listed withdrawn
    exact Nat.add_eq_zero_iff.mpr ⟨none, out⟩
  · intro lobby
    simp [revealed.phase] at lobby
  · intro none
    exact recorded.unsealed (revealed.channel.symm.trans none)

theorem Rematched.recorded (rematched : Rematched room after) (recorded : Recorded hunt room) :
    Recorded { gone := (after.players.filter (·.withdrawn)).map (·.id) } after := by
  have unique : (after.players.map (·.id)).Nodup := recorded.unique.sublist rematched.ids
  refine ⟨unique, rematched.peopled recorded.peopled, ?_, ?_, ?_, fun _ => rfl, ?_, fun _ => rfl⟩
  · intro player mem here
    have active : player.withdrawn = false := by
      by_contra gone
      exact here (mem_map.mpr ⟨player, mem_filter.mpr ⟨mem, by simpa using gone⟩, rfl⟩)
    exact rematched.fresh player mem active
  · intro player mem gone
    obtain ⟨row, listed, same⟩ := mem_map.mp gone
    obtain ⟨listed, withdrawn⟩ := mem_filter.mp listed
    cases same_player unique listed mem same
    exact ⟨withdrawn, rfl⟩
  · intro id gone
    obtain ⟨row, listed, rfl⟩ := mem_map.mp gone
    exact mem_map_of_mem (mem_filter.mp listed).1
  · intro envelope sealed
    cases sealed

theorem Move.recorded (move : Move room ends after) (recorded : Recorded hunt room) : Recorded (hunt.stage room after) after := by
  cases move with
  | mild mild =>
    rw [mild.stage]
    exact recorded.rows mild.rows mild.channel mild.lobby
  | reveal revealed =>
    rw [revealed.stage]
    exact revealed.recorded recorded
  | finish finished =>
    rw [finished.stage]
    exact recorded.rows finished.rows finished.channel fun lobby => by simp [finished.phase] at lobby
  | rematch rematched =>
    rw [rematched.stage]
    exact rematched.recorded recorded

theorem seat_recorded {name : String} {token : Secret} {joinId : Option Nat} (lobby : room.phase = .lobby)
    (fresh : ∀ player ∈ room.players, player.id ≠ ctx.randomUUID room.revision) (recorded : Recorded hunt room) :
    Recorded hunt (room.seat ctx name token joinId) := by
  have players : (room.seat ctx name token joinId).players =
      room.players ++ [newPlayer (ctx.randomUUID room.revision) joinId name token ctx.clock] := rfl
  have apart : ctx.randomUUID room.revision ∉ room.players.map (·.id) := by
    intro listed
    obtain ⟨player, mem, same⟩ := mem_map.mp listed
    exact fresh player mem same
  have none : hunt.rounds = [] := recorded.lobby lobby
  refine ⟨?_, ?_, ?_, ?_, ?_, fun _ => none, recorded.sealed, recorded.unsealed⟩
  · rw [players, map_append]
    refine nodup_append.mpr ⟨recorded.unique, nodup_singleton _, ?_⟩
    intro id listed other seated same
    rw [mem_singleton.mp seated] at same
    subst same
    exact apart listed
  · simp [players]
  · intro player mem here
    rcases mem_append.mp mem with mem | mem
    · exact recorded.scores player mem here
    · cases mem_singleton.mp mem
      simp [Hunt.wins, none, newPlayer]
  · intro player mem gone
    rcases mem_append.mp mem with mem | mem
    · exact recorded.gone player mem gone
    · cases mem_singleton.mp mem
      exact absurd (recorded.listed _ gone) apart
  · intro id gone
    rw [players, map_append]
    exact mem_append_left _ (recorded.listed id gone)

/-- Whoever has left is still there, with the same points. -/
structure Parted (room after : HotAndColdRoom) : Prop where
  source : ∀ other ∈ after.players, ∃ row ∈ room.players, other.id = row.id ∧ (row.withdrawn = true → Alike row other)
  stays : ∀ row ∈ room.players, row.withdrawn = true → ∃ other ∈ after.players, other.id = row.id ∧ Alike row other
  channel : after.officialResultChannelId = room.officialResultChannelId

theorem Parted.of_rows (rows : Rows room.players after.players) (channel : after.officialResultChannelId = room.officialResultChannelId) :
    Parted room after where
  source other mem := by
    obtain ⟨row, listed, same, alike⟩ := rows.rows.source other mem
    exact ⟨row, listed, same, fun _ => alike⟩
  stays := rows.stays
  channel := channel

theorem Parted.trans (parted : Parted room found) (next : Parted found after) : Parted room after where
  source third mem := by
    obtain ⟨other, listed, sameThird, second⟩ := next.source third mem
    obtain ⟨row, first, same, alike⟩ := parted.source other listed
    exact ⟨row, first, sameThird.trans same, fun gone => (alike gone).trans _ _ _ (second ((alike gone).gone gone))⟩
  stays row mem gone := by
    obtain ⟨other, listed, same, alike⟩ := parted.stays row mem gone
    obtain ⟨third, last, sameThird, second⟩ := next.stays other listed (alike.gone gone)
    exact ⟨third, last, sameThird.trans same, alike.trans _ _ _ second⟩
  channel := next.channel.trans parted.channel

theorem Revealed.parted (revealed : Revealed room found after round) (unique : (room.players.map (·.id)).Nodup) : Parted room after := by
  have uniqueFound := revealed.mild.rows.rows.nodup unique
  have players := revealed.players_eq uniqueFound
  have alike (row : PlayerState) (mem : row ∈ found.players) (gone : row.withdrawn = true) :
      Alike row { row with score := row.score + (found.winnersOf round).count row.id } := by
    have out : (found.winnersOf round).count row.id = 0 := count_winnersOf uniqueFound mem gone
    exact ⟨by rw [out, Nat.add_zero], fun gone => gone⟩
  refine (Parted.of_rows revealed.mild.rows revealed.mild.channel).trans ⟨?_, ?_, revealed.channel.trans revealed.mild.channel.symm⟩
  · intro other mem
    rw [players] at mem
    obtain ⟨row, listed, rfl⟩ := mem_map.mp mem
    exact ⟨row, listed, rfl, alike row listed⟩
  · intro row mem gone
    rw [players]
    exact ⟨_, mem_map.mpr ⟨row, mem, rfl⟩, rfl, alike row mem gone⟩

theorem Move.parted (move : Move room ends after) (same : after.gameNumber = room.gameNumber) (unique : (room.players.map (·.id)).Nodup) :
    Parted room after := by
  cases move with
  | mild mild => exact .of_rows mild.rows mild.channel
  | reveal revealed => exact revealed.parted unique
  | finish finished => exact .of_rows finished.rows finished.channel
  | rematch rematched => simp [rematched.gameNumber] at same

theorem Parted.stale (parted : Parted room after) (gone : ∀ row ∈ room.players, row.id ∈ hunt.gone → row.withdrawn = true) :
    (∀ player ∈ after.players, player.id ∈ hunt.gone → player.score = 0) ↔
      ∀ player ∈ room.players, player.id ∈ hunt.gone → player.score = 0 := by
  constructor
  · intro none row mem listed
    obtain ⟨other, present, same, alike⟩ := parted.stays row mem (gone row mem listed)
    exact alike.score.symm.trans (none other present (same ▸ listed))
  · intro none other mem listed
    obtain ⟨row, present, same, alike⟩ := parted.source other mem
    have listed : row.id ∈ hunt.gone := same ▸ listed
    exact (alike (gone row present listed)).score.trans (none row present listed)

theorem Move.finished (move : Move room ends after) (over_ : after.phase = .finished) :
    (ends = false ∧ room.phase = .finished ∧ Mild room after) ∨ (ends = true ∧ room.phase = .reveal) := by
  cases move with
  | mild mild => exact .inl ⟨rfl, mild.unfinished over_, mild⟩
  | reveal revealed => simp [revealed.phase] at over_
  | finish finished => exact .inr ⟨rfl, finished.revealed⟩
  | rematch rematched => exact absurd over_ rematched.unfinished

theorem Move.unfinished (move : Move room false after) (same : after.gameNumber = room.gameNumber) (revealed : after.phase = .reveal) :
    room.phase ≠ .finished := by
  cases move with
  | mild mild =>
    intro finished
    exact mild.unrevealed (.inr finished) revealed
  | reveal next => simp [next.playing]
  | rematch rematched => simp [rematched.gameNumber] at same

structure Listed (room : HotAndColdRoom) (player : PlayerState) (row : OfficialResultPlayer) : Prop where
  id : row.playerId = player.id
  raw : row.rawScore = none
  won : row.won = some true ↔ player.withdrawn = false ∧ ∀ other ∈ room.activePlayers, other.score ≤ player.score
  place : player.withdrawn = false → row.placement = some (if row.won = some true then 1 else 2)

section
variable {clock : Int} {envelope : OfficialGameResultEnvelope} {player : PlayerState}

theorem official_channel (is : room.hotAndColdOfficialResult clock = some envelope) :
    room.phase = .finished ∧ room.officialResultChannelId ≠ none := by
  unfold HotAndColdRoom.hotAndColdOfficialResult at is
  split at is
  · cases is
  · next finished =>
    refine ⟨not_not.mp finished, fun none => ?_⟩
    simp [none] at is

theorem official_isSome (finished : room.phase = .finished) (channel : room.officialResultChannelId ≠ none) (clock : Int) :
    ∃ envelope, room.hotAndColdOfficialResult clock = some envelope := by
  obtain ⟨channelId, is⟩ := Option.ne_none_iff_exists'.mp channel
  unfold HotAndColdRoom.hotAndColdOfficialResult
  rw [if_neg (not_not.mpr finished), is]
  exact ⟨_, rfl⟩

theorem topScore_iff (active : player ∈ room.activePlayers) :
    some player.score = (room.activePlayers.map (·.score)).max? ↔ ∀ other ∈ room.activePlayers, other.score ≤ player.score := by
  rw [eq_comm, List.max?_eq_some_iff]
  constructor
  · rintro ⟨-, best⟩ other listed
    exact best _ (mem_map_of_mem listed)
  · intro best
    refine ⟨mem_map_of_mem active, fun score listed => ?_⟩
    obtain ⟨other, present, rfl⟩ := mem_map.mp listed
    exact best other present

theorem official_listed (is : room.hotAndColdOfficialResult clock = some envelope) :
    Forall₂ (Listed room) room.players envelope.players ∧
      envelope.payloadHash.payload.players.map (·.rawScore) = envelope.rawScores := by
  unfold HotAndColdRoom.hotAndColdOfficialResult at is
  split at is
  · cases is
  · obtain ⟨channelId, -, rfl⟩ := map_eq_some_iff.mp is
    extract_lets topScore
    refine ⟨forall₂_map_right_iff.mpr (forall₂_same.mpr fun player mem => ⟨rfl, rfl, ?_, fun active => ?_⟩), ?_⟩
    · cases gone : player.withdrawn with
      | true => simp
      | false =>
        rw [← topScore_iff (HotAndColdRoom.mem_activePlayers.mpr ⟨mem, gone⟩)]
        simp [topScore]
    · simp only [active, Bool.not_false, Bool.true_and, false_eq_true, if_false, beq_iff_eq, some.injEq]
      split <;> rfl
    · simp [sealOfficialGameResult, officialResultPayloadHash, payloadWithoutHash, OfficialGameResultEnvelope.rawScores, Function.comp_def]

theorem mem_winnerIds (unique : (room.players.map (·.id)).Nodup) (finished : room.phase = .finished)
    (mem : player ∈ room.players) (viewer : Nat) (clock : Int) :
    player.id ∈ (room.snapshot viewer clock).winnerIds ↔
      player.withdrawn = false ∧ ∀ other ∈ room.activePlayers, other.score ≤ player.score := by
  have shown : (room.snapshot viewer clock).winnerIds =
      roundWinnerIds (room.players.map fun player => (player.id, -(player.score : Int))) (room.activePlayers.map (·.id)) := if_pos finished
  have active_iff {other : PlayerState} (listed : other ∈ room.players) : other.id ∈ room.activePlayers.map (·.id) ↔ other.withdrawn = false := by
    constructor
    · intro active
      obtain ⟨row, active, same⟩ := mem_map.mp active
      obtain ⟨present, here⟩ := HotAndColdRoom.mem_activePlayers.mp active
      exact same_player unique present listed same ▸ here
    · intro here
      exact mem_map_of_mem (HotAndColdRoom.mem_activePlayers.mpr ⟨listed, here⟩)
  rw [shown, mem_roundWinnerIds, active_iff mem]
  refine and_congr_right fun _ => ?_
  constructor
  · rintro ⟨rank, guessed, lowest⟩ other active
    obtain ⟨row, listed, same⟩ := mem_map.mp guessed
    obtain ⟨sameId, rfl⟩ := Prod.mk.inj same
    cases same_player unique listed mem sameId
    obtain ⟨present, here⟩ := HotAndColdRoom.mem_activePlayers.mp active
    have least := lowest (other.id, -(other.score : Int)) (mem_map.mpr ⟨other, present, rfl⟩) ((active_iff present).mpr here)
    omega
  · intro best
    refine ⟨_, mem_map.mpr ⟨player, mem, rfl⟩, fun guess listed active => ?_⟩
    obtain ⟨other, present, rfl⟩ := mem_map.mp listed
    have least := best other (HotAndColdRoom.mem_activePlayers.mpr ⟨present, (active_iff present).mp active⟩)
    omega

theorem official_projects (unique : (room.players.map (·.id)).Nodup) (is : room.hotAndColdOfficialResult clock = some envelope) :
    Projects room envelope := by
  obtain ⟨rows, hashed⟩ := official_listed is
  obtain ⟨finished, -⟩ := official_channel is
  have won (viewer : Nat) (clock : Int) {player : PlayerState} (mem : player ∈ room.players) {row : OfficialResultPlayer}
      (listed : Listed room player row) : row.won = some true ↔ player.id ∈ (room.snapshot viewer clock).winnerIds :=
    listed.won.trans (mem_winnerIds unique finished mem viewer clock).symm
  have raw : ∀ score ∈ envelope.rawScores, score = none := by
    intro score listed
    obtain ⟨row, mem, rfl⟩ := mem_map.mp listed
    obtain ⟨player, -, listed⟩ := mem_pairs rows mem
    exact listed.raw
  refine ⟨(map_pairs rows fun player row listed => listed.id.symm).symm, ?_, ?_, ?_⟩
  · intro row mem
    rcases mem_append.mp mem with mem | mem
    · exact raw _ (mem_map_of_mem mem)
    · exact raw _ (hashed ▸ mem_map_of_mem mem)
  · intro viewer clock row mem
    obtain ⟨player, present, listed⟩ := mem_pairs rows mem
    rw [listed.id]
    exact won viewer clock present listed
  · intro player active other activeOther less row mem better memberBetter same sameOther
    obtain ⟨present, here⟩ := HotAndColdRoom.mem_activePlayers.mp active
    obtain ⟨presentOther, hereOther⟩ := HotAndColdRoom.mem_activePlayers.mp activeOther
    obtain ⟨first, firstPresent, listed⟩ := mem_pairs rows mem
    cases same_player unique firstPresent present (listed.id.symm.trans same)
    obtain ⟨second, secondPresent, listedOther⟩ := mem_pairs rows memberBetter
    obtain rfl := same_player unique secondPresent presentOther (listedOther.id.symm.trans sameOther)
    have loses : row.won ≠ some true := fun wins => by
      have best := (listed.won.mp wins).2 second activeOther
      omega
    have place : row.placement = some 2 := by rw [listed.place here, if_neg loses]
    have placeOther := listedOther.place hereOther
    constructor
    · rintro ⟨high, isHigh, low, isLow, less⟩
      rw [place] at isHigh
      rw [placeOther] at isLow
      cases isHigh
      cases isLow
      split at less <;> omega
    · intro viewer clock
      rw [← won viewer clock presentOther listedOther]
      unfold Precedes
      rw [place, placeOther]
      by_cases wins : better.won = some true
      · simp [wins]
      · simp [wins]

theorem Recorded.seal {hunt : Hunt} (recorded : Recorded hunt room)
    (is : ∀ envelope ∈ sealed, room.hotAndColdOfficialResult clock = some envelope) :
    Recorded { hunt with sealed := sealed <|> hunt.sealed } room := by
  cases sealed with
  | none => exact ⟨recorded.unique, recorded.peopled, recorded.scores, recorded.gone, recorded.listed, recorded.lobby, recorded.sealed, recorded.unsealed⟩
  | some envelope =>
    have official := is envelope rfl
    refine ⟨recorded.unique, recorded.peopled, recorded.scores, recorded.gone, recorded.listed, recorded.lobby, ?_, ?_⟩
    · intro sealed same
      cases same
      obtain ⟨player, mem⟩ := List.exists_mem_of_ne_nil _ recorded.peopled
      obtain ⟨row, listed, is⟩ := mem_pairs (official_listed official).1.flip mem
      exact ⟨row, listed, is.raw⟩
    · intro none
      exact absurd none (official_channel official).2

end

section
variable {ctx : GameContext} {watched : Watched}

theorem seals_official {envelope : OfficialGameResultEnvelope} (sealed : envelope ∈ command.seals room) :
    (command.apply room).hotAndColdOfficialResult command.ctx.clock = some envelope := by
  unfold Command.seals at sealed
  split at sealed
  · exact sealed
  · cases sealed

theorem seals_none (finished : room.phase = .finished) : command.seals room = none := if_neg fun ended => ended.1 finished

variable (recorded : Recorded watched.hunt watched.room)
include recorded

theorem watch_recorded (draws : command.DrawsNewId watched.room) :
    Recorded (command.watch watched).hunt (command.watch watched).room := by
  refine Recorded.seal ?_ fun envelope sealed => seals_official sealed
  rcases Command.played draws with ⟨clock, -, move⟩ | ⟨lobby, fresh, still, -, seated⟩
  · exact move.recorded (clock.recorded recorded)
  · have same : (watched.hunt.stage watched.room (command.found watched.room)).stage (command.found watched.room) (command.apply watched.room) =
        watched.hunt := by
      have unplayed : watched.room.phase = .playing → (command.apply watched.room).phase ≠ .reveal := fun playing => by simp [lobby] at playing
      rw [still, (Mild.refl watched.room).stage]
      exact stage_still (by rw [seated]; rfl) unplayed
    change Recorded _ (command.apply watched.room)
    rw [same, seated]
    exact seat_recorded lobby fresh recorded

theorem Recorded.disagrees (settled : Settled watched) (finished : watched.room.phase = .finished) :
    watched.hunt.sealed = none := by
  by_contra some
  obtain ⟨envelope, sealed⟩ := Option.ne_none_iff_exists'.mp some
  obtain ⟨row, mem, raw⟩ := recorded.sealed envelope sealed
  have agrees := (settled.result finished envelope sealed).raw
  have listed : (row.playerId, row.rawScore) ∈ envelope.players.map fun row => (row.playerId, row.rawScore) := mem_map.mpr ⟨row, mem, rfl⟩
  rw [agrees] at listed
  obtain ⟨player, -, same⟩ := mem_map.mp listed
  simp [raw] at same

theorem finished_settled (settled : Settled watched)
    (finished : watched.room.phase = .finished) (clock : Mild watched.room found) (isFound : command.found watched.room = found)
    (move : Mild found (command.apply watched.room)) : Settled (command.watch watched) := by
  have same : (command.watch watched).hunt = watched.hunt := by
    simp only [Command.watch, isFound, clock.stage, move.stage, seals_none finished]
    rfl
  have unsealed := recorded.disagrees settled finished
  refine ⟨fun _ player mem => ?_, fun _ envelope sealed => ?_⟩
  · obtain ⟨row, listed, sameId, alike⟩ := (clock.rows.trans move.rows).rows.source player mem
    rw [same, alike.score, sameId]
    exact settled.scores finished row listed
  · rw [same, unsealed] at sealed
    cases sealed

theorem ending_settled (draws : command.DrawsNewId watched.room)
    (clock : Move watched.room false found) (sameGame : found.gameNumber = watched.room.gameNumber) (isFound : command.found watched.room = found)
    (finished : Finished found (command.apply watched.room)) : Settled (command.watch watched) ↔
      watched.room.officialResultChannelId = none ∧ ∀ player ∈ watched.room.players, player.id ∈ watched.hunt.gone → player.score = 0 := by
  have after : Recorded (command.watch watched).hunt (command.apply watched.room) := watch_recorded recorded draws
  have parted : Parted watched.room (command.apply watched.room) :=
    (clock.parted sameGame recorded.unique).trans (.of_rows finished.rows finished.channel)
  have gone : (command.watch watched).hunt.gone = watched.hunt.gone := by
    have first : (watched.hunt.stage watched.room found).gone = watched.hunt.gone := by
      unfold Hunt.stage
      rw [if_neg (not_not.mpr sameGame)]
      split <;> rfl
    simp [Command.watch, isFound, finished.stage, first]
  have stale := @Parted.stale watched.hunt _ _ parted fun row mem listed => (recorded.gone row mem listed).1
  have unfinished : watched.room.phase ≠ .finished := clock.unfinished sameGame finished.revealed
  have seals : command.seals watched.room = (command.apply watched.room).hotAndColdOfficialResult command.ctx.clock :=
    if_pos ⟨unfinished, finished.phase⟩
  rw [← stale, ← parted.channel]
  constructor
  · intro settled
    have unsealed := after.disagrees settled finished.phase
    constructor
    · by_contra channel
      obtain ⟨envelope, official⟩ := official_isSome finished.phase channel command.ctx.clock
      have sealed : (command.watch watched).hunt.sealed = some envelope := by simp [Command.watch, seals, official]
      rw [unsealed] at sealed
      cases sealed
    · intro player mem listed
      rw [settled.scores finished.phase player mem]
      exact (after.gone player mem (gone ▸ listed)).2
  · rintro ⟨channel, none⟩
    refine ⟨fun _ player mem => ?_, fun _ envelope sealed => ?_⟩
    · by_cases listed : player.id ∈ watched.hunt.gone
      · rw [none player mem listed, (after.gone player mem (gone ▸ listed)).2]
      · exact after.scores player mem (gone ▸ listed)
    · rw [after.unsealed channel] at sealed
      cases sealed

theorem watch_settled (settled : Settled watched) (draws : command.DrawsNewId watched.room) :
    Recorded (command.watch watched).hunt (command.watch watched).room ∧ (Settled (command.watch watched) ↔ command.EndsTrue watched) := by
  refine ⟨watch_recorded recorded draws, ?_⟩
  have elsewhere (phase : (command.apply watched.room).phase ≠ .finished) : Settled (command.watch watched) :=
    ⟨fun finished => absurd finished phase, fun finished => absurd finished phase⟩
  unfold Command.EndsTrue
  generalize isFound : command.found watched.room = found
  generalize isEnds : command.ends watched.room = ends
  have played := Command.played draws
  rw [isFound, isEnds] at played
  rcases played with ⟨clock, sameGame, move⟩ | ⟨lobby, fresh, still, stays, seated⟩
  · cases ends with
    | false =>
      refine ⟨fun _ ends => Bool.noConfusion ends, fun _ => ?_⟩
      by_cases over_ : (command.apply watched.room).phase = .finished
      · rcases move.finished over_ with ⟨-, foundOver, mild⟩ | ⟨ends, -⟩
        · rcases clock.finished foundOver with ⟨-, finished, before⟩ | ⟨ends, -⟩
          · exact finished_settled recorded settled finished before isFound mild
          · cases ends
        · cases ends
      · exact elsewhere over_
    | true =>
      cases move with
      | finish finished =>
        rw [ending_settled recorded draws clock sameGame isFound finished]
        exact ⟨fun holds _ => holds, fun holds => holds rfl⟩
  · subst stays
    refine ⟨fun _ ends => Bool.noConfusion ends, fun _ => elsewhere ?_⟩
    simp [seated, HotAndColdRoom.seat, lobby]

theorem watch_projects (draws : command.DrawsNewId watched.room) :
    Recorded (command.watch watched).hunt (command.watch watched).room ∧
      ∀ envelope ∈ command.seals watched.room, Projects (command.apply watched.room) envelope := by
  have after := watch_recorded recorded draws
  exact ⟨after, fun envelope sealed => official_projects after.unique (seals_official sealed)⟩

end

theorem created_recorded (ctx : GameContext) (input : CreateInput) : Recorded {} (createHotAndColdRoom ctx input) := by
  refine ⟨nodup_singleton _, cons_ne_nil _ _, ?_, ?_, ?_, fun _ => rfl, ?_, fun _ => rfl⟩
  · intro player mem _
    cases mem_singleton.mp mem
    rfl
  · intro player _ gone
    cases gone
  · intro id gone
    cases gone
  · intro envelope sealed
    cases sealed

/-- Whoever had not left before the game has the points of its rounds. -/
def Earned (watched : Watched) : Prop :=
  ∀ player ∈ watched.room.players, player.id ∉ watched.hunt.gone → player.score = watched.hunt.wins player.id

/-- In every run of a room, every finished game has the points of its rounds and a result that agrees, exactly where each game
ends without a result and with nobody who had left before it and has points. Everyone else has the points of the rounds
throughout, and whatever is sealed shows the winners that the room shows, no raw score, and one place for all the others. -/
theorem results_agree {input : CreateInput} {commands : List Command}
    (draws : EachStep Command.watch (fun command watched => command.DrawsNewId watched.room) ⟨{}, createHotAndColdRoom ctx input⟩ commands) :
    (Throughout Command.watch Settled ⟨{}, createHotAndColdRoom ctx input⟩ commands ↔
        EachStep Command.watch Command.EndsTrue ⟨{}, createHotAndColdRoom ctx input⟩ commands) ∧
      Throughout Command.watch Earned ⟨{}, createHotAndColdRoom ctx input⟩ commands ∧
      EachStep Command.watch (fun command watched => ∀ envelope ∈ command.seals watched.room, Projects (command.apply watched.room) envelope)
        ⟨{}, createHotAndColdRoom ctx input⟩ commands := by
  have recorded := created_recorded ctx input
  have settled : Settled ⟨{}, createHotAndColdRoom ctx input⟩ := by
    constructor <;> intro finished <;> cases finished
  have agrees := @throughout_iff_within Watched Command Command.watch Settled Command.EndsTrue (fun watched => Recorded watched.hunt watched.room)
    (fun command watched => command.DrawsNewId watched.room) watch_settled ⟨{}, createHotAndColdRoom ctx input⟩ commands recorded settled draws
  obtain ⟨throughout, projects⟩ := @EachStep.shows Watched Command Command.watch (fun command watched => command.DrawsNewId watched.room)
    (fun watched => Recorded watched.hunt watched.room)
    (fun command watched => ∀ envelope ∈ command.seals watched.room, Projects (command.apply watched.room) envelope)
    watch_projects ⟨{}, createHotAndColdRoom ctx input⟩ commands recorded draws
  exact ⟨agrees, throughout.imp fun watched recorded => recorded.scores, projects⟩

def annWins : List Command :=
  [.joinAs "Bob" 1, .by 1 2 1 (.readiness true), .by 0 3 2 (.start []), .guessAs 0 4 3 0 0, .by 0 5 4 .next]

theorem results_agree_unsent : Throughout Command.watch Settled ⟨{}, annsRoom none⟩ annWins :=
  (results_agree (by decide +kernel)).1.mpr (by decide +kernel)

/-- What is sealed for a channel has no raw scores. -/
theorem sent_disagrees : ¬ Throughout Command.watch Settled ⟨{}, annsRoom (some 7)⟩ annWins := by
  intro throughout
  obtain ⟨envelope, sealed⟩ : ∃ envelope, (runFrom Command.watch ⟨{}, annsRoom (some 7)⟩ annWins).hunt.sealed = some envelope :=
    isSome_iff_exists.mp (by decide +kernel)
  have agrees := throughout.last.result (by decide +kernel) envelope sealed
  have unsaid : (runFrom Command.watch ⟨{}, annsRoom (some 7)⟩ annWins).hunt.sealed.map (·.rawScores) = some [none, none] := by
    decide +kernel
  have points : (runFrom Command.watch ⟨{}, annsRoom (some 7)⟩ annWins).room.players.map (fun player => some (player.score : Int)) =
      [some 1, some 0] := by decide +kernel
  rw [sealed] at unsaid
  have said := congrArg (List.map Prod.snd) agrees.raw
  rw [map_map, map_map] at said
  have same : envelope.rawScores = [some 1, some 0] := said.trans points
  rw [map_some, same] at unsaid
  cases unsaid

end MilkAndHenny.HotAndCold

import MilkAndHenny.Pairs.Journal

/-! A race of Pairs: two players, each at a board of their own, and the first to clear it wins the round. -/

namespace MilkAndHenny.Pairs
open Library

variable {game : PairsGame} {row : PairsRacer} {room : PairsRace}

structure PairsRacer where
  id : Nat
  name : String
  ready : Bool
  wins : Nat
  game : Option PairsGame
  unlockAt : Int

inductive RacePhase where
  | lobby | playing | reveal | finished
deriving DecidableEq

structure PairsRace where
  roomId : Nat
  expiresAt : Int
  pairCount : Nat
  phase : RacePhase
  round : Nat
  players : List PairsRacer
  winnerId : Option Nat
  conceded : Bool
  startsAt : Int

inductive PairsRaceAction where
  | ready (ready : Bool)
  | begin_
  | flip (index : Rat) (round : Nat)
  | concede

structure RaceContext where
  now : Int
  seed : Rat
  toLowerCase : String → String

def advancePairsRacer (player : PairsRacer) (now : Int) : PairsRacer :=
  match player.game with
  | some game =>
    if game.phase = .review ∧ player.unlockAt ≤ now then { player with game := some ((game.play .continue_).getD game), unlockAt := 0 } else player
  | none => player

namespace PairsRace

def updatePlayer (room : PairsRace) (id : Nat) (change : PairsRacer → PairsRacer) : PairsRace :=
  { room with players := update room.players (·.id == id) change }

def unready (room : PairsRace) : PairsRace := { room with players := room.players.map fun row => { row with ready := false } }

def applyPairsRaceAction (ctx : RaceContext) (room : PairsRace) (playerId : Nat) (action : PairsRaceAction) : Option (PairsRace × Option String) :=
  match room.players.find? (·.id == playerId) with
  | none => some (room, some "This player is no longer here")
  | some player =>
    match action with
    | .ready ready =>
      if room.phase = .playing then some (room, some "The round is already playing")
      else some (room.updatePlayer player.id fun row => { row with ready }, none)
    | .begin_ =>
      let deal (row : PairsRacer) : Option PairsGame := (createPairsGame ctx.toLowerCase ctx.seed room.pairCount [row.name]).toOption
      if room.phase = .playing then some (room, some "The round is already playing")
      else if room.players.length ≠ 2 ∨ room.players.any (!·.ready) then some (room, some "Both players need to be ready")
      else if room.players.any fun row => (deal row).isNone then none
      else
        some ({ room with
          round := if room.phase = .finished then 1 else room.round + 1
          phase := .playing
          winnerId := none
          conceded := false
          startsAt := ctx.now + 3000
          players := room.players.map fun row =>
            { row with ready := false, wins := if room.phase = .finished then 0 else row.wins, game := deal row, unlockAt := 0 } }, none)
    | .concede =>
      if room.phase ≠ .playing then some (room, some "There is no live round to concede")
      else
        match room.players.find? (·.id != player.id) with
        | none => some (room, some "There is no opponent")
        | some opponent =>
          some ({ (room.updatePlayer opponent.id fun row => { row with wins := 2 }).unready with winnerId := some opponent.id, phase := .finished, conceded := true }, none)
    | .flip index round =>
      if room.phase ≠ .playing ∨ round ≠ room.round ∨ player.game = none then some (room, some "That round has ended")
      else if ctx.now < room.startsAt then some (room, some "The round is about to start")
      else
        let advanced := advancePairsRacer player ctx.now
        match advanced.game.bind (·.play (.flip index)) with
        | none => some (room.updatePlayer player.id (advancePairsRacer · ctx.now), some "That card is not available yet")
        | some game =>
          let unlockAt :=
            if game.phase = .review then ctx.now + (if game.outcome = some .match_ then 1300 else 1400) else advanced.unlockAt
          let moved := room.updatePlayer player.id fun row => { row with game := some game, unlockAt }
          if game.matched.length = game.cards.length then
            some ({ (moved.updatePlayer player.id fun row => { row with wins := row.wins + 1 }).unready with
              winnerId := some player.id, phase := if player.wins + 1 = 2 then .finished else .reveal }, none)
          else some (moved, none)

end PairsRace

/-- What one of them sends; nothing is stored of a read, or of an action that throws. -/
inductive RaceCommand where
  | act (ctx : RaceContext) (playerId : Nat) (action : PairsRaceAction)
  | read (playerId : Nat)

def RaceCommand.apply : RaceCommand → PairsRace → PairsRace
  | .act ctx playerId action, room => (room.applyPairsRaceAction ctx playerId action).elim room Prod.fst
  | .read _, room => room

structure RacerView where
  id : Nat
  name : String
  ready : Bool
  wins : Nat
  pairs : Nat
  tries : Nat

structure PairsRaceSnapshot where
  roomId : Nat
  expiresAt : Int
  revision : Nat
  serverNow : Int
  pairCount : Nat
  phase : RacePhase
  round : Nat
  players : List RacerView
  playerId : Nat
  game : Option PairsGame
  winnerId : Option Nat
  conceded : Bool
  startsAt : Int

def PairsGame.faceDown (game : PairsGame) : PairsGame :=
  { game with
    cards := game.cards.mapIdx fun index card =>
      if game.selected.contains index || game.matched.contains index then card else { rank := "", suit := .spades }
    previous := none }

def PairsRacer.view (row : PairsRacer) : RacerView where
  id := row.id
  name := row.name
  ready := row.ready
  wins := row.wins
  pairs := (row.game.elim 0 (·.matched.length)) / 2
  tries := row.game.elim 0 (·.tries)

/-- The copy of a board in a snapshot: a continue that is due is made on it, and what is neither turned over nor matched lies face down. -/
def PairsRacer.privateGame (player : PairsRacer) (now : Int) : Option PairsGame :=
  player.game.map fun game =>
    (if game.phase = .review ∧ player.unlockAt ≤ now then (game.play .continue_).getD game else game).faceDown

def pairsRaceSnapshot (room : PairsRace) (playerId : Nat) (revision : Nat) (now : Int) : Option PairsRaceSnapshot :=
  (room.players.find? (·.id == playerId)).map fun player =>
    { roomId := room.roomId, expiresAt := room.expiresAt, revision, serverNow := now, pairCount := room.pairCount, phase := room.phase
      round := room.round, players := room.players.map PairsRacer.view, playerId
      game := player.privateGame now
      winnerId := room.winnerId, conceded := room.conceded, startsAt := room.startsAt }

/-! ### Who wins a round -/

def PairsRacer.cleared (row : PairsRacer) : Bool := row.game.any fun game => game.matched.length == game.cards.length

def RaceCommand.wins : RaceCommand → PairsRace → Option Nat
  | .act ctx playerId action, room =>
    match action, room.applyPairsRaceAction ctx playerId action with
    | .flip _ _, some (after, none) => ((after.players.find? (·.id == playerId)).filter (·.cleared)).map (·.id)
    | .concede, some (_, none) => (room.players.find? (·.id != playerId)).map (·.id)
    | _, _ => none
  | .read _, _ => none

/-- A round that is played ends with the command that wins it, and who has won it stays so until the next one begins. -/
def RaceCommand.Judged (command : RaceCommand) (room : PairsRace) : Prop :=
  if room.phase = .playing then
    match command.wins room with
    | some winner => (command.apply room).phase ≠ .playing ∧ (command.apply room).winnerId = some winner
    | none => (command.apply room).phase = .playing ∧ (command.apply room).winnerId = none
  else
    command.wins room = none ∧ ((command.apply room).phase = .playing ∧ (command.apply room).winnerId = none ∨
      (command.apply room).phase = room.phase ∧ (command.apply room).winnerId = room.winnerId)

structure PairsRace.Sound (room : PairsRace) : Prop where
  ids : (room.players.map (·.id)).Nodup
  most : ∀ wins ∈ room.players.map (·.wins), wins ≤ 2
  finished : room.phase = .finished ↔ 2 ∈ room.players.map (·.wins)
  decided : room.winnerId.isSome ↔ room.phase = .reveal ∨ room.phase = .finished
  uncleared : room.phase = .playing → ∀ row ∈ room.players, row.cleared = false

def RaceCommand.Keeps (command : RaceCommand) (room : PairsRace) : Prop := (command.apply room).Sound ∧ command.Judged room

section
variable {room after : PairsRace} {change : PairsRacer → PairsRacer} {id : Nat}

theorem advance_same (row : PairsRacer) (now : Int) : (advancePairsRacer row now).id = row.id ∧ (advancePairsRacer row now).wins = row.wins ∧
    (advancePairsRacer row now).view = row.view ∧ (advancePairsRacer row now).cleared = row.cleared := by
  unfold advancePairsRacer
  cases found : row.game with
  | none => exact ⟨rfl, rfl, rfl, rfl⟩
  | some =>
    simp only
    split
    · next due => simp [PairsRacer.view, PairsRacer.cleared, PairsGame.play, due.1, found]
    · exact ⟨rfl, rfl, rfl, rfl⟩

theorem PairsRace.Sound.updatePlayer (sound : room.Sound) {id : Nat} {change : PairsRacer → PairsRacer}
    (named : ∀ row, (change row).id = row.id) (wins : ∀ row, (change row).wins = row.wins)
    (uncleared : room.phase = .playing → ∀ row ∈ room.players, (change row).cleared = false) : (room.updatePlayer id change).Sound where
  ids := nodup_update named sound.ids
  most := by
    rw [PairsRace.updatePlayer, map_update wins]
    exact sound.most
  finished := by
    rw [PairsRace.updatePlayer, map_update wins]
    exact sound.finished
  decided := sound.decided
  uncleared playing row mem := by
    obtain ⟨old, listed, rfl⟩ := mem_update.mp mem
    split
    · exact uncleared playing old listed
    · exact sound.uncleared playing old listed

theorem judged_same {command : RaceCommand} (sound : room.Sound) (nobody : command.wins room = none)
    (same : (command.apply room).phase = room.phase ∧ (command.apply room).winnerId = room.winnerId) : command.Judged room := by
  unfold RaceCommand.Judged
  rw [nobody]
  split
  · next playing =>
    refine ⟨same.1.trans playing, same.2.trans (not_isSome_iff_eq_none.mp fun decided => ?_)⟩
    have over_ := sound.decided.mp decided
    simp [playing] at over_
  · exact ⟨rfl, .inr same⟩

theorem find?_updatePlayer {player : PairsRacer} (found : room.players.find? (·.id == id) = some player)
    (named : ∀ row, (change row).id = row.id) :
    (room.updatePlayer id change).players.find? (·.id == id) = some (change player) := by
  rw [PairsRace.updatePlayer, find?_update fun row _ => congrArg (· == id) (named row), found, map_some,
    if_pos (find?_some (p := fun row : PairsRacer => row.id == id) found)]

theorem updatePlayer_twice {first : PairsRacer → PairsRacer} (named : ∀ row, (first row).id = row.id)
    (second : PairsRacer → PairsRacer) : (room.updatePlayer id first).updatePlayer id second = room.updatePlayer id (second ∘ first) := by
  simp only [PairsRace.updatePlayer]
  rw [update_update fun row => congrArg (· == id) (named row)]

theorem unready_players (room : PairsRace) : room.unready.players.map (·.id) = room.players.map (·.id) ∧
    room.unready.players.map (·.wins) = room.players.map (·.wins) := by
  simp [PairsRace.unready, Function.comp_def]

theorem PairsRace.Sound.few (sound : room.Sound) (playing : room.phase = .playing) : ∀ row ∈ room.players, row.wins ≤ 1 := by
  intro row mem
  have two : row.wins ≠ 2 := fun two => by
    have over_ := sound.finished.mpr (two ▸ mem_map_of_mem mem)
    simp [playing] at over_
  have most := sound.most _ (mem_map_of_mem (f := (·.wins)) mem)
  omega

theorem PairsRace.Sound.award (sound : room.Sound) (playing : room.phase = .playing)
    {phase : RacePhase} {conceded : Bool} {winner : PairsRacer} (named : ∀ row, (change row).id = row.id) (found : winner ∈ room.players)
    (same : winner.id = id) (most : (change winner).wins ≤ 2) (ends : phase = if (change winner).wins = 2 then .finished else .reveal) :
    PairsRace.Sound { (room.updatePlayer id change).unready with winnerId := some id, phase, conceded } := by
  obtain ⟨ids, wins⟩ := unready_players (room.updatePlayer id change)
  have few := sound.few playing
  have rows : ∀ row ∈ (room.updatePlayer id change).players, row = change winner ∨ row ∈ room.players := by
    intro row mem
    obtain ⟨old, listed, rfl⟩ := mem_update.mp mem
    split
    · next picked => exact .inl (congrArg change (inj_on_of_nodup_map sound.ids listed found ((eq_of_beq picked).trans same.symm)))
    · exact .inr listed
  have held : change winner ∈ (room.updatePlayer id change).players :=
    mem_update.mpr ⟨winner, found, by rw [if_pos (beq_iff_eq.mpr same)]⟩
  refine ⟨?_, ?_, ?_, ?_, ?_⟩
  · rw [ids]
    exact nodup_update named sound.ids
  · rw [wins]
    rintro _ mem
    obtain ⟨row, listed, rfl⟩ := mem_map.mp mem
    rcases rows row listed with rfl | old
    · exact most
    · exact (few row old).trans (by decide)
  · rw [wins, ends, mem_map]
    split
    · next two => exact ⟨fun _ => ⟨_, held, two⟩, fun _ => rfl⟩
    · next fewer =>
      refine ⟨nofun, fun ⟨row, listed, two⟩ => ?_⟩
      rcases rows row listed with rfl | old
      · exact absurd two fewer
      · have one := few row old
        omega
  · rw [ends]
    split <;> simp
  · rw [ends]
    split <;> nofun

theorem PairsRace.Sound.begins (sound : room.Sound) {round : Nat} {startsAt : Int}
    {deal : PairsRacer → Option PairsGame} (uncleared : ∀ row, ∀ game ∈ deal row, game.matched.length ≠ game.cards.length) :
    PairsRace.Sound { room with
      round, startsAt, phase := .playing, winnerId := none, conceded := false
      players := room.players.map fun row =>
        { row with ready := false, wins := if room.phase = .finished then 0 else row.wins, game := deal row, unlockAt := 0 } } where
  ids := by
    rw [map_map]
    exact sound.ids
  most := by
    intro wins mem
    obtain ⟨row, listed, rfl⟩ := mem_map.mp (map_map .. ▸ mem)
    split
    · exact Nat.zero_le 2
    · exact sound.most _ (mem_map_of_mem (f := (·.wins)) listed)
  finished := by
    refine ⟨nofun, fun mem => ?_⟩
    obtain ⟨row, listed, two⟩ := mem_map.mp (map_map .. ▸ mem)
    simp only [Function.comp_apply] at two
    split at two
    · cases two
    · next open_ => exact absurd (sound.finished.mpr (two ▸ mem_map_of_mem listed)) open_
  decided := by simp
  uncleared _ row mem := by
    obtain ⟨old, listed, rfl⟩ := mem_map.mp mem
    cases dealt : deal old with
    | none => rfl
    | some game => exact beq_false_of_ne (uncleared old game dealt)

theorem createPairsGame_uncleared {toLowerCase : String → String} {seed : Rat} {pairCount : Nat} {names : List String}
    (created : createPairsGame toLowerCase seed pairCount names = .ok game) : game.matched.length ≠ game.cards.length := by
  obtain ⟨known, -⟩ := createPairsGame_ok created
  have filled : ∀ size ∈ pairsSizes, (pairsDeck size).length ≠ 0 := by decide
  unfold createPairsGame at created
  split at created
  · cases created
  · split at created
    · cases created
    · extract_lets trimmed cards at created
      split at created
      · cases created
      · cases Except.ok.inj created
        rw [length_shufflePairs]
        exact (filled pairCount known).symm

section
variable {ctx : RaceContext} {playerId : Nat} {action : PairsRaceAction} {player : PairsRacer}

variable (sound : room.Sound)
include sound

theorem step_quiet {error : Option String} (answer : room.applyPairsRaceAction ctx playerId action = some (after, error))
    (sound' : after.Sound) (nobody : RaceCommand.wins (.act ctx playerId action) room = none)
    (same : after.phase = room.phase ∧ after.winnerId = room.winnerId) : RaceCommand.Keeps (.act ctx playerId action) room := by
  have applied : RaceCommand.apply (.act ctx playerId action) room = after := by rw [RaceCommand.apply, answer, elim_some]
  exact ⟨applied ▸ sound', judged_same sound nobody (applied ▸ same)⟩

theorem step_refused {error : String} (answer : room.applyPairsRaceAction ctx playerId action = some (after, some error))
    (sound' : after.Sound) (same : after.phase = room.phase ∧ after.winnerId = room.winnerId) : RaceCommand.Keeps (.act ctx playerId action) room :=
  step_quiet sound answer sound' (by cases action <;> simp [RaceCommand.wins, answer]) same

variable (found : room.players.find? (·.id == player.id) = some player)
include found

theorem step_begin : RaceCommand.Keeps (.act ctx player.id .begin_) room := by
  cases answer : room.applyPairsRaceAction ctx player.id .begin_ with
  | none =>
    have applied : RaceCommand.apply (.act ctx player.id .begin_) room = room := by rw [RaceCommand.apply, answer, elim_none]
    exact ⟨by rwa [applied], judged_same sound rfl (by rw [applied]; exact ⟨rfl, rfl⟩)⟩
  | some answered =>
    have applied : RaceCommand.apply (.act ctx player.id .begin_) room = answered.1 := by rw [RaceCommand.apply, answer, elim_some]
    rw [PairsRace.applyPairsRaceAction, found] at answer
    extract_lets deal at answer
    by_cases playing : room.phase = .playing
    · exact step_refused sound (by rw [PairsRace.applyPairsRaceAction, found]; exact if_pos playing) sound ⟨rfl, rfl⟩
    · simp only [if_neg playing] at answer
      split at answer
      · exact step_refused sound (by rw [PairsRace.applyPairsRaceAction, found]; simp only [if_neg playing]; exact if_pos ‹_›) sound ⟨rfl, rfl⟩
      · split at answer
        · cases answer
        · have after := congrArg Prod.fst (some.inj answer)
          unfold RaceCommand.Keeps RaceCommand.Judged
          rw [if_neg playing, applied, ← after]
          refine ⟨sound.begins fun row game dealt => ?_, rfl, .inl ⟨rfl, rfl⟩⟩
          cases created : createPairsGame ctx.toLowerCase ctx.seed room.pairCount [row.name] with
          | error => simp [deal, created, Except.toOption] at dealt
          | ok board =>
            obtain rfl : board = game := by simpa [deal, created, Except.toOption] using dealt
            exact createPairsGame_uncleared created

theorem step_concede : RaceCommand.Keeps (.act ctx player.id .concede) room := by
  by_cases playing : room.phase = .playing
  · cases other : room.players.find? (·.id != player.id) with
    | none =>
      exact step_refused sound (by rw [PairsRace.applyPairsRaceAction, found]; simp only [if_neg (not_not.mpr playing), other]; rfl) sound ⟨rfl, rfl⟩
    | some opponent =>
      have answer := PairsRace.applyPairsRaceAction.eq_def ctx room player.id .concede
      simp only [found, if_neg (not_not.mpr playing), other] at answer
      have won : RaceCommand.wins (.act ctx player.id .concede) room = some opponent.id := by
        simp [RaceCommand.wins, answer, other]
      unfold RaceCommand.Keeps RaceCommand.Judged
      rw [if_pos playing, won, RaceCommand.apply, answer, elim_some]
      exact ⟨sound.award playing (fun _ => rfl) (mem_of_find?_eq_some other) rfl (Nat.le_refl 2) rfl, nofun, rfl⟩
  · exact step_refused sound (by rw [PairsRace.applyPairsRaceAction, found]; exact if_pos playing) sound ⟨rfl, rfl⟩

theorem step_flip (index : Rat) (round : Nat) : RaceCommand.Keeps (.act ctx player.id (.flip index round)) room := by
  by_cases live : room.phase ≠ .playing ∨ round ≠ room.round ∨ player.game = none
  · exact step_refused sound (by rw [PairsRace.applyPairsRaceAction, found]; exact if_pos live) sound ⟨rfl, rfl⟩
  · have playing : room.phase = .playing := not_not.mp (not_or.mp live).1
    by_cases early : ctx.now < room.startsAt
    · exact step_refused sound (by rw [PairsRace.applyPairsRaceAction, found]; simp only [if_neg live]; exact if_pos early) sound ⟨rfl, rfl⟩
    · have answer := PairsRace.applyPairsRaceAction.eq_def ctx room player.id (.flip index round)
      simp only [found, if_neg live, if_neg early] at answer
      cases played : (advancePairsRacer player ctx.now).game.bind (·.play (.flip index)) with
      | none =>
        rw [played] at answer
        refine step_refused sound answer (sound.updatePlayer ?_ ?_ fun plays row listed => ?_) ⟨rfl, rfl⟩
        · exact fun row => (advance_same row ctx.now).1
        · exact fun row => (advance_same row ctx.now).2.1
        · exact (advance_same row ctx.now).2.2.2.trans (sound.uncleared plays row listed)
      | some =>
        rw [played] at answer
        simp only at answer
        split at answer
        · next full =>
          rw [updatePlayer_twice] at answer
          · have won : RaceCommand.wins (.act ctx player.id (.flip index round)) room = some player.id := by
              simp only [RaceCommand.wins, answer, PairsRace.unready, find?_map, Function.comp_def]
              rw [find?_updatePlayer found]
              · simp [PairsRacer.cleared, full]
              · exact fun _ => rfl
            unfold RaceCommand.Keeps RaceCommand.Judged
            rw [if_pos playing, won, RaceCommand.apply, answer, elim_some]
            refine ⟨sound.award playing (fun _ => rfl) (mem_of_find?_eq_some found) rfl ?_ rfl, ?_, rfl⟩
            · exact Nat.succ_le_succ (sound.few playing player (mem_of_find?_eq_some found))
            · simp only
              split <;> nofun
          · exact fun _ => rfl
        · next open_ =>
          refine step_quiet sound answer (sound.updatePlayer (fun _ => rfl) (fun _ => rfl) fun _ _ _ => beq_false_of_ne open_) ?_ ⟨rfl, rfl⟩
          simp only [RaceCommand.wins, answer]
          rw [find?_updatePlayer found]
          · simp [PairsRacer.cleared, open_]
          · exact fun _ => rfl

end

theorem RaceCommand.step (sound : room.Sound) (command : RaceCommand) : command.Keeps room := by
  cases command with
  | read => exact ⟨sound, judged_same sound rfl ⟨rfl, rfl⟩⟩
  | act ctx playerId action =>
    cases found : room.players.find? (·.id == playerId) with
    | none => exact step_refused sound (by rw [PairsRace.applyPairsRaceAction, found]) sound ⟨rfl, rfl⟩
    | some player =>
      obtain rfl : player.id = playerId := eq_of_beq (find?_some (p := fun row : PairsRacer => row.id == playerId) found)
      cases action with
      | ready ready =>
        by_cases playing : room.phase = .playing
        · exact step_refused sound (by rw [PairsRace.applyPairsRaceAction, found]; exact if_pos playing) sound ⟨rfl, rfl⟩
        · have answer : room.applyPairsRaceAction ctx player.id (.ready ready) =
              some (room.updatePlayer player.id fun row => { row with ready }, none) := by
            rw [PairsRace.applyPairsRaceAction, found]
            exact if_neg playing
          exact step_quiet sound answer (sound.updatePlayer (fun _ => rfl) (fun _ => rfl) fun plays => absurd plays playing) rfl ⟨rfl, rfl⟩
      | begin_ => exact step_begin sound found
      | concede => exact step_concede sound found
      | flip index round => exact step_flip sound found index round

end

/-! ### What a racer sees -/

/-- Boards that differ in their cards alone, and where the board is the racer's own in no card that is turned over or matched. -/
def PairsGame.Alike (own : Prop) (game other : PairsGame) : Prop :=
  ∃ cards, other = { game with cards } ∧ cards.length = game.cards.length ∧
    (own → ∀ place, place ∈ game.selected ∨ place ∈ game.matched → cards[place]? = game.cards[place]?)

def PairsRacer.Alike (playerId : Nat) (row other : PairsRacer) : Prop :=
  ∃ game, other = { row with game } ∧ Option.Rel (PairsGame.Alike (row.id = playerId)) row.game game

def PairsRace.Alike (playerId : Nat) (room other : PairsRace) : Prop :=
  ∃ players, other = { room with players } ∧ Forall₂ (PairsRacer.Alike playerId) room.players players

section
variable {room other : PairsRace} {playerId : Nat} {applied now : Int} {own : Prop}

theorem PairsGame.Alike.faceDown {other : PairsGame} (alike : game.Alike own other) (mine : own) :
    other.faceDown = game.faceDown := by
  obtain ⟨cards, rfl, size, shown⟩ := alike
  simp only [PairsGame.faceDown]
  congr 1
  refine List.ext_getElem (by simp [size]) fun place inside inside' => ?_
  simp only [List.length_mapIdx] at inside inside'
  simp only [List.getElem_mapIdx, or_eq_true, contains_iff_mem]
  split
  · next open_ => simpa [getElem?_eq_getElem inside, getElem?_eq_getElem inside'] using shown mine place open_
  · rfl

theorem PairsGame.Alike.continued {other : PairsGame} (alike : game.Alike own other) (review : game.phase = .review) :
    ((game.play .continue_).getD game).Alike own ((other.play .continue_).getD other) := by
  obtain ⟨cards, rfl, size, shown⟩ := alike
  refine ⟨cards, by simp [PairsGame.play, review, PairsGame.nextTurn, size], ?_, fun mine place open_ => ?_⟩
  · simpa [PairsGame.play, review] using size
  · simp only [PairsGame.play, review, not_true_eq_false, if_false, getD_some, ne_eq] at open_ ⊢
    exact shown mine place (.inr (open_.resolve_left not_mem_nil))

theorem PairsRacer.Alike.shown {other : PairsRacer} (alike : row.Alike playerId other) (own : row.id = playerId) (now : Int) :
    row.privateGame now = other.privateGame now := by
  obtain ⟨game, rfl, games⟩ := alike
  unfold PairsRacer.privateGame
  cases started : row.game with
  | none =>
    rw [started] at games
    cases games with
    | none => rfl
  | some board =>
    rw [started] at games
    cases games with
    | @some _ other pair =>
      have phase : other.phase = board.phase := by
        obtain ⟨cards, rfl, -⟩ := pair
        rfl
      simp only [map_some, phase]
      by_cases due : board.phase = .review ∧ row.unlockAt ≤ now
      · rw [if_pos due, if_pos due, (pair.continued due.1).faceDown own]
      · rw [if_neg due, if_neg due, pair.faceDown own]

theorem PairsRace.Alike.snapshot (alike : room.Alike playerId other) (revision : Nat) (now : Int) :
    pairsRaceSnapshot other playerId revision now = pairsRaceSnapshot room playerId revision now := by
  obtain ⟨players, rfl, rows⟩ := alike
  have views : room.players.map PairsRacer.view = players.map PairsRacer.view := map_pairs rows fun row other alike => by
    obtain ⟨game, rfl, games⟩ := alike
    unfold PairsRacer.view
    cases started : row.game with
    | none =>
      rw [started] at games
      cases games with
      | none => rfl
    | some =>
      rw [started] at games
      cases games with
      | some pair =>
        obtain ⟨cards, rfl, -⟩ := pair
        rfl
  unfold pairsRaceSnapshot
  simp only [← views]
  refine (map_find?_pairs rows (fun row other alike => ?_) fun row other alike own => ?_).symm
  · obtain ⟨game, rfl, -⟩ := alike
    rfl
  · rw [alike.shown (eq_of_beq own)]

theorem PairsGame.continues (review : game.phase = .review) :
    ∃ next, game.play .continue_ = some next ∧ next.phase ≠ .review := by
  refine ⟨_, by rw [PairsGame.play, if_neg (not_not.mpr review)], ?_⟩
  simp only
  split
  · exact PairsPhase.noConfusion
  · exact PairsPhase.noConfusion

theorem advance_due {next : PairsGame} (started : row.game = some game) (review : game.phase = .review)
    (due : row.unlockAt ≤ applied) (played : game.play .continue_ = some next) :
    advancePairsRacer row applied = { row with game := some next, unlockAt := 0 } := by
  simp [advancePairsRacer, started, if_pos (And.intro review due), played]

/-- What the server does of its own accord, a snapshot does on its copy. -/
theorem privateGame_advanced (row : PairsRacer) (earlier : applied ≤ now) :
    (advancePairsRacer row applied).privateGame now = row.privateGame now := by
  cases started : row.game with
  | none => simp only [advancePairsRacer, started]
  | some game =>
    by_cases due : game.phase = .review ∧ row.unlockAt ≤ applied
    · obtain ⟨next, played, open_⟩ := PairsGame.continues due.1
      rw [advance_due started due.1 due.2 played]
      simp only [PairsRacer.privateGame, started, map_some, if_pos (And.intro due.1 (due.2.trans earlier)), played, getD_some]
      rw [if_neg fun due => open_ due.1]
    · simp [advancePairsRacer, started, if_neg due]

theorem snapshot_advanced (room : PairsRace) (playerId revision : Nat) (earlier : applied ≤ now) :
    pairsRaceSnapshot (room.updatePlayer playerId (advancePairsRacer · applied)) playerId revision now = pairsRaceSnapshot room playerId revision now := by
  have views : (update room.players (·.id == playerId) (advancePairsRacer · applied)).map PairsRacer.view = room.players.map PairsRacer.view :=
    map_update fun row => (advance_same row applied).2.2.1
  unfold pairsRaceSnapshot PairsRace.updatePlayer
  simp only [views]
  rw [find?_update fun row _ => congrArg (· == playerId) (advance_same row applied).1]
  cases found : room.players.find? (·.id == playerId) with
  | none => rfl
  | some player =>
    simp only [map_some, if_pos (find?_some (p := fun row : PairsRacer => row.id == playerId) found), privateGame_advanced player earlier]

/-- A continue that is due for a racer is the one that the server makes, and their snapshot is the same before and after it. -/
def PairsRace.Foresees (room : PairsRace) (playerId revision : Nat) (now : Int) : Prop :=
  ∀ row ∈ room.players, row.id = playerId → ∀ game, row.game = some game → game.phase = .review →
    ∀ applied, row.unlockAt ≤ applied → applied ≤ now →
      ∃ next, game.play .continue_ = some next ∧ advancePairsRacer row applied = { row with game := some next, unlockAt := 0 } ∧
        row.privateGame now = some next.faceDown ∧
        pairsRaceSnapshot (room.updatePlayer playerId fun row => { row with game := some next, unlockAt := 0 }) playerId revision now =
          pairsRaceSnapshot room playerId revision now

theorem PairsRace.Sound.foresees (sound : room.Sound) (playerId revision : Nat) (now : Int) : room.Foresees playerId revision now := by
  intro row listed own game started review applied due earlier
  obtain ⟨next, played, open_⟩ := PairsGame.continues review
  have advanced := advance_due started review due played
  have shown := privateGame_advanced row earlier
  rw [advanced] at shown
  refine ⟨next, played, advanced, ?_, ?_⟩
  · rw [← shown]
    simp [PairsRacer.privateGame, if_neg fun due : next.phase = .review ∧ (0 : Int) ≤ now => open_ due.1]
  · rw [← snapshot_advanced room playerId revision earlier, PairsRace.updatePlayer, PairsRace.updatePlayer]
    congr 2
    refine map_congr_left fun other mem => ?_
    split
    · next picked =>
      rw [inj_on_of_nodup_map sound.ids mem listed ((eq_of_beq picked).trans own.symm)]
      exact advanced.symm
    · rfl

end

/-- A table as it is made, with whoever has joined it. -/
structure PairsRace.Opens (room : PairsRace) : Prop where
  ids : (room.players.map (·.id)).Nodup
  lobby : room.phase = .lobby
  winnerId : room.winnerId = none
  wins : ∀ row ∈ room.players, row.wins = 0

theorem PairsRace.Opens.sound (opens : room.Opens) : room.Sound where
  ids := opens.ids
  most := by
    intro wins mem
    obtain ⟨row, listed, rfl⟩ := mem_map.mp mem
    exact (opens.wins row listed).trans_le (Nat.zero_le 2)
  finished := by
    refine ⟨fun finished => ?_, fun mem => ?_⟩
    · cases opens.lobby.symm.trans finished
    · obtain ⟨row, listed, two⟩ := mem_map.mp mem
      cases (opens.wins row listed).symm.trans two
  decided := by simp [opens.lobby, opens.winnerId]
  uncleared playing := by cases opens.lobby.symm.trans playing

/-- Through every course of a race each round has the one winner that the rules give it, the match ends with the second win of
one, and no snapshot tells a racer more than the cards of theirs that lie open, or anything but what it would once a continue that
is due has been made. -/
theorem race_fair (opens : room.Opens) (commands : List RaceCommand) :
    Throughout RaceCommand.apply PairsRace.Sound room commands ∧ EachStep RaceCommand.apply RaceCommand.Judged room commands ∧
      ∀ playerId revision now, let after := runFrom RaceCommand.apply room commands
        (∀ other, after.Alike playerId other → pairsRaceSnapshot other playerId revision now = pairsRaceSnapshot after playerId revision now) ∧
        after.Foresees playerId revision now := by
  have each := @EachStep.shows _ _ RaceCommand.apply (fun _ _ => True) PairsRace.Sound RaceCommand.Judged
    (fun sound _ => RaceCommand.step sound _) room commands opens.sound (EachStep.always fun _ _ => trivial)
  exact ⟨each.1, each.2, fun playerId revision now => ⟨fun other alike => alike.snapshot revision now, each.1.last.foresees playerId revision now⟩⟩

/-- Ada turns two cards over, and is still looking at them when Bo concedes. -/
def raceOfTwo : List RaceCommand :=
  let sent (now : Int) (playerId : Nat) (action : PairsRaceAction) : RaceCommand := .act { now, seed := 5, toLowerCase := id } playerId action
  [sent 1 0 (.ready true), sent 1 1 (.ready true), sent 1 0 .begin_, .read 1, sent 3001 0 (.flip 0 1), sent 3002 0 (.flip 1 1), sent 3003 1 .concede]

theorem race_fair_conceded :
    let racer (id : Nat) (name : String) : PairsRacer := { id, name, ready := false, wins := 0, game := none, unlockAt := 0 }
    let table : PairsRace :=
      { roomId := 0, expiresAt := 9, pairCount := 3, phase := .lobby, round := 0, players := [racer 0 "Ada", racer 1 "Bo"], winnerId := none
        conceded := false, startsAt := 0 }
    let ended := runFrom RaceCommand.apply table raceOfTwo
    (ended.phase = .finished ∧ ended.winnerId = some 0) ∧ Throughout RaceCommand.apply PairsRace.Sound table raceOfTwo ∧
      ended.players.map (fun row => (row.game.map (·.phase), row.unlockAt)) = [(some .review, 4402), (some .playing, 0)] ∧
      ended.Foresees 0 1 5000 := by
  intro racer table ended
  have opens : table.Opens := ⟨by decide, rfl, rfl, by simp [table, racer]⟩
  obtain ⟨sound, -, shown⟩ := race_fair opens raceOfTwo
  exact ⟨by decide +kernel, sound, by decide +kernel, (shown 0 1 5000).2⟩

end MilkAndHenny.Pairs

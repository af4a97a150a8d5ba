import MilkAndHenny.Multiplayer.Rooms
import MilkAndHenny.Multiplayer.Results

/-! A room of Hot and cold and its turns: one player after the other guesses at a hidden word, and
whoever has come closest wins the round. -/

namespace MilkAndHenny.HotAndCold
open Library Multiplayer

def connectedMs : Int := 25000
def hostTakeoverMs : Int := 60000
def maxPlayers : Nat := 8

inductive HeatBand where
  | found | burning | hot | warm | cool | cold | frozen
deriving DecidableEq

/-- What the scorer has answered on the room as it was before the transaction. -/
inductive Scored where
  | unavailable
  | invalidDictionaryWord
  | scored (roundId : Nat × Nat) (target : String) (word : String) (rank : Nat) (band : HeatBand)

/-- What one command reads besides the room; what is drawn at random is drawn by the revision it is asked at. -/
structure GameContext where
  now : Int
  /-- The clock that everything but a player's action reads. -/
  clock : Int
  newId : Nat
  randomUUID : Nat → Nat
  credential : Nat → Nat
  /-- So many targets, fresh ones where there are enough. -/
  randomHotAndColdTargets : Nat → List String → List String
  toLowerCase : String → String
  trim : String → String
  prepareGuess : String → Option String
  scored : Scored

inductive HotAndColdPhase where
  | lobby | playing | reveal | finished | closed
deriving DecidableEq

structure PlayerState extends Readiness where
  id : Nat
  joinId : Option Nat := none
  name : String
  tokenHash : Secret
  joinedAt : Int
  lastSeenAt : Int
  score : Nat := 0
  sessionScore : Nat := 0
  turnsUsed : Nat := 0
  gaveUp : Bool := false
  withdrawn : Bool := false

structure HotAndColdGuess where
  id : Nat
  sequence : Nat
  playerId : Nat
  playerName : String
  word : String
  rank : Nat
  band : HeatBand
  createdAt : Int
deriving DecidableEq

structure RoundState where
  id : Nat × Nat
  index : Nat
  target : Option String
  currentPlayerId : Option Nat := none
  turnEndsAt : Option Int := none
  guesses : List HotAndColdGuess := []
  winnerIds : List Nat := []
  exact : Bool := false
  openingGuess : Bool := true

/-- `HotAndColdGameState`. -/
structure HotAndColdRoom where
  roomId : Nat
  managed : Bool
  officialResultChannelId : Option Nat
  expiresAt : Int
  revision : Nat
  sequence : Nat
  phase : HotAndColdPhase
  hostPlayerId : Option Nat
  joinLocked : Bool
  joinHash : Secret
  rounds : Nat
  guessesPerPlayer : Nat
  turnSeconds : Nat
  targets : List String
  playedTargets : List String
  players : List PlayerState
  round : Option RoundState
  processedActions : List Nat
  gameNumber : Nat

def roundWinnerIds (guesses : List (Nat × Int)) (eligiblePlayerIds : List Nat) : List Nat :=
  let ranked := guesses.filter fun guess => eligiblePlayerIds.contains guess.1
  match (ranked.map (·.2)).min? with
  | none => []
  | some best => distinct ((ranked.filter (·.2 == best)).map (·.1))

namespace PlayerState

def connected (player : PlayerState) (now : Int) : Bool := now - player.lastSeenAt ≤ connectedMs

def setReady (player : PlayerState) (ready : Bool) : PlayerState := { player with toReadiness := setMultiplayerPlayerReady ready }

end PlayerState

namespace HotAndColdRoom

variable (room : HotAndColdRoom) (clock : Int)

def player (id : Nat) : Option PlayerState := room.players.find? (·.id == id)

def activePlayers : List PlayerState := room.players.filter (!·.withdrawn)

def updatePlayer (id : Nat) (change : PlayerState → PlayerState) : HotAndColdRoom :=
  { room with players := updateFirst room.players (·.id == id) change }

def phaseKind : MultiplayerRoomPhaseKind :=
  match room.phase with
  | .lobby => .lobby
  | .finished => .results
  | .closed => .closed
  | _ => .active

def changed : HotAndColdRoom :=
  { room with
    revision := room.revision + 1, sequence := room.sequence + 1
    expiresAt := multiplayerRoomExpiry room.phaseKind room.activePlayers.length room.expiresAt clock }

/-- `hotAndColdOfficialResult`. -/
def hotAndColdOfficialResult : Option OfficialGameResultEnvelope :=
  if room.phase ≠ .finished then none
  else room.officialResultChannelId.map fun channelId =>
    let topScore := (room.activePlayers.map (·.score)).max?
    sealOfficialGameResult channelId 1
      { gameKind := .hotAndCold, gameInstanceId := room.roomId, resultId := room.gameNumber, scope := .game
        players := room.players.map fun player =>
          let won := !player.withdrawn && some player.score == topScore
          { playerId := player.id
            outcome := if player.withdrawn then .withdrawn else .completed
            placement := if player.withdrawn then none else if won then some 1 else some 2
            score := some player.score
            won := some won } } clock

def eligible : List PlayerState :=
  room.activePlayers.filter fun player => !player.gaveUp && decide (player.turnsUsed < room.guessesPerPlayer)

def winnersOf (round : RoundState) : List Nat :=
  roundWinnerIds (round.guesses.map fun guess => (guess.playerId, (guess.rank : Int)))
    ((room.activePlayers.filter (!·.gaveUp)).map (·.id))

/-- Everyone who has won the round gets a point. -/
def award (players : List PlayerState) (winnerIds : List Nat) : List PlayerState :=
  winnerIds.foldl (fun players id => updateFirst players (·.id == id) fun row => { row with score := row.score + 1 }) players

def reveal (room : HotAndColdRoom) (exact : Bool) (clock : Int) : HotAndColdRoom :=
  match room.round.filter fun _ => room.phase == .playing with
  | none => room
  | some round =>
    let winnerIds := room.winnersOf round
    changed { room with
      players := award room.players winnerIds
      round := some { round with exact, winnerIds, currentPlayerId := none, turnEndsAt := none }
      phase := .reveal } clock

def nextPlayer (afterId : Option Nat) : Option PlayerState :=
  let start := (room.activePlayers.findIdx? fun player => afterId == some player.id).elim 0 (· + 1)
  (room.activePlayers.rotate start).find? fun player => room.eligible.any (·.id == player.id)

def nextTurn (afterId : Option Nat) (now clock : Int) : HotAndColdRoom :=
  match room.nextPlayer afterId with
  | none => room.reveal false clock
  | some player =>
    changed { room with round := room.round.map fun round =>
      { round with
        currentPlayerId := some player.id
        turnEndsAt := if 0 < room.turnSeconds then some (now + room.turnSeconds * 1000) else none } } clock

/-- A turn that has run out is used. -/
def pump : HotAndColdRoom :=
  match room.round.filter fun round => room.phase == .playing && round.turnEndsAt.any fun endsAt => endsAt != 0 && decide (endsAt ≤ clock) with
  | none => room
  | some round =>
    let current := round.currentPlayerId.bind room.player
    (current.elim room fun player => room.updatePlayer player.id fun row => { row with turnsUsed := row.turnsUsed + 1 }).nextTurn
      (current.map (·.id)) clock clock

def startRound (ctx : GameContext) (room : HotAndColdRoom) (index : Nat) : HotAndColdRoom :=
  let started := changed { room with
    players := update room.players (!·.withdrawn) fun row => { row with turnsUsed := 0, gaveUp := false }
    round := some { id := (ctx.newId, index), index, target := room.targets[index]? }
    phase := .playing } ctx.clock
  let players := started.activePlayers
  let starterIndex := (started.gameNumber - 1 + index) % players.length
  started.nextTurn (players[(starterIndex + players.length - 1) % players.length]?.map (·.id)) ctx.now ctx.clock

end HotAndColdRoom

end MilkAndHenny.HotAndCold

import MilkAndHenny.Multiplayer.Rooms

/-! A room of Centre and its clock: everyone arms, the course counts down, and whoever
has reached the centre is ranked by their time. -/

namespace MilkAndHenny.Centre
open Library Multiplayer

/-- `1 | 2 | 3 | 4 | 5`. -/
inductive CentreDifficulty where
  | one | two | three | four | five
deriving DecidableEq

structure CentrePoint where
  x : Int
  y : Int
  t : Int
deriving DecidableEq

/-- Each segment starts at the entrance. -/
structure CentreRoute where
  segments : List (List CentrePoint)
  wallHits : Nat
deriving DecidableEq

/-- What one command reads besides the room. What is drawn at random is drawn by the revision it is asked
at; a course is known by its seed, its difficulty and its number of players, and traced as the runtime's
numbers have it. -/
structure GameContext where
  now : Int
  /-- The clock that everything but a player's action reads. -/
  clock : Int
  newId : Nat
  /-- `pick(2 ** 32)`. -/
  seed : UInt32
  randomUUID : Nat → Nat
  credential : Nat → Nat
  toLowerCase : String → String
  toLocaleLowerCase : String → String
  trim : String → String
  generateCentreMaze : UInt32 → CentreDifficulty → Nat → Nat
  centreEntrancePoint : UInt32 → CentreDifficulty → Nat → Nat → CentrePoint
  validateCentreRoute : UInt32 → CentreDifficulty → Nat → Nat → CentreRoute → Option Int
  validateCentreRouteProgress : UInt32 → CentreDifficulty → Nat → Nat → CentreRoute → Option Int

inductive CentrePhase where
  | lobby | arming | countdown | racing | finishing | finished | closed
deriving DecidableEq

/-- What a player has of this race only. -/
structure ThisRace where
  entranceIndex : Option Nat := none
  armed : Bool := false
  finishedAt : Option Int := none
  elapsedMs : Option Int := none
  wallHits : Nat := 0
  resets : Nat := 0
  retired : Bool := false

structure PlayerState extends Readiness, ThisRace where
  id : Nat
  joinId : Option Nat := none
  name : String
  tokenHash : Secret
  joinedAt : Int
  colour : Nat
  lastSeenAt : Int
  withdrawn : Bool := false

structure CourseState where
  seed : UInt32
  difficulty : CentreDifficulty
  playerCount : Nat
  hash : Nat
  startsAt : Option Int := none
  firstFinishAt : Option Int := none
  endsAt : Option Int := none
deriving DecidableEq

structure CentreReplayPlayer where
  playerId : Nat
  name : String
  colour : Nat
  entranceIndex : Nat
  elapsedMs : Int
  place : Nat
  finished : Bool
  route : CentreRoute

/-- `CentreGameState`. -/
structure CentreRoom where
  roomId : Nat
  managed : Bool
  officialResultChannelId : Option Nat
  expiresAt : Int
  revision : Nat
  sequence : Nat
  phase : CentrePhase
  difficulty : CentreDifficulty
  delayedRivals : Bool
  gameNumber : Nat
  joinHash : Secret
  hostPlayerId : Option Nat
  joinLocked : Bool
  processedActions : List Nat
  players : List PlayerState
  course : Option CourseState
  /-- The replays of the current game, wherever the store keeps them. -/
  replays : List CentreReplayPlayer

inductive Outcome where
  | withdrawn | completed | didNotFinish

structure OfficialResultPlayer where
  playerId : Nat
  outcome : Outcome
  placement : Option Nat
  durationMs : Option Int
  won : Bool

structure OfficialGameResultEnvelope where
  channelId : Nat
  gameInstanceId : Nat
  gameNumber : Nat
  players : List OfficialResultPlayer

def connectedWindowMs : Int := 25000
def hostTakeoverMs : Int := 35000
def countdownMs : Int := 4000
def finishWindowMs : Int := 8000
def photoFinishMs : Int := 1250
def latencyAllowanceMs : Int := 1200
def maxPlayers : Nat := 8

def truthy (time : Option Int) : Option Int := time.filter (· != 0)

namespace PlayerState

def connected (player : PlayerState) (now : Int) : Bool := now - player.lastSeenAt ≤ connectedWindowMs

def setReady (player : PlayerState) (ready : Bool) : PlayerState := { player with toReadiness := setMultiplayerPlayerReady ready }

/-- Has a time in the rankings. -/
def placed (player : PlayerState) : Bool := player.elapsedMs.isSome && player.finishedAt.isSome

/-- Has finished or given up. -/
def through (player : PlayerState) : Bool := player.elapsedMs.isSome || player.retired

/-- The faster first, then the earlier, then the smaller id. -/
def before (player other : PlayerState) : Bool :=
  let elapsed := player.elapsedMs.getD 0
  let otherElapsed := other.elapsedMs.getD 0
  let finished := player.finishedAt.getD 0
  let otherFinished := other.finishedAt.getD 0
  elapsed < otherElapsed || (elapsed == otherElapsed &&
    (finished < otherFinished || (finished == otherFinished && player.id ≤ other.id)))

end PlayerState

namespace CentreRoom

variable (room : CentreRoom) (now : Int)

def player (id : Nat) : Option PlayerState := room.players.find? (·.id == id)

def activePlayers : List PlayerState := room.players.filter (!·.withdrawn)

def updatePlayer (id : Nat) (change : PlayerState → PlayerState) : CentreRoom :=
  { room with players := updateFirst room.players (·.id == id) change }

def phaseKind : MultiplayerRoomPhaseKind :=
  match room.phase with
  | .lobby => .lobby
  | .finished => .results
  | .closed => .closed
  | _ => .active

def changed : CentreRoom :=
  { room with
    revision := room.revision + 1, sequence := room.sequence + 1
    expiresAt := multiplayerRoomExpiry room.phaseKind room.activePlayers.length room.expiresAt now }

/-- Who takes over: a connected player before one who is away, and the longest-joined of them. -/
def transferHost (leavingId : Nat) (now : Int) : CentreRoom :=
  if room.hostPlayerId ≠ some leavingId then room
  else
    let remaining := room.activePlayers.filter (·.id ≠ leavingId)
    let connected := remaining.filter (·.connected now)
    let ordered := orderBy (fun a b => a.joinedAt < b.joinedAt || (a.joinedAt == b.joinedAt && a.id ≤ b.id))
      (if connected.isEmpty then remaining else connected)
    { room with hostPlayerId := ordered.head?.map (·.id) }

/-- Everyone who has a time, the fastest first, with their places. -/
def rankings : List (Nat × Nat) :=
  (orderBy PlayerState.before (room.players.filter (·.placed))).zipIdx.map fun (player, index) => (player.id, index + 1)

def place (id : Nat) : Option Nat := room.rankings.lookup id

/-- `centreOfficialResult`, by the number of the game. -/
def centreOfficialResult : Option OfficialGameResultEnvelope :=
  if room.phase ≠ .finished then none
  else room.officialResultChannelId.map fun channelId =>
    { channelId
      gameInstanceId := room.roomId, gameNumber := room.gameNumber
      players := room.players.map fun player =>
        { playerId := player.id
          outcome := if player.withdrawn then .withdrawn else if player.elapsedMs.isSome then .completed else .didNotFinish
          placement := room.place player.id, durationMs := player.elapsedMs, won := room.place player.id == some 1 } }

/-- The active players take their entrances in turn. -/
def lineUp (gameNumber count : Nat) : Nat → List PlayerState → List PlayerState
  | _, [] => []
  | index, player :: players =>
    if player.withdrawn then player :: lineUp gameNumber count index players
    else
      { player with toThisRace := { entranceIndex := some ((index + gameNumber - 1) % count) } } ::
        lineUp gameNumber count (index + 1) players

def startCourse (ctx : GameContext) (room : CentreRoom) (now : Int) : CentreRoom :=
  let playerCount := room.activePlayers.length
  changed { room with
    players := lineUp room.gameNumber playerCount 0 room.players
    course := some
      { seed := ctx.seed, difficulty := room.difficulty, playerCount
        hash := ctx.generateCentreMaze ctx.seed room.difficulty playerCount }
    phase := .arming } now

def advanceCountdown : CentreRoom :=
  if room.phase = .countdown ∧ (room.course.bind fun course => truthy course.startsAt).any (· ≤ now) then
    changed { room with phase := .racing } now
  else room

def finishDue (course : CourseState) (now : Int) : Bool :=
  (truthy course.firstFinishAt).any fun firstFinishAt => (truthy course.endsAt).any fun endsAt =>
    endsAt ≤ now || (room.activePlayers.all (·.through) && decide (firstFinishAt + photoFinishMs ≤ now))

def advanceFinish : CentreRoom :=
  if room.phase = .finishing ∧ room.course.any (room.finishDue · now) then changed { room with phase := .finished } now
  else room

/-- Drives the clock, on every read and every action. -/
def advance : CentreRoom := (room.advanceCountdown now).advanceFinish now

end CentreRoom

end MilkAndHenny.Centre

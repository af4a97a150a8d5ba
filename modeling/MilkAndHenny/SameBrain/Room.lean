import MilkAndHenny.Multiplayer.Rooms
import MilkAndHenny.SameBrain.Rules

/-! A room of Same brain and its phase machine. A round is scored the moment its answers
lock, and shown later; a correction takes the score back and scores the round again. -/

namespace MilkAndHenny.SameBrain
open Library Multiplayer

/-- What one command reads besides the room. `random` answers by the revision it is asked at and the bound. -/
structure GameContext where
  now : Int
  /-- The clock that the expiry of the room and the readiness requests read. -/
  clock : Int
  newId : Nat
  random : Nat → Nat → Nat
  token : Nat → Nat → Nat
  /-- The room is the live object of this process, not one that was read back from a store. -/
  inMemory : Bool
  locale : Locale
  questions : List String

structure PlayerState extends Readiness where
  id : Nat
  name : String
  tokenHash : Secret
  joinedAt : Int
  lastSeenAt : Int
  score : Int := 0
  out : Bool := false
  aloneCount : Int := 0
  answer : Option String := none
  leftAt : Option Int := none
deriving DecidableEq

/-- `SameBrainGameState`. -/
structure SameBrainRoom where
  roomId : Nat
  managed : Bool
  officialResultChannelId : Option Nat
  phase : SameBrainPhase
  revision : Nat
  sequence : Nat
  hostHash : Secret
  joinHash : Secret
  expiresAt : Int
  gameNumber : Nat
  round : Nat
  rounds : Rounds
  toggles : SameBrainToggles
  timings : SameBrainTimings
  phaseStartedAt : Int
  /-- Zero where nothing is running down. -/
  phaseEndsAt : Int
  pausedAt : Option Int
  lastActiveAt : Int
  players : List PlayerState
  hostPlayerId : Option Nat
  joinLocked : Bool
  hostDisconnectedSince : Option Int
  question : Option String
  recentQuestions : List String
  result : Option SameBrainRoundResult
  resultBaseline : Option SameBrainRoundResult
  history : List SameBrainRoundResult
  processedActions : List Nat
  winnerIds : List Nat
deriving DecidableEq

structure ResultPlayer where
  playerId : Nat
  withdrawn : Bool
  rawScore : Int
  placement : Nat
  won : Bool

structure OfficialGameResultEnvelope where
  channelId : Nat
  gameInstanceId : Nat
  gameNumber : Nat
  players : List ResultPlayer

def connectedWindowMs : Int := 25000
def hostClaimAfterMs : Int := 60000
def finishedGraceMs : Int := 1200000

variable (ctx : GameContext) (room : SameBrainRoom)

def sameBrainQuestion (revision : Nat) (recent : List String) : Option String :=
  let fresh := ctx.questions.filter fun question => !recent.contains question
  let pool := if fresh.isEmpty then ctx.questions else fresh
  pool[ctx.random revision pool.length % pool.length]?

def PlayerState.connected (player : PlayerState) (now : Int) : Bool := now - player.lastSeenAt ≤ connectedWindowMs

def PlayerState.setReady (player : PlayerState) (ready : Bool) : PlayerState :=
  { player with toReadiness := setMultiplayerPlayerReady ready }

def PlayerState.standing (player : PlayerState) : Standing where
  id := player.id
  score := player.score
  aloneCount := player.aloneCount
  out := player.out
  left := player.leftAt.isSome

namespace SameBrainRoom

def player (id : Nat) : Option PlayerState := room.players.find? (·.id == id)

def playing : List PlayerState := room.players.filter (!·.out)

def presentPlayerCount : Nat := room.players.countP (·.leftAt.isNone)

def updatePlayer (id : Nat) (change : PlayerState → PlayerState) : SameBrainRoom :=
  { room with players := updateFirst room.players (·.id == id) change }

def phaseKind : MultiplayerRoomPhaseKind :=
  match room.phase with
  | .lobby => .lobby
  | .ending => .results
  | _ => .active

def applyRoomExpiry : SameBrainRoom :=
  { room with expiresAt := multiplayerRoomExpiry room.phaseKind room.presentPlayerCount room.expiresAt ctx.clock }

def changed : SameBrainRoom :=
  applyRoomExpiry ctx { room with revision := room.revision + 1, sequence := room.sequence + 1 }

def transferHost (leavingId : Nat) (now : Int) : SameBrainRoom :=
  let eligible := orderBy (fun a b => a.joinedAt < b.joinedAt || (a.joinedAt == b.joinedAt && a.id ≤ b.id))
    (room.players.filter fun player => player.id != leavingId && !player.out && player.leftAt.isNone)
  let next := (eligible.find? (·.connected now)).or eligible.head?
  { room with
    hostPlayerId := next.map (·.id)
    hostDisconnectedSince := if next.any (!·.connected now) then some now else none }

def phaseDuration : SameBrainPhase → Int
  | .prompt => room.timings.prompt
  | .submit => room.timings.submit
  | .sayIt => room.timings.sayIt
  | .reveal => room.timings.reveal
  | .lobby | .ending => 0

def enterPhase (phase : SameBrainPhase) (now : Int) : SameBrainRoom :=
  let duration := room.phaseDuration phase
  changed ctx { room with phase, phaseStartedAt := now, phaseEndsAt := if 0 < duration then now + duration else 0 }

def startRound (now : Int) : SameBrainRoom :=
  let question := sameBrainQuestion ctx room.revision room.recentQuestions
  let asked : SameBrainRoom := { room with
    round := room.round + 1, result := none, resultBaseline := none
    players := room.players.map fun player => { player with answer := none }
    question, recentQuestions := takeLast 40 (room.recentQuestions ++ question.toList) }
  asked.enterPhase ctx .prompt now

def finish (now : Int) : SameBrainRoom :=
  let ended := { room with winnerIds := winnersOf (room.players.map PlayerState.standing), question := none }.enterPhase ctx .ending now
  { ended with expiresAt := min ended.expiresAt (now + finishedGraceMs) }

def gameOver : Bool :=
  (room.rounds : Nat) ≤ room.round || (room.toggles.eliminateOddOne && decide (room.playing.length < 2))

def afterReveal (now : Int) : SameBrainRoom :=
  if room.gameOver then room.finish ctx now else room.startRound ctx now

def everyoneAnswered : Bool := !room.playing.isEmpty && room.playing.all (·.answer.isSome)

def answers : List SameBrainAnswer :=
  room.playing.filterMap fun player => (player.answer.filter (answerIsUsable ctx.locale)).map fun text =>
    { playerId := player.id, text, normalised := normaliseAnswer ctx.locale text }

def computeResult : SameBrainRoundResult :=
  scoreRound room.round (room.question.getD "") (room.answers ctx) room.playing.length

def awardEach (points : Int) (ids : List Nat) : SameBrainRoom :=
  ids.foldl (fun room id => room.updatePlayer id fun row => { row with score := row.score + points }) room

/-- `awardResult`: the consequences of a result, applied or reversed. -/
def awardResult (result : SameBrainRoundResult) (sign : Int) : SameBrainRoom :=
  let awarded := room.awardEach (sign * result.pointsEach) result.herd
  match result.oddPlayerId with
  | none => awarded
  | some odd => awarded.updatePlayer odd fun row =>
      { row with
        aloneCount := max 0 (row.aloneCount + sign)
        out := if room.toggles.eliminateOddOne then sign == 1 else row.out }

def applyResult (result : SameBrainRoundResult) (now : Int) : SameBrainRoom :=
  let posted : SameBrainRoom := { room with
    result := some result, resultBaseline := some result, history := room.history ++ [result] }
  -- scored, but withheld until the reveal
  (posted.awardResult result 1).enterPhase ctx
    (if room.toggles.sayItAloud && !result.answers.isEmpty then .sayIt else .reveal) now

def closeSubmit (now : Int) : SameBrainRoom :=
  let closed : SameBrainRoom := { room with phaseEndsAt := now }
  closed.applyResult ctx (closed.computeResult ctx) now

/-- A correction: the result is taken back and another stands in its place. -/
def replaceResult (result next : SameBrainRoundResult) : SameBrainRoom :=
  let awarded := { room.awardResult result (-1) with result := some next }.awardResult next 1
  changed ctx { awarded with history := awarded.history.set (awarded.history.length - 1) next }

/-- The transitions that time has made due; closing the answers ends the advance. -/
def advancePhases (ctx : GameContext) (now : Int) : Nat → SameBrainRoom → SameBrainRoom
  | 0, room => room
  | guard + 1, room =>
    if room.phaseEndsAt = 0 ∨ now < room.phaseEndsAt then room
    else
      match room.phase with
      | .prompt => advancePhases ctx now guard (room.enterPhase ctx .submit now)
      | .submit => room.closeSubmit ctx now
      | .sayIt => advancePhases ctx now guard (room.enterPhase ctx .reveal now)
      | .reveal => advancePhases ctx now guard (room.afterReveal ctx now)
      | .lobby | .ending => room

def advance (now : Int) : SameBrainRoom :=
  if room.pausedAt.isSome then room else advancePhases ctx now 8 room

def placements (index : Nat) (prior : Option (Int × Nat)) : List PlayerState → List (PlayerState × Nat)
  | [] => []
  | player :: players =>
    let placement := ((prior.filter (·.1 == player.score)).map (·.2)).getD (index + 1)
    (player, placement) :: placements (index + 1) (some (player.score, placement)) players

def sameBrainOfficialResult : Option OfficialGameResultEnvelope :=
  if room.phase ≠ .ending then none
  else room.officialResultChannelId.map fun channelId =>
    let ranked := orderBy (fun a b => b.score < a.score || (a.score == b.score && a.id ≤ b.id)) room.players
    { channelId
      gameInstanceId := room.roomId, gameNumber := room.gameNumber
      players := (placements 0 none ranked).map fun (player, placement) =>
        { playerId := player.id, withdrawn := player.leftAt.isSome, rawScore := player.score, placement
          won := room.winnerIds.contains player.id } }

end SameBrainRoom

end MilkAndHenny.SameBrain

import MilkAndHenny.HotAndCold.Room

/-! The view of a room of Hot and cold that its players receive, and the commands: joining, reading,
and the actions of the players. Each command is one locked transaction on the stored room. -/

namespace MilkAndHenny.HotAndCold
open Library Multiplayer

structure HotAndColdPlayer where
  id : Nat
  name : String
  connected : Bool
  ready : Bool
  host : Bool
  score : Nat
  sessionScore : Nat
  turnsUsed : Nat
  gaveUp : Bool
  withdrawn : Bool
deriving DecidableEq

/-- The round as it is shown: the target only once it is over. -/
structure HotAndColdRound where
  id : Nat × Nat
  number : Nat
  total : Nat
  currentPlayerId : Option Nat
  turnEndsAt : Option Int
  guesses : List HotAndColdGuess
  winnerIds : List Nat
  exact : Bool
  openingGuess : Bool
  target : Option String
deriving DecidableEq

structure HotAndColdSnapshot where
  roomId : Nat
  phase : HotAndColdPhase
  revision : Nat
  sequence : Nat
  serverNow : Int
  expiresAt : Int
  managed : Bool
  gameNumber : Nat
  hostPlayerId : Option Nat
  canControl : Bool
  joinLocked : Bool
  rounds : Nat
  guessesPerPlayer : Nat
  turnSeconds : Nat
  playerId : Nat
  ready : Bool
  startRequestId : Option Nat
  players : List HotAndColdPlayer
  round : Option HotAndColdRound
  winnerIds : List Nat
deriving DecidableEq

inductive HotAndColdJoinErrorCode where
  | gameStarted | roomLocked | inviteExpired | invalidName | nameTaken | roomFull

inductive HotAndColdRejectionCode where
  | actionUnavailable | playersNotReady | invalidGuess | duplicateGuess | scorerUnavailable

inductive HotAndColdAction where
  | readiness (ready : Bool)
  | admissionSet (locked : Bool)
  | configure (rounds guessesPerPlayer turnSeconds : Option Int)
  | start (removePlayerIds : List Nat)
  | guess (word : String) (roundId : Nat × Nat)
  | pass (roundId : Nat × Nat)
  | giveUp (roundId : Nat × Nat)
  | next
  | replay
  | lobby
  | leave
  | rename (name : String)
  | passHost (playerId : Nat)

structure HotAndColdCredentials where
  expiresAt : Int
  playerId : Nat
  playerToken : Secret
  snapshot : HotAndColdSnapshot

inductive HotAndColdSnapshotResult where
  | unavailable
  | unchanged (serverNow : Int)
  | view (snapshot : HotAndColdSnapshot)

inductive HotAndColdActionResult where
  | unavailable
  | rejected (snapshot : HotAndColdSnapshot) (code : HotAndColdRejectionCode) (error : String)
  | accepted (snapshot : HotAndColdSnapshot)

/-- What a command comes to, with the room as it leaves it. -/
inductive Verdict where
  | accept (room : HotAndColdRoom)
  | reject (room : HotAndColdRoom) (code : HotAndColdRejectionCode) (error : String)

def Verdict.room : Verdict → HotAndColdRoom
  | .accept room | .reject room .. => room

structure JoinInput where
  joinToken : Option Secret
  name : String
  /-- The id of the attempt and the token that the browser has chosen. -/
  attempt : Option (Nat × Secret)

structure ReadInput where
  playerId : Nat
  playerToken : Secret
  /-- What the digest that the client holds is of. -/
  lastDigest : Option HotAndColdSnapshot

structure ActionInput where
  playerId : Nat
  playerToken : Secret
  actionId : Nat
  action : HotAndColdAction

/-- The time of the answer stays out of a digest. -/
def HotAndColdSnapshot.digest (view : HotAndColdSnapshot) : HotAndColdSnapshot := { view with serverNow := 0 }

def turnSecondOptions : List Int := [0, 10, 15, 20, 30]

def clampRounds (rounds : Int) : Nat := (min 7 (max 1 rounds)).toNat

def clampGuesses (guesses : Int) : Nat := (min 10 (max 2 guesses)).toNat

/-- `turnSecondsOption`. -/
def turnSecondsOption (value : Option Int) : Option Nat := (value.filter turnSecondOptions.contains).map Int.toNat

namespace HotAndColdRoom

def host (room : HotAndColdRoom) : Option PlayerState := room.hostPlayerId.bind room.player

def summaryOf (room : HotAndColdRoom) (now : Int) (player : PlayerState) : HotAndColdPlayer where
  id := player.id
  name := player.name
  connected := player.connected now
  ready := player.ready
  host := room.hostPlayerId == some player.id
  score := player.score
  sessionScore := player.sessionScore + player.score
  turnsUsed := player.turnsUsed
  gaveUp := player.gaveUp
  withdrawn := player.withdrawn

def isRevealed (room : HotAndColdRoom) : Bool := room.phase == .reveal || room.phase == .finished

/-- Whoever has the most points of those who are still there. -/
def gameWinnerIds (room : HotAndColdRoom) : List Nat :=
  if room.phase = .finished then
    roundWinnerIds (room.players.map fun player => (player.id, -(player.score : Int))) (room.activePlayers.map (·.id))
  else []

def snapshot (room : HotAndColdRoom) (playerId : Nat) (clock : Int) : HotAndColdSnapshot where
  roomId := room.roomId
  phase := room.phase
  revision := room.revision
  sequence := room.sequence
  serverNow := clock
  expiresAt := room.expiresAt
  managed := room.managed
  gameNumber := room.gameNumber
  hostPlayerId := room.hostPlayerId
  canControl := room.hostPlayerId == some playerId || room.host.all fun host => decide (hostTakeoverMs < clock - host.lastSeenAt)
  joinLocked := room.joinLocked
  rounds := room.rounds
  guessesPerPlayer := room.guessesPerPlayer
  turnSeconds := room.turnSeconds
  playerId
  ready := (room.player playerId).all (·.ready)
  startRequestId := (room.player playerId).bind (·.startRequestId)
  players := room.players.map (room.summaryOf clock)
  round := room.round.map fun round =>
    { id := round.id, number := round.index + 1, total := room.rounds, currentPlayerId := round.currentPlayerId
      turnEndsAt := round.turnEndsAt, guesses := round.guesses, winnerIds := round.winnerIds, exact := round.exact
      openingGuess := round.openingGuess, target := round.target.filter fun _ => room.isRevealed }
  winnerIds := room.gameWinnerIds

end HotAndColdRoom

def newPlayer (id : Nat) (joinId : Option Nat) (name : String) (tokenHash : Secret) (clock : Int) : PlayerState :=
  { id, joinId, name, tokenHash, joinedAt := clock, lastSeenAt := clock }

structure CreateInput where
  hostName : String
  rounds : Option Int
  guessesPerPlayer : Option Int
  turnSeconds : Option Int
  managed : Bool
  officialResultChannelId : Option Nat

def createHotAndColdRoom (ctx : GameContext) (input : CreateInput) : HotAndColdRoom :=
  let host := newPlayer (ctx.randomUUID 0) none (ctx.trim input.hostName) (.token (ctx.credential 0)) ctx.clock
  let rounds := clampRounds (input.rounds.getD 3)
  { roomId := ctx.newId
    managed := input.managed
    officialResultChannelId := input.officialResultChannelId
    expiresAt := multiplayerLobbyExpiresAt ctx.clock 1
    revision := 1
    sequence := 1
    phase := .lobby
    hostPlayerId := some host.id
    joinLocked := false
    joinHash := .token (ctx.credential 1)
    rounds
    guessesPerPlayer := clampGuesses (input.guessesPerPlayer.getD 4)
    turnSeconds := (turnSecondsOption input.turnSeconds).getD 20
    targets := ctx.randomHotAndColdTargets rounds []
    playedTargets := []
    players := [host]
    round := none
    processedActions := []
    gameNumber := 1 }

variable (playerId actionId : Nat)

namespace HotAndColdRoom

variable (ctx : GameContext) (room : HotAndColdRoom)

def seat (name : String) (token : Secret) (joinId : Option Nat) : HotAndColdRoom :=
  let player := newPlayer (ctx.randomUUID room.revision) joinId name token ctx.clock
  changed { room with players := room.players ++ [player] } ctx.clock

def joined (id : Nat) (token : Secret) : HotAndColdCredentials where
  expiresAt := room.expiresAt
  playerId := id
  playerToken := token
  snapshot := room.snapshot id ctx.clock

/-- An attempt that has succeeded before is answered again. -/
def joinHotAndColdRoom (input : JoinInput) :
    Except (HotAndColdJoinErrorCode × String) HotAndColdCredentials × HotAndColdRoom :=
  let existing := input.attempt.bind fun (joinId, _) => room.players.find? (·.joinId == some joinId)
  let token := input.attempt.elim (Secret.token (ctx.credential room.revision)) (·.2)
  let name := ctx.trim input.name
  if (room.managed && input.joinToken.isNone) || input.joinToken.any (· != room.joinHash) then
    (.error (.inviteExpired, "This invite is no longer valid"), room)
  else
    match existing with
    | some player =>
      if player.tokenHash = token then (.ok (room.joined ctx player.id token), room)
      else (.error (.inviteExpired, "This join attempt is no longer valid"), room)
    | none =>
      if room.phase ≠ .lobby then (.error (.gameStarted, "This hunt has started"), room)
      else if room.joinLocked then (.error (.roomLocked, "This room is locked"), room)
      else if maxPlayers ≤ room.activePlayers.length then (.error (.roomFull, "This room is full"), room)
      else if name.isEmpty then (.error (.invalidName, "Add your name"), room)
      else if room.activePlayers.any fun player => ctx.toLowerCase player.name == ctx.toLowerCase name then
        (.error (.nameTaken, "That name is already here"), room)
      else
        let seated := room.seat ctx name token (input.attempt.map (·.1))
        (.ok (seated.joined ctx (ctx.randomUUID room.revision) token), seated)

def validPlayer (playerToken : Secret) : Option PlayerState :=
  (room.player playerId).filter fun player => !player.withdrawn && player.tokenHash == playerToken

def readHotAndColdSnapshot (input : ReadInput) : HotAndColdSnapshotResult × HotAndColdRoom :=
  match room.validPlayer input.playerId input.playerToken with
  | none => (.unavailable, room)
  | some player =>
    let touched := room.updatePlayer player.id fun row =>
      { row with lastSeenAt := touchMultiplayerPresence row.lastSeenAt ctx.clock false }
    let read := touched.pump ctx.clock
    let view := read.snapshot player.id ctx.clock
    (if input.lastDigest = some view.digest then .unchanged ctx.clock else .view view, read)

/-- `rememberMultiplayerAction`. -/
def rememberAction : HotAndColdRoom :=
  { room with processedActions := rememberMultiplayerAction room.processedActions actionId }

def attend (now : Int) : HotAndColdRoom :=
  room.updatePlayer playerId fun row => { row with lastSeenAt := now }

def depart (clock : Int) : HotAndColdRoom :=
  let gone := room.updatePlayer playerId fun row => { row with withdrawn := true }
  let handed := if gone.hostPlayerId = some playerId then { gone with hostPlayerId := gone.activePlayers.head?.map (·.id) } else gone
  changed (if handed.activePlayers.isEmpty then { handed with phase := .closed } else handed) clock

/-- `player.leave`. -/
def leave (clock : Int) : HotAndColdRoom :=
  let left := room.depart playerId clock
  if (room.round.bind (·.currentPlayerId)) = some playerId ∧ left.phase = .playing then left.nextTurn (some playerId) clock clock else left

def controls (now : Int) : Bool :=
  room.hostPlayerId == some playerId || decide (hostTakeoverMs < now - room.host.elim 0 (·.lastSeenAt))

def isPlaying (roundId : Nat × Nat) : Bool := room.phase == .playing && room.round.any (·.id == roundId)

def isTurnOf : Bool := room.round.any (·.currentPlayerId == some playerId)

def hostRefusal (player : PlayerState) (action : HotAndColdAction) :
    Option (HotAndColdRejectionCode × String) :=
  if !room.controls player.id ctx.now then some (.actionUnavailable, "The room lead controls the hunt")
  else
    match action with
    | .admissionSet _ => if room.phase ≠ .lobby then some (.actionUnavailable, "The room only locks in the lobby") else none
    | .passHost targetId =>
      if room.activePlayers.any (·.id == targetId) then none else some (.actionUnavailable, "That player is not available")
    | .configure .. => if room.phase = .lobby ∧ room.managed = false then none else some (.actionUnavailable, "That action is not available")
    | .start _ => if room.phase = .lobby then none else some (.actionUnavailable, "That action is not available")
    | .next => if room.phase = .reveal ∧ room.round.isSome then none else some (.actionUnavailable, "That action is not available")
    | .replay | .lobby => if room.phase = .finished then none else some (.actionUnavailable, "That action is not available")
    | .readiness _ | .rename _ | .guess .. | .pass _ | .giveUp _ | .leave => some (.actionUnavailable, "That action is not available")

def guessRefusal (player : PlayerState) (word : String) (roundId : Nat × Nat) :
    Option (HotAndColdRejectionCode × String) :=
  if !(room.isPlaying roundId && room.isTurnOf player.id) then some (.actionUnavailable, "It is not your turn")
  else if (ctx.prepareGuess word).isNone then some (.invalidGuess, "Type one English word")
  else
    match ctx.scored with
    | .invalidDictionaryWord => some (.invalidGuess, "That word is not in our dictionary")
    | .unavailable => some (.scorerUnavailable, "The word scorer is warming up. Try again.")
    | .scored scoredRound target scoredWord _ _ =>
      if !(room.round.any fun round => scoredRound == round.id && round.target == some target) then
        some (.actionUnavailable, "The round moved on. Try your guess again.")
      else if room.round.any fun round => round.guesses.any (·.word == scoredWord) then
        some (.duplicateGuess, "That word is already in the ledger")
      else none

def refusal (player : PlayerState) (action : HotAndColdAction) :
    Option (HotAndColdRejectionCode × String) :=
  match action with
  | .leave => none
  | .rename name =>
    let name := ctx.trim name
    if room.phase ≠ .lobby then some (.actionUnavailable, "Names only change in the lobby")
    else if name.isEmpty ∨ 24 < name.length then some (.actionUnavailable, "Use a name between 1 and 24 characters")
    else if room.activePlayers.any fun other => other.id != player.id && ctx.toLowerCase other.name == ctx.toLowerCase name then
      some (.actionUnavailable, "Someone in this room already uses that name")
    else none
  | .readiness _ => if room.phase ≠ .lobby then some (.actionUnavailable, "The hunt has started") else none
  | .guess word roundId => room.guessRefusal ctx player word roundId
  | .pass roundId =>
    if room.isPlaying roundId then
      if room.isTurnOf player.id then none else some (.actionUnavailable, "It is not your turn")
    else room.hostRefusal ctx player action
  | .giveUp roundId => if room.isPlaying roundId then none else room.hostRefusal ctx player action
  | action => room.hostRefusal ctx player action

def ledger (player : PlayerState) (round : RoundState) (word : String) (rank : Nat)
    (band : HeatBand) : HotAndColdRoom :=
  let guess : HotAndColdGuess :=
    { id := ctx.newId, sequence := round.guesses.length + 1, playerId := player.id, playerName := player.name, word, rank, band, createdAt := ctx.now }
  changed { (if round.openingGuess then room else room.updatePlayer player.id fun row => { row with turnsUsed := row.turnsUsed + 1 }) with
    round := some { round with openingGuess := false, guesses := round.guesses ++ [guess] } } ctx.clock

def submit (player : PlayerState) (word : String) (rank : Nat) (band : HeatBand) : HotAndColdRoom :=
  match room.round with
  | none => room
  | some round =>
    let guessed := room.ledger ctx player round word rank band
    if rank = 0 then guessed.reveal true ctx.clock else guessed.nextTurn (some player.id) ctx.clock ctx.clock

def skip (playerId : Nat) (change : PlayerState → PlayerState) : HotAndColdRoom :=
  let skipped := changed (room.updatePlayer playerId change) ctx.clock
  if room.isTurnOf playerId then skipped.nextTurn (some playerId) ctx.clock ctx.clock else skipped

/-- Unready, and not asked before and now removed. -/
def isUnconfirmed (removePlayerIds : List Nat) (row : PlayerState) : Bool :=
  !row.withdrawn && !row.ready && (row.id == playerId || !removePlayerIds.contains row.id || row.startRequestId.isNone)

/-- `requestMultiplayerReadiness`, by the id of the action. -/
def requestReadiness (actionId : Nat) (asks : PlayerState → Bool) : HotAndColdRoom :=
  changed { room with
    players := update room.players (fun row => asks row && row.isNudged ctx.clock) fun row =>
      { row with toReadiness := row.toReadiness.request actionId ctx.clock } } ctx.clock

def keepsSeat (removePlayerIds : List Nat) (row : PlayerState) : Bool :=
  row.withdrawn || row.ready || row.id == playerId || !removePlayerIds.contains row.id

def start (ctx : GameContext) (room : HotAndColdRoom) (actionId playerId : Nat) (removePlayerIds : List Nat) : Verdict :=
  let asks := isUnconfirmed playerId removePlayerIds
  let remaining := room.players.filter (keepsSeat playerId removePlayerIds)
  if room.activePlayers.length < 2 then .reject room .actionUnavailable "Two people is the smallest hunt"
  else if room.players.any asks then .reject (room.requestReadiness ctx actionId asks) .playersNotReady "Some players are not ready"
  else if (remaining.filter (!·.withdrawn)).length < 2 then .reject room .actionUnavailable "Two ready people are needed to start"
  else .accept ((if remaining.length ≠ room.players.length then changed { room with players := remaining } ctx.clock else room).startRound ctx 0)

/-- A new game in the lobby, its scores added up; only those who are still there start from nothing. -/
def rematch (replay : Bool) : HotAndColdRoom :=
  let playedTargets := room.playedTargets ++ room.targets
  changed { room with
    playedTargets
    targets := ctx.randomHotAndColdTargets room.rounds playedTargets
    players := update room.players (!·.withdrawn) fun row =>
      { row.setReady (replay || room.hostPlayerId == some row.id) with
        sessionScore := row.sessionScore + row.score, score := 0, turnsUsed := 0, gaveUp := false }
    gameNumber := room.gameNumber + 1
    round := none
    phase := .lobby } ctx.clock

def configure (rounds guessesPerPlayer turnSeconds : Option Int) : HotAndColdRoom :=
  let rounds := ((rounds.filter (· != 0)).map clampRounds).getD room.rounds
  changed { room with
    rounds
    guessesPerPlayer := ((guessesPerPlayer.filter (· != 0)).map clampGuesses).getD room.guessesPerPlayer
    turnSeconds := (turnSecondsOption turnSeconds).getD room.turnSeconds
    targets := ctx.randomHotAndColdTargets rounds room.playedTargets } ctx.clock

def next : HotAndColdRoom :=
  match room.round with
  | none => room
  | some round => if room.rounds ≤ round.index + 1 then changed { room with phase := .finished } ctx.clock else room.startRound ctx (round.index + 1)

def carryOut (actionId : Nat) (player : PlayerState) : HotAndColdAction → Verdict
  | .leave => .accept (room.leave player.id ctx.clock)
  | .rename name => .accept (changed (room.updatePlayer player.id fun row => { row.setReady false with name := ctx.trim name }) ctx.clock)
  | .readiness ready => .accept (changed (room.updatePlayer player.id (·.setReady ready)) ctx.clock)
  | .guess .. =>
    match ctx.scored with
    | .scored _ _ word rank band => .accept (room.submit ctx player word rank band)
    | _ => .accept room
  | .pass _ => .accept (room.skip ctx player.id fun row => { row with turnsUsed := row.turnsUsed + 1 })
  | .giveUp _ => .accept (room.skip ctx player.id fun row => { row with gaveUp := true })
  | .admissionSet locked => .accept (if room.joinLocked = locked then room else changed { room with joinLocked := locked } ctx.clock)
  | .passHost targetId => .accept (changed { room with hostPlayerId := some targetId } ctx.clock)
  | .configure rounds guessesPerPlayer turnSeconds => .accept (room.configure ctx rounds guessesPerPlayer turnSeconds)
  | .start removePlayerIds => room.start ctx actionId player.id removePlayerIds
  | .next => .accept (room.next ctx)
  | .replay => .accept ((room.rematch ctx true).startRound ctx 0)
  | .lobby => .accept (room.rematch ctx false)

def command (actionId : Nat) (player : PlayerState) (action : HotAndColdAction) : Verdict :=
  match room.refusal ctx player action with
  | some (code, error) => .reject room code error
  | none => room.carryOut ctx actionId player action

def conclude (playerId actionId : Nat) : Verdict → HotAndColdActionResult × HotAndColdRoom
  | .accept after =>
    let stored := after.rememberAction actionId
    (.accepted (stored.snapshot playerId ctx.clock), stored)
  | .reject after code error => (.rejected (after.snapshot playerId ctx.clock) code error, after)

def applyHotAndColdAction (input : ActionInput) : HotAndColdActionResult × HotAndColdRoom :=
  match room.validPlayer input.playerId input.playerToken with
  | none => (.unavailable, room)
  | some _ =>
    let pumped := room.pump ctx.clock
    if pumped.processedActions.contains input.actionId then conclude ctx input.playerId input.actionId (.accept pumped)
    else
      let attended := pumped.attend input.playerId ctx.now
      match attended.player input.playerId with
      | none => (.unavailable, attended)
      | some player => conclude ctx player.id input.actionId (attended.command ctx input.actionId player input.action)

end HotAndColdRoom

/-- Everything that is done to a room once it is created. -/
inductive Command where
  | join (ctx : GameContext) (input : JoinInput)
  | read (ctx : GameContext) (input : ReadInput)
  | act (ctx : GameContext) (input : ActionInput)

namespace Command

def ctx : Command → GameContext
  | .join ctx _ | .read ctx _ | .act ctx _ => ctx

def apply : Command → HotAndColdRoom → HotAndColdRoom
  | .join ctx input, room => (room.joinHotAndColdRoom ctx input).2
  | .read ctx input, room => (room.readHotAndColdSnapshot ctx input).2
  | .act ctx input, room => (room.applyHotAndColdAction ctx input).2

end Command

/-- A world without random numbers, where the ids are the revisions they are drawn at. -/
def GameContext.plain (now : Int) : GameContext where
  now := now
  clock := now
  newId := 0
  randomUUID := id
  credential revision := 100 + revision
  randomHotAndColdTargets count _ := List.replicate count "winter"
  toLowerCase := id
  trim := id
  prepareGuess := some
  scored := .unavailable

def Command.by (now : Int) (actionId : Nat) (action : HotAndColdAction) : Command :=
  .act (.plain now) { playerId, playerToken := .token (100 + playerId), actionId, action }

def Command.joinAs (name : String) (now : Int) : Command := .join (.plain now) { joinToken := none, name, attempt := none }

def Command.guessAs (now : Int) (actionId index rank : Nat) : Command :=
  .act { GameContext.plain now with scored := .scored (0, index) "winter" "snow" rank .hot }
    { playerId, playerToken := .token (100 + playerId), actionId, action := .guess "snow" (0, index) }

def annsRoom (officialResultChannelId : Option Nat) : HotAndColdRoom :=
  createHotAndColdRoom (.plain 0)
    { hostName := "Ann", rounds := some 1, guessesPerPlayer := none, turnSeconds := none, managed := false, officialResultChannelId }

end MilkAndHenny.HotAndCold

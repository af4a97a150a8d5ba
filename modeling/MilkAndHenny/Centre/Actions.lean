import MilkAndHenny.Centre.Room

/-! The view of a room of Centre that its players receive, and the commands: joining, reading,
and the actions of the players. Each command is one locked transaction on the stored room. -/

namespace MilkAndHenny.Centre
open Library Multiplayer

structure CentrePlayerSummary where
  id : Nat
  name : String
  colour : Nat
  entranceIndex : Option Nat
  connected : Bool
  ready : Bool
  armed : Bool
  finishedAt : Option Int
  elapsedMs : Option Int
  place : Option Nat
  wallHits : Nat
  resets : Nat
  retired : Bool
  withdrawn : Bool
deriving DecidableEq

structure CentreSnapshot where
  roomId : Nat
  managed : Bool
  phase : CentrePhase
  serverNow : Int
  revision : Nat
  sequence : Nat
  expiresAt : Int
  gameNumber : Nat
  hostPlayerId : Option Nat
  canControl : Bool
  joinLocked : Bool
  delayedRivals : Bool
  difficulty : CentreDifficulty
  players : List CentrePlayerSummary
  playerId : Nat
  ready : Bool
  startRequestId : Option Nat
  course : Option CourseState
deriving DecidableEq

inductive CentreJoinErrorCode where
  | gameStarted | roomLocked | inviteExpired | invalidName | nameTaken | roomFull

inductive CentreRejectionCode where
  | actionUnavailable | playersNotReady | invalidRoute

inductive CentreAction where
  | readiness (ready : Bool)
  | admissionSet (locked : Bool)
  | configure (difficulty : Option CentreDifficulty) (delayedRivals : Option Bool)
  | start (removePlayerIds : List Nat)
  | arming (armed : Bool)
  | finish (courseHash : Nat) (route : CentreRoute) (claimedElapsedMs : Int)
  | progress (courseHash : Nat) (route : CentreRoute)
  | retire (courseHash : Nat) (route : CentreRoute)
  | replay
  | lobby
  | leave
  | rename (name : String)
  | passHost (playerId : Nat)
deriving DecidableEq

structure CentrePlayerCredentials where
  expiresAt : Int
  playerId : Nat
  playerToken : Secret
  snapshot : CentreSnapshot

inductive CentreSnapshotResult where
  | unavailable
  | unchanged (serverNow : Int)
  | view (snapshot : CentreSnapshot)

inductive CentreReplayResult where
  | unavailable
  | notFinished
  | shown (course : CourseState) (players : List CentreReplayPlayer)

inductive CentreActionResult where
  | unavailable
  | rejected (snapshot : CentreSnapshot) (code : CentreRejectionCode) (error : String)
  | accepted (snapshot : CentreSnapshot)

/-- What a command comes to, with the room as it leaves it. -/
inductive Verdict where
  | accept (room : CentreRoom)
  | reject (room : CentreRoom) (code : CentreRejectionCode) (error : String)

structure JoinInput where
  joinToken : Option Secret
  name : String
  /-- The id of the attempt and the token that the browser has chosen. -/
  attempt : Option (Nat × Secret)

structure ReadInput where
  playerId : Nat
  playerToken : Secret
  /-- What the digest that the client holds is of. -/
  lastDigest : Option CentreSnapshot

structure ActionInput where
  playerId : Nat
  playerToken : Secret
  actionId : Option Nat
  action : CentreAction

/-- The time of the answer stays out of a digest. -/
def CentreSnapshot.digest (view : CentreSnapshot) : CentreSnapshot := { view with serverNow := 0 }

def CentreReplayPlayer.before (replay other : CentreReplayPlayer) : Bool :=
  if replay.finished = other.finished then
    replay.elapsedMs < other.elapsedMs || (replay.elapsedMs == other.elapsedMs && replay.playerId ≤ other.playerId)
  else replay.finished

variable (ctx : GameContext) (room : CentreRoom)

variable (playerId : Nat) (now : Int)

variable (player : PlayerState) (action : CentreAction)

namespace CentreRoom

def host : Option PlayerState :=
  room.players.find? fun player => room.hostPlayerId == some player.id && !player.withdrawn

def canControl : Bool :=
  room.hostPlayerId == some playerId || room.host.all fun host => decide (hostTakeoverMs < now - host.lastSeenAt)

def summaryOf : CentrePlayerSummary where
  id := player.id
  name := player.name
  colour := player.colour
  entranceIndex := player.entranceIndex
  connected := player.connected now
  ready := player.ready
  armed := player.armed
  finishedAt := player.finishedAt
  elapsedMs := player.elapsedMs
  place := room.place player.id
  wallHits := player.wallHits
  resets := player.resets
  retired := player.retired
  withdrawn := player.withdrawn

def snapshot : CentreSnapshot where
  roomId := room.roomId
  managed := room.managed
  phase := room.phase
  serverNow := now
  revision := room.revision
  sequence := room.sequence
  expiresAt := room.expiresAt
  gameNumber := room.gameNumber
  hostPlayerId := room.hostPlayerId
  canControl := room.canControl playerId now
  joinLocked := room.joinLocked
  delayedRivals := room.delayedRivals
  difficulty := room.difficulty
  players := room.players.map (room.summaryOf now)
  playerId
  ready := (room.player playerId).all (·.ready)
  startRequestId := (room.player playerId).bind (·.startRequestId)
  course := room.course

end CentreRoom

def newPlayer (id : Nat) (joinId : Option Nat) (name : String) (tokenHash : Secret) (colour : Nat) (clock : Int) : PlayerState :=
  { id, joinId, name, tokenHash, joinedAt := clock, colour, lastSeenAt := clock }

structure CreateInput where
  hostName : String
  difficulty : CentreDifficulty
  delayedRivals : Bool
  managed : Bool
  officialResultChannelId : Option Nat

def createCentreRoom (input : CreateInput) : CentreRoom :=
  let host := newPlayer (ctx.randomUUID 0) none input.hostName (.token (ctx.credential 0)) 0 ctx.clock
  { roomId := ctx.newId
    managed := input.managed
    officialResultChannelId := input.officialResultChannelId
    expiresAt := multiplayerLobbyExpiresAt ctx.clock 1
    revision := 1
    sequence := 1
    phase := .lobby
    difficulty := input.difficulty
    delayedRivals := input.delayedRivals
    gameNumber := 1
    joinHash := .token (ctx.credential 1)
    hostPlayerId := some host.id
    joinLocked := false
    processedActions := []
    players := [host]
    course := none
    replays := [] }

namespace CentreRoom

def seat (name : String) (token : Secret) (joinId : Option Nat) : CentreRoom :=
  let player := newPlayer (ctx.randomUUID room.revision) joinId name token (room.players.length % 8) ctx.clock
  changed { room with players := room.players ++ [player] } ctx.clock

def joined (id : Nat) (token : Secret) : CentrePlayerCredentials where
  expiresAt := room.expiresAt
  playerId := id
  playerToken := token
  snapshot := room.snapshot id ctx.clock

def join (ctx : GameContext) (room : CentreRoom) (input : JoinInput) :
    Except (CentreJoinErrorCode × String) CentrePlayerCredentials × CentreRoom :=
  let existing := input.attempt.bind fun (joinId, _) => room.players.find? (·.joinId == some joinId)
  let token := input.attempt.elim (Secret.token (ctx.credential room.revision)) (·.2)
  let name := ctx.trim input.name
  if (room.managed && input.joinToken.isNone) || input.joinToken.any (· != room.joinHash) then
    (.error (.inviteExpired, "This invite is no longer valid"), room)
  else
    match existing with
    | some player =>
      if player.tokenHash = token then (.ok (room.joined ctx player.id token), room)
      else (.error (.inviteExpired, "This join attempt is no longer valid"), room)
    | none =>
      if room.phase ≠ .lobby then (.error (.gameStarted, "This race has started"), room)
      else if room.joinLocked then (.error (.roomLocked, "This room is locked"), room)
      else if maxPlayers ≤ room.activePlayers.length then (.error (.roomFull, "This room is full"), room)
      else if name.isEmpty then (.error (.invalidName, "Add your name"), room)
      else if room.activePlayers.any fun player => ctx.toLowerCase player.name == ctx.toLowerCase name then
        (.error (.nameTaken, "That name is already racing"), room)
      else
        let seated := room.seat ctx name token (input.attempt.map (·.1))
        (.ok (seated.joined ctx (ctx.randomUUID room.revision) token), seated)

def joinCentreRoom (input : JoinInput) :
    Except (CentreJoinErrorCode × String) CentrePlayerCredentials × CentreRoom :=
  (room.advance ctx.clock).join ctx input

def authenticatedPlayer (playerToken : Secret) : Option PlayerState :=
  (room.player playerId).filter (·.tokenHash == playerToken)

def validPlayer (playerToken : Secret) : Option PlayerState :=
  (room.authenticatedPlayer playerId playerToken).filter (!·.withdrawn)

def readCentreSnapshot (input : ReadInput) : CentreSnapshotResult × CentreRoom :=
  match room.validPlayer input.playerId input.playerToken with
  | none => (.unavailable, room)
  | some player =>
    let touched := room.updatePlayer player.id fun row =>
      { row with lastSeenAt := touchMultiplayerPresence row.lastSeenAt ctx.clock false }
    let read := touched.advance ctx.clock
    let view := read.snapshot player.id ctx.clock
    (if input.lastDigest = some view.digest then .unchanged ctx.clock else .view view, read)

def replaysInOrder : List CentreReplayPlayer :=
  let replays := room.players.filterMap fun player => room.replays.find? (·.playerId == player.id)
  (orderBy CentreReplayPlayer.before replays).zipIdx.map fun (replay, index) => { replay with place := index + 1 }

def readCentreReplay (playerToken : Secret) :
    CentreReplayResult × CentreRoom :=
  match room.validPlayer playerId playerToken with
  | none => (.unavailable, room)
  | some _ =>
    let read := room.advance ctx.clock
    (match read.course.filter fun _ => read.phase == .finished with
      | none => .notFinished
      | some course => .shown course read.replaysInOrder, read)

/-- `rememberMultiplayerAction`. -/
def rememberAction (actionId : Nat) : CentreRoom :=
  { room with processedActions := rememberMultiplayerAction room.processedActions actionId }

/-- `player.leave`: nobody leaves the roster, and the last one to go closes the room. -/
def leave : CentreRoom :=
  let gone := (room.transferHost playerId now).updatePlayer playerId fun row => { row with withdrawn := true }
  changed (if gone.activePlayers.isEmpty then { gone with phase := .closed } else gone) now

def attend : CentreRoom :=
  (room.updatePlayer playerId fun row => { row with lastSeenAt := now }).advance now

def onCourse : Option (CourseState × Int × Nat) :=
  room.course.bind fun course => (truthy course.startsAt).bind fun startsAt =>
    player.entranceIndex.map fun entranceIndex => (course, startsAt, entranceIndex)

def isRunning : Bool := room.phase == .racing || room.phase == .finishing

end CentreRoom

def CourseState.verifies (course : CourseState) (ctx : GameContext) (entranceIndex courseHash : Nat) (route : CentreRoute)
    (claimedElapsedMs : Int) : Option Int :=
  (ctx.validateCentreRoute course.seed course.difficulty course.playerCount entranceIndex route).filter fun elapsedMs =>
    courseHash == course.hash && decide ((elapsedMs - claimedElapsedMs).natAbs ≤ 250)

def elapsedMsOf (routeMs startsAt now : Int) : Int := max 500 (max routeMs (now - startsAt - latencyAllowanceMs))

def CourseState.traces (course : CourseState) (ctx : GameContext) (entranceIndex : Nat) (route : CentreRoute) : Option Int :=
  ctx.validateCentreRouteProgress course.seed course.difficulty course.playerCount entranceIndex route

namespace CentreRoom

def hostRefusal : CentreAction → Option (CentreRejectionCode × String)
  | .admissionSet _ => if room.phase ≠ .lobby then some (.actionUnavailable, "The room only locks in the lobby") else none
  | .passHost targetId =>
    if room.activePlayers.any (·.id == targetId) then none else some (.actionUnavailable, "That player is not available")
  | .configure .. =>
    if room.managed then some (.actionUnavailable, "The game-night settings are fixed")
    else if room.phase ≠ .lobby then some (.actionUnavailable, "Settings are locked")
    else none
  | .start _ => if room.phase = .lobby then none else some (.actionUnavailable, "That action is not available")
  | .replay | .lobby => if room.phase = .finished then none else some (.actionUnavailable, "That action is not available")
  | .readiness _ | .rename _ | .arming _ | .finish .. | .progress .. | .retire .. | .leave => none

def finishRefusal (courseHash : Nat) (route : CentreRoute)
    (claimedElapsedMs : Int) : Option (CentreRejectionCode × String) :=
  match (room.onCourse player).filter fun _ => room.isRunning && !player.retired with
  | none => some (.actionUnavailable, "The race is not accepting finishes")
  | some (course, _, entranceIndex) =>
    if player.elapsedMs.isSome || (course.verifies ctx entranceIndex courseHash route claimedElapsedMs).isSome then none
    else some (.invalidRoute, "That route could not be verified")

def routeRefusal : Option (CentreRejectionCode × String) :=
  if (room.isRunning || room.phase == .finished) && (room.onCourse player).isSome then none
  else some (.actionUnavailable, "The race is not accepting routes")

def refusal :
    Option (CentreRejectionCode × String) :=
  match action with
  | .rename name =>
    if room.phase ≠ .lobby then some (.actionUnavailable, "Names only change in the lobby")
    else if room.activePlayers.any fun other => other.id != player.id &&
        ctx.toLocaleLowerCase other.name == ctx.toLocaleLowerCase name then
      some (.actionUnavailable, "That name is already here")
    else none
  | .readiness _ => if room.phase ≠ .lobby then some (.actionUnavailable, "Readiness only changes in the lobby") else none
  | .arming _ => if room.phase ≠ .arming then some (.actionUnavailable, "The start is no longer waiting") else none
  | .finish courseHash route claimedElapsedMs => room.finishRefusal ctx player courseHash route claimedElapsedMs
  | .progress .. | .retire .. => room.routeRefusal player
  | .leave => none
  | action =>
    if room.canControl player.id ctx.now then room.hostRefusal action else some (.actionUnavailable, "The host controls the race")

def arm (armed : Bool) (now : Int) : CentreRoom :=
  let set := if player.armed = armed then room else changed (room.updatePlayer player.id fun row => { row with armed }) now
  match set.course.filter fun _ => set.activePlayers.all (·.armed) with
  | none => set
  | some course =>
    changed { set with course := some { course with startsAt := some (now + countdownMs) }, phase := .countdown } now

def saveReplay (replay : CentreReplayPlayer) : CentreRoom :=
  { room with replays := room.replays.filter (·.playerId ≠ replay.playerId) ++ [replay] }

/-- A verified route: the first one starts the others' clock. -/
def finish (course : CourseState) (entranceIndex : Nat) (route : CentreRoute)
    (elapsedMs now : Int) : CentreRoom :=
  let timed := room.updatePlayer player.id fun row =>
    { row with finishedAt := some now, elapsedMs := some elapsedMs, wallHits := route.wallHits, resets := route.segments.length - 1 }
  let closing := changed (if course.firstFinishAt.isSome then timed
    else { timed with
      course := some { course with firstFinishAt := some now, endsAt := some (now + finishWindowMs) }, phase := .finishing }) now
  closing.saveReplay
    { playerId := player.id, name := player.name, colour := player.colour, entranceIndex, elapsedMs
      place := (closing.place player.id).getD 1, finished := true, route }

def retire (course : CourseState) (entranceIndex courseHash : Nat)
    (route : CentreRoute) (now : Int) : CentreRoom :=
  let traced := course.traces ctx entranceIndex route
  let kept : CentreRoute := if courseHash = course.hash ∧ traced.isSome then route
    else { segments := [[ctx.centreEntrancePoint course.seed course.difficulty course.playerCount entranceIndex]], wallHits := 0 }
  let out := room.updatePlayer player.id fun row =>
    { row with retired := true, wallHits := kept.wallHits, resets := kept.segments.length - 1 }
  let saved := out.saveReplay
    { playerId := player.id, name := player.name, colour := player.colour, entranceIndex, elapsedMs := traced.getD 0
      place := room.players.length, finished := false, route := kept }
  changed (if saved.activePlayers.all (·.through) then { saved with phase := .finished } else saved) now

def isThrough : Bool :=
  player.through || (room.replays.find? (·.playerId == player.id)).any (·.finished)

def progress (course : CourseState) (entranceIndex courseHash : Nat)
    (route : CentreRoute) : Verdict :=
  match (course.traces ctx entranceIndex route).filter fun _ => courseHash == course.hash with
  | none => .reject room .invalidRoute "That route could not be verified"
  | some elapsedMs => .accept (room.saveReplay
      { playerId := player.id, name := player.name, colour := player.colour, entranceIndex, elapsedMs
        place := room.players.length, finished := false, route })

/-- Unready, and not asked before and now removed. -/
def isUnconfirmed (removePlayerIds : List Nat) (row : PlayerState) : Bool :=
  !row.withdrawn && !row.ready && (row.id == playerId || !removePlayerIds.contains row.id || row.startRequestId.isNone)

/-- `requestMultiplayerReadiness`, by the id of the command. -/
def requestReadiness (asks : PlayerState → Bool) : CentreRoom :=
  if room.players.any fun row => asks row && row.isNudged ctx.clock then
    changed { room with
      players := update room.players (fun row => asks row && row.isNudged ctx.clock) fun row =>
        { row with toReadiness := row.toReadiness.request ctx.newId ctx.clock } } ctx.now
  else room

def keepsSeat (removePlayerIds : List Nat) (row : PlayerState) : Bool :=
  row.ready || row.id == playerId || !removePlayerIds.contains row.id

def removeUnready (removePlayerIds : List Nat) : CentreRoom :=
  if removePlayerIds.isEmpty then room else { room with players := room.players.filter (keepsSeat playerId removePlayerIds) }

def start (removePlayerIds : List Nat) : Verdict :=
  let asks := isUnconfirmed playerId removePlayerIds
  if room.players.any asks then .reject (room.requestReadiness ctx asks) .playersNotReady "Some players are not ready"
  else .accept ((room.removeUnready playerId removePlayerIds).startCourse ctx ctx.now)

def nextGame : CentreRoom := { room with gameNumber := room.gameNumber + 1, replays := [] }

/-- `game.lobby`: everyone starts from nothing, and readies up again. -/
def toLobby : CentreRoom :=
  changed { room.nextGame with
    players := room.players.map fun row => { row.setReady (room.hostPlayerId == some row.id) with toThisRace := {} }
    phase := .lobby, course := none } now

def carryOut : CentreAction → Verdict
  | .rename name => .accept (changed (room.updatePlayer player.id fun row => { row.setReady false with name }) ctx.now)
  | .readiness ready =>
    .accept (if player.ready = ready then room else changed (room.updatePlayer player.id (·.setReady ready)) ctx.now)
  | .arming armed => .accept (room.arm player armed ctx.now)
  | .finish courseHash route claimedElapsedMs =>
    .accept <| ((room.onCourse player).filter fun _ => player.elapsedMs.isNone).elim room fun (course, startsAt, entranceIndex) =>
      (course.verifies ctx entranceIndex courseHash route claimedElapsedMs).elim room fun routeMs =>
        (room.finish player course entranceIndex route (elapsedMsOf routeMs startsAt ctx.now) ctx.now).advance ctx.now
  | .progress courseHash route =>
    ((room.onCourse player).filter fun _ => !room.isThrough player).elim (.accept room) fun (course, _, entranceIndex) =>
      room.progress ctx player course entranceIndex courseHash route
  | .retire courseHash route =>
    .accept <| ((room.onCourse player).filter fun _ => !room.isThrough player).elim room fun (course, _, entranceIndex) =>
      room.retire ctx player course entranceIndex courseHash route ctx.now
  | .admissionSet locked => .accept (if room.joinLocked = locked then room else changed { room with joinLocked := locked } ctx.now)
  | .passHost targetId => .accept (changed { room with hostPlayerId := some targetId } ctx.now)
  | .configure difficulty delayedRivals =>
    .accept (changed { room with
      difficulty := difficulty.getD room.difficulty, delayedRivals := delayedRivals.getD room.delayedRivals } ctx.now)
  | .start removePlayerIds => room.start ctx player.id removePlayerIds
  | .replay => .accept (room.nextGame.startCourse ctx ctx.now)
  | .lobby => .accept (room.toLobby ctx.now)
  | .leave => .accept (room.leave player.id ctx.now)

def command : Verdict :=
  match room.refusal ctx player action with
  | some (code, error) => .reject room code error
  | none => room.carryOut ctx player action

def conclude (playerId actionId : Nat) : Verdict → CentreActionResult × CentreRoom
  | .accept after =>
    let stored := after.rememberAction actionId
    (.accepted (stored.snapshot playerId ctx.now), stored)
  | .reject after code error => (.rejected (after.snapshot playerId ctx.clock) code error, after)

def applyCentreAction (input : ActionInput) : CentreActionResult × CentreRoom :=
  let actionId := input.actionId.getD ctx.newId
  match room.authenticatedPlayer input.playerId input.playerToken with
  | none => (.unavailable, room)
  | some player =>
    if room.processedActions.contains actionId then conclude ctx player.id actionId (.accept room)
    else if player.withdrawn then
      if input.action = .leave then conclude ctx player.id actionId (.accept room) else (.unavailable, room)
    else if input.action = .leave then conclude ctx player.id actionId (.accept (room.leave player.id ctx.now))
    else
      let attended := room.attend player.id ctx.now
      match attended.player player.id with
      | none => (.unavailable, room)
      | some player => conclude ctx player.id actionId (attended.command ctx player input.action)

end CentreRoom

/-- Everything that is done to a room once it is created. -/
inductive Command where
  | join (ctx : GameContext) (input : JoinInput)
  | read (ctx : GameContext) (input : ReadInput)
  | readReplay (ctx : GameContext) (playerId : Nat) (playerToken : Secret)
  | act (ctx : GameContext) (input : ActionInput)

def Command.apply : Command → CentreRoom → CentreRoom
  | .join ctx input, room => (room.joinCentreRoom ctx input).2
  | .read ctx input, room => (room.readCentreSnapshot ctx input).2
  | .readReplay ctx playerId playerToken, room => (room.readCentreReplay ctx playerId playerToken).2
  | .act ctx input, room => (room.applyCentreAction ctx input).2

/-- A time, and a runtime that draws the revision, whose mazes let every route through. -/
def GameContext.plain : GameContext where
  now := now
  clock := now
  newId := 0
  seed := 0
  randomUUID := id
  credential revision := 100 + revision
  toLowerCase := id
  toLocaleLowerCase := id
  trim := id
  generateCentreMaze _ _ _ := 0
  centreEntrancePoint _ _ _ _ := { x := 10000, y := 0, t := 0 }
  validateCentreRoute _ _ _ _ route := (route.segments.getLast?.bind (·.getLast?)).map (·.t)
  validateCentreRouteProgress _ _ _ _ route := (route.segments.getLast?.bind (·.getLast?)).map (·.t)

def Command.by (actionId : Nat) (action : CentreAction) : Command :=
  .act (.plain now) { playerId, playerToken := .token (100 + playerId), actionId := some actionId, action }

def Command.readBy : Command :=
  .read (.plain now) { playerId, playerToken := .token (100 + playerId), lastDigest := none }

def Command.joinAs (name : String) (now : Int) : Command := .join (.plain now) { joinToken := none, name, attempt := none }

def CentreAction.finishIn (elapsedMs : Int) : CentreAction :=
  .finish 0 { segments := [[{ x := 10000, y := 0, t := 0 }, { x := 0, y := 0, t := elapsedMs }]], wallHits := 0 } elapsedMs

def annsRoom : CentreRoom :=
  createCentreRoom (.plain 0)
    { hostName := "Ann", difficulty := .three, delayedRivals := false, managed := false, officialResultChannelId := some 7 }

end MilkAndHenny.Centre

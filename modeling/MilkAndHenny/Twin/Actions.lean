import MilkAndHenny.Twin.Room

/-! The view of a room of Twin that one viewer receives, and the commands: joining, reading,
and the actions of the players. Each command is one locked transaction on the stored room. -/

namespace MilkAndHenny.Twin
open Library Multiplayer

structure TwinPlayerSummary where
  id : Nat
  name : String
  cardsLeft : Nat
  chain : Nat
  longestChain : Nat
  connections : Nat
  misses : Nat
  connected : Bool
  ready : Bool
  host : Bool
  place : Option Nat
  withdrawn : Bool
deriving DecidableEq

structure TwinHeatSnapshot where
  id : Nat
  number : Nat
  middle : Option TwinDealtCard
  playedMiddle : Option TwinDealtCard
  revealAt : Int
  deadlineAt : Int
  graceEndsAt : Option Int
  resolvedAt : Option Int
  settleAt : Option Int
  nextHeatAt : Option Int
  landedCount : Nat
  results : List TwinHeatResult
  burned : Bool
deriving DecidableEq

structure TwinPrivateState where
  playerId : Nat
  ready : Bool
  startRequestId : Option Nat
  top : Option TwinDealtCard
  rest : List TwinDealtCard
  landedMs : Option Int
  misses : Nat
  cooldownUntil : Option Int
  chain : Nat
deriving DecidableEq

/-- `TwinEndingSnapshot`, but for the texts of the awards. -/
structure TwinEndingSnapshot where
  winnerPlayerId : Option Nat
  headline : String
  heatCount : Nat
deriving DecidableEq

structure TwinSnapshot where
  roomId : Nat
  managed : Bool
  phase : TwinPhase
  serverNow : Int
  revision : Nat
  sequence : Nat
  expiresAt : Int
  gameNumber : Nat
  hostPlayerId : Option Nat
  canControl : Bool
  joinLocked : Bool
  order : TwinOrder
  handSize : Nat
  windowMs : Int
  graceMs : Int
  players : List TwinPlayerSummary
  heat : Option TwinHeatSnapshot
  player : Option TwinPrivateState
  ending : Option TwinEndingSnapshot
deriving DecidableEq

inductive TwinJoinErrorCode where
  | gameStarted | roomLocked | inviteExpired | invalidName | nameTaken | roomFull

inductive TwinRejectionCode where
  | actionUnavailable | playersNotReady | heatEnded | wrongSymbol | coolingDown | alreadyLanded | notHost | deckTooSmall
deriving DecidableEq

inductive TwinAction where
  | start (removePlayerIds : List Nat)
  | admissionSet (locked : Bool)
  | passHost (playerId : Nat)
  | configure (handSize : Option Nat) (windowMs graceMs : Option Int)
  | replay
  | lobby
  | timing (settleHoldMs : Int)
  | nextHeat
  | readiness (ready : Bool)
  | rename (name : String)
  | tap (heatId : Nat) (symbolId : String) (elapsedMs : Int)
  | leave
deriving DecidableEq

structure TwinPlayerCredentials where
  expiresAt : Int
  playerId : Nat
  playerToken : Secret
  snapshot : TwinSnapshot

inductive TwinSnapshotResult where
  | unavailable
  | unchanged (serverNow : Int)
  | view (snapshot : TwinSnapshot)

inductive TwinActionResult where
  | unavailable
  | rejected (snapshot : TwinSnapshot) (code : TwinRejectionCode) (error : String)
  | accepted (snapshot : TwinSnapshot)
  /-- The request throws, and nothing of it is stored. -/
  | failed

/-- What a command comes to, with the room as it leaves it. -/
inductive Verdict where
  | accept (room : TwinRoom)
  | reject (room : TwinRoom) (code : TwinRejectionCode) (error : String)
  | fail

structure JoinInput where
  joinToken : Option Secret
  name : String
  /-- The id of the attempt and the token that the browser has chosen. -/
  attempt : Option (Nat × Secret)

structure ReadInput where
  playerId : Nat
  playerToken : Secret
  /-- What the digest that the client holds is of. -/
  lastDigest : Option TwinSnapshot

structure ActionInput where
  playerId : Nat
  playerToken : Secret
  actionId : Option Nat
  action : TwinAction

/-- The time of the answer stays out of a digest. -/
def TwinSnapshot.digest (view : TwinSnapshot) : TwinSnapshot := { view with serverNow := 0 }

variable (ctx : GameContext) (room : TwinRoom)

variable (playerId : Nat) (removePlayerIds : List Nat)

namespace TwinRoom

def host : Option PlayerState :=
  room.players.find? fun player => room.hostPlayerId == some player.id && !player.withdrawn

def canControl (now : Int) : Bool :=
  room.hostPlayerId == some playerId || room.host.all fun host => decide (hostTakeoverMs < now - host.lastSeenAt)

def summaryOf (now : Int) (player : PlayerState) : TwinPlayerSummary where
  id := player.id
  name := player.name
  cardsLeft := player.hand.length
  chain := player.chain
  longestChain := player.longestChain
  connections := player.connections
  misses := player.misses
  connected := player.connected now
  ready := player.ready
  host := room.hostPlayerId == some player.id
  place := player.place
  withdrawn := player.withdrawn

def heatSnapshot (heat : HeatState) (middle : CardState) : TwinHeatSnapshot where
  id := heat.id
  number := heat.number
  middle := room.dealtCard middle
  playedMiddle := room.dealtCard heat.middle
  revealAt := heat.revealAt
  deadlineAt := heat.deadlineAt
  graceEndsAt := heat.graceEndsAt
  resolvedAt := heat.resolvedAt
  settleAt := heat.settleAt
  nextHeatAt := heat.nextHeatAt
  landedCount := (room.heatProgress heat 0).landed
  results := heat.results
  burned := heat.burned

def ownState (viewer : PlayerState) : TwinPrivateState :=
  let current := viewer.heatId == room.heat.map (·.id)
  { playerId := viewer.id
    ready := viewer.ready
    startRequestId := viewer.startRequestId
    top := viewer.hand.head?.bind room.dealtCard
    rest := (viewer.hand.drop 1).filterMap room.dealtCard
    landedMs := if current then viewer.landedMs else none
    misses := if current then viewer.heatMisses else 0
    cooldownUntil := if current then viewer.cooldownUntil else none
    chain := viewer.chain }

def ending : TwinEndingSnapshot where
  winnerPlayerId := (rankTwinFinish room.playerStats).head?.map (·.playerId)
  headline := twinHeadline room.playerStats
  heatCount := room.heatCount

def snapshot (clock : Int) : TwinSnapshot where
  roomId := room.roomId
  managed := room.managed
  phase := room.phase
  serverNow := clock
  revision := room.revision
  sequence := room.sequence
  expiresAt := room.expiresAt
  gameNumber := room.gameNumber
  hostPlayerId := room.hostPlayerId
  canControl := room.canControl playerId clock
  joinLocked := room.joinLocked
  order := room.order
  handSize := room.handSize
  windowMs := room.windowMs
  graceMs := room.graceMs
  players := room.players.map (room.summaryOf clock)
  heat := room.heat.bind fun heat => room.middle.map (room.heatSnapshot heat)
  player := (room.player playerId).map room.ownState
  ending := if room.phase = .finished then some room.ending else none

end TwinRoom

def newPlayer (id : Nat) (joinId : Option Nat) (name : String) (tokenHash : Secret) (clock : Int) : PlayerState :=
  { id, joinId, name, tokenHash, joinedAt := clock, lastSeenAt := clock }

structure CreateInput where
  hostName : String
  handSize : Option Nat
  windowMs : Option Int
  graceMs : Option Int
  settleHoldMs : Option Int
  managed : Bool
  officialResultChannelId : Option Nat

def createTwinRoom (input : CreateInput) : TwinRoom :=
  let requestedHandSize := input.handSize.getD twinDefaultHand
  let plan := planTwinDeck 1 requestedHandSize
  let host := newPlayer (ctx.randomUUID 0) none input.hostName (.token (ctx.credential 0)) ctx.clock
  { roomId := ctx.newId
    managed := input.managed
    officialResultChannelId := input.officialResultChannelId
    expiresAt := multiplayerLobbyExpiresAt ctx.clock 1
    revision := 1
    sequence := 1
    phase := .lobby
    order := plan.elim ⟨4, by decide⟩ (·.order)
    handSize := plan.elim twinDefaultHand (·.handSize)
    requestedHandSize
    windowMs := input.windowMs.getD defaultWindowMs
    graceMs := input.graceMs.getD defaultGraceMs
    settleHoldMs := input.settleHoldMs.getD settleHoldDefaultMs
    joinHash := .token (ctx.credential 1)
    hostPlayerId := some host.id
    joinLocked := false
    processedActions := []
    players := [host]
    middle := none
    heat := none
    gameNumber := 1
    heatCount := 0
    nextPlace := 1
    dealingUntil := none
    seedCounter := ctx.seed.toNat
    loggedHeats := [] }

namespace TwinRoom

/-- The deck that the table needs now. -/
def planned : Option TwinDeckPlan := planTwinDeck room.activePlayers.length room.requestedHandSize

def fitDeck : TwinRoom :=
  match room.planned with
  | some plan => { room with order := plan.order, handSize := plan.handSize }
  | none => room

/-- One more player can mean a bigger deck, or a shorter hand. -/
def seat (name : String) (token : Secret) (joinId : Option Nat) : TwinRoom :=
  let player := newPlayer (ctx.randomUUID room.revision) joinId name token ctx.clock
  changed ctx { room with players := room.players ++ [player] }.fitDeck

def joined (id : Nat) (token : Secret) : TwinPlayerCredentials where
  expiresAt := room.expiresAt
  playerId := id
  playerToken := token
  snapshot := room.snapshot id ctx.clock

def join (ctx : GameContext) (room : TwinRoom) (input : JoinInput) :
    Except (TwinJoinErrorCode × String) TwinPlayerCredentials × TwinRoom :=
  let existing := input.attempt.bind fun (joinId, _) => room.players.find? (·.joinId == some joinId)
  let token := input.attempt.elim (Secret.token (ctx.credential room.revision)) (·.2)
  let name := ctx.trim input.name
  if (room.managed && input.joinToken.isNone) || input.joinToken.any (· != room.joinHash) then
    (.error (.inviteExpired, "This invite is no longer valid"), room)
  else
    match existing with
    | some player =>
      if player.tokenHash = token then (.ok (room.joined ctx player.id token), room)
      else (.error (.inviteExpired, "This join attempt is no longer valid"), room)
    | none =>
      if room.phase ≠ .lobby then (.error (.gameStarted, "This game has started"), room)
      else if room.joinLocked then (.error (.roomLocked, "This room is locked"), room)
      else if twinMaxPlayers ≤ room.activePlayers.length then (.error (.roomFull, "This room is full"), room)
      else if name.length < 1 then (.error (.invalidName, "Add your name"), room)
      else if room.activePlayers.any fun player => ctx.toLowerCase player.name == ctx.toLowerCase name then
        (.error (.nameTaken, "That name is already playing"), room)
      else
        let seated := room.seat ctx name token (input.attempt.map (·.1))
        (.ok (seated.joined ctx (ctx.randomUUID room.revision) token), seated)

def joinTwinRoom (input : JoinInput) :
    Except (TwinJoinErrorCode × String) TwinPlayerCredentials × TwinRoom :=
  (room.advance ctx ctx.clock).join ctx input

def authenticatedPlayer (playerToken : Secret) : Option PlayerState :=
  (room.player playerId).filter (·.tokenHash == playerToken)

def validPlayer (playerToken : Secret) : Option PlayerState :=
  (room.authenticatedPlayer playerId playerToken).filter (!·.withdrawn)

def readTwinSnapshot (input : ReadInput) : TwinSnapshotResult × TwinRoom :=
  match room.validPlayer input.playerId input.playerToken with
  | none => (.unavailable, room)
  | some player =>
    let touched := room.updatePlayer player.id fun row =>
      { row with lastSeenAt := touchMultiplayerPresence row.lastSeenAt ctx.clock false }
    let read := touched.advance ctx ctx.clock
    let view := read.snapshot player.id ctx.clock
    (if input.lastDigest = some view.digest then .unchanged ctx.clock else .view view, read)

/-- `rememberMultiplayerAction`. -/
def rememberAction (actionId : Nat) : TwinRoom :=
  { room with processedActions := rememberMultiplayerAction room.processedActions actionId }

/-- `player.leave`: nobody leaves the roster, and the last one to go closes the room. -/
def leave : TwinRoom :=
  let gone := (room.transferHost playerId ctx.now).updatePlayer playerId fun row => { row with withdrawn := true }
  changed ctx (if gone.activePlayers.isEmpty then { gone with phase := .closed } else gone)

def attend : TwinRoom :=
  (room.updatePlayer playerId fun row => { row with lastSeenAt := ctx.now }).advance ctx ctx.now

def tapRefusal (player : PlayerState) (heatId : Nat) : Option (TwinRejectionCode × String) :=
  match room.liveHeat.filter (·.id == heatId) with
  | none => some (.heatEnded, "That heat has ended")
  | some heat =>
    -- a tap that was made in time still counts until the payout
    if heat.settleAt.any (· ≤ ctx.now) then some (.heatEnded, "That heat has ended")
    else if ctx.now < heat.revealAt then some (.heatEnded, "That heat has not started")
    else if player.heatId ≠ some heat.id then some (.heatEnded, "That heat has ended")
    else if player.landedMs.isSome then some (.alreadyLanded, "You already found it")
    else if player.cooldownUntil.any (ctx.now < ·) then some (.coolingDown, "Still cooling down")
    else if player.hand.isEmpty then some (.actionUnavailable, "Your hand is empty")
    else if room.expectedSymbol player = none then some (.actionUnavailable, "There is nothing to match")
    else none

def hostRefusal : TwinAction → Option (TwinRejectionCode × String)
  | .admissionSet _ => if room.phase ≠ .lobby then some (.actionUnavailable, "The room only locks in the lobby") else none
  | .passHost targetId =>
    if room.activePlayers.any (·.id == targetId) then none else some (.actionUnavailable, "That player is not available")
  | .configure .. =>
    if room.managed then some (.actionUnavailable, "The game-night settings are fixed")
    else if room.phase ≠ .lobby then some (.actionUnavailable, "Settings only change in the lobby")
    else none
  | .timing _ => if room.managed then some (.actionUnavailable, "The game-night settings are fixed") else none
  | .start _ => if room.phase = .lobby then none else some (.actionUnavailable, "That action is not available")
  | .nextHeat =>
    if room.phase = .settle ∧ room.heat.isSome then none else some (.actionUnavailable, "That action is not available")
  | .replay | .lobby => if room.phase = .finished then none else some (.actionUnavailable, "That action is not available")
  | .readiness _ | .rename _ | .tap .. | .leave => none

def refusal (player : PlayerState) (action : TwinAction) : Option (TwinRejectionCode × String) :=
  match action with
  | .rename name =>
    if room.phase ≠ .lobby then some (.actionUnavailable, "Names only change in the lobby")
    else if room.activePlayers.any fun other => other.id != player.id &&
        ctx.toLocaleLowerCase other.name == ctx.toLocaleLowerCase name then
      some (.actionUnavailable, "That name is already here")
    else none
  | .readiness _ => if room.phase ≠ .lobby then some (.actionUnavailable, "Readiness can only change in the lobby") else none
  | .tap heatId .. => room.tapRefusal ctx player heatId
  | .leave => none
  | action => if room.canControl player.id ctx.now then room.hostRefusal action else some (.notHost, "The host controls the game")

/-- A wrong tap is counted, and the next one has to wait. -/
def miss : TwinRoom :=
  changed ctx (room.updatePlayer playerId fun row =>
    { row with
      heatMisses := row.heatMisses + 1, misses := row.misses + 1
      cooldownUntil := some (ctx.now + twinCooldownMs (row.heatMisses + 1)) })

/-- The right tap; the first one of a heat starts everyone else's clock. -/
def land (claimedMs : Int) : TwinRoom :=
  match room.heat with
  | none => room
  | some heat =>
    let landed := room.updatePlayer playerId fun row =>
      { row with landedMs := some (recordTwinElapsed claimedMs (ctx.now - heat.revealAt) room.windowMs) }
    changed ctx { landed with
      heat := some { heat with
        graceEndsAt := heat.graceEndsAt.or (some (twinGraceEnd ctx.now heat.deadlineAt room.graceMs)) } }

def configure (handSize : Option Nat) (windowMs graceMs : Option Int) : Verdict :=
  let asked : TwinRoom := { room with
    requestedHandSize := handSize.getD room.requestedHandSize
    windowMs := windowMs.getD room.windowMs, graceMs := graceMs.getD room.graceMs }
  match asked.planned with
  | none => .reject asked .deckTooSmall "That is too many cards for this many players"
  | some plan => .accept (changed ctx { asked with order := plan.order, handSize := plan.handSize })

/-- Unready, and not asked before and now removed. -/
def isUnconfirmed (row : PlayerState) : Bool :=
  !row.withdrawn && !row.ready && (row.id == playerId || !removePlayerIds.contains row.id || row.startRequestId.isNone)

/-- `requestMultiplayerReadiness`, by the id of the command. -/
def requestReadiness (asks : PlayerState → Bool) : TwinRoom :=
  if room.players.any fun row => asks row && row.isNudged ctx.clock then
    changed ctx { room with
      players := update room.players (fun row => asks row && row.isNudged ctx.clock) fun row =>
        { row with toReadiness := row.toReadiness.request ctx.newId ctx.clock } }
  else room

def keepsSeat (row : PlayerState) : Bool :=
  row.ready || row.id == playerId || !removePlayerIds.contains row.id

def removeUnready : TwinRoom :=
  if removePlayerIds.isEmpty then room
  else changed ctx { room with players := room.players.filter (keepsSeat playerId removePlayerIds) }

def start : Verdict :=
  let asks := isUnconfirmed playerId removePlayerIds
  if room.players.any asks then
    .reject (room.requestReadiness ctx asks) .playersNotReady
      (if room.players.any fun row => asks row && row.id == playerId then "Set yourself ready before starting"
        else "Some players are not ready")
  else
    let seated := room.removeUnready ctx playerId removePlayerIds
    match seated.planned with
    | none => .reject seated .deckTooSmall "There are too many players for the deck"
    | some plan =>
      match { seated with loggedHeats := [] }.applyDeal ctx plan ctx.now with
      | none => .fail
      | some dealt => .accept dealt

/-- The end of `resetForRematch`: the active players start from nothing. -/
def startOver : TwinRoom :=
  { room with
    gameNumber := room.gameNumber + 1, heatCount := 0, nextPlace := 1
    players := onActive (fun row => { row with toThisGame := {} }) room.players }

/-- `game.replay`. -/
def replay : Verdict :=
  let cleared : TwinRoom := { room with loggedHeats := [] }
  match cleared.planned with
  | none => .reject cleared .deckTooSmall "There are too many players for the deck"
  | some plan =>
    match cleared.applyDeal ctx plan ctx.now with
    | none => .fail
    | some dealt => .accept dealt.startOver

/-- `game.lobby`: everyone starts from nothing, and readies up again. -/
def toLobby : TwinRoom :=
  changed ctx { room with
    players := room.players.map fun row =>
      { row.setReady (room.hostPlayerId == some row.id) with hand := [], toThisGame := {} }
    phase := .lobby, heat := none, middle := none, heatCount := 0, nextPlace := 1, gameNumber := room.gameNumber + 1
    loggedHeats := [] }

/-- `heat.next`: the next heat is due at once. -/
def hurry : TwinRoom :=
  let due : TwinRoom := { room with heat := room.heat.map fun heat => { heat with nextHeatAt := some ctx.now } }
  due.advance ctx ctx.now

def carryOut (player : PlayerState) : TwinAction → Verdict
  | .rename name => .accept (changed ctx (room.updatePlayer player.id fun row => { row.setReady false with name }))
  | .readiness ready =>
    .accept (if player.ready = ready then room else changed ctx (room.updatePlayer player.id (·.setReady ready)))
  | .tap _ symbolId elapsedMs =>
    if room.expectedSymbol player = some symbolId then .accept ((room.land ctx player.id elapsedMs).advance ctx ctx.now)
    else .reject (room.miss ctx player.id) .wrongSymbol "Not that one"
  | .admissionSet locked => .accept (if room.joinLocked = locked then room else changed ctx { room with joinLocked := locked })
  | .passHost targetId => .accept (changed ctx { room with hostPlayerId := some targetId })
  | .configure handSize windowMs graceMs => room.configure ctx handSize windowMs graceMs
  | .timing settleHoldMs => .accept (changed ctx { room with settleHoldMs })
  | .start removePlayerIds => room.start ctx player.id removePlayerIds
  | .nextHeat => .accept (room.hurry ctx)
  | .replay => room.replay ctx
  | .lobby => .accept (room.toLobby ctx)
  | .leave => .accept (room.leave ctx player.id)

def command (player : PlayerState) (action : TwinAction) : Verdict :=
  match room.refusal ctx player action with
  | some (code, error) => .reject room code error
  | none => room.carryOut ctx player action

def conclude (playerId actionId : Nat) : Verdict → TwinActionResult × TwinRoom
  | .accept after =>
    let stored := after.rememberAction actionId
    (.accepted (stored.snapshot playerId ctx.clock), stored)
  | .reject after code error => (.rejected (after.snapshot playerId ctx.clock) code error, after)
  | .fail => (.failed, room)

def applyTwinAction (input : ActionInput) : TwinActionResult × TwinRoom :=
  let actionId := input.actionId.getD ctx.newId
  match room.authenticatedPlayer input.playerId input.playerToken with
  | none => (.unavailable, room)
  | some player =>
    if room.processedActions.contains actionId then room.conclude ctx player.id actionId (.accept room)
    else if player.withdrawn then
      if input.action = .leave then room.conclude ctx player.id actionId (.accept room) else (.unavailable, room)
    else if input.action = .leave then room.conclude ctx player.id actionId (.accept (room.leave ctx player.id))
    else
      let attended := room.attend ctx player.id
      match attended.player player.id with
      | none => (.unavailable, room)
      | some player => room.conclude ctx player.id actionId (attended.command ctx player input.action)

end TwinRoom

/-- Everything that is done to a room once it is created. -/
inductive Command where
  | join (ctx : GameContext) (input : JoinInput)
  | read (ctx : GameContext) (input : ReadInput)
  | act (ctx : GameContext) (input : ActionInput)

def Command.apply : Command → TwinRoom → TwinRoom
  | .join ctx input, room => (room.joinTwinRoom ctx input).2
  | .read ctx input, room => (room.readTwinSnapshot ctx input).2
  | .act ctx input, room => (room.applyTwinAction ctx input).2

/-- A time, and a runtime that draws the revision. -/
def GameContext.plain (now : Int) : GameContext where
  now := now
  clock := now
  newId := 0
  seed := 0
  randomUUID := id
  credential revision := 100 + revision
  toLowerCase := id
  toLocaleLowerCase := id
  trim := id

def Command.by (now : Int) (actionId : Nat) (action : TwinAction) : Command :=
  .act (.plain now) { playerId, playerToken := .token (100 + playerId), actionId := some actionId, action }

def Command.readBy (now : Int) : Command :=
  .read (.plain now) { playerId, playerToken := .token (100 + playerId), lastDigest := none }

def Command.joinAs (name : String) (now : Int) : Command := .join (.plain now) { joinToken := none, name, attempt := none }

def annsTable : CreateInput where
  hostName := "Ann"
  handSize := some 3
  windowMs := none
  graceMs := none
  settleHoldMs := none
  managed := false
  officialResultChannelId := some 7

end MilkAndHenny.Twin

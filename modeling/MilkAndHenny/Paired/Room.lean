import MilkAndHenny.Multiplayer.Rooms
import MilkAndHenny.Multiplayer.Results

/-! A room of a paired game in Postgres: a player shows their phone to a judge, who answers with
commands. Every request is one transaction over the room and the outbox of its results. -/

namespace MilkAndHenny.Paired
open Library Multiplayer

def judgeLeaseMs : Int := 30000
def commandMaxAgeMs : Int := 12000
def pairedGamePresenceMs : Int := 30000
def remoteRoomRenewalWindowMs : Int := 300000

inductive RemoteGameKind where
  | headsUp | spellingBee
deriving DecidableEq

def RemoteGameKind.official : RemoteGameKind → OfficialGameKind
  | .headsUp => .headsUp
  | .spellingBee => .spellingBee

inductive PairedGameRoomRole where
  | player | judge
deriving DecidableEq

inductive RemotePhase where
  | setup | countdown | playing | results
deriving DecidableEq

/-- What the player shows; `results` are the ids of the answers. -/
structure RemoteSyncedSnapshot where
  game : RemoteGameKind
  phase : RemotePhase
  score : Nat
  results : List Nat := []
  roundId : Option Nat
  itemId : Option Nat := none
  revision : Nat
  connectionEpoch : Nat
  decisionClosesAt : Option Int := none
  decisionGraceEndsAt : Option Int := none
  transitioning : Bool := false
  updatedAt : Int := 0
deriving DecidableEq

inductive RemoteCommandType where
  | correct | incorrect | pass | skip | pause | resume | undo | playAgain
  | amend (resultId : Nat)
deriving DecidableEq

structure RemoteCommandRequest where
  id : Nat
  type : RemoteCommandType
  createdAt : Int
  roundId : Nat
  itemId : Nat
deriving DecidableEq

structure RemoteCommand extends RemoteCommandRequest where
  sequence : Nat
  receivedAt : Int
deriving DecidableEq

structure CommandSequence where
  id : Nat
  sequence : Nat
  createdAt : Int
deriving DecidableEq

structure RoomMeta where
  game : RemoteGameKind
  creatorRole : PairedGameRoomRole
  playerHash : Secret
  judgeHash : Secret
  expiresAt : Int
  officialResultChannelId : Option Nat
deriving DecidableEq

structure PostgresPairedRoomState where
  roomId : Nat
  expiresAt : Int
  roomMeta : RoomMeta
  snapshot : Option RemoteSyncedSnapshot := none
  commands : List RemoteCommand := []
  commandSequences : List CommandSequence := []
  decidedItems : List Nat := []
  nextSequence : Nat := 1
  activePlayerEpoch : Option Nat := none
  activeJudgeEpoch : Option Nat := none
  playerSeenAt : Int
  judgeSeenAt : Int
  commandRateWindowAt : Int := 0
  commandRateCount : Nat := 0
deriving DecidableEq

inductive ErrorCode where
  | inviteExpired | roomUnavailable | gameMismatch | playerConflict
  | staleRound | staleItem | decisionClosed | alreadyDecided | roundNotComplete
  | commandExpired | inactiveJudge | staleResult | transitioning | rateLimited

structure Failure where
  errorCode : ErrorCode
  error : String

inductive Reply where
  | failure (failure : Failure)
  | setup (judgeConnected : Bool) (expiresAt : Int)
  | synced (commands : List RemoteCommand) (judgeConnected : Bool)
  | judged (snapshot : Option RemoteSyncedSnapshot) (playerConnected judgeActive : Bool) (expiresAt : Int)
  | sequence (sequence : Nat)
  | credential (judgeToken : Nat)
  | closed (ok closed : Bool)

/-- When a request came, what its transaction reads from the clock, and the credential it may draw. -/
structure RequestContext where
  now : Int
  clock : Int
  newToken : Nat

namespace RemoteSyncedSnapshot

/-- `roundId ?? connectionEpoch`. -/
def resultId (snapshot : RemoteSyncedSnapshot) : Nat := snapshot.roundId.getD snapshot.connectionEpoch

def pairedGameOfficialResult (roomId channelId : Nat) (snapshot : RemoteSyncedSnapshot) (clock : Int) : Option OfficialGameResultEnvelope :=
  if snapshot.phase ≠ .results then none
  else some (sealOfficialGameResult channelId snapshot.revision
    { gameKind := snapshot.game.official, gameInstanceId := roomId, resultId := snapshot.resultId, scope := .round
      players := [{ playerId := roomId, outcome := .completed, rawScore := some snapshot.score, won := some true }] } clock)

/-- The four fields that tell a result from the one before it. -/
def sameResult (snapshot previous : RemoteSyncedSnapshot) : Bool :=
  previous.connectionEpoch == snapshot.connectionEpoch && previous.revision == snapshot.revision &&
    previous.roundId == snapshot.roundId && previous.score == snapshot.score

end RemoteSyncedSnapshot

namespace RemoteCommandType

/-- `isRemoteDecisionCommand`. -/
def isRemoteDecisionCommand : RemoteCommandType → Bool
  | .correct | .incorrect | .pass | .skip => true
  | _ => false

def isAmend : RemoteCommandType → Bool
  | .amend _ => true
  | _ => false

def targetsKnownResult (snapshot : RemoteSyncedSnapshot) : RemoteCommandType → Bool
  | .amend resultId => snapshot.results.contains resultId
  | _ => true

end RemoteCommandType

def judgeCommandPolicy (snapshot : Option RemoteSyncedSnapshot) (command : RemoteCommandRequest) (receivedAt : Int) : Option Failure :=
  match snapshot.filter (·.roundId == some command.roundId) with
  | none => some ⟨.staleRound, "Round changed"⟩
  | some snapshot =>
    if command.type = .playAgain then
      if snapshot.phase = .results then none else some ⟨.roundNotComplete, "Round is not complete"⟩
    else if !command.type.isAmend && snapshot.itemId ≠ some command.itemId then some ⟨.staleItem, "Card changed"⟩
    else if !command.type.targetsKnownResult snapshot then some ⟨.staleResult, "Result changed"⟩
    else if !command.type.isRemoteDecisionCommand then none
    else if (snapshot.decisionGraceEndsAt.or snapshot.decisionClosesAt).any fun deadline => deadline != 0 && decide (deadline < receivedAt) then
      some ⟨.decisionClosed, "Decision window closed"⟩
    else if snapshot.transitioning then some ⟨.transitioning, "Card is changing"⟩
    else none

namespace PostgresPairedRoomState

def applyPostgresRoomExpiry (room : PostgresPairedRoomState) (clock : Int) : PostgresPairedRoomState :=
  if room.expiresAt - clock > remoteRoomRenewalWindowMs then room
  else { room with expiresAt := clock + presenceLeaseMs, roomMeta := { room.roomMeta with expiresAt := clock + presenceLeaseMs } }

def renewed (room before : PostgresPairedRoomState) (clock : Int) : PostgresPairedRoomState :=
  if room = before then room else room.applyPostgresRoomExpiry clock

def readPostgresPlayerSetup (ctx : RequestContext) (playerToken : Nat) (room : PostgresPairedRoomState) : PostgresPairedRoomState × Reply :=
  if room.roomMeta.playerHash ≠ .token playerToken then (room, .failure ⟨.inviteExpired, "Invite expired"⟩)
  else
    let seen := { room with playerSeenAt := ctx.now }.applyPostgresRoomExpiry ctx.clock
    (seen, .setup (decide (ctx.now - room.judgeSeenAt ≤ pairedGamePresenceMs)) seen.expiresAt)

structure SyncInput where
  playerToken : Nat
  snapshot : RemoteSyncedSnapshot
  lastCommandSequence : Nat

def syncRefusal (ctx : RequestContext) (input : SyncInput) (room : PostgresPairedRoomState) : Option Failure :=
  if room.roomMeta.playerHash ≠ .token input.playerToken then some ⟨.roomUnavailable, "Room unavailable"⟩
  else if room.roomMeta.game ≠ input.snapshot.game then some ⟨.gameMismatch, "Game mismatch"⟩
  else if room.activePlayerEpoch.any (· != input.snapshot.connectionEpoch) && decide (ctx.now - room.playerSeenAt ≤ pairedGamePresenceMs) then
    some ⟨.playerConflict, "Game is active on another phone"⟩
  else none

def shouldStoreSnapshot (room : PostgresPairedRoomState) (incoming : RemoteSyncedSnapshot) : Bool :=
  room.snapshot.all fun previous => previous.connectionEpoch != incoming.connectionEpoch || decide (previous.revision ≤ incoming.revision)

def applyPairedGameCommand (now : Int) (input : SyncInput) (room : PostgresPairedRoomState) : PostgresPairedRoomState where
  __ := room
  commands := room.commands.filter fun queued =>
    decide (input.lastCommandSequence < queued.sequence) && decide (now - queued.createdAt ≤ commandMaxAgeMs)
  snapshot := if room.shouldStoreSnapshot input.snapshot then some { input.snapshot with updatedAt := now } else room.snapshot
  playerSeenAt := now

def syncPostgresPlayer (ctx : RequestContext) (input : SyncInput) (room : PostgresPairedRoomState) : PostgresPairedRoomState × Reply :=
  match room.syncRefusal ctx input with
  | some failure => (room, .failure failure)
  | none =>
    let synced := { room with activePlayerEpoch := some input.snapshot.connectionEpoch }.applyPairedGameCommand ctx.now input
    (synced, .synced synced.commands (decide (ctx.now - room.judgeSeenAt ≤ pairedGamePresenceMs)))

def readPostgresJudge (ctx : RequestContext) (judgeToken judgeEpoch : Nat) (takeover : Bool) (room : PostgresPairedRoomState) :
    PostgresPairedRoomState × Reply :=
  if room.roomMeta.judgeHash ≠ .token judgeToken then (room, .failure ⟨.inviteExpired, "Invite expired"⟩)
  else
    let judgeActive := takeover || decide (ctx.now - room.judgeSeenAt > judgeLeaseMs) || room.activeJudgeEpoch.all (· == judgeEpoch)
    let seen := if judgeActive then { room with activeJudgeEpoch := some judgeEpoch, judgeSeenAt := ctx.now }.applyPostgresRoomExpiry ctx.clock
      else room
    (seen, .judged room.snapshot (decide (ctx.now - room.playerSeenAt ≤ pairedGamePresenceMs)) judgeActive seen.expiresAt)

/-- Commands too old to be retried are forgotten. -/
def pruneSequences (room : PostgresPairedRoomState) (receivedAt : Int) : PostgresPairedRoomState :=
  { room with commandSequences := room.commandSequences.filter fun known => decide (receivedAt - known.createdAt ≤ commandMaxAgeMs) }

/-- One more in the current minute. -/
def countCommand (room : PostgresPairedRoomState) (receivedAt : Int) : PostgresPairedRoomState :=
  if receivedAt - room.commandRateWindowAt ≥ 60000 then { room with commandRateWindowAt := receivedAt, commandRateCount := 1 }
  else { room with commandRateCount := room.commandRateCount + 1 }

def queueCommand (room : PostgresPairedRoomState) (command : RemoteCommandRequest) (receivedAt : Int) : PostgresPairedRoomState where
  __ := room
  nextSequence := room.nextSequence + 1
  commandSequences := room.commandSequences ++ [{ id := command.id, sequence := room.nextSequence, createdAt := command.createdAt }]
  decidedItems := if command.type.isRemoteDecisionCommand then room.decidedItems ++ [command.itemId] else room.decidedItems
  commands := takeLast 50 (room.commands ++ [{ command with sequence := room.nextSequence, receivedAt }])

def sendPostgresJudgeCommand (ctx : RequestContext) (judgeToken judgeEpoch : Nat) (command : RemoteCommandRequest)
    (room : PostgresPairedRoomState) : PostgresPairedRoomState × Reply :=
  if room.roomMeta.judgeHash ≠ .token judgeToken then (room, .failure ⟨.inviteExpired, "Invite expired"⟩)
  else if room.activeJudgeEpoch ≠ some judgeEpoch ∨ ctx.now - room.judgeSeenAt > judgeLeaseMs then
    (room, .failure ⟨.inactiveJudge, "Controls are active on another screen"⟩)
  else
    let pruned := room.pruneSequences ctx.now
    match pruned.commandSequences.find? (·.id == command.id) with
    | some existing => (pruned, .sequence existing.sequence)
    | none =>
      let counted := pruned.countCommand ctx.now
      if counted.commandRateCount > 120 then (counted, .failure ⟨.rateLimited, "Too many controls"⟩)
      else
        match judgeCommandPolicy counted.snapshot command ctx.now with
        | some rejection => (counted, .failure rejection)
        | none =>
          if command.type.isRemoteDecisionCommand && counted.decidedItems.contains command.itemId then
            (counted, .failure ⟨.alreadyDecided, "Word already decided"⟩)
          else (counted.queueCommand command ctx.now, .sequence counted.nextSequence)

def dropJudge (room : PostgresPairedRoomState) (newToken : Nat) : PostgresPairedRoomState :=
  { room with roomMeta := { room.roomMeta with judgeHash := .token newToken }, activeJudgeEpoch := none, judgeSeenAt := 0 }

def disconnectPostgresJudge (ctx : RequestContext) (playerToken : Nat) (room : PostgresPairedRoomState) : PostgresPairedRoomState × Reply :=
  if room.roomMeta.creatorRole ≠ .player ∨ room.roomMeta.playerHash ≠ .token playerToken then (room, .closed false false)
  else (room.dropJudge ctx.newToken, .credential ctx.newToken)

def leavePostgresJudge (ctx : RequestContext) (token : Nat) (room : PostgresPairedRoomState) : PostgresPairedRoomState × Reply :=
  if room.roomMeta.judgeHash ≠ .token token then (room, .closed false false)
  else (room.dropJudge ctx.newToken, .closed true false)

/-- What a transition adds to the outbox. -/
def officialResults (clock : Int) (before after : PostgresPairedRoomState) : Option OfficialGameResultEnvelope :=
  after.roomMeta.officialResultChannelId.bind fun channelId =>
    (after.snapshot.filter fun next => next.phase == .results && !before.snapshot.any next.sameResult).bind
      (RemoteSyncedSnapshot.pairedGameOfficialResult after.roomId channelId · clock)

end PostgresPairedRoomState

structure Store where
  room : Option PostgresPairedRoomState
  outbox : List OfficialGameResultEnvelope

namespace Store

/-- The row that a transaction finds. -/
def found (store : Store) (clock : Int) : Option PostgresPairedRoomState := store.room.filter (clock < ·.expiresAt)

/-- One synchronous reducer, and one committed state of the room and of the outbox. -/
def withPostgresPairedRoom (store : Store) (clock : Int) (use : PostgresPairedRoomState → PostgresPairedRoomState × Reply) :
    Except TransitionError (Store × Option Reply) :=
  match store.found clock with
  | none => .ok (store, none)
  | some before =>
    let (used, reply) := use before
    let room := used.renewed before clock
    if room.expiresAt ≤ clock then .error .persistsExpiry
    else
      match PostgresPairedRoomState.officialResults clock before room with
      | none => .ok ({ store with room := some room }, some reply)
      | some envelope => (insertResult store.outbox envelope).map fun outbox => ({ room := some room, outbox }, some reply)

/-- `deletePostgresRoom`. -/
def deletePostgresRoom (store : Store) (clock : Int) (authorized : PostgresPairedRoomState → Bool) : Store × Reply :=
  match store.found clock with
  | none => (store, .closed true true)
  | some room => if authorized room then ({ store with room := none }, .closed true true) else (store, .closed false false)

end Store

open PostgresPairedRoomState in
inductive Request where
  | readSetup (ctx : RequestContext) (playerToken : Nat)
  | sync (ctx : RequestContext) (input : SyncInput)
  | readJudge (ctx : RequestContext) (judgeToken judgeEpoch : Nat) (takeover : Bool)
  | sendCommand (ctx : RequestContext) (judgeToken judgeEpoch : Nat) (command : RemoteCommandRequest)
  | disconnectJudge (ctx : RequestContext) (playerToken : Nat)
  | close (ctx : RequestContext) (role : PairedGameRoomRole) (token : Nat)

def Request.ctx : Request → RequestContext
  | .readSetup ctx _ | .sync ctx _ | .readJudge ctx .. | .sendCommand ctx .. | .disconnectJudge ctx _ | .close ctx .. => ctx

def answered (otherwise : Reply) (transition : Except TransitionError (Store × Option Reply)) : Except TransitionError (Store × Reply) :=
  transition.map fun (store, reply) => (store, reply.getD otherwise)

def Request.run (request : Request) (store : Store) : Except TransitionError (Store × Reply) :=
  match request with
  | .readSetup ctx playerToken =>
    answered (.failure ⟨.roomUnavailable, "Room unavailable"⟩) (store.withPostgresPairedRoom ctx.clock (·.readPostgresPlayerSetup ctx playerToken))
  | .sync ctx input =>
    answered (.failure ⟨.roomUnavailable, "Room unavailable"⟩) (store.withPostgresPairedRoom ctx.clock (·.syncPostgresPlayer ctx input))
  | .readJudge ctx judgeToken judgeEpoch takeover =>
    answered (.failure ⟨.roomUnavailable, "Room unavailable"⟩)
      (store.withPostgresPairedRoom ctx.clock (·.readPostgresJudge ctx judgeToken judgeEpoch takeover))
  | .sendCommand ctx judgeToken judgeEpoch command =>
    if ctx.now - command.createdAt > commandMaxAgeMs ∨ ctx.now - command.createdAt < -5000 then
      .ok (store, .failure ⟨.commandExpired, "Command expired"⟩)
    else answered (.failure ⟨.roomUnavailable, "Room unavailable"⟩)
      (store.withPostgresPairedRoom ctx.clock (·.sendPostgresJudgeCommand ctx judgeToken judgeEpoch command))
  | .disconnectJudge ctx playerToken =>
    answered (.closed false false) (store.withPostgresPairedRoom ctx.clock (·.disconnectPostgresJudge ctx playerToken))
  | .close ctx role token =>
    match store.found ctx.clock with
    | none => .ok (store, .closed true true)
    | some room =>
      if role = .judge ∧ room.roomMeta.creatorRole = .player then
        answered (.closed true true) (store.withPostgresPairedRoom ctx.clock (·.leavePostgresJudge ctx token))
      else .ok (store.deletePostgresRoom ctx.clock fun room =>
        decide ((match role with | .player => room.roomMeta.playerHash | .judge => room.roomMeta.judgeHash) = .token token))

structure CreateInput where
  roomId : Nat
  creatorRole : PairedGameRoomRole
  game : RemoteGameKind
  playerToken : Nat
  judgeToken : Nat
  officialResultChannelId : Option Nat

def createPairedGameRoom (input : CreateInput) (now : Int) : PostgresPairedRoomState where
  roomId := input.roomId
  expiresAt := multiplayerLobbyExpiresAt now 1
  roomMeta :=
    { game := input.game, creatorRole := input.creatorRole
      playerHash := .token input.playerToken, judgeHash := .token input.judgeToken
      expiresAt := multiplayerLobbyExpiresAt now 1, officialResultChannelId := input.officialResultChannelId }
  playerSeenAt := if input.creatorRole = .player then now else 0
  judgeSeenAt := if input.creatorRole = .judge then now else 0

end MilkAndHenny.Paired

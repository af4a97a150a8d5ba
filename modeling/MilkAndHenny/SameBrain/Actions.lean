import MilkAndHenny.SameBrain.Room

/-! The view of a room that one viewer receives, and the commands: joining, reading, and
what the host and the players may do. Each command is one locked transaction on the stored
room, and so is the pump that runs the clock before a read or an action. -/

namespace MilkAndHenny.SameBrain
open Library Multiplayer

structure SameBrainPlayerSummary where
  id : Nat
  name : String
  connected : Bool
  ready : Bool
  host : Bool
  left : Bool
  score : Int
  out : Bool
  aloneCount : Int
  /-- Whether they have answered, never what. -/
  answered : Bool
deriving DecidableEq

structure OwnState where
  id : Nat
  answer : Option String
  out : Bool
  startRequestId : Option Nat
deriving DecidableEq

structure SameBrainSnapshot where
  roomId : Nat
  managed : Bool
  phase : SameBrainPhase
  revision : Nat
  sequence : Nat
  serverNow : Int
  expiresAt : Int
  round : Nat
  rounds : Rounds
  toggles : SameBrainToggles
  timings : SameBrainTimings
  phaseStartedAt : Int
  phaseEndsAt : Int
  paused : Bool
  players : List SameBrainPlayerSummary
  hostPlayerId : Option Nat
  hostDisconnected : Bool
  joinLocked : Bool
  you : Option OwnState
  question : Option String
  result : Option SameBrainRoundResult
  history : List SameBrainRoundResult
  winnerIds : List Nat
deriving DecidableEq

inductive SameBrainRejectionCode where
  | roomUnavailable | phaseEnded | invalidAnswer | actionUnavailable | outOfGame | notEnoughPlayers | playersNotReady

/-- `Partial<SameBrainToggles>`. -/
structure TogglesPatch where
  sayItAloud : Option Bool := none
  eliminateOddOne : Option Bool := none
  revealAuthors : Option Bool := none

def SameBrainToggles.patch (toggles : SameBrainToggles) (change : TogglesPatch) : SameBrainToggles where
  sayItAloud := change.sayItAloud.getD toggles.sayItAloud
  eliminateOddOne := change.eliminateOddOne.getD toggles.eliminateOddOne
  revealAuthors := change.revealAuthors.getD toggles.revealAuthors

inductive SameBrainHostAction where
  | admissionSet (locked : Bool)
  | configure (rounds : Option Nat) (toggles : Option TogglesPatch) (timings : Option TimingsPatch)
  | start (removePlayerIds : List Nat)
  | skipQuestion
  | extend
  | pause
  | resume
  | advance
  | merge (round source target : Nat)
  | reset (round : Nat)
  | passHost (playerId : Nat)
  | remove (playerId : Nat)
  | replay
  | lobby
  | endGame

inductive SameBrainPlayerAction where
  | leave
  | rename (name : String)
  | readiness (ready : Bool)
  | submit (round : Nat) (text : String)
  | clear (round : Nat)
  | claimHost

/-- A refusal, with the room as the command leaves it. -/
structure Rejected where
  room : SameBrainRoom
  code : SameBrainRejectionCode
  error : String

inductive SameBrainActionResult where
  | unavailable
  | rejected (snapshot : SameBrainSnapshot) (code : SameBrainRejectionCode) (error : String)
  | accepted (snapshot : SameBrainSnapshot)

/-- `text.slice(0, length).trim()`. -/
def clip (length : Nat) (text : String) : String :=
  String.ofList ((((text.toList.take length).dropWhile isSpace).reverse.dropWhile isSpace).reverse)

def PlayerState.cleared (player : PlayerState) : PlayerState :=
  { player with score := 0, out := false, aloneCount := 0, answer := none }

namespace SameBrainRoom

variable (ctx : GameContext) (room : SameBrainRoom)

def summaryOf (now : Int) (player : PlayerState) : SameBrainPlayerSummary where
  id := player.id
  name := player.name
  connected := player.connected now
  ready := player.ready
  host := room.hostPlayerId == some player.id
  left := player.leftAt.isSome
  score := player.score
  out := player.out
  aloneCount := player.aloneCount
  answered := player.answer.isSome

def snapshot (viewerId : Option Nat) (now : Int) : SameBrainSnapshot where
  roomId := room.roomId
  managed := room.managed
  phase := room.phase
  revision := room.revision
  sequence := room.sequence
  serverNow := now
  expiresAt := room.expiresAt
  round := room.round
  rounds := room.rounds
  toggles := room.toggles
  timings := room.timings
  phaseStartedAt := room.phaseStartedAt
  phaseEndsAt := room.phaseEndsAt
  paused := room.pausedAt.isSome
  players := room.players.map (room.summaryOf now)
  hostPlayerId := room.hostPlayerId
  hostDisconnected := (room.hostPlayerId.bind room.player).any (!·.connected now)
  joinLocked := room.joinLocked
  you := (viewerId.bind room.player).map fun viewer =>
    { id := viewer.id, answer := viewer.answer, out := viewer.out, startRequestId := viewer.startRequestId }
  question := if room.phase = .lobby then none else room.question
  result := if room.phase = .reveal ∨ room.phase = .ending then room.result else none
  history := if room.phase = .ending then room.history else []
  winnerIds := room.winnerIds

def createSameBrainRoom (rounds : Option Nat) (toggles : TogglesPatch) (timings : TimingsPatch)
    (managed : Bool) (officialResultChannelId : Option Nat) : SameBrainRoom where
  roomId := ctx.newId
  managed := managed
  officialResultChannelId := officialResultChannelId
  phase := .lobby
  revision := 1
  sequence := 1
  hostHash := .token (ctx.token 0 0)
  joinHash := .token (ctx.token 0 1)
  expiresAt := multiplayerLobbyExpiresAt ctx.clock 1
  gameNumber := 1
  round := 0
  rounds := clampRounds (rounds.getD sameBrainDefaultRounds)
  toggles := SameBrainToggles.patch {} toggles
  timings := sameBrainDefaultTimings.patch timings
  phaseStartedAt := ctx.clock
  phaseEndsAt := 0
  pausedAt := none
  lastActiveAt := ctx.clock
  players := []
  hostPlayerId := none
  joinLocked := false
  hostDisconnectedSince := none
  question := none
  recentQuestions := []
  result := none
  resultBaseline := none
  history := []
  processedActions := []
  winnerIds := []

/-- A first join; one that is sent again is answered from its receipt and changes nothing. -/
def joinSameBrainRoom (joinToken hostToken : Option Secret) (name : String) :
    Option Nat × SameBrainRoom :=
  let name := String.ofList (collapse name.toList)
  let taken := room.players.any fun player =>
    ctx.locale.toLocaleLowerCase player.name == ctx.locale.toLocaleLowerCase name
  if (room.managed && joinToken.isNone) || joinToken.any (· != room.joinHash) then (none, room)
  else if room.phase ≠ .lobby ∨ room.joinLocked then (none, room)
  else if name.length < 1 ∨ sameBrainMaxNameLength < name.length ∨ taken then (none, room)
  else if sameBrainMaxPlayers ≤ room.players.length then (none, room)
  else
    let id := ctx.token room.revision 0
    (some id, changed ctx { room with
      players := room.players ++
        [{ id, name, tokenHash := .token (ctx.token room.revision 1), joinedAt := ctx.clock, lastSeenAt := ctx.clock }]
      hostPlayerId := if hostToken = some room.hostHash then some id else room.hostPlayerId.or (some id) })

def authenticate (credential : Secret) (playerId : Option Nat) : Bool :=
  match playerId.bind room.player with
  | some player => player.leftAt.isNone && credential == player.tokenHash
  | none => credential == room.hostHash

def touch (playerId : Option Nat) (now : Int) (force : Bool) : SameBrainRoom :=
  let seen := (playerId.bind room.player).elim room fun player =>
    room.updatePlayer player.id fun row => { row with lastSeenAt := touchMultiplayerPresence row.lastSeenAt now force }
  let stale := decide (presenceTouchIntervalMs ≤ now - room.lastActiveAt)
  let away := (seen.hostPlayerId.bind seen.player).any (!·.connected now)
  { seen with
    lastActiveAt := if force || (playerId.bind room.player).isNone || stale then now else room.lastActiveAt
    hostDisconnectedSince := if away then some (room.hostDisconnectedSince.getD now) else none }

def attend (playerId : Option Nat) : SameBrainRoom :=
  (room.touch playerId ctx.now true).advance ctx ctx.now

def readSameBrainSnapshot (credential : Secret) (playerId : Option Nat) :
    Option SameBrainSnapshot × SameBrainRoom :=
  if room.authenticate credential playerId then
    let touched := room.touch playerId ctx.clock false
    (some (touched.snapshot playerId ctx.clock), touched)
  else (none, room)

def rememberAction (actionId : Nat) : SameBrainRoom :=
  { room with processedActions := rememberMultiplayerAction room.processedActions actionId }

def refuseWith (code : SameBrainRejectionCode) (error : String) : Except Rejected SameBrainRoom :=
  .error { room, code, error }

def configure (rounds : Option Nat) (toggles : Option TogglesPatch)
    (timings : Option TimingsPatch) : Except Rejected SameBrainRoom :=
  if room.managed then room.refuseWith .actionUnavailable "The game-night settings are fixed"
  else if room.phase ≠ .lobby then room.refuseWith .actionUnavailable "House rules are set before the game starts"
  else
    .ok (changed ctx { room with
      rounds := rounds.elim room.rounds clampRounds
      toggles := toggles.elim room.toggles room.toggles.patch
      timings := timings.elim room.timings room.timings.patch })

def unconfirmed (removePlayerIds : List Nat) : List PlayerState :=
  room.players.filter fun player => !player.ready &&
    (room.hostPlayerId == some player.id || !removePlayerIds.contains player.id || player.startRequestId.isNone)

/-- `requestMultiplayerReadiness`, by the id of the action. -/
def requestReadiness (waited : List PlayerState) (actionId : Nat) : SameBrainRoom :=
  let asks (player : PlayerState) : Bool := waited.any (·.id == player.id) && player.isNudged ctx.now
  if room.players.any asks then
    changed ctx { room with
      players := update room.players asks fun player =>
        { player with toReadiness := player.toReadiness.request actionId ctx.now } }
  else room

def notReadyMessage : List String → String
  | [name] => name ++ " is not ready"
  | names => String.intercalate ", " names ++ " are not ready"

def startGame (removePlayerIds : List Nat) (actionId : Nat) :
    Except Rejected SameBrainRoom :=
  if room.phase ≠ .lobby then room.refuseWith .actionUnavailable "Already playing"
  else if room.players.length < sameBrainMinPlayers then
    room.refuseWith .notEnoughPlayers (toString sameBrainMinPlayers ++ " people is the smallest game")
  else
    let waited := room.unconfirmed removePlayerIds
    if !waited.isEmpty then
      (room.requestReadiness ctx waited actionId).refuseWith .playersNotReady (notReadyMessage (waited.map (·.name)))
    else
      let remaining := room.players.filter fun player => player.ready || !removePlayerIds.contains player.id
      if remaining.length < sameBrainMinPlayers then
        room.refuseWith .notEnoughPlayers (toString sameBrainMinPlayers ++ " ready people are needed to start")
      else
        let seated := if remaining.length = room.players.length then room
          else changed ctx { room with players := remaining }
        let begun : SameBrainRoom := { seated with
          round := 0, history := [], winnerIds := [], players := seated.players.map PlayerState.cleared }
        .ok (begun.startRound ctx ctx.now)

def advanceByHost : Except Rejected SameBrainRoom :=
  match room.phase with
  | .submit => .ok (room.closeSubmit ctx ctx.now)
  | .prompt => .ok (room.enterPhase ctx .submit ctx.now)
  | .sayIt => .ok (room.enterPhase ctx .reveal ctx.now)
  | .reveal => .ok (room.afterReveal ctx ctx.now)
  | .lobby | .ending => room.refuseWith .actionUnavailable "Nothing to skip"

/-- A result is its own baseline until it is corrected; one that was read back from a store never is. -/
def isBaseline (result : SameBrainRoundResult) : Bool := ctx.inMemory && !result.corrected

/-- What the round is scored as again: its baseline, or its groups with one moved into another. -/
def corrected (result : SameBrainRoundResult) :
    Option (Nat × Nat) → Except Rejected SameBrainRoundResult
  | none =>
    match room.resultBaseline.filter fun _ => !isBaseline ctx result with
    | some baseline => .ok baseline
    | none => .error { room, code := .actionUnavailable, error := "Nothing has been changed" }
  | some (source, target) =>
    if source = target ∨ result.clusters.length ≤ source ∨ result.clusters.length ≤ target then
      .error { room, code := .actionUnavailable, error := "Those are not two groups" }
    else .ok (result.merge source target (room.awardResult result (-1)).playing.length)

/-- `result.merge` and `result.reset`. -/
def correct (round : Nat) (groups : Option (Nat × Nat)) :
    Except Rejected SameBrainRoom :=
  match room.result.filter fun _ => room.phase == .reveal with
  | none => room.refuseWith .actionUnavailable "There is no result to change"
  | some result =>
    if round ≠ room.round then room.refuseWith .phaseEnded "That round has closed"
    else (room.corrected ctx result groups).map (room.replaceResult ctx result)

/-- Whoever leaves or is removed once play has started stays in the records, and is out. -/
def depart (id : Nat) (now : Int) (secret : Secret) : SameBrainRoom :=
  room.updatePlayer id fun row => { row with out := true, answer := none, leftAt := some now, tokenHash := secret }

def removePlayer (playerId : Nat) : Except Rejected SameBrainRoom :=
  match room.player playerId with
  | none => room.refuseWith .actionUnavailable "They are not here"
  | some target =>
    let without := if room.phase = .lobby then { room with players := room.players.filter (·.id ≠ playerId) }
      else room.depart target.id ctx.now (.removed ctx.newId target.id)
    .ok (changed ctx (if room.hostPlayerId = some playerId then without.transferHost playerId ctx.now else without))

/-- `game.replay` and `game.lobby` up to where they part. -/
def resetGame : SameBrainRoom :=
  { room with
    players := (room.players.filter (·.leftAt.isNone)).map fun player => player.cleared.setReady true
    gameNumber := room.gameNumber + 1
    round := 0, result := none, resultBaseline := none, history := [], winnerIds := [], question := none }

def hostCommand (actionId : Nat) : SameBrainHostAction → Except Rejected SameBrainRoom
  | .admissionSet locked =>
    if room.phase ≠ .lobby then room.refuseWith .actionUnavailable "The room only locks in the lobby"
    else if room.joinLocked = locked then .ok room
    else .ok (changed ctx { room with joinLocked := locked })
  | .configure rounds toggles timings => room.configure ctx rounds toggles timings
  | .start removePlayerIds => room.startGame ctx removePlayerIds actionId
  | .skipQuestion =>
    if room.phase ≠ .prompt ∧ room.phase ≠ .submit then room.refuseWith .actionUnavailable "There is no question to change"
    else .ok ({ room with round := room.round - 1 }.startRound ctx ctx.now)
  | .extend =>
    if room.phaseEndsAt = 0 then room.refuseWith .actionUnavailable "Nothing is running down"
    else .ok (changed ctx { room with phaseEndsAt := room.phaseEndsAt + 20000 })
  | .pause =>
    if room.pausedAt.isSome then room.refuseWith .actionUnavailable "Already paused"
    else if room.phase = .lobby ∨ room.phase = .ending then room.refuseWith .actionUnavailable "Nothing to pause"
    else if room.phase = .sayIt then room.refuseWith .actionUnavailable "Let them say it first"
    else .ok (changed ctx { room with pausedAt := some ctx.now })
  | .resume =>
    match room.pausedAt with
    | none => room.refuseWith .actionUnavailable "Not paused"
    | some pausedAt =>
      .ok (changed ctx { room with
        phaseEndsAt := if room.phaseEndsAt = 0 then 0 else room.phaseEndsAt + max 0 (ctx.now - pausedAt)
        pausedAt := none })
  | .advance => room.advanceByHost ctx
  | .merge round source target => room.correct ctx round (some (source, target))
  | .reset round => room.correct ctx round none
  | .passHost playerId =>
    match (room.player playerId).filter (·.leftAt.isNone) with
    | none => room.refuseWith .actionUnavailable "They are not here"
    | some target => .ok (changed ctx { room with hostPlayerId := some target.id })
  | .remove playerId => room.removePlayer ctx playerId
  | .replay => .ok (room.resetGame.startRound ctx ctx.now)
  | .lobby => .ok (room.resetGame.enterPhase ctx .lobby ctx.now)
  | .endGame => .ok (room.finish ctx ctx.now)

/-- `room.leave` once play has started. The end of the game is asked about at once. -/
def walkOut (id : Nat) : SameBrainRoom :=
  let gone := room.depart id ctx.now (.left ctx.newId id)
  if gone.gameOver then gone.finish ctx ctx.now else gone

def leaveRoom (id : Nat) : SameBrainRoom :=
  let without := if room.phase = .lobby then
      let dismissed : SameBrainRoom := { room with players := room.players.filter (·.id ≠ id) }
      if dismissed.players.isEmpty then { dismissed with expiresAt := ctx.now } else dismissed
    else room.walkOut ctx id
  changed ctx (if room.hostPlayerId = some id then without.transferHost id ctx.now else without)

/-- Nobody waits out a timer that everybody has already beaten. -/
def submitAnswer (id : Nat) (text : String) : SameBrainRoom :=
  let answered := changed ctx (room.updatePlayer id fun row => { row with answer := some (clip sameBrainMaxAnswerLength text) })
  if answered.phase = .submit ∧ answered.everyoneAnswered then answered.closeSubmit ctx ctx.now else answered

/-- `answer.submit` with a text and `answer.clear` without one. -/
def answerCommand (id round : Nat) (text : Option String) :
    Except Rejected SameBrainRoom :=
  if room.phase ≠ .submit ∧ room.phase ≠ .prompt then room.refuseWith .phaseEnded "That round has closed"
  else if round ≠ room.round then room.refuseWith .phaseEnded "That round has closed"
  else
    match text with
    | none => .ok (changed ctx (room.updatePlayer id fun row => { row with answer := none }))
    | some text =>
      if answerIsUsable ctx.locale text then .ok (room.submitAnswer ctx id text)
      else room.refuseWith .invalidAnswer "Type a word or two"

def playerCommand (player : PlayerState) :
    SameBrainPlayerAction → Except Rejected SameBrainRoom
  | .leave => .ok (room.leaveRoom ctx player.id)
  | .rename name =>
    if room.phase ≠ .lobby then room.refuseWith .actionUnavailable "Names only change in the lobby"
    else if room.players.any fun other => other.id != player.id &&
        ctx.locale.toLocaleLowerCase other.name == ctx.locale.toLocaleLowerCase name then
      room.refuseWith .actionUnavailable "That name is already here"
    else .ok (changed ctx (room.updatePlayer player.id fun row => { row with name }.setReady false))
  | .readiness ready =>
    if room.phase ≠ .lobby then room.refuseWith .actionUnavailable "Readiness only changes in the lobby"
    else if player.ready = ready then .ok room
    else .ok (changed ctx (room.updatePlayer player.id (·.setReady ready)))
  | .claimHost =>
    if room.hostDisconnectedSince.all fun since => ctx.now - since < hostClaimAfterMs then
      room.refuseWith .actionUnavailable "The host is still here"
    else .ok (changed ctx { room with hostPlayerId := some player.id, hostDisconnectedSince := none })
  | .submit round text =>
    if player.out then room.refuseWith .outOfGame "You are out of this game"
    else room.answerCommand ctx player.id round (some text)
  | .clear round =>
    if player.out then room.refuseWith .outOfGame "You are out of this game"
    else room.answerCommand ctx player.id round none

def answer (viewerId : Option Nat) (actionId : Nat)
    (command : Except Rejected SameBrainRoom) : SameBrainActionResult × SameBrainRoom :=
  if room.processedActions.contains actionId then (.accepted (room.snapshot viewerId ctx.now), room)
  else
    match command with
    | .error refused => (.rejected (refused.room.snapshot viewerId ctx.now) refused.code refused.error, refused.room)
    | .ok after =>
      let stored := after.rememberAction actionId
      (.accepted (stored.snapshot viewerId ctx.now), stored)

structure HostInput where
  hostToken : Option Secret
  playerId : Option Nat
  playerToken : Option Secret
  actionId : Nat
  action : SameBrainHostAction

def mayHost (input : HostInput) : Bool :=
  input.hostToken == some room.hostHash ||
    (input.playerId.bind room.player).any fun actor =>
      input.playerToken == some actor.tokenHash && room.hostPlayerId == some actor.id

def applySameBrainHostAction (input : HostInput) :
    SameBrainActionResult × SameBrainRoom :=
  if room.mayHost input then
    let attended := room.attend ctx input.playerId
    attended.answer ctx input.playerId input.actionId (attended.hostCommand ctx input.actionId input.action)
  else (.unavailable, room)

structure PlayerInput where
  playerId : Nat
  playerToken : Secret
  actionId : Nat
  action : SameBrainPlayerAction

def mayPlay (input : PlayerInput) : Bool :=
  (room.player input.playerId).any (·.tokenHash == input.playerToken)

def applySameBrainPlayerAction (input : PlayerInput) :
    SameBrainActionResult × SameBrainRoom :=
  if room.mayPlay input then
    let attended := room.attend ctx (some input.playerId)
    match attended.player input.playerId with
    | some player => attended.answer ctx (some player.id) input.actionId (attended.playerCommand ctx player input.action)
    | none => (.unavailable, attended)
  else (.unavailable, room)

end SameBrainRoom

/-- Everything that is done to a room once it is created. -/
inductive Command where
  | join (ctx : GameContext) (joinToken hostToken : Option Secret) (name : String)
  | pump (ctx : GameContext)
  | read (ctx : GameContext) (credential : Secret) (playerId : Option Nat)
  | host (ctx : GameContext) (input : SameBrainRoom.HostInput)
  | play (ctx : GameContext) (input : SameBrainRoom.PlayerInput)

def Command.apply : Command → SameBrainRoom → SameBrainRoom
  | .join ctx joinToken hostToken name, room => (room.joinSameBrainRoom ctx joinToken hostToken name).2
  | .pump ctx, room => room.advance ctx ctx.now
  | .read ctx credential playerId, room => (room.readSameBrainSnapshot ctx credential playerId).2
  | .host ctx input, room => (room.applySameBrainHostAction ctx input).2
  | .play ctx input, room => (room.applySameBrainPlayerAction ctx input).2

def Command.sealed (command : Command) (room : SameBrainRoom) : Option OfficialGameResultEnvelope :=
  if room.phase = .ending then none else (command.apply room).sameBrainOfficialResult

/-- A time, a runtime whose letters are plain, and one question; the tokens are counted by the revision. -/
def GameContext.plain (now : Int) : GameContext where
  now := now
  clock := now
  newId := 0
  random _ _ := 0
  token revision use := 2 * revision + use
  inMemory := true
  locale := { toLocaleLowerCase := id, normalize := id, isLetterOrNumber := Char.isAlphanum }
  questions := ["A fruit"]

/-- The names join a room; the first of them has the id 2 and the next ones 4, 6 and so on. -/
def joins (names : List String) : List Command := names.map (.join (.plain 1) none none)

def Command.by (playerId : Nat) (now : Int) (actionId : Nat) (action : SameBrainPlayerAction) : Command :=
  .play (.plain now) { playerId, playerToken := .token (playerId + 1), actionId, action }

def Command.byHost (now : Int) (actionId : Nat) (action : SameBrainHostAction) : Command :=
  .host (.plain now) { hostToken := some (.token 0), playerId := none, playerToken := none, actionId, action }

end MilkAndHenny.SameBrain

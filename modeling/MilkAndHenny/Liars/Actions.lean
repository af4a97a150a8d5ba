import MilkAndHenny.Liars.Snapshot

/-! The commands of a room: joining, reading, and what the host and the players may do.
A command is authenticated, touches presence, advances the room, and then acts. -/

namespace MilkAndHenny.Liars
open Library

inductive LiarsRejectionCode where
  | actionUnavailable | notAlive | invalidTarget | playersNotReady | lineupInvalid | phaseEnded | alreadyLocked
  | notYourTurn | notHost

/-- `Partial<LiarsToggles>`. -/
structure TogglesPatch where
  announceAttackTarget : Option Bool := none
  revealRoleOnDeath : Option Bool := none
  revealEjectedRole : Option Bool := none
  jesterEndsGame : Option Bool := none
  doctorRepeatTarget : Option Bool := none
  coldOpen : Option Bool := none
  blindImposters : Option Bool := none
  wordBoard : Option Bool := none
  simultaneousClues : Option Bool := none
  cameraTorch : Option Bool := none
  lastWords : Option Bool := none
  graveyardVote : Option Bool := none
  liveGodView : Option Bool := none
  firstGame : Option Bool := none

def LiarsToggles.patch (toggles : LiarsToggles) (change : TogglesPatch) : LiarsToggles where
  announceAttackTarget := change.announceAttackTarget.getD toggles.announceAttackTarget
  revealRoleOnDeath := change.revealRoleOnDeath.getD toggles.revealRoleOnDeath
  revealEjectedRole := change.revealEjectedRole.getD toggles.revealEjectedRole
  jesterEndsGame := change.jesterEndsGame.getD toggles.jesterEndsGame
  doctorRepeatTarget := change.doctorRepeatTarget.getD toggles.doctorRepeatTarget
  coldOpen := change.coldOpen.getD toggles.coldOpen
  blindImposters := change.blindImposters.getD toggles.blindImposters
  wordBoard := change.wordBoard.getD toggles.wordBoard
  simultaneousClues := change.simultaneousClues.getD toggles.simultaneousClues
  cameraTorch := change.cameraTorch.getD toggles.cameraTorch
  lastWords := change.lastWords.getD toggles.lastWords
  graveyardVote := change.graveyardVote.getD toggles.graveyardVote
  liveGodView := change.liveGodView.getD toggles.liveGodView
  firstGame := change.firstGame.getD toggles.firstGame

/-- `Partial<LiarsTimings>`. -/
structure TimingsPatch where
  deal : Option Int := none
  night : Option Int := none
  dawn : Option Int := none
  deliberation : Option Int := none
  vote : Option Int := none
  verdict : Option Int := none
  finalGuess : Option Int := none
  clueTurn : Option Int := none

def LiarsTimings.patch (timings : LiarsTimings) (change : TimingsPatch) : LiarsTimings where
  deal := change.deal.getD timings.deal
  night := change.night.getD timings.night
  dawn := change.dawn.getD timings.dawn
  deliberation := change.deliberation.getD timings.deliberation
  vote := change.vote.getD timings.vote
  verdict := change.verdict.getD timings.verdict
  finalGuess := change.finalGuess.getD timings.finalGuess
  clueTurn := change.clueTurn.getD timings.clueTurn

structure GameConfiguration where
  lineup : Option LiarsLineup := none
  resetLineup : Bool := false
  toggles : Option TogglesPatch := none
  timings : Option TimingsPatch := none
  roomMode : Option LiarsRoomMode := none

inductive LiarsHostAction where
  | admissionSet (locked : Bool)
  | configure (configuration : GameConfiguration)
  | start (removePlayerIds : List Nat)
  | extend
  | pause
  | resume
  | passHost (playerId : Nat)
  | remove (playerId : Nat)
  | replay
  | lobby
  | endGame

inductive LiarsPlayerAction where
  | leave
  | rename (name : String)
  | readiness (ready : Bool)
  | claimHost
  | lastWords (text : String)
  | wish (role : LiarsRole) (wanted : Bool)
  | pin (text : String)
  | unpin (noteId : Nat)
  | graveyardVote (targetId : Option Nat)
  | guess (text : String)
  | nightSelect (round : Nat) (targetId : Option Nat)
  | nightLock (round : Nat)
  | clueSaid
  | clueSkip
  | clueAllSaid
  | point (targetId : Option Nat)
  | readyToVote (ready : Bool)
  | castVote (targetId : Option Nat)
  | lockVote

/-- A refusal, with the room as the command leaves it. -/
structure Rejected where
  room : LiarsRoom
  code : LiarsRejectionCode
  error : String
  retryable : Bool := false

inductive LiarsActionResult where
  | unavailable
  | rejected (snapshot : LiarsSnapshot) (code : LiarsRejectionCode) (error : String) (retryable : Bool)
  | accepted (snapshot : LiarsSnapshot)

def LiarsActionResult.isAccepted : LiarsActionResult → Bool
  | .accepted _ => true
  | _ => false

def liarsMaxNameLength : Nat := 24

def liarsLastWordsLength : Nat := 80

/-- `text.slice(0, length).trim()`. -/
def clip (length : Nat) (text : String) : String := (String.ofList (text.toList.take length)).trimAscii.toString

namespace LiarsRoom

variable (ctx : GameContext) (room : LiarsRoom)

def authenticate (credential : Secret) (playerId : Option Nat) : Bool :=
  match playerId.bind room.player with
  | some player => player.leftAt.isNone && credential == player.tokenHash
  | none => credential == room.hostHash

def idleFor (now : Int) : Int :=
  max 0 (now - if room.lastActiveAt = 0 then now else room.lastActiveAt)

def touch (playerId : Option Nat) (now : Int) (force : Bool) : LiarsRoom :=
  let due (since : Int) : Bool := force || presenceTouchIntervalMs ≤ now - since
  let seen : LiarsRoom := match playerId.bind room.player with
    | none => { room with lastActiveAt := now }
    | some player =>
      { room.updatePlayer player.id fun row => if due row.lastSeenAt then { row with lastSeenAt := now } else row with
        lastActiveAt := if due room.lastActiveAt then now else room.lastActiveAt }
  let away := (seen.hostPlayerId.bind seen.player).any (!·.connected now)
  let eligible := seen.players.filter (·.connected now)
  { seen with
    hostDisconnectedSince := if away then some (seen.hostDisconnectedSince.getD now) else none
    -- narration goes to one device, or several phones echo a beat apart
    narratorPlayerId :=
      if seen.narratorPlayerId.any fun id => eligible.any (·.id == id) then seen.narratorPlayerId
      else eligible.head?.map (·.id) }

def attend (playerId : Option Nat) (force : Bool) : LiarsRoom :=
  (room.touch playerId ctx.now force).advance ctx ctx.now (room.idleFor ctx.now)

def readLiarsSnapshot (credential : Secret) (playerId : Option Nat) :
    Option LiarsSnapshot × LiarsRoom :=
  if room.authenticate credential playerId then
    let room := room.attend ctx playerId false
    (some (room.snapshot playerId ctx.now), room)
  else (none, room)

def standardLineup : LiarsLineup :=
  if room.toggles.firstGame then liarsFirstGameLineup room.mode room.players.length
  else liarsDefaultLineup room.mode room.players.length

def liarsWordPair : Option LiarsWordPair :=
  let fresh := ctx.content.wordPairs.filter fun pair => !room.recentWords.contains pair.word
  let pool := if fresh.isEmpty then ctx.content.wordPairs else fresh
  pool[ctx.pick room.revision 3 pool.length]?

def liarsBoard (revision : Nat) (pair : LiarsWordPair) : List String :=
  let siblings := (ctx.content.wordPairs.filter fun other =>
    other.category == pair.category && other.word != pair.word && other.word != pair.decoy).map (·.word)
  let board := (pair.word :: pair.decoy :: shuffle (ctx.pick revision 1) siblings).take 12
  orderBy ctx.content.localeCompare (shuffle (ctx.pick revision 2) board)

def dealtWord (role : Option LiarsRole) : Option String :=
  if room.mode ≠ .imposter ∨ role = some .imposter then none
  else if role = some .understudy then room.decoyWord
  else room.word

def dealGame (now : Int) : LiarsRoom :=
  let previous (id : Nat) : Option LiarsRole := (room.player id).bind (·.previousRole)
  let dealt := liarsDealRoles room.lineup (room.players.map (·.id))
    (if room.players.any (·.previousRole.isSome) then some previous else none) (ctx.pick room.revision 0)
  let pair := if room.mode = .imposter then room.liarsWordPair ctx else none
  let worded : LiarsRoom := { room with
    graveyardBoard := []
    word := pair.map (·.word), decoyWord := pair.map (·.decoy), wordCategory := pair.map (·.category)
    wordBoard := pair.elim [] (liarsBoard ctx room.revision)
    recentWords := pair.elim room.recentWords fun pair => takeLast 40 (room.recentWords ++ [pair.word]) }
  let seated : LiarsRoom := { worded with
    players := room.players.map fun player =>
      { player with
        role := dealt player.id, alive := true, deathRound := none, deathCause := none, savedCount := 0, knowledge := []
        lastWords := none, graveyardVote := none, vigilanteUsed := false, guiltPending := false
        previousNightTarget := none, word := worded.dealtWord (dealt player.id) }
    round := 0, history := [], dawn := none, crewEjections := 0, imposterEjections := 0, finalGuessCorrect := none
    ejectedJesterId := none, winner := none, clueRound := 0 }
  seated.enterPhase ctx .deal now

def createLiarsRoom (mode : LiarsMode) (roomMode : LiarsRoomMode) (toggles : TogglesPatch)
    (timings : TimingsPatch) (managed : Bool) : LiarsRoom where
  roomId := ctx.newId
  managed := managed
  mode := mode
  roomMode := roomMode
  phase := .lobby
  revision := 1
  sequence := 1
  hostHash := .token (ctx.token 0 0)
  joinHash := .token (ctx.token 0 1)
  expiresAt := multiplayerLobbyExpiresAt ctx.clock 1
  gameNumber := 1
  round := 0
  phaseStartedAt := ctx.clock
  phaseEndsAt := 0
  nightOpensAt := none
  reportAt := none
  pausedAt := none
  lastActiveAt := ctx.clock
  lineup := liarsDefaultLineup mode (liarsPlayerLimits mode).min
  lineupCustom := false
  toggles := LiarsToggles.patch {} toggles
  timings := (liarsDefaultTimings roomMode).patch timings
  players := []
  hostPlayerId := none
  joinLocked := false
  hostDisconnectedSince := none
  history := []
  dawn := none
  clueOrder := []
  clueIndex := 0
  clueRound := 0
  clueFinishedBy := []
  processedActions := []
  ejectedJesterId := none
  crewEjections := 0
  imposterEjections := 0
  finalGuessCorrect := none
  word := none
  decoyWord := none
  wordCategory := none
  wordBoard := []
  recentWords := []
  recentNarrationIds := []
  winner := none
  lastEjectedName := none
  graveyardBoard := []
  revoteUsed := false
  runoffIds := []
  narratorPlayerId := none

def joinLiarsRoom (joinToken : Option Secret) (hostToken : Option Secret)
    (name : String) : Option Nat × LiarsRoom :=
  let taken := room.players.any fun player =>
    ctx.content.toLocaleLowerCase player.name == ctx.content.toLocaleLowerCase name
  if (room.managed && joinToken.isNone) || joinToken.any (· != room.joinHash) then (none, room)
  else if room.phase ≠ .lobby ∨ room.joinLocked then (none, room)
  else if name.length < 1 ∨ liarsMaxNameLength < name.length ∨ taken then (none, room)
  else if (liarsPlayerLimits room.mode).max ≤ room.players.length then (none, room)
  else
    let id := ctx.token room.revision 0
    let joined : LiarsRoom := { room with
      players := room.players ++
        [{ id, name, tokenHash := .token (ctx.token room.revision 1), joinedAt := ctx.now, lastSeenAt := ctx.now }]
      hostPlayerId := if hostToken = some room.hostHash then some id else room.hostPlayerId.or (some id) }
    let fits := joined.lineupCustom && joined.lineup.total == joined.players.length
    (some id, changed ctx { joined with
      lineup := if fits then joined.lineup else joined.standardLineup
      lineupCustom := fits })

variable (player : PlayerState) (actionId : Nat)

def rememberAction : LiarsRoom :=
  { room with processedActions := takeLast 300 (room.processedActions.filter (· ≠ actionId) ++ [actionId]) }

def configureRoomMode (roomMode : LiarsRoomMode) : LiarsRoom :=
  { room with roomMode, timings := { room.timings with deliberation := (liarsDefaultTimings roomMode).deliberation } }

def configureToggles (change : TogglesPatch) : LiarsRoom :=
  let toggles := room.toggles.patch change
  -- a graveyard that can see roles is a guaranteed-correct ballot
  let toggled : LiarsRoom := { room with
    toggles := if toggles.liveGodView then { toggles with graveyardVote := false } else toggles }
  match change.firstGame with
  | some true => { toggled with lineup := liarsFirstGameLineup room.mode room.players.length }
  | some false => { toggled with lineup := liarsDefaultLineup room.mode room.players.length }
  | none => toggled

def resetLineup : LiarsRoom :=
  changed ctx { room with lineup := room.standardLineup, lineupCustom := false }

def configureParts (configuration : GameConfiguration) : LiarsRoom :=
  let moded := configuration.roomMode.elim room room.configureRoomMode
  let toggled := configuration.toggles.elim moded moded.configureToggles
  let timed : LiarsRoom := configuration.timings.elim toggled fun change =>
    { toggled with timings := toggled.timings.patch change }
  if configuration.resetLineup then timed.resetLineup ctx else timed

def configure (configuration : GameConfiguration) : Except Rejected LiarsRoom :=
  if room.managed then .error { room, code := .actionUnavailable, error := "The game-night settings are fixed" }
  else if room.phase ≠ .lobby then .error { room, code := .actionUnavailable, error := "The game has already started" }
  else
    let configured := room.configureParts ctx configuration
    match configuration.lineup with
    | none => .ok (changed ctx configured)
    | some lineup =>
      match liarsValidateLineup room.mode lineup room.players.length with
      | some problem => .error { room := configured, code := .lineupInvalid, error := problem.message }
      | none => .ok (changed ctx { configured with lineup, lineupCustom := true })

def unconfirmed (removePlayerIds : List Nat) : List PlayerState :=
  room.players.filter fun player => !player.ready &&
    (room.hostPlayerId == some player.id || !removePlayerIds.contains player.id || player.startRequestId.isNone)

/-- `requestMultiplayerReadiness`, which asks nobody twice within ten seconds. -/
def requestReadiness (waited : List PlayerState) : LiarsRoom :=
  let asks (player : PlayerState) : Bool := waited.any (·.id == player.id) && !player.ready &&
    !player.startRequestedAt.any fun since => since != 0 && ctx.clock - since < startNudgeCooldownMs
  if room.players.any asks then
    changed ctx { room with
      players := update room.players asks fun player =>
        { player with startRequestId := some ctx.newId, startRequestedAt := some ctx.clock } }
  else room

def notReadyMessage : List String → String
  | [name] => name ++ " is not ready"
  | names => String.intercalate ", " names ++ " are not ready"

def startGame (removePlayerIds : List Nat) : Except Rejected LiarsRoom :=
  let limit := (liarsPlayerLimits room.mode).min
  let needs (players : String) : String := room.mode.name ++ " needs " ++ toString limit ++ players
  if room.phase ≠ .lobby then .error { room, code := .actionUnavailable, error := "The game has already started" }
  else if room.players.length < limit then
    .error { room, code := .actionUnavailable, error := needs " players", retryable := true }
  else
    match liarsValidateLineup room.mode room.lineup room.players.length with
    | some problem => .error { room, code := .lineupInvalid, error := problem.message }
    | none =>
      let waited := room.unconfirmed removePlayerIds
      if !waited.isEmpty then
        .error { room := room.requestReadiness ctx waited, code := .playersNotReady
                 error := notReadyMessage (waited.map (·.name)), retryable := true }
      else
        let remaining := room.players.filter fun player => player.ready || !removePlayerIds.contains player.id
        if remaining.length < limit then
          .error { room, code := .actionUnavailable, error := needs " ready players", retryable := true }
        else if remaining.length = room.players.length then .ok (room.dealGame ctx ctx.now)
        else
          let fewer : LiarsRoom := { room with players := remaining }
          .ok ((changed ctx { fewer with lineup := fewer.standardLineup, lineupCustom := false }).dealGame ctx ctx.now)

def depart (target : PlayerState) (secret : Secret) : LiarsRoom :=
  let gone := if target.alive then
      let (line, told) := (room.kill target.id .left).narrate ctx .left { victim := some target.name }
      let noted := told.note .day line
      (noted.checkWinner ctx ctx.now none).getD noted
    else room
  gone.updatePlayer target.id fun row => { row with leftAt := some ctx.now, tokenHash := secret }

def handOver (leavingId : Nat) (now : Int) : LiarsRoom :=
  if room.hostPlayerId = some leavingId then room.transferHost leavingId now else room.transferNarrator leavingId now

def dismiss (id : Nat) : LiarsRoom :=
  let players := room.players.filter (·.id ≠ id)
  { room with players, lineup := liarsDefaultLineup room.mode (max 1 players.length) }

def removePlayer (playerId : Nat) : Except Rejected LiarsRoom :=
  match room.player playerId with
  | none => .error { room, code := .invalidTarget, error := "No such player" }
  | some target =>
    let without := if room.phase = .lobby then room.dismiss playerId
      else room.depart ctx target (.removed ctx.newId target.id)
    .ok (changed ctx (without.handOver playerId ctx.now))

/-- `game.replay` and `game.lobby` up to where they part. -/
def resetGame : LiarsRoom :=
  let reset : LiarsRoom := { room with
    players := (room.players.filter (·.leftAt.isNone)).map fun player =>
      { player with previousRole := player.role, alive := true, role := none }
    gameNumber := room.gameNumber + 1, round := 0, history := [], dawn := none, winner := none, recentNarrationIds := [] }
  { reset with lineup := reset.standardLineup, lineupCustom := false }

def hostCommand : LiarsHostAction → Except Rejected LiarsRoom
  | .admissionSet locked =>
    if room.phase ≠ .lobby then .error { room, code := .actionUnavailable, error := "The room only locks in the lobby" }
    else if room.joinLocked = locked then .ok room
    else .ok (changed ctx { room with joinLocked := locked })
  | .configure configuration => room.configure ctx configuration
  | .start removePlayerIds => room.startGame ctx removePlayerIds
  | .extend => .ok (changed ctx { room with phaseEndsAt := room.phaseEndsAt + 30000 })
  | .pause => .ok (changed ctx { room with pausedAt := some ctx.now })
  | .resume =>
    match room.pausedAt with
    | none => .ok room
    | some pausedAt => .ok (changed ctx { room.shiftClocks (ctx.now - pausedAt) with pausedAt := none })
  | .passHost playerId =>
    match (room.player playerId).filter (·.leftAt.isNone) with
    | none => .error { room, code := .invalidTarget, error := "No such player" }
    | some target => .ok (changed ctx { room with hostPlayerId := some target.id })
  | .remove playerId => room.removePlayer ctx playerId
  | .replay => .ok (room.resetGame.dealGame ctx ctx.now)
  | .lobby =>
    let reset := room.resetGame
    .ok (changed ctx { reset with players := reset.players.map (·.setReady false), phase := .lobby })
  | .endGame => .ok (room.finish ctx (room.winner.getD .town) ctx.now)

def refuseWith (code : LiarsRejectionCode) (error : String) : Except Rejected LiarsRoom :=
  .error { room, code, error }

def leaveRoom : LiarsRoom :=
  let without := if room.phase = .lobby then
      let dismissed := room.dismiss player.id
      if dismissed.players.isEmpty then { dismissed with expiresAt := ctx.now } else dismissed
    else room.depart ctx player (.left ctx.newId player.id)
  changed ctx (without.handOver player.id ctx.now)

def lockNight (id : Nat) : LiarsRoom :=
  let locked := changed ctx (room.updatePlayer id fun row => { row with nightLocked := true })
  match locked.reportAt with
  | some reportAt =>
    if locked.living.all (·.nightLocked) then
      { locked with reportAt := some ctx.now, phaseEndsAt := ctx.now + (locked.phaseEndsAt - reportAt) }.writeNightReports ctx
    else locked
  | none => locked

def mayTarget (targetId : Nat) : Bool :=
  (liarsTargetableIds {
    mode := room.mode, role := player.played, actorId := player.id
    living := room.living.map fun other => (other.id, other.played)
    previousTargetId := player.previousNightTarget
    doctorRepeatTarget := room.toggles.doctorRepeatTarget }).contains targetId

def nightCommand (round : Nat)
    (choice : Option (Option Nat)) : Except Rejected LiarsRoom :=
  if room.phase ≠ .night then room.refuseWith .phaseEnded "The night has ended"
  else if round ≠ room.round then room.refuseWith .phaseEnded "That night has ended"
  else if player.nightLocked then room.refuseWith .alreadyLocked "You have locked in"
  else
    match choice with
    | none => .ok (room.lockNight ctx player.id)
    | some targetId =>
      if targetId.all (room.mayTarget player) then
        .ok (changed ctx (room.updatePlayer player.id fun row => { row with nightTarget := targetId }))
      else room.refuseWith .invalidTarget "You cannot choose them"

def clueCommand (said : Bool) : Except Rejected LiarsRoom :=
  let isTheirs := room.clueOrder[room.clueIndex]? == some player.id
  if room.phase ≠ .clue then room.refuseWith .phaseEnded "The clues have ended"
  else if said && !isTheirs then room.refuseWith .notYourTurn "It is not your turn"
  else
    .ok ((room.updatePlayer player.id fun row => { row with clueDone := isTheirs || row.clueDone }).advanceClue ctx ctx.now)

/-- Two different people end the circle, not one person twice. -/
def allSaid : Except Rejected LiarsRoom :=
  if room.phase ≠ .clue then room.refuseWith .phaseEnded "The clues have ended"
  else
    let finishedBy := distinct (room.clueFinishedBy ++ [player.id])
    let finished : LiarsRoom := { room with clueFinishedBy := finishedBy }
    if finishedBy.length < 2 then .ok (changed ctx finished)
    else .ok ({ finished with clueIndex := room.clueOrder.length }.advanceClue ctx ctx.now)

def declareReady (ready : Bool) : Except Rejected LiarsRoom :=
  if room.phase ≠ .deliberation then room.refuseWith .actionUnavailable "Nobody is listening yet"
  else
    let declared := changed ctx (room.updatePlayer player.id fun row => { row with readyToVote := ready })
    let here := declared.living.filter (·.connected ctx.now)
    -- a majority of who is actually here, and the timer fires anyway
    if here.length < 2 * here.countP (·.readyToVote) then .ok (declared.enterPhase ctx .vote ctx.now) else .ok declared

def voteCommand (choice : Option (Option Nat)) :
    Except Rejected LiarsRoom :=
  if room.phase ≠ .vote then room.refuseWith .phaseEnded "Voting has closed"
  else if player.voteLocked then room.refuseWith .alreadyLocked "Your vote is in"
  else
    match choice with
    | none =>
      let locked := changed ctx (room.updatePlayer player.id fun row => { row with voteLocked := true })
      .ok (if locked.living.all (·.voteLocked) then locked.resolveVote ctx ctx.now else locked)
    | some targetId =>
      if targetId.all fun id => (room.player id).any (·.alive) then
        .ok (changed ctx (room.updatePlayer player.id fun row => { row with vote := targetId }))
      else room.refuseWith .invalidTarget "They are already out"

def sayLastWords (text : String) : Except Rejected LiarsRoom :=
  if !player.alive && room.toggles.lastWords && player.lastWords.isNone then
    let words := clip liarsLastWordsLength text
    let spoken := room.updatePlayer player.id fun row => { row with lastWords := some words }
    .ok (changed ctx { spoken with
      dawn := spoken.dawn.map fun dawn =>
        if words = "" then dawn else { dawn with lastWords := dawn.lastWords ++ [{ name := player.name, text := words }] } })
  else room.refuseWith .actionUnavailable "Last words have closed"

def playerCommand :
    LiarsPlayerAction → Except Rejected LiarsRoom
  | .leave => .ok (room.leaveRoom ctx player)
  | .rename name =>
    if room.phase ≠ .lobby then room.refuseWith .actionUnavailable "Names only change in the lobby"
    else if room.players.any fun other => other.id != player.id &&
        ctx.content.toLocaleLowerCase other.name == ctx.content.toLocaleLowerCase name then
      room.refuseWith .actionUnavailable "That name is already here"
    else .ok (changed ctx (room.updatePlayer player.id fun row => { row with name }.setReady false))
  | .readiness ready =>
    if room.phase ≠ .lobby then room.refuseWith .actionUnavailable "Readiness only changes in the lobby"
    else if player.ready = ready then .ok room
    else .ok (changed ctx (room.updatePlayer player.id (·.setReady ready)))
  | .claimHost =>
    if room.hostDisconnectedSince.all fun since => ctx.now - since < hostClaimAfterMs then
      room.refuseWith .actionUnavailable "The host is still here"
    else if !player.alive then room.refuseWith .notAlive "Only a living player can host"
    else .ok (changed ctx { room with hostPlayerId := some player.id, hostDisconnectedSince := none })
  | .lastWords text => room.sayLastWords ctx player text
  | .wish role wanted =>
    if room.phase ≠ .lobby ∨ player.roleWishes.contains role = wanted then .ok room
    else .ok (changed ctx (room.updatePlayer player.id fun row =>
      { row with roleWishes := if wanted then row.roleWishes ++ [role] else row.roleWishes.filter (· ≠ role) }))
  | .pin text =>
    let line := clip liarsGraveyardNoteLength text
    if player.alive ∨ line = "" then .ok room
    else .ok (changed ctx { room with
      -- the oldest falls off rather than the pin being refused
      graveyardBoard := takeLast liarsGraveyardBoardMax
        (room.graveyardBoard ++ [{ id := actionId, name := player.name, text := line }]) })
  | .unpin noteId =>
    if player.alive then .ok room
    else .ok (changed ctx { room with graveyardBoard := room.graveyardBoard.filter (·.id ≠ noteId) })
  | .graveyardVote targetId =>
    if player.alive then room.refuseWith .actionUnavailable "The living do not vote here"
    else .ok (changed ctx (room.updatePlayer player.id fun row => { row with graveyardVote := targetId }))
  | .guess text =>
    if room.phase ≠ .finalGuess ∨ player.alive ∨ liarsRoleSide player.played ≠ .mafia then
      room.refuseWith .actionUnavailable "That is not yours to answer"
    else .ok (room.resolveFinalGuess ctx ctx.now (some text))
  | action =>
    if !player.alive then room.refuseWith .notAlive "You are dead"
    else
      match action with
      | .nightSelect round targetId => room.nightCommand ctx player round (some targetId)
      | .nightLock round => room.nightCommand ctx player round none
      | .clueSaid => room.clueCommand ctx player true
      | .clueSkip => room.clueCommand ctx player false
      | .clueAllSaid => room.allSaid ctx player
      | .point targetId =>
        if room.phase ≠ .deliberation then room.refuseWith .actionUnavailable "Nobody is listening yet"
        else .ok (changed ctx (room.updatePlayer player.id fun row => { row with pointedAt := targetId }))
      | .readyToVote ready => room.declareReady ctx player ready
      | .castVote targetId => room.voteCommand ctx player (some targetId)
      | .lockVote => room.voteCommand ctx player none
      | _ => .error { room, code := .actionUnavailable, error := "That action is not available now", retryable := true }

def answer (viewerId : Option Nat) (actionId : Nat)
    (command : Except Rejected LiarsRoom) : LiarsActionResult × LiarsRoom :=
  if room.processedActions.contains actionId then (.accepted (room.snapshot viewerId ctx.now), room)
  else
    match command with
    | .error refused =>
      (.rejected (refused.room.snapshot viewerId ctx.now) refused.code refused.error refused.retryable, refused.room)
    | .ok after =>
      let stored := after.rememberAction actionId
      (.accepted (stored.snapshot viewerId ctx.now), stored)

structure HostInput where
  hostToken : Option Secret
  playerId : Option Nat
  playerToken : Option Secret
  actionId : Nat
  action : LiarsHostAction

def mayHost (input : HostInput) : Bool :=
  input.hostToken == some room.hostHash ||
    (input.playerId.bind room.player).any fun actor =>
      input.playerToken == some actor.tokenHash && room.hostPlayerId == some actor.id

def applyLiarsHostAction (input : HostInput) : LiarsActionResult × LiarsRoom :=
  if room.mayHost input then
    let attended := room.attend ctx (input.playerId.filter fun id => (room.player id).isSome) true
    attended.answer ctx input.playerId input.actionId (attended.hostCommand ctx input.action)
  else (.unavailable, room)

structure PlayerInput where
  playerId : Nat
  playerToken : Secret
  actionId : Nat
  action : LiarsPlayerAction

def mayPlay (input : PlayerInput) : Bool :=
  (room.player input.playerId).any (·.tokenHash == input.playerToken)

def applyLiarsPlayerAction (input : PlayerInput) : LiarsActionResult × LiarsRoom :=
  if room.mayPlay input then
    let attended := room.attend ctx (some input.playerId) true
    match attended.player input.playerId with
    | some player => attended.answer ctx (some player.id) input.actionId (attended.playerCommand ctx player input.actionId input.action)
    | none => (.unavailable, attended)
  else (.unavailable, room)

end LiarsRoom

/-- Everything that is done to a room once it is created. -/
inductive Command where
  | join (ctx : GameContext) (joinToken hostToken : Option Secret) (name : String)
  | read (ctx : GameContext) (credential : Secret) (playerId : Option Nat)
  | host (ctx : GameContext) (input : LiarsRoom.HostInput)
  | play (ctx : GameContext) (input : LiarsRoom.PlayerInput)

def Command.apply : Command → LiarsRoom → LiarsRoom
  | .join ctx joinToken hostToken name, room => (room.joinLiarsRoom ctx joinToken hostToken name).2
  | .read ctx credential playerId, room => (room.readLiarsSnapshot ctx credential playerId).2
  | .host ctx input, room => (room.applyLiarsHostAction ctx input).2
  | .play ctx input, room => (room.applyLiarsPlayerAction ctx input).2

/-- A moment without texts to tell, in which every draw takes the first choice. -/
def GameContext.plain (now : Int) : GameContext where
  now := now
  clock := now
  newId := 0
  random _ _ _ := 0
  token revision use := 2 * revision + use
  content := { narration := fun _ => [], wordPairs := [], toLocaleLowerCase := id, localeCompare := fun _ _ => true }

def lobbyOf (mode : LiarsMode) (toggles : TogglesPatch) (names : List String) : LiarsRoom :=
  names.foldl (fun room name => (Command.join (.plain 1) none none name).apply room)
    (LiarsRoom.createLiarsRoom (.plain 1) mode .sameRoom toggles {} false)

def Command.by (playerId : Nat) (now : Int) (actionId : Nat) (action : LiarsPlayerAction) : Command :=
  .play (.plain now) { playerId, playerToken := .token (playerId + 1), actionId, action }

def Command.byHost (now : Int) (actionId : Nat) (action : LiarsHostAction) : Command :=
  .host (.plain now) { hostToken := some (.token 0), playerId := none, playerToken := none, actionId, action }

end MilkAndHenny.Liars

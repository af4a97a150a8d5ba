import MilkAndHenny.SpellingParty.Room

/-! What the presenter and the players of a spelling party may do. A command is one transaction on
the stored room, which is dropped where the command throws. -/

namespace MilkAndHenny.SpellingParty
open Library Multiplayer
open Zip (trim isSpace)

inductive PartyPresenterAction where
  | start (removePlayerIds : List Nat)
  | next
  | pause
  | resume
  | replay
  | lobby

inductive PartyPlayerAction where
  | leave
  | rename (name : String)
  | readiness (ready : Bool)
  | draft (roundId : Nat × Nat) (draft : String) (draftRevision : Nat)
  | lock (roundId : Nat × Nat)
  | integrity (roundId : Nat × Nat) (hiddenMs : Int)
  | clue (roundId : Nat × Nat) (kind : PartyClueKind)

inductive PartyActionRejectionCode where
  | playersNotReady | waitingForPlayers | actionUnavailable | roundEnded | answersLocked | cluesUnavailable
  | repeatAlreadyUsed | definitionAlreadyUsed | sentenceCluesExhausted
deriving DecidableEq

/-- How an action ends; the snapshot that goes with it is left out. -/
inductive PartyActionResult where
  | unavailable (error : String)
  | rejected (code : PartyActionRejectionCode) (error : String) (retryable : Bool)
  | accepted
deriving DecidableEq

/-- `.slice(0, limit)`, by UTF-16 units. -/
def sliceUtf16 (limit : Nat) : List Char → List Char
  | [] => []
  | char :: chars =>
    let units := RateLimit.utf16Length (String.singleton char)
    if units ≤ limit then char :: sliceUtf16 (limit - units) chars else []

/-- `.trim().replace(/\s+/g, " ")`. -/
def tidyName (name : String) : String :=
  String.ofList ((trim name).toList.foldr (fun char rest =>
    if isSpace char then if rest.head? = some ' ' then rest else ' ' :: rest else char :: rest) [])

namespace PartyRoom

variable (ctx : GameContext) (room : PartyRoom)

/-- `rememberMultiplayerAction`. -/
def rememberAction (actionId : Nat) : PartyRoom :=
  { room with processedActions := rememberMultiplayerAction room.processedActions actionId }

/-! ### Joining -/

inductive PartyRoomErrorCode where
  | inviteExpired | gameStarted | invalidName | nameTaken | roomFull

structure JoinInput where
  joinToken : Option Secret
  name : String
  presenterToken : Option Secret

/-- A first join; one that is sent again is answered from its receipt. -/
def joinPartyRoom (input : JoinInput) : Except (PartyRoomErrorCode × String) Nat × PartyRoom :=
  let name := tidyName input.name
  if input.joinToken.any (· != room.joinHash) then (.error (.inviteExpired, "Invite expired"), room)
  else if room.phase ≠ .lobby then (.error (.gameStarted, "This game has already started"), room)
  else if RateLimit.utf16Length name < 1 then (.error (.invalidName, "Enter your name"), room)
  else if 32 < RateLimit.utf16Length name then (.error (.invalidName, "Use 32 characters or fewer"), room)
  else if room.players.any fun player => ctx.runtime.toLocaleLowerCase player.name == ctx.runtime.toLocaleLowerCase name then
    (.error (.nameTaken, "That name is already in the room"), room)
  else if maxPlayers ≤ room.players.length then (.error (.roomFull, "This room is full"), room)
  else
    let id := ctx.token room.revision 0
    let player : PlayerState :=
      { id, name, tokenHash := .token (ctx.token room.revision 1), lastSeenAt := ctx.clock, joinedAt := ctx.clock }
    (.ok id, changed { room with
      players := room.players ++ [player]
      hostPlayerId := if input.presenterToken = some room.presenterHash then some id else room.hostPlayerId } ctx.clock)

/-! ### The presenter -/

/-- Unready, and not asked before and now removed. -/
def isUnconfirmed (removePlayerIds : List Nat) (player : PlayerState) : Bool :=
  !player.ready && (room.hostPlayerId == some player.id || !removePlayerIds.contains player.id || player.startRequestId.isNone)

/-- `requestMultiplayerReadiness`, by the id of the action. -/
def requestReadiness (unconfirmed : List PlayerState) : PartyRoom :=
  let asked := unconfirmed.filter (·.isNudged ctx.clock)
  if asked.isEmpty then room
  else changed { room with
    players := room.players.map fun player =>
      if asked.any (·.id == player.id) then { player with toReadiness := player.toReadiness.request ctx.newId ctx.clock } else player }
    ctx.clock

def start (removePlayerIds : List Nat) : Except String (PartyActionResult × PartyRoom) :=
  let unconfirmed := room.players.filter (room.isUnconfirmed removePlayerIds)
  if !unconfirmed.isEmpty then
    let error := if unconfirmed.any (room.hostPlayerId == some ·.id) then "Set yourself ready before starting" else "Some players are not ready"
    .ok (.rejected .playersNotReady error true, room.requestReadiness ctx unconfirmed)
  else
    let remainingPlayers := room.players.filter fun player => player.ready || !removePlayerIds.contains player.id
    if !removePlayerIds.isEmpty ∧ remainingPlayers = [] then
      .ok (.rejected .waitingForPlayers "At least one ready player is needed" true, room)
    else
      let left := if removePlayerIds.isEmpty then room else changed { room with players := remainingPlayers } ctx.clock
      if left.players = [] then .ok (.rejected .waitingForPlayers "Waiting for at least one player" true, left)
      else (left.startRound ctx ctx.now).map fun started => (.accepted, started)

def presenterAction (action : PartyPresenterAction) : Except String (PartyActionResult × PartyRoom) :=
  let unavailable : PartyActionResult :=
    if room.players = [] then .rejected .waitingForPlayers "Waiting for at least one player" true
    else .rejected .actionUnavailable "That action is not available now" true
  match action with
  | .start removePlayerIds => if room.phase = .lobby then room.start ctx removePlayerIds else .ok (unavailable, room)
  | .next =>
    if room.phase = .reveal then (room.startRound ctx ctx.now).map fun started => (.accepted, started) else .ok (unavailable, room)
  | .replay =>
    if room.phase = .finished then ((room.resetPartyForRematch ctx).startRound ctx ctx.now).map fun started => (.accepted, started)
    else .ok (unavailable, room)
  | .lobby =>
    if room.phase = .finished then
      let reset := room.resetPartyForRematch ctx
      .ok (.accepted, changed { reset with players := reset.players.map (·.setReady false), phase := .lobby } ctx.clock)
    else .ok (unavailable, room)
  | .pause =>
    match room.round with
    | some round =>
      if room.phase = .reveal ∧ round.nextRoundAt.isSome then
        .ok (.accepted, changed { room with round := some { round with nextRoundAt := none } } ctx.clock)
      else .ok (unavailable, room)
    | none => .ok (unavailable, room)
  | .resume =>
    match room.round with
    | some round =>
      if room.phase = .reveal ∧ round.nextRoundAt = none then
        .ok (.accepted, changed { room with round := some { round with nextRoundAt := some (ctx.now + revealCooldownMs) } } ctx.clock)
      else .ok (unavailable, room)
    | none => .ok (unavailable, room)

/-- An action that is accepted is remembered, and one that is remembered is answered again. -/
def presented (actionId : Nat) (action : PartyPresenterAction) :
    Except String (PartyActionResult × PartyRoom) :=
  if actionId ∈ room.processedActions then .ok (.accepted, room)
  else (room.presenterAction ctx action).map fun (result, after) =>
    (result, if result = .accepted then after.rememberAction actionId else after)

def applyPresenterAction (presenterToken : Secret) (actionId : Nat) (action : PartyPresenterAction) :
    Except String (PartyActionResult × PartyRoom) :=
  if presenterToken ≠ room.presenterHash then .ok (.unavailable "Room unavailable", room)
  else do
    let advanced ← room.advance ctx ctx.now
    let (result, after) ← advanced.presented ctx actionId action
    let viewed ← after.advance ctx ctx.clock
    return (result, viewed)

/-! ### The players -/

def leave (playerId : Nat) : PartyRoom :=
  let handed := room.transferHost playerId ctx.now
  if room.phase = .lobby then changed { handed with players := handed.players.filter (·.id ≠ playerId) } ctx.clock
  else
    let gone := handed.updatePlayer playerId fun player =>
      { player with leftAt := some ctx.now, locked := true, automatic := true, lockedAt := player.lockedAt.or (some ctx.now) }
    changed (if gone.activePlayers = [] then { gone with phase := .finished, expiresAt := min gone.expiresAt (ctx.now + finishedGraceMs) }
      else if gone.phase = .answer ∧ gone.activePlayers.all (·.locked) then gone.lockAll ctx.now ctx.clock
      else gone) ctx.clock

def answersLocked : PartyActionResult := .rejected .answersLocked "Answers are locked" false

def clueRefusal (round : RoundState) (kind : PartyClueKind) : Option PartyActionResult :=
  if room.phase ≠ .answer then some (.rejected .cluesUnavailable "Clues are not available now" true)
  else if room.wordFor = none then some (.unavailable "Word unavailable")
  else if kind = .repeat_ ∧ round.repeatUsed then some (.rejected .repeatAlreadyUsed "The word is already being repeated" false)
  else if kind = .definition ∧ round.definitionUsed then some (.rejected .definitionAlreadyUsed "The definition has already been played" false)
  else if kind = .sentence ∧ room.sentenceCluesRemaining = 0 then some (.rejected .sentenceCluesExhausted "No sentence clues remain" false)
  else none

def roundAction (round : RoundState) (player : PlayerState) (action : PartyPlayerAction) :
    PartyActionResult × PartyRoom :=
  match action with
  | .draft _ draft draftRevision =>
    if room.phase ≠ .answer ∨ player.locked ∨ round.answerLocksAt ≤ ctx.now then (answersLocked, room)
    else if player.draftRevision < draftRevision then
      (.accepted, changed (room.updatePlayer player.id fun row =>
        { row with draft := String.ofList (sliceUtf16 64 draft.toList), draftRevision }) ctx.clock)
    else (.accepted, room)
  | .lock _ =>
    if room.phase ≠ .answer ∨ round.answerLocksAt ≤ ctx.now then (answersLocked, room)
    else
      let locked := changed (room.updatePlayer player.id fun row =>
        { row with locked := true, automatic := false, lockedAt := some ctx.now }) ctx.clock
      (.accepted, if locked.activePlayers.all (·.locked) then locked.lockAll ctx.now ctx.clock else locked)
  | .integrity _ hiddenMs =>
    if (room.phase = .answer ∨ room.phase = .locked) ∧ 1000 ≤ hiddenMs ∧ round.roundId ∉ player.integrityRoundIds then
      (.accepted, changed (room.updatePlayer player.id fun row =>
        { row with integrityRoundIds := row.integrityRoundIds ++ [round.roundId] }) ctx.clock)
    else (.accepted, room)
  | .clue _ kind =>
    match room.clueRefusal round kind with
    | some refused => (refused, room)
    | none =>
      (.accepted, changed { room with
        round := some { round with
          repeatUsed := round.repeatUsed || kind == .repeat_, definitionUsed := round.definitionUsed || kind == .definition }
        sentenceCluesRemaining := if kind = .sentence then room.sentenceCluesRemaining - 1 else room.sentenceCluesRemaining } ctx.clock)
  | _ => (.accepted, room)

def PartyPlayerAction.roundId : PartyPlayerAction → Option (Nat × Nat)
  | .draft roundId _ _ | .lock roundId | .integrity roundId _ | .clue roundId _ => some roundId
  | .leave | .rename _ | .readiness _ => none

def playerAction (player : PlayerState) (action : PartyPlayerAction) : PartyActionResult × PartyRoom :=
  match action with
  | .leave => (.accepted, room.leave ctx player.id)
  | .rename name =>
    if room.phase ≠ .lobby then (.rejected .actionUnavailable "Names only change in the lobby" false, room)
    else if room.activePlayers.any fun other =>
        other.id != player.id && ctx.runtime.toLocaleLowerCase other.name == ctx.runtime.toLocaleLowerCase name then
      (.rejected .actionUnavailable "That name is already here" false, room)
    else (.accepted, changed (room.updatePlayer player.id fun row => { row with name }.setReady false) ctx.clock)
  | .readiness ready =>
    if room.phase ≠ .lobby then (.rejected .actionUnavailable "Readiness can only change in the lobby" false, room)
    else if player.ready = ready then (.accepted, room)
    else (.accepted, changed (room.updatePlayer player.id (·.setReady ready)) ctx.clock)
  | action =>
    match room.round with
    | some round =>
      if PartyPlayerAction.roundId action = some round.roundId then room.roundAction ctx round player action
      else (.rejected .roundEnded "That word has ended" false, room)
    | none => (.rejected .roundEnded "That word has ended" false, room)

def played (playerId actionId : Nat) (action : PartyPlayerAction) : PartyActionResult × PartyRoom :=
  if actionId ∈ room.processedActions then (.accepted, room)
  else
    let seen := room.updatePlayer playerId fun row => { row with lastSeenAt := ctx.now }
    match seen.player playerId with
    | some player =>
      if player.leftAt.isSome then (.unavailable "Your session has ended", room)
      else
        let (result, after) := seen.playerAction ctx player action
        (result, if result = .accepted then after.rememberAction actionId else after)
    | none => (.unavailable "Room unavailable", room)

/-- The room once it has been shown; a failure shows nothing. -/
def viewed : PartyActionResult → Except String PartyRoom
  | .unavailable _ => .ok room
  | .rejected .. | .accepted => room.advance ctx ctx.clock

def applyPlayerAction (playerId : Nat) (playerToken : Secret) (actionId : Nat)
    (action : PartyPlayerAction) : Except String (PartyActionResult × PartyRoom) :=
  if !(room.player playerId).any (·.tokenHash == playerToken) then .ok (.unavailable "Room unavailable", room)
  else do
    let advanced ← room.advance ctx ctx.now
    let (result, after) := advanced.played ctx playerId actionId action
    let viewed ← after.viewed ctx result
    return (result, viewed)

/-! ### Reading -/

def attended (playerId : Option Nat) (presenterToken : Option Secret) : PartyRoom :=
  match playerId with
  | none => room
  | some id =>
    if presenterToken = some room.presenterHash ∧ room.hostPlayerId = none then changed { room with hostPlayerId := some id } ctx.clock
    else room

/-- Who reads is there. -/
def touched (playerId : Option Nat) : PartyRoom :=
  match playerId with
  | none => room
  | some id => room.updatePlayer id fun row => { row with lastSeenAt := touchMultiplayerPresence row.lastSeenAt ctx.clock false }

def readPartySnapshot (playerId : Option Nat) (credential : Secret) (presenterToken : Option Secret) :
    Except String PartyRoom :=
  let authentic := match playerId with
    | none => credential == room.presenterHash
    | some id => (room.player id).any fun player => player.leftAt.isNone && player.tokenHash == credential
  if !authentic then .ok room
  else do
    let advanced ← (room.touched ctx playerId).advance ctx ctx.clock
    (advanced.attended ctx playerId presenterToken).advance ctx ctx.clock

end PartyRoom

/-! ### Requests -/

inductive Request where
  | join (ctx : GameContext) (input : PartyRoom.JoinInput)
  | read (ctx : GameContext) (playerId : Option Nat) (credential : Secret) (presenterToken : Option Secret)
  | present (ctx : GameContext) (presenterToken : Secret) (actionId : Nat) (action : PartyPresenterAction)
  | play (ctx : GameContext) (playerId : Nat) (playerToken : Secret) (actionId : Nat) (action : PartyPlayerAction)

def Request.handle (room : PartyRoom) : Request → Except String PartyRoom
  | .join ctx input => .ok (room.joinPartyRoom ctx input).2
  | .read ctx playerId credential presenterToken => room.readPartySnapshot ctx playerId credential presenterToken
  | .present ctx presenterToken actionId action => (room.applyPresenterAction ctx presenterToken actionId action).map (·.2)
  | .play ctx playerId playerToken actionId action => (room.applyPlayerAction ctx playerId playerToken actionId action).map (·.2)

end MilkAndHenny.SpellingParty

import MilkAndHenny.Liars.Phases

/-! The redacted view of a room that one viewer receives: the security boundary. A
viewer without a seat is the presenter, who holds the host token. -/

namespace MilkAndHenny.Liars
open Library

inductive LiarsMark where
  | moved | pointed | saved | attacked

structure LiarsPlayerSummary where
  id : Nat
  name : String
  alive : Bool
  connected : Bool
  ready : Bool
  host : Bool
  left : Bool
  role : Option LiarsRole
  deathRound : Option Nat
  deathCause : Option LiarsDeathCause
  marks : List LiarsMark
  savedCount : Nat
  votes : Option Nat

structure LiarsClueSnapshot where
  currentPlayerId : Option Nat
  order : List Nat
  doneIds : List Nat
  round : Nat
  advancesAt : Int
  eachTurn : Bool
  finishedBy : List Nat

structure GraveyardTally where
  playerId : Nat
  name : String
  votes : Nat

structure LiarsGraveyardSnapshot where
  armed : Bool
  armsWhenDeadReaches : Nat
  deadCount : Nat
  tally : List GraveyardTally
  yourVote : Option Nat
  deadlocked : Bool
  abstaining : Nat
  board : List LiarsGraveyardNote
  boardMax : Nat

structure LiarsRoleWish where
  role : LiarsRole
  active : Bool
  count : Nat
  yours : Bool
  available : Bool

structure LiarsAward where
  label : String
  name : String
  detail : String

structure LiarsEndingSnapshot where
  winner : LiarsSide
  headline : String
  roles : List (Nat × String × LiarsRole)
  log : List LiarsHistoryEntry
  awards : List LiarsAward
  word : Option String

structure AllyTarget where
  playerId : Nat
  targetId : Option Nat
  locked : Bool

structure LiarsPrivateState where
  playerId : Nat
  ready : Bool
  startRequestId : Option Nat
  role : LiarsRole
  alive : Bool
  allyIds : List Nat
  allyTargets : List AllyTarget
  callerPlayerId : Option Nat
  word : Option String
  wordCategory : Option String
  wordBoard : List String
  nightTarget : Option Nat
  nightLocked : Bool
  vote : Option Nat
  voteLocked : Bool
  readyToVote : Bool
  pointedAt : Option Nat
  report : Option LiarsNightReport
  knowledge : List LiarsKnowledgeEntry
  knowledgeSealed : Bool
  targetableIds : List Nat
  lastWordsOpen : Bool
  lastWordsClosesAt : Option Int
  finalGuessOpen : Bool

structure LiarsSnapshot where
  roomId : Nat
  managed : Bool
  mode : LiarsMode
  roomMode : LiarsRoomMode
  phase : LiarsPhase
  revision : Nat
  sequence : Nat
  serverNow : Int
  expiresAt : Int
  gameNumber : Nat
  round : Nat
  phaseStartedAt : Int
  phaseEndsAt : Int
  nightOpensAt : Option Int
  reportAt : Option Int
  lineup : LiarsLineup
  toggles : LiarsToggles
  players : List LiarsPlayerSummary
  actedCount : Nat
  livingCount : Nat
  readyToVoteCount : Nat
  history : List LiarsHistoryEntry
  dawn : Option LiarsDawn
  clue : Option LiarsClueSnapshot
  graveyard : Option LiarsGraveyardSnapshot
  roleWishes : List LiarsRoleWish
  ending : Option LiarsEndingSnapshot
  narratorPlayerId : Option Nat
  hostPlayerId : Option Nat
  hostDisconnectedSince : Option Int
  joinLocked : Bool
  player : Option LiarsPrivateState

namespace LiarsRoom

variable (room : LiarsRoom) (viewer : PlayerState)

def marksFor (player : PlayerState) : List LiarsMark :=
  let ofDawn : List LiarsMark := match room.dawn with
    | none => []
    | some dawn =>
      let death := dawn.deaths.find? (·.playerId == player.id)
      (if dawn.movementSeen.contains player.name then [.moved] else []) ++
      (if death.any (·.revived) then [.saved] else []) ++
      -- only worth marking on somebody still standing
      (if death.any (!·.revived) && player.alive then [.attacked] else [])
  ofDawn ++ if room.players.any fun other => other.alive && other.pointedAt == some player.id then [.pointed] else []

def maySeeRole (viewer : Option PlayerState) (subject : PlayerState) : Bool :=
  if room.phase = .ending then true
  else
    match viewer with
    | none => false
    | some viewer =>
      if viewer.id = subject.id then true
      else if !viewer.alive && room.toggles.liveGodView then true
      else if !subject.alive then
        if subject.deathCause = some .ejected then room.toggles.revealEjectedRole else room.toggles.revealRoleOnDeath
      -- teammates; blind imposters are strangers to each other by design
      else if !viewer.isMafia || !subject.isMafia then false
      else if room.mode = .imposter then
        !room.toggles.blindImposters && !(viewer.role == some .imposter && subject.role == some .mole)
      else true

def summaryOf (viewer : Option PlayerState) (now : Int) (player : PlayerState) : LiarsPlayerSummary where
  id := player.id
  name := player.name
  alive := player.alive
  connected := player.connected now
  ready := player.ready
  host := room.hostPlayerId == some player.id
  left := player.leftAt.isSome
  role := if room.maySeeRole viewer player then player.role else none
  deathRound := player.deathRound
  deathCause := player.deathCause
  marks := room.marksFor player
  savedCount := player.savedCount
  votes :=
    if room.phase = .verdict ∨ room.phase = .ending then some (room.living.countP (·.vote == some player.id)) else none

def headline (mode : LiarsMode) : LiarsSide → String
  | .third => "The jester wins. Alone."
  | .town => if mode = .mafia then "The town wins." else "The crew wins."
  | .mafia => if mode = .mafia then "The mafia win." else "The imposters win."

def endingOf : Option LiarsEndingSnapshot :=
  if room.phase ≠ .ending then none
  else room.winner.map fun winner =>
    let ejected := room.players.find? (·.deathCause == some .ejected)
    let doctor := room.players.find? (·.role == some .doctor)
    { winner
      headline := headline room.mode winner
      roles := room.players.map fun player => (player.id, player.name, player.played)
      log := room.history
      awards :=
        (ejected.map fun player => { label := "voted out", name := player.name, detail := "the town's first answer" }).toList ++
        (doctor.map fun player =>
          { label := "the doctor", name := player.name, detail := toString (room.players.map (·.savedCount)).sum ++ " saved" }).toList
      word := if room.mode = .imposter then room.word else none }

def graveyardStanding : Bool × Nat :=
  let votes := room.dead.map (·.graveyardVote)
  (decide (1 < (tiedIds votes).length), votes.countP (·.isNone))

def clueOf : Option LiarsClueSnapshot :=
  if room.phase ≠ .clue then none
  else some {
    currentPlayerId := room.clueOrder[room.clueIndex]?
    order := room.clueOrder
    doneIds := room.clueOrder.take room.clueIndex
    round := room.clueRound
    advancesAt := room.phaseEndsAt
    eachTurn := room.roomMode == .remote
    finishedBy := room.clueFinishedBy }

/-- The living never receive the graveyard's deliberations, only its ballot at verdict. -/
def graveyardOf : LiarsGraveyardSnapshot :=
  let armsAt := liarsGraveyardArmsAt room.players.length
  { armed := armsAt ≤ room.dead.length
    armsWhenDeadReaches := armsAt
    deadCount := room.dead.length
    tally := (room.living.map fun candidate =>
      { playerId := candidate.id, name := candidate.name
        votes := room.dead.countP (·.graveyardVote == some candidate.id) : GraveyardTally }).filter (0 < ·.votes)
    yourVote := viewer.graveyardVote
    deadlocked := room.graveyardStanding.1
    abstaining := room.graveyardStanding.2
    board := room.graveyardBoard
    boardMax := liarsGraveyardBoardMax }

def roleWishesOf (viewer : Option PlayerState) : List LiarsRoleWish :=
  if room.phase ≠ .lobby then []
  else (liarsRolesForMode room.mode).map fun definition =>
    { role := definition.id
      active := decide (0 < room.lineup.count definition.id)
      count := room.players.countP (·.roleWishes.contains definition.id)
      yours := viewer.any (·.roleWishes.contains definition.id)
      available := decide (definition.minPlayers ≤ room.players.length) }

def allyIds : List Nat :=
  if viewer.isMafia then
    (room.players.filter fun other => other.id != viewer.id && room.maySeeRole (some viewer) other && other.isMafia).map (·.id)
  else []

def lastWordsOpen : Bool :=
  room.toggles.lastWords && !viewer.alive && viewer.lastWords.isNone && viewer.deathRound == some room.round

def privateOf (now : Int) : LiarsPrivateState where
  playerId := viewer.id
  ready := viewer.ready
  startRequestId := viewer.startRequestId
  role := viewer.played
  alive := viewer.alive
  allyIds := room.allyIds viewer
  allyTargets := (room.allyIds viewer).filterMap fun allyId => (room.player allyId).map fun ally =>
    { playerId := allyId, targetId := ally.nightTarget, locked := ally.nightLocked }
  callerPlayerId := if viewer.isMafia && room.mode == .mafia then room.mafiaCaller.map (·.id) else none
  word := viewer.word
  wordCategory := if room.mode = .imposter then room.wordCategory else none
  wordBoard := if room.mode = .imposter ∧ room.toggles.wordBoard then room.wordBoard else []
  nightTarget := viewer.nightTarget
  nightLocked := viewer.nightLocked
  vote := viewer.vote
  voteLocked := viewer.voteLocked
  readyToVote := viewer.readyToVote
  pointedAt := viewer.pointedAt
  -- held back until the report moment, so the card cannot be read early
  report := if room.phase = .night ∧ room.reportAt.any (now < ·) then none else viewer.report
  -- sealed once your last words close
  knowledge := if viewer.alive || room.lastWordsOpen viewer then viewer.knowledge else []
  knowledgeSealed := !viewer.alive && !room.lastWordsOpen viewer && !viewer.knowledge.isEmpty
  targetableIds :=
    if room.phase = .night ∧ viewer.alive then
      viewer.role.elim [] fun role => liarsTargetableIds {
        mode := room.mode, role, actorId := viewer.id, living := room.living.map fun player => (player.id, player.played)
        previousTargetId := viewer.previousNightTarget, doctorRepeatTarget := room.toggles.doctorRepeatTarget }
    else []
  lastWordsOpen := room.lastWordsOpen viewer
  lastWordsClosesAt := if viewer.alive then none else room.dawn.map (·.settleAt + lastWordsMs)
  finalGuessOpen := room.phase == .finalGuess && !viewer.alive && viewer.isMafia

def snapshot (room : LiarsRoom) (viewerId : Option Nat) (now : Int) : LiarsSnapshot :=
  let viewer := viewerId.bind room.player
  { roomId := room.roomId
    managed := room.managed
    mode := room.mode
    roomMode := room.roomMode
    phase := room.phase
    revision := room.revision
    sequence := room.sequence
    serverNow := now
    expiresAt := room.expiresAt
    gameNumber := room.gameNumber
    round := room.round
    phaseStartedAt := room.phaseStartedAt
    phaseEndsAt := room.phaseEndsAt
    nightOpensAt := room.nightOpensAt
    reportAt := room.reportAt
    lineup := room.lineup
    toggles := room.toggles
    players := room.players.map (room.summaryOf viewer now)
    actedCount := room.living.countP (·.nightLocked)
    livingCount := room.living.length
    readyToVoteCount := room.living.countP (·.readyToVote)
    history := room.history
    dawn := room.dawn
    clue := room.clueOf
    graveyard := (viewer.filter (!·.alive)).map room.graveyardOf
    roleWishes := room.roleWishesOf viewer
    ending := room.endingOf
    narratorPlayerId := room.narratorPlayerId
    hostPlayerId := room.hostPlayerId
    hostDisconnectedSince := room.hostDisconnectedSince
    joinLocked := room.joinLocked
    player := viewer.map (room.privateOf · now) }

end LiarsRoom

end MilkAndHenny.Liars

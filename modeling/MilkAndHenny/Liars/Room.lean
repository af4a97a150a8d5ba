import MilkAndHenny.Liars.Rules

/-! A room of Liars and what its reducer reads from outside. Times are milliseconds;
ids are numbers; the texts of the content bank are a parameter. -/

namespace MilkAndHenny.Liars
open Library

inductive LiarsPhase where
  | lobby | deal | night | dawn | clue | deliberation | vote | verdict | finalGuess | ending
deriving DecidableEq

inductive NarrationOutcome where
  | killed | saved | nobodyDied | bodyguard | ejectedGuilty | ejectedInnocent | tie | left
deriving DecidableEq

structure NarrationSlots where
  victim : Option String := none
  ejected : Option String := none
  substitute : Option String := none

structure LiarsWordPair where
  word : String
  decoy : String
  category : String

structure Content where
  narration : NarrationOutcome → List (NarrationSlots → String)
  wordPairs : List LiarsWordPair
  toLocaleLowerCase : String → String
  localeCompare : String → String → Bool

/-- What one command reads besides the room. `random` answers by the revision it is asked
at, the use that is made of it and the bound. -/
structure GameContext where
  now : Int
  /-- The clock that the expiry of the room and the readiness requests read. -/
  clock : Int
  newId : Nat
  random : Nat → Nat → Nat → Nat
  token : Nat → Nat → Nat
  content : Content

def GameContext.pick (ctx : GameContext) (revision use bound : Nat) : Nat := ctx.random revision use bound % bound

/-- What a credential is the hash of; different secrets have different hashes. -/
inductive Secret where
  | token (value : Nat)
  | left (newId player : Nat)
  | removed (newId player : Nat)
deriving DecidableEq

inductive Glyph where
  | moved | still
deriving DecidableEq

structure LiarsNightReport where
  id : Nat
  subjectName : Option String
  line : String
  glyph : Option Glyph
deriving DecidableEq

structure LiarsKnowledgeEntry where
  round : Nat
  subjectName : Option String
  text : String
deriving DecidableEq

structure PlayerState where
  id : Nat
  name : String
  tokenHash : Secret
  joinedAt : Int
  lastSeenAt : Int
  ready : Bool := true
  startRequestId : Option Nat := none
  startRequestedAt : Option Int := none
  role : Option LiarsRole := none
  previousRole : Option LiarsRole := none
  alive : Bool := true
  deathRound : Option Nat := none
  deathCause : Option LiarsDeathCause := none
  savedCount : Nat := 0
  nightTarget : Option Nat := none
  nightLocked : Bool := false
  previousNightTarget : Option Nat := none
  vote : Option Nat := none
  voteLocked : Bool := false
  readyToVote : Bool := false
  pointedAt : Option Nat := none
  roleWishes : List LiarsRole := []
  graveyardVote : Option Nat := none
  report : Option LiarsNightReport := none
  knowledge : List LiarsKnowledgeEntry := []
  lastWords : Option String := none
  vigilanteUsed : Bool := false
  guiltPending : Bool := false
  word : Option String := none
  clueDone : Bool := false
  leftAt : Option Int := none
deriving DecidableEq

inductive HistoryPhase where
  | night | day

structure LiarsHistoryEntry where
  round : Nat
  phase : HistoryPhase
  text : String

structure LiarsDeathEvent where
  playerId : Nat
  name : String
  revived : Bool
  substituteName : Option String
  cause : LiarsDeathCause
  role : Option LiarsRole := none
deriving DecidableEq

structure LastWords where
  name : String
  text : String
deriving DecidableEq

structure LiarsDawn where
  narration : String
  nameLandsAt : Int
  holdUntil : Int
  reviveAt : Option Int
  settleAt : Int
  deaths : List LiarsDeathEvent
  movementSeen : List String
  witnessCount : Option Nat
  lastWords : List LastWords
deriving DecidableEq

structure LiarsGraveyardNote where
  id : Nat
  name : String
  text : String

/-- `LiarsGameState`. -/
structure LiarsRoom where
  roomId : Nat
  managed : Bool
  mode : LiarsMode
  roomMode : LiarsRoomMode
  phase : LiarsPhase
  revision : Nat
  sequence : Nat
  hostHash : Secret
  joinHash : Secret
  expiresAt : Int
  gameNumber : Nat
  round : Nat
  phaseStartedAt : Int
  phaseEndsAt : Int
  nightOpensAt : Option Int
  reportAt : Option Int
  pausedAt : Option Int
  lastActiveAt : Int
  lineup : LiarsLineup
  lineupCustom : Bool
  toggles : LiarsToggles
  timings : LiarsTimings
  players : List PlayerState
  hostPlayerId : Option Nat
  joinLocked : Bool
  hostDisconnectedSince : Option Int
  history : List LiarsHistoryEntry
  dawn : Option LiarsDawn
  clueOrder : List Nat
  clueIndex : Nat
  clueRound : Nat
  clueFinishedBy : List Nat
  processedActions : List Nat
  ejectedJesterId : Option Nat
  crewEjections : Nat
  imposterEjections : Nat
  finalGuessCorrect : Option Bool
  word : Option String
  decoyWord : Option String
  wordCategory : Option String
  wordBoard : List String
  recentWords : List String
  recentNarrationIds : List (NarrationOutcome × Nat)
  winner : Option LiarsSide
  lastEjectedName : Option String
  graveyardBoard : List LiarsGraveyardNote
  revoteUsed : Bool
  runoffIds : List Nat
  narratorPlayerId : Option Nat

/-- `.slice(-limit)`. -/
def takeLast {α : Type} (limit : Nat) (items : List α) : List α := items.drop (items.length - limit)

def liarsNarration (ctx : GameContext) (revision : Nat) (outcome : NarrationOutcome) (slots : NarrationSlots)
    (recentIds : List (NarrationOutcome × Nat)) : Option ((NarrationOutcome × Nat) × String) :=
  let templates := (ctx.content.narration outcome).mapIdx fun index template => ((outcome, index), template slots)
  let fresh := templates.filter fun line => !recentIds.contains line.1
  let pool := if fresh.isEmpty then templates else fresh
  pool[ctx.pick revision 4 pool.length]?

def duskMs : Int := 5000
def reportLeadMs : Int := 10000
def lastWordsMs : Int := 30000
def movementBeatMs : Int := 1500
def deathHoldMs : Int := 3000
def deathLandsMs : Int := 3000
def connectedWindowMs : Int := 25000
def hostClaimAfterMs : Int := 60000
def presenceTouchIntervalMs : Int := 10000
def startNudgeCooldownMs : Int := 10000
def finishedGraceMs : Int := 1200000
def lobbyTtlMs : Int := 1800000
def emptyLobbyTtlMs : Int := 300000
def presenceLeaseMs : Int := 900000

def multiplayerLobbyExpiresAt (now : Int) (playerCount : Nat) : Int :=
  now + if playerCount = 0 then emptyLobbyTtlMs else lobbyTtlMs

def PlayerState.connected (player : PlayerState) (now : Int) : Bool := now - player.lastSeenAt ≤ connectedWindowMs

def PlayerState.played (player : PlayerState) : LiarsRole := player.role.getD .villager

def PlayerState.isMafia (player : PlayerState) : Bool := player.role.any (liarsRoleSide · == .mafia)

def PlayerState.setReady (player : PlayerState) (ready : Bool) : PlayerState :=
  { player with ready, startRequestId := none, startRequestedAt := none }

namespace LiarsRoom
variable {room : LiarsRoom} {ctx : GameContext} {change : PlayerState → PlayerState} {id : Nat}

def player (room : LiarsRoom) (id : Nat) : Option PlayerState := room.players.find? (·.id == id)

theorem player_id {found : PlayerState} (seated : room.player id = some found) : found.id = id := by
  have named := find?_some (show room.players.find? (·.id == id) = some found from seated)
  simpa using named

def living (room : LiarsRoom) : List PlayerState := room.players.filter (·.alive)

def dead (room : LiarsRoom) : List PlayerState := room.players.filter (!·.alive)

def presentPlayerCount (room : LiarsRoom) : Nat := room.players.countP (·.leftAt.isNone)

def updatePlayer (room : LiarsRoom) (id : Nat) (change : PlayerState → PlayerState) : LiarsRoom :=
  { room with players := updateFirst room.players (·.id == id) change }

theorem player_updatePlayer_same
    (kept : ∀ row, (change row).id = row.id) : (room.updatePlayer id change).player id = (room.player id).map change :=
  find?_updateFirst_same fun row found => by rwa [kept]

theorem player_updatePlayer_other {id other : Nat} (kept : ∀ row, (change row).id = row.id) (different : other ≠ id) :
    (room.updatePlayer other change).player id = room.player id :=
  find?_updateFirst_other fun row found => by
    have named : row.id ≠ id := fun same => different ((eq_of_beq found).symm.trans same)
    exact ⟨by simpa using named, by simpa [kept] using named⟩

/-- `applyRoomExpiry`. An expired room is never revived. -/
def applyExpiry (ctx : GameContext) (room : LiarsRoom) : LiarsRoom :=
  { room with
    expiresAt :=
      if room.expiresAt ≤ ctx.clock then room.expiresAt
      else
        match room.phase with
        | .ending => max room.expiresAt (ctx.clock + presenceLeaseMs)
        | .lobby => multiplayerLobbyExpiresAt ctx.clock room.presentPlayerCount
        | _ => if 0 < room.presentPlayerCount then ctx.clock + presenceLeaseMs else ctx.clock }

def changed (ctx : GameContext) (room : LiarsRoom) : LiarsRoom :=
  applyExpiry ctx { room with revision := room.revision + 1, sequence := room.sequence + 1 }

@[simp] theorem changed_phase : (changed ctx room).phase = room.phase := rfl

def successor (room : LiarsRoom) (leavingId : Nat) (now : Int) : Option PlayerState :=
  let eligible := orderBy (fun a b => a.joinedAt < b.joinedAt || (a.joinedAt == b.joinedAt && a.id ≤ b.id))
    (room.players.filter fun player => player.id != leavingId && player.alive && player.leftAt.isNone)
  (eligible.find? (·.connected now)).or eligible.head?

def transferHost (room : LiarsRoom) (leavingId : Nat) (now : Int) : LiarsRoom :=
  let next := room.successor leavingId now
  { room with
    hostPlayerId := next.map (·.id)
    hostDisconnectedSince := if next.any (!·.connected now) then some now else none
    narratorPlayerId := if room.narratorPlayerId = some leavingId then next.map (·.id) else room.narratorPlayerId }

def transferNarrator (room : LiarsRoom) (leavingId : Nat) (now : Int) : LiarsRoom :=
  if room.narratorPlayerId ≠ some leavingId then room
  else { room with narratorPlayerId := (room.successor leavingId now).map (·.id) }

def narrate (ctx : GameContext) (room : LiarsRoom) (outcome : NarrationOutcome) (slots : NarrationSlots) :
    String × LiarsRoom :=
  match liarsNarration ctx room.revision outcome slots room.recentNarrationIds with
  | some line => (line.2, { room with recentNarrationIds := takeLast 14 (room.recentNarrationIds ++ [line.1]) })
  | none => ("", room)

theorem narrate_keeps {room told : LiarsRoom} {outcome : NarrationOutcome} {slots : NarrationSlots}
    {line : String} (tells : room.narrate ctx outcome slots = (line, told)) :
    ∃ ids, told = { room with recentNarrationIds := ids } := by
  unfold narrate at tells
  split at tells <;> cases tells
  · exact ⟨_, rfl⟩
  · exact ⟨room.recentNarrationIds, rfl⟩

def note (room : LiarsRoom) (phase : HistoryPhase) (text : String) : LiarsRoom :=
  { room with history := room.history ++ [{ round := room.round, phase, text }] }

def remember (round : Nat) (subjectName : Option String) (text : String) (player : PlayerState) : PlayerState :=
  { player with knowledge := player.knowledge ++ [{ round, subjectName, text }] }

def dawnDuration (room : LiarsRoom) : Int :=
  match room.dawn with
  | none => room.timings.dawn
  | some dawn =>
    -- a revive or a substitution needs its second beat; each announced movement gets its own
    let revive := if dawn.deaths.any fun death => death.revived || death.substituteName.isSome then 3000 else 0
    room.timings.dawn + revive + dawn.movementSeen.length * movementBeatMs

def phaseDuration (room : LiarsRoom) : LiarsPhase → Int
  | .deal => if room.toggles.firstGame then room.timings.deal + 20000 else room.timings.deal
  | .night => duskMs + liarsNightDuration room.timings room.living.length
  | .dawn => room.dawnDuration
  | .clue =>
    if room.roomMode = .remote then room.timings.clueTurn
    else min (12 * 60000) (max 3 room.living.length * room.timings.clueTurn)
  | .deliberation => room.timings.deliberation
  | .vote => room.timings.vote
  | .verdict => room.timings.verdict
  | .finalGuess => room.timings.finalGuess
  | .lobby | .ending => 0

def enterPhase (ctx : GameContext) (room : LiarsRoom) (phase : LiarsPhase) (now : Int) : LiarsRoom :=
  let phaseEndsAt := now + room.phaseDuration phase
  changed ctx { room with
    phase
    phaseStartedAt := now
    phaseEndsAt
    nightOpensAt := if phase = .night then some (now + duskMs) else none
    reportAt := if phase = .night then some (phaseEndsAt - reportLeadMs) else none }

@[simp] theorem enterPhase_phase {phase : LiarsPhase} {now : Int} :
    (room.enterPhase ctx phase now).phase = phase := rfl

def kill (room : LiarsRoom) (id : Nat) (cause : LiarsDeathCause) : LiarsRoom :=
  room.updatePlayer id fun player =>
    { player with
      alive := false, deathRound := some room.round, deathCause := some cause
      lastWords := if room.toggles.lastWords then none else player.lastWords }

theorem living_kill {cause : LiarsDeathCause} {target : PlayerState} (found : room.player id = some target)
    (alive : target.alive) : (room.kill id cause).living = room.living.eraseP (·.id == id) :=
  filter_updateFirst (p := fun player : PlayerState => player.alive) (fun _ => rfl) found alive

def finish (ctx : GameContext) (room : LiarsRoom) (winner : LiarsSide) (now : Int) : LiarsRoom :=
  changed ctx { room with
    winner := some winner, phase := .ending, phaseStartedAt := now, phaseEndsAt := now
    expiresAt := min room.expiresAt (now + finishedGraceMs) }

def detectWinner (room : LiarsRoom) (alive : List PlayerState) (ejectedJesterId : Option Nat) : Option LiarsSide :=
  liarsDetectWinner {
    mode := room.mode, jesterEndsGame := room.toggles.jesterEndsGame, alive := alive.map (·.played)
    ejectedJesterId, crewEjections := room.crewEjections, imposterEjections := room.imposterEjections
    finalGuessCorrect := room.finalGuessCorrect }

/-- `checkWinner`, which answers whether the game is over. -/
def checkWinner (ctx : GameContext) (room : LiarsRoom) (now : Int) (ejectedJesterId : Option Nat) : Option LiarsRoom :=
  (room.detectWinner room.living ejectedJesterId).map (room.finish ctx · now)

end LiarsRoom

end MilkAndHenny.Liars

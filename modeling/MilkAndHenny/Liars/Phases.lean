import MilkAndHenny.Liars.Room

/-! The phase machine of a room: the night with its report cards and its attacks, the
clue rounds, the vote with its runoff, the verdict and the last guess, and the lazy
advance that moves the phases because time has passed. -/

namespace MilkAndHenny.Liars
open Library

namespace LiarsRoom

variable (ctx : GameContext) (room : LiarsRoom)

def visitorsOf (targetId : Nat) : List PlayerState :=
  room.living.filter fun player =>
    player.id != targetId && player.nightTarget == some targetId && liarsActionMoves player.played player.nightTarget

def mafiaCaller : Option PlayerState :=
  let mafia := room.living.filter (·.isMafia)
  (mafia.find? (·.role == some .godfather)).or (orderBy (fun a b => a.joinedAt ≤ b.joinedAt) mafia).head?

def joinNames : List String → String
  | [] => " and undefined"
  | [name] => name
  | names => String.intercalate ", " names.dropLast ++ " and " ++ names.getLastD ""

def reportLine (player : PlayerState) (target : Option PlayerState) : String × Option Glyph × Bool :=
  match target with
  | none => ("you stayed in", none, false)
  | some target =>
    match player.played with
    | .detective => (if liarsReadsGuilty target.played then "guilty" else "innocent", none, true)
    | .lookout =>
      let names := (room.visitorsOf target.id).map (·.name)
      (if names.isEmpty then "nobody came to their door" else joinNames names ++ " came to their door", none, true)
    | .villager | .jester =>
      let moved := liarsActionMoves target.played target.nightTarget
      (if moved then "they went out" else "their door didn't open", some (if moved then .moved else .still), true)
    | role => (((liarsRoles role).reportVerb).getD "you held", none, false)

def withReport (player : PlayerState) : PlayerState :=
  let target := player.nightTarget.bind room.player
  let subjectName := target.map (·.name)
  let (line, glyph, remembered) := room.reportLine player target
  let player := if remembered then remember room.round subjectName line player else player
  { player with report := some { id := ctx.token room.revision player.id, subjectName, line, glyph } }

/-- The card every living player gets before the night ends, even when nothing happened. -/
def writeNightReports : LiarsRoom :=
  let unwritten (player : PlayerState) : Bool := player.alive && player.report.isNone
  if room.players.any unwritten then
    changed ctx { room with players := update room.players unwritten (room.withReport ctx) }
  else room

def roleHolder (role : LiarsRole) : Option PlayerState :=
  room.living.find? (·.role == some role)

/-- What the acting roles do tonight, after the jammer. -/
structure NightPlan where
  blockedId : Option Nat
  savedId : Option Nat
  bodyguardId : Option Nat
  guardedId : Option Nat
  escortId : Option Nat
  escortTargetId : Option Nat
  vigilanteId : Option Nat
  /-- Target, attacker and whether the mafia sent them. -/
  attacks : List (Nat × PlayerState × Bool)

def nightPlan : NightPlan :=
  let blockedId := (room.roleHolder .jammer).bind (·.nightTarget)
  let unblocked (player : Option PlayerState) : Option PlayerState := player.filter fun player => some player.id != blockedId
  let vigilante := room.roleHolder .vigilante
  let byMafia := (unblocked room.mafiaCaller).bind fun caller => caller.nightTarget.map fun target => (target, caller, true)
  let byVigilante := ((unblocked vigilante).filter (!·.vigilanteUsed)).bind fun player =>
    player.nightTarget.map fun target => (target, player, false)
  { blockedId
    savedId := (unblocked (room.roleHolder .doctor)).bind (·.nightTarget)
    bodyguardId := (room.roleHolder .bodyguard).map (·.id)
    guardedId := (unblocked (room.roleHolder .bodyguard)).bind (·.nightTarget)
    escortId := (room.roleHolder .escort).map (·.id)
    escortTargetId := (unblocked (room.roleHolder .escort)).bind (·.nightTarget)
    vigilanteId := vigilante.map (·.id)
    attacks := byMafia.toList ++ byVigilante.toList }

/-- What the attacks have done so far. -/
structure NightOutcome where
  room : LiarsRoom
  deaths : List LiarsDeathEvent := []
  /-- Last words that the server writes, published with the dawn that caused them. -/
  testimony : List LastWords := []

def deathOf (target : PlayerState) : LiarsDeathEvent where
  playerId := target.id
  name := target.name
  revived := false
  substituteName := none
  cause := .killed
  role := if room.toggles.revealRoleOnDeath then target.role else none

def isAlive (id : Option Nat) : Bool := (id.bind room.player).any (·.alive)

/-- The escort dies with the one they stayed with, and the name they saw is published. -/
def escortDies (plan : NightPlan) (attacker target : PlayerState) (outcome : NightOutcome) : NightOutcome :=
  match plan.escortId.bind outcome.room.player with
  | none => outcome
  | some escort =>
    if plan.escortTargetId ≠ some target.id ∨ !escort.alive then outcome
    else
      let text := "I was there. It was " ++ attacker.name ++ "."
      { room := (outcome.room.kill escort.id .killed).updatePlayer escort.id fun row => { row with lastWords := some text }
        testimony := outcome.testimony ++ [{ name := escort.name, text }]
        deaths := outcome.deaths ++
          [{ playerId := escort.id, name := escort.name, revived := false, substituteName := none, cause := .killed
             role := if outcome.room.toggles.revealRoleOnDeath then some .escort else none }] }

def strike (plan : NightPlan) (target attacker : PlayerState) (fromMafia : Bool) (outcome : NightOutcome) : NightOutcome :=
  if plan.savedId = some target.id then
    { outcome with
      room := outcome.room.updatePlayer target.id fun row => { row with savedCount := row.savedCount + 1 }
      deaths := outcome.deaths ++ [{ playerId := target.id, name := target.name, revived := true, substituteName := none
                                     cause := .killed }] }
  else
    match (plan.bodyguardId.bind outcome.room.player).filter fun guard => plan.guardedId == some target.id && guard.alive with
    | some guard =>
      { outcome with
        room := outcome.room.kill guard.id .bodyguard
        deaths := outcome.deaths ++ [{ playerId := target.id, name := target.name, revived := false
                                       substituteName := some guard.name, cause := .killed }] }
    | none =>
      let killed := { outcome with
        room := outcome.room.kill target.id .killed
        deaths := outcome.deaths ++ [outcome.room.deathOf target] }
      let after := escortDies plan attacker target killed
      match plan.vigilanteId with
      | some vigilante =>
        if !fromMafia && liarsRoleSide target.played != .mafia then
          { after with room := after.room.updatePlayer vigilante fun row => { row with guiltPending := true } }
        else after
      | none => after

def escortSees (plan : NightPlan) (target attacker : PlayerState) (room : LiarsRoom) : LiarsRoom :=
  match plan.escortId with
  | none => room
  | some escort =>
    if plan.escortTargetId ≠ some target.id then room
    else
      let line := "it was " ++ attacker.name
      room.updatePlayer escort fun row =>
        { remember room.round (some target.name) line row with
          report := some { id := ctx.token room.revision escort, subjectName := some target.name, line, glyph := none } }

def resolveAttack (ctx : GameContext) (plan : NightPlan) (outcome : NightOutcome) (attack : Nat × PlayerState × Bool) :
    NightOutcome :=
  let (targetId, attacker, fromMafia) := attack
  match (outcome.room.player targetId).filter (·.alive) with
  | none => outcome
  | some target =>
    -- the escort's own house is empty
    if plan.escortId = some target.id ∧ plan.escortTargetId.isSome then outcome
    else strike plan target attacker fromMafia { outcome with room := escortSees ctx plan target attacker outcome.room }

def resolveGuilt (outcome : NightOutcome) : NightOutcome :=
  match outcome.room.living.find? (·.guiltPending) with
  | none => outcome
  | some guilty =>
    if guilty.vigilanteUsed && guilty.deathRound.isNone && decide (1 < outcome.room.round) then
      { outcome with
        room := outcome.room.kill guilty.id .guilt
        deaths := outcome.deaths ++ [{ playerId := guilty.id, name := guilty.name, revived := false, substituteName := none
                                       cause := .guilt }] }
    else outcome

/-- Two or more watchers on the same person make their movement public, never their stillness. -/
def corroboratedMovement : List String :=
  let watched := tallyVotes (room.living.map fun player => if (liarsRoles player.played).moves then none else player.nightTarget)
  watched.filterMap fun (targetId, count) =>
    if count < 2 then none
    else ((room.player targetId).filter fun target => liarsActionMoves target.played target.nightTarget).map (·.name)

/-- What the town is told in the morning. -/
def dawnNarration (deaths : List LiarsDeathEvent) : String × LiarsRoom :=
  match deaths.find? (·.substituteName.isSome) with
  | some substituted => room.narrate ctx .bodyguard { victim := some substituted.name, substitute := substituted.substituteName }
  | none =>
    match deaths.find? (·.revived) with
    | some revived =>
      if room.toggles.announceAttackTarget then room.narrate ctx .saved { victim := some revived.name }
      else ("Somebody was attacked last night, and somebody saved them.", room)
    | none =>
      match deaths.find? fun death => !death.revived && death.substituteName.isNone with
      | some victim => room.narrate ctx .killed { victim := some victim.name }
      | none => room.narrate ctx .nobodyDied {}

/-- The jammer's victim, if there is one, learns of it. -/
def interrupt (blockedId : Option Nat) : LiarsRoom :=
  { room with
    players := update room.players (fun player => player.alive && some player.id == blockedId)
      (remember room.round none "your night was interrupted") }

/-- The attacks of the night, before the town is told. -/
def nightOutcome : NightOutcome :=
  let room := room.writeNightReports ctx
  let plan := room.nightPlan
  let interrupted := room.interrupt plan.blockedId
  let shot := if plan.attacks.any (!·.2.2) then
      plan.vigilanteId.elim interrupted fun id => interrupted.updatePlayer id fun row => { row with vigilanteUsed := true }
    else interrupted
  resolveGuilt (plan.attacks.foldl (resolveAttack ctx plan) { room := shot })

def dawnOf (outcome : NightOutcome) (narration : String) (now : Int) : LiarsDawn :=
  let deaths := outcome.deaths
  let victim := deaths.find? fun death => !death.revived && death.substituteName.isNone
  let nameLandsAt := now + deathLandsMs
  { narration, nameLandsAt, holdUntil := nameLandsAt + deathHoldMs
    reviveAt := if deaths.any (·.revived) then some (nameLandsAt + deathHoldMs) else none
    settleAt := nameLandsAt + deathHoldMs + 4000
    -- with the announcement off, the table sees that somebody was attacked but not who
    deaths := if outcome.room.toggles.announceAttackTarget then deaths else deaths.filter (!·.revived)
    movementSeen := outcome.room.corroboratedMovement
    witnessCount := victim.map fun death => (outcome.room.visitorsOf death.playerId).length
    lastWords := outcome.testimony }

/-- The town is told, and the history remembers. -/
def tellDawn (ctx : GameContext) (outcome : NightOutcome) (now : Int) : LiarsRoom :=
  let (narration, told) := outcome.room.dawnNarration ctx outcome.deaths
  outcome.room.corroboratedMovement.foldl (fun room name => room.note .night (name ++ " was seen moving."))
    ({ told with dawn := some (dawnOf outcome narration now) }.note .night narration)

def resolveNight (now : Int) : LiarsRoom :=
  let entered := (tellDawn ctx (room.nightOutcome ctx) now).enterPhase ctx .dawn now
  (entered.checkWinner ctx now none).getD entered

def clearRoundState : LiarsRoom :=
  { room with
    players := room.players.map fun player =>
      { player with
        previousNightTarget := player.nightTarget, nightTarget := none, nightLocked := false, vote := none
        voteLocked := false, readyToVote := false, pointedAt := none, report := none, clueDone := false }
    revoteUsed := false
    runoffIds := [] }

def startClueRound (now : Int) : LiarsRoom :=
  let order := shuffle (ctx.pick room.revision 0) (room.living.map (·.id))
  let ordered : LiarsRoom :=
    { room with clueOrder := order, clueIndex := 0, clueRound := room.clueRound + 1, clueFinishedBy := [] }
  ordered.enterPhase ctx .clue now

def startRound (now : Int) : LiarsRoom :=
  let next : LiarsRoom := { room with round := room.round + 1 }
  let cleared : LiarsRoom := { next.clearRoundState with dawn := none }
  match room.mode with
  | .imposter => cleared.startClueRound ctx now
  | .mafia => cleared.enterPhase ctx .night now

def clueRoundsBeforeVote : Nat := if room.players.length ≤ 7 ∧ room.round = 1 then 2 else 1

def advanceClue (now : Int) : LiarsRoom :=
  -- at a table the window belongs to the whole circle, so running out ends the round
  let clueIndex := if room.roomMode ≠ .remote ∧ room.phaseEndsAt ≤ now then room.clueOrder.length else room.clueIndex + 1
  let moved := { room with clueIndex }
  if clueIndex < room.clueOrder.length then
    changed ctx { moved with phaseStartedAt := now, phaseEndsAt := now + room.timings.clueTurn }
  else if room.clueRound < room.clueRoundsBeforeVote then moved.startClueRound ctx now
  else moved.enterPhase ctx .deliberation now

def graveyardBallot : Option Nat :=
  if !room.toggles.graveyardVote || room.toggles.liveGodView then none
  else if room.dead.length < liarsGraveyardArmsAt room.players.length then none
  else liarsPlurality (room.dead.map (·.graveyardVote))

/-- Everybody level at the top. -/
def tiedIds (votes : List (Option Nat)) : List Nat :=
  let tally : List (Nat × Nat) := tallyVotes votes
  let best := (tally.map Prod.snd).foldl max 0
  if best = 0 then [] else (tally.filter (·.2 == best)).map Prod.fst

def ballots : List (Option Nat) :=
  room.living.map (·.vote) ++ room.graveyardBallot.toList.map some

def votedOut : Option PlayerState := (liarsPlurality room.ballots).bind room.player

def resolveTie (now : Int) : LiarsRoom :=
  let tied := tiedIds room.ballots
  if !room.revoteUsed && decide (1 < tied.length) then
    let names := tied.filterMap fun id => (room.player id).map (·.name)
    let cleared : LiarsRoom := { room with
      revoteUsed := true, runoffIds := tied
      players := room.players.map fun player => { player with vote := none, voteLocked := false } }
    (cleared.note .day ("Level between " ++ String.intercalate " and " names ++ ". Again.")).enterPhase ctx .vote now
  else
    let (line, told) := room.narrate ctx .tie {}
    (told.note .day line).enterPhase ctx .verdict now

def countEjection (role : LiarsRole) : LiarsRoom :=
  if room.mode = .imposter then
    if liarsRoleSide role = .mafia then { room with imposterEjections := room.imposterEjections + 1 }
    else { room with crewEjections := room.crewEjections + 1 }
  else room

def eject (ejected : PlayerState) (now : Int) : LiarsRoom :=
  let role := ejected.played
  let killed := room.kill ejected.id .ejected
  let named : LiarsRoom :=
    { killed with ejectedJesterId := if role = .jester then some ejected.id else killed.ejectedJesterId }
  let (line, told) := (named.countEjection role).narrate ctx
    (if liarsRoleSide role = .mafia then .ejectedGuilty else .ejectedInnocent) { ejected := some ejected.name }
  (told.note .day line).enterPhase ctx .verdict now

/-- Whom the vote ejected, until the next vote. -/
def declare (ejected : Option PlayerState) : LiarsRoom :=
  { room with lastEjectedName := ejected.map (·.name), ejectedJesterId := none }

def resolveVote (now : Int) : LiarsRoom :=
  match room.votedOut with
  | none => (room.declare none).resolveTie ctx now
  | some ejected => (room.declare ejected).eject ctx ejected now

def lastImposterJustEjected : Bool :=
  !room.living.any (·.isMafia) && decide (0 < room.imposterEjections) && room.finalGuessCorrect.isNone

def afterVerdict (now : Int) : LiarsRoom :=
  match room.checkWinner ctx now room.ejectedJesterId with
  | some finished => finished
  | none =>
    if room.mode = .imposter ∧ room.lastImposterJustEjected then
      { room with finalGuessCorrect := none }.enterPhase ctx .finalGuess now
    else room.startRound ctx now

def resolveFinalGuess (now : Int) (guess : Option String) : LiarsRoom :=
  let normalise (text : Option String) : String := ctx.content.toLocaleLowerCase (text.getD "").trimAscii.toString
  let attempt := normalise guess
  let correct := attempt ≠ "" ∧ attempt = normalise room.word
  let word := room.word.getD "null"
  let text := if correct then "They named it. The word was " ++ word ++ "."
    else "They could not name it. The word was " ++ word ++ "."
  let noted := { room with finalGuessCorrect := some correct }.note .day text
  (noted.checkWinner ctx now none).getD (noted.finish ctx .town now)

def shiftClocks (shift : Int) : LiarsRoom :=
  { room with
    phaseStartedAt := room.phaseStartedAt + shift
    phaseEndsAt := room.phaseEndsAt + shift
    nightOpensAt := room.nightOpensAt.map (· + shift)
    reportAt := room.reportAt.map (· + shift) }

def LiarsDawn.shift (dawn : LiarsDawn) (shift : Int) : LiarsDawn :=
  { dawn with
    nameLandsAt := dawn.nameLandsAt + shift, holdUntil := dawn.holdUntil + shift, settleAt := dawn.settleAt + shift
    reviveAt := dawn.reviveAt.map (· + shift) }

/-- The transitions that time has made due, each at the moment it fell due. -/
def advancePhases (ctx : GameContext) (now : Int) : Nat → LiarsRoom → LiarsRoom
  | 0, room => room
  | guard + 1, room =>
    if room.winner.isSome then room
    else if now < room.phaseEndsAt then
      if room.phase = .night ∧ room.reportAt.any (· ≤ now) then room.writeNightReports ctx else room
    else
      match room.phase with
      | .deal => advancePhases ctx now guard (room.startRound ctx room.phaseEndsAt)
      | .night => advancePhases ctx now guard (room.resolveNight ctx room.phaseEndsAt)
      | .clue => advancePhases ctx now guard (room.advanceClue ctx room.phaseEndsAt)
      | .dawn => advancePhases ctx now guard (room.enterPhase ctx .deliberation room.phaseEndsAt)
      | .deliberation => advancePhases ctx now guard (room.enterPhase ctx .vote room.phaseEndsAt)
      | .vote => advancePhases ctx now guard (room.resolveVote ctx room.phaseEndsAt)
      | .verdict => advancePhases ctx now guard (room.afterVerdict ctx room.phaseEndsAt)
      | .finalGuess => advancePhases ctx now guard (room.resolveFinalGuess ctx room.phaseEndsAt none)
      | .lobby | .ending => room

def advance (now idleFor : Int) : LiarsRoom :=
  if room.phase = .lobby ∨ room.phase = .ending ∨ room.pausedAt.isSome then room
  else
    let dormant := max 0 (idleFor - connectedWindowMs)
    let woken := if 0 < dormant then
        changed ctx { room.shiftClocks dormant with dawn := room.dawn.map (LiarsDawn.shift · dormant) }
      else room
    advancePhases ctx now 8 woken

end LiarsRoom

end MilkAndHenny.Liars

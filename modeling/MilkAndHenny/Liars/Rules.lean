import MilkAndHenny.Library.Reorder
import MilkAndHenny.Library.Table

/-! The rules of Liars that the engine enforces and the players are shown: roles and
lineups, the deal, who may be targeted, and who has won. -/

namespace MilkAndHenny.Liars
open Library

inductive LiarsMode where
  | mafia | imposter
deriving DecidableEq

def LiarsMode.name : LiarsMode → String
  | .mafia => "mafia"
  | .imposter => "imposter"

inductive LiarsRoomMode where
  | sameRoom | remote
deriving DecidableEq

inductive LiarsRole where
  | mafia | godfather | jammer | doctor | detective | lookout | bodyguard | escort | vigilante | villager | jester
  | crew | understudy | imposter | mole
deriving DecidableEq

inductive LiarsSide where
  | town | mafia | third
deriving DecidableEq

inductive LiarsDeathCause where
  | killed | ejected | guilt | bodyguard | left
deriving DecidableEq

structure LiarsRoleDefinition where
  id : LiarsRole
  mode : LiarsMode
  name : String
  side : LiarsSide
  /-- `none` for roles that do not act. -/
  actionLabel : Option String
  reportVerb : Option String := none
  minPlayers : Nat
  maxCopies : Nat := 1
  special : Bool
  selfTarget : Bool := false
  /-- Does acting mean leaving the house? -/
  moves : Bool := true

/-- `LIARS_ROLES`. -/
def liarsRoles : LiarsRole → LiarsRoleDefinition
  | .mafia =>
    { id := .mafia, mode := .mafia, name := "mafia", side := .mafia, actionLabel := some "who dies tonight",
      reportVerb := some "it's done", minPlayers := 5, maxCopies := 3, special := false }
  | .godfather =>
    { id := .godfather, mode := .mafia, name := "godfather", side := .mafia, actionLabel := some "who dies tonight",
      reportVerb := some "it's done", minPlayers := 7, special := true }
  | .jammer =>
    { id := .jammer, mode := .mafia, name := "jammer", side := .mafia, actionLabel := some "who to block",
      reportVerb := some "blocked", minPlayers := 12, special := true }
  | .doctor =>
    { id := .doctor, mode := .mafia, name := "doctor", side := .town, actionLabel := some "who to save",
      reportVerb := some "you're watching over them", minPlayers := 5, special := true, selfTarget := true }
  | .detective =>
    { id := .detective, mode := .mafia, name := "detective", side := .town, actionLabel := some "who to investigate",
      minPlayers := 5, special := true }
  | .lookout =>
    { id := .lookout, mode := .mafia, name := "lookout", side := .town, actionLabel := some "whose door to watch",
      minPlayers := 7, special := true }
  | .bodyguard =>
    { id := .bodyguard, mode := .mafia, name := "bodyguard", side := .town, actionLabel := some "who to guard",
      reportVerb := some "you're at their door", minPlayers := 9, special := true }
  | .escort =>
    { id := .escort, mode := .mafia, name := "escort", side := .town, actionLabel := some "who to spend the night with",
      minPlayers := 11, special := true }
  | .vigilante =>
    { id := .vigilante, mode := .mafia, name := "vigilante", side := .town, actionLabel := some "who to shoot",
      reportVerb := some "the shot is loaded", minPlayers := 14, special := true }
  | .villager =>
    { id := .villager, mode := .mafia, name := "villager", side := .town, actionLabel := some "whose door to watch",
      minPlayers := 5, maxCopies := 16, special := false, moves := false }
  | .jester =>
    { id := .jester, mode := .mafia, name := "jester", side := .third, actionLabel := some "whose door to watch",
      minPlayers := 9, special := true, moves := false }
  | .crew =>
    { id := .crew, mode := .imposter, name := "crew", side := .town, actionLabel := none,
      minPlayers := 4, maxCopies := 16, special := false, moves := false }
  | .understudy =>
    { id := .understudy, mode := .imposter, name := "understudy", side := .town, actionLabel := none,
      minPlayers := 7, special := true, moves := false }
  | .imposter =>
    { id := .imposter, mode := .imposter, name := "imposter", side := .mafia, actionLabel := none,
      minPlayers := 4, maxCopies := 3, special := true, moves := false }
  | .mole =>
    { id := .mole, mode := .imposter, name := "mole", side := .mafia, actionLabel := none,
      minPlayers := 12, special := true, moves := false }

def roleList : List LiarsRoleDefinition :=
  [LiarsRole.mafia, .godfather, .jammer, .doctor, .detective, .lookout, .bodyguard, .escort, .vigilante, .villager, .jester,
    .crew, .understudy, .imposter, .mole].map liarsRoles

variable (mode : LiarsMode) (lineup : LiarsLineup)

def liarsRolesForMode : List LiarsRoleDefinition := roleList.filter (·.mode == mode)

def liarsRoleSide (role : LiarsRole) : LiarsSide := (liarsRoles role).side

/-- Apparent alignment, which is what the detective reads. -/
def liarsReadsGuilty (role : LiarsRole) : Bool := (liarsRoles role).side == .mafia && role != .godfather

def liarsActionMoves (role : LiarsRole) (targetId : Option Nat) : Bool := targetId.isSome && (liarsRoles role).moves

structure PlayerLimits where
  min : Nat
  max : Nat

def liarsPlayerLimits : LiarsMode → PlayerLimits
  | .mafia => ⟨5, 16⟩
  | .imposter => ⟨4, 16⟩

def liarsSpecialHardCap : Nat := 9

def liarsMinVillagers : Nat := 2

structure LiarsToggles where
  announceAttackTarget : Bool := true
  revealRoleOnDeath : Bool := true
  revealEjectedRole : Bool := true
  jesterEndsGame : Bool := true
  doctorRepeatTarget : Bool := false
  coldOpen : Bool := false
  blindImposters : Bool := false
  wordBoard : Bool := true
  simultaneousClues : Bool := false
  cameraTorch : Bool := false
  lastWords : Bool := true
  graveyardVote : Bool := true
  liveGodView : Bool := false
  firstGame : Bool := false

structure LiarsTimings where
  deal : Int
  night : Int
  dawn : Int
  deliberation : Int
  vote : Int
  verdict : Int
  finalGuess : Int
  clueTurn : Int

def liarsDefaultTimings (roomMode : LiarsRoomMode) : LiarsTimings where
  deal := 25000
  night := 45000
  dawn := 15000
  -- a laggy call eats the first twenty seconds of any conversation
  deliberation := if roomMode = .remote then 90000 else 60000
  vote := 30000
  verdict := 15000
  finalGuess := 30000
  clueTurn := 60000

def liarsNightDuration (timings : LiarsTimings) (playerCount : Nat) : Int :=
  timings.night + max 0 ((playerCount : Int) - 10) * 15000

/-- Role to how many copies are dealt, in the order the host wrote them. -/
structure LiarsLineup where
  roles : List (LiarsRole × Nat)

namespace LiarsLineup

def entries : List (LiarsRole × Nat) := lineup.roles.filter (0 < ·.2)

def total : Nat := (lineup.entries.map Prod.snd).sum

def count (role : LiarsRole) : Nat := (lineup.roles.lookup role).getD 0

def sideCount (side : LiarsSide) : Nat :=
  ((lineup.entries.filter fun entry => liarsRoleSide entry.1 == side).map Prod.snd).sum

end LiarsLineup

def lineupOf (entries : List (LiarsRole × Nat)) : LiarsLineup := ⟨entries.filter (0 < ·.2)⟩

def mafiaLineups : Nat → List (LiarsRole × Nat)
  | 5 => [(.mafia, 1), (.doctor, 1), (.detective, 1), (.villager, 2)]
  | 6 => [(.mafia, 1), (.doctor, 1), (.detective, 1), (.villager, 3)]
  | 7 => [(.godfather, 1), (.mafia, 1), (.doctor, 1), (.detective, 1), (.villager, 3)]
  | 8 => [(.godfather, 1), (.mafia, 1), (.doctor, 1), (.detective, 1), (.lookout, 1), (.villager, 3)]
  | 9 => [(.godfather, 1), (.mafia, 1), (.doctor, 1), (.detective, 1), (.lookout, 1), (.villager, 3), (.jester, 1)]
  | 10 => [(.godfather, 1), (.mafia, 2), (.doctor, 1), (.detective, 1), (.lookout, 1), (.villager, 3), (.jester, 1)]
  | 11 => [(.godfather, 1), (.mafia, 2), (.doctor, 1), (.detective, 1), (.lookout, 1), (.bodyguard, 1), (.villager, 3),
      (.jester, 1)]
  | 12 => [(.godfather, 1), (.mafia, 1), (.jammer, 1), (.doctor, 1), (.detective, 1), (.lookout, 1), (.bodyguard, 1),
      (.villager, 4), (.jester, 1)]
  | 13 => [(.godfather, 1), (.mafia, 2), (.jammer, 1), (.doctor, 1), (.detective, 1), (.lookout, 1), (.bodyguard, 1),
      (.villager, 4), (.jester, 1)]
  | 14 => [(.godfather, 1), (.mafia, 2), (.jammer, 1), (.doctor, 1), (.detective, 1), (.lookout, 1), (.bodyguard, 1),
      (.escort, 1), (.villager, 4), (.jester, 1)]
  | 15 => [(.godfather, 1), (.mafia, 2), (.jammer, 1), (.doctor, 1), (.detective, 1), (.lookout, 1), (.bodyguard, 1),
      (.escort, 1), (.villager, 5), (.jester, 1)]
  | 16 => [(.godfather, 1), (.mafia, 2), (.jammer, 1), (.doctor, 1), (.detective, 1), (.lookout, 1), (.bodyguard, 1),
      (.escort, 1), (.vigilante, 1), (.villager, 5), (.jester, 1)]
  | _ => []

def liarsImposterRange (playerCount : Nat) : PlayerLimits :=
  ⟨1, if 13 ≤ playerCount then 3 else if 8 ≤ playerCount then 2 else 1⟩

def liarsDefaultLineup (playerCount : Nat) : LiarsLineup :=
  match mode with
  | .imposter =>
    let range := liarsImposterRange playerCount
    let imposters := min range.max (max range.min (if 16 ≤ playerCount then 3 else if 10 ≤ playerCount then 2 else 1))
    let understudy := if 7 ≤ playerCount then 1 else 0
    let mole := if 12 ≤ playerCount then 1 else 0
    lineupOf [(.imposter, imposters), (.mole, mole), (.understudy, understudy),
      (.crew, playerCount - imposters - understudy - mole)]
  | .mafia =>
    let limits := liarsPlayerLimits .mafia
    ⟨mafiaLineups (min limits.max (max limits.min playerCount))⟩

def liarsFirstGameLineup (playerCount : Nat) : LiarsLineup :=
  match mode with
  | .imposter =>
    let imposters := if 10 ≤ playerCount then 2 else 1
    lineupOf [(.imposter, imposters), (.crew, playerCount - imposters)]
  | .mafia =>
    let mafia := if 10 ≤ playerCount then 3 else if 7 ≤ playerCount then 2 else 1
    lineupOf [(.mafia, mafia), (.doctor, 1), (.detective, 1), (.villager, playerCount - mafia - 2)]

inductive LiarsLineupProblem where
  | wrongMode (role : LiarsRole) (mode : LiarsMode)
  | tooManyCopies (role : LiarsRole)
  | countMismatch (total playerCount : Nat)
  | noMafia (mode : LiarsMode)
  | mafiaParity (mode : LiarsMode) (mafia town : Nat)
  | notEnoughVillagers
  | roleNeedsPlayers (role : LiarsRole)
  | tooManySpecials (specials : Nat)

def sidesCopy : LiarsMode → String × String
  | .mafia => ("town", "mafia")
  | .imposter => ("crew", "imposters")

def LiarsLineupProblem.message : LiarsLineupProblem → String
  | .wrongMode role mode => "the " ++ (liarsRoles role).name ++ " does not play in " ++ mode.name
  | .tooManyCopies role => "only " ++ toString (liarsRoles role).maxCopies ++ " " ++ (liarsRoles role).name ++ " allowed"
  | .countMismatch total playerCount => toString total ++ " roles for " ++ toString playerCount ++ " players"
  | .noMafia mode => if mode = .mafia then "nobody is mafia" else "nobody is the imposter"
  | .mafiaParity mode mafia town =>
    toString mafia ++ " " ++ (sidesCopy mode).2 ++ " and " ++ toString town ++ " " ++ (sidesCopy mode).1 ++
      " — they would start at parity"
  | .notEnoughVillagers => "no plain villagers left — watch stops working"
  | .roleNeedsPlayers role => "the " ++ (liarsRoles role).name ++ " needs " ++ toString (liarsRoles role).minPlayers ++ " players"
  | .tooManySpecials specials => toString specials ++ " special roles — " ++ toString liarsSpecialHardCap ++ " is the ceiling"

def liarsValidateLineup (playerCount : Nat) : Option LiarsLineupProblem :=
  let entries := lineup.entries
  let copies := entries.findSome? fun (role, count) =>
    if (liarsRoles role).mode ≠ mode then some (LiarsLineupProblem.wrongMode role mode)
    else if (liarsRoles role).maxCopies < count then some (.tooManyCopies role)
    else none
  let town := lineup.sideCount .town
  let mafia := lineup.sideCount .mafia
  let specials := entries.countP fun entry => (liarsRoles entry.1).special
  copies.or <|
    if lineup.total ≠ playerCount then some (.countMismatch lineup.total playerCount)
    else if mafia = 0 then some (.noMafia mode)
    else if town ≤ mafia then some (.mafiaParity mode mafia town)
    else if mode = .mafia ∧ lineup.count .villager < liarsMinVillagers then some .notEnoughVillagers
    else
      match entries.find? fun entry => playerCount < (liarsRoles entry.1).minPlayers with
      | some entry => some (.roleNeedsPlayers entry.1)
      | none => if liarsSpecialHardCap < specials then some (.tooManySpecials specials) else none

def shuffle {α : Type} (pick : Nat → Nat) (items : List α) : List α := Library.shuffle (fun _ => pick) items

/-- A player who drew their last role again swaps with a partner whom the swap also suits. -/
def repairDeal (previous : Nat → Option LiarsRole) (playerIds : List Nat) (dealt : Nat → Option LiarsRole) (playerId : Nat) :
    Nat → Option LiarsRole :=
  if dealt playerId ≠ previous playerId then dealt
  else
    match playerIds.find? fun other =>
        other != playerId && dealt other != dealt playerId && dealt other != previous playerId &&
          dealt playerId != previous other with
    | none => dealt
    | some partner => fun id =>
      if id = playerId then dealt partner else if id = partner then dealt playerId else dealt id

def liarsDealRoles (playerIds : List Nat) (previousRoles : Option (Nat → Option LiarsRole))
    (pick : Nat → Nat) : Nat → Option LiarsRole :=
  let pool := shuffle pick (lineup.entries.flatMap fun (role, count) => List.replicate count role)
  let dealt (id : Nat) : Option LiarsRole := (playerIds.zip pool).lookup id
  match previousRoles with
  | none => dealt
  | some previous => playerIds.foldl (repairDeal previous playerIds) dealt

structure LiarsWinInput where
  mode : LiarsMode
  jesterEndsGame : Bool
  alive : List LiarsRole
  ejectedJesterId : Option Nat
  crewEjections : Nat
  imposterEjections : Nat
  finalGuessCorrect : Option Bool

def liarsDetectWinner (input : LiarsWinInput) : Option LiarsSide :=
  let mafiaAlive := input.alive.countP (liarsRoleSide · == .mafia)
  let townAlive := input.alive.countP (liarsRoleSide · == .town)
  if input.mode = .mafia ∧ input.ejectedJesterId.isSome ∧ input.jesterEndsGame then some .third
  else
    match input.mode with
    | .imposter =>
      if input.finalGuessCorrect = some true then some .mafia
      -- the last imposter ejected gets the guess
      else if mafiaAlive = 0 then if input.finalGuessCorrect.isNone then none else some .town
      else if 2 ≤ input.crewEjections then some .mafia
      else if input.alive.length ≤ 3 then some .mafia
      else none
    | .mafia =>
      if mafiaAlive = 0 then some .town
      else if townAlive ≤ mafiaAlive then some .mafia
      else none

structure LiarsTargetInput where
  mode : LiarsMode
  role : LiarsRole
  actorId : Nat
  living : List (Nat × LiarsRole)
  previousTargetId : Option Nat
  doctorRepeatTarget : Bool

def liarsTargetableIds (input : LiarsTargetInput) : List Nat :=
  let definition := liarsRoles input.role
  if definition.actionLabel.isNone then []
  else
    (input.living.filter fun (playerId, role) =>
      -- before the self case, because the doctor's repeat rule includes themselves
      if input.role == .doctor && !input.doctorRepeatTarget && input.previousTargetId == some playerId then false
      else if playerId = input.actorId then definition.selfTarget
      else !(input.mode == .mafia && definition.side == .mafia && liarsRoleSide role == .mafia)).map Prod.fst

def liarsGraveyardBoardMax : Nat := 8

def liarsGraveyardNoteLength : Nat := 90

/-- Once half the table is gone, the graveyard's plurality becomes one extra ballot. -/
def liarsGraveyardArmsAt (playerCount : Nat) : Nat := (playerCount + 1) / 2

def addVote (target : Nat) : List (Nat × Nat) → List (Nat × Nat)
  | [] => [(target, 1)]
  | (id, count) :: tally => if id = target then (id, count + 1) :: tally else (id, count) :: addVote target tally

def tallyVotes (votes : List (Option Nat)) : List (Nat × Nat) :=
  votes.foldl (fun tally vote => vote.elim tally (addVote · tally)) []

structure Standing where
  leader : Option Nat := none
  best : Nat := 0
  tied : Bool := false

def Standing.next (standing : Standing) (entry : Nat × Nat) : Standing :=
  if standing.best < entry.2 then { leader := some entry.1, best := entry.2, tied := false }
  else if entry.2 = standing.best then { standing with tied := true }
  else standing

def liarsPlurality (votes : List (Option Nat)) : Option Nat :=
  let standing := (tallyVotes votes).foldl Standing.next {}
  if standing.tied then none else standing.leader

end MilkAndHenny.Liars

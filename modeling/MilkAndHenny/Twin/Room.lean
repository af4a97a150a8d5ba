import MilkAndHenny.Multiplayer.Rooms
import MilkAndHenny.Twin.Deck
import MilkAndHenny.Twin.Rules

/-! A room of Twin and its clock: cards are dealt, a heat is run and closed, and its payout
moves cards between the hands and the middle until a hand is empty. -/

namespace MilkAndHenny.Twin
open Library Multiplayer

/-- What one command reads besides the room. What is drawn at random is drawn by the revision it is asked at. -/
structure GameContext where
  now : Int
  /-- The clock that everything but a player's action reads. -/
  clock : Int
  newId : Nat
  /-- `pick(2 ** 31)`. -/
  seed : UInt32
  randomUUID : Nat → Nat
  credential : Nat → Nat
  toLowerCase : String → String
  toLocaleLowerCase : String → String
  trim : String → String

inductive TwinPhase where
  | lobby | dealing | heat | settle | finished | closed
deriving DecidableEq

structure CardState where
  cardId : CardId
  seed : Nat
deriving DecidableEq

structure TwinDealtCard where
  cardId : CardId
  symbolIds : List String
  seed : Nat
deriving DecidableEq

/-- What a player has of this heat only. -/
structure ThisHeat where
  heatId : Option Nat := none
  landedMs : Option Int := none
  heatMisses : Nat := 0
  cooldownUntil : Option Int := none

/-- What a player has of this game only. -/
structure ThisGame where
  chain : Nat := 0
  longestChain : Nat := 0
  connections : Nat := 0
  misses : Nat := 0
  totalElapsedMs : Int := 0
  bestElapsedMs : Option Int := none
  /-- Where they finished, in the order that hands emptied. -/
  place : Option Nat := none

structure PlayerState extends Readiness, ThisHeat, ThisGame where
  id : Nat
  joinId : Option Nat := none
  name : String
  tokenHash : Secret
  joinedAt : Int
  /-- The top card, the one in play, first. -/
  hand : List CardState := []
  lastSeenAt : Int
  withdrawn : Bool := false

structure TwinHeatResult where
  playerId : Nat
  name : String
  elapsedMs : Option Int
  misses : Nat
  shed : Bool
  won : Bool
  connection : Option (TwinDealtCard × String)
deriving DecidableEq

structure TwinLoggedConnection where
  playerId : Nat
  name : String
  card : TwinDealtCard
  symbolId : String
  elapsedMs : Int
  won : Bool
deriving DecidableEq

structure TwinLoggedHeat where
  number : Nat
  middle : TwinDealtCard
  connections : List TwinLoggedConnection
  missedBy : List String
  burned : Bool
deriving DecidableEq

structure HeatState where
  id : Nat
  number : Nat
  /-- Frozen for the whole heat. -/
  middle : CardState
  revealAt : Int
  deadlineAt : Int
  graceEndsAt : Option Int := none
  resolvedAt : Option Int := none
  settleAt : Option Int := none
  nextHeatAt : Option Int := none
  results : List TwinHeatResult := []
  winnerPlayerId : Option Nat := none
  burned : Bool := false
deriving DecidableEq

/-- `TwinGameState`. -/
structure TwinRoom where
  roomId : Nat
  managed : Bool
  officialResultChannelId : Option Nat
  expiresAt : Int
  revision : Nat
  sequence : Nat
  phase : TwinPhase
  order : TwinOrder
  handSize : Nat
  requestedHandSize : Nat
  windowMs : Int
  graceMs : Int
  settleHoldMs : Int
  joinHash : Secret
  hostPlayerId : Option Nat
  joinLocked : Bool
  processedActions : List Nat
  players : List PlayerState
  middle : Option CardState
  heat : Option HeatState
  gameNumber : Nat
  heatCount : Nat
  nextPlace : Nat
  dealingUntil : Option Int
  seedCounter : Nat
  /-- The log of the current game, wherever the store keeps it. -/
  loggedHeats : List TwinLoggedHeat

def connectedWindowMs : Int := 25000
def hostTakeoverMs : Int := 35000

def PlayerState.connected (player : PlayerState) (now : Int) : Bool := now - player.lastSeenAt ≤ connectedWindowMs

def PlayerState.setReady (player : PlayerState) (ready : Bool) : PlayerState :=
  { player with toReadiness := setMultiplayerPlayerReady ready }

def PlayerState.stats (player : PlayerState) : TwinPlayerStats where
  playerId := player.id
  name := player.name
  cardsLeft := player.hand.length
  place := player.place
  connections := player.connections
  misses := player.misses
  longestChain := player.longestChain
  totalElapsedMs := player.totalElapsedMs
  bestElapsedMs := player.bestElapsedMs

def PlayerState.entry (player : PlayerState) (heat : HeatState) : TwinHeatEntry where
  playerId := player.id
  elapsedMs := if player.heatId = some heat.id then player.landedMs else none
  misses := if player.heatId = some heat.id then player.heatMisses else 0

def PlayerState.enter (player : PlayerState) (heatId : Nat) : PlayerState :=
  { player with toThisHeat := { heatId := some heatId } }

/-- Whose last card is shed. -/
def PlayerState.finishes (player : PlayerState) : Bool := (player.hand.drop 1).isEmpty && player.place.isNone

def PlayerState.paid (player : PlayerState) (nextPlace : Nat) : PlayerState :=
  let elapsedMs := player.landedMs.getD 0
  { player with
    connections := player.connections + 1
    chain := player.chain + 1
    longestChain := max player.longestChain (player.chain + 1)
    totalElapsedMs := player.totalElapsedMs + elapsedMs
    bestElapsedMs := some (player.bestElapsedMs.elim elapsedMs (min · elapsedMs))
    hand := player.hand.drop 1
    place := if player.finishes then some nextPlace else player.place }

structure Payout where
  players : List PlayerState
  nextPlace : Nat
  /-- Held aside, so that everybody is paid for the card they have solved. -/
  nextMiddle : CardState
  connections : List TwinLoggedConnection

def turnOver (outcome : TwinHeatOutcome) (player : PlayerState) : PlayerState :=
  let kept := if outcome.ranked.contains player.id then player else { player with chain := 0 }
  if outcome.burned ∧ 1 < kept.hand.length then { kept with hand := kept.hand.rotate 1 } else kept

def resultOf (heat : HeatState) (outcome : TwinHeatOutcome) (connections : List TwinLoggedConnection) (player : PlayerState) :
    TwinHeatResult where
  playerId := player.id
  name := player.name
  elapsedMs := (player.entry heat).elapsedMs
  misses := (player.entry heat).misses
  shed := outcome.ranked.contains player.id
  won := outcome.winnerPlayerId = some player.id
  connection := (connections.find? (·.playerId == player.id)).map fun connection => (connection.card, connection.symbolId)

def onActive (change : PlayerState → PlayerState) (players : List PlayerState) : List PlayerState :=
  players.map fun player => if player.withdrawn then player else change player

namespace TwinRoom

variable (ctx : GameContext) (room : TwinRoom)

def player (id : Nat) : Option PlayerState := room.players.find? (·.id == id)

def activePlayers : List PlayerState := room.players.filter (!·.withdrawn)

def connectedPlayers (now : Int) : List PlayerState := room.activePlayers.filter (·.connected now)

def updatePlayer (id : Nat) (change : PlayerState → PlayerState) : TwinRoom :=
  { room with players := updateFirst room.players (·.id == id) change }

def phaseKind : MultiplayerRoomPhaseKind :=
  match room.phase with
  | .lobby => .lobby
  | .finished => .results
  | .closed => .closed
  | _ => .active

def applyRoomExpiry (clock : Int) (room : TwinRoom) : TwinRoom :=
  { room with expiresAt := multiplayerRoomExpiry room.phaseKind room.activePlayers.length room.expiresAt clock }

def changed : TwinRoom :=
  applyRoomExpiry ctx.clock { room with revision := room.revision + 1, sequence := room.sequence + 1 }

/-- Who takes over: a connected player before one who is away, and the longest-joined of them. -/
def transferHost (leavingId : Nat) (now : Int) : TwinRoom :=
  if room.hostPlayerId ≠ some leavingId then room
  else
    let remaining := room.activePlayers.filter (·.id ≠ leavingId)
    let connected := remaining.filter (·.connected now)
    let ordered := orderBy (fun a b => a.joinedAt < b.joinedAt || (a.joinedAt == b.joinedAt && a.id ≤ b.id))
      (if connected.isEmpty then remaining else connected)
    { room with hostPlayerId := ordered.head?.map (·.id) }

def dealtCard (card : CardState) : Option TwinDealtCard :=
  (twinCardById room.order card.cardId).map fun definition =>
    { cardId := card.cardId, symbolIds := definition.symbolIds, seed := card.seed }

def playerStats : List TwinPlayerStats := room.players.map PlayerState.stats

def symbolOf (card middle : CardState) : Option String :=
  (twinCardById room.order card.cardId).bind fun card =>
    (twinCardById room.order middle.cardId).bind fun middle => twinMatch card middle

def expectedSymbol (player : PlayerState) : Option String :=
  ((room.heat.map (·.middle)).or room.middle).bind fun middle => player.hand.head?.bind fun top => room.symbolOf top middle

def newHeat (middle : CardState) (now : Int) : HeatState :=
  let revealAt := now + 150
  { id := ctx.randomUUID room.revision, number := room.heatCount + 1, middle, revealAt, deadlineAt := revealAt + room.windowMs }

def enterHeat (heat : HeatState) : TwinRoom :=
  changed ctx { room with
    heatCount := room.heatCount + 1, heat := some heat, phase := .heat, dealingUntil := none
    players := onActive (·.enter heat.id) room.players }

/-- Without a middle card the source throws here; a room that is dealt always has one. -/
def startHeat (now : Int) : TwinRoom :=
  room.middle.elim room fun middle => room.enterHeat ctx (room.newHeat ctx middle now)

def payOne (heat : HeatState) (winnerPlayerId : Option Nat) (payout : Payout) (playerId : Nat) : Payout :=
  match payout.players.find? (·.id == playerId) with
  | none => payout
  | some player =>
    let connection : Option TwinLoggedConnection := player.hand.head?.bind fun shed =>
      (room.dealtCard shed).bind fun card => (room.symbolOf shed heat.middle).map fun symbolId =>
        { playerId, name := player.name, card, symbolId, elapsedMs := player.landedMs.getD 0, won := winnerPlayerId = some playerId }
    { players := updateFirst payout.players (·.id == playerId) (·.paid payout.nextPlace)
      nextPlace := if player.finishes then payout.nextPlace + 1 else payout.nextPlace
      nextMiddle := if winnerPlayerId = some playerId then player.hand.head?.getD payout.nextMiddle else payout.nextMiddle
      connections := payout.connections ++ connection.toList }

/-- The payout, a beat after the heat closed. Everyone who landed it sheds their top card, and
the fastest one's card becomes the new middle. -/
def settleHeat (now : Int) : TwinRoom :=
  match room.heat.filter (·.results.isEmpty) with
  | none => room
  | some heat =>
    let outcome := twinHeatOutcome (room.activePlayers.map (·.entry heat))
    let payout := outcome.ranked.foldl (room.payOne heat outcome.winnerPlayerId)
      { players := room.players, nextPlace := room.nextPlace, nextMiddle := heat.middle, connections := [] }
    let results := (payout.players.filter (!·.withdrawn)).map (resultOf heat outcome payout.connections)
    let logged : Option TwinLoggedHeat := (room.dealtCard heat.middle).map fun middle =>
      { number := heat.number, middle, connections := payout.connections
        missedBy := (results.filter (!·.shed)).map (·.name), burned := outcome.burned }
    changed ctx { room with
      players := onActive (turnOver outcome) payout.players
      nextPlace := payout.nextPlace
      middle := some payout.nextMiddle
      heat := some { heat with
        results, winnerPlayerId := outcome.winnerPlayerId, burned := outcome.burned
        nextHeatAt := some (now + room.settleHoldMs) }
      phase := .settle
      loggedHeats := room.loggedHeats ++ logged.toList }

/-- `contenders` and `landed`. -/
def heatProgress (heat : HeatState) (now : Int) : TwinHeatProgress where
  deadlineAt := heat.deadlineAt
  graceEndsAt := heat.graceEndsAt
  contenders := (room.connectedPlayers now).countP (!·.hand.isEmpty)
  landed := room.players.countP fun player => player.heatId == some heat.id && player.landedMs.isSome

def advanceDealing (now : Int) : TwinRoom :=
  if room.phase = .dealing ∧ room.dealingUntil.any (· ≤ now) then room.startHeat ctx now else room

def liveHeat : Option HeatState := room.heat.filter fun _ => room.phase == .heat

def closeHeat (now : Int) : TwinRoom :=
  match room.liveHeat with
  | none => room
  | some heat =>
    if heat.resolvedAt = none ∧ heat.revealAt ≤ now ∧ twinHeatShouldClose (room.heatProgress heat now) now then
      changed ctx { room with heat := some { heat with resolvedAt := some now, settleAt := some (now + settleDelayMs) } }
    else room

/-- The heat is closed once it is over, and paid out a beat later. -/
def advanceHeat (now : Int) : TwinRoom :=
  let closed := room.closeHeat ctx now
  if (closed.liveHeat.bind (·.settleAt)).any (· ≤ now) then closed.settleHeat ctx now else closed

def advanceSettle (now : Int) : TwinRoom :=
  if room.phase = .settle ∧ (room.heat.bind (·.nextHeatAt)).any (fun at' => at' ≠ 0 ∧ at' ≤ now) then
    if room.activePlayers.any (·.hand.isEmpty) then changed ctx { room with phase := .finished }
    else room.startHeat ctx now
  else room

/-- Drives the clock, on every read and every action. -/
def advance (now : Int) : TwinRoom :=
  ((room.advanceDealing ctx now).advanceHeat ctx now).advanceSettle ctx now

def layOut (seedCounter : Nat) (cards : List TwinCard) : List CardState :=
  cards.zipIdx.map fun (card, index) => { cardId := card.id, seed := seedCounter + index + 1 }

def takeHands : Nat → List (List TwinCard) → List PlayerState → List PlayerState
  | _, _, [] => []
  | seedCounter, hands, player :: players =>
    if player.withdrawn then player :: takeHands seedCounter hands players
    else
      let hand := layOut seedCounter (hands.headD [])
      { player with hand, toThisHeat := {} } :: takeHands (seedCounter + hand.length) hands.tail players

def applyDeal (plan : TwinDeckPlan) (now : Int) : Option TwinRoom :=
  (dealTwin plan room.activePlayers.length ctx.seed).bind fun deal =>
    let seedCounter := room.seedCounter + room.activePlayers.length * plan.handSize
    let dealt : TwinRoom := { room with
      order := plan.order, handSize := plan.handSize
      players := takeHands room.seedCounter deal.hands room.players
      middle := some { cardId := deal.middle.id, seed := seedCounter + 1 }
      seedCounter := seedCounter + 1 }
    if dealt.activePlayers.all fun player =>
        (player.hand.head?.bind fun top => (twinCardById dealt.order top.cardId).bind (twinMatch · deal.middle)).isSome then
      some (changed ctx { dealt with heat := none, phase := .dealing, dealingUntil := some (now + dealingMs) })
    else none

end TwinRoom

end MilkAndHenny.Twin

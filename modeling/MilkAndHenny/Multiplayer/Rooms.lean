import MilkAndHenny.Library.Table

/-! What the engines of the rooms share: credentials, readiness, the expiry of a room, and
the actions that it remembers. Times are milliseconds and ids are numbers. -/

namespace MilkAndHenny.Multiplayer
open Library

/-- What a credential is the hash of; different secrets have different hashes. -/
inductive Secret where
  | token (value : Nat)
  | left (newId player : Nat)
  | removed (newId player : Nat)
deriving DecidableEq

def presenceTouchIntervalMs : Int := 10000
def startNudgeCooldownMs : Int := 10000
def lobbyTtlMs : Int := 1800000
def emptyLobbyTtlMs : Int := 300000
def presenceLeaseMs : Int := 900000

/-- `.slice(-limit)`. -/
def takeLast {α : Type} (limit : Nat) (items : List α) : List α := items.drop (items.length - limit)

inductive MultiplayerRoomPhaseKind where
  | lobby | active | results | closed

def multiplayerLobbyExpiresAt (now : Int) (playerCount : Nat) : Int :=
  now + if playerCount = 0 then emptyLobbyTtlMs else lobbyTtlMs

def multiplayerRoomExpiry (kind : MultiplayerRoomPhaseKind) (presentCount : Nat) (expiresAt now : Int) : Int :=
  if expiresAt ≤ now then expiresAt
  else
    match kind with
    | .closed => now
    | .results => max expiresAt (now + presenceLeaseMs)
    | .lobby => multiplayerLobbyExpiresAt now presentCount
    | .active => if 0 < presentCount then now + presenceLeaseMs else now

def rememberMultiplayerAction (processedActions : List Nat) (actionId : Nat) : List Nat :=
  takeLast 300 (processedActions.filter (· ≠ actionId) ++ [actionId])

/-- `MultiplayerReadinessRecord`. -/
structure Readiness where
  ready : Bool := true
  startRequestId : Option Nat := none
  startRequestedAt : Option Int := none
deriving DecidableEq

def setMultiplayerPlayerReady (ready : Bool) : Readiness := { ready }

/-- Unready, and not asked within the last ten seconds. -/
def Readiness.isNudged (readiness : Readiness) (now : Int) : Bool :=
  !readiness.ready && !readiness.startRequestedAt.any fun since => since != 0 && decide (now - since < startNudgeCooldownMs)

def Readiness.request (readiness : Readiness) (requestId : Nat) (now : Int) : Readiness :=
  { readiness with startRequestId := some requestId, startRequestedAt := some now }

/-- `touchMultiplayerPresence`: when the player was last seen. -/
def touchMultiplayerPresence (lastSeenAt now : Int) (force : Bool) : Int :=
  if force || decide (presenceTouchIntervalMs ≤ now - lastSeenAt) then now else lastSeenAt

end MilkAndHenny.Multiplayer

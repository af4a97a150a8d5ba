import MilkAndHenny.Library.Table

/-! The rules of Twin: what is recorded of a tap, when a heat closes and who has won it, and
the order in which a game ends. -/

namespace MilkAndHenny.Twin
open Library

/-! The entries of `TWIN_TIMING` that the engine reads. -/

def dealingMs : Int := 2000
def defaultWindowMs : Int := 8000
def defaultGraceMs : Int := 2500
def settleDelayMs : Int := 600
def settleHoldDefaultMs : Int := 1650
def minReactionMs : Int := 220
def latencyAllowanceMs : Int := 900

def twinCooldownsMs : List Int := [1500, 2500, 4000]

def twinCooldownMs (missesThisHeat : Nat) : Int :=
  if missesThisHeat = 0 then 0 else twinCooldownsMs.getD (min missesThisHeat twinCooldownsMs.length - 1) 0

/-- What is ranked: the claim, raised to what can be true and kept within the window. -/
def recordTwinElapsed (claimedMs arrivalElapsedMs windowMs : Int) : Int :=
  min windowMs (max (max claimedMs minReactionMs) (arrivalElapsedMs - latencyAllowanceMs))

def twinGraceEnd (now deadlineAt graceMs : Int) : Int := min deadlineAt (now + graceMs)

structure TwinHeatProgress where
  deadlineAt : Int
  graceEndsAt : Option Int
  contenders : Nat
  landed : Nat

def twinHeatShouldClose (progress : TwinHeatProgress) (now : Int) : Bool :=
  progress.deadlineAt ≤ now || progress.graceEndsAt.any (· ≤ now) ||
    (0 < progress.contenders && progress.contenders ≤ progress.landed)

structure TwinHeatEntry where
  playerId : Nat
  /-- None where they never found it. -/
  elapsedMs : Option Int
  misses : Nat

/-- An entry with a time. -/
structure Landing where
  playerId : Nat
  elapsedMs : Int
  misses : Nat

def TwinHeatEntry.landing (entry : TwinHeatEntry) : Option Landing :=
  entry.elapsedMs.map fun elapsedMs => { playerId := entry.playerId, elapsedMs, misses := entry.misses }

def Landing.before (first second : Landing) : Bool :=
  first.elapsedMs < second.elapsedMs || (first.elapsedMs == second.elapsedMs &&
    (first.misses < second.misses || (first.misses == second.misses && first.playerId ≤ second.playerId)))

structure TwinHeatOutcome where
  /-- Everyone who landed it, the fastest first. -/
  ranked : List Nat
  winnerPlayerId : Option Nat
  burned : Bool

def twinHeatOutcome (entries : List TwinHeatEntry) : TwinHeatOutcome :=
  let landed := orderBy Landing.before (entries.filterMap TwinHeatEntry.landing)
  { ranked := landed.map (·.playerId), winnerPlayerId := landed.head?.map (·.playerId), burned := landed.isEmpty }

structure TwinPlayerStats where
  playerId : Nat
  name : String
  cardsLeft : Nat
  /-- Where they finished, in the order that hands emptied. -/
  place : Option Nat
  connections : Nat
  misses : Nat
  longestChain : Nat
  totalElapsedMs : Int
  bestElapsedMs : Option Int

def TwinPlayerStats.before (a b : TwinPlayerStats) : Bool :=
  match a.place, b.place with
  | some place, some other => place ≤ other
  | some _, none => true
  | none, some _ => false
  | none, none =>
    a.cardsLeft < b.cardsLeft || (a.cardsLeft == b.cardsLeft &&
      (a.misses < b.misses || (a.misses == b.misses &&
        (a.totalElapsedMs < b.totalElapsedMs || (a.totalElapsedMs == b.totalElapsedMs &&
          b.longestChain ≤ a.longestChain)))))

def rankTwinFinish (stats : List TwinPlayerStats) : List TwinPlayerStats := orderBy TwinPlayerStats.before stats

def twinHeadline (stats : List TwinPlayerStats) : String :=
  match (rankTwinFinish stats).head? with
  | none => "Nobody made it out."
  | some winner => if winner.place.isNone then winner.name ++ " got closest." else winner.name ++ " is out of cards."

end MilkAndHenny.Twin

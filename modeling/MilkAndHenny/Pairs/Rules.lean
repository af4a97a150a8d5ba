import MilkAndHenny.Library.Machine
import MilkAndHenny.RateLimit.Stores
import MilkAndHenny.Staff.Scope
import MilkAndHenny.Zip.Archive

/-! The rules of Pairs, and the journal of commands that a table is recovered from. -/

namespace MilkAndHenny.Pairs
open RateLimit (utf16Length)
open Staff (Json)
open Zip (trim)

def pairsSizes : List Nat := [3, 6, 10]

def pairsRanks : List String := ["A", "K", "Q", "J", "10", "9", "8", "7", "6", "5"]

inductive PairsSuit where
  | spades | hearts | clubs | diamonds
deriving DecidableEq

structure PairsCard where
  rank : String
  suit : PairsSuit
deriving DecidableEq

inductive PairsAction where
  /-- The index is whatever number the caller sends. -/
  | flip (index : Rat)
  | continue_
  | undo
  | skip
deriving DecidableEq

inductive PairsPhase where
  | playing | review | finished
deriving DecidableEq

inductive PairsOutcome where
  | match_ | miss
deriving DecidableEq

structure PairsTurn where
  matched : List Nat
  selected : List Nat
  scores : List Nat
  turn : Nat
  tries : Nat
  phase : PairsPhase
  outcome : Option PairsOutcome
deriving DecidableEq

structure PairsGame extends PairsTurn where
  cards : List PairsCard
  names : List String
  previous : Option PairsTurn
deriving DecidableEq

/-- The one version of it is 1. -/
structure PairsRecord where
  seed : Rat
  pairCount : Nat
  names : List String
  actions : List PairsAction
deriving DecidableEq

def pairsRandom (state : UInt32) : UInt32 :=
  let value := (state ^^^ (state >>> 15)) * (1 ||| state)
  let mixed := value ^^^ (value + (value ^^^ (value >>> 7)) * (61 ||| value))
  mixed ^^^ (mixed >>> 14)

def shufflePairs (state : UInt32) : Nat → List PairsCard → List PairsCard
  | 0, cards => cards
  | index + 1, cards =>
    let state := state + 0x6d2b79f5
    let target := (pairsRandom state).toNat * (index + 2) / 2 ^ 32
    let swapped := match cards[index + 1]?, cards[target]? with
      | some last, some other => (cards.set (index + 1) other).set target last
      | _, _ => cards
    shufflePairs state index swapped

def pairsDeck (pairCount : Nat) : List PairsCard :=
  (pairsRanks.take pairCount).zipIdx.flatMap fun (rank, index) =>
    [{ rank, suit := if index % 2 = 0 then .spades else .clubs }, { rank, suit := if index % 2 = 0 then .hearts else .diamonds }]

def createPairsGame (toLowerCase : String → String) (seed : Rat) (pairCount : Nat) (names : List String) : Except String PairsGame :=
  if !seed.isInt || seed < 0 || 0xffffffff < seed then .error "Invalid shuffle"
  else if !pairsSizes.contains pairCount || names.length < 1 || 6 < names.length then
    .error "Choose a table size and one to six players"
  else
    let trimmed := names.map trim
    if trimmed.any (fun name => name == "" || 24 < utf16Length name) || !decide (trimmed.map toLowerCase).Nodup then
      .error "Give each player a different name"
    else
      let cards := pairsDeck pairCount
      .ok {
        cards := shufflePairs (UInt32.ofNat seed.num.toNat) (cards.length - 1) cards
        names := trimmed
        scores := trimmed.map fun _ => 0
        matched := []
        selected := []
        turn := 0
        tries := 0
        phase := .playing
        outcome := none
        previous := none }

namespace PairsGame

def checkpoint (game : PairsGame) : PairsTurn where
  matched := game.matched
  selected := []
  scores := game.scores
  turn := game.turn
  tries := game.tries
  phase := .playing
  outcome := none

def place (game : PairsGame) (index : Rat) : Option Nat :=
  if index.isInt ∧ 0 ≤ index ∧ index.num.toNat < game.cards.length then some index.num.toNat else none

def nextTurn (game : PairsGame) : Nat := (game.turn + 1) % game.names.length

def rank (game : PairsGame) (place : Nat) : Option String := (game.cards[place]?).map (·.rank)

def turnOver (game : PairsGame) (place : Nat) : PairsGame :=
  let selected := game.selected ++ [place]
  let previous := if game.selected.isEmpty then some game.checkpoint else game.previous
  match selected with
  | first :: second :: _ =>
    let matches_ := game.rank first = game.rank second
    { game with
      previous, selected
      tries := game.tries + 1
      phase := .review
      outcome := some (if matches_ then .match_ else .miss)
      matched := if matches_ then game.matched ++ selected else game.matched
      scores := game.scores.mapIdx fun index score => score + if matches_ ∧ index = game.turn then 1 else 0 }
  | _ => { game with selected, previous }

/-- `applyPairsAction`, with nothing where the game itself is returned. -/
def play (game : PairsGame) : PairsAction → Option PairsGame
  | .undo => game.previous.map fun previous => { game with toPairsTurn := previous, previous := none }
  | .continue_ =>
    if game.phase ≠ .review then none
    else some { game with
      turn := if game.outcome = some .miss then game.nextTurn else game.turn
      selected := []
      phase := if game.matched.length = game.cards.length then .finished else .playing
      outcome := none }
  | .skip =>
    if game.phase ≠ .playing ∨ game.names.length = 1 then none
    else some { game with previous := some game.checkpoint, selected := [], turn := game.nextTurn }
  | .flip index =>
    if game.phase ≠ .playing then none
    else ((game.place index).filter fun place => !game.selected.contains place && !game.matched.contains place).map game.turnOver

end PairsGame

/-! ### The journal -/

/-- `name in value`, for an object. -/
def field (value : Json) (name : String) : Option Json :=
  match value with
  | .object entries => entries.lookup name
  | _ => none

def parseAction (value : Json) : Option PairsAction :=
  match (field value "type").bind Json.asString with
  | some "flip" =>
    ((field value "index").bind Json.asNumber).bind fun index =>
      if index.isInt ∧ 0 ≤ index ∧ index < 20 then some (.flip index) else none
  | some "continue" => some .continue_
  | some "undo" => some .undo
  | some "skip" => some .skip
  | _ => none

/-- What is replayed of a journal so far. -/
structure Replay where
  actions : List PairsAction
  game : PairsGame

/-- A command of the journal; one that changes nothing spoils it. -/
def Replay.next (replay : Replay) (raw : Json) : Option Replay :=
  (parseAction raw).bind fun action =>
    (replay.game.play action).map fun next => { actions := replay.actions ++ [action], game := next }

def restorePairsRecord (toLowerCase : String → String) (value : Json) : Option (PairsRecord × PairsGame) := do
  let version ← (field value "version").bind Json.asNumber
  if version ≠ 1 then none
  else
    let seed ← (field value "seed").bind Json.asNumber
    let count ← (field value "pairCount").bind Json.asNumber
    let pairCount ← pairsSizes.find? fun (size : Nat) => (size : Rat) == count
    let rawNames ← (field value "names").bind Json.asArray
    let rawActions ← (field value "actions").bind Json.asArray
    if 4000 < rawActions.length then none
    else
      let names ← rawNames.mapM Json.asString
      let game ← (createPairsGame toLowerCase seed pairCount names).toOption
      let replay ← rawActions.foldlM Replay.next { actions := [], game }
      some ({ seed, pairCount, names, actions := replay.actions }, replay.game)

def PairsAction.toJson : PairsAction → Json
  | .flip index => .object [("type", .string "flip"), ("index", .number index)]
  | .continue_ => .object [("type", .string "continue")]
  | .undo => .object [("type", .string "undo")]
  | .skip => .object [("type", .string "skip")]

def PairsRecord.toJson (record : PairsRecord) : Json :=
  .object [("version", .number 1), ("seed", .number record.seed), ("pairCount", .number record.pairCount),
    ("names", .array (record.names.map .string)), ("actions", .array (record.actions.map PairsAction.toJson))]

structure Table where
  game : PairsGame
  record : PairsRecord
deriving DecidableEq

namespace Table

def start (toLowerCase : String → String) (seed : Rat) (pairCount : Nat) (names : List String) : Except String Table :=
  (createPairsGame toLowerCase seed pairCount names).map fun game =>
    { game, record := { seed, pairCount, names := game.names, actions := [] } }

def act (action : PairsAction) (table : Table) : Table :=
  (table.game.play action).elim table fun next =>
    { game := next, record := { table.record with actions := table.record.actions ++ [action] } }

end Table

end MilkAndHenny.Pairs

import Mathlib.Logic.Function.Basic
import MilkAndHenny.Library.Growth
import MilkAndHenny.Centre.Room

/-! The maze of Centre: a tree grown from the centre by random picks, its depths searched from there, and
the entrances on its outer ring that score best. Every `while` is a loop that may fail to stop. -/

namespace MilkAndHenny.Centre
open Library

variable {rings sectors : Nat}

structure DifficultyPlan where
  rings : Nat
  sectors : Nat
  newestBias : Float
  targetDepthRatio : Float
  ringed : 0 < rings := by decide
  roomy : 8 ≤ sectors := by decide

def plans : CentreDifficulty → DifficultyPlan
  | .one => { rings := 4, sectors := 16, newestBias := 0.92, targetDepthRatio := 0.38 }
  | .two => { rings := 5, sectors := 20, newestBias := 0.78, targetDepthRatio := 0.34 }
  | .three => { rings := 6, sectors := 24, newestBias := 0.64, targetDepthRatio := 0.3 }
  | .four => { rings := 7, sectors := 28, newestBias := 0.48, targetDepthRatio := 0.27 }
  | .five => { rings := 8, sectors := 32, newestBias := 0.34, targetDepthRatio := 0.24 }

inductive Cell (rings sectors : Nat) where
  | centre
  | cell (ring : Fin rings) (sector : Fin sectors)
deriving DecidableEq

def Cell.id : Cell rings sectors → String
  | .centre => "centre"
  | .cell ring sector => s!"r{ring}s{sector}"

def Cell.place : Cell rings sectors ≃ Option (Fin rings × Fin sectors) where
  toFun
    | .centre => none
    | .cell ring sector => some (ring, sector)
  invFun place := place.elim .centre fun (ring, sector) => .cell ring sector
  left_inv cell := by cases cell <;> rfl
  right_inv place := by cases place <;> rfl

instance : Fintype (Cell rings sectors) := Fintype.ofEquiv _ Cell.place.symm

theorem card_cell (rings sectors : Nat) : Fintype.card (Cell rings sectors) = rings * sectors + 1 := by
  rw [Fintype.card_congr Cell.place, Fintype.card_option, Fintype.card_prod, Fintype.card_fin, Fintype.card_fin]

/-- `adjacency`, of one cell. -/
def neighbours : Cell rings sectors → List (Cell rings sectors)
  | .centre => if ringed : 0 < rings then (List.finRange sectors).map (.cell ⟨0, ringed⟩) else []
  | .cell ring sector =>
    [.cell ring ⟨(sector + sectors - 1) % sectors, Nat.mod_lt _ sector.pos⟩, .cell ring ⟨(sector + 1) % sectors, Nat.mod_lt _ sector.pos⟩] ++
      [if ring.1 = 0 then .centre else .cell ⟨ring - 1, Nat.lt_of_le_of_lt (Nat.sub_le _ _) ring.2⟩ sector] ++
      if inside : ring.1 + 1 < rings then [.cell ⟨ring + 1, inside⟩ sector] else []

abbrev Links (rings sectors : Nat) : Type := Cell rings sectors → List (Cell rings sectors)

def Links.push (links : Links rings sectors) (cell next : Cell rings sectors) : Links rings sectors :=
  fun other => if other = cell then links cell ++ [next] else links other

/-! ### The random numbers -/

def mulberry32 (seed : UInt32) (draw : Nat) : UInt32 :=
  let value := seed + 0x6d2b79f5 * UInt32.ofNat (draw + 1)
  let mixed := (value ^^^ (value >>> 15)) * (value ||| 1)
  let mixed := mixed ^^^ (mixed + (mixed ^^^ (mixed >>> 7)) * (mixed ||| 61))
  mixed ^^^ (mixed >>> 14)

def mixedSeed (seed : UInt32) (candidate : Nat) : UInt32 :=
  let value := seed ^^^ UInt32.ofNat (candidate + 1) * 0x9e3779b1
  let value := (value ^^^ (value >>> 16)) * 0x85ebca6b
  (value ^^^ (value >>> 13)) * 0xc2b2ae35

/-- `random()`. -/
def chance (value : UInt32) : Float := value.toNat.toFloat / 4294967296

/-- `Math.floor(random() * bound)`. -/
def pickBelow (bound : Nat) (value : UInt32) : Nat := value.toNat * bound / 2 ^ 32

/-! ### The tree -/

structure Growth (rings sectors : Nat) where
  /-- The random numbers drawn so far. -/
  draws : Nat := 0
  links : Links rings sectors := fun _ => []
  visited : List (Cell rings sectors) := [.centre]
  active : List (Cell rings sectors) := [.centre]

/-- One turn of `generateTree`, while a cell is active. -/
def Growth.step (newestBias : Float) (random : Nat → UInt32) (growth : Growth rings sectors) : Option (Growth rings sectors) :=
  let newest := chance (random growth.draws) < newestBias
  let activeIndex := if newest then growth.active.length - 1 else pickBelow growth.active.length (random (growth.draws + 1))
  let draws := if newest then growth.draws + 1 else growth.draws + 2
  (growth.active[activeIndex]?).map fun current =>
    let available := (neighbours current).filter (· ∉ growth.visited)
    match available[pickBelow available.length (random draws)]? with
    | none => { growth with draws, active := growth.active.eraseIdx activeIndex }
    | some next =>
      { draws := draws + 1
        links := (growth.links.push current next).push next current
        visited := growth.visited ++ [next]
        active := growth.active ++ [next] }

variable (plan : DifficultyPlan) (random : Nat → UInt32)

def generateTree : Option (Links plan.rings plan.sectors) :=
  (loop (Growth.step plan.newestBias random) (2 * (plan.rings * plan.sectors + 1) + 2) {}).map fun growth cell =>
    (growth.links cell).mergeSort fun left right => left.id ≤ right.id

/-! ### Depths -/

structure Search (rings sectors : Nat) where
  depths : Cell rings sectors → Option Nat := Function.update (fun _ => none) .centre (some 0)
  parents : Cell rings sectors → Option (Cell rings sectors) := fun _ => none
  queue : List (Cell rings sectors) := [.centre]
  cursor : Nat := 0

def Search.visit (current : Cell rings sectors) (search : Search rings sectors) (next : Cell rings sectors) : Search rings sectors :=
  if (search.depths next).isSome then search
  else { search with
    depths := Function.update search.depths next (some ((search.depths current).getD 0 + 1))
    parents := Function.update search.parents next (some current)
    queue := search.queue ++ [next] }

def Search.step (links : Links rings sectors) (search : Search rings sectors) : Option (Search rings sectors) :=
  (search.queue[search.cursor]?).map fun current =>
    { (links current).foldl (Search.visit current) search with cursor := search.cursor + 1 }

def depthsFromCentre (links : Links rings sectors) : Option (Search rings sectors) :=
  loop (Search.step links) (rings * sectors + 2) {}

/-- A walk in from an entrance. -/
structure Climb (rings sectors : Nat) where
  current : Option (Cell rings sectors)
  decisions : Nat := 0
  turns : Nat := 0
  previousDirection : String := ""

def direction : Cell rings sectors → Cell rings sectors → String
  | .cell here _, .cell there _ => if here = there then "round" else "in"
  | _, _ => "in"

def Climb.step (links : Links rings sectors) (search : Search rings sectors) (climb : Climb rings sectors) : Option (Climb rings sectors) :=
  (climb.current.filter (· ≠ .centre)).map fun current =>
    let decisions := if 3 ≤ (links current).length then climb.decisions + 1 else climb.decisions
    match search.parents current with
    | none => { climb with current := none, decisions }
    | some parent =>
      let heading := direction current parent
      let turned := climb.previousDirection ≠ "" ∧ climb.previousDirection ≠ heading
      { current := some parent, decisions, turns := if turned then climb.turns + 1 else climb.turns, previousDirection := heading }

structure PathMetrics where
  length : Nat
  decisions : Nat
  turns : Nat

def pathMetrics (links : Links rings sectors) (search : Search rings sectors) (start : Cell rings sectors) : Option PathMetrics :=
  (loop (Climb.step links search) (rings * sectors + 2) { current := some start }).map fun climb =>
    { length := (search.depths start).getD 0, decisions := climb.decisions, turns := climb.turns }

/-! ### Entrances -/

def circularDistance (left right : Fin sectors) : Nat :=
  let distance := (left.1 - right.1) + (right.1 - left.1)
  min distance (sectors - distance)

def addEntrance (miss : Fin sectors → Nat) (result : List (Fin sectors)) : Option (List (Fin sectors)) :=
  let score (sector : Fin sectors) : Int :=
    (miss sector * 50 : Nat) - (((result.map (circularDistance sector)).min?.getD 0) * 4 : Nat)
  (keepBest score ((List.finRange sectors).filter (· ∉ result))).map fun candidate => result ++ [candidate]

def addEntrances (miss : Fin sectors → Nat) : Nat → List (Fin sectors) → Option (List (Fin sectors))
  | 0, result => some result
  | missing + 1, result => (addEntrance miss result).bind (addEntrances miss missing)

def entranceSet (targetDepth playerCount : Nat) (depthOf : Fin sectors → Nat) : Option (List (Fin sectors)) := do
  let miss (sector : Fin sectors) : Nat := (depthOf sector - targetDepth) + (targetDepth - depthOf sector)
  let nearest := (List.finRange sectors).mergeSort fun left right => miss left < miss right ∨ miss left = miss right ∧ left ≤ right
  let result ← addEntrances miss (playerCount - 1) (nearest.take 1)
  some (result.mergeSort (· ≤ ·))

structure Entrances (sectors : Nat) where
  sectors : List (Fin sectors)
  lengths : List Nat
  score : Float

def spread (values : List Nat) : Float := (values.max?.getD 0 - values.min?.getD 0).toFloat

def mean (values : List Nat) : Float := values.sum.toFloat / values.length.toFloat

def entranceScore (playerCount : Nat) (sectors : List (Fin plan.sectors)) (metrics : List PathMetrics) : Float :=
  let lengths := metrics.map (·.length)
  let gaps := (sectors.zip (sectors.drop 1 ++ sectors.take 1)).map fun (sector, next) => (next + plan.sectors - sector) % plan.sectors
  let idealGap := plan.sectors.toFloat / playerCount.toFloat
  let spacingError := gaps.foldl (fun sum gap => sum + (gap.toFloat - idealGap).abs) 0
  let target := (plan.rings * plan.sectors).toFloat * plan.targetDepthRatio
  (if 1 < playerCount then
      spread lengths / max 1 (mean lengths) * 4000 + spread (metrics.map (·.decisions)) * 25 + spacingError * 3
    else 0) + (mean lengths - target).abs * 2 - mean (metrics.map (·.turns)) * 0.2

def DifficultyPlan.entrance (sector : Fin plan.sectors) : Cell plan.rings plan.sectors :=
  .cell ⟨plan.rings - 1, Nat.sub_lt plan.ringed Nat.one_pos⟩ sector

def bestEntrances (links : Links plan.rings plan.sectors) (playerCount : Nat) : Option (Entrances plan.sectors) := do
  let search ← depthsFromCentre links
  let depthOf (sector : Fin plan.sectors) : Nat := (search.depths (plan.entrance sector)).getD 0
  let targetDepths := distinct ((List.finRange plan.sectors).map depthOf)
  let offered ← targetDepths.mapM fun targetDepth => do
    let sectors ← entranceSet targetDepth playerCount depthOf
    let metrics ← sectors.mapM fun sector => pathMetrics links search (plan.entrance sector)
    some { sectors, lengths := metrics.map (·.length), score := entranceScore plan playerCount sectors metrics : Entrances plan.sectors }
  keepBest (·.score) offered

/-! ### The maze -/

structure CentreMaze where
  difficulty : CentreDifficulty
  links : Links (plans difficulty).rings (plans difficulty).sectors
  entranceSectors : List (Fin (plans difficulty).sectors)
  solutionLengths : List Nat

def candidateOf (players : Nat) :
    Option (Links plan.rings plan.sectors × Entrances plan.sectors) := do
  let links ← generateTree plan random
  let entrances ← bestEntrances plan links players
  some (links, entrances)

def mazeOf (random : Nat → Nat → UInt32) (difficulty : CentreDifficulty) (playerCount : Int) : Option CentreMaze :=
  let plan := plans difficulty
  let players := (max 1 (min 8 playerCount)).toNat
  (((List.range 48).mapM fun candidate => candidateOf plan (random candidate) players).bind (keepBest (·.2.score))).map
    fun (links, entrances) => { difficulty, links, entranceSectors := entrances.sectors, solutionLengths := entrances.lengths }

def generateCentreMaze (seed : UInt32) (difficulty : CentreDifficulty) (playerCount : Int) : Option CentreMaze :=
  mazeOf (fun candidate => mulberry32 (mixedSeed seed candidate)) difficulty playerCount

end MilkAndHenny.Centre

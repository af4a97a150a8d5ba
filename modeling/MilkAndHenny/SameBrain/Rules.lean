import Mathlib.Order.Interval.Set.ProjIcc
import Mathlib.Order.ConditionallyCompleteLattice.Basic
import Mathlib.Data.Int.ConditionallyCompleteOrder
import MilkAndHenny.Library.Table

/-! The rules of Same brain: how answers are compared, which group is the herd, who is the
odd one out, and who has won. -/

namespace MilkAndHenny.SameBrain
open Library

inductive SameBrainPhase where
  | lobby | prompt | submit | sayIt | reveal | ending
deriving DecidableEq

structure SameBrainToggles where
  sayItAloud : Bool := true
  eliminateOddOne : Bool := false
  revealAuthors : Bool := true
deriving DecidableEq

/-- Every duration lies within `SAME_BRAIN_TIMING_BOUNDS`. -/
structure SameBrainTimings where
  prompt : Set.Icc (2000 : Int) 20000
  submit : Set.Icc (15000 : Int) 180000
  sayIt : Set.Icc (3000 : Int) 20000
  reveal : Set.Icc (0 : Int) 120000
deriving DecidableEq

/-- `Partial<SameBrainTimings>`. -/
structure TimingsPatch where
  prompt : Option Int := none
  submit : Option Int := none
  sayIt : Option Int := none
  reveal : Option Int := none

/-- `sameBrainTimings({ ...timings, ...overrides })`, each duration moved into its bounds. -/
def SameBrainTimings.patch (timings : SameBrainTimings) (overrides : TimingsPatch) : SameBrainTimings where
  prompt := overrides.prompt.elim timings.prompt (Set.projIcc 2000 20000 (by decide))
  submit := overrides.submit.elim timings.submit (Set.projIcc 15000 180000 (by decide))
  sayIt := overrides.sayIt.elim timings.sayIt (Set.projIcc 3000 20000 (by decide))
  reveal := overrides.reveal.elim timings.reveal (Set.projIcc 0 120000 (by decide))

def sameBrainDefaultTimings : SameBrainTimings where
  prompt := ⟨4000, by decide⟩
  submit := ⟨45000, by decide⟩
  sayIt := ⟨4500, by decide⟩
  reveal := ⟨0, by decide⟩

/-- The number of rounds of a game, within `SAME_BRAIN_ROUND_LIMITS`. -/
abbrev Rounds : Type := Set.Icc 3 20

def clampRounds (value : Nat) : Rounds := Set.projIcc 3 20 (by decide) value

def sameBrainMinPlayers : Nat := 3
def sameBrainMaxPlayers : Nat := 16
def sameBrainMaxNameLength : Nat := 24
def sameBrainMaxAnswerLength : Nat := 32
def sameBrainDefaultRounds : Nat := 8
def sameBrainPointsMajority : Int := 2
def sameBrainPointsUnanimous : Int := 1

/-- What the runtime knows of letters. Texts are taken by their characters. -/
structure Locale where
  toLocaleLowerCase : String → String
  /-- `.normalize("NFKD")`. -/
  normalize : String → String
  isLetterOrNumber : Char → Bool

/-- What a regular expression calls space. -/
def isSpace (char : Char) : Bool :=
  let code := char.toNat
  (9 ≤ code && code ≤ 13) || (8192 ≤ code && code ≤ 8202) ||
    [32, 160, 5760, 8232, 8233, 8239, 8287, 12288, 65279].contains code

/-- The words between the spaces; `word` is what has been read of the current one. -/
def wordsFrom (word : List Char) : List Char → List (List Char)
  | [] => if word.isEmpty then [] else [word]
  | char :: chars =>
    if !isSpace char then wordsFrom (word ++ [char]) chars
    else if word.isEmpty then wordsFrom [] chars
    else word :: wordsFrom [] chars

/-- `.replace(/\s+/g, " ").trim()`. -/
def collapse (chars : List Char) : List Char := [' '].intercalate (wordsFrom [] chars)

/-- Words that say nothing of what somebody meant. -/
def leadingNoise : List (List Char) :=
  ["the", "a", "an", "some", "my", "your", "his", "her", "their", "its", "our"].map String.toList

def dropLeadingNoise : List (List Char) → List (List Char)
  | word :: next :: words => if leadingNoise.contains word then next :: words else word :: next :: words
  | words => words

/-- Reduces an answer to the thing that is compared. -/
def normaliseAnswer (locale : Locale) (raw : String) : String :=
  let combining (char : Char) : Bool := 768 ≤ char.toNat && char.toNat ≤ 879
  let apostrophe (char : Char) : Bool := char.toNat == 39 || char.toNat == 8217
  let letters := (locale.normalize (locale.toLocaleLowerCase raw)).toList.filter fun char => !combining char && !apostrophe char
  let spaced := letters.map fun char => if locale.isLetterOrNumber char || isSpace char || char == '-' then char else ' '
  let meant := [' '].intercalate (dropLeadingNoise (wordsFrom [] spaced))
  let value := collapse (meant.map fun char => if char = '-' then ' ' else char)
  String.ofList (value.take sameBrainMaxAnswerLength)

def answerIsUsable (locale : Locale) (raw : String) : Bool := normaliseAnswer locale raw != ""

structure SameBrainAnswer where
  playerId : Nat
  text : String
  normalised : String
deriving DecidableEq

/-- One group of players who gave the same normalised answer. -/
structure SameBrainCluster where
  label : String
  spellings : List String
  playerIds : List Nat
deriving DecidableEq

inductive NoScoreReason where
  | split
deriving DecidableEq

structure SameBrainRoundResult where
  round : Nat
  question : String
  answers : List SameBrainAnswer
  clusters : List SameBrainCluster
  herdIndex : Option Nat
  pointsEach : Int
  oddPlayerId : Option Nat
  noScoreReason : Option NoScoreReason
  corrected : Bool := false
deriving DecidableEq

def group (clusters : List SameBrainCluster) (answer : SameBrainAnswer) : List SameBrainCluster :=
  if clusters.any (·.label == answer.normalised) then
    updateFirst clusters (·.label == answer.normalised) fun cluster =>
      { cluster with playerIds := cluster.playerIds ++ [answer.playerId] }
  else clusters ++ [{ label := answer.normalised, spellings := [answer.normalised], playerIds := [answer.playerId] }]

def clusterByExactMatch (answers : List SameBrainAnswer) : List SameBrainCluster := answers.foldl group []

structure ClusterScore where
  herdIndex : Option Nat
  pointsEach : Int
  noScoreReason : Option NoScoreReason

def scoreClusters (clusters : List SameBrainCluster) (playerCount : Nat) : ClusterScore :=
  let largest := (clusters.map (·.playerIds.length)).foldl max 0
  let split : ClusterScore := { herdIndex := none, pointsEach := 0, noScoreReason := some .split }
  if largest < 2 then split
  else if 1 < clusters.countP (·.playerIds.length == largest) then split
  else
    { herdIndex := clusters.findIdx? (·.playerIds.length == largest)
      pointsEach := if largest = playerCount then sameBrainPointsUnanimous else sameBrainPointsMajority
      noScoreReason := none }

def oddPlayerOf (clusters : List SameBrainCluster) (herdIndex : Option Nat) : Option Nat :=
  if herdIndex.isNone then none
  else
    match clusters.filter (·.playerIds.length == 1) with
    | [loner] => loner.playerIds.head?
    | _ => none

def scoreRound (round : Nat) (question : String) (answers : List SameBrainAnswer) (playerCount : Nat) : SameBrainRoundResult :=
  let clusters := clusterByExactMatch answers
  let score := scoreClusters clusters playerCount
  { round, question, answers, clusters
    herdIndex := score.herdIndex, pointsEach := score.pointsEach
    oddPlayerId := oddPlayerOf clusters score.herdIndex, noScoreReason := score.noScoreReason }

namespace SameBrainRoundResult

def herd (result : SameBrainRoundResult) : List Nat := ((result.herdIndex.bind (result.clusters[·]?)).map (·.playerIds)).getD []

/-- The groups with one moved into another, and scored again. -/
def merge (result : SameBrainRoundResult) (source target : Nat) (playerCount : Nat) : SameBrainRoundResult :=
  let moved := (result.clusters[source]?).getD { label := "", spellings := [], playerIds := [] }
  let merged := (result.clusters.modify target fun cluster =>
    { cluster with
      playerIds := cluster.playerIds ++ moved.playerIds
      spellings := cluster.spellings ++ moved.spellings }).eraseIdx source
  let score := scoreClusters merged playerCount
  { result with
    clusters := merged
    herdIndex := score.herdIndex, pointsEach := score.pointsEach, noScoreReason := score.noScoreReason
    oddPlayerId := oddPlayerOf merged score.herdIndex, corrected := true }

end SameBrainRoundResult

structure Standing where
  id : Nat
  score : Int := 0
  aloneCount : Int := 0
  out : Bool := false
  left : Bool := false

/-- The best of whoever is still in, or of all where nobody is; nobody wins without a point. -/
def winnersOf (players : List Standing) : List Nat :=
  let eligible := players.filter (!·.out)
  let pool := if eligible.isEmpty then players else eligible
  let best : Int := (pool.map (·.score)).foldl max 0
  if best = 0 then [] else (pool.filter (·.score == best)).map (·.id)

end MilkAndHenny.SameBrain

import Mathlib.Algebra.BigOperators.Group.List.Basic
import MilkAndHenny.SameBrain.Rules

/-! The game without its room: the standings, the rounds that have been scored, and the
turns that a game takes. The books are the standings that the scored rounds call for. -/

namespace MilkAndHenny.SameBrain
open Library

variable {game next : Game} {act : Act} {standing : Standing} {eliminates : Bool} {result : SameBrainRoundResult}

namespace SameBrainRoundResult

/-- Everybody who is in one of the groups. -/
def members (result : SameBrainRoundResult) : List Nat := result.clusters.flatMap (·.playerIds)

def pointsFor (result : SameBrainRoundResult) (id : Nat) : Int := if id ∈ result.herd then result.pointsEach else 0

/-- Nobody is in two groups, and the odd one out is in one. -/
structure Proper (result : SameBrainRoundResult) : Prop where
  apart : result.members.Nodup
  odd : ∀ id, result.oddPlayerId = some id → id ∈ result.members

end SameBrainRoundResult

def Standing.award (eliminates : Bool) (result : SameBrainRoundResult) (sign : Int) (standing : Standing) : Standing :=
  { standing with
    score := standing.score + sign * result.pointsFor standing.id
    aloneCount := if result.oddPlayerId = some standing.id then max 0 (standing.aloneCount + sign) else standing.aloneCount
    out := if result.oddPlayerId = some standing.id ∧ eliminates then sign == 1 else standing.out }

section
variable {sign : Int}

@[simp] theorem Standing.award_id : (standing.award eliminates result sign).id = standing.id := rfl

theorem Standing.award_out : (standing.award eliminates result sign).out =
    if result.oddPlayerId = some standing.id ∧ eliminates then sign == 1 else standing.out := rfl

end

def Standing.depart (id : Nat) (standing : Standing) : Standing :=
  if standing.id = id then { standing with out := true, left := true } else standing

/-- A player of a new game. -/
def Standing.IsFresh (standing : Standing) : Prop := standing = { id := standing.id }

/-- What a room plays. -/
structure Game where
  phase : SameBrainPhase
  gameNumber : Nat
  round : Nat
  rounds : Nat
  eliminates : Bool
  standings : List Standing
  result : Option SameBrainRoundResult
  baseline : Option SameBrainRoundResult
  history : List SameBrainRoundResult
  winnerIds : List Nat

namespace Game

def playingCount (game : Game) : Nat := game.standings.countP (!·.out)

def Over (game : Game) : Prop := game.rounds ≤ game.round ∨ game.eliminates ∧ game.playingCount < 2

instance {game : Game} : Decidable game.Over := inferInstanceAs (Decidable (_ ∨ _))

def enter (game : Game) (phase : SameBrainPhase) : Game := { game with phase }

def ask (game : Game) (round : Nat) : Game := { game with phase := .prompt, round, result := none, baseline := none }

def post (game : Game) (result : SameBrainRoundResult) (next : SameBrainPhase) : Game :=
  { game with
    phase := next, result := some result, baseline := some result, history := game.history ++ [result]
    standings := game.standings.map (Standing.award game.eliminates result 1) }

/-- The round scored again, in the place of its last score. -/
def amend (game : Game) (result next : SameBrainRoundResult) : Game :=
  { game with
    result := some next, history := game.history.set (game.history.length - 1) next
    standings := game.standings.map fun standing =>
      (standing.award game.eliminates result (-1)).award game.eliminates next 1 }

def depart (game : Game) (id : Nat) : Game := { game with standings := game.standings.map (Standing.depart id) }

def finish (game : Game) : Game := { game with winnerIds := winnersOf game.standings }.enter .ending

/-- The groups of the round are of players who are playing. -/
def Scores (game : Game) (result : SameBrainRoundResult) : Prop :=
  result.Proper ∧ ∀ standing ∈ game.standings, standing.id ∈ result.members → standing.out = false

end Game

/-- What an action asks of the game, as far as it matters which action it is. -/
inductive Act where
  | other
  | correct (next : SameBrainRoundResult)
  | leave (id : Nat)
  | stop
  | again
deriving DecidableEq

/-- The turns of a game, each under the act that can take it. -/
inductive Turn (game : Game) : Act → Game → Prop
  | calm : Turn game .other game
  | gathered {standings : List Standing} {rounds : Nat} {eliminates : Bool} (lobby : game.phase = .lobby)
      (seated : ∀ standing ∈ standings, standing ∈ game.standings ∨ standing.IsFresh)
      (unique : (standings.map (·.id)).Nodup) : Turn game .other { game with standings, rounds, eliminates }
  | started {standings : List Standing} (lobby : game.phase = .lobby) (fresh : ∀ standing ∈ standings, standing.IsFresh)
      (unique : (standings.map (·.id)).Nodup) :
      Turn game .other ({ game with standings, history := [], winnerIds := [] }.ask 1)
  | skipped (asked : game.phase = .prompt ∨ game.phase = .submit) : Turn game .other (game.ask (game.round - 1 + 1))
  | opened (asked : game.phase = .prompt) : Turn game .other (game.enter .submit)
  | closed {result : SameBrainRoundResult} {next : SameBrainPhase} (open_ : game.phase = .submit) (scores : game.Scores result)
      (shown : next = .sayIt ∨ next = .reveal) : Turn game .other (game.post result next)
  | shown (said : game.phase = .sayIt) : Turn game .other (game.enter .reveal)
  | goesOn (revealed : game.phase = .reveal) (further : ¬ game.Over) : Turn game .other (game.ask (game.round + 1))
  | concluded (revealed : game.phase = .reveal) (isOver : game.Over) : Turn game .other game.finish
  | amended {result next : SameBrainRoundResult} (revealed : game.phase = .reveal) (current : game.result = some result)
      (regrouped : game.baseline = some next ∨ next.Proper ∧ next.members.Perm result.members) :
      Turn game (.correct next) (game.amend result next)
  | removed {id : Nat} (begun : game.phase ≠ .lobby) : Turn game .other (game.depart id)
  | left {id : Nat} (begun : game.phase ≠ .lobby) (further : ¬ (game.depart id).Over) : Turn game (.leave id) (game.depart id)
  | walkedOut {id : Nat} (begun : game.phase ≠ .lobby) (isOver : (game.depart id).Over) :
      Turn game (.leave id) (game.depart id).finish
  | stopped : Turn game .stop game.finish
  | again {standings : List Standing} {next : Game} (fresh : ∀ standing ∈ standings, standing.IsFresh)
      (unique : (standings.map (·.id)).Nodup)
      (reset : next = { game with standings, gameNumber := game.gameNumber + 1, history := [], winnerIds := [] }.ask 1 ∨
        next = { game with
          standings, gameNumber := game.gameNumber + 1, history := [], winnerIds := []
          phase := .lobby, round := 0, result := none, baseline := none }) :
      Turn game .again next

/-- Everybody is there once, nobody has left a lobby's list, and the results can be given and taken back. -/
structure Game.Tidy (game : Game) : Prop where
  unique : (game.standings.map (·.id)).Nodup
  present : game.phase = .lobby → ∀ standing ∈ game.standings, standing.left = false
  result : ∀ result ∈ game.result, result.Proper
  baseline : ∀ result ∈ game.baseline, result.Proper

theorem Standing.depart_id {id : Nat} : (standing.depart id).id = standing.id := by
  unfold Standing.depart
  split <;> rfl

theorem Standing.IsFresh.present (fresh : standing.IsFresh) : standing.left = false := by rw [fresh]

theorem Game.Tidy.depart {game : Game} (tidy : game.Tidy) (begun : game.phase ≠ .lobby) (id : Nat) : (game.depart id).Tidy where
  unique := by
    simp only [Game.depart, map_map, Function.comp_def, Standing.depart_id]
    exact tidy.unique
  present lobby := absurd lobby begun
  result := tidy.result
  baseline := tidy.baseline

open Game in
theorem Turn.tidy (turn : Turn game act next) (tidy : game.Tidy) : next.Tidy := by
  cases turn with
  | calm => exact tidy
  | gathered lobby seated unique =>
    refine ⟨unique, fun _ standing mem => ?_, tidy.result, tidy.baseline⟩
    exact (seated standing mem).elim (tidy.present lobby standing) (·.present)
  | started _ _ unique => exact ⟨unique, nofun, nofun, nofun⟩
  | skipped | goesOn => exact ⟨tidy.unique, nofun, nofun, nofun⟩
  | opened | shown | concluded | stopped => exact ⟨tidy.unique, nofun, tidy.result, tidy.baseline⟩
  | closed _ scores shown =>
    refine ⟨?_, fun lobby => ?_, fun result posted => ?_, fun result posted => ?_⟩
    · simp only [Game.post, map_map]
      exact tidy.unique
    · rcases shown with rfl | rfl <;> cases lobby
    · exact some.inj posted ▸ scores.1
    · exact some.inj posted ▸ scores.1
  | @amended _ next revealed _ regrouped =>
    refine ⟨?_, fun lobby => (nomatch revealed.symm.trans lobby), fun result amended => ?_, tidy.baseline⟩
    · simp only [Game.amend, map_map]
      exact tidy.unique
    · obtain rfl : next = result := some.inj amended
      exact regrouped.elim (tidy.baseline next) (·.1)
  | removed begun | left begun => exact tidy.depart begun _
  | walkedOut begun => exact ⟨(tidy.depart begun _).unique, nofun, tidy.result, tidy.baseline⟩
  | again fresh unique reset =>
    rcases reset with rfl | rfl
    · exact ⟨unique, nofun, nofun, nofun⟩
    · exact ⟨unique, fun _ standing mem => (fresh standing mem).present, nofun, nofun⟩

/-! ### The books -/

/-- A standing as the scored rounds call for it. -/
structure Settled (eliminates : Bool) (history : List SameBrainRoundResult) (standing : Standing) : Prop where
  score : standing.score = (history.map (·.pointsFor standing.id)).sum
  aloneCount : standing.aloneCount = history.countP (·.oddPlayerId == some standing.id)
  out : standing.left = false → standing.out = (eliminates && history.any (·.oddPlayerId == some standing.id))

section
variable {history : List SameBrainRoundResult}

theorem Standing.IsFresh.settled (fresh : standing.IsFresh) : Settled eliminates [] standing := by
  rw [fresh]
  exact ⟨rfl, rfl, fun _ => by simp⟩

theorem Settled.award (settled : Settled eliminates history standing) :
    Settled eliminates (history ++ [result]) (standing.award eliminates result 1) := by
  obtain ⟨score, alone, out⟩ := settled
  constructor
  · simp [Standing.award, score]
  · simp only [Standing.award, alone, countP_append, countP_singleton, beq_iff_eq]
    split <;> simp
    omega
  · intro here
    simp only [Standing.award] at here ⊢
    simp only [any_append, any_cons, any_nil, Bool.or_false]
    by_cases odd : result.oddPlayerId = some standing.id
    · cases eliminates <;> simp_all
    · rw [if_neg (odd ·.1), out here, beq_false_of_ne odd, Bool.or_false]

theorem Settled.unaward (settled : Settled eliminates (history ++ [result]) standing)
    (unnamed : result.oddPlayerId = some standing.id → eliminates → ∀ entry ∈ history, entry.oddPlayerId ≠ some standing.id) :
    Settled eliminates history (standing.award eliminates result (-1)) := by
  obtain ⟨score, alone, out⟩ := settled
  constructor
  · simp only [Standing.award, score, map_append, sum_append, map_cons, map_nil, sum_singleton]
    omega
  · simp only [Standing.award, alone, countP_append, countP_singleton, beq_iff_eq]
    split <;> simp
  · intro here
    simp only [Standing.award] at here ⊢
    have out := out here
    simp only [any_append, any_cons, any_nil, Bool.or_false] at out
    by_cases odd : result.oddPlayerId = some standing.id
    · cases house : eliminates
      · simp_all
      · rw [if_pos ⟨odd, rfl⟩]
        have none_ : history.any (·.oddPlayerId == some standing.id) = false := by
          simpa using unnamed odd house
        simp [none_]
    · rw [if_neg (odd ·.1), out, beq_false_of_ne odd, Bool.or_false]

theorem Settled.depart {id : Nat} (settled : Settled eliminates history standing) :
    Settled eliminates history (standing.depart id) := by
  unfold Standing.depart
  split
  · exact ⟨settled.score, settled.aloneCount, nofun⟩
  · exact settled

end

namespace Game

def Posted (game : Game) (prior : List SameBrainRoundResult) (result : SameBrainRoundResult) : Prop :=
  result.Proper ∧ ∀ standing ∈ game.standings, standing.id ∈ result.members → game.eliminates →
    ∀ entry ∈ prior, entry.oddPlayerId ≠ some standing.id

/-- The standings are those that the history calls for, and the last entry can be taken back. -/
structure Books (game : Game) : Prop where
  settled : ∀ standing ∈ game.standings, Settled game.eliminates game.history standing
  lobby : game.phase = .lobby → game.history = []
  posted : game.phase = .sayIt ∨ game.phase = .reveal → ∃ prior last base,
    game.history = prior ++ [last] ∧ game.result = some last ∧ game.baseline = some base ∧
      game.Posted prior last ∧ game.Posted prior base

def KeepsOut (game : Game) : Prop := ∀ standing ∈ game.standings, standing.left → standing.out

/-- The odd one out who has left stays the odd one out. -/
def KeepsDeparted (game : Game) (next : SameBrainRoundResult) : Prop :=
  game.eliminates → ∀ result ∈ game.result, ∀ standing ∈ game.standings,
    result.oddPlayerId = some standing.id → standing.left → next.oddPlayerId = some standing.id

instance {game : Game} {next : SameBrainRoundResult} : Decidable (game.KeepsDeparted next) :=
  inferInstanceAs (Decidable (game.eliminates → ∀ result ∈ game.result, ∀ standing ∈ game.standings,
    result.oddPlayerId = some standing.id → standing.left → next.oddPlayerId = some standing.id))

theorem Posted.map (change : Standing → Standing) (same : ∀ standing, (change standing).id = standing.id)
    {prior : List SameBrainRoundResult} (posted : game.Posted prior result)
    {next : Game} (standings : next.standings = game.standings.map change) (eliminates : next.eliminates = game.eliminates) :
    next.Posted prior result := by
  refine ⟨posted.1, fun standing mem inside house => ?_⟩
  rw [standings] at mem
  obtain ⟨old, listed, rfl⟩ := mem_map.mp mem
  rw [same] at inside ⊢
  exact posted.2 old listed inside (eliminates ▸ house)

theorem Books.moved (books : game.Books) {next : Game} (standings : next.standings = game.standings)
    (history : next.history = game.history) (eliminates : next.eliminates = game.eliminates) (begun : next.phase ≠ .lobby)
    (posted : next.phase = .sayIt ∨ next.phase = .reveal →
      (game.phase = .sayIt ∨ game.phase = .reveal) ∧ next.result = game.result ∧ next.baseline = game.baseline) :
    next.Books where
  settled := by
    rw [standings, history, eliminates]
    exact books.settled
  lobby lobby := absurd lobby begun
  posted shown := by
    obtain ⟨before, result, baseline⟩ := posted shown
    rw [result, baseline, history]
    obtain ⟨prior, last, base, listed, current, kept, first, second⟩ := books.posted before
    have same : next.standings = game.standings.map id := by rw [standings, map_id]
    exact ⟨prior, last, base, listed, current, kept, first.map id (fun _ => rfl) same eliminates,
      second.map id (fun _ => rfl) same eliminates⟩

theorem Books.begun (history : game.history = []) (fresh : ∀ standing ∈ game.standings, standing.IsFresh)
    (phase : game.phase = .lobby ∨ game.phase = .prompt) : game.Books where
  settled standing mem := by
    rw [history]
    exact (fresh standing mem).settled
  lobby _ := history
  posted shown := by
    rcases phase with phase | phase <;> simp [phase] at shown

theorem Books.post (books : game.Books) (keeps : game.KeepsOut) {next : SameBrainPhase}
    (scores : game.Scores result) (shown : next ≠ .lobby) : (game.post result next).Books where
  settled standing mem := by
    obtain ⟨old, listed, rfl⟩ := mem_map.mp mem
    exact (books.settled old listed).award
  lobby lobby := absurd lobby shown
  posted _ := by
    have posted : game.Posted game.history result := by
      refine ⟨scores.1, fun standing mem inside house entry earlier named => ?_⟩
      have playing := scores.2 standing mem inside
      have here : standing.left = false := by
        cases left : standing.left with
        | false => rfl
        | true => exact absurd (keeps standing mem left) (by simp [playing])
      have out := (books.settled standing mem).out here
      rw [playing, house, Bool.true_and] at out
      exact any_eq_false.mp out.symm entry earlier (beq_iff_eq.mpr named)
    have later : (game.post result next).Posted game.history result := posted.map (Standing.award game.eliminates result 1) (fun _ => rfl) rfl rfl
    exact ⟨game.history, result, result, rfl, rfl, rfl, later, later⟩

theorem set_last {α : Type} (items : List α) (last next : α) :
    (items ++ [last]).set ((items ++ [last]).length - 1) next = items ++ [next] := by simp

theorem Books.amend (books : game.Books) {next : SameBrainRoundResult} (revealed : game.phase = .reveal)
    (current : game.result = some result)
    (regrouped : game.baseline = some next ∨ next.Proper ∧ next.members.Perm result.members) : (game.amend result next).Books := by
  obtain ⟨prior, last, base, listed, same, baseline, first, second⟩ := books.posted (.inr revealed)
  obtain rfl : result = last := some.inj (current.symm.trans same)
  have amended : (game.amend result next).history = prior ++ [next] := by
    simp only [Game.amend, listed]
    exact set_last prior result next
  have posted : game.Posted prior next := by
    rcases regrouped with put_back | ⟨proper, groups⟩
    · rwa [some.inj (put_back.symm.trans baseline)]
    · exact ⟨proper, fun standing mem inside => first.2 standing mem (groups.mem_iff.mp inside)⟩
  constructor
  · intro standing mem
    obtain ⟨old, listed', rfl⟩ := mem_map.mp mem
    rw [amended]
    refine (Settled.unaward (listed ▸ books.settled old listed') fun odd house => ?_).award
    exact first.2 old listed' (first.1.odd old.id odd) house
  · intro lobby
    exact nomatch revealed.symm.trans lobby
  · intro _
    have awarded {entry : SameBrainRoundResult} (posted : game.Posted prior entry) : (game.amend result next).Posted prior entry :=
      posted.map (fun standing => (standing.award game.eliminates result (-1)).award game.eliminates next 1) (fun _ => rfl) rfl rfl
    exact ⟨prior, next, base, amended, rfl, baseline, awarded posted, awarded second⟩

theorem Books.depart (books : game.Books) {id : Nat} (begun : game.phase ≠ .lobby) : (game.depart id).Books where
  settled standing mem := by
    obtain ⟨old, listed, rfl⟩ := mem_map.mp mem
    exact (books.settled old listed).depart
  lobby lobby := absurd lobby begun
  posted shown := by
    obtain ⟨prior, last, base, listed, same, baseline, first, second⟩ := books.posted shown
    exact ⟨prior, last, base, listed, same, baseline, first.map (Standing.depart id) (fun _ => Standing.depart_id) rfl rfl,
      second.map (Standing.depart id) (fun _ => Standing.depart_id) rfl rfl⟩

theorem Books.finish (books : game.Books) : game.finish.Books :=
  books.moved rfl rfl rfl nofun fun shown => by rcases shown with shown | shown <;> cases shown

theorem Books.ask (books : game.Books) {round : Nat} : (game.ask round).Books :=
  books.moved rfl rfl rfl nofun fun shown => by rcases shown with shown | shown <;> cases shown

end Game

open Game in
theorem Turn.books (turn : Turn game act next) (tidy : game.Tidy) (books : game.Books)
    (keeps : game.KeepsOut) : next.Books := by
  cases turn with
  | calm => exact books
  | gathered lobby seated =>
    have history := books.lobby lobby
    have fresh (standing : Standing) (mem : standing ∈ game.standings) : standing.IsFresh := by
      obtain ⟨score, alone, out⟩ := books.settled standing mem
      have left := tidy.present lobby standing mem
      rw [history] at score alone out
      have out := out left
      obtain ⟨id, score, alone, out, left⟩ := standing
      simp_all [Standing.IsFresh]
    refine .begun history (fun standing mem => ?_) (.inl lobby)
    exact (seated standing mem).elim (fresh standing) id
  | started lobby fresh => exact .begun rfl fresh (.inr rfl)
  | skipped | goesOn => exact books.ask
  | opened => exact books.moved rfl rfl rfl nofun fun shown => by rcases shown with shown | shown <;> cases shown
  | closed open_ scores shown =>
    refine books.post keeps scores ?_
    rcases shown with rfl | rfl <;> decide
  | shown said => exact books.moved rfl rfl rfl nofun fun _ => ⟨.inl said, rfl, rfl⟩
  | concluded => exact books.finish
  | amended revealed current regrouped => exact books.amend revealed current regrouped
  | removed begun | left begun => exact books.depart begun
  | walkedOut begun => exact (books.depart begun).finish
  | stopped => exact books.finish
  | again fresh _ reset =>
    rcases reset with rfl | rfl
    · exact .begun rfl fresh (.inr rfl)
    · exact .begun rfl fresh (.inl rfl)

/-! ### Whoever has left is out -/

/-- A correction of this act leaves the odd one out who has left the odd one out. -/
def Act.KeepsDeparted (act : Act) (game : Game) : Prop :=
  match act with
  | .correct next => game.KeepsDeparted next
  | _ => True

instance {game : Game} : (act : Act) → Decidable (act.KeepsDeparted game)
  | .correct next => inferInstanceAs (Decidable (game.KeepsDeparted next))
  | .other | .leave _ | .stop | .again => .isTrue trivial

namespace Game

theorem KeepsOut.map {change : Standing → Standing} (keeps : game.KeepsOut)
    (kept : ∀ standing, (standing.left → standing.out) → (change standing).left → (change standing).out) {next : Game}
    (standings : next.standings = game.standings.map change) : next.KeepsOut := by
  intro standing mem
  rw [standings] at mem
  obtain ⟨old, listed, rfl⟩ := mem_map.mp mem
  exact kept old (keeps old listed)

theorem KeepsOut.fresh (fresh : ∀ standing ∈ game.standings, standing.IsFresh) : game.KeepsOut := by
  intro standing mem left
  rw [fresh standing mem] at left
  cases left

theorem KeepsOut.depart (keeps : game.KeepsOut) (id : Nat) : (game.depart id).KeepsOut := by
  refine @KeepsOut.map _ (Standing.depart id) keeps (fun standing kept => ?_) _ rfl
  unfold Standing.depart
  split
  · exact fun _ => rfl
  · exact kept

theorem Standing.award_one_out {eliminates : Bool}     (kept : standing.left → standing.out) : (standing.award eliminates result 1).left → (standing.award eliminates result 1).out := by
  simp only [Standing.award]
  split
  · exact fun _ => rfl
  · exact kept

theorem amend_keepsOut (keeps : game.KeepsOut) {next : SameBrainRoundResult} (current : game.result = some result) :
    (game.amend result next).KeepsOut ↔ game.KeepsDeparted next := by
  constructor
  · intro kept house named same standing mem odd left
    obtain rfl : result = named := some.inj (current.symm.trans same)
    have out := kept _ (mem_map_of_mem mem) left
    by_contra other
    simp [Standing.award, odd, house, other] at out
  · intro departed standing mem left
    obtain ⟨old, listed, rfl⟩ := mem_map.mp mem
    have out := keeps old listed left
    rw [Standing.award_out, Standing.award_id, Standing.award_out]
    by_cases other : next.oddPlayerId = some old.id ∧ game.eliminates
    · rw [if_pos other]
      rfl
    · rw [if_neg other]
      by_cases named : result.oddPlayerId = some old.id ∧ game.eliminates
      · exact absurd ⟨departed named.2 result current old listed named.1 left, named.2⟩ other
      · rwa [if_neg named]

end Game

open Game in
theorem Turn.keepsOut (turn : Turn game act next) (keeps : game.KeepsOut) : next.KeepsOut ↔ act.KeepsDeparted game := by
  cases turn with
  | amended _ current => exact amend_keepsOut keeps current
  | calm | skipped | opened | shown | goesOn | concluded | stopped => exact iff_of_true keeps trivial
  | gathered lobby seated =>
    refine iff_of_true (fun standing mem left => ?_) trivial
    rcases seated standing mem with old | fresh
    · exact keeps standing old left
    · rw [fresh] at left
      cases left
  | started _ fresh => exact iff_of_true (.fresh fresh) trivial
  | closed =>
    refine iff_of_true (@KeepsOut.map _ (Standing.award game.eliminates _ 1) keeps (fun _ => Standing.award_one_out) _ rfl) trivial
  | removed | left | walkedOut => exact iff_of_true (keeps.depart _) trivial
  | again fresh _ reset =>
    refine iff_of_true ?_ trivial
    rcases reset with rfl | rfl
    · exact .fresh fresh
    · exact .fresh fresh

/-! ### Putting a round back -/

inductive Since (scored game : Game) : Prop
  | anotherGame (later : scored.gameNumber < game.gameNumber)
  | laterRound (same : game.gameNumber = scored.gameNumber) (begun : game.phase ≠ .lobby) (later : scored.round < game.round)
  | ended (same : game.gameNumber = scored.gameNumber) (ended : game.phase = .ending)
  | showing (same : game.gameNumber = scored.gameNumber) (round : game.round = scored.round)
      (showing : game.phase = .sayIt ∨ game.phase = .reveal) (baseline : game.baseline = scored.baseline)
      (eliminates : game.eliminates = scored.eliminates) (history : game.history.dropLast = scored.history.dropLast)
      (stay : Forall₂ (fun before after => after.id = before.id ∧ (before.left → after.left)) scored.standings game.standings)

section
variable {scored : Game}

theorem stay_map {before after : List Standing} (change : Standing → Standing) (same : ∀ standing, (change standing).id = standing.id)
    (left : ∀ standing, standing.left → (change standing).left)
    (stay : Forall₂ (fun before after => after.id = before.id ∧ (before.left → after.left)) before after) :
    Forall₂ (fun before after => after.id = before.id ∧ (before.left → after.left)) before (after.map change) :=
  forall₂_map_right_iff.mpr (stay.imp fun _ standing kept => ⟨(same standing).trans kept.1, left standing ∘ kept.2⟩)

theorem Standing.depart_left {id : Nat} (gone : standing.left) : (standing.depart id).left := by
  unfold Standing.depart
  split
  · rfl
  · exact gone

theorem Turn.gameNumber (turn : Turn game act next) : game.gameNumber ≤ next.gameNumber := by
  cases turn with
  | again _ _ reset => rcases reset with rfl | rfl <;> exact Nat.le_succ _
  | _ => exact Nat.le_refl _

theorem Turn.since (turn : Turn game act next) (since : Since scored game) : Since scored next := by
  cases since with
  | anotherGame later => exact .anotherGame (Nat.lt_of_lt_of_le later turn.gameNumber)
  | laterRound same begun later =>
    cases turn with
    | calm | amended | removed | left => exact .laterRound same begun later
    | opened | shown | concluded | walkedOut | stopped => exact .laterRound same nofun later
    | closed _ _ shown =>
      refine .laterRound same ?_ later
      rcases shown with rfl | rfl <;> exact nofun
    | gathered lobby | started lobby => exact absurd lobby begun
    | skipped => exact .laterRound same nofun (show scored.round < game.round - 1 + 1 by omega)
    | goesOn => exact .laterRound same nofun (Nat.lt_succ_of_lt later)
    | again _ _ reset =>
      refine .anotherGame ?_
      rcases reset with rfl | rfl <;> exact same ▸ Nat.lt_succ_self _
  | ended same ended =>
    cases turn with
    | calm | removed | left => exact .ended same ended
    | walkedOut | stopped => exact .ended same rfl
    | gathered lobby | started lobby => exact nomatch ended.symm.trans lobby
    | skipped asked => rcases asked with asked | asked <;> exact nomatch ended.symm.trans asked
    | opened asked => exact nomatch ended.symm.trans asked
    | closed open_ => exact nomatch ended.symm.trans open_
    | shown said => exact nomatch ended.symm.trans said
    | goesOn revealed | concluded revealed | amended revealed => exact nomatch ended.symm.trans revealed
    | again _ _ reset =>
      refine .anotherGame ?_
      rcases reset with rfl | rfl <;> exact same ▸ Nat.lt_succ_self _
  | showing same round showing baseline eliminates history stay =>
    cases turn with
    | calm => exact .showing same round showing baseline eliminates history stay
    | shown => exact .showing same round (.inr rfl) baseline eliminates history stay
    | amended =>
      refine .showing same round showing baseline eliminates ?_ (stay_map _ (fun _ => rfl) (fun _ => id) stay)
      simp [Game.amend, ← history, List.dropLast_eq_take, List.take_set_of_le (Nat.le_refl _)]
    | removed | left =>
      exact .showing same round showing baseline eliminates history
        (stay_map _ (fun _ => Standing.depart_id) (fun _ => Standing.depart_left) stay)
    | concluded | walkedOut | stopped => exact .ended same rfl
    | goesOn => exact .laterRound same nofun (show scored.round < game.round + 1 by omega)
    | gathered lobby | started lobby => rcases showing with phase | phase <;> exact nomatch phase.symm.trans lobby
    | skipped asked => rcases showing with phase | phase <;> rcases asked with asked | asked <;> exact nomatch phase.symm.trans asked
    | opened asked => rcases showing with phase | phase <;> exact nomatch phase.symm.trans asked
    | closed open_ => rcases showing with phase | phase <;> exact nomatch phase.symm.trans open_
    | again _ _ reset =>
      refine .anotherGame ?_
      rcases reset with rfl | rfl <;> exact same ▸ Nat.lt_succ_self _

open Game in
theorem Since.restores (since : Since scored game) (sameGame : game.gameNumber = scored.gameNumber)
    (sameRound : game.round = scored.round) (revealed : game.phase = .reveal) {base : SameBrainRoundResult}
    (current : game.result = some result) (baseline : game.baseline = some base) (uncorrected : scored.result = scored.baseline)
    (shown : scored.phase = .sayIt ∨ scored.phase = .reveal) (books : scored.Books)
    (found : game.Books) (kept : (game.amend result base).KeepsOut) :
    (game.amend result base).history = scored.history ∧
    Forall₂ (fun before after => after.id = before.id ∧ after.score = before.score ∧ after.aloneCount = before.aloneCount ∧
      after.out = (before.out || after.left)) scored.standings (game.amend result base).standings := by
  cases since with
  | anotherGame later => exact absurd (sameGame ▸ later) (Nat.lt_irrefl _)
  | laterRound _ _ later => exact absurd (sameRound ▸ later) (Nat.lt_irrefl _)
  | ended _ ended => exact nomatch ended.symm.trans revealed
  | showing _ _ _ same eliminates history stay =>
    obtain ⟨prior, last, kept_base, listed, first, second, -⟩ := books.posted shown
    have based : base = last := some.inj (baseline.symm.trans (same.trans (uncorrected.symm.trans first)))
    have restored : (game.amend result base).history = scored.history := by
      obtain ⟨earlier, latest, -, now, -⟩ := found.posted (.inr revealed)
      rw [listed, now, List.dropLast_concat, List.dropLast_concat] at history
      simp only [Game.amend, now, history, listed, based]
      exact set_last prior latest last
    have stay := stay_map (fun standing => (standing.award game.eliminates result (-1)).award game.eliminates base 1)
      (fun _ => rfl) (fun _ => id) stay
    refine ⟨restored, List.forall₂_iff_zip.mpr ⟨stay.length_eq, fun {before after} pair => ?_⟩⟩
    obtain ⟨mem, inside⟩ := List.of_mem_zip pair
    obtain ⟨named, stays⟩ := List.forall₂_zip stay pair
    have settled := books.settled before mem
    have settled' := (found.amend revealed current (.inl baseline)).settled after inside
    rw [restored, show (game.amend result base).eliminates = scored.eliminates from eliminates] at settled'
    refine ⟨named, ?_, ?_, ?_⟩
    · rw [settled'.score, settled.score, named]
    · rw [settled'.aloneCount, settled.aloneCount, named]
    · cases gone : after.left with
      | true => simp [kept after inside gone]
      | false =>
        have here : before.left = false := by
          by_contra left_before
          simp [stays (by simpa using left_before)] at gone
        rw [settled'.out gone, settled.out here, named, Bool.or_false]

end

end MilkAndHenny.SameBrain

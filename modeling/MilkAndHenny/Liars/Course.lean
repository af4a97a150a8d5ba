import MilkAndHenny.Liars.Dawn

/-! The course of the games in a room: which game and which round it is, what everybody has chosen
and how they fare, and all the clocks. Narrations, cards and presence leave it alone, and every
command is one deed after what time has brought. -/

namespace MilkAndHenny.Liars
open Library

variable {ctx : GameContext} {room : LiarsRoom} {now : Int}

/-- When the parts of a dawn are due. -/
structure DawnClock where
  nameLandsAt : Int
  holdUntil : Int
  reviveAt : Option Int
  settleAt : Int

def LiarsDawn.clock (dawn : LiarsDawn) : DawnClock := ⟨dawn.nameLandsAt, dawn.holdUntil, dawn.reviveAt, dawn.settleAt⟩

def DawnClock.shift (clock : DawnClock) (shift : Int) : DawnClock :=
  ⟨clock.nameLandsAt + shift, clock.holdUntil + shift, clock.reviveAt.map (· + shift), clock.settleAt + shift⟩

structure Clock where
  phaseStartedAt : Int
  phaseEndsAt : Int
  nightOpensAt : Option Int
  reportAt : Option Int
  pausedAt : Option Int
  dawn : Option DawnClock

def Clock.shift (clock : Clock) (shift : Int) : Clock :=
  { clock with
    phaseStartedAt := clock.phaseStartedAt + shift
    phaseEndsAt := clock.phaseEndsAt + shift
    nightOpensAt := clock.nightOpensAt.map (· + shift)
    reportAt := clock.reportAt.map (· + shift) }

/-- What a player has chosen and how they fare. -/
structure Trail where
  id : Nat
  role : Option LiarsRole
  alive : Bool
  deathRound : Option Nat
  deathCause : Option LiarsDeathCause
  nightTarget : Option Nat
  previousNightTarget : Option Nat
  vote : Option Nat
  graveyardVote : Option Nat
  vigilanteUsed : Bool
  guiltPending : Bool
  leftAt : Option Int

def PlayerState.trail (player : PlayerState) : Trail where
  id := player.id
  role := player.role
  alive := player.alive
  deathRound := player.deathRound
  deathCause := player.deathCause
  nightTarget := player.nightTarget
  previousNightTarget := player.previousNightTarget
  vote := player.vote
  graveyardVote := player.graveyardVote
  vigilanteUsed := player.vigilanteUsed
  guiltPending := player.guiltPending
  leftAt := player.leftAt

structure Course where
  mode : LiarsMode
  roomMode : LiarsRoomMode
  timings : LiarsTimings
  phase : LiarsPhase
  gameNumber : Nat
  round : Nat
  winner : Option LiarsSide
  revoteUsed : Bool
  runoffIds : List Nat
  clock : Clock
  trails : List Trail

namespace Course

def enter (course : Course) (phase : LiarsPhase) (now duration : Int) : Course :=
  { course with
    phase
    clock := { course.clock with
      phaseStartedAt := now
      phaseEndsAt := now + duration
      nightOpensAt := if phase = .night then some (now + duskMs) else none
      reportAt := if phase = .night then some (now + duration - reportLeadMs) else none } }

/-- The game is over. -/
def finish (course : Course) (winner : LiarsSide) (now : Int) : Course :=
  { course with
    winner := some winner, phase := .ending
    clock := { course.clock with phaseStartedAt := now, phaseEndsAt := now } }

def nextRound (course : Course) : Course :=
  { course with
    round := course.round + 1, revoteUsed := false, runoffIds := []
    clock := { course.clock with dawn := none }
    trails := course.trails.map fun trail =>
      { trail with previousNightTarget := trail.nightTarget, nightTarget := none, vote := none } }

def again (course : Course) (tied : List Nat) : Course :=
  { course with
    revoteUsed := true, runoffIds := tied
    trails := course.trails.map fun trail => { trail with vote := none } }

/-- The night has left the players so, and a dawn is told of it. -/
def tell (course : Course) (trails : List Trail) (dawn : DawnClock) : Course :=
  { course with trails, clock := { course.clock with dawn := some dawn } }

end Course

inductive Trail.Days (old : Trail) : Trail → Prop where
  | rests : Days old old
  | recalls : Days old { old with vote := none }
  | ejected (round : Nat) : Days old { old with alive := false, deathRound := some round, deathCause := some .ejected }

/-- A step from one phase of the day to the next, or to the end of the game. -/
structure Course.Days (before after : Course) : Prop where
  game : after.gameNumber = before.gameNumber
  mode : after.mode = before.mode
  round : after.round = before.round
  leaves : before.phase ≠ .lobby ∧ before.phase ≠ .deal ∧ before.phase ≠ .night ∧ before.phase ≠ .ending
  enters : after.phase ≠ .lobby ∧ after.phase ≠ .deal ∧ after.phase ≠ .night
  trails : Forall₂ Trail.Days before.trails after.trails

namespace LiarsRoom

def clock (room : LiarsRoom) : Clock where
  phaseStartedAt := room.phaseStartedAt
  phaseEndsAt := room.phaseEndsAt
  nightOpensAt := room.nightOpensAt
  reportAt := room.reportAt
  pausedAt := room.pausedAt
  dawn := room.dawn.map LiarsDawn.clock

def trails (room : LiarsRoom) : List Trail := room.players.map PlayerState.trail

def course (room : LiarsRoom) : Course where
  mode := room.mode
  roomMode := room.roomMode
  timings := room.timings
  phase := room.phase
  gameNumber := room.gameNumber
  round := room.round
  winner := room.winner
  revoteUsed := room.revoteUsed
  runoffIds := room.runoffIds
  clock := room.clock
  trails := room.trails

section
variable {before middle after : LiarsRoom} {id : Nat}

/-! ### What leaves the course alone -/

@[simp] theorem changed_course (ctx : GameContext) (room : LiarsRoom) : (changed ctx room).course = room.course := rfl

@[simp] theorem note_course (room : LiarsRoom) (phase : HistoryPhase) (text : String) :
    (room.note phase text).course = room.course := rfl

@[simp] theorem narrate_course (ctx : GameContext) (room : LiarsRoom) (outcome : NarrationOutcome) (slots : NarrationSlots) :
    (room.narrate ctx outcome slots).2.course = room.course := by
  unfold narrate
  split <;> rfl

@[simp] theorem rememberAction_course (room : LiarsRoom) (actionId : Nat) :
    (room.rememberAction actionId).course = room.course := by
  simp [course, clock, trails, rememberAction]

theorem course_players {players : List PlayerState} (same : players.map PlayerState.trail = room.trails) :
    ({ room with players } : LiarsRoom).course = room.course := by
  simp only [course, trails, same]
  rfl

theorem updatePlayer_course {change : PlayerState → PlayerState} (same : ∀ row, (change row).trail = row.trail) :
    (room.updatePlayer id change).course = room.course := course_players (map_updateFirst same)

theorem writeNightReports_course (ctx : GameContext) (room : LiarsRoom) : (room.writeNightReports ctx).course = room.course := by
  unfold writeNightReports
  dsimp only
  split
  · rw [changed_course]
    refine course_players (map_update fun row => ?_)
    unfold withReport
    dsimp only
    split <;> rfl
  · rfl

theorem handOver_course (room : LiarsRoom) (leavingId : Nat) (now : Int) :
    (room.handOver leavingId now).course = room.course := by
  unfold handOver transferNarrator
  split
  · rfl
  · split <;> rfl

theorem touch_course (room : LiarsRoom) (playerId : Option Nat) (now : Int) (force : Bool) :
    (room.touch playerId now force).course = room.course := by
  have seats := room.touch_seats playerId now force
  obtain ⟨players, active, since, narrator, -, touched⟩ := room.touch_keeps playerId now force
  rw [touched] at seats ⊢
  refine @course_players room _ ?_
  have listed := congrArg (List.map PlayerState.trail) seats
  rwa [map_map, map_map] at listed

theorem awaken_course (ctx : GameContext) (room : LiarsRoom) (idleFor : Int) : (room.awaken ctx idleFor).course = room.course ∨
    ∃ dormant > 0, (room.awaken ctx idleFor).course =
      { room.course with clock := { room.clock.shift dormant with dawn := room.clock.dawn.map (·.shift dormant) } } := by
  unfold awaken
  extract_lets dormant shifted
  split
  · next positive =>
    refine .inr ⟨dormant, positive, ?_⟩
    rw [changed_course]
    have dawns : (room.dawn.map (LiarsDawn.shift · dormant)).map LiarsDawn.clock =
        (room.dawn.map LiarsDawn.clock).map (·.shift dormant) := by
      rw [Option.map_map, Option.map_map]
      rfl
    unfold course clock Clock.shift
    rw [dawns]
    rfl
  · exact .inl rfl

end

/-! ### What time brings -/

/-- A night or a vote that is decided, with the draws that decide it. -/
structure Decision where
  ctx : GameContext
  room : LiarsRoom
  now : Int

def decides (ctx : GameContext) (room : LiarsRoom) (now : Int) : List Decision :=
  if room.phase = .night ∨ room.phase = .vote then [⟨ctx, room, now⟩] else []

def dues (ctx : GameContext) (now : Int) : Nat → LiarsRoom → List LiarsRoom
  | 0, _ => []
  | guard + 1, room => if room.overdue now then room :: dues ctx now guard (room.transition ctx) else []

/-- What time decides before a command acts. -/
def awaited (ctx : GameContext) (room : LiarsRoom) (playerId : Option Nat) (force : Bool) : List Decision :=
  let touched := room.touch playerId ctx.now force
  if touched.phase = .lobby ∨ touched.phase = .ending ∨ touched.pausedAt.isSome then []
  else (dues ctx ctx.now 8 (touched.awaken ctx (room.idleFor ctx.now))).flatMap fun due => decides ctx due due.phaseEndsAt

/-- What time does to the course: a room that nobody watches stands still, and transitions fall due. -/
inductive Passes (ctx : GameContext) : LiarsRoom → List Decision → LiarsRoom → Prop where
  | rests {room after : LiarsRoom} (same : after.course = room.course) : Passes ctx room [] after
  | still {room middle after : LiarsRoom} {made : List Decision} (same : middle.course = room.course)
      (rest : Passes ctx middle made after) :
      Passes ctx room made after
  | woken {room middle after : LiarsRoom} {made : List Decision} {dormant : Int} (positive : 0 < dormant)
      (unpaused : room.pausedAt = none)
      (shifted : middle.course =
        { room.course with clock := { room.clock.shift dormant with dawn := room.clock.dawn.map (·.shift dormant) } })
      (rest : Passes ctx middle made after) : Passes ctx room made after
  | due {room after : LiarsRoom} {made : List Decision} (overdue : room.overdue ctx.now) (unpaused : room.pausedAt = none)
      (rest : Passes ctx (room.transition ctx) made after) : Passes ctx room (decides ctx room room.phaseEndsAt ++ made) after

/-! ### What the functions of the engine do to the course -/

theorem enterPhase_course (ctx : GameContext) (room : LiarsRoom) (phase : LiarsPhase) (now : Int) :
    (room.enterPhase ctx phase now).course = room.course.enter phase now (room.phaseDuration phase) := rfl

theorem finish_course (ctx : GameContext) (room : LiarsRoom) (winner : LiarsSide) (now : Int) :
    (room.finish ctx winner now).course = room.course.finish winner now := rfl

theorem checkWinner_course (ctx : GameContext) (room : LiarsRoom) (now : Int) (jester : Option Nat) :
    (∃ winner, ((room.checkWinner ctx now jester).getD room).course = room.course.finish winner now) ∨
      (room.checkWinner ctx now jester).getD room = room := by
  unfold checkWinner
  cases room.detectWinner room.living jester with
  | none => exact .inr rfl
  | some winner => exact .inl ⟨winner, rfl⟩

def roundPhase : LiarsMode → LiarsPhase
  | .mafia => .night
  | .imposter => .clue

theorem clearRoundState_course (room : LiarsRoom) :
    ({ ({ room with round := room.round + 1 } : LiarsRoom).clearRoundState with dawn := none } : LiarsRoom).course =
      room.course.nextRound := by
  simp only [course, clearRoundState, trails, map_map, Course.nextRound]
  rfl

theorem startRound_course (ctx : GameContext) (room : LiarsRoom) (now : Int) :
    ∃ table : LiarsRoom, table.course = room.course.nextRound ∧ table.living.length = room.living.length ∧
      (room.startRound ctx now).course =
        room.course.nextRound.enter (roundPhase room.mode) now (table.phaseDuration (roundPhase room.mode)) := by
  have cleared := room.clearRoundState_course
  have living : ({ ({ room with round := room.round + 1 } : LiarsRoom).clearRoundState with dawn := none } : LiarsRoom).living.length =
      room.living.length := by
    simp only [clearRoundState, LiarsRoom.living, ← countP_eq_length_filter, countP_map]
    rfl
  unfold startRound
  dsimp only
  generalize ({ ({ room with round := room.round + 1 } : LiarsRoom).clearRoundState with dawn := none } : LiarsRoom)
    = table at cleared living ⊢
  cases room.mode with
  | imposter =>
    refine ⟨{ table with clueOrder := shuffle (ctx.pick table.revision 0) (table.living.map (·.id)), clueIndex := 0
                         clueRound := table.clueRound + 1, clueFinishedBy := [] }, cleared, living, ?_⟩
    rw [← cleared]
    rfl
  | mafia =>
    refine ⟨table, cleared, living, ?_⟩
    rw [← cleared]
    rfl

theorem course_deserted {before after : LiarsRoom} (same : after.deserted = before.deserted) :
    after.course = { before.course with trails := after.trails } := by
  have apart (room : LiarsRoom) : { room.course with trails := [] } = room.deserted.course := rfl
  calc after.course = { ({ after.course with trails := [] } : Course) with trails := after.trails } := rfl
    _ = { ({ before.course with trails := [] } : Course) with trails := after.trails } := by rw [apart, same, ← apart]

theorem armed_deserted (room : LiarsRoom) : room.armed.deserted = room.deserted := by
  unfold armed
  split
  · cases room.nightPlan.vigilanteId <;> rfl
  · rfl

theorem nightOutcome_course (ctx : GameContext) (room : LiarsRoom) :
    (room.nightOutcome ctx).room.course = { room.course with trails := (room.nightOutcome ctx).room.trails } := by
  rw [← writeNightReports_course ctx room]
  exact course_deserted (nightOutcome_night ctx room).same

theorem notes_course (names : List String) (room : LiarsRoom) :
    (names.foldl (fun room name => room.note .night (name ++ " was seen moving.")) room).course = room.course := by
  induction names generalizing room with
  | nil => rfl
  | cons name names ih => exact ih _

theorem dawnNarration_course (ctx : GameContext) (room : LiarsRoom) (deaths : List LiarsDeathEvent) :
    (room.dawnNarration ctx deaths).2.course = room.course := by
  unfold dawnNarration
  split
  · exact narrate_course ..
  · split
    · split
      · exact narrate_course ..
      · rfl
    · split <;> exact narrate_course ..

theorem tellDawn_course (ctx : GameContext) (outcome : NightOutcome) (now : Int) :
    ∃ dawn, (tellDawn ctx outcome now).course = outcome.room.course.tell outcome.room.trails dawn := by
  have same := dawnNarration_course ctx outcome.room outcome.deaths
  unfold tellDawn
  generalize outcome.room.dawnNarration ctx outcome.deaths = line at same ⊢
  obtain ⟨narration, told⟩ := line
  refine ⟨(dawnOf outcome narration now).clock, ?_⟩
  change told.course = outcome.room.course at same
  rw [notes_course, note_course]
  calc _ = told.course.tell told.course.trails (dawnOf outcome narration now).clock := rfl
    _ = outcome.room.course.tell outcome.room.trails (dawnOf outcome narration now).clock := by
      rw [same]
      rfl

def Lasts (room : LiarsRoom) (phase : LiarsPhase) (duration : Int) : Prop :=
  ∃ table : LiarsRoom, table.timings = room.timings ∧ table.phaseDuration phase = duration

inductive Leads (ctx : GameContext) (room : LiarsRoom) (now : Int) : Course → Prop where
  | round {duration : Int} (phase : room.phase = .deal ∨ room.phase = .verdict)
      (lasts : room.Lasts (roundPhase room.mode) duration) :
      Leads ctx room now (room.course.nextRound.enter (roundPhase room.mode) now duration)
  | dawn {dawn : DawnClock} {duration : Int} (phase : room.phase = .night) (lasts : room.Lasts .dawn duration) :
      Leads ctx room now ((room.course.tell (room.nightOutcome ctx).room.trails dawn).enter .dawn now duration)
  | lastDawn {dawn : DawnClock} {duration : Int} {winner : LiarsSide} (phase : room.phase = .night) :
      Leads ctx room now (((room.course.tell (room.nightOutcome ctx).room.trails dawn).enter .dawn now duration).finish winner now)
  | clue (phase : room.phase = .clue) :
      Leads ctx room now { room.course with clock := { room.clock with phaseStartedAt := now, phaseEndsAt := now + room.timings.clueTurn } }
  | circle {duration : Int} (phase : room.phase = .clue) (lasts : room.Lasts .clue duration) :
      Leads ctx room now (room.course.enter .clue now duration)
  | talk {duration : Int} (phase : room.phase = .clue ∨ room.phase = .dawn) (lasts : room.Lasts .deliberation duration) :
      Leads ctx room now (room.course.enter .deliberation now duration)
  | call {duration : Int} (phase : room.phase = .deliberation) (lasts : room.Lasts .vote duration) :
      Leads ctx room now (room.course.enter .vote now duration)
  | again {duration : Int} (phase : room.phase = .vote) (nobody : room.votedOut = none) (unused : room.revoteUsed = false)
      (level : 1 < (tiedIds room.ballots).length) (lasts : room.Lasts .vote duration) :
      Leads ctx room now ((room.course.again (tiedIds room.ballots)).enter .vote now duration)
  | stands {duration : Int} (phase : room.phase = .vote) (nobody : room.votedOut = none)
      (settled : room.revoteUsed = false → (tiedIds room.ballots).length ≤ 1) (lasts : room.Lasts .verdict duration) :
      Leads ctx room now (room.course.enter .verdict now duration)
  | ejects {ejected : PlayerState} {duration : Int} (phase : room.phase = .vote) (voted : room.votedOut = some ejected)
      (lasts : room.Lasts .verdict duration) :
      Leads ctx room now (({ room.course with trails := (room.kill ejected.id .ejected).trails } : Course).enter .verdict now duration)
  | asks {duration : Int} (phase : room.phase = .verdict) (lasts : room.Lasts .finalGuess duration) :
      Leads ctx room now (room.course.enter .finalGuess now duration)
  | concludes {winner : LiarsSide} (phase : room.phase = .verdict ∨ room.phase = .finalGuess) :
      Leads ctx room now (room.course.finish winner now)

theorem startRound_leads (phase : room.phase = .deal ∨ room.phase = .verdict) :
    Leads ctx room now (room.startRound ctx now).course := by
  obtain ⟨table, cleared, -, started⟩ := room.startRound_course ctx now
  rw [started]
  exact .round phase ⟨table, congrArg Course.timings cleared, rfl⟩

theorem resolveNight_leads (phase : room.phase = .night) : Leads ctx room now (room.resolveNight ctx now).course := by
  obtain ⟨dawn, told⟩ := tellDawn_course ctx (room.nightOutcome ctx) now
  rw [nightOutcome_course] at told
  simp only [resolveNight]
  generalize tellDawn ctx (room.nightOutcome ctx) now = table at told ⊢
  have entered := enterPhase_course ctx table .dawn now
  have lasts : room.Lasts .dawn (table.phaseDuration .dawn) := ⟨table, congrArg Course.timings told, rfl⟩
  rw [told] at entered
  generalize table.enterPhase ctx .dawn now = morning at entered ⊢
  rcases checkWinner_course ctx morning now none with ⟨winner, ended⟩ | same
  · rw [ended, entered]
    exact .lastDawn phase
  · rw [same, entered]
    exact .dawn phase lasts

theorem startClueRound_course (ctx : GameContext) (room : LiarsRoom) (now : Int) :
    ∃ table : LiarsRoom, table.timings = room.timings ∧
      (room.startClueRound ctx now).course = room.course.enter .clue now (table.phaseDuration .clue) :=
  ⟨{ room with clueOrder := shuffle (ctx.pick room.revision 0) (room.living.map (·.id)), clueIndex := 0
               clueRound := room.clueRound + 1, clueFinishedBy := [] }, rfl, rfl⟩

theorem advanceClue_leads (phase : room.phase = .clue) {table : LiarsRoom} (same : table.course = room.course) :
    Leads ctx room now (table.advanceClue ctx now).course := by
  have timed : table.timings = room.timings := congrArg Course.timings same
  simp only [advanceClue]
  generalize
    (if table.roomMode ≠ .remote ∧ table.phaseEndsAt ≤ now then table.clueOrder.length else table.clueIndex + 1) = clueIndex
  split
  · have waits : Leads ctx room now
        { table.course with clock := { table.course.clock with phaseStartedAt := now, phaseEndsAt := now + table.timings.clueTurn } } := by
      rw [same, timed]
      exact .clue phase
    exact waits
  · split
    · obtain ⟨seated, times, circled⟩ := startClueRound_course ctx { table with clueIndex } now
      have again : Leads ctx room now (table.course.enter .clue now (seated.phaseDuration .clue)) := by
        rw [same]
        exact .circle phase ⟨seated, times.trans timed, rfl⟩
      rw [circled]
      exact again
    · have talks : Leads ctx room now (table.course.enter .deliberation now (({ table with clueIndex } : LiarsRoom).phaseDuration .deliberation)) := by
        rw [same]
        exact .talk (.inl phase) ⟨_, timed, rfl⟩
      exact talks

theorem resolveTie_leads (phase : room.phase = .vote) (nobody : room.votedOut = none) :
    Leads ctx room now ((room.declare none).resolveTie ctx now).course := by
  have declared : (room.declare none).course = room.course := rfl
  have ballots : (room.declare none).ballots = room.ballots := rfl
  have used : (room.declare none).revoteUsed = room.revoteUsed := rfl
  have timed : (room.declare none).timings = room.timings := rfl
  generalize room.declare none = table at *
  unfold resolveTie
  dsimp only
  rw [ballots, used]
  split
  · next first =>
    obtain ⟨unused, level⟩ := and_eq_true_iff.mp first
    rw [not_eq_true'] at unused
    rw [enterPhase_course, note_course]
    have cleared : ({ table with revoteUsed := true, runoffIds := tiedIds room.ballots
                                 players := table.players.map fun player =>
                                   { player with vote := none, voteLocked := false } } : LiarsRoom).course =
        table.course.again (tiedIds room.ballots) := by
      simp only [course, trails, map_map, Course.again]
      rfl
    rw [cleared, declared]
    exact .again phase nobody unused (of_decide_eq_true level) ⟨_, timed, rfl⟩
  · next stands =>
    have settled : room.revoteUsed = false → (tiedIds room.ballots).length ≤ 1 := by
      intro unused
      rw [unused] at stands
      simpa using stands
    generalize line : table.narrate ctx .tie {} = told
    have same : told.2.course = table.course := by rw [← line, narrate_course]
    rw [enterPhase_course, note_course, same, declared]
    refine .stands phase nobody settled ⟨told.2.note .day told.1, ?_, rfl⟩
    exact (congrArg Course.timings same).trans timed

theorem countEjection_course (room : LiarsRoom) (role : LiarsRole) : (room.countEjection role).course = room.course := by
  unfold countEjection
  split
  · split <;> rfl
  · rfl

theorem eject_leads (phase : room.phase = .vote) {ejected : PlayerState} (voted : room.votedOut = some ejected) :
    Leads ctx room now ((room.declare (some ejected)).eject ctx ejected now).course := by
  have killed : ((room.declare (some ejected)).kill ejected.id .ejected).course =
      { room.course with trails := (room.kill ejected.id .ejected).trails } := rfl
  unfold eject
  dsimp only
  generalize (room.declare (some ejected)).kill ejected.id .ejected = dead at killed ⊢
  generalize (if ejected.played = .jester then some ejected.id else dead.ejectedJesterId) = jester
  generalize named : ({ dead with ejectedJesterId := jester } : LiarsRoom).countEjection ejected.played = counted
  have same : counted.course = dead.course := by
    rw [← named, countEjection_course]
    rfl
  generalize line :
      counted.narrate ctx (if liarsRoleSide ejected.played = .mafia then .ejectedGuilty else .ejectedInnocent) _ = told
  have told_course : told.2.course = counted.course := by rw [← line, narrate_course]
  have course := (told_course.trans same).trans killed
  rw [enterPhase_course, note_course, course]
  refine .ejects phase voted ⟨told.2.note .day told.1, ?_, rfl⟩
  exact congrArg Course.timings course

theorem resolveVote_leads (phase : room.phase = .vote) : Leads ctx room now (room.resolveVote ctx now).course := by
  unfold resolveVote
  split
  · next nobody => exact resolveTie_leads phase nobody
  · next ejected voted => exact eject_leads phase voted

theorem afterVerdict_leads (phase : room.phase = .verdict) : Leads ctx room now (room.afterVerdict ctx now).course := by
  unfold afterVerdict
  split
  · next finished wins =>
    obtain ⟨winner, -, rfl⟩ := map_eq_some_iff.mp wins
    exact .concludes (.inl phase)
  · split
    · exact .asks phase ⟨{ room with finalGuessCorrect := none }, rfl, rfl⟩
    · exact startRound_leads (.inr phase)

theorem resolveFinalGuess_leads (phase : room.phase = .finalGuess) (guess : Option String) :
    Leads ctx room now (room.resolveFinalGuess ctx now guess).course := by
  unfold resolveFinalGuess
  extract_lets normalise attempt correct word text noted
  have same : noted.course = room.course := rfl
  clear_value noted
  unfold checkWinner
  cases noted.detectWinner noted.living none with
  | none =>
    rw [map_none, getD_none, finish_course, same]
    exact .concludes (.inr phase)
  | some =>
    rw [map_some, getD_some, finish_course, same]
    exact .concludes (.inr phase)

theorem transition_leads (running : room.phase ≠ .lobby ∧ room.phase ≠ .ending) :
    Leads ctx room room.phaseEndsAt (room.transition ctx).course := by
  unfold transition
  cases phase : room.phase with
  | lobby => exact absurd phase running.1
  | ending => exact absurd phase running.2
  | deal => exact startRound_leads (.inl phase)
  | night => exact resolveNight_leads phase
  | clue => exact advanceClue_leads phase rfl
  | dawn => exact .talk (.inr phase) ⟨room, rfl, rfl⟩
  | deliberation => exact .call phase ⟨room, rfl, rfl⟩
  | vote => exact resolveVote_leads phase
  | verdict => exact afterVerdict_leads phase
  | finalGuess => exact resolveFinalGuess_leads phase none

theorem overdue_running (due : room.overdue now) :
    room.winner = none ∧ room.phaseEndsAt ≤ now ∧ room.phase ≠ .lobby ∧ room.phase ≠ .ending := by
  simp only [overdue, and_eq_true, decide_eq_true_eq, isNone_iff_eq_none, bne_iff_ne] at due
  obtain ⟨⟨⟨won, ended⟩, lobby⟩, ending⟩ := due
  exact ⟨won, ended, lobby, ending⟩

theorem Leads.keeps {course : Course} (leads : Leads ctx room now course) :
    course.mode = room.mode ∧ course.roomMode = room.roomMode ∧ course.timings = room.timings ∧
      course.gameNumber = room.gameNumber ∧
      course.clock.pausedAt = room.pausedAt := by
  cases leads <;> exact ⟨rfl, rfl, rfl, rfl, rfl⟩

theorem Leads.sorts {course : Course} (leads : Leads ctx room now course) :
    ((room.phase = .deal ∨ room.phase = .verdict) ∧
      ∃ duration, course = room.course.nextRound.enter (roundPhase room.mode) now duration) ∨
    (room.phase = .night ∧ course.gameNumber = room.gameNumber ∧ course.mode = room.mode ∧ course.round = room.round ∧
      (course.phase = .dawn ∨ course.phase = .ending) ∧ course.trails = (room.nightOutcome ctx).room.trails) ∨
    room.course.Days course := by
  have still (next : LiarsPhase) (leaves : room.phase ≠ .lobby ∧ room.phase ≠ .deal ∧ room.phase ≠ .night ∧ room.phase ≠ .ending)
      (stays : course.phase = next ∧ next ≠ .lobby ∧ next ≠ .deal ∧ next ≠ .night) (game : course.gameNumber = room.gameNumber)
      (mode : course.mode = room.mode) (round : course.round = room.round)
      (trails : Forall₂ Trail.Days room.trails course.trails) :
      room.course.Days course := ⟨game, mode, round, leaves, stays.1 ▸ stays.2, trails⟩
  have same : Forall₂ Trail.Days room.trails room.trails := forall₂_same.mpr fun trail _ => .rests
  cases leads with
  | round phase => exact .inl ⟨phase, _, rfl⟩
  | dawn phase => exact .inr (.inl ⟨phase, rfl, rfl, rfl, .inl rfl, rfl⟩)
  | lastDawn phase => exact .inr (.inl ⟨phase, rfl, rfl, rfl, .inr rfl, rfl⟩)
  | clue phase => exact .inr (.inr (still .clue (by simp [phase]) ⟨phase, by simp⟩ rfl rfl rfl same))
  | circle phase => exact .inr (.inr (still .clue (by simp [phase]) ⟨rfl, by simp⟩ rfl rfl rfl same))
  | talk phase => exact .inr (.inr (still .deliberation (by rcases phase with phase | phase <;> simp [phase]) ⟨rfl, by simp⟩ rfl rfl rfl same))
  | call phase => exact .inr (.inr (still .vote (by simp [phase]) ⟨rfl, by simp⟩ rfl rfl rfl same))
  | again phase =>
    refine .inr (.inr (still .vote (by simp [phase]) ⟨rfl, by simp⟩ rfl rfl rfl ?_))
    exact forall₂_map_right_iff.mpr (forall₂_same.mpr fun trail _ => .recalls)
  | stands phase => exact .inr (.inr (still .verdict (by simp [phase]) ⟨rfl, by simp⟩ rfl rfl rfl same))
  | @ejects ejected duration phase =>
    refine .inr (.inr (still .verdict (by simp [phase]) ⟨rfl, by simp⟩ rfl rfl rfl ?_))
    have dies : (room.kill ejected.id .ejected).trails = updateFirst room.trails (·.id == ejected.id) fun trail =>
        { trail with alive := false, deathRound := some room.round, deathCause := some .ejected } :=
      map_updateFirst_through (fun _ => rfl) fun _ => rfl
    change Forall₂ Trail.Days room.trails (room.kill ejected.id .ejected).trails
    rw [dies]
    exact forall₂_updateFirst (fun _ => .rests) fun _ _ => .ejected room.round
  | asks phase => exact .inr (.inr (still .finalGuess (by simp [phase]) ⟨rfl, by simp⟩ rfl rfl rfl same))
  | concludes phase => exact .inr (.inr (still .ending (by rcases phase with phase | phase <;> simp [phase]) ⟨rfl, by simp⟩ rfl rfl rfl same))

theorem advancePhases_passes (guard : Nat) (room : LiarsRoom) (unpaused : room.pausedAt = none) :
    Passes ctx room ((dues ctx ctx.now guard room).flatMap fun due => decides ctx due due.phaseEndsAt)
      (advancePhases ctx ctx.now guard room) := by
  induction guard generalizing room with
  | zero => exact .rests rfl
  | succ guard ih =>
    unfold dues
    split
    · next due =>
      have leads : Leads ctx room room.phaseEndsAt (room.transition ctx).course := transition_leads (overdue_running due).2.2
      rw [advancePhases_overdue due, flatMap_cons]
      exact .due due unpaused (ih _ (leads.keeps.2.2.2.2.trans unpaused))
    · next rests =>
      rcases @advancePhases_rests ctx room ctx.now guard rests with same | reports
      · rw [same]
        exact .rests rfl
      · rw [reports]
        exact .rests (writeNightReports_course ctx room)

theorem attend_passes (ctx : GameContext) (room : LiarsRoom) (playerId : Option Nat) (force : Bool) :
    Passes ctx room (room.awaited ctx playerId force) (room.attend ctx playerId force) := by
  have touched := touch_course room playerId ctx.now force
  unfold attend awaited
  rw [advance_eq]
  dsimp only
  generalize room.touch playerId ctx.now force = found at touched ⊢
  refine .still touched ?_
  split
  · exact .rests rfl
  · next running =>
    have unpaused : found.pausedAt = none := by simpa using (not_or.mp (not_or.mp running).2).2
    have passes := @advancePhases_passes ctx 8 (found.awaken ctx (room.idleFor ctx.now))
    rcases awaken_course ctx found (room.idleFor ctx.now) with same | ⟨dormant, positive, shifted⟩
    · exact .still same (passes ((congrArg (·.clock.pausedAt) same).trans unpaused))
    · exact .woken positive unpaused shifted (passes ((congrArg (·.clock.pausedAt) shifted).trans unpaused))

end LiarsRoom

end MilkAndHenny.Liars

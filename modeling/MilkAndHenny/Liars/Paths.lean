import MilkAndHenny.Liars.Stamps

/-! Reading a room often or seldom. Phases follow one another at their deadlines, so as long as a room is watched and
its deadline has not slipped behind, it does not matter at which moments it was read. -/

namespace MilkAndHenny.Liars
open Library

/-- `TIMING_BOUNDS`: the shortest phases and the longest ones. -/
def timingBounds : LiarsTimings × LiarsTimings :=
  ({ deal := 10000, night := 20000, dawn := 8000, deliberation := 20000, vote := 10000, verdict := 5000, finalGuess := 10000
     clueTurn := 15000 },
   { deal := 90000, night := 180000, dawn := 60000, deliberation := 600000, vote := 180000, verdict := 60000, finalGuess := 120000
     clueTurn := 180000 })

def boundTiming (timing : LiarsTimings → Int) (value : Int) : Int :=
  max (timing timingBounds.1) (min (timing timingBounds.2) value)

/-- The timings as the validator lets them through. -/
def TimingsPatch.bounded (change : TimingsPatch) : TimingsPatch where
  deal := change.deal.map (boundTiming LiarsTimings.deal)
  night := change.night.map (boundTiming LiarsTimings.night)
  dawn := change.dawn.map (boundTiming LiarsTimings.dawn)
  deliberation := change.deliberation.map (boundTiming LiarsTimings.deliberation)
  vote := change.vote.map (boundTiming LiarsTimings.vote)
  verdict := change.verdict.map (boundTiming LiarsTimings.verdict)
  finalGuess := change.finalGuess.map (boundTiming LiarsTimings.finalGuess)
  clueTurn := change.clueTurn.map (boundTiming LiarsTimings.clueTurn)

deriving instance DecidableEq for TimingsPatch

/-- No phase is over before anybody has noticed it. -/
def briefestMs : Int := 5000

namespace LiarsTimings

def all (timings : LiarsTimings) : List Int :=
  [timings.deal, timings.night, timings.dawn, timings.deliberation, timings.vote, timings.verdict, timings.finalGuess, timings.clueTurn]

def Slow (timings : LiarsTimings) : Prop := ∀ timing ∈ timings.all, briefestMs ≤ timing

instance (timings : LiarsTimings) : Decidable timings.Slow :=
  inferInstanceAs (Decidable (∀ timing ∈ timings.all, briefestMs ≤ timing))

theorem default_slow (roomMode : LiarsRoomMode) : (liarsDefaultTimings roomMode).Slow := by
  cases roomMode with
  | sameRoom | remote => decide

theorem Slow.patch {timings : LiarsTimings} (slow : timings.Slow) {change : TimingsPatch}
    (valid : change.bounded = change) : (timings.patch change).Slow := by
  have bound {timing : LiarsTimings → Int} {old : Int} {value : Option Int} (low : briefestMs ≤ timing timingBounds.1)
      (before : briefestMs ≤ old)
      (same : value.map (boundTiming timing) = value) : briefestMs ≤ value.getD old := by
    cases value with
    | none => exact before
    | some value =>
      have clamped : boundTiming timing value = value := some.inj same
      have least : timing timingBounds.1 ≤ boundTiming timing value := Int.le_max_left ..
      rw [clamped] at least
      exact Int.le_trans low least
  simp only [Slow, all, forall_mem_cons, not_mem_nil, false_imp_iff, implies_true, and_true] at slow ⊢
  obtain ⟨deal, night, dawn, deliberation, vote, verdict, finalGuess, clueTurn⟩ := slow
  refine ⟨bound (by decide) deal (congrArg TimingsPatch.deal valid), bound (by decide) night (congrArg TimingsPatch.night valid),
    bound (by decide) dawn (congrArg TimingsPatch.dawn valid), bound (by decide) deliberation (congrArg TimingsPatch.deliberation valid),
    bound (by decide) vote (congrArg TimingsPatch.vote valid), bound (by decide) verdict (congrArg TimingsPatch.verdict valid),
    bound (by decide) finalGuess (congrArg TimingsPatch.finalGuess valid), bound (by decide) clueTurn (congrArg TimingsPatch.clueTurn valid)⟩

end LiarsTimings

namespace LiarsRoom
variable {ctx : GameContext} {room : LiarsRoom} {now : Int} {idle before after : Int} {first second : Int}

theorem overdue_course {other : LiarsRoom} (same : other.course = room.course) : other.overdue now = room.overdue now := by
  have won : other.winner = room.winner := congrArg Course.winner same
  have phase : other.phase = room.phase := congrArg Course.phase same
  have ends : other.phaseEndsAt = room.phaseEndsAt := congrArg (·.clock.phaseEndsAt) same
  unfold overdue
  rw [won, phase, ends]

theorem reporting_course (ctx : GameContext) (now : Int) (room : LiarsRoom) : (room.reporting ctx now).course = room.course := by
  unfold reporting
  split
  · exact writeNightReports_course ctx room
  · rfl

theorem reporting_written (ctx : GameContext) (now : Int) (room : LiarsRoom) :
    (room.writeNightReports ctx).reporting ctx now = room.writeNightReports ctx := by
  unfold reporting
  split
  · exact writeNightReports_again ctx room
  · rfl

theorem phaseClock_lawful (ctx : GameContext) : (phaseClock ctx).Lawful where
  later {first second room} early due := by
    have reached : room.phaseEndsAt ≤ second := Int.le_trans (overdue_running due).2.1 early
    change room.overdue second
    simp_all [phaseClock, overdue]
  due_shows {first second room} := overdue_course (reporting_course ctx first room)
  step_shows {now room} := by
    change (room.reporting ctx now).transition ctx = room.transition ctx
    unfold reporting
    split
    · next shown =>
      obtain ⟨-, -, night, -⟩ := shown
      have course := writeNightReports_course ctx room
      have dark : (room.writeNightReports ctx).phase = .night := (congrArg Course.phase course).trans night
      have ends : (room.writeNightReports ctx).phaseEndsAt = room.phaseEndsAt := congrArg (·.clock.phaseEndsAt) course
      simp [transition, night, dark, ends, resolveNight, ← (reports_first ctx room).resolves]
    · rfl
  shows_shows {first second room} early rests := by
    change (room.reporting ctx first).reporting ctx second = room.reporting ctx second
    by_cases shown : room.winner.isNone ∧ first < room.phaseEndsAt ∧ room.phase = .night ∧ room.reportAt.any (· ≤ first)
    · have written : room.reporting ctx first = room.writeNightReports ctx := if_pos shown
      obtain ⟨open_, -, night, reported⟩ := shown
      have stillDark : second < room.phaseEndsAt := by
        by_contra over_
        exact rests (by simp_all [phaseClock, overdue])
      have reported : room.reportAt.any (· ≤ second) := by
        cases known : room.reportAt with
        | none => simp [known] at reported
        | some reportAt =>
          have due : reportAt ≤ first := by simpa [known] using reported
          simpa using Int.le_trans due early
      have late : room.reporting ctx second = room.writeNightReports ctx := if_pos ⟨open_, stillDark, night, reported⟩
      rw [written, late, reporting_written]
    · have unwritten : room.reporting ctx first = room := if_neg shown
      rw [unwritten]

/-! ### The deadlines -/

theorem dawnDuration_slow (slow : briefestMs ≤ room.timings.dawn) : briefestMs ≤ room.dawnDuration := by
  unfold dawnDuration
  split
  · exact slow
  · next dawn _ =>
    have beats : 0 ≤ (dawn.movementSeen.length : Int) * movementBeatMs := Int.mul_nonneg (Int.natCast_nonneg _) (by decide)
    dsimp only
    split <;> omega

theorem clueWindow_slow (slow : briefestMs ≤ room.timings.clueTurn) (speakers : Nat) :
    briefestMs ≤ min (12 * 60000) (max 3 speakers * room.timings.clueTurn) := by
  have some_ : (3 : Int) ≤ (max 3 speakers : Nat) := by omega
  have window := Int.mul_le_mul some_ slow (by decide) (by omega)
  unfold briefestMs at *
  omega

theorem phaseDuration_slow (slow : room.timings.Slow) {phase : LiarsPhase} (runs : phase ≠ .lobby ∧ phase ≠ .ending) :
    briefestMs ≤ room.phaseDuration phase := by
  simp only [LiarsTimings.Slow, LiarsTimings.all, forall_mem_cons, not_mem_nil, false_imp_iff, implies_true, and_true] at slow
  obtain ⟨deal, night, dawn, deliberation, vote, verdict, finalGuess, clueTurn⟩ := slow
  cases phase with
  | lobby => exact absurd rfl runs.1
  | ending => exact absurd rfl runs.2
  | deal =>
    simp only [phaseDuration]
    split <;> omega
  | night =>
    simp only [phaseDuration, liarsNightDuration, duskMs]
    omega
  | dawn => exact dawnDuration_slow dawn
  | clue =>
    simp only [phaseDuration]
    split
    · exact clueTurn
    · exact clueWindow_slow clueTurn _
  | deliberation => exact deliberation
  | vote => exact vote
  | verdict => exact verdict
  | finalGuess => exact finalGuess

theorem Leads.later {course : Course} (leads : Leads ctx room now course) (slow : room.timings.Slow) :
    course.phase = .ending ∨ now + briefestMs ≤ course.clock.phaseEndsAt := by
  have lasts {begun : Course} {phase : LiarsPhase} {duration : Int} (long : room.Lasts phase duration)
      (runs : phase ≠ .lobby ∧ phase ≠ .ending) :
      (begun.enter phase now duration).phase = .ending ∨
        now + briefestMs ≤ (begun.enter phase now duration).clock.phaseEndsAt := by
    obtain ⟨table, timed, rfl⟩ := long
    have long := @phaseDuration_slow table (timed ▸ slow) phase runs
    refine .inr ?_
    change now + briefestMs ≤ now + table.phaseDuration phase
    omega
  cases leads with
  | round phase long =>
    refine lasts long ?_
    cases room.mode with
    | mafia | imposter => exact ⟨nofun, nofun⟩
  | lastDawn => exact .inl rfl
  | clue =>
    have turn : briefestMs ≤ room.timings.clueTurn := slow _ (by simp [LiarsTimings.all])
    refine .inr ?_
    change now + briefestMs ≤ now + room.timings.clueTurn
    omega
  | concludes => exact .inl rfl
  | dawn phase long | circle phase long | talk phase long | call phase long | again phase nobody unused level long
  | stands phase nobody settled long | ejects phase voted long | asks phase long => exact lasts long ⟨nofun, nofun⟩

theorem phases_settle (slow : room.timings.Slow) (soon : now < room.phaseEndsAt + briefestMs * 7) :
    (phaseClock ctx).Settles now 8 room := by
  refine @Lazy.settles_spaced LiarsRoom (phaseClock ctx)
    (fun room => room.timings.Slow) phaseEndsAt briefestMs now ?_ ?_ 7 room slow soon
  · exact fun due => (overdue_running due).2.1
  · intro room slow due
    have leads : Leads ctx room room.phaseEndsAt (room.transition ctx).course := transition_leads (overdue_running due).2.2
    have timed : (room.transition ctx).timings = room.timings := leads.keeps.2.2.1
    refine ⟨?_, ?_⟩
    · change (room.transition ctx).timings.Slow
      rwa [timed]
    · rcases leads.later slow with ended | later
      · exact .inl fun due => (overdue_running due).2.2.2 ended
      · exact .inr later

theorem advancePhases_still (still : room.phase = .lobby ∨ room.phase = .ending) (guard : Nat) :
    advancePhases ctx now (guard + 1) room = room := by
  have rests : ¬ room.overdue now := by
    intro due
    obtain ⟨-, -, lobby, ending⟩ := overdue_running due
    rcases still with phase | phase
    · exact lobby phase
    · exact ending phase
  rw [advancePhases_reporting rests]
  apply if_neg
  rintro ⟨-, -, night, -⟩
  rcases still with phase | phase
  · exact absurd (phase.symm.trans night) (by simp)
  · exact absurd (phase.symm.trans night) (by simp)

theorem advancePhases_holds {holds : Course → Prop}
    (steps : ∀ {room : LiarsRoom} {course : Course}, holds room.course → room.overdue now →
      Leads ctx room room.phaseEndsAt course → holds course) (held : holds room.course) (guard : Nat) :
    holds (advancePhases ctx now guard room).course := by
  rw [advancePhases_lazy]
  refine @Lazy.read_keeps LiarsRoom Int (phaseClock ctx) now guard room (fun room => holds room.course) ?_ ?_ held
  · exact fun held due => steps held due (transition_leads (overdue_running due).2.2)
  · intro room held
    change holds (room.reporting ctx now).course
    rwa [reporting_course]

theorem advance_watched (idleFor : Int) (watched : idleFor ≤ connectedWindowMs) : room.advance ctx now idleFor =
    if room.phase = .lobby ∨ room.phase = .ending ∨ room.pausedAt.isSome then room else advancePhases ctx now 8 room := by
  have awake : room.awaken ctx idleFor = room := by
    apply if_neg
    omega
  rw [advance_eq, awake]

theorem advance_advance (early : first ≤ second) (slow : room.timings.Slow)
    (soon : room.phase ≠ .lobby → room.phase ≠ .ending → room.pausedAt = none → second < room.phaseEndsAt + briefestMs * 7)
    (watched : idle ≤ connectedWindowMs ∧ before ≤ connectedWindowMs ∧ after ≤ connectedWindowMs) :
    (room.advance ctx first before).advance ctx second after = room.advance ctx second idle := by
  obtain ⟨once, twice, again⟩ := watched
  rw [advance_watched idle once, advance_watched before twice]
  by_cases still : room.phase = .lobby ∨ room.phase = .ending ∨ room.pausedAt.isSome
  · rw [if_pos still, advance_watched after again, if_pos still]
  · rw [if_neg still, if_neg still, advance_watched after again]
    obtain ⟨lobby, ending, paused⟩ : room.phase ≠ .lobby ∧ room.phase ≠ .ending ∧ room.pausedAt = none := by simpa using still
    have settles := @phases_settle ctx room second slow (soon lobby ending paused)
    have reads : advancePhases ctx second 8 (advancePhases ctx first 8 room) = advancePhases ctx second 8 room := by
      rw [advancePhases_lazy, advancePhases_lazy, advancePhases_lazy]
      exact settles.read_read (phaseClock_lawful ctx) early
    have unpaused : (advancePhases ctx first 8 room).pausedAt = none :=
      @advancePhases_holds ctx room first (fun course => course.clock.pausedAt = none)
        (fun unpaused _ leads => leads.keeps.2.2.2.2.trans unpaused) paused 8
    split
    · next over_ =>
      rw [← reads]
      refine (advancePhases_still ?_ 7).symm
      simpa [unpaused] using over_
    · exact reads

theorem advance_reads (early : first ≤ second) (slow : room.timings.Slow)
    (soon : room.phase ≠ .lobby → room.phase ≠ .ending → room.pausedAt = none → second < room.phaseEndsAt + briefestMs * 7)
    (watched : idle ≤ connectedWindowMs ∧ before ≤ connectedWindowMs ∧ after ≤ connectedWindowMs)
    (earlier later : Int × Int) : ∃ expiresAt,
      (room.advance (ctx.timed earlier.1 earlier.2) first before).advance (ctx.timed later.1 later.2) second after =
        { room.advance (ctx.timed later.1 later.2) second idle with expiresAt } := by
  obtain ⟨expires, read⟩ := advance_unstamped first before ctx room earlier.1 earlier.2 room.expiresAt room.lastActiveAt
  obtain ⟨expiresAt, again⟩ := advance_unstamped second after ctx (room.advance ctx first before) later.1 later.2 expires room.lastActiveAt
  obtain ⟨other, late⟩ := advance_unstamped second idle ctx room later.1 later.2 room.expiresAt room.lastActiveAt
  have own : room.stamped room.expiresAt room.lastActiveAt = room := rfl
  rw [own] at read late
  refine ⟨expiresAt, ?_⟩
  simp only [read, again, late, advance_advance early slow soon watched]
  rfl

end LiarsRoom

end MilkAndHenny.Liars

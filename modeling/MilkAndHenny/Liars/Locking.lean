import MilkAndHenny.Liars.Clock

/-! Locking in for the night. The last lock brings the report forward to the present moment, which is later than
planned once the report is out; no lock keeps the report from being written, and no phase waits for one. -/

namespace MilkAndHenny.Liars
open Library

variable {ctx : GameContext} {room : LiarsRoom} {input : PlayerInput} {round : Nat}

namespace LiarsRoom
variable {course : Course}

def takesLock (room : LiarsRoom) (id round : Nat) : Bool :=
  room.phase == .night && round == room.round && (room.player id).any fun row => row.alive && !row.nightLocked

def LocksLate (ctx : GameContext) (room : LiarsRoom) (id round : Nat) : Prop :=
  room.takesLock id round ∧ (room.lockedIn ctx id).living.all (·.nightLocked) ∧ room.reportAt.any (· < ctx.now)

instance (ctx : GameContext) (room : LiarsRoom) (id round : Nat) : Decidable (LocksLate ctx room id round) :=
  inferInstanceAs (Decidable (_ ∧ _))

section
variable {found : LiarsRoom} {player : PlayerState}

theorem lockNight_ends (ctx : GameContext) (room : LiarsRoom) (id : Nat) : (room.lockNight ctx id).phaseEndsAt =
    if (room.lockedIn ctx id).living.all (·.nightLocked) then room.reportAt.elim room.phaseEndsAt fun reportAt =>
      ctx.now + (room.phaseEndsAt - reportAt)
    else room.phaseEndsAt := by
  have written (table : LiarsRoom) : (table.writeNightReports ctx).phaseEndsAt = table.phaseEndsAt :=
    congrArg (·.clock.phaseEndsAt) (writeNightReports_course ctx table)
  unfold lockNight
  extract_lets locked
  have same : room.lockedIn ctx id = locked := rfl
  have reported : room.reportAt = locked.reportAt := rfl
  have ends : room.phaseEndsAt = locked.phaseEndsAt := rfl
  rw [same, reported, ends]
  cases locked.reportAt with
  | none => rw [elim_none, ite_self]
  | some =>
    dsimp only [elim_some]
    split
    · exact written _
    · rfl

theorem nightLock_ends (seated : found.player player.id = some player) (actionId round : Nat) :
    (leftBy (found.playerCommand ctx player actionId (.nightLock round))).phaseEndsAt =
      if found.takesLock player.id round ∧ (found.lockedIn ctx player.id).living.all (·.nightLocked) then
        found.reportAt.elim found.phaseEndsAt fun reportAt => ctx.now + (found.phaseEndsAt - reportAt)
      else found.phaseEndsAt := by
  have refused (untaken : found.takesLock player.id round = false) {code : LiarsRejectionCode} {error : String} :
      (leftBy (found.refuseWith code error)).phaseEndsAt =
        if found.takesLock player.id round ∧ (found.lockedIn ctx player.id).living.all (·.nightLocked) then
        found.reportAt.elim found.phaseEndsAt fun reportAt => ctx.now + (found.phaseEndsAt - reportAt)
      else found.phaseEndsAt := by
    rw [untaken]
    rfl
  have taken : found.takesLock player.id round =
      (found.phase == .night && round == found.round && (player.alive && !player.nightLocked)) := by
    rw [takesLock, seated]
    rfl
  simp only [playerCommand, nightCommand]
  split
  · next dead => exact refused (by simp_all)
  · split
    · next day => exact refused (by simp_all)
    · split
      · next earlier => exact refused (by simp_all)
      · split
        · next already => exact refused (by simp_all)
        · next alive night this first =>
          have takes : found.takesLock player.id round := by simp_all
          simp only [takes, true_and]
          exact lockNight_ends ctx found player.id

end

/-! ### The reports -/

/-- A card that is written stays, or another takes its place. -/
structure KeepsCard (old new : PlayerState) : Prop where
  named : new.id = old.id
  card : old.report.isSome → new.report.isSome

theorem KeepsCard.refl (row : PlayerState) : KeepsCard row row := ⟨rfl, id⟩

def KeepCards (before after : LiarsRoom) : Prop := Forall₂ KeepsCard before.players after.players

theorem nightOutcome_cards (ctx : GameContext) (room : LiarsRoom) :
    KeepCards (room.writeNightReports ctx) (room.nightOutcome ctx).room := by
  refine (nightOutcome_night ctx room).pairs (r := KeepsCard) KeepsCard.refl (fun old new newest first second => ?_) fun row new touched => ?_
  · exact ⟨second.named.trans first.named, second.card ∘ first.card⟩
  · cases touched with
    | sees => exact ⟨rfl, fun _ => rfl⟩
    | _ => exact ⟨rfl, id⟩

def GetsCard (old new : PlayerState) : Prop := new.id = old.id ∧ new.alive = old.alive ∧ (old.alive → new.report.isSome)

theorem withReport_card (row : PlayerState) : GetsCard row (room.withReport ctx row) := by
  unfold withReport
  dsimp only
  split
  · exact ⟨rfl, rfl, fun _ => rfl⟩
  · exact ⟨rfl, rfl, fun _ => rfl⟩

theorem writeNightReports_cards (ctx : GameContext) (room : LiarsRoom) :
    Forall₂ GetsCard room.players (room.writeNightReports ctx).players := by
  have already {row : PlayerState} (written : (row.alive && row.report.isNone) = false) : GetsCard row row := by
    refine ⟨rfl, rfl, fun alive => ?_⟩
    rw [alive, Bool.true_and, Option.isNone_eq_false_iff] at written
    exact written
  unfold writeNightReports
  dsimp only
  split
  · change Forall₂ GetsCard room.players (update room.players _ _)
    refine forall₂_map_right_iff.mpr (forall₂_same.mpr fun row _ => ?_)
    split
    · exact withReport_card row
    · next written => exact already (eq_false_iff.mpr written)
  · next nobody =>
    refine forall₂_same.mpr fun row listed => already (eq_false_iff.mpr fun unwritten => nobody ?_)
    exact any_eq_true.mpr ⟨row, listed, unwritten⟩

/-- Everybody alive has a card before anything of the night happens, and still has one in the morning. -/
structure ReportsFirst (ctx : GameContext) (room : LiarsRoom) : Prop where
  everyone : ∀ row ∈ (room.writeNightReports ctx).living, row.report.isSome
  resolves : room.nightOutcome ctx = (room.writeNightReports ctx).nightOutcome ctx
  morning : ∀ now, Forall₂ (fun old new => new.id = old.id ∧
      (old.alive → new.report.isSome)) room.players (room.resolveNight ctx now).players

theorem writeNightReports_again (ctx : GameContext) (room : LiarsRoom) :
    (room.writeNightReports ctx).writeNightReports ctx = room.writeNightReports ctx := by
  have cards := room.writeNightReports_cards ctx
  apply if_neg
  intro unwritten
  obtain ⟨row, listed, lacks⟩ := any_eq_true.mp unwritten
  obtain ⟨alive, none⟩ := and_eq_true_iff.mp lacks
  obtain ⟨old, -, -, same, card⟩ := mem_pairs cards listed
  have written := card (same.symm.trans alive)
  rw [isSome_iff_ne_none] at written
  exact written (isNone_iff_eq_none.mp none)

theorem reports_first (ctx : GameContext) (room : LiarsRoom) : room.ReportsFirst ctx := by
  have cards := room.writeNightReports_cards ctx
  refine ⟨?_, ?_, fun now => ?_⟩
  · intro row living
    obtain ⟨listed, alive⟩ := mem_filter.mp living
    obtain ⟨old, -, -, same, card⟩ := mem_pairs cards listed
    exact card (same.symm.trans alive)
  · unfold nightOutcome
    rw [writeNightReports_again]
  · rw [resolveNight_players]
    refine pairs_comp (r := GetsCard) (s := KeepsCard) ?_ cards (room.nightOutcome_cards ctx)
    rintro old middle new ⟨named, -, card⟩ kept
    exact ⟨kept.named.trans named, kept.card ∘ card⟩

/-! ### The deadlines -/

/-- In a night the report is due well before the end, and a decided game is over. -/
structure Timely (course : Course) : Prop where
  report : course.phase = .night → ∃ reportAt, course.clock.reportAt = some reportAt ∧
      reportAt + reportLeadMs ≤ course.clock.phaseEndsAt
  decided : course.winner.isSome → course.phase = .ending

theorem timely_enter (undecided : course.winner = none) (phase : LiarsPhase) (now duration : Int) :
    Timely (course.enter phase now duration) where
  report dark := by
    refine ⟨now + duration - reportLeadMs, ?_, ?_⟩
    · exact if_pos dark
    · change now + duration - reportLeadMs + reportLeadMs ≤ now + duration
      omega
  decided won := by
    change course.winner.isSome at won
    rw [undecided] at won
    cases won

theorem timely_shift (timely : Timely course) (shift : Int) (pausedAt : Option Int) (dawn : Option DawnClock) :
    Timely { course with clock := { course.clock.shift shift with pausedAt, dawn } } where
  report dark := by
    obtain ⟨reportAt, known, early⟩ := timely.report dark
    refine ⟨reportAt + shift, ?_, ?_⟩
    · change course.clock.reportAt.map (· + shift) = some (reportAt + shift)
      rw [known]
      rfl
    · change reportAt + shift + reportLeadMs ≤ course.clock.phaseEndsAt + shift
      omega
  decided := timely.decided

theorem timely_day (light : course.phase ≠ .night)
    (decided : course.winner.isSome → course.phase = .ending) : Timely course :=
  ⟨fun dark => absurd dark light, decided⟩

theorem timely_endures : Endures fun _ => Timely where
  leads {ctx table now course past} timely leads := by
    have undecided (running : table.phase ≠ .ending) : table.winner = none := by
      by_contra won
      exact running (timely.decided (isSome_iff_ne_none.mpr won))
    have enters (begun : Course) (same : begun.winner = table.winner) (running : table.phase ≠ .ending)
        (next : LiarsPhase) (duration : Int) :
        Timely (begun.enter next now duration) := timely_enter (same.trans (undecided running)) next now duration
    cases leads with
    | round phase => exact enters table.course.nextRound rfl (by rcases phase with phase | phase <;> simp [phase]) _ _
    | @dawn dawn duration phase => exact enters (table.course.tell _ dawn) rfl (by simp [phase]) .dawn duration
    | lastDawn => exact timely_day (by simp [Course.finish]) fun _ => rfl
    | clue phase =>
      have light : table.phase ≠ .night := by simp [phase]
      refine timely_day light fun won => ?_
      change table.winner.isSome at won
      rw [undecided (by simp [phase])] at won
      cases won
    | circle phase => exact enters table.course rfl (by simp [phase]) .clue _
    | talk phase => exact enters table.course rfl (by rcases phase with phase | phase <;> simp [phase]) .deliberation _
    | call phase => exact enters table.course rfl (by simp [phase]) .vote _
    | again phase => exact enters (table.course.again _) rfl (by simp [phase]) .vote _
    | stands phase => exact enters table.course rfl (by simp [phase]) .verdict _
    | @ejects ejected duration phase =>
      exact enters { table.course with trails := (table.kill ejected.id .ejected).trails } rfl (by simp [phase]) .verdict duration
    | asks phase => exact enters table.course rfl (by simp [phase]) .finalGuess _
    | concludes => exact timely_day (by simp [Course.finish]) fun _ => rfl
  woken {past course dormant} _ _ timely :=
    timely_shift timely dormant course.clock.pausedAt (course.clock.dawn.map (DawnClock.shift · dormant))

theorem timely_deed {found : LiarsRoom} {act : Option Act} (timely : Timely found.course)
    (deed : Deed ctx found act [] course) : Timely course := by
  cases deed with
  | rests => exact timely
  | joins lobby | configures lobby | dismisses lobby => exact timely_day (by simp [course, lobby]) timely.decided
  | extends_ =>
    refine ⟨fun dark => ?_, timely.decided⟩
    obtain ⟨reportAt, known, early⟩ := timely.report dark
    refine ⟨reportAt, known, ?_⟩
    change reportAt + reportLeadMs ≤ found.phaseEndsAt + 30000
    change reportAt + reportLeadMs ≤ found.phaseEndsAt at early
    omega
  | pauses => exact ⟨timely.report, timely.decided⟩
  | resumes => exact timely_shift timely ..
  | deals | replays => exact timely_enter rfl .deal ctx.now _
  | returns => exact timely_day (by simp) fun won => by cases won
  | ends => exact timely_day (by simp [Course.finish]) fun _ => rfl
  | @departs id act won =>
    cases won with
    | none => exact ⟨timely.report, timely.decided⟩
    | some => exact timely_day (by simp [Course.change, Course.finish]) fun _ => rfl
  | chooses => exact ⟨timely.report, timely.decided⟩
  | @hastens id round reportAt night reported =>
    refine ⟨fun _ => ?_, timely.decided⟩
    obtain ⟨planned, known, early⟩ := timely.report night
    cases some.inj (reported.symm.trans known)
    refine ⟨ctx.now, rfl, ?_⟩
    change ctx.now + reportLeadMs ≤ ctx.now + (found.phaseEndsAt - reportAt)
    change reportAt + reportLeadMs ≤ found.phaseEndsAt at early
    omega
  | casts | haunts => exact ⟨timely.report, timely.decided⟩
  | leads same day leads => exact @Endures.led ctx found (fun _ => Timely) [] course timely_endures _ same day leads timely

/-- When the phase is over for whoever reads the room at this time: nobody was there for the rest. -/
def deadline (ctx : GameContext) (room : LiarsRoom) : Int := room.phaseEndsAt + max 0 (room.idleFor ctx.now - connectedWindowMs)

def MovesOn (ctx : GameContext) (room after : LiarsRoom) : Prop :=
  ∃ due : LiarsRoom, due.phase = room.phase ∧ due.phaseEndsAt = deadline ctx room ∧ Leads ctx due (deadline ctx room)
    (due.transition ctx).course ∧
    after = advancePhases ctx ctx.now 7 (due.transition ctx)

theorem awaken_phase (ctx : GameContext) (room : LiarsRoom) (idleFor : Int) : (room.awaken ctx idleFor).phase = room.phase ∧
    (room.awaken ctx idleFor).winner = room.winner ∧
      (room.awaken ctx idleFor).phaseEndsAt = room.phaseEndsAt + max 0 (idleFor - connectedWindowMs) := by
  unfold awaken
  dsimp only
  split
  · exact ⟨rfl, rfl, rfl⟩
  · next still =>
    refine ⟨rfl, rfl, ?_⟩
    omega

theorem attend_movesOn (running : room.phase ≠ .lobby ∧ room.phase ≠ .ending) (undecided : room.winner = none)
    (unpaused : room.pausedAt = none) (past : deadline ctx room ≤ ctx.now) (playerId : Option Nat) (force : Bool) :
    MovesOn ctx room (room.attend ctx playerId force) := by
  have touched := touch_course room playerId ctx.now force
  unfold attend
  rw [advance_eq]
  generalize room.touch playerId ctx.now force = found at touched ⊢
  have phase : found.phase = room.phase := congrArg Course.phase touched
  have won : found.winner = room.winner := congrArg Course.winner touched
  have ends : found.phaseEndsAt = room.phaseEndsAt := congrArg (·.clock.phaseEndsAt) touched
  have paused : found.pausedAt = room.pausedAt := congrArg (·.clock.pausedAt) touched
  obtain ⟨wakes, decided, shifted⟩ := found.awaken_phase ctx (room.idleFor ctx.now)
  rw [if_neg (by simp [phase, paused, running, unpaused])]
  generalize found.awaken ctx (room.idleFor ctx.now) = due at wakes decided shifted ⊢
  have runs : due.phase = room.phase := wakes.trans phase
  have due_at : due.phaseEndsAt = deadline ctx room := by
    rw [shifted, ends]
    rfl
  have overdue : due.overdue ctx.now := by
    have open_ : due.winner = none := (decided.trans won).trans undecided
    simp [LiarsRoom.overdue, open_, due_at, past, runs, running]
  refine ⟨due, runs, due_at, ?_, advancePhases_overdue overdue⟩
  have leads : Leads ctx due due.phaseEndsAt (due.transition ctx).course := transition_leads (by rwa [runs])
  rwa [due_at] at leads

end LiarsRoom

open LiarsRoom

theorem timely_run (timely : Timely room.course) (commands : List Command) :
    Timely (runFrom Command.apply room commands).course :=
  @Endures.throughout (fun _ => Timely) timely_endures (fun _ _ => True)
    (fun _ found deed => timely_deed found deed) room commands timely
    (EachStep.always fun _ _ => trivial)

theorem lock_ends (locks : input.action = .nightLock round) (room : LiarsRoom) :
    let found := (Command.play ctx input).finds room
    ((Command.play ctx input).apply room).phaseEndsAt =
      if ((Command.play ctx input).act room).isSome ∧ found.takesLock input.playerId round ∧
        (found.lockedIn ctx input.playerId).living.all (·.nightLocked)
      then found.reportAt.elim found.phaseEndsAt fun reportAt => ctx.now + (found.phaseEndsAt - reportAt)
      else found.phaseEndsAt := by
  simp only [Command.act, Command.finds, Command.apply, applyLiarsPlayerAction, playerFinds]
  by_cases allowed : room.mayPlay input
  · simp only [allowed, ↓reduceIte, Bool.true_and]
    generalize room.attend ctx (some input.playerId) true = found
    cases seated : found.player input.playerId with
    | none =>
      have untaken : found.takesLock input.playerId round = false := by simp [takesLock, seated]
      rw [untaken]
      simp
    | some player =>
      have named := player_id seated
      rw [← named] at seated ⊢
      have answered := @Command.answer_course ctx found (some player.id) input.actionId (found.playerCommand ctx player input.actionId input.action)
      generalize (found.answer ctx (some player.id) input.actionId (found.playerCommand ctx player input.actionId input.action)).2 = stored at answered ⊢
      have ends := congrArg (·.clock.phaseEndsAt) answered
      change stored.phaseEndsAt = _ at ends
      rw [ends, locks]
      cases found.processedActions.contains input.actionId with
      | true => rfl
      | false =>
        have lock : (leftBy (found.playerCommand ctx player input.actionId (.nightLock round))).course.clock.phaseEndsAt = _ :=
          nightLock_ends seated input.actionId round
        rw [if_neg Bool.false_ne_true, lock]
        simp
  · simp [allowed]

theorem lock_hastens (locks : input.action = .nightLock round) (room : LiarsRoom) :
    ((Command.play ctx input).apply room).phaseEndsAt ≤ ((Command.play ctx input).finds room).phaseEndsAt ↔
      ¬ (((Command.play ctx input).act room).isSome ∧
        LocksLate ctx ((Command.play ctx input).finds room) input.playerId round) := by
  have ends := @lock_ends ctx input round locks room
  generalize (Command.play ctx input).finds room = found at ends ⊢
  rw [ends]
  unfold LocksLate
  split
  · next full =>
    obtain ⟨carried, takes, everyone⟩ := full
    simp only [carried, takes, everyone, true_and]
    cases found.reportAt with
    | none => simp
    | some =>
      simp only [elim_some, any_some, decide_eq_true_eq]
      omega
  · next others =>
    refine iff_of_true (Int.le_refl _) fun late => others ?_
    exact ⟨late.1, late.2.1, late.2.2.1⟩

/-- A lock makes a night longer exactly where it is the last one and comes after the report. In every run the report of a night
is due before its end, the cards are written before anything of the night happens, and every phase leads on at its
deadline unless it is paused. -/
theorem locking_hastens (ctx : GameContext) (mode : LiarsMode) (roomMode : LiarsRoomMode) (toggles : TogglesPatch)
    (timings : TimingsPatch) (managed : Bool) (commands : List Command) :
    let room := runFrom Command.apply (createLiarsRoom ctx mode roomMode toggles timings managed) commands
    (∀ (ctx : GameContext) (input : PlayerInput) (round : Nat), input.action = .nightLock round →
      (((Command.play ctx input).apply room).phaseEndsAt ≤ ((Command.play ctx input).finds room).phaseEndsAt ↔
        ¬ (((Command.play ctx input).act room).isSome ∧
          LocksLate ctx ((Command.play ctx input).finds room) input.playerId round))) ∧
    (room.phase = .night → ∃ reportAt, room.reportAt = some reportAt ∧ reportAt + reportLeadMs ≤ room.phaseEndsAt) ∧
    (∀ ctx, room.ReportsFirst ctx) ∧
    ∀ (ctx : GameContext) (credential : Secret) (playerId : Option Nat), room.authenticate credential playerId →
      room.phase ≠ .lobby →
      room.phase ≠ .ending →
      (room.pausedAt = none → deadline ctx room ≤ ctx.now →
        MovesOn ctx room ((Command.read ctx credential playerId).apply room)) ∧
      (room.pausedAt.isSome → ((Command.read ctx credential playerId).apply room).course = room.course) := by
  intro room
  have lobby : (createLiarsRoom ctx mode roomMode toggles timings managed).course.phase = .lobby := rfl
  have open_ : (createLiarsRoom ctx mode roomMode toggles timings managed).course.winner = none := rfl
  have start : Timely (createLiarsRoom ctx mode roomMode toggles timings managed).course :=
    timely_day (by simp [lobby]) (by simp [open_])
  have timely : Timely room.course := timely_run start commands
  refine ⟨fun ctx input round locks => lock_hastens locks room, timely.report, fun ctx => reports_first ctx room, ?_⟩
  intro ctx credential playerId known lobby ending
  have read : (Command.read ctx credential playerId).apply room = room.attend ctx playerId false := by
    simp [Command.apply, readLiarsSnapshot, known]
  rw [read]
  have undecided : room.winner = none := by
    by_contra won
    exact ending (timely.decided (isSome_iff_ne_none.mpr won))
  refine ⟨fun unpaused past => attend_movesOn ⟨lobby, ending⟩ undecided unpaused past playerId false, fun paused => ?_⟩
  exact Command.attend_paused ctx paused playerId false

/-- Five of the six lock early in the first night, whose report is due at 25002 and which ends at 35002. -/
def fiveLocked : List Command := watchedUntil [20000] ++ [2, 4, 6, 8, 10].map fun id => .by id 21000 id (.nightLock 1)

/-- The sixth locks three seconds after the report, and the night ends three seconds later than it would have. -/
theorem lateLock_lengthens :
    let night := runFrom Command.apply (createLiarsRoom (.plain 1) .mafia .sameRoom {} shortPhases false) fiveLocked
    let lock := Command.by 12 28000 12 (.nightLock 1)
    (lock.act night).isSome ∧ (lock.finds night).phase = .night ∧
      ¬ (lock.apply night).phaseEndsAt ≤ (lock.finds night).phaseEndsAt := by
  decide +kernel

theorem locking_hastens_early :
    let night := runFrom Command.apply (createLiarsRoom (.plain 1) .mafia .sameRoom {} shortPhases false) fiveLocked
    ((Command.by 12 22000 12 (.nightLock 1)).apply night).phaseEndsAt ≤
      ((Command.by 12 22000 12 (.nightLock 1)).finds night).phaseEndsAt ∧
    MovesOn (.plain 36000) night ((Command.read (.plain 36000) (.token 0) none).apply night) := by
  obtain ⟨locks, -, -, reads⟩ := locking_hastens (.plain 1) .mafia .sameRoom {} shortPhases false fiveLocked
  constructor
  · decide +kernel
  · apply (reads (.plain 36000) (.token 0) none ?_ ?_ ?_).1
    · decide +kernel
    · decide +kernel
    · decide +kernel
    · decide +kernel
    · decide +kernel

end MilkAndHenny.Liars

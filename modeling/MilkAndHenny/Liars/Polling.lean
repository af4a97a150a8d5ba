import MilkAndHenny.Liars.Paths

/-! Polling a room. While nobody pauses a paused room again, no deadline falls behind the last activity, and so the phases
of a room do not depend on how often its players read it. -/

namespace MilkAndHenny.Liars
variable {ctx : GameContext}
variable {room : LiarsRoom}
open Library

namespace Act

def Validated : Option Act → Prop
  | some (.host (.configure configuration)) => ∀ change ∈ configuration.timings, change.bounded = change
  | _ => True

def pauses : Option Act → Bool
  | some (.host .pause) => true
  | _ => false

end Act

namespace LiarsRoom

/-! ### When a room was active -/

section
variable {room : LiarsRoom}

theorem touch_active (room : LiarsRoom) (playerId : Option Nat) (now : Int) (force : Bool) :
    (room.touch playerId now force).lastActiveAt = now ∨ force = false ∧ (room.touch playerId now force).lastActiveAt =
      room.lastActiveAt := by
  unfold touch
  cases playerId.bind room.player with
  | none => exact .inl rfl
  | some =>
    dsimp only
    cases force with
    | true => exact .inl rfl
    | false =>
      split
      · exact .inl rfl
      · exact .inr ⟨rfl, rfl⟩

variable (ctx : GameContext)

theorem attend_active (room : LiarsRoom) (playerId : Option Nat) (force : Bool) :
    (room.attend ctx playerId force).lastActiveAt = (room.touch playerId ctx.now force).lastActiveAt :=
  (advance_unstamped ctx.now (room.idleFor ctx.now)).lastActive ctx _

theorem handOver_active (room : LiarsRoom) (leavingId : Nat) (now : Int) :
    (room.handOver leavingId now).lastActiveAt = room.lastActiveAt := by
  unfold handOver transferNarrator
  split
  · rfl
  · split
    · rfl
    · rfl

theorem depart_active (room : LiarsRoom) (target : PlayerState) (secret : Secret) :
    (room.depart ctx target secret).lastActiveAt = room.lastActiveAt := by
  have told := (told_unstamped .left { victim := some target.name } .dawn 0).lastActive ctx (room.kill target.id .left)
  have checked (noted : LiarsRoom) : ((noted.checkWinner ctx ctx.now none).getD noted).lastActiveAt = noted.lastActiveAt :=
    (checkWinner_unstamped ctx.now (fun _ => none) fun _ _ _ => rfl).lastActive ctx noted
  unfold depart
  split
  · exact (checked _).trans told
  · rfl

theorem configureParts_active (room : LiarsRoom) (configuration : GameConfiguration) :
    (room.configureParts ctx configuration).lastActiveAt = room.lastActiveAt ∧
      (room.configureParts ctx configuration).timings = room.configuredTimings configuration := by
  rw [configureParts_reset, configureParts_eq rfl]
  split
  · exact ⟨rfl, rfl⟩
  · exact ⟨rfl, rfl⟩

theorem configure_active (room : LiarsRoom) (configuration : GameConfiguration) :
    (leftBy (room.configure ctx configuration)).lastActiveAt = room.lastActiveAt := by
  have parts := (configureParts_active ctx room configuration).1
  unfold configure
  split
  · rfl
  · split
    · rfl
    · split
      · exact parts
      · split
        · exact parts
        · exact parts

theorem startGame_active (room : LiarsRoom) (removed : List Nat) :
    (leftBy (room.startGame ctx removed)).lastActiveAt = room.lastActiveAt := by
  have asked (waited : List PlayerState) : (room.requestReadiness ctx waited).lastActiveAt = room.lastActiveAt := by
    unfold requestReadiness
    dsimp only
    split
    · rfl
    · rfl
  unfold startGame
  extract_lets limit needs waited remaining fewer
  split
  · rfl
  · split
    · rfl
    · split
      · rfl
      · split
        · exact asked waited
        · split
          · rfl
          · split
            · rfl
            · rfl

theorem hostCommand_active (room : LiarsRoom) (action : LiarsHostAction) :
    (leftBy (room.hostCommand ctx action)).lastActiveAt = room.lastActiveAt := by
  cases action with
  | admissionSet =>
    simp only [hostCommand]
    split
    · rfl
    · split
      · rfl
      · rfl
  | configure configuration => exact configure_active ctx room configuration
  | start removed => exact startGame_active ctx room removed
  | extend | pause | replay | lobby | endGame => rfl
  | resume | passHost =>
    simp only [hostCommand]
    split
    · rfl
    · rfl
  | remove =>
    simp only [hostCommand, removePlayer]
    split
    · rfl
    · refine (handOver_active ..).trans ?_
      split
      · rfl
      · exact depart_active ..

theorem leaveRoom_active (room : LiarsRoom) (player : PlayerState) :
    (room.leaveRoom ctx player).lastActiveAt = room.lastActiveAt := by
  refine (handOver_active ..).trans ?_
  split
  · dsimp only
    split
    · rfl
    · rfl
  · exact depart_active ..

theorem lockNight_active (room : LiarsRoom) (id : Nat) : (room.lockNight ctx id).lastActiveAt = room.lastActiveAt := by
  have written (table : LiarsRoom) : (table.writeNightReports ctx).lastActiveAt = table.lastActiveAt :=
    writeNightReports_unstamped.lastActive ctx table
  unfold lockNight
  dsimp only
  split
  · split
    · exact written _
    · rfl
  · rfl

theorem leftBy_active {p : Prop} [Decidable p] {first second : Except Rejected LiarsRoom}
    (yes : (leftBy first).lastActiveAt = room.lastActiveAt) (no : (leftBy second).lastActiveAt = room.lastActiveAt) :
    (leftBy (if p then first else second)).lastActiveAt = room.lastActiveAt := by
  split
  · exact yes
  · exact no

theorem nightCommand_active (room : LiarsRoom) (player : PlayerState) (round : Nat) (choice : Option (Option Nat)) :
    (leftBy (room.nightCommand ctx player round choice)).lastActiveAt = room.lastActiveAt := by
  refine leftBy_active rfl (leftBy_active rfl (leftBy_active rfl ?_))
  cases choice with
  | none => exact lockNight_active ctx room player.id
  | some => exact leftBy_active rfl rfl

theorem voteCommand_active (room : LiarsRoom) (player : PlayerState) (choice : Option (Option Nat)) :
    (leftBy (room.voteCommand ctx player choice)).lastActiveAt = room.lastActiveAt := by
  refine leftBy_active rfl (leftBy_active rfl ?_)
  cases choice with
  | none =>
    change (if _ then _ else _ : LiarsRoom).lastActiveAt = _
    split
    · exact (resolveVote_unstamped ctx.now).lastActive ctx (room.votedIn ctx player.id)
    · rfl
  | some => exact leftBy_active rfl rfl

theorem clue_active (room : LiarsRoom) : (room.advanceClue ctx ctx.now).lastActiveAt = room.lastActiveAt :=
  (advanceClue_unstamped ctx.now).lastActive ctx room

theorem playerCommand_active (room : LiarsRoom) (player : PlayerState) (actionId : Nat) (action : LiarsPlayerAction) :
    (leftBy (room.playerCommand ctx player actionId action)).lastActiveAt = room.lastActiveAt := by
  cases action with
  | leave => exact leaveRoom_active ctx room player
  | rename | readiness | claimHost => exact leftBy_active rfl (leftBy_active rfl rfl)
  | lastWords | wish | pin | unpin | graveyardVote => exact leftBy_active rfl rfl
  | guess text => exact leftBy_active rfl ((resolveFinalGuess_unstamped ctx.now (some text)).lastActive ctx room)
  | nightSelect | nightLock => exact leftBy_active rfl (nightCommand_active ..)
  | clueSaid | clueSkip | clueAllSaid => exact leftBy_active rfl (leftBy_active rfl (leftBy_active rfl (clue_active ..)))
  | point => exact leftBy_active rfl (leftBy_active rfl rfl)
  | readyToVote => exact leftBy_active rfl (leftBy_active rfl (leftBy_active rfl rfl))
  | castVote | lockVote => exact leftBy_active rfl (voteCommand_active ..)

end

/-! ### The deadline is ahead of the last activity -/

/-- The phase is not over while somebody looks, and was not over when it was paused. -/
structure Punctual (course : Course) (active : Int) : Prop where
  slow : course.timings.Slow
  timely : Timely course
  watched : active ≠ 0
  ahead : course.phase ≠ .lobby → course.phase ≠ .ending → course.clock.pausedAt.getD active < course.clock.phaseEndsAt

namespace Punctual
variable {room found : LiarsRoom} {course : Course} {active : Int}

theorem idle (playing : course.phase = .lobby ∨ course.phase = .ending) (slow : course.timings.Slow)
    (timely : Timely course) (watched : active ≠ 0) : Punctual course active :=
  ⟨slow, timely, watched, fun lobby ending => (playing.elim lobby ending).elim⟩

theorem timely_leads {table : LiarsRoom} {now : Int} (timely : Timely table.course)
    (leads : Leads ctx table now course) : Timely course :=
  @Endures.leads _ timely_endures ctx table now course [] timely leads

theorem advanced {now : Int} (slow : room.timings.Slow) (timely : Timely room.course) (unpaused : room.pausedAt = none)
    (soon : now < room.phaseEndsAt + briefestMs * 7) :
    (advancePhases ctx now 8 room).timings.Slow ∧ Timely (advancePhases ctx now 8 room).course ∧
      (advancePhases ctx now 8 room).pausedAt = none ∧
      ((advancePhases ctx now 8 room).phase ≠ .lobby → (advancePhases ctx now 8 room).phase ≠ .ending →
        now < (advancePhases ctx now 8 room).phaseEndsAt ∧ room.phaseEndsAt ≤ (advancePhases ctx now 8 room).phaseEndsAt) := by
  have rests : ¬ (advancePhases ctx now 8 room).overdue now := by
    rw [advancePhases_lazy]
    exact (phases_settle slow soon).rests (phaseClock_lawful ctx)
  have kept := @advancePhases_holds ctx room now (fun course => course.timings.Slow ∧ Timely course ∧
      course.clock.pausedAt = none ∧
    (course.phase = .ending ∨ room.phaseEndsAt ≤ course.clock.phaseEndsAt)) ?_ ⟨slow, timely, unpaused, .inr (Int.le_refl _)⟩ 8
  · generalize advancePhases ctx now 8 room = after at rests kept ⊢
    obtain ⟨slow, timely, unpaused, later⟩ := kept
    refine ⟨slow, timely, unpaused, fun lobby ending => ⟨?_, later.resolve_left ending⟩⟩
    have undecided : after.winner = none := by
      by_contra won
      exact ending (timely.decided (isSome_iff_ne_none.mpr won))
    by_contra over_
    exact rests (by simp [overdue, undecided, lobby, ending, Int.not_lt.mp over_])
  · intro table course held due leads
    obtain ⟨slow, timely, unpaused, later⟩ := held
    obtain ⟨-, -, timed, -, still⟩ := leads.keeps
    have endsAfter : room.phaseEndsAt ≤ table.phaseEndsAt := later.resolve_left (overdue_running due).2.2.2
    refine ⟨?_, timely_leads timely leads, still.trans unpaused, ?_⟩
    · rw [timed]
      exact slow
    · refine (leads.later slow).imp_right fun later => ?_
      unfold briefestMs at later
      omega

theorem awakens {idleFor : Int} (slow : room.timings.Slow) (timely : Timely room.course) (unpaused : room.pausedAt = none) :
    (room.awaken ctx idleFor).timings.Slow ∧ Timely (room.awaken ctx idleFor).course ∧ (room.awaken ctx idleFor).pausedAt = none ∧
      (room.awaken ctx idleFor).phaseEndsAt = room.phaseEndsAt + max 0 (idleFor - connectedWindowMs) := by
  have ends := (room.awaken_phase ctx idleFor).2.2
  rcases awaken_course ctx room idleFor with same | ⟨dormant, positive, shifted⟩
  · have timed : (room.awaken ctx idleFor).timings = room.timings := congrArg Course.timings same
    exact ⟨timed ▸ slow, same ▸ timely, (congrArg (·.clock.pausedAt) same).trans unpaused, ends⟩
  · have timed : (room.awaken ctx idleFor).timings = room.timings := congrArg Course.timings shifted
    refine ⟨timed ▸ slow, ?_, (congrArg (·.clock.pausedAt) shifted).trans unpaused, ends⟩
    rw [shifted]
    exact timely_shift timely dormant room.clock.pausedAt (room.clock.dawn.map (DawnClock.shift · dormant))

/-- However long nobody looked, whoever looks again finds the phase ahead. -/
theorem attend (punctual : Punctual room.course room.lastActiveAt) (real : ctx.now ≠ 0) (playerId : Option Nat) (force : Bool) :
    Punctual (room.attend ctx playerId force).course (room.attend ctx playerId force).lastActiveAt := by
  obtain ⟨slow, timely, watched, ahead⟩ := punctual
  have touched := touch_course room playerId ctx.now force
  have active := touch_active room playerId ctx.now force
  rw [attend_active]
  unfold LiarsRoom.attend
  rw [advance_eq]
  generalize room.touch playerId ctx.now force = found at touched active ⊢
  have awake : found.lastActiveAt ≠ 0 := by
    rcases active with now | ⟨-, same⟩
    · rwa [now]
    · rwa [same]
  rw [← touched] at slow timely ahead
  split
  · next still =>
    refine ⟨slow, timely, awake, fun lobby ending => ?_⟩
    obtain ⟨since, known⟩ := isSome_iff_exists.mp ((still.resolve_left lobby).resolve_left ending)
    have paused : found.course.clock.pausedAt = some since := known
    have before := ahead lobby ending
    rw [paused] at before ⊢
    exact before
  · next running =>
    obtain ⟨lobby, ending, unpaused⟩ : found.phase ≠ .lobby ∧ found.phase ≠ .ending ∧ found.pausedAt = none := by simpa using running
    have before : room.lastActiveAt < found.phaseEndsAt := by
      have known : found.course.clock.pausedAt = none := unpaused
      have early := ahead lobby ending
      rwa [known] at early
    have idle : room.idleFor ctx.now = max 0 (ctx.now - room.lastActiveAt) := by
      unfold idleFor
      rw [if_neg watched]
    obtain ⟨slow, timely, unpaused, ends⟩ := @awakens ctx found (room.idleFor ctx.now) slow timely unpaused
    generalize found.awaken ctx (room.idleFor ctx.now) = woken at slow timely unpaused ends ⊢
    have soon : ctx.now < woken.phaseEndsAt + briefestMs * 7 := by
      unfold briefestMs connectedWindowMs at *
      omega
    obtain ⟨slow, timely, unpaused, later⟩ := @advanced ctx woken ctx.now slow timely unpaused soon
    generalize advancePhases ctx ctx.now 8 woken = after at slow timely unpaused later ⊢
    refine ⟨slow, timely, awake, fun lobby ending => ?_⟩
    have known : after.course.clock.pausedAt = none := unpaused
    obtain ⟨ahead, kept⟩ := later lobby ending
    rw [known]
    change found.lastActiveAt < after.phaseEndsAt
    rcases active with now | ⟨-, same⟩
    · rwa [now]
    · omega

theorem begins {course' : Course} (punctual : Punctual course active) (timed : course'.timings = course.timings)
    (timely : Timely course')
    (paused : course'.clock.pausedAt = course.clock.pausedAt) (forward : ∀ since ∈ course.clock.pausedAt, since ≤ active)
    (later : course'.phase = .ending ∨ active < course'.clock.phaseEndsAt) : Punctual course' active where
  slow := timed ▸ punctual.slow
  timely := timely
  watched := punctual.watched
  ahead _ ending := by
    have later := later.resolve_left ending
    rw [paused]
    cases known : course.clock.pausedAt with
    | none => exact later
    | some since => exact Int.lt_of_le_of_lt (forward since known) later

theorem configuredTimings_slow (slow : found.timings.Slow) {configuration : GameConfiguration}
    (valid : ∀ change ∈ configuration.timings, change.bounded = change) : (found.configuredTimings configuration).Slow := by
  have moded : (configuration.roomMode.elim found.timings fun roomMode =>
      { found.timings with deliberation := (liarsDefaultTimings roomMode).deliberation }).Slow := by
    cases configuration.roomMode with
    | none => exact slow
    | some roomMode =>
      have other := LiarsTimings.default_slow roomMode
      simp only [LiarsTimings.Slow, LiarsTimings.all, elim_some, forall_mem_cons] at slow other ⊢
      obtain ⟨deal, night, dawn, deliberation, rest⟩ := slow
      exact ⟨deal, night, dawn, other.2.2.2.1, rest⟩
  unfold configuredTimings
  cases asked : configuration.timings with
  | none => exact moded
  | some change => exact moded.patch (valid change asked)

/-- A command that acts at the moment of the last activity leaves the phase ahead, unless it pauses what should be over. -/
theorem deed {act : Option Act} {made : List Decision} (punctual : Punctual found.course ctx.now)
    (forward : ∀ since ∈ found.pausedAt, since ≤ ctx.now)
    (valid : Act.Validated act) (once : Act.pauses act → found.pausedAt.isSome → found.phase ≠ .lobby →
      found.phase ≠ .ending → ctx.now < found.phaseEndsAt)
    (deed : Deed ctx found act made course) : Punctual course ctx.now := by
  have timely : Timely course :=
    @Endures.deed ctx found (fun _ => Timely)
      [] made course timely_endures act deed punctual.timely fun own => timely_deed punctual.timely own
  have leads {table : LiarsRoom} (same : table.course = found.course) (leads : Leads ctx table ctx.now course) :
      Punctual course ctx.now := by
    obtain ⟨-, -, timed, -, paused⟩ := leads.keeps
    have before : table.timings = found.timings := congrArg Course.timings same
    have slow : table.timings.Slow := before ▸ punctual.slow
    refine punctual.begins (timed.trans before) timely (paused.trans (congrArg (·.clock.pausedAt) same)) forward ?_
    refine (leads.later slow).imp_right fun later => ?_
    unfold briefestMs at later
    omega
  have deals {begun : Course} {duration : Int} (timed : begun.timings = found.timings)
      (paused : begun.clock.pausedAt = found.pausedAt)
      (lasts : found.Lasts .deal duration) (enters : course = begun.enter .deal ctx.now duration) : Punctual course ctx.now := by
    obtain ⟨table, times, rfl⟩ := lasts
    have long := @phaseDuration_slow table (times ▸ punctual.slow) .deal ⟨nofun, nofun⟩
    subst enters
    refine punctual.begins timed timely paused forward (.inr ?_)
    change ctx.now < ctx.now + table.phaseDuration .deal
    unfold briefestMs at long
    omega
  cases deed with
  | rests => exact punctual
  | joins lobby => exact .idle (.inl lobby) punctual.slow timely punctual.watched
  | @configures configuration lobby =>
    refine .idle (.inl lobby) ?_ timely punctual.watched
    change (found.configureParts ctx configuration).timings.Slow
    rw [(configureParts_active ctx found configuration).2]
    exact configuredTimings_slow punctual.slow valid
  | dismisses lobby => exact .idle (.inl lobby) punctual.slow timely punctual.watched
  | extends_ =>
    refine ⟨punctual.slow, timely, punctual.watched, fun lobby ending => ?_⟩
    have ahead := punctual.ahead lobby ending
    change found.pausedAt.getD ctx.now < found.phaseEndsAt + 30000
    change found.pausedAt.getD ctx.now < found.phaseEndsAt at ahead
    omega
  | pauses =>
    refine ⟨punctual.slow, timely, punctual.watched, fun lobby ending => ?_⟩
    change ctx.now < found.phaseEndsAt
    cases known : found.pausedAt with
    | none =>
      have ahead := punctual.ahead lobby ending
      change found.pausedAt.getD ctx.now < found.phaseEndsAt at ahead
      rwa [known] at ahead
    | some => exact once rfl (by rw [known]; rfl) lobby ending
  | @resumes since paused =>
    refine ⟨punctual.slow, timely, punctual.watched, fun lobby ending => ?_⟩
    have ahead := punctual.ahead lobby ending
    change found.pausedAt.getD ctx.now < found.phaseEndsAt at ahead
    rw [paused, getD_some] at ahead
    change ctx.now < found.phaseEndsAt + (ctx.now - since)
    omega
  | deals lobby fewer lasts => exact deals rfl rfl lasts rfl
  | replays lasts => exact deals rfl rfl lasts rfl
  | returns => exact .idle (.inl rfl) punctual.slow timely punctual.watched
  | ends => exact .idle (.inr rfl) punctual.slow timely punctual.watched
  | @departs id act won =>
    cases won with
    | none => exact ⟨punctual.slow, timely, punctual.watched, punctual.ahead⟩
    | some => exact .idle (.inr rfl) punctual.slow timely punctual.watched
  | @hastens id round reportAt night reported =>
    obtain ⟨planned, known, early⟩ := punctual.timely.report night
    cases some.inj (reported.symm.trans known)
    refine punctual.begins rfl timely rfl forward (.inr ?_)
    change ctx.now < ctx.now + (found.phaseEndsAt - reportAt)
    change reportAt + reportLeadMs ≤ found.phaseEndsAt at early
    unfold reportLeadMs at early
    omega
  | chooses | casts | haunts => exact ⟨punctual.slow, timely, punctual.watched, punctual.ahead⟩
  | @counts id votes =>
    have same : (found.votedIn ctx id).course = found.course := row_course ctx fun _ => rfl
    exact leads same (resolveVote_leads votes)
  | leads same day leads' => exact leads same leads'

end Punctual

end LiarsRoom

open LiarsRoom

namespace Command
variable {command : Command} {room : LiarsRoom}

/-- The clock is past its zero, and has not gone back behind a pause. -/
def GoesForward (command : Command) (room : LiarsRoom) : Prop :=
  command.ctx.now ≠ 0 ∧ ∀ since ∈ (command.finds room).pausedAt, since ≤ command.ctx.now

def PausesInTime (command : Command) (room : LiarsRoom) : Prop :=
  Act.pauses (command.act room) → (command.finds room).pausedAt.isSome → (command.finds room).phase ≠ .lobby →
    (command.finds room).phase ≠ .ending →
    command.ctx.now < (command.finds room).phaseEndsAt

def KeepsTime (command : Command) (room : LiarsRoom) : Prop :=
  command.GoesForward room ∧ Act.Validated (command.act room) ∧ command.PausesInTime room

instance : (act : Option Act) → Decidable (Act.Validated act)
  | some (.host (.configure configuration)) =>
      inferInstanceAs (Decidable (∀ change ∈ configuration.timings, change.bounded = change))
  | none | some (.join _) | some (.play _ _) | some (.host (.admissionSet _)) | some (.host (.start _)) | some (.host .extend)
  | some (.host .pause) | some (.host .resume) | some (.host (.passHost _)) | some (.host (.remove _)) | some (.host .replay)
  | some (.host .lobby) | some (.host .endGame) => .isTrue trivial

instance (command : Command) (room : LiarsRoom) : Decidable (command.KeepsTime room) :=
  inferInstanceAs (Decidable ((_ ∧ ∀ since ∈ (command.finds room).pausedAt, since ≤ command.ctx.now) ∧
      Act.Validated (command.act room) ∧ (_ → _)))

theorem join_punctual (punctual : Punctual room.course room.lastActiveAt)
    (joinToken hostToken : Option Secret) (name : String) :
    Punctual (room.joinLiarsRoom ctx joinToken hostToken name).2.course (room.joinLiarsRoom ctx joinToken hostToken name).2.lastActiveAt := by
  unfold joinLiarsRoom
  extract_lets taken id joined fits
  split
  · exact punctual
  · split
    · exact punctual
    · next opened =>
      have lobby : room.phase = .lobby := by simpa using (not_or.mp opened).1
      split
      · exact punctual
      · split
        · exact punctual
        · refine .idle (.inl lobby) punctual.slow (timely_day ?_ punctual.timely.decided) punctual.watched
          change room.phase ≠ .night
          simp [lobby]

theorem answer_active (found : LiarsRoom) {viewerId : Option Nat} {actionId : Nat} {command : Except Rejected LiarsRoom}
    (same : (leftBy command).lastActiveAt = found.lastActiveAt) :
    (found.answer ctx viewerId actionId command).2.lastActiveAt = found.lastActiveAt := by
  unfold answer
  split
  · rfl
  · cases command with
    | error => exact same
    | ok after =>
      have stored : (after.rememberAction actionId).lastActiveAt = after.lastActiveAt := by simp [rememberAction]
      exact stored.trans same

theorem acted {playerId : Option Nat} (finds : command.finds room = room.attend ctx playerId true)
    (own : command.ctx = ctx) (active : (command.apply room).lastActiveAt = (command.finds room).lastActiveAt)
    (punctual : Punctual room.course room.lastActiveAt)
    (keeps : command.KeepsTime room) : Punctual (command.apply room).course (command.apply room).lastActiveAt := by
  subst own
  obtain ⟨⟨real, forward⟩, valid, once⟩ := keeps
  have looked := punctual.attend real playerId true
  have now : (room.attend command.ctx playerId true).lastActiveAt = command.ctx.now := by
    rw [attend_active]
    exact (touch_active room playerId command.ctx.now true).resolve_right nofun
  rw [← finds] at looked now
  rw [now] at looked
  rw [active, now]
  exact looked.deed forward valid once (command.apply_deed room)

theorem punctual (punctual : Punctual room.course room.lastActiveAt) (keeps : command.KeepsTime room) :
    Punctual (command.apply room).course (command.apply room).lastActiveAt := by
  cases command with
  | join ctx joinToken hostToken name => exact join_punctual punctual joinToken hostToken name
  | read ctx credential playerId =>
    have real : ctx.now ≠ 0 := keeps.1.1
    simp only [apply, readLiarsSnapshot]
    split
    · exact punctual.attend real playerId false
    · exact punctual
  | host ctx input =>
    by_cases allowed : room.mayHost input
    · have finds : (Command.host ctx input).finds room =
          room.attend ctx (input.playerId.filter fun id => (room.player id).isSome) true := if_pos allowed
      refine acted finds rfl ?_ punctual keeps
      rw [finds]
      simp only [apply, applyLiarsHostAction, allowed, if_true]
      exact answer_active _ (hostCommand_active ..)
    · have still : (Command.host ctx input).apply room = room := by simp [apply, applyLiarsHostAction, allowed]
      rwa [still]
  | play ctx input =>
    by_cases allowed : room.mayPlay input
    · have finds : (Command.play ctx input).finds room = room.attend ctx (some input.playerId) true := if_pos allowed
      refine acted finds rfl ?_ punctual keeps
      rw [finds]
      simp only [apply, applyLiarsPlayerAction, allowed, if_true]
      split
      · exact answer_active _ (playerCommand_active ..)
      · rfl
    · have still : (Command.play ctx input).apply room = room := by simp [apply, applyLiarsPlayerAction, allowed]
      rwa [still]

end Command

theorem bounded_bounded (timings : TimingsPatch) : timings.bounded.bounded = timings.bounded := by
  have twice {timing : LiarsTimings → Int} (ordered : timing timingBounds.1 ≤ timing timingBounds.2) (value : Option Int) :
      (value.map (boundTiming timing)).map (boundTiming timing) = value.map (boundTiming timing) := by
    cases value with
    | none => rfl
    | some =>
      simp only [map_some, boundTiming]
      congr 1
      omega
  simp only [TimingsPatch.bounded]
  congr 1
  all_goals exact twice (by decide) _

theorem LiarsRoom.idleFor_watched {now : Int} (early : now ≤ room.lastActiveAt + connectedWindowMs) :
    room.idleFor now ≤ connectedWindowMs := by
  unfold idleFor connectedWindowMs at *
  split
  · omega
  · omega

theorem LiarsRoom.Punctual.polled (punctual : Punctual room.course room.lastActiveAt) (ctx : GameContext)
    {first second : Int} (firstClock secondClock : Int) (early : first ≤ second)
    (watched : second ≤ room.lastActiveAt + connectedWindowMs) :
    let once := room.advance (ctx.timed first firstClock) first (room.idleFor first)
    ∃ expiresAt, once.advance (ctx.timed second secondClock) second (once.idleFor second) =
      { room.advance (ctx.timed second secondClock) second (room.idleFor second) with expiresAt } := by
  intro once
  have soon (lobby : room.phase ≠ .lobby) (ending : room.phase ≠ .ending) (unpaused : room.pausedAt = none) :
      second < room.phaseEndsAt + briefestMs * 7 := by
    have ahead := punctual.ahead lobby ending
    change room.pausedAt.getD room.lastActiveAt < room.phaseEndsAt at ahead
    rw [unpaused, getD_none] at ahead
    unfold briefestMs connectedWindowMs at *
    omega
  have active : once.lastActiveAt = room.lastActiveAt :=
    (advance_unstamped first (room.idleFor first)).lastActive (ctx.timed first firstClock) room
  refine advance_reads early punctual.slow soon ⟨?_, ?_, ?_⟩ (first, firstClock) (second, secondClock)
  · exact idleFor_watched watched
  · exact idleFor_watched (Int.le_trans early watched)
  · exact idleFor_watched (active ▸ watched)

/-- While a room is polled within its window after the last activity, it does not matter how often: in every run in which clocks go forward,
timings are within their bounds and no host pauses again what should be over, an earlier read changes nothing about a later
one but when the room expires. -/
theorem polling_agrees (ctx : GameContext) (mode : LiarsMode) (roomMode : LiarsRoomMode) (toggles : TogglesPatch)
    (timings : TimingsPatch) (managed : Bool) (started : ctx.clock ≠ 0) (commands : List Command)
    (each : EachStep Command.apply Command.KeepsTime (createLiarsRoom ctx mode roomMode toggles timings.bounded managed) commands) :
    let room := runFrom Command.apply (createLiarsRoom ctx mode roomMode toggles timings.bounded managed) commands
    ∀ (ctx : GameContext) (first second firstClock secondClock : Int), first ≤ second →
      second ≤ room.lastActiveAt + connectedWindowMs →
      let once := room.advance (ctx.timed first firstClock) first (room.idleFor first)
      ∃ expiresAt, once.advance (ctx.timed second secondClock) second (once.idleFor second) =
        { room.advance (ctx.timed second secondClock) second (room.idleFor second) with expiresAt } := by
  intro room
  have start : Punctual (createLiarsRoom ctx mode roomMode toggles timings.bounded managed).course
      (createLiarsRoom ctx mode roomMode toggles timings.bounded managed).lastActiveAt := by
    have lobby : (createLiarsRoom ctx mode roomMode toggles timings.bounded managed).course.phase = .lobby := rfl
    have open_ : (createLiarsRoom ctx mode roomMode toggles timings.bounded managed).course.winner = none := rfl
    have slow : ((liarsDefaultTimings roomMode).patch timings.bounded).Slow :=
      (LiarsTimings.default_slow roomMode).patch (bounded_bounded timings)
    exact .idle (.inl lobby) slow (timely_day (by simp [lobby]) (by simp [open_])) started
  have step {room : LiarsRoom} {command : Command} (punctual : Punctual room.course room.lastActiveAt)
      (keeps : command.KeepsTime room) :
      Punctual (command.apply room).course (command.apply room).lastActiveAt ∧ True := ⟨Command.punctual punctual keeps, trivial⟩
  have punctual : Punctual room.course room.lastActiveAt :=
    (@EachStep.shows LiarsRoom Command Command.apply Command.KeepsTime (fun room =>
      Punctual room.course room.lastActiveAt) (fun _ _ => True)
      step _ commands start each).1.last
  intro ctx first second firstClock secondClock early watched
  exact punctual.polled ctx firstClock secondClock early watched

/-- A game whose deal is over at 10002 ms is paused, paused again within the room's lease, some six minutes later, and goes on. -/
def pausedTwice : List Command :=
  watchedUntil [] ++ [.byHost 3000 2 .pause, .byHost 400000 3 .pause, .byHost 400001 4 .resume]

/-- Its deadline lies six minutes behind, and every read takes it eight phases further at once. -/
theorem polling_differs :
    let room := runFrom Command.apply (createLiarsRoom (.plain 1) .mafia .sameRoom {} shortPhases.bounded false) pausedTwice
    let once := room.advance (.plain 400002) 400002 (room.idleFor 400002)
    let twice := once.advance (.plain 400002) 400002 (once.idleFor 400002)
    room.phase = .deal ∧ room.pausedAt = none ∧ 400002 ≤ room.lastActiveAt + connectedWindowMs ∧ once.round = 2 ∧
      twice.round = 4 ∧
      once.phaseEndsAt ≠ twice.phaseEndsAt := by
  decide +kernel

theorem polling_agrees_onePause :
    let room := runFrom Command.apply (createLiarsRoom (.plain 1) .mafia .sameRoom {} shortPhases.bounded false)
      (watchedUntil [] ++ [.byHost 3000 2 .pause, .byHost 400001 4 .resume])
    let once := room.advance (.plain 410000) 410000 (room.idleFor 410000)
    ∃ expiresAt, once.advance (.plain 425000) 425000 (once.idleFor 425000) =
      { room.advance (.plain 425000) 425000 (room.idleFor 425000) with expiresAt } := by
  refine polling_agrees (.plain 1) .mafia .sameRoom {} shortPhases false (by decide) _ ?_ (.plain 0) 410000 425000 410000 425000 ?_ ?_
  · decide +kernel
  · decide
  · decide +kernel

end MilkAndHenny.Liars

import MilkAndHenny.Liars.Chronicle

/-! The clocks of a phase under pause, resume and extension. A single pause gives back exactly the time that
was left, and the report comes a fixed time before the night ends, unless a night is extended, a paused phase is
paused again or a dawn is on the table when it goes on. -/

namespace MilkAndHenny.Liars
open Library

namespace LiarsRoom

/-- In a night, the report is due a fixed time before the end. -/
def ReportLeads (room : LiarsRoom) : Prop := room.phase = .night → room.reportAt = some (room.phaseEndsAt - reportLeadMs)

def reports (_ : List Decision) (course : Course) : Prop :=
  course.phase = .night → course.clock.reportAt = some (course.clock.phaseEndsAt - reportLeadMs)

theorem reports_endures : Endures reports where
  leads {ctx table now course past} held leads dark := by
    cases leads with
    | @round duration =>
      change roundPhase table.mode = .night at dark
      change (if roundPhase table.mode = .night then some (now + duration - reportLeadMs) else none) =
        some (now + duration - reportLeadMs)
      rw [if_pos dark]
    | clue phase =>
      have still : table.phase = .night := dark
      rw [phase] at still
      cases still
    | _ => cases dark
  woken {past course dormant} _ _ held dark := by
    have known := held dark
    have shifted : course.clock.reportAt.map (· + dormant) = some (course.clock.phaseEndsAt + dormant - reportLeadMs) := by
      rw [known, map_some]
      congr 1
      omega
    exact shifted

theorem reports_deed {ctx : GameContext} {found : LiarsRoom} {act : Option Act} {past : List Decision} {course : Course}
    (held : reports past found.course)
    (deed : Deed ctx found act [] course) (short : act = some (.host .extend) → found.phase ≠ .night) : reports past course := by
  intro dark
  cases deed with
  | rests => exact held dark
  | joins lobby | configures lobby | dismisses lobby => exact absurd (lobby.symm.trans dark) (by simp)
  | extends_ => exact absurd dark (short rfl)
  | pauses => exact held dark
  | @resumes since =>
    have known := held dark
    have shifted : found.course.clock.reportAt.map (· + (ctx.now - since)) =
        some (found.course.clock.phaseEndsAt + (ctx.now - since) - reportLeadMs) := by
      rw [known, map_some]
      congr 1
      omega
    exact shifted
  | deals | replays | returns | ends => cases dark
  | @departs id act won =>
    cases won with
    | none => exact held dark
    | some => cases dark
  | chooses => exact held dark
  | @hastens id round reportAt night reported =>
    have known : found.reportAt = some (found.phaseEndsAt - reportLeadMs) := held night
    have gap := some.inj (reported.symm.trans known)
    have early : some ctx.now = some (ctx.now + (found.phaseEndsAt - reportAt) - reportLeadMs) := by
      congr 1
      omega
    exact early
  | casts | haunts => exact held dark
  | leads same day leads => exact reports_endures.led same day leads held dark

end LiarsRoom

open LiarsRoom

namespace Command
variable {command : Command} {room : LiarsRoom}

theorem hosted {action : LiarsHostAction} (act : command.act room = some (.host action)) :
    (command.apply room).course = (leftBy ((command.finds room).hostCommand command.ctx action)).course := by
  cases command with
  | join | read => cases act
  | play =>
    simp only [Command.act] at act
    split at act <;> cases act
  | host ctx input =>
    simp only [Command.act] at act
    split at act
    · next carried =>
      obtain ⟨allowed, fresh⟩ := and_eq_true_iff.mp carried
      cases Act.host.inj (some.inj act)
      have unanswered : (room.hostFinds ctx input).processedActions.contains input.actionId = false := by simpa using fresh
      have found : room.hostFinds ctx input =
          room.attend ctx (input.playerId.filter fun id => (room.player id).isSome) true := if_pos allowed
      simp only [apply, finds, Command.ctx, applyLiarsHostAction, allowed, if_true]
      rw [answer_course, ← found, unanswered]
      rfl
    · cases act

theorem attend_paused (ctx : GameContext) (paused : room.pausedAt.isSome) (playerId : Option Nat) (force : Bool) :
    (room.attend ctx playerId force).course = room.course := by
  have touched := touch_course room playerId ctx.now force
  have still : (room.touch playerId ctx.now force).pausedAt.isSome := (congrArg (·.clock.pausedAt.isSome) touched).trans paused
  unfold attend advance
  rw [if_pos (.inr (.inr still))]
  exact touched

theorem finds_paused (paused : room.pausedAt.isSome) : (command.finds room).course = room.course := by
  cases command with
  | join => rfl
  | read ctx credential playerId =>
    simp only [finds]
    split
    · exact attend_paused ctx paused playerId false
    · rfl
  | host ctx =>
    simp only [finds, hostFinds]
    split
    · exact attend_paused ctx paused _ true
    · rfl
  | play ctx =>
    simp only [finds, playerFinds]
    split
    · exact attend_paused ctx paused _ true
    · rfl

def Waits : Command → Prop
  | .read .. => True
  | .host _ input => input.action = .pause
  | .join .. | .play .. => False

theorem waits_course (waits : command.Waits) (paused : room.pausedAt.isSome) :
    ∃ since, (command.apply room).course = { room.course with clock := { room.clock with pausedAt := some since } } := by
  obtain ⟨since, known⟩ := isSome_iff_exists.mp paused
  have same : { room.course with clock := { room.clock with pausedAt := some since } } = room.course := by
    rw [← known]
    rfl
  cases command with
  | join | play => exact waits.elim
  | read ctx credential playerId =>
    refine ⟨since, Eq.trans ?_ same.symm⟩
    simp only [apply, readLiarsSnapshot]
    split
    · exact attend_paused ctx paused playerId false
    · rfl
  | host ctx input =>
    simp only [apply, applyLiarsHostAction]
    split
    · have found := attend_paused ctx paused (input.playerId.filter fun id => (room.player id).isSome) true
      generalize room.attend ctx (input.playerId.filter fun id => (room.player id).isSome) true = attended at found ⊢
      have action : input.action = .pause := waits
      rw [answer_course, action]
      split
      · exact ⟨since, found.trans same.symm⟩
      · refine ⟨ctx.now, ?_⟩
        change { attended.course with clock := { attended.course.clock with pausedAt := some ctx.now } } = _
        rw [found]
        rfl
    · exact ⟨since, same.symm⟩

theorem waits_run {commands : List Command} (waits : ∀ command ∈ commands, command.Waits) (paused : room.pausedAt.isSome) :
    ∃ since, (runFrom Command.apply room commands).course =
      { room.course with clock := { room.clock with pausedAt := some since } } := by
  induction commands generalizing room with
  | nil =>
    obtain ⟨since, known⟩ := isSome_iff_exists.mp paused
    refine ⟨since, ?_⟩
    rw [← known]
    rfl
  | cons command commands ih =>
    obtain ⟨first, others⟩ := forall_mem_cons.mp waits
    obtain ⟨since, waited⟩ := waits_course first paused
    have still : (command.apply room).pausedAt.isSome := congrArg (·.clock.pausedAt.isSome) waited
    obtain ⟨until_, rest⟩ := ih others still
    refine ⟨until_, rest.trans ?_⟩
    have clock : (command.apply room).clock = { room.clock with pausedAt := some since } := congrArg Course.clock waited
    rw [waited, clock]

end Command

structure Resumed (before after : Course) (pausedAt resumedAt : Int) : Prop where
  left : after.clock.phaseEndsAt - resumedAt = before.clock.phaseEndsAt - pausedAt
  alike : ∃ shift, after.clock = { before.clock.shift shift with dawn := before.clock.dawn.map (·.shift shift) }

theorem DawnClock.shift_self {clock : DawnClock} {shift : Int} : clock.shift shift = clock ↔ shift = 0 := by
  constructor
  · intro same
    have lands : clock.nameLandsAt + shift = clock.nameLandsAt := congrArg DawnClock.nameLandsAt same
    omega
  · rintro rfl
    obtain ⟨lands, hold, revive, settle⟩ := clock
    cases revive <;> simp [DawnClock.shift]

section
variable {room : LiarsRoom} {pause resume : Command} {middle : List Command}

theorem span_clock (pauses : pause.act room = some (.host .pause)) (waits : ∀ command ∈ middle, command.Waits)
    (resumes : resume.act (runFrom Command.apply (pause.apply room) middle) = some (.host .resume)) :
    ∃ since, (runFrom Command.apply (pause.apply room) middle).pausedAt = some since ∧
      (resume.apply (runFrom Command.apply (pause.apply room) middle)).course.clock =
        { (pause.finds room).clock.shift (resume.ctx.now - since) with pausedAt := none } := by
  have frozen : (pause.apply room).course =
      { (pause.finds room).course with clock := { (pause.finds room).clock with pausedAt := some pause.ctx.now } } :=
    Command.hosted pauses
  have clock : (pause.apply room).clock = { (pause.finds room).clock with pausedAt := some pause.ctx.now } :=
    congrArg Course.clock frozen
  have paused : (pause.apply room).pausedAt.isSome := congrArg (·.pausedAt.isSome) clock
  obtain ⟨since, waited⟩ := Command.waits_run waits paused
  have known : (runFrom Command.apply (pause.apply room) middle).pausedAt = some since := congrArg (·.clock.pausedAt) waited
  refine ⟨since, known, ?_⟩
  have waited_clock : (runFrom Command.apply (pause.apply room) middle).clock =
      { (pause.apply room).clock with pausedAt := some since } :=
    congrArg Course.clock waited
  generalize runFrom Command.apply (pause.apply room) middle = last at resumes known waited_clock ⊢
  have found := @Command.finds_paused resume last (by rw [known]; rfl)
  have goes := congrArg Course.clock (Command.hosted resumes)
  have since_found : (resume.finds last).pausedAt = some since := (congrArg (·.clock.pausedAt) found).trans known
  have clock_found : (resume.finds last).clock = { (pause.finds room).clock with pausedAt := some since } := by
    rw [show (resume.finds last).clock = last.clock from congrArg Course.clock found, waited_clock, clock]
  rw [goes]
  simp only [hostCommand, since_found]
  change { (resume.finds last).clock.shift (resume.ctx.now - since) with pausedAt := none } = _
  rw [clock_found]
  rfl

theorem span_resumed (pauses : pause.act room = some (.host .pause)) (unpaused : (pause.finds room).pausedAt = none)
    (waits : ∀ command ∈ middle, command.Waits)
    (resumes : resume.act (runFrom Command.apply (pause.apply room) middle) = some (.host .resume)) :
    Resumed (pause.finds room).course (resume.apply (runFrom Command.apply (pause.apply room) middle)).course pause.ctx.now resume.ctx.now ↔
      (runFrom Command.apply (pause.apply room) middle).pausedAt = some pause.ctx.now ∧
        ((pause.finds room).dawn = none ∨ resume.ctx.now = pause.ctx.now) := by
  obtain ⟨since, known, clock⟩ := span_clock pauses waits resumes
  have open_ : (pause.finds room).clock.pausedAt = none := unpaused
  rw [known]
  generalize (resume.apply (runFrom Command.apply (pause.apply room) middle)).course = after at clock ⊢
  have ends : after.clock.phaseEndsAt = (pause.finds room).course.clock.phaseEndsAt + (resume.ctx.now - since) :=
    congrArg Clock.phaseEndsAt clock
  have dawns : after.clock.dawn = (pause.finds room).course.clock.dawn := by
    rw [clock]
    rfl
  constructor
  · rintro ⟨left, shift, alike⟩
    have same : since = pause.ctx.now := by omega
    subst same
    have shifted := congrArg Clock.phaseEndsAt alike
    change after.clock.phaseEndsAt = (pause.finds room).course.clock.phaseEndsAt + shift at shifted
    have dawn := congrArg Clock.dawn alike
    change after.clock.dawn = (pause.finds room).course.clock.dawn.map (·.shift shift) at dawn
    refine ⟨rfl, ?_⟩
    cases told : (pause.finds room).dawn with
    | none => exact .inl rfl
    | some dawn' =>
      right
      have clocks : (pause.finds room).course.clock.dawn = some dawn'.clock := congrArg (Option.map LiarsDawn.clock) told
      rw [dawns, clocks, map_some] at dawn
      have none := DawnClock.shift_self.mp (some.inj dawn).symm
      omega
  · rintro ⟨same, still⟩
    cases same
    refine ⟨by omega, resume.ctx.now - pause.ctx.now, ?_⟩
    rw [clock]
    have dawn : (pause.finds room).clock.dawn =
        (pause.finds room).course.clock.dawn.map (·.shift (resume.ctx.now - pause.ctx.now)) := by
      rcases still with none | at_once
      · have nothing : (pause.finds room).clock.dawn = Option.none := congrArg (Option.map LiarsDawn.clock) none
        change (pause.finds room).clock.dawn = (pause.finds room).clock.dawn.map (·.shift (resume.ctx.now - pause.ctx.now))
        rw [nothing]
        rfl
      · have zero : resume.ctx.now - pause.ctx.now = 0 := by omega
        rw [zero]
        change (pause.finds room).clock.dawn = (pause.finds room).clock.dawn.map (·.shift 0)
        cases (pause.finds room).clock.dawn with
        | none => rfl
        | some => exact congrArg some (DawnClock.shift_self.mpr rfl).symm
    calc _ = ({ (pause.finds room).clock.shift (resume.ctx.now - pause.ctx.now) with
        pausedAt := (pause.finds room).clock.pausedAt, dawn := (pause.finds room).clock.dawn } : Clock) := by
          rw [open_]
          rfl
      _ = _ := by
        rw [dawn]
        rfl

end

/-- More time is asked for. -/
def Act.prolongs : Option Act → Bool
  | some (.host .extend) => true
  | _ => false

/-- No night is extended. -/
def Command.KeepsNight (command : Command) (room : LiarsRoom) : Prop :=
  Act.prolongs (command.act room) → (command.finds room).phase ≠ .night

instance (command : Command) (room : LiarsRoom) : Decidable (command.KeepsNight room) := inferInstanceAs (Decidable (_ → _))

instance (room : LiarsRoom) : Decidable room.ReportLeads := inferInstanceAs (Decidable (_ → _))

theorem reports_step {room : LiarsRoom} {command : Command} (leads : room.ReportLeads) :
    (command.apply room).ReportLeads ↔ command.KeepsNight room := by
  have found : reports ([] ++ command.awaited room) (command.finds room).course :=
    reports_endures.passes (command.finds_passes room) leads
  constructor
  · intro after prolongs dark
    have extends_ : command.act room = some (.host .extend) := by
      unfold Act.prolongs at prolongs
      split at prolongs
      · assumption
      · cases prolongs
    have acted := Command.hosted extends_
    have known : (command.finds room).reportAt = some ((command.finds room).phaseEndsAt - reportLeadMs) := found dark
    have night : (command.apply room).phase = .night := (congrArg Course.phase acted).trans dark
    have same : (command.apply room).reportAt = (command.finds room).reportAt := congrArg (·.clock.reportAt) acted
    have later : (command.apply room).phaseEndsAt = (command.finds room).phaseEndsAt + 30000 :=
      congrArg (·.clock.phaseEndsAt) acted
    have due := after night
    rw [same, known, later] at due
    have gap := some.inj due
    omega
  · intro keeps
    have own {past : List Decision} (held : reports past (command.finds room).course)
        (deed : Deed command.ctx (command.finds room) (command.act room) [] (command.apply room).course) :
        reports past (command.apply room).course := by
      refine reports_deed held deed fun extends_ => keeps ?_
      rw [extends_]
      rfl
    have kept : reports ([] ++ command.decisions room) (command.apply room).course := reports_endures.command leads own
    exact kept

/-- In every run, the report leads the end of the night by the same time exactly where no night is extended; and
after every run a pause gives back the time that was left and moves all clocks alike exactly where no later moment has taken its place and no
dawn is on the table when time has passed. -/
theorem clocks_keep (ctx : GameContext) (mode : LiarsMode) (roomMode : LiarsRoomMode) (toggles : TogglesPatch)
    (timings : TimingsPatch) (managed : Bool) (commands : List Command) :
    (Throughout Command.apply ReportLeads (createLiarsRoom ctx mode roomMode toggles timings managed) commands ↔
      EachStep Command.apply Command.KeepsNight (createLiarsRoom ctx mode roomMode toggles timings managed) commands) ∧
    let room := runFrom Command.apply (createLiarsRoom ctx mode roomMode toggles timings managed) commands
    ∀ (pause resume : Command) (middle : List Command), pause.act room = some (.host .pause) →
      (pause.finds room).pausedAt = none →
      (∀ command ∈ middle, command.Waits) → resume.act (runFrom Command.apply (pause.apply room) middle) = some (.host .resume) →
      (Resumed (pause.finds room).course (resume.apply (runFrom Command.apply (pause.apply room) middle)).course pause.ctx.now resume.ctx.now ↔
        (runFrom Command.apply (pause.apply room) middle).pausedAt = some pause.ctx.now ∧
          ((pause.finds room).dawn = none ∨ resume.ctx.now = pause.ctx.now)) := by
  have start : (createLiarsRoom ctx mode roomMode toggles timings managed).ReportLeads := nofun
  refine ⟨throughout_iff (fun leads _ => reports_step leads) start fun _ _ => trivial, ?_⟩
  intro room pause resume middle pauses unpaused waits resumes
  exact span_resumed pauses unpaused waits resumes

def watchedUntil (times : List Nat) : List Command :=
  ["Ada", "Bo", "Cy", "Di", "Em", "Flo"].map (.join (.plain 1) none none) ++ [.byHost 2 1 (.start [])] ++
    times.map fun now => .read (.plain now) (.token 0) none

/-- A second pause costs the five seconds since the first, a resume leaves the times of a dawn behind, and an
extended night has its report half a minute early. -/
theorem clocks_slip :
    let created := createLiarsRoom (.plain 1) .mafia .sameRoom {} shortPhases false
    let dealt := runFrom Command.apply created (watchedUntil [])
    let morning := runFrom Command.apply created (watchedUntil [20000, 40000])
    ((Command.byHost 3000 2 .pause).act dealt).isSome ∧
    ¬ Resumed ((Command.byHost 3000 2 .pause).finds dealt).course
      (runFrom Command.apply dealt [.byHost 3000 2 .pause, .byHost 8000 3 .pause, .byHost 9000 4 .resume]).course 3000 9000 ∧
    ((Command.byHost 41000 2 .pause).act morning).isSome ∧
    ¬ Resumed ((Command.byHost 41000 2 .pause).finds morning).course
      (runFrom Command.apply morning [.byHost 41000 2 .pause, .byHost 42000 3 .resume]).course 41000 42000 ∧
    ¬ Throughout Command.apply ReportLeads created (watchedUntil [20000] ++ [.byHost 21000 2 .extend]) := by
  refine ⟨by decide +kernel, fun resumed => ?_, by decide +kernel, fun resumed => ?_, fun leads => ?_⟩
  · exact absurd resumed.left (by decide +kernel)
  · obtain ⟨shift, alike⟩ := resumed.alike
    have ends := congrArg Clock.phaseEndsAt alike
    have lands := congrArg (fun clock => clock.dawn.map DawnClock.nameLandsAt) alike
    have moved : shift = 1000 := by
      have before : ((Command.byHost 41000 2 .pause).finds (runFrom Command.apply (createLiarsRoom (.plain 1) .mafia .sameRoom {} shortPhases false)
          (watchedUntil [20000, 40000]))).course.clock.phaseEndsAt = 43002 := by decide +kernel
      change 44002 = _ + shift at ends
      omega
    rw [moved] at lands
    exact absurd lands (by decide +kernel)
  · exact absurd leads.last (by decide +kernel)

theorem clocks_keep_onePause :
    let created := createLiarsRoom (.plain 1) .mafia .sameRoom {} shortPhases false
    let night := runFrom Command.apply created (watchedUntil [20000])
    Throughout Command.apply ReportLeads created (watchedUntil [20000]) ∧
    Resumed ((Command.byHost 21000 2 .pause).finds night).course
      ((Command.byHost 40000 3 .resume).apply
        (runFrom Command.apply ((Command.byHost 21000 2 .pause).apply night)
        [.read (.plain 30000) (.token 0) none])).course 21000 40000 := by
  have both := clocks_keep (.plain 1) .mafia .sameRoom {} shortPhases false (watchedUntil [20000])
  have carried {command : Command} {input : HostInput} {room : LiarsRoom} {ctx : GameContext} (same : command = .host ctx input)
      (allowed : room.mayHost input && !(room.hostFinds ctx input).processedActions.contains input.actionId) :
      command.act room = some (.host input.action) := by
    rw [same]
    exact if_pos allowed
  refine ⟨both.1.mpr (by decide +kernel), ?_⟩
  refine (both.2 (.byHost 21000 2 .pause) (.byHost 40000 3 .resume)
    [.read (.plain 30000) (.token 0) none] ?_ ?_ ?_ ?_).mpr ⟨?_, .inl ?_⟩
  · exact carried rfl (by decide +kernel)
  · decide +kernel
  · exact fun command listed => mem_singleton.mp listed ▸ trivial
  · exact carried rfl (by decide +kernel)
  · decide +kernel
  · decide +kernel

end MilkAndHenny.Liars

import MilkAndHenny.Liars.Reckoning

/-! What a game never takes back. The cards, the deaths, the departures and the vigilante's shot stay as long as
the game goes on, and its rounds only follow on one another. -/

namespace MilkAndHenny.Liars
open Library LiarsRoom

variable {ctx : GameContext}

/-- The same player at a later time of the same game. -/
structure Trail.Ages (old new : Trail) : Prop where
  named : new.id = old.id
  card : new.role = old.role
  dead : old.alive = false → new.alive = false
  left : old.leftAt.isSome → new.leftAt.isSome
  used : old.vigilanteUsed → new.vigilanteUsed

/-- A course at a later time of the same game: nobody has come to the table or gone from it. -/
structure Course.GoesOn (before after : Course) : Prop where
  dealt : after.phase ≠ .lobby
  round : before.round ≤ after.round
  trails : Forall₂ Trail.Ages before.trails after.trails

/-- A course at any later time: the game goes on, or another has begun. -/
structure Course.Succeeds (before after : Course) : Prop where
  game : before.gameNumber ≤ after.gameNumber
  goesOn : after.gameNumber = before.gameNumber → before.GoesOn after

section
variable {before course later : Course} {old new newest : Trail}

/-- What a game does not take back of a trail. -/
def fate (trail : Trail) : Nat × Option LiarsRole × Bool × Option Int × Bool :=
  (trail.id, trail.role, trail.alive, trail.leftAt, trail.vigilanteUsed)

theorem Trail.Ages.of_fate (same : fate new = fate old) : old.Ages new := by
  simp only [fate, Prod.mk.injEq] at same
  obtain ⟨named, card, alive, left, used⟩ := same
  exact ⟨named, card, alive.trans, fun gone => left ▸ gone, fun shot => used ▸ shot⟩

theorem Trail.Ages.trans (first : old.Ages new) (second : new.Ages newest) : old.Ages newest where
  named := second.named.trans first.named
  card := second.card.trans first.card
  dead := second.dead ∘ first.dead
  left := second.left ∘ first.left
  used := second.used ∘ first.used

theorem Trail.Days.ages (days : old.Days new) : old.Ages new := by
  cases days with
  | rests | recalls => exact .of_fate rfl
  | ejected => exact ⟨rfl, rfl, fun _ => rfl, fun gone => gone, fun shot => shot⟩

theorem Trail.leaves_ages (round : Nat) (now : Int) (trail : Trail) : trail.Ages (trail.leaves round now) := by
  unfold Trail.leaves
  split
  · exact ⟨rfl, rfl, fun _ => rfl, fun _ => rfl, fun shot => shot⟩
  · exact ⟨rfl, rfl, fun dead => dead, fun _ => rfl, fun shot => shot⟩

theorem ages_refl (trails : List Trail) : Forall₂ Trail.Ages trails trails :=
  forall₂_same.mpr fun _ _ => .of_fate rfl

/-- The night touches a record without turning any of it back. -/
theorem LiarsRoom.night_ages (room : LiarsRoom) :
    Forall₂ Trail.Ages room.trails (room.nightOutcome ctx).room.trails := by
  have cards : (room.writeNightReports ctx).trails = room.trails := congrArg Course.trails (writeNightReports_course ctx room)
  have pairs : Forall₂ (fun old new : PlayerState => old.trail.Ages new.trail) (room.writeNightReports ctx).players
      (room.nightOutcome ctx).room.players := by
    refine (nightOutcome_night ctx room).pairs (fun _ => .of_fate rfl) (fun _ _ _ => .trans) fun row new touched => ?_
    cases touched with
    | dies => exact ⟨rfl, rfl, fun _ => rfl, fun gone => gone, fun shot => shot⟩
    | fires => exact ⟨rfl, rfl, fun dead => dead, fun gone => gone, fun _ => rfl⟩
    | interrupted | testifies | saved | guilty | sees => exact .of_fate rfl
  rw [← cards]
  exact List.forall₂_map_left_iff.mpr (forall₂_map_right_iff.mpr pairs)

namespace Course.Succeeds

theorem refl (dealt : before.phase ≠ .lobby) : before.Succeeds before :=
  ⟨le_rfl, fun _ => ⟨dealt, le_rfl, ages_refl _⟩⟩

/-- Within a game a step may do what ages the trails and goes on with the rounds. -/
theorem step (succeeds : before.Succeeds course) (game : later.gameNumber = course.gameNumber)
    (dealt : course.phase ≠ .lobby → later.phase ≠ .lobby) (round : course.round ≤ later.round)
    (trails : Forall₂ Trail.Ages course.trails later.trails) : before.Succeeds later where
  game := game ▸ succeeds.game
  goesOn same := by
    have onward := succeeds.goesOn (game.symm.trans same)
    exact ⟨dealt onward.dealt, onward.round.trans round, pairs_trans (fun _ _ _ => .trans) onward.trails trails⟩

/-- In the lobby there is no game to go on with. -/
theorem lobby (succeeds : before.Succeeds course) (lobby : course.phase = .lobby) (game : later.gameNumber = course.gameNumber) :
    before.Succeeds later where
  game := game ▸ succeeds.game
  goesOn same := absurd lobby (succeeds.goesOn (game.symm.trans same)).dealt

theorem another (succeeds : before.Succeeds course) (game : later.gameNumber = course.gameNumber + 1) : before.Succeeds later where
  game := game ▸ Nat.le_succ_of_le succeeds.game
  goesOn same := by
    have older := succeeds.game
    omega

theorem change (succeeds : before.Succeeds course) {id : Nat} {change : Trail → Trail} (ages : ∀ trail, Trail.Ages trail (change trail)) :
    before.Succeeds (course.change id change) :=
  succeeds.step rfl (fun dealt => dealt) le_rfl (forall₂_updateFirst (fun _ => .of_fate rfl) fun trail _ => ages trail)

end Course.Succeeds

theorem succeeds_endures (before : Course) : Endures fun _ course => before.Succeeds course where
  leads {ctx table now course past} succeeds leads := by
    rcases leads.sorts with ⟨phase, duration, rfl⟩ | ⟨-, game, -, round, phase, trails⟩ | day
    · refine succeeds.step rfl (fun _ => ?_) (Nat.le_succ _) (forall₂_map_right_iff.mpr (forall₂_same.mpr fun _ _ => .of_fate rfl))
      change roundPhase table.mode ≠ .lobby
      cases table.mode <;> simp [roundPhase]
    · refine succeeds.step game (fun _ => ?_) round.ge ?_
      · rcases phase with dawn | ending <;> simp [*]
      · rw [trails]
        exact table.night_ages
    · exact succeeds.step day.game (fun _ => day.enters.1) day.round.ge (day.trails.imp fun _ _ days => days.ages)
  woken _ _ succeeds := succeeds.step rfl (fun dealt => dealt) le_rfl (ages_refl _)

theorem Course.Succeeds.deed {found : LiarsRoom} {act : Option Act} (succeeds : before.Succeeds found.course)
    (deed : Deed ctx found act [] course) : before.Succeeds course := by
  have rests {later : Course} (game : later.gameNumber = found.gameNumber) (phase : later.phase = found.phase)
      (round : later.round = found.round) (trails : later.trails = found.trails) : before.Succeeds later := by
    refine succeeds.step game (fun dealt => phase ▸ dealt) round.ge ?_
    rw [trails]
    exact ages_refl _
  cases deed with
  | rests => exact succeeds
  | joins lobby | configures lobby | dismisses lobby => exact succeeds.lobby lobby rfl
  | extends_ | pauses | resumes => exact rests rfl rfl rfl rfl
  | deals lobby => exact succeeds.lobby lobby rfl
  | replays | returns => exact succeeds.another rfl
  | ends => exact succeeds.step rfl (fun _ => by simp [Course.finish]) le_rfl (ages_refl _)
  | @departs id act won =>
    cases won with
    | none => exact succeeds.change (Trail.leaves_ages _ _)
    | some winner =>
      have ended : before.Succeeds (found.course.finish winner ctx.now) :=
        succeeds.step rfl (fun _ => by simp [Course.finish]) le_rfl (ages_refl _)
      exact ended.change (Trail.leaves_ages _ _)
  | chooses => exact succeeds.change fun _ => .of_fate rfl
  | hastens => exact rests rfl rfl rfl rfl
  | casts | haunts => exact succeeds.change fun _ => .of_fate rfl
  | leads same day leads => exact @Endures.led ctx found _ [] course (succeeds_endures before) _ same day leads succeeds

end

/-- Whatever is done in a room where cards are dealt, and whenever: as long as it is the same game, everybody keeps the
card and the place they have, neither the dead nor those who left come back, a shot that was fired stays fired, and
the rounds do not go back. -/
theorem games_goOn (room : LiarsRoom) (dealt : room.phase ≠ .lobby) (commands : List Command) :
    let after := runFrom Command.apply room commands
    room.gameNumber ≤ after.gameNumber ∧
      (after.gameNumber = room.gameNumber → after.phase ≠ .lobby ∧ room.round ≤ after.round ∧
        Forall₂ Trail.Ages room.trails after.trails) := by
  have each : EachStep Command.apply (fun _ _ => True) room commands := EachStep.always fun _ _ => trivial
  have succeeds : room.course.Succeeds (runFrom Command.apply room commands).course :=
    (succeeds_endures room.course).throughout (fun _ held deed => held.deed deed) (Course.Succeeds.refl dealt) each
  exact ⟨succeeds.game, fun same => ⟨(succeeds.goesOn same).dealt, (succeeds.goesOn same).round, (succeeds.goesOn same).trails⟩⟩

/-- Fourteen players who have just been dealt in. -/
def dealtIn : LiarsRoom :=
  runFrom Command.apply (createLiarsRoom (.plain 1) .mafia .sameRoom {} shortPhases false) ((shootingAt 150000 2).take 16)

theorem games_goOn_shooting : Forall₂ Trail.Ages dealtIn.trails (runFrom Command.apply dealtIn ((shootingAt 150000 2).drop 16)).trails :=
  ((games_goOn dealtIn (by decide +kernel) ((shootingAt 150000 2).drop 16)).2 (by decide +kernel)).2.2

end MilkAndHenny.Liars

import MilkAndHenny.Liars.Reckoning

/-! The doctor's repeat rule across games. What a doctor may not choose again is what they chose the night
before, unless a choice has survived from an earlier game. -/

namespace MilkAndHenny.Liars
open Library

namespace LiarsRoom

/-- The same room, in which a doctor may choose the same player again. -/
def lenient (room : LiarsRoom) : LiarsRoom := { room with toggles := { room.toggles with doctorRepeatTarget := true } }

def forbids (room : LiarsRoom) (player : PlayerState) (targetId : Nat) : Bool :=
  room.lenient.mayTarget player targetId && !room.mayTarget player targetId

/-- The rule forbids nothing in the first night of a game, and afterwards exactly what a doctor chose the night before. -/
structure RepeatsFair (past : List Decision) (room : LiarsRoom) : Prop where
  first : room.round = 1 → ∀ player ∈ room.players, ∀ id, room.forbids player id = false
  later : room.round ≠ 1 → ∃ night ∈ nights past, night.room.gameNumber = room.gameNumber ∧ night.room.round + 1 = room.round ∧
    ∀ player ∈ room.players, ∀ id, room.forbids player id = true ↔ room.lenient.mayTarget player id = true ∧
      player.played = .doctor ∧
      room.toggles.doctorRepeatTarget = false ∧ night.room.choiceOf player.id = some id

/-- No doctor to whom a card has just been dealt still has a choice noted. -/
def DealtFresh (room : LiarsRoom) : Prop :=
  room.phase = .deal → ∀ player ∈ room.players, player.role = some .doctor → player.nightTarget = none

instance (room : LiarsRoom) : Decidable room.DealtFresh := inferInstanceAs (Decidable (_ → _))

theorem mayTarget_lenient (room : LiarsRoom) (player : PlayerState) (id : Nat) : room.mayTarget player id =
    (room.lenient.mayTarget player id && !(player.played == .doctor && !room.toggles.doctorRepeatTarget && player.previousNightTarget == some id)) := by
  rw [Bool.eq_iff_iff]
  simp only [mayTarget, liarsTargetableIds, lenient, LiarsRoom.living]
  split
  · simp
  · simp only [contains_iff_mem, mem_map, mem_filter, and_eq_true, Bool.not_true, Bool.and_false, Bool.false_and,
      false_eq_true, if_false, not_eq_true']
    constructor
    · rintro ⟨⟨other, role⟩, ⟨listed, allowed⟩, rfl⟩
      split at allowed
      · cases allowed
      · next free => exact ⟨⟨(other, role), ⟨listed, allowed⟩, rfl⟩, eq_false_iff.mpr (by simpa using free)⟩
    · rintro ⟨⟨⟨other, role⟩, ⟨listed, allowed⟩, rfl⟩, free⟩
      refine ⟨(other, role), ⟨listed, ?_⟩, rfl⟩
      rw [if_neg]
      · exact allowed
      · simpa using free

theorem forbids_iff (room : LiarsRoom) (player : PlayerState) (id : Nat) : room.forbids player id = true ↔
    room.lenient.mayTarget player id = true ∧ player.played = .doctor ∧ room.toggles.doctorRepeatTarget = false ∧
      player.previousNightTarget = some id := by
  rw [forbids, mayTarget_lenient room]
  cases room.lenient.mayTarget player id with
  | false => simp
  | true => simp [and_assoc]

def choices (trail : Trail) : Nat × Option LiarsRole × Option Nat × Option Nat :=
  (trail.id, trail.role, trail.nightTarget, trail.previousNightTarget)

def Decision.Of (night : Decision) (course : Course) (round : Nat) : Prop :=
  night.room.gameNumber = course.gameNumber ∧ night.room.round = round

structure Remembered (past : List Decision) (course : Course) : Prop where
  unique : (course.trails.map (·.id)).Nodup
  dealt : course.phase = .deal → course.round = 0 ∧ ∀ trail ∈ course.trails, trail.role = some .doctor → trail.nightTarget = none
  begun : course.phase = .night → course.mode = .mafia ∧ 1 ≤ course.round
  first : course.phase = .night → course.round = 1 → ∀ trail ∈ course.trails, trail.role = some .doctor →
      trail.previousNightTarget = none
  later : course.phase = .night → course.round ≠ 1 → ∃ night ∈ nights past, night.Of course (course.round - 1) ∧
    ∀ trail ∈ course.trails, trail.previousNightTarget = night.room.choiceOf trail.id
  day : course.mode = .mafia → course.phase ≠ .lobby ∧ course.phase ≠ .deal ∧ course.phase ≠ .night ∧ course.phase ≠ .ending →
    1 ≤ course.round ∧ ∃ night ∈ nights past, night.Of course course.round ∧
      ∀ trail ∈ course.trails, trail.nightTarget = night.room.choiceOf trail.id

section
variable {past later : List Decision} {before after : Course}

def ByDay (phase : LiarsPhase) : Prop := phase ≠ .lobby ∧ phase ≠ .deal ∧ phase ≠ .night ∧ phase ≠ .ending

theorem Remembered.stays (remembered : Remembered past before) (game : after.gameNumber = before.gameNumber)
    (mode : after.mode = before.mode)
    (round : after.round = before.round) (same : after.trails.map choices = before.trails.map choices)
    (phase : after.phase = before.phase ∨ ByDay before.phase ∧ ByDay after.phase) (kept : nights later = nights past) :
    Remembered later after := by
  have partner {trail : Trail} (listed : trail ∈ after.trails) :
      ∃ old ∈ before.trails, old.id = trail.id ∧ old.role = trail.role ∧
      old.nightTarget = trail.nightTarget ∧ old.previousNightTarget = trail.previousNightTarget := by
    have seen : choices trail ∈ before.trails.map choices := by
      rw [← same]
      exact mem_map_of_mem listed
    obtain ⟨old, there, alike⟩ := mem_map.mp seen
    simp only [choices, Prod.mk.injEq] at alike
    exact ⟨old, there, alike⟩
  have dealt (now : after.phase = .deal) : before.phase = .deal := by
    rcases phase with same | ⟨-, day⟩
    · exact same.symm.trans now
    · exact absurd now day.2.1
  have dark (now : after.phase = .night) : before.phase = .night := by
    rcases phase with same | ⟨-, day⟩
    · exact same.symm.trans now
    · exact absurd now day.2.2.1
  constructor
  case unique =>
    have ids (trails : List Trail) : trails.map (·.id) = (trails.map choices).map (·.1) := by
      rw [map_map]
      rfl
    rw [ids, same, ← ids]
    exact remembered.unique
  case dealt =>
    intro now
    obtain ⟨zero, fresh⟩ := remembered.dealt (dealt now)
    refine ⟨round.trans zero, fun trail listed doctor => ?_⟩
    obtain ⟨old, there, -, role, target, -⟩ := partner listed
    rw [← target]
    exact fresh old there (role.trans doctor)
  case begun =>
    intro now
    rw [mode, round]
    exact remembered.begun (dark now)
  case first =>
    intro now one trail listed doctor
    obtain ⟨old, there, -, role, -, previous⟩ := partner listed
    rw [← previous]
    exact remembered.first (dark now) (round.symm.trans one) old there (role.trans doctor)
  case later =>
    intro now other
    rw [round] at other
    obtain ⟨night, recorded, same, chose⟩ := remembered.later (dark now) other
    unfold Decision.Of at same ⊢
    rw [kept, game, round]
    refine ⟨night, recorded, same, fun trail listed => ?_⟩
    obtain ⟨old, there, named, -, -, previous⟩ := partner listed
    rw [← previous, ← named]
    exact chose old there
  case day =>
    intro mafia now
    have was : ByDay before.phase := by
      rcases phase with same | ⟨day, -⟩
      · rw [← same]
        exact now
      · exact day
    obtain ⟨one, night, recorded, same, chose⟩ := remembered.day (mode.symm.trans mafia) was
    unfold Decision.Of at same ⊢
    rw [kept, game, round]
    refine ⟨one, night, recorded, same, fun trail listed => ?_⟩
    obtain ⟨old, there, named, -, target, -⟩ := partner listed
    rw [← target, ← named]
    exact chose old there

theorem Remembered.idle (unique : (after.trails.map (·.id)).Nodup)
    (phase : after.phase = .lobby ∨ after.phase = .ending) : Remembered later after := by
  constructor
  case unique => exact unique
  all_goals rcases phase with phase | phase <;> simp [phase]

/-- A round begins with the choices of the last one put away. -/
theorem Remembered.nextRound (remembered : Remembered past before)
    (phase : before.phase = .deal ∨ before.phase = .verdict) (now duration : Int)
    (kept : nights later = nights past) : Remembered later (before.nextRound.enter (roundPhase before.mode) now duration) := by
  have away {trail : Trail} (listed : trail ∈ (before.nextRound.enter (roundPhase before.mode) now duration).trails) :
      ∃ old ∈ before.trails, trail.id = old.id ∧ trail.role = old.role ∧ trail.previousNightTarget = old.nightTarget := by
    obtain ⟨old, there, rfl⟩ := mem_map.mp listed
    exact ⟨old, there, rfl, rfl, rfl⟩
  have night (dark : roundPhase before.mode = .night) : before.mode = .mafia := by
    cases mode : before.mode with
    | mafia => rfl
    | imposter => simp [mode, roundPhase] at dark
  constructor
  case unique =>
    have ids : before.nextRound.trails.map (·.id) = before.trails.map (·.id) := by
      rw [Course.nextRound, map_map]
      rfl
    change (before.nextRound.trails.map (·.id)).Nodup
    rw [ids]
    exact remembered.unique
  case dealt =>
    intro dealt
    change roundPhase before.mode = .deal at dealt
    cases mode : before.mode <;> simp [mode, roundPhase] at dealt
  case begun => exact fun dark => ⟨night dark, Nat.le_add_left 1 before.round⟩
  case first =>
    intro dark one trail listed doctor
    obtain ⟨old, there, -, role, previous⟩ := away listed
    rw [previous]
    change before.round + 1 = 1 at one
    rcases phase with phase | phase
    · exact (remembered.dealt phase).2 old there (role.symm.trans doctor)
    · have begun := (remembered.day (night dark) (by simp [phase])).1
      omega
  case later =>
    intro dark other
    change before.round + 1 ≠ 1 at other
    rcases phase with phase | phase
    · have zero := (remembered.dealt phase).1
      omega
    · obtain ⟨-, record, recorded, same, chose⟩ := remembered.day (night dark) (by simp [phase])
      refine ⟨record, kept ▸ recorded, ⟨same.1, same.2⟩, fun trail listed => ?_⟩
      obtain ⟨old, there, named, -, previous⟩ := away listed
      rw [previous, named]
      exact chose old there
  case day =>
    intro mafia day
    have dark : roundPhase before.mode ≠ .night := day.2.2.1
    change before.mode = .mafia at mafia
    simp [mafia, roundPhase] at dark

/-- The night is recorded with everybody's choice, and the morning still has it. -/
theorem Remembered.dawns {night : Decision} (remembered : Remembered past night.room.course) (dark : night.room.phase = .night)
    (recorded : nights later = nights past ++ [night]) (game : after.gameNumber = night.room.gameNumber)
    (round : after.round = night.room.round) (phase : after.phase = .dawn ∨ after.phase = .ending)
    (trails : after.trails = (night.room.nightOutcome night.ctx).room.trails) : Remembered later after := by
  have unique : (night.room.players.map (·.id)).Nodup := by
    rw [← trails_ids]
    exact remembered.unique
  have same : (night.room.nightOutcome night.ctx).room.players.map (fun row => (row.id, row.nightTarget)) =
      night.room.players.map fun row => (row.id, row.nightTarget) := by
    rw [← writeNightReports_targets night.ctx night.room]
    exact (map_pairs (nightOutcome_later unique) fun _ _ aged => by rw [aged.named, aged.chose]).symm
  have chose (trail : Trail) (listed : trail ∈ after.trails) : trail.nightTarget = night.room.choiceOf trail.id := by
    rw [trails] at listed
    obtain ⟨row, seated, rfl⟩ := mem_map.mp listed
    have seen : (row.id, row.nightTarget) ∈ night.room.players.map fun row => (row.id, row.nightTarget) := by
      rw [← same]
      exact mem_map_of_mem seated
    obtain ⟨old, there, equal⟩ := mem_map.mp seen
    obtain ⟨named, target⟩ := Prod.mk.inj equal
    change row.nightTarget = night.room.choiceOf row.id
    rw [← target, ← named]
    exact choiceOf_seated unique there
  have ids : after.trails.map (·.id) = night.room.course.trails.map (·.id) := by
    have seats (rows : List PlayerState) : rows.map (·.id) = (rows.map fun row => (row.id, row.nightTarget)).map (·.1) := by
      rw [map_map]
      rfl
    rw [trails, trails_ids, seats, same, ← seats, ← trails_ids]
    rfl
  constructor
  case unique =>
    rw [ids]
    exact remembered.unique
  case dealt => rcases phase with phase | phase <;> simp [phase]
  case begun => rcases phase with phase | phase <;> simp [phase]
  case first => rcases phase with phase | phase <;> simp [phase]
  case later => rcases phase with phase | phase <;> simp [phase]
  case day =>
    intro _ _
    rw [recorded]
    refine ⟨?_, night, mem_append_right _ (mem_singleton_self night), ⟨game.symm, round.symm⟩, chose⟩
    rw [round]
    exact (remembered.begun dark).2

theorem Remembered.chooses (remembered : Remembered past before) (dark : before.phase = .night) (id : Nat)
    (targetId : Option Nat) :
    Remembered past (before.change id fun trail => { trail with nightTarget := targetId }) := by
  have partner {trail : Trail} (listed : trail ∈ (before.change id fun trail => { trail with nightTarget := targetId }).trails) :
      ∃ old ∈ before.trails, old.id = trail.id ∧ old.role = trail.role ∧ old.previousNightTarget = trail.previousNightTarget := by
    have same : (before.change id fun trail => { trail with nightTarget := targetId }).trails.map
        (fun trail => (trail.id, trail.role, trail.previousNightTarget)) =
        before.trails.map fun trail => (trail.id, trail.role, trail.previousNightTarget) := map_updateFirst fun _ => rfl
    have seen := mem_map_of_mem (f := fun trail : Trail => (trail.id, trail.role, trail.previousNightTarget)) listed
    rw [same] at seen
    obtain ⟨old, there, alike⟩ := mem_map.mp seen
    simp only [Prod.mk.injEq] at alike
    exact ⟨old, there, alike⟩
  constructor
  case unique =>
    have ids : (before.change id fun trail => { trail with nightTarget := targetId }).trails.map (·.id) =
        before.trails.map (·.id) :=
      map_updateFirst fun _ => rfl
    rw [ids]
    exact remembered.unique
  case dealt => simp [Course.change, dark]
  case begun => exact remembered.begun
  case first =>
    intro _ one trail listed doctor
    obtain ⟨old, there, -, role, previous⟩ := partner listed
    rw [← previous]
    exact remembered.first dark one old there (role.trans doctor)
  case later =>
    intro _ other
    obtain ⟨night, recorded, same, chose⟩ := remembered.later dark other
    refine ⟨night, recorded, same, fun trail listed => ?_⟩
    obtain ⟨old, there, named, -, previous⟩ := partner listed
    rw [← previous, ← named]
    exact chose old there
  case day => simp [Course.change, dark]

theorem remembered_endures : Endures Remembered where
  leads {ctx table now course past} remembered leads := by
    have recorded := nights_decides past ctx table now
    rcases leads.sorts with ⟨phase, duration, rfl⟩ | ⟨dark, game, -, round, phase, trails⟩ | day
    · refine remembered.nextRound phase now duration (recorded.trans (if_neg ?_))
      rcases phase with phase | phase <;> simp [phase]
    · rw [if_pos dark] at recorded
      exact Remembered.dawns remembered dark recorded game round phase trails
    · have still := recorded.trans (if_neg day.leaves.2.2.1)
      have same : course.trails.map choices = table.course.trails.map choices := by
        refine (map_pairs day.trails fun old new days => ?_).symm
        cases days <;> rfl
      by_cases ending : course.phase = .ending
      · refine .idle ?_ (.inr ending)
        have ids (trails : List Trail) : trails.map (·.id) = (trails.map choices).map (·.1) := by
          rw [map_map]
          rfl
        rw [ids, same, ← ids]
        exact remembered.unique
      · exact remembered.stays day.game day.mode day.round same (.inr ⟨day.leaves, day.enters.1, day.enters.2.1, day.enters.2.2, ending⟩) still
  woken _ _ remembered := remembered.stays rfl rfl rfl rfl (.inl rfl) rfl

theorem Remembered.deed {ctx : GameContext} {found : LiarsRoom} {course : Course} {act : Option Act}
    (remembered : Remembered past found.course)
    (deed : Deed ctx found act [] course) (fresh : ∀ id, act = some (.join id) → id ∉ found.course.trails.map (·.id))
    (dealt : course.phase = .deal → ∀ trail ∈ course.trails, trail.role = some .doctor → trail.nightTarget = none) :
    Remembered past course := by
  have deals {trails : List Trail} (phase : course.phase = .deal) (round : course.round = 0)
      (ids : course.trails.map (·.id) = trails.map (·.id))
      (unique : (trails.map (·.id)).Nodup) : Remembered past course := by
    constructor
    case unique =>
      rw [ids]
      exact unique
    case dealt => exact fun phase => ⟨round, dealt phase⟩
    all_goals simp [phase]
  have leaves (trail : Trail) : choices (trail.leaves found.round ctx.now) = choices trail := by
    unfold Trail.leaves
    split <;> rfl
  cases deed with
  | rests => exact remembered
  | @joins id lobby => exact .idle (Trail.fresh_unique remembered.unique (fresh id rfl)) (.inl lobby)
  | configures => exact remembered.stays rfl rfl rfl rfl (.inl rfl) rfl
  | dismisses lobby => exact .idle (remembered.unique.sublist (filter_sublist.map _)) (.inl lobby)
  | extends_ | pauses | resumes => exact remembered.stays rfl rfl rfl rfl (.inl rfl) rfl
  | @deals _ kept roles duration lobby fewer =>
    refine deals rfl rfl ?_ (remembered.unique.sublist (fewer.map _))
    exact map_map
  | replays =>
    refine deals rfl rfl ?_ (Course.reset_unique remembered.unique)
    exact map_map
  | returns => exact .idle (Course.reset_unique remembered.unique) (.inl rfl)
  | ends => exact .idle remembered.unique (.inr rfl)
  | @departs id act won =>
    have same : (updateFirst found.course.trails (·.id == id) (Trail.leaves found.round ctx.now)).map choices =
        found.course.trails.map choices :=
      map_updateFirst leaves
    cases won with
    | none => exact remembered.stays rfl rfl rfl same (.inl rfl) rfl
    | some =>
      refine .idle ?_ (.inr rfl)
      have ids : (updateFirst found.course.trails (·.id == id) (Trail.leaves found.round ctx.now)).map (·.id) =
          found.course.trails.map (·.id) :=
        map_updateFirst fun trail => congrArg Prod.fst (leaves trail)
      change ((updateFirst found.course.trails (·.id == id) (Trail.leaves found.round ctx.now)).map (·.id)).Nodup
      rw [ids]
      exact remembered.unique
  | chooses night => exact remembered.chooses night _ _
  | hastens => exact remembered.stays rfl rfl rfl rfl (.inl rfl) rfl
  | casts | haunts => exact remembered.stays rfl rfl rfl (map_updateFirst fun _ => rfl) (.inl rfl) rfl
  | leads same day leads => exact remembered_endures.led same day leads remembered

end

end LiarsRoom

open LiarsRoom

/-- The doctors whom the command deals in carry no choice from an earlier game. -/
def Command.DealsFresh (command : Command) (room : LiarsRoom) : Prop := (command.apply room).DealtFresh

instance (command : Command) (room : LiarsRoom) : Decidable (command.DealsFresh room) :=
  inferInstanceAs (Decidable (command.apply room).DealtFresh)

/-- From its creation on, where no doctor is dealt in with a choice from an earlier game, the repeat rule forbids
nothing in a first night, and exactly the choice of the night before in any other. -/
theorem repeats_fair (ctx : GameContext) (mode : LiarsMode) (roomMode : LiarsRoomMode) (toggles : TogglesPatch)
    (timings : TimingsPatch) (managed : Bool) {commands : List Command}
    (draws : EachStep Command.apply Command.DrawsNewId (createLiarsRoom ctx mode roomMode toggles timings managed) commands)
    (fresh : EachStep Command.apply Command.DealsFresh (createLiarsRoom ctx mode roomMode toggles timings managed) commands)
    (night : (runFrom Command.apply (createLiarsRoom ctx mode roomMode toggles timings managed) commands).phase = .night) :
    RepeatsFair (chronicle (createLiarsRoom ctx mode roomMode toggles timings managed) commands)
      (runFrom Command.apply (createLiarsRoom ctx mode roomMode toggles timings managed) commands) := by
  have own {command : Command} {room : LiarsRoom} {past : List Decision}
      (meets : command.DrawsNewId room ∧ command.DealsFresh room)
      (remembered : Remembered past (command.finds room).course)
      (deed : Deed command.ctx (command.finds room) (command.act room) [] (command.apply room).course) :
      Remembered past (command.apply room).course := by
    refine remembered.deed deed meets.1.fresh fun phase trail listed doctor => ?_
    obtain ⟨player, seated, rfl⟩ := mem_map.mp listed
    exact meets.2 phase player seated doctor
  have start : Remembered [] (createLiarsRoom ctx mode roomMode toggles timings managed).course := .idle nodup_nil (.inl rfl)
  have remembered := remembered_endures.throughout own start (draws.and fresh)
  generalize runFrom Command.apply (createLiarsRoom ctx mode roomMode toggles timings managed) commands =
      room at night remembered ⊢
  constructor
  · intro one player seated id
    rw [eq_false_iff, ne_eq, forbids_iff]
    rintro ⟨-, doctor, -, previous⟩
    have role : player.role = some .doctor := by
      cases held : player.role with
      | none => simp [PlayerState.played, held] at doctor
      | some => simpa [PlayerState.played, held] using doctor
    have nothing := remembered.first night one player.trail (mem_map_of_mem seated) role
    exact absurd (previous.symm.trans nothing) (by simp)
  · intro other
    obtain ⟨record, recorded, same, chose⟩ := remembered.later night other
    have begun := (remembered.begun night).2
    refine ⟨record, recorded, same.1, ?_, fun player seated id => ?_⟩
    · have earlier := same.2
      change 1 ≤ room.round at begun
      change record.room.round = room.round - 1 at earlier
      omega
    · have previous : player.previousNightTarget = record.room.choiceOf player.id :=
          chose player.trail (mem_map_of_mem seated)
      rw [forbids_iff, previous]

def choosingOnce (id targetId : Nat) (rest : List Command) : List Command :=
  ["Ada", "Bo", "Cy", "Di", "Em", "Flo"].map (.join (.plain 1) none none) ++
    [.byHost 2 1 (.start []), .read (.plain 20000) (.token 0) none, .by id 21000 2 (.nightSelect 1 (some targetId))] ++ rest

/-- Di watches a door in the first game, is the doctor of the second, and may not choose there in its first night. -/
theorem rematch_forbids :
    let room := createLiarsRoom (.plain 1) .mafia .sameRoom {} shortPhases false
    let commands := choosingOnce 8 6 [.byHost 22000 3 .replay, .read (.plain 40000) (.token 0) none]
    EachStep Command.apply Command.DrawsNewId room commands ∧ (runFrom Command.apply room commands).phase = .night ∧
      ¬ RepeatsFair (chronicle room commands) (runFrom Command.apply room commands) := by
  refine ⟨by decide +kernel, by decide +kernel, fun fair => ?_⟩
  have forbidden : ((runFrom Command.apply (createLiarsRoom (.plain 1) .mafia .sameRoom {} shortPhases false)
      (choosingOnce 8 6 [.byHost 22000 3 .replay, .read (.plain 40000) (.token 0) none])).players.any fun player =>
        forbids (runFrom Command.apply (createLiarsRoom (.plain 1) .mafia .sameRoom {} shortPhases false)
          (choosingOnce 8 6 [.byHost 22000 3 .replay, .read (.plain 40000) (.token 0) none])) player 6) = true := by decide +kernel
  obtain ⟨player, seated, forbids⟩ := any_eq_true.mp forbidden
  rw [fair.first (by decide +kernel) player seated 6] at forbids
  cases forbids

theorem repeats_fair_secondNight :
    let room := createLiarsRoom (.plain 1) .mafia .sameRoom {} shortPhases false
    let commands := choosingOnce 2 4 ([40000, 60000, 80000, 100000].map fun now => .read (.plain now) (.token 0) none)
    (runFrom Command.apply room commands).round = 2 ∧ RepeatsFair (chronicle room commands)
    (runFrom Command.apply room commands) :=
  ⟨by decide +kernel, repeats_fair (.plain 1) .mafia .sameRoom {} shortPhases false (by decide +kernel)
    (by decide +kernel) (by decide +kernel)⟩

end MilkAndHenny.Liars

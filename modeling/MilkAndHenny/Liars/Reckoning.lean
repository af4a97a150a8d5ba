import MilkAndHenny.Liars.Guilt

/-! The reckoning of guilt throughout a run: who still carries a shot at the town with them, and in
which night it was fired. -/

namespace MilkAndHenny.Liars
open Library

variable {ctx : GameContext} {past later : List Decision} {after course : Course} {trail : Trail}

/-- A game is being played. -/
def Course.inPlay (course : Course) : Prop := course.phase ≠ .lobby ∧ course.phase ≠ .ending

namespace LiarsRoom

def nights (past : List Decision) : List Decision := past.filter (·.room.phase = .night)

def Decision.Follows (next night : Decision) : Prop :=
  next.room.gameNumber = night.room.gameNumber ∧ next.room.round = night.room.round + 1

/-- A shot at the town is paid for in the following night, and nobody dies of guilt otherwise. -/
structure GuiltLands (past : List Decision) : Prop where
  spares : ∀ night ∈ nights past, ∀ id, night.shootsTown id → id ∉ night.guilty
  lands : ∀ night ∈ nights past, ∀ next ∈ nights past, ∀ id, night.shootsTown id → next.Follows night →
      next.room.isAlive (some id) →
    (next.struck.room.isAlive (some id) → id ∈ next.guilty) ∧ (next.room.nightOutcome next.ctx).room.isAlive (some id) = false
  only : ∀ next ∈ nights past, ∀ id ∈ next.guilty, ∃ night ∈ nights past, next.Follows night ∧ night.shootsTown id

/-- After the first night, whoever shoots at the town does not survive that night's attacks themselves. -/
def Decision.Repents (night : Decision) : Prop :=
  night.room.round ≠ 1 → ∀ id, night.shootsTown id → night.struck.room.isAlive (some id) = false

/-- The books of guilt. -/
structure Reckoned (past : List Decision) (course : Course) : Prop where
  unique : (course.trails.map (·.id)).Nodup
  earlier : ∀ night ∈ nights past, night.room.gameNumber ≤ course.gameNumber
  within : ∀ night ∈ nights past, night.room.gameNumber = course.gameNumber → course.mode = .mafia ∧
      course.phase ≠ .lobby ∧ course.phase ≠ .deal ∧
    night.room.round ≤ course.round ∧ (course.phase = .night → night.room.round < course.round)
  begun : course.phase = .night → course.mode = .mafia ∧ 1 ≤ course.round
  standing : course.inPlay → ∀ trail ∈ course.trails, trail.alive → trail.deathRound = none
  burdened : course.inPlay → ∀ trail ∈ course.trails, trail.alive → trail.guiltPending → trail.vigilanteUsed ∧
    (course.round = 1 ∨ course.round = 2 ∧ course.phase = .night) ∧
    ∃ night ∈ nights past, night.room.gameNumber = course.gameNumber ∧ night.room.round = 1 ∧ night.shootsTown trail.id
  remembers : course.inPlay → ∀ trail ∈ course.trails, trail.alive → ∀ night ∈ nights past,
      night.room.gameNumber = course.gameNumber →
    night.shootsTown trail.id → trail.guiltPending ∧ night.room.round = 1
  alone : course.inPlay → ∀ trail ∈ course.trails, trail.alive → trail.guiltPending →
      ∀ other ∈ course.trails, other.alive → other.guiltPending →
    trail.id = other.id
  blamed : ∀ trail ∈ course.trails, trail.alive = false → trail.deathCause = some .guilt →
    ∃ night ∈ nights past, night.room.gameNumber = course.gameNumber ∧ trail.id ∈ night.guilty
  lands : GuiltLands past

theorem nights_decides (past : List Decision) (ctx : GameContext) (table : LiarsRoom) (now : Int) :
    nights (past ++ decides ctx table now) =
      if table.phase = .night then nights past ++ [⟨ctx, table, now⟩] else nights past := by
  unfold nights decides
  split
  · next decided =>
    by_cases night : table.phase = .night
    · simp [night]
    · simp [night]
  · next undecided =>
    have day : table.phase ≠ .night := (not_or.mp undecided).1
    simp [day]

/-- A step of a game that decides no night and burdens nobody. -/
structure Onward (before after : Course) : Prop where
  game : after.gameNumber = before.gameNumber
  mode : after.mode = before.mode
  playing : after.inPlay → before.inPlay
  dealt : after.phase = .lobby ∨ after.phase = .deal → after.phase = before.phase
  round : before.round ≤ after.round
  dark : after.phase = .night → before.phase = .night ∧ after.round = before.round ∨ before.mode = .mafia ∧
      before.round < after.round
  time : after.inPlay → before.mode = .mafia → before.round = 1 ∨ before.round = 2 ∧ before.phase = .night →
    after.round = 1 ∨ after.round = 2 ∧ after.phase = .night
  fares : Forall₂ (Fares nobody) before.trails after.trails

section
variable {before : Course}

theorem GuiltLands.congr (same : nights later = nights past) (lands : GuiltLands past) : GuiltLands later := by
  obtain ⟨spares, landing, only⟩ := lands
  rw [← same] at spares landing only
  exact ⟨spares, landing, only⟩

theorem Fares.calm {old new : Trail} (fares : Fares nobody old new) : new.guiltPending = old.guiltPending :=
  fares.pending.trans (Bool.or_false _)

theorem Reckoned.onward (reckoned : Reckoned past before) (onward : Onward before after) (same : nights later = nights past) :
    Reckoned later after := by
  constructor
  case unique =>
    rw [← map_pairs onward.fares fun _ _ fares => fares.named.symm]
    exact reckoned.unique
  case earlier =>
    rw [same, onward.game]
    exact reckoned.earlier
  case within =>
    rw [same, onward.game, onward.mode]
    intro record listed game
    obtain ⟨mode, lobby, deal, round, dark⟩ := reckoned.within record listed game
    refine ⟨mode, ?_, ?_, round.trans onward.round, ?_⟩
    · intro opened
      exact lobby ((onward.dealt (.inl opened)).symm.trans opened)
    · intro dealt
      exact deal ((onward.dealt (.inr dealt)).symm.trans dealt)
    · intro night
      rcases onward.dark night with ⟨already, still⟩ | ⟨-, later⟩
      · rw [still]
        exact dark already
      · exact round.trans_lt later
  case begun =>
    intro night
    rw [onward.mode]
    rcases onward.dark night with ⟨already, still⟩ | ⟨mafia, later⟩
    · rw [still]
      exact reckoned.begun already
    · exact ⟨mafia, Nat.one_le_of_lt later⟩
  case standing =>
    intro inPlay trail listed alive
    obtain ⟨old, there, fares⟩ := mem_pairs onward.fares listed
    obtain ⟨lived, round⟩ := fares.lives alive
    rw [round]
    exact reckoned.standing (onward.playing inPlay) old there lived
  case burdened =>
    intro inPlay trail listed alive pending
    obtain ⟨old, there, fares⟩ := mem_pairs onward.fares listed
    obtain ⟨used, time, night, recorded, game, fired⟩ :=
      reckoned.burdened (onward.playing inPlay) old there (fares.lives alive).1 (fares.calm ▸ pending)
    have mafia := (reckoned.within night recorded game).1
    rw [same, onward.game, fares.named]
    exact ⟨fares.used used, onward.time inPlay mafia time, night, recorded, game, fired⟩
  case remembers =>
    intro inPlay trail listed alive record recorded game shoots
    obtain ⟨old, there, fares⟩ := mem_pairs onward.fares listed
    rw [same] at recorded
    rw [fares.calm]
    rw [fares.named] at shoots
    exact reckoned.remembers (onward.playing inPlay) old there (fares.lives alive).1 record recorded (game.trans onward.game) shoots
  case alone =>
    intro inPlay trail listed alive pending other listed' alive' pending'
    obtain ⟨old, there, fares⟩ := mem_pairs onward.fares listed
    obtain ⟨old', there', fares'⟩ := mem_pairs onward.fares listed'
    rw [fares.named, fares'.named]
    exact reckoned.alone (onward.playing inPlay) old there (fares.lives alive).1 (fares.calm ▸ pending) old' there' (fares'.lives alive').1
      (fares'.calm ▸ pending')
  case blamed =>
    intro trail listed dead cause
    obtain ⟨old, there, fares⟩ := mem_pairs onward.fares listed
    obtain ⟨died, blamed⟩ := fares.blamed dead cause
    rw [same, onward.game, fares.named]
    exact reckoned.blamed old there died blamed
  case lands => exact reckoned.lands.congr same

theorem Onward.quiet (game : after.gameNumber = before.gameNumber) (mode : after.mode = before.mode)
    (round : after.round = before.round) (stays : after.phase = before.phase ∨ after.phase = .ending ∨
      (before.inPlay ∧ before.phase ≠ .night) ∧ after.phase ≠ .lobby ∧ after.phase ≠ .deal ∧ after.phase ≠ .night)
    (fares : Forall₂ (Fares nobody) before.trails after.trails) : Onward before after where
  game := game
  mode := mode
  playing inPlay := by
    rcases stays with same | ending | leads
    · unfold Course.inPlay at inPlay ⊢
      rwa [← same]
    · exact absurd ending inPlay.2
    · exact leads.1.1
  dealt opens := by
    rcases stays with same | ending | leads
    · exact same
    · simp [ending] at opens
    · exact absurd opens (not_or.mpr ⟨leads.2.1, leads.2.2.1⟩)
  round := round.ge
  dark night := by
    rcases stays with same | ending | leads
    · exact .inl ⟨same.symm.trans night, round⟩
    · simp [ending] at night
    · exact absurd night leads.2.2.2
  time inPlay _ time := by
    rw [round]
    rcases time with first | ⟨second, dark⟩
    · exact .inl first
    · refine .inr ⟨second, ?_⟩
      rcases stays with same | ending | leads
      · exact same.trans dark
      · exact absurd ending inPlay.2
      · exact absurd dark leads.1.2
  fares := fares

theorem fares_map {change : Trail → Trail} (harmless : ∀ trail, Fares nobody trail (change trail)) (trails : List Trail) :
    Forall₂ (Fares nobody) trails (trails.map change) :=
  forall₂_map_right_iff.mpr (forall₂_same.mpr fun trail _ => harmless trail)

theorem Onward.nextRound (phase : before.phase = .deal ∨ before.phase = .verdict) (now duration : Int) :
    Onward before (before.nextRound.enter (roundPhase before.mode) now duration) where
  game := rfl
  mode := rfl
  playing _ := by rcases phase with phase | phase <;> simp [Course.inPlay, phase]
  dealt opens := by
    change roundPhase before.mode = .lobby ∨ roundPhase before.mode = .deal at opens
    cases mode : before.mode <;> simp [mode, roundPhase] at opens
  round := Nat.le_succ _
  dark night := by
    change roundPhase before.mode = .night at night
    cases mode : before.mode with
    | mafia => exact .inr ⟨rfl, Nat.lt_succ_self _⟩
    | imposter => simp [mode, roundPhase] at night
  time _ mafia time := by
    have day : before.phase ≠ .night := by rcases phase with phase | phase <;> simp [phase]
    have first : before.round = 1 := time.resolve_right fun dark => day dark.2
    refine .inr ⟨?_, ?_⟩
    · change before.round + 1 = 2
      rw [first]
    · change roundPhase before.mode = .night
      rw [mafia]
      rfl
  fares := by
    refine fares_map (fun trail => ?_) before.trails
    exact .of_stakes rfl

end

/-! ### The books of a night -/

section
variable {room : LiarsRoom} {night : Decision}

theorem isAlive_trail (unique : (room.players.map (·.id)).Nodup) (listed : trail ∈ room.trails) (alive : trail.alive) :
    room.isAlive (some trail.id) := by
  obtain ⟨row, seated, rfl⟩ := mem_map.mp listed
  exact isAlive_iff.mpr ⟨row, find?_key unique seated, alive⟩

theorem trail_isAlive {id : Nat} (alive : room.isAlive (some id)) : ∃ trail ∈ room.trails, trail.id = id ∧ trail.alive := by
  obtain ⟨row, found, lives⟩ := isAlive_iff.mp alive
  exact ⟨row.trail, mem_map_of_mem (mem_of_find?_eq_some found), player_id found, lives⟩

/-- The attacks of the night, with the books before it. -/
structure Struck (past : List Decision) (night : Decision) : Prop where
  reckoned : Reckoned past night.room.course
  dark : night.room.phase = .night
  repents : night.Repents

namespace Struck

variable (struck : Struck past night)
include struck

theorem inPlay : night.room.course.inPlay := by
  have dark : night.room.course.phase = .night := struck.dark
  simp [Course.inPlay, dark]

theorem unique : (night.room.players.map (·.id)).Nodup := by
  rw [← trails_ids]
  exact struck.reckoned.unique

theorem fares : Fare night.shootsTown night.room night.struck.room :=
  (Decision.struck_fares struck.unique).1

theorem unique' : (night.struck.room.players.map (·.id)).Nodup := by
  rw [← trails_ids, struck.fares.ids, trails_ids]
  exact struck.unique

theorem carries (listed : trail ∈ night.struck.room.trails) (alive : trail.alive)
    (pending : trail.guiltPending) : trail.vigilanteUsed ∧ trail.deathRound = none ∧
      (night.room.round = 1 ∧ night.shootsTown trail.id ∨
        night.room.round = 2 ∧ ∃ old ∈ night.room.trails, old.id = trail.id ∧ old.alive ∧ old.guiltPending) := by
  obtain ⟨old, there, fares⟩ := mem_pairs struck.fares listed
  obtain ⟨lived, round⟩ := fares.lives alive
  rw [fares.pending, or_eq_true, ← fares.named] at pending
  refine ⟨?_, round.trans (struck.reckoned.standing struck.inPlay old there lived), ?_⟩
  · rcases pending with carried | shoots
    · exact fares.used (struck.reckoned.burdened struck.inPlay old there lived carried).1
    · exact (Decision.struck_fares struck.unique).2 trail listed shoots
  · rcases pending with carried | shoots
    · obtain ⟨-, time, earlier, recorded, game, first, -⟩ := struck.reckoned.burdened struck.inPlay old there lived carried
      have before : earlier.room.round < night.room.round := (struck.reckoned.within earlier recorded game).2.2.2.2 struck.dark
      refine .inr ⟨?_, old, there, fares.named.symm, lived, carried⟩
      rcases time with now | ⟨now, -⟩
      · change night.room.round = 1 at now
        omega
      · exact now
    · refine .inl ⟨?_, shoots⟩
      by_contra later
      have dead := struck.repents later trail.id shoots
      rw [isAlive_trail struck.unique' listed alive] at dead
      cases dead

theorem carries_one {other : Trail} (listed : trail ∈ night.struck.room.trails) (alive : trail.alive)
    (pending : trail.guiltPending) (listed' : other ∈ night.struck.room.trails) (alive' : other.alive)
    (pending' : other.guiltPending) : trail.id = other.id := by
  obtain ⟨-, -, first⟩ := struck.carries listed alive pending
  obtain ⟨-, -, second⟩ := struck.carries listed' alive' pending'
  rcases first with ⟨one, shoots⟩ | ⟨two, old, there, named, lived, carried⟩
  · rcases second with ⟨-, shoots'⟩ | ⟨two, -⟩
    · exact some.inj ((Decision.shootsTown_vigilante shoots).symm.trans (Decision.shootsTown_vigilante shoots'))
    · omega
  · rcases second with ⟨one, -⟩ | ⟨-, old', there', named', lived', carried'⟩
    · omega
    · rw [← named, ← named']
      exact struck.reckoned.alone struck.inPlay old there lived carried old' there' lived' carried'

/-- Guilt takes exactly whoever lives and carries it into the second night. -/
theorem falls :
    (∀ id ∈ night.guilty, night.room.round = 2 ∧ ∃ trail ∈ night.struck.room.trails, trail.id = id ∧ trail.alive ∧
      trail.guiltPending) ∧
    (∀ trail ∈ night.struck.room.trails, trail.alive → trail.guiltPending → night.room.round ≠ 1 → trail.id ∈ night.guilty) ∧
    ∀ trail ∈ (night.room.nightOutcome night.ctx).room.trails,
      trail ∈ night.struck.room.trails ∧ trail.id ∉ night.guilty ∨ trail.alive = false ∧ trail.id ∈ night.guilty := by
  rcases night.guilt_falls with ⟨none, same, calm⟩ | ⟨row, seated, alive, pending, later, one, killed⟩
  · rw [none, same]
    refine ⟨nofun, ?_, fun trail listed => .inl ⟨listed, not_mem_nil⟩⟩
    intro trail listed alive pending round
    rcases calm with calm | ⟨row, seated, living, heavy, stays⟩
    · obtain ⟨row, seated, rfl⟩ := mem_map.mp listed
      have light := calm row seated alive
      change row.guiltPending = true at pending
      rw [light] at pending
      cases pending
    · obtain ⟨used, deathless, time⟩ := struck.carries (mem_map_of_mem seated) living heavy
      have late : 1 < night.room.round := by
        rcases time with ⟨first, -⟩ | ⟨second, -⟩ <;> omega
      exact absurd ⟨used, deathless, late⟩ stays
  · have listed : row.trail ∈ night.struck.room.trails := mem_map_of_mem seated
    have carried := struck.carries listed alive pending
    rw [one, killed]
    refine ⟨?_, ?_, ?_⟩
    · intro id named
      cases mem_singleton.mp named
      refine ⟨?_, row.trail, listed, rfl, alive, pending⟩
      rcases carried.2.2 with ⟨first, -⟩ | ⟨second, -⟩ <;> omega
    · intro trail there living heavy _
      exact mem_singleton.mpr (struck.carries_one there living heavy listed alive pending)
    · intro trail there
      have dies : (night.struck.room.kill row.id .guilt).trails = update night.struck.room.trails (·.id == row.id) fun trail =>
          { trail with alive := false, deathRound := some night.struck.room.round, deathCause := some .guilt } := by
        rw [← updateFirst_eq_update]
        · exact map_updateFirst_through (fun _ => rfl) fun _ => rfl
        · rw [trails_ids]
          exact struck.unique'
      rw [dies] at there
      obtain ⟨old, kept, rfl⟩ := mem_update.mp there
      by_cases own : old.id == row.id
      · rw [if_pos own]
        exact .inr ⟨rfl, mem_singleton.mpr (eq_of_beq own)⟩
      · rw [if_neg own]
        refine .inl ⟨kept, fun named => own ?_⟩
        rw [mem_singleton.mp named, beq_self_eq_true]

theorem nights_lands (recorded : nights later = nights past ++ [night]) : GuiltLands later := by
  obtain ⟨spares, lands, only⟩ := struck.reckoned.lands
  obtain ⟨takes, pays, fate⟩ := struck.falls
  have outdated {earlier : Decision} (listed : earlier ∈ nights past) : ¬ earlier.Follows night := by
    intro follows
    have round := (struck.reckoned.within earlier listed follows.1).2.2.2.1
    have next := follows.2
    change earlier.room.round ≤ night.room.round at round
    omega
  constructor
  · rw [recorded]
    intro fired listed id shoots guilty
    rcases mem_append.mp listed with old | new
    · exact spares fired old id shoots guilty
    · cases mem_singleton.mp new
      obtain ⟨second, trail, there, rfl, alive, -⟩ := takes id guilty
      have dead := struck.repents (by omega) _ shoots
      rw [isAlive_trail struck.unique' there alive] at dead
      cases dead
  · rw [recorded]
    intro fired listed next listed' id shoots follows alive
    rcases mem_append.mp listed' with old' | new'
    · rcases mem_append.mp listed with old | new
      · exact lands fired old next old' id shoots follows alive
      · rw [mem_singleton.mp new] at follows
        exact absurd follows (outdated old')
    · obtain rfl := mem_singleton.mp new'
      rcases mem_append.mp listed with old | new
      · obtain ⟨trail, there, rfl, lives⟩ := trail_isAlive alive
        obtain ⟨carried, first⟩ := struck.reckoned.remembers struck.inPlay trail there lives fired old follows.1.symm shoots
        have second : next.room.round ≠ 1 := by
          have later := follows.2
          omega
        have dies {later : Trail} (there' : later ∈ next.struck.room.trails) (named : later.id = trail.id) (alive : later.alive) :
            trail.id ∈ next.guilty := by
          obtain ⟨before, here, fares⟩ := mem_pairs struck.fares there'
          obtain ⟨lived, -⟩ := fares.lives alive
          have pending : later.guiltPending := by
            rw [fares.pending, or_eq_true]
            refine .inl (struck.reckoned.remembers struck.inPlay before here lived fired old follows.1.symm ?_).1
            rw [← fares.named, named]
            exact shoots
          rw [← named]
          exact pays later there' alive pending second
        constructor
        · intro survives
          obtain ⟨later, there', named, alive⟩ := trail_isAlive survives
          exact dies there' named alive
        · rw [eq_false_iff]
          intro survives
          obtain ⟨last, there', named, alive⟩ := trail_isAlive survives
          rcases fate last there' with ⟨here, spared⟩ | ⟨dead, -⟩
          · exact spared (named ▸ dies here named alive)
          · rw [alive] at dead
            cases dead
      · cases mem_singleton.mp new
        have later := follows.2
        omega
  · rw [recorded]
    intro next listed id guilty
    rcases mem_append.mp listed with old | new
    · obtain ⟨fired, there, follows, shoots⟩ := only next old id guilty
      exact ⟨fired, mem_append_left _ there, follows, shoots⟩
    · cases mem_singleton.mp new
      obtain ⟨second, trail, there, rfl, alive, pending⟩ := takes id guilty
      obtain ⟨-, -, time⟩ := struck.carries there alive pending
      rcases time with ⟨first, -⟩ | ⟨-, before, here, named, lived, carried⟩
      · omega
      · obtain ⟨-, -, fired, recorded, game, first, shoots⟩ := struck.reckoned.burdened struck.inPlay before here lived carried
        refine ⟨fired, mem_append_left _ recorded, ⟨game.symm, ?_⟩, named ▸ shoots⟩
        rw [first, second]

/-- The books of the night are those of the morning. -/
theorem dawns (recorded : nights later = nights past ++ [night]) (game : after.gameNumber = night.room.gameNumber)
    (mode : after.mode = night.room.mode) (round : after.round = night.room.round)
    (phase : after.phase = .dawn ∨ after.phase = .ending)
    (trails : after.trails = (night.room.nightOutcome night.ctx).room.trails) : Reckoned later after := by
  obtain ⟨takes, pays, fate⟩ := struck.falls
  have day : after.phase ≠ .lobby ∧ after.phase ≠ .deal ∧ after.phase ≠ .night := by rcases phase with phase | phase <;> simp [phase]
  have living {trail : Trail} (listed : trail ∈ after.trails) (alive : trail.alive) :
      trail ∈ night.struck.room.trails ∧ trail.id ∉ night.guilty := by
    rw [trails] at listed
    rcases fate trail listed with kept | ⟨dead, -⟩
    · exact kept
    · rw [alive] at dead
      cases dead
  constructor
  case unique =>
    have seats : (night.room.nightOutcome night.ctx).room.trails.map (·.id) = night.struck.room.trails.map (·.id) := by
      rcases night.guilt_falls with ⟨-, same, -⟩ | ⟨row, -, -, -, -, -, killed⟩
      · rw [same]
      · rw [killed, trails_ids, trails_ids]
        exact map_updateFirst fun _ => rfl
    rw [trails, seats, struck.fares.ids]
    exact struck.reckoned.unique
  case earlier =>
    rw [recorded, game]
    intro record listed
    rcases mem_append.mp listed with old | new
    · exact struck.reckoned.earlier record old
    · rw [mem_singleton.mp new]
  case within =>
    rw [recorded, game, mode, round]
    intro record listed same
    rcases mem_append.mp listed with old | new
    · obtain ⟨mafia, -, -, before, -⟩ := struck.reckoned.within record old same
      exact ⟨mafia, day.1, day.2.1, before, fun dark => absurd dark day.2.2⟩
    · rw [mem_singleton.mp new]
      exact ⟨(struck.reckoned.begun struck.dark).1, day.1, day.2.1, Nat.le_refl _, fun dark => absurd dark day.2.2⟩
  case begun => exact fun dark => absurd dark day.2.2
  case standing =>
    intro _ trail listed alive
    obtain ⟨old, there, fares⟩ := mem_pairs struck.fares (living listed alive).1
    obtain ⟨lived, same⟩ := fares.lives alive
    rw [same]
    exact struck.reckoned.standing struck.inPlay old there lived
  case burdened =>
    intro _ trail listed alive pending
    obtain ⟨there, spared⟩ := living listed alive
    have first : night.room.round = 1 := by
      by_contra later
      exact spared (pays trail there alive pending later)
    obtain ⟨used, -, time⟩ := struck.carries there alive pending
    rcases time with ⟨-, shoots⟩ | ⟨second, -⟩
    · rw [recorded, game, round]
      exact ⟨used, .inl first, night, mem_append_right _ (mem_singleton_self _), rfl, first, shoots⟩
    · omega
  case remembers =>
    rw [recorded, game]
    intro _ trail listed alive record recorded same shoots
    obtain ⟨there, -⟩ := living listed alive
    obtain ⟨old, here, fares⟩ := mem_pairs struck.fares there
    rcases mem_append.mp recorded with earlier | now
    · rw [fares.named] at shoots
      obtain ⟨carried, first⟩ := struck.reckoned.remembers struck.inPlay old here (fares.lives alive).1 record earlier same shoots
      rw [fares.pending, carried]
      exact ⟨rfl, first⟩
    · cases mem_singleton.mp now
      constructor
      · rw [fares.pending, ← fares.named, shoots, Bool.or_true]
      · by_contra later
        have dead := struck.repents later _ shoots
        rw [isAlive_trail struck.unique' there alive] at dead
        cases dead
  case alone =>
    intro _ trail listed alive pending other listed' alive' pending'
    exact struck.carries_one (living listed alive).1 alive pending (living listed' alive').1 alive' pending'
  case blamed =>
    rw [recorded, game]
    intro trail listed dead cause
    rw [trails] at listed
    rcases fate trail listed with ⟨there, -⟩ | ⟨-, guilty⟩
    · obtain ⟨old, here, fares⟩ := mem_pairs struck.fares there
      obtain ⟨died, blamed⟩ := fares.blamed dead cause
      obtain ⟨record, old_record, same, guilty⟩ := struck.reckoned.blamed old here died blamed
      exact ⟨record, mem_append_left _ old_record, same, fares.named ▸ guilty⟩
    · exact ⟨night, mem_append_right _ (mem_singleton_self _), rfl, guilty⟩
  case lands => exact struck.nights_lands recorded

end Struck

end

/-! ### The books of a run -/

section
variable {table found : LiarsRoom} {now : Int}

theorem Reckoned.leads (reckoned : Reckoned past table.course) (leads : Leads ctx table now course)
    (repents : table.phase = .night → (⟨ctx, table, now⟩ : Decision).Repents) :
    Reckoned (past ++ decides ctx table now) course := by
  have recorded := nights_decides past ctx table now
  rcases leads.sorts with ⟨phase, duration, rfl⟩ | ⟨dark, game, mode, round, phase, trails⟩ | day
  · refine reckoned.onward (.nextRound phase now duration) (recorded.trans (if_neg ?_))
    rcases phase with phase | phase <;> simp [phase]
  · rw [if_pos dark] at recorded
    exact Struck.dawns ⟨reckoned, dark, repents dark⟩ recorded game mode round phase trails
  · have inPlay : table.course.inPlay := ⟨day.leaves.1, day.leaves.2.2.2⟩
    refine reckoned.onward (.quiet day.game day.mode day.round (.inr (.inr ⟨⟨inPlay, day.leaves.2.2.1⟩, day.enters⟩)) ?_)
      (recorded.trans (if_neg day.leaves.2.2.1))
    refine List.Forall₂.imp (fun old new days => ?_) day.trails
    cases days with
    | rests => exact .refl old
    | recalls => exact .of_stakes rfl
    | ejected => exact ⟨rfl, nofun, by simp, fun used => used, (Bool.or_false _).symm⟩

theorem fares_change {id : Nat} {change : Trail → Trail} (harmless : ∀ trail, Fares nobody trail (change trail))
    (trails : List Trail) : Forall₂ (Fares nobody) trails (updateFirst trails (·.id == id) change) :=
  forall₂_updateFirst Fares.refl fun trail _ => harmless trail

theorem leaves_fares (round : Nat) (now : Int) (trail : Trail) : Fares nobody trail (trail.leaves round now) := by
  unfold Trail.leaves
  split
  · exact ⟨rfl, nofun, nofun, fun used => used, (Bool.or_false _).symm⟩
  · exact .of_stakes rfl

theorem Reckoned.deal (reckoned : Reckoned past found.course) {kept : Course} (unique : (kept.trails.map (·.id)).Nodup)
    {roles : Nat → Option LiarsRole}
    (later : ∀ night ∈ nights past, night.room.gameNumber < kept.gameNumber) (duration : Int) :
    Reckoned past ((kept.deal roles).enter .deal now duration) := by
  have fresh {trail : Trail} (listed : trail ∈ ((kept.deal roles).enter .deal now duration).trails) :
      trail.alive ∧ trail.deathRound = none ∧ trail.guiltPending = false := by
    obtain ⟨old, -, rfl⟩ := mem_map.mp listed
    exact ⟨rfl, rfl, rfl⟩
  have apart {night : Decision} (listed : night ∈ nights past) : night.room.gameNumber ≠ kept.gameNumber :=
    (later night listed).ne
  constructor
  case unique =>
    have ids : ((kept.deal roles).enter .deal now duration).trails.map (·.id) = kept.trails.map (·.id) := by
      change (kept.trails.map fun trail => trail.deal (roles trail.id)).map (·.id) = _
      rw [map_map]
      rfl
    rw [ids]
    exact unique
  case earlier => exact fun night listed => (later night listed).le
  case within => exact fun night listed same => absurd same (apart listed)
  case begun => nofun
  case standing => exact fun _ trail listed _ => (fresh listed).2.1
  case burdened =>
    intro _ trail listed _ pending
    rw [(fresh listed).2.2] at pending
    cases pending
  case remembers => exact fun _ _ _ _ night listed same => absurd same (apart listed)
  case alone =>
    intro _ trail listed _ pending
    rw [(fresh listed).2.2] at pending
    cases pending
  case blamed =>
    intro trail listed dead
    rw [(fresh listed).1] at dead
    cases dead
  case lands => exact reckoned.lands

theorem nights_none {p : Decision → Prop} : ∀ night ∈ nights [], p night := fun _ listed => absurd listed not_mem_nil

theorem reckoned_lobby (lobby : course.phase = .lobby) (unique : (course.trails.map (·.id)).Nodup)
    (later : ∀ night ∈ nights past, night.room.gameNumber < course.gameNumber)
    (living : ∀ trail ∈ course.trails, trail.alive = false → trail.deathCause = some .guilt → False)
    (lands : GuiltLands past) : Reckoned past course := by
  have idle : ¬ course.inPlay := fun inPlay => inPlay.1 lobby
  constructor
  case unique => exact unique
  case earlier => exact fun night listed => (later night listed).le
  case within => exact fun night listed same => absurd same (later night listed).ne
  case begun => simp [lobby]
  case standing => exact fun inPlay => absurd inPlay idle
  case burdened => exact fun inPlay => absurd inPlay idle
  case remembers => exact fun inPlay => absurd inPlay idle
  case alone => exact fun inPlay => absurd inPlay idle
  case blamed => exact fun trail listed dead cause => (living trail listed dead cause).elim
  case lands => exact lands

theorem Reckoned.opened (lobby : course.phase = .lobby) (empty : course.trails = []) : Reckoned [] course := by
  refine reckoned_lobby lobby ?_ nights_none ?_ ⟨nights_none, nights_none, nights_none⟩
  · rw [empty]
    exact nodup_nil
  · simp [empty]

theorem Reckoned.unplayed (reckoned : Reckoned past course) (lobby : course.phase = .lobby) :
    ∀ night ∈ nights past, night.room.gameNumber < course.gameNumber := by
  intro night listed
  refine lt_of_le_of_ne (reckoned.earlier night listed) fun same => ?_
  exact (reckoned.within night listed same).2.1 lobby

theorem Reckoned.change (reckoned : Reckoned past found.course) {id : Nat} {change : Trail → Trail}
    (harmless : ∀ trail, Fares nobody trail (change trail)) : Reckoned past (found.course.change id change) :=
  reckoned.onward (.quiet rfl rfl rfl (.inl rfl) (fares_change harmless _)) rfl

def Accounted (past : List Decision) (course : Course) : Prop := (∀ night ∈ nights past, night.Repents) → Reckoned past course

theorem accounted_endures : Endures Accounted where
  leads {ctx table now course past} held leads repents := by
    have recorded := nights_decides past ctx table now
    have before : ∀ night ∈ nights past, night.Repents := by
      intro night listed
      apply repents
      rw [recorded]
      split
      · exact mem_append_left _ listed
      · exact listed
    refine (held before).leads leads fun dark => repents _ ?_
    rw [recorded, if_pos dark]
    exact mem_append_right _ (mem_singleton_self _)
  woken {past course dormant} _ _ held repents :=
    (held repents).onward (.quiet rfl rfl rfl (.inl rfl) (forall₂_same.mpr fun trail _ => .refl trail)) rfl

theorem Accounted.deed {act : Option Act} (accounted : Accounted past found.course) (deed : Deed ctx found act [] course)
    (fresh : ∀ id, act = some (.join id) → id ∉ found.course.trails.map (·.id)) : Accounted past course := by
  intro repents
  have reckoned := accounted repents
  have same : Forall₂ (Fares nobody) found.course.trails found.course.trails :=
    forall₂_same.mpr fun trail _ => .refl trail
  have innocent (lobby : found.phase = .lobby) {trail : Trail} (listed : trail ∈ found.course.trails) (dead : trail.alive = false)
      (cause : trail.deathCause = some .guilt) : False := by
    obtain ⟨night, recorded, game, -⟩ := reckoned.blamed trail listed dead cause
    exact absurd game (reckoned.unplayed lobby night recorded).ne
  cases deed with
  | rests => exact reckoned
  | @joins id lobby =>
    refine reckoned_lobby lobby ?_ (reckoned.unplayed lobby) ?_ reckoned.lands
    · exact Trail.fresh_unique reckoned.unique (fresh id rfl)
    · intro trail listed dead cause
      rcases mem_append.mp listed with old | new
      · exact innocent lobby old dead cause
      · rw [mem_singleton.mp new] at dead
        cases dead
  | configures => exact reckoned.onward (.quiet rfl rfl rfl (.inl rfl) same) rfl
  | dismisses lobby =>
    refine reckoned_lobby lobby (reckoned.unique.sublist (filter_sublist.map _)) (reckoned.unplayed lobby) ?_ reckoned.lands
    exact fun trail listed => innocent lobby (mem_of_mem_filter listed)
  | extends_ | pauses | resumes => exact reckoned.onward (.quiet rfl rfl rfl (.inl rfl) same) rfl
  | @deals _ kept roles duration lobby fewer =>
    have seated : (({ found.course with trails := kept } : Course).trails.map (·.id)).Nodup :=
      reckoned.unique.sublist (fewer.map _)
    exact reckoned.deal seated (reckoned.unplayed lobby) duration
  | replays =>
    exact reckoned.deal (Course.reset_unique reckoned.unique)
      (fun night listed => Nat.lt_succ_of_le (reckoned.earlier night listed)) _
  | returns =>
    refine reckoned_lobby rfl (Course.reset_unique reckoned.unique)
      (fun night listed => Nat.lt_succ_of_le (reckoned.earlier night listed)) ?_ reckoned.lands
    intro trail listed dead
    obtain ⟨old, -, rfl⟩ := mem_map.mp listed
    cases dead
  | ends => exact reckoned.onward (.quiet rfl rfl rfl (.inr (.inl rfl)) same) rfl
  | @departs id act won =>
    cases won with
    | none => exact reckoned.change (leaves_fares _ _)
    | some => exact reckoned.onward (.quiet rfl rfl rfl (.inr (.inl rfl)) (fares_change (leaves_fares _ _) _)) rfl
  | chooses =>
    exact reckoned.change fun _ => .of_stakes rfl
  | hastens => exact reckoned.onward (.quiet rfl rfl rfl (.inl rfl) same) rfl
  | casts | haunts =>
    exact reckoned.change fun _ => .of_stakes rfl
  | leads same day leads => exact accounted_endures.led same day leads accounted repents

end

end LiarsRoom

open LiarsRoom

/-- From its creation on, where nobody lives through a night after the first in which they shot at the town,
guilt takes exactly the vigilante who shot at the town, in the night that follows. -/
theorem vigilante_guilt (ctx : GameContext) (mode : LiarsMode) (roomMode : LiarsRoomMode) (toggles : TogglesPatch)
    (timings : TimingsPatch) (managed : Bool) {commands : List Command}
    (draws : EachStep Command.apply Command.DrawsNewId (createLiarsRoom ctx mode roomMode toggles timings managed) commands)
    (repents : ∀ night ∈ nights (chronicle (createLiarsRoom ctx mode roomMode toggles timings managed) commands), night.Repents) :
    GuiltLands (chronicle (createLiarsRoom ctx mode roomMode toggles timings managed) commands) ∧
    let after := runFrom Command.apply (createLiarsRoom ctx mode roomMode toggles timings managed) commands
    ∀ player ∈ after.players, player.alive = false → player.deathCause = some .guilt →
      ∃ night ∈ nights (chronicle (createLiarsRoom ctx mode roomMode toggles timings managed) commands),
        night.room.gameNumber = after.gameNumber ∧ player.id ∈ night.guilty := by
  have own {command : Command} {room : LiarsRoom} {past : List Decision} (draws : command.DrawsNewId room)
      (accounted : Accounted past (command.finds room).course)
      (deed : Deed command.ctx (command.finds room) (command.act room) [] (command.apply room).course) :
      Accounted past (command.apply room).course :=
    accounted.deed deed draws.fresh
  have start : Accounted [] (createLiarsRoom ctx mode roomMode toggles timings managed).course := fun _ => .opened rfl rfl
  have reckoned := accounted_endures.throughout own start draws repents
  refine ⟨reckoned.lands, fun player seated dead cause => ?_⟩
  exact reckoned.blamed player.trail (mem_map_of_mem seated) dead cause

theorem LiarsRoom.Decision.Repents.unarmed {night : Decision}
    (unarmed : night.room.round == 1 || night.plan.attacks.all (·.2.2)) : night.Repents := by
  intro later id shoots
  obtain ⟨attack, fired, hit⟩ := any_eq_true.mp shoots
  simp only [or_eq_true, beq_iff_eq, later, false_or, all_eq_true] at unarmed
  simp [unarmed attack fired] at hit

/-- Fourteen players with a vigilante are dealt in, and the room is read until the second night is over.
The vigilante is the player with the id 8, and shoots at that time and in that round. -/
def shootingAt (time round : Nat) : List Command :=
  let reads (times : List Nat) : List Command := times.map fun now => .read (.plain now) (.token 0) none
  ["Ada", "Bo", "Cy", "Di", "Em", "Flo", "Gus", "Hal", "Ida", "Jo", "Kit", "Lou", "Mo", "Ned"].map (.join (.plain 1) none none) ++
    [.byHost 2 1 (.configure { lineup := some ⟨[(.godfather, 1), (.mafia, 2), (.doctor, 1), (.vigilante, 1), (.villager, 9)]⟩ }),
      .byHost 2 2 (.start [])] ++
    reads ([20000, 45000, 70000, 95000, 120000, 145000].filter (· < time)) ++ [.by 8 time 3 (.nightSelect round (some 10))] ++
    reads ([45000, 70000, 95000, 120000, 145000, 170000, 195000, 220000, 245000].filter (time < ·))

/-- A villager who is shot in the second night is avenged in the same night. -/
theorem lateShot_guilt :
    let room := createLiarsRoom (.plain 1) .mafia .sameRoom {} shortPhases false
    EachStep Command.apply Command.DrawsNewId room (shootingAt 150000 2) ∧
      ¬ GuiltLands (chronicle room (shootingAt 150000 2)) := by
  have dies : (nights (chronicle (createLiarsRoom (.plain 1) .mafia .sameRoom {} shortPhases false) (shootingAt 150000 2))).any
      (fun night => night.shootsTown 8 && night.guilty.contains 8) := by decide +kernel
  refine ⟨by decide +kernel, fun lands => ?_⟩
  obtain ⟨night, listed, both⟩ := any_eq_true.mp dies
  obtain ⟨shoots, guilty⟩ := and_eq_true_iff.mp both
  exact lands.spares night listed 8 shoots (by simpa using guilty)

theorem vigilante_guilt_firstNight :
    let room := createLiarsRoom (.plain 1) .mafia .sameRoom {} shortPhases false
    GuiltLands (chronicle room (shootingAt 30000 1)) ∧
      (nights (chronicle room (shootingAt 30000 1))).map (·.guilty) = [[], [8]] := by
  have unarmed : (nights (chronicle (createLiarsRoom (.plain 1) .mafia .sameRoom {} shortPhases false) (shootingAt 30000 1))).all
      (fun night => night.room.round == 1 || night.plan.attacks.all (·.2.2)) := by decide +kernel
  refine ⟨(vigilante_guilt (.plain 1) .mafia .sameRoom {} shortPhases false (by decide +kernel) ?_).1, by decide +kernel⟩
  exact fun night listed => .unarmed (all_eq_true.mp unarmed night listed)

end MilkAndHenny.Liars

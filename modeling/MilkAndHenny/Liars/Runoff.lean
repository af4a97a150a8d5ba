import MilkAndHenny.Liars.Chronicle
import MilkAndHenny.Liars.Ejection

/-! The runoff between those who tied. There is one a day at most, and it stays between them as long as the
players and the graveyard keep to it, which nothing makes them do. -/

namespace MilkAndHenny.Liars
open Library

namespace LiarsRoom

def votes (past : List Decision) : List Decision := past.filter (·.room.phase = .vote)

def Decision.ties (vote : Decision) : Bool :=
  vote.room.votedOut.isNone && !vote.room.revoteUsed && decide (1 < (tiedIds vote.room.ballots).length)

def Decision.day (vote : Decision) : Nat × Nat := (vote.room.gameNumber, vote.room.round)

/-- A runoff counts ballots for those who tied only, ejects one of them who is still alive, and there is one a day at most. -/
structure RunoffsHold (past : List Decision) : Prop where
  once : (((votes past).filter Decision.ties).map Decision.day).Nodup
  between : ∀ vote ∈ votes past, vote.room.revoteUsed → ∀ id, some id ∈ vote.room.ballots → id ∈ vote.room.runoffIds
  ejects : ∀ vote ∈ votes past, vote.room.revoteUsed → ∀ ejected, vote.room.votedOut = some ejected →
    ejected.id ∈ vote.room.runoffIds ∧ ejected.alive

/-- The graveyard keeps to those who tied, and nobody who has gone since is ahead of all others. -/
def Decision.Orderly (vote : Decision) : Prop :=
  vote.room.revoteUsed → (∀ id ∈ vote.room.graveyardBallot, id ∈ vote.room.runoffIds) ∧
    ∀ id ∈ liarsPlurality vote.room.ballots, vote.room.isAlive (some id)

theorem voted_for {ballots : List (Option Nat)} {id : Nat} (elected : liarsPlurality ballots = some id) : some id ∈ ballots := by
  have most := liarsPlurality_eq_some.mp elected (id + 1) (by omega)
  exact List.count_pos_iff.mp (Nat.zero_lt_of_lt most)

structure Tallied (past : List Decision) (course : Course) : Prop where
  earlier : ∀ vote ∈ votes past, vote.room.gameNumber ≤ course.gameNumber
  within : ∀ vote ∈ votes past, vote.room.gameNumber = course.gameNumber → course.phase ≠ .lobby ∧ course.phase ≠ .deal ∧
    vote.room.round ≤ course.round ∧ (vote.ties → vote.room.round = course.round → course.revoteUsed)
  fresh : course.phase = .night ∨ course.phase = .dawn ∨ course.phase = .clue ∨ course.phase = .deliberation →
      course.revoteUsed = false
  cast : course.phase = .vote → course.revoteUsed → ∀ trail ∈ course.trails, trail.alive →
      ∀ id ∈ trail.vote, id ∈ course.runoffIds
  holds : RunoffsHold past

theorem votes_decides (past : List Decision) (ctx : GameContext) (table : LiarsRoom) (now : Int) :
    votes (past ++ decides ctx table now) = if table.phase = .vote then votes past ++ [⟨ctx, table, now⟩] else votes past := by
  unfold votes decides
  split
  · next decided =>
    by_cases vote : table.phase = .vote
    · simp [vote]
    · simp [vote]
  · next undecided =>
    have other : table.phase ≠ .vote := (not_or.mp undecided).2
    simp [other]

section
variable {ctx : GameContext} {table : LiarsRoom} {now : Int} {past later : List Decision} {before after course : Course}

theorem RunoffsHold.congr (same : votes later = votes past) (holds : RunoffsHold past) : RunoffsHold later := by
  obtain ⟨once, between, ejects⟩ := holds
  rw [← same] at once between ejects
  exact ⟨once, between, ejects⟩

theorem Tallied.counts (tallied : Tallied past table.course) (phase : table.phase = .vote)
    (orderly : (⟨ctx, table, now⟩ : Decision).Orderly)
    (recorded : votes later = votes past ++ [⟨ctx, table, now⟩]) : RunoffsHold later := by
  have between (runoff : table.revoteUsed) (id : Nat) (counted : some id ∈ table.ballots) : id ∈ table.runoffIds := by
    rcases mem_append.mp counted with living | graveyard
    · obtain ⟨row, listed, named⟩ := mem_map.mp living
      obtain ⟨seated, alive⟩ := mem_filter.mp listed
      exact tallied.cast phase runoff row.trail (mem_map_of_mem seated) alive id named
    · obtain ⟨ballot, listed, named⟩ := mem_map.mp graveyard
      obtain rfl := some.inj named
      exact (orderly runoff).1 ballot (mem_toList.mp listed)
  constructor
  · rw [recorded, filter_append, map_append]
    refine nodup_append.mpr ⟨tallied.holds.once, ?_, ?_⟩
    · exact (nodup_singleton _).sublist (filter_sublist.map _)
    · intro day listed other new same
      obtain ⟨vote, there, rfl⟩ := mem_map.mp listed
      obtain ⟨this, here, rfl⟩ := mem_map.mp new
      obtain ⟨old, ties⟩ := mem_filter.mp there
      obtain ⟨one, ties'⟩ := mem_filter.mp here
      rw [mem_singleton.mp one] at same ties'
      obtain ⟨game, round⟩ := Prod.mk.inj same
      have used : table.revoteUsed := (tallied.within vote old game).2.2.2 ties round
      simp [Decision.ties, used] at ties'
  · rw [recorded]
    intro vote listed runoff id counted
    rcases mem_append.mp listed with old | new
    · exact tallied.holds.between vote old runoff id counted
    · rw [mem_singleton.mp new] at runoff counted ⊢
      exact between runoff id counted
  · rw [recorded]
    intro vote listed runoff ejected voted
    rcases mem_append.mp listed with old | new
    · exact tallied.holds.ejects vote old runoff ejected voted
    · rw [mem_singleton.mp new] at runoff voted ⊢
      obtain ⟨id, elected, seated⟩ := bind_eq_some_iff.mp voted
      cases player_id seated
      refine ⟨between runoff _ (voted_for elected), ?_⟩
      obtain ⟨row, found, alive⟩ := isAlive_iff.mp ((orderly runoff).2 ejected.id elected)
      rw [some.inj (seated.symm.trans found)]
      exact alive

theorem Tallied.clocked {clock : Clock} (tallied : Tallied past before) : Tallied past { before with clock } :=
  ⟨tallied.earlier, tallied.within, tallied.fresh, tallied.cast, tallied.holds⟩

def BeforeVote (phase : LiarsPhase) : Prop := phase = .night ∨ phase = .dawn ∨ phase = .clue ∨ phase = .deliberation

theorem Tallied.goes (tallied : Tallied past before) (game : after.gameNumber = before.gameNumber)
    (phase : after.phase = before.phase ∨ after.phase ≠ .lobby ∧ after.phase ≠ .deal) (round : before.round ≤ after.round)
    (used : after.round = before.round → before.revoteUsed → after.revoteUsed)
    (fresh : BeforeVote after.phase → after.revoteUsed = false)
    (cast : after.phase = .vote → after.revoteUsed → ∀ trail ∈ after.trails, trail.alive →
      ∀ id ∈ trail.vote, id ∈ after.runoffIds)
    (recorded : ∀ vote ∈ votes later, vote ∈ votes past ∨ before.phase = .vote ∧ vote.room.gameNumber = before.gameNumber ∧
      vote.room.round = before.round ∧ (vote.ties → after.revoteUsed)) (holds : RunoffsHold later) : Tallied later after := by
  constructor
  case earlier =>
    intro vote listed
    rw [game]
    rcases recorded vote listed with old | ⟨-, same, -⟩
    · exact tallied.earlier vote old
    · exact same.le
  case within =>
    intro vote listed same
    have enters (lobby : before.phase ≠ .lobby) (deal : before.phase ≠ .deal) : after.phase ≠ .lobby ∧ after.phase ≠ .deal := by
      rcases phase with same | other
      · rw [same]
        exact ⟨lobby, deal⟩
      · exact other
    rcases recorded vote listed with old | ⟨vote_, -, same', ties⟩
    · obtain ⟨lobby, deal, earlier, once⟩ := tallied.within vote old (same.trans game)
      obtain ⟨lobby', deal'⟩ := enters lobby deal
      refine ⟨lobby', deal', earlier.trans round, fun ties now => ?_⟩
      have still : after.round = before.round := by omega
      exact used still (once ties (now.trans still))
    · obtain ⟨lobby', deal'⟩ := enters (by simp [vote_]) (by simp [vote_])
      exact ⟨lobby', deal', same'.trans_le round, fun level _ => ties level⟩
  case fresh => exact fresh
  case cast => exact cast
  case holds => exact holds

theorem Tallied.leads (tallied : Tallied past table.course) (leads : Leads ctx table now course)
    (orderly : table.phase = .vote → (⟨ctx, table, now⟩ : Decision).Orderly) :
    Tallied (past ++ decides ctx table now) course := by
  have recorded := votes_decides past ctx table now
  have quiet (other : table.phase ≠ .vote) : votes (past ++ decides ctx table now) = votes past := recorded.trans (if_neg other)
  have old (other : table.phase ≠ .vote) :
      ∀ vote ∈ votes (past ++ decides ctx table now), vote ∈ votes past ∨ table.phase = .vote ∧
      vote.room.gameNumber = table.gameNumber ∧ vote.room.round = table.round ∧ (vote.ties → course.revoteUsed) := by
    rw [quiet other]
    exact fun vote listed => .inl listed
  have still (next : LiarsPhase) (other : table.phase ≠ .vote) (stays : course.phase = next ∧ next ≠ .lobby ∧ next ≠ .deal)
      (game : course.gameNumber = table.gameNumber) (round : course.round = table.round)
      (used : course.revoteUsed = table.revoteUsed)
      (fresh : BeforeVote table.phase ∨ next ≠ .vote ∧ ¬ BeforeVote next) : Tallied (past ++ decides ctx table now) course := by
    refine tallied.goes game (.inr (stays.1 ▸ stays.2)) round.ge (fun _ runoff => used.trans runoff) ?_ ?_ (old other)
      (tallied.holds.congr (quiet other))
    · intro before
      rcases fresh with was | never
      · exact used.trans (tallied.fresh was)
      · exact absurd (stays.1 ▸ before) never.2
    · intro vote runoff
      rcases fresh with was | never
      · rw [used.trans (tallied.fresh was)] at runoff
        cases runoff
      · exact absurd (stays.1.symm.trans vote) never.1
  have counted (phase : table.phase = .vote) (stays : course.phase ≠ .lobby ∧ course.phase ≠ .deal ∧ ¬ BeforeVote course.phase)
      (game : course.gameNumber = table.gameNumber) (round : course.round = table.round)
      (used : table.revoteUsed → course.revoteUsed)
      (ties : (⟨ctx, table, now⟩ : Decision).ties → course.revoteUsed)
      (cast : course.phase = .vote → course.revoteUsed → ∀ trail ∈ course.trails, trail.alive →
        ∀ id ∈ trail.vote, id ∈ course.runoffIds) :
      Tallied (past ++ decides ctx table now) course := by
    rw [if_pos phase] at recorded
    refine tallied.goes game (.inr ⟨stays.1, stays.2.1⟩) round.ge (fun _ => used) (fun before => absurd before stays.2.2) cast ?_
      (tallied.counts phase (orderly phase) recorded)
    rw [recorded]
    intro vote listed
    rcases mem_append.mp listed with earlier | this
    · exact .inl earlier
    · rw [mem_singleton.mp this]
      exact .inr ⟨phase, rfl, rfl, ties⟩
  cases leads with
  | round phase =>
    have other : table.phase ≠ .vote := by rcases phase with phase | phase <;> simp [phase]
    have next : roundPhase table.mode ≠ .lobby ∧ roundPhase table.mode ≠ .deal := by cases table.mode <;> simp [roundPhase]
    refine tallied.goes rfl (.inr next) (Nat.le_succ _) (fun same => ?_) (fun _ => rfl) (fun _ used => ?_) (old other)
      (tallied.holds.congr (quiet other))
    · change table.round + 1 = table.round at same
      omega
    · cases used
  | dawn phase => exact still .dawn (by simp [phase]) ⟨rfl, by simp⟩ rfl rfl rfl (.inl (.inl phase))
  | lastDawn phase => exact still .ending (by simp [phase]) ⟨rfl, by simp⟩ rfl rfl rfl (.inl (.inl phase))
  | clue phase => exact still .clue (by simp [phase]) ⟨phase, by simp⟩ rfl rfl rfl (.inl (.inr (.inr (.inl phase))))
  | circle phase => exact still .clue (by simp [phase]) ⟨rfl, by simp⟩ rfl rfl rfl (.inl (.inr (.inr (.inl phase))))
  | talk phase =>
    have other : table.phase ≠ .vote := by rcases phase with phase | phase <;> simp [phase]
    refine still .deliberation other ⟨rfl, by simp⟩ rfl rfl rfl (.inl ?_)
    rcases phase with phase | phase
    · exact .inr (.inr (.inl phase))
    · exact .inr (.inl phase)
  | call phase => exact still .vote (by simp [phase]) ⟨rfl, by simp⟩ rfl rfl rfl (.inl (.inr (.inr (.inr phase))))
  | again phase =>
    refine counted phase (by simp [Course.enter, BeforeVote]) rfl rfl (fun _ => rfl)
      (fun _ => rfl) fun _ _ trail listed _ id voted => ?_
    obtain ⟨row, -, rfl⟩ := mem_map.mp listed
    cases voted
  | stands phase nobody settled =>
    refine counted phase (by simp [Course.enter, BeforeVote]) rfl rfl id (fun ties => ?_) nofun
    simp only [Decision.ties, and_eq_true, not_eq_true', decide_eq_true_eq] at ties
    have few := settled ties.1.2
    omega
  | ejects phase voted =>
    refine counted phase (by simp [Course.enter, BeforeVote]) rfl rfl id (fun ties => ?_) nofun
    simp [Decision.ties, voted] at ties
  | asks phase => exact still .finalGuess (by simp [phase]) ⟨rfl, by simp⟩ rfl rfl rfl (.inr (by simp [BeforeVote]))
  | concludes phase =>
    have other : table.phase ≠ .vote := by rcases phase with phase | phase <;> simp [phase]
    exact still .ending other ⟨rfl, by simp⟩ rfl rfl rfl (.inr (by simp [BeforeVote]))

def Polled (past : List Decision) (course : Course) : Prop := (∀ vote ∈ votes past, vote.Orderly) → Tallied past course

theorem polled_endures : Endures Polled where
  leads {ctx table now course past} polled leads orderly := by
    have recorded := votes_decides past ctx table now
    have before : ∀ vote ∈ votes past, vote.Orderly := by
      intro vote listed
      apply orderly
      rw [recorded]
      split
      · exact mem_append_left _ listed
      · exact listed
    refine (polled before).leads leads fun phase => orderly _ ?_
    rw [recorded, if_pos phase]
    exact mem_append_right _ (mem_singleton_self _)
  woken {past course dormant} _ _ polled orderly := by
    exact (polled orderly).clocked

theorem Polled.deed {found : LiarsRoom} {act : Option Act} (polled : Polled past found.course)
    (deed : Deed ctx found act [] course)
    (keeps : ∀ id targetId, act = some (.play id (.castVote (some targetId))) → found.phase = .vote → found.revoteUsed →
      targetId ∈ found.runoffIds) :
    Polled past course := by
  intro orderly
  have tallied := polled orderly
  have old {round : Nat} {used : Bool} :
      ∀ vote ∈ votes past, vote ∈ votes past ∨ found.phase = .vote ∧ vote.room.gameNumber = found.gameNumber ∧
      vote.room.round = round ∧ (vote.ties → used) := fun vote listed => .inl listed
  have new (next : LiarsPhase) (stays : course.phase = next ∧ next ≠ .vote ∧ ¬ BeforeVote next)
      (later : ∀ vote ∈ votes past, vote.room.gameNumber < course.gameNumber) : Tallied past course := by
    constructor
    case earlier => exact fun vote listed => (later vote listed).le
    case within => exact fun vote listed same => absurd same (later vote listed).ne
    case fresh => exact fun before => absurd (stays.1 ▸ before) stays.2.2
    case cast => exact fun vote => absurd (stays.1.symm.trans vote) stays.2.1
    case holds => exact tallied.holds
  have unplayed (lobby : found.phase = .lobby) : ∀ vote ∈ votes past, vote.room.gameNumber < found.gameNumber := by
    intro vote listed
    refine lt_of_le_of_ne (tallied.earlier vote listed) fun same => ?_
    exact (tallied.within vote listed same).1 lobby
  have changes {id : Nat} {change : Trail → Trail} (lives : ∀ trail, (change trail).alive → trail.alive)
      (votes : found.phase = .vote → found.revoteUsed → ∀ trail, (change trail).vote = trail.vote ∨
        ∀ id ∈ (change trail).vote, id ∈ found.runoffIds) :
      Tallied past (found.course.change id change) := by
    refine tallied.goes rfl (.inl rfl) le_rfl (fun _ runoff => runoff) tallied.fresh
      (fun vote runoff trail listed alive => ?_) old tallied.holds
    have pairs : Forall₂ (fun old new : Trail => (new.alive → old.alive) ∧
        (new.vote = old.vote ∨ ∀ id ∈ new.vote, id ∈ found.runoffIds))
        found.course.trails (found.course.change id change).trails :=
      forall₂_updateFirst (fun trail => ⟨fun alive => alive, .inl rfl⟩) fun trail _ => ⟨lives trail, votes vote runoff trail⟩
    obtain ⟨earlier, there, living, same | within⟩ := mem_pairs pairs listed
    · rw [same]
      exact tallied.cast vote runoff earlier there (living alive)
    · exact within
  cases deed with
  | rests => exact tallied
  | joins lobby | configures lobby | dismisses lobby => exact new .lobby ⟨lobby, by simp [BeforeVote]⟩ (unplayed lobby)
  | extends_ | pauses | resumes => exact tallied.clocked
  | deals lobby => exact new .deal ⟨rfl, by simp [BeforeVote]⟩ (unplayed lobby)
  | replays => exact new .deal ⟨rfl, by simp [BeforeVote]⟩ fun vote listed => Nat.lt_succ_of_le (tallied.earlier vote listed)
  | returns => exact new .lobby ⟨rfl, by simp [BeforeVote]⟩ fun vote listed => Nat.lt_succ_of_le (tallied.earlier vote listed)
  | ends =>
    refine tallied.goes rfl (.inr (by simp [Course.finish])) le_rfl (fun _ => id)
      (by simp [Course.finish, BeforeVote]) nofun old tallied.holds
  | @departs id act won =>
    cases won with
    | none =>
      have alike (trail : Trail) : ((trail.leaves found.round ctx.now).alive → trail.alive) ∧
          (trail.leaves found.round ctx.now).vote = trail.vote := by
        unfold Trail.leaves
        split
        · exact ⟨nofun, rfl⟩
        · exact ⟨fun alive => alive, rfl⟩
      exact changes (fun trail => (alike trail).1) fun _ _ trail => .inl (alike trail).2
    | some =>
      exact tallied.goes rfl (.inr (by simp [Course.change, Course.finish])) le_rfl (fun _ runoff => runoff)
        (by simp [Course.change, Course.finish, BeforeVote]) nofun old
        tallied.holds
  | chooses night seated alive => exact changes (fun _ alive => alive) fun _ _ _ => .inl rfl
  | hastens => exact tallied.clocked
  | @casts id targetId =>
    refine changes (fun _ alive => alive) fun vote runoff _ => .inr fun target named => ?_
    obtain rfl : targetId = some target := named
    exact keeps id target rfl vote runoff
  | haunts => exact changes (fun _ alive => alive) fun _ _ _ => .inl rfl
  | leads same day leads => exact polled_endures.led same day leads polled orderly

end

end LiarsRoom

open LiarsRoom

def Act.castFor : Option Act → Option Nat
  | some (.play _ (.castVote targetId)) => targetId
  | _ => none

/-- A vote that is cast in a runoff is cast for one of those who tied, or for nobody. -/
def Command.KeepsToRunoff (command : Command) (room : LiarsRoom) : Prop :=
  (command.finds room).phase = .vote → (command.finds room).revoteUsed →
    ∀ targetId ∈ Act.castFor (command.act room), targetId ∈ (command.finds room).runoffIds

instance (command : Command) (room : LiarsRoom) : Decidable (command.KeepsToRunoff room) :=
  inferInstanceAs (Decidable (_ → _ → ∀ _ ∈ _, _))

instance (vote : Decision) : Decidable vote.Orderly := inferInstanceAs (Decidable (_ → (∀ _ ∈ _, _) ∧ ∀ _ ∈ _, _))

theorem Command.KeepsToRunoff.cast {command : Command} {room : LiarsRoom} (keeps : command.KeepsToRunoff room) (id targetId : Nat)
    (act : command.act room = some (.play id (.castVote (some targetId)))) (vote : (command.finds room).phase = .vote)
    (runoff : (command.finds room).revoteUsed) : targetId ∈ (command.finds room).runoffIds := by
  apply keeps vote runoff
  rw [act]
  rfl

/-- From its creation on, where the votes of a runoff are cast for those who tied, the graveyard's ballot names one of them and nobody who
has gone is ahead of all others when they are counted, every runoff stays between those who tied. -/
theorem runoffs_hold (ctx : GameContext) (mode : LiarsMode) (roomMode : LiarsRoomMode) (toggles : TogglesPatch)
    (timings : TimingsPatch) (managed : Bool) {commands : List Command}
    (keeps : EachStep Command.apply Command.KeepsToRunoff (createLiarsRoom ctx mode roomMode toggles timings managed) commands)
    (orderly : ∀ vote ∈ votes (chronicle (createLiarsRoom ctx mode roomMode toggles timings managed) commands), vote.Orderly) :
    RunoffsHold (chronicle (createLiarsRoom ctx mode roomMode toggles timings managed) commands) := by
  have own {command : Command} {room : LiarsRoom} {past : List Decision} (keeps : command.KeepsToRunoff room)
      (polled : Polled past (command.finds room).course)
      (deed : Deed command.ctx (command.finds room) (command.act room) [] (command.apply room).course) :
      Polled past (command.apply room).course :=
    polled.deed deed keeps.cast
  have start : Polled [] (createLiarsRoom ctx mode roomMode toggles timings managed).course := by
    have none {p : Decision → Prop} : ∀ vote ∈ votes [], p vote := fun _ listed => absurd listed not_mem_nil
    exact fun _ => ⟨none, none, fun _ => rfl, nofun, nodup_nil, none, none⟩
  exact (polled_endures.throughout own start keeps orderly).holds

/-- Six players are dealt in, two of them are level, and in the runoff one of them votes for this player. -/
def levelThenFor (targetId : Nat) : List Command :=
  let reads (times : List Nat) : List Command := times.map fun now => .read (.plain now) (.token 0) none
  ["Ada", "Bo", "Cy", "Di", "Em", "Flo"].map (.join (.plain 1) none none) ++ [.byHost 2 1 (.start [])] ++
    reads [20000, 40000, 60000, 65000] ++ [.by 2 66000 2 (.castVote (some 4)), .by 4 66000 3 (.castVote (some 2))] ++
    reads [75000] ++ [.by 2 76000 4 (.castVote (some targetId))] ++ reads [86000]

/-- Ada and Bo are level, and the runoff between them ejects Cy. -/
theorem runoff_outsider :
    ¬ RunoffsHold (chronicle (createLiarsRoom (.plain 1) .mafia .sameRoom {} shortPhases false) (levelThenFor 6)) := by
  intro holds
  have ejected : (votes (chronicle (createLiarsRoom (.plain 1) .mafia .sameRoom {} shortPhases false) (levelThenFor 6))).any
      (fun vote => vote.room.revoteUsed && vote.room.ballots.contains (some 6) && !vote.room.runoffIds.contains 6) := by decide +kernel
  obtain ⟨vote, listed, outside⟩ := any_eq_true.mp ejected
  simp only [and_eq_true, not_eq_true', contains_eq_mem, decide_eq_true_eq, decide_eq_false_iff_not] at outside
  exact outside.2 (holds.between vote listed outside.1.1 6 outside.1.2)

theorem runoffs_hold_between :
    RunoffsHold (chronicle (createLiarsRoom (.plain 1) .mafia .sameRoom {} shortPhases false) (levelThenFor 4)) ∧
    (runFrom Command.apply (createLiarsRoom (.plain 1) .mafia .sameRoom {} shortPhases false)
    (levelThenFor 4)).lastEjectedName = some "Bo" :=
  ⟨runoffs_hold (.plain 1) .mafia .sameRoom {} shortPhases false (by decide +kernel) (by decide +kernel), by decide +kernel⟩

end MilkAndHenny.Liars

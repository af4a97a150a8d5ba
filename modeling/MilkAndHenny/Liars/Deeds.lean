import MilkAndHenny.Liars.Course

/-! What the commands do to the course of the games. Every command finds the room as time has left it and
then does one deed, and a refusal does none. -/

namespace MilkAndHenny.Liars
open Library

/-- What the room is asked for. -/
inductive Act where
  | join (id : Nat)
  | host (action : LiarsHostAction)
  | play (id : Nat) (action : LiarsPlayerAction)

namespace Trail

/-- Somebody who has just joined. -/
def fresh (id : Nat) : Trail where
  id := id
  role := none
  alive := true
  deathRound := none
  deathCause := none
  nightTarget := none
  previousNightTarget := none
  vote := none
  graveyardVote := none
  vigilanteUsed := false
  guiltPending := false
  leftAt := none

def deal (role : Option LiarsRole) (trail : Trail) : Trail :=
  { trail with
    role, alive := true, deathRound := none, deathCause := none, graveyardVote := none, vigilanteUsed := false
    guiltPending := false, previousNightTarget := none }

def leaves (round : Nat) (now : Int) (trail : Trail) : Trail :=
  if trail.alive then { trail with alive := false, deathRound := some round, deathCause := some .left, leftAt := some now }
  else { trail with leftAt := some now }

end Trail

namespace Course

def deal (course : Course) (roles : Nat → Option LiarsRole) : Course :=
  { course with
    round := 0, winner := none
    clock := { course.clock with dawn := none }
    trails := course.trails.map fun trail => trail.deal (roles trail.id) }

/-- Another game, of those who are still here. -/
def reset (course : Course) : Course :=
  { course with
    gameNumber := course.gameNumber + 1, round := 0, winner := none
    clock := { course.clock with dawn := none }
    trails := (course.trails.filter (·.leftAt.isNone)).map fun trail => { trail with alive := true, role := none } }

def change (course : Course) (id : Nat) (change : Trail → Trail) : Course :=
  { course with trails := updateFirst course.trails (·.id == id) change }

end Course

section
variable {trails : List Trail} {course : Course}

theorem Trail.fresh_unique (unique : (trails.map (·.id)).Nodup) {id : Nat} (apart : id ∉ trails.map (·.id)) :
    ((trails ++ [Trail.fresh id]).map (·.id)).Nodup := by
  have ids : (trails ++ [Trail.fresh id]).map (·.id) = trails.map (·.id) ++ [id] := map_append
  rw [ids]
  refine nodup_append.mpr ⟨unique, nodup_singleton id, ?_⟩
  rintro other there one new rfl
  rw [mem_singleton.mp new] at there
  exact apart there

theorem Course.reset_unique (unique : (course.trails.map (·.id)).Nodup) : (course.reset.trails.map (·.id)).Nodup := by
  have ids : course.reset.trails.map (·.id) = (course.trails.filter (·.leftAt.isNone)).map (·.id) := by
    rw [Course.reset, map_map]
    rfl
  rw [ids]
  exact unique.sublist (filter_sublist.map _)

end

namespace LiarsRoom
variable {ctx : GameContext} {room found : LiarsRoom} {player : PlayerState} {change : PlayerState → PlayerState} {id : Nat} {change' : Trail → Trail}

def votedIn (ctx : GameContext) (room : LiarsRoom) (id : Nat) : LiarsRoom :=
  changed ctx (room.updatePlayer id fun row => { row with voteLocked := true })

def lockedIn (ctx : GameContext) (room : LiarsRoom) (id : Nat) : LiarsRoom :=
  changed ctx (room.updatePlayer id fun row => { row with nightLocked := true })

def countsNow (ctx : GameContext) (room : LiarsRoom) (id : Nat) : LiarsPlayerAction → List Decision
  | .lockVote =>
    if room.phase = .vote ∧ (room.player id).any (fun row => row.alive && !row.voteLocked) ∧
      (room.votedIn ctx id).living.all (·.voteLocked) then
      [⟨ctx, room.votedIn ctx id, ctx.now⟩]
    else []
  | _ => []

inductive Deed (ctx : GameContext) (found : LiarsRoom) : Option Act → List Decision → Course → Prop where
  | rests {act : Option Act} : Deed ctx found act [] found.course
  | joins {id : Nat} (lobby : found.phase = .lobby) :
      Deed ctx found (some (.join id)) [] { found.course with trails := found.trails ++ [.fresh id] }
  | configures {configuration : GameConfiguration} (lobby : found.phase = .lobby) :
      Deed ctx found (some (.host (.configure configuration))) []
        { found.course with
          roomMode := (found.configureParts ctx configuration).roomMode
          timings := (found.configureParts ctx configuration).timings }
  | dismisses {act : Option Act} {id : Nat} (lobby : found.phase = .lobby) :
      Deed ctx found act [] { found.course with trails := found.trails.filter (·.id ≠ id) }
  | extends_ : Deed ctx found (some (.host .extend)) []
      { found.course with clock := { found.clock with phaseEndsAt := found.phaseEndsAt + 30000 } }
  | pauses : Deed ctx found (some (.host .pause)) [] { found.course with clock := { found.clock with pausedAt := some ctx.now } }
  | resumes {since : Int} (paused : found.pausedAt = some since) :
      Deed ctx found (some (.host .resume)) []
        { found.course with clock := { found.clock.shift (ctx.now - since) with pausedAt := none } }
  | deals {removed : List Nat} {kept : List Trail} {roles : Nat → Option LiarsRole} {duration : Int}
      (lobby : found.phase = .lobby)
      (fewer : kept.Sublist found.trails) (lasts : found.Lasts .deal duration) :
      Deed ctx found (some (.host (.start removed))) []
        ((({ found.course with trails := kept } : Course).deal roles).enter .deal ctx.now duration)
  | replays {roles : Nat → Option LiarsRole} {duration : Int} (lasts : found.Lasts .deal duration) :
      Deed ctx found (some (.host .replay)) [] ((found.course.reset.deal roles).enter .deal ctx.now duration)
  | returns : Deed ctx found (some (.host .lobby)) [] { found.course.reset with phase := .lobby }
  | ends {winner : LiarsSide} : Deed ctx found (some (.host .endGame)) [] (found.course.finish winner ctx.now)
  | departs {id : Nat} {act : Act} {won : Option LiarsSide} (leaves : act = .host (.remove id) ∨ act = .play id .leave)
      (playing : found.phase ≠ .lobby) :
      Deed ctx found (some act) []
        ((won.elim found.course (found.course.finish · ctx.now)).change id (Trail.leaves found.round ctx.now))
  | chooses {id round : Nat} {targetId : Option Nat} {player : PlayerState} (night : found.phase = .night)
      (seated : found.player id = some player) (alive : player.alive) (targets : targetId.all (found.mayTarget player)) :
      Deed ctx found (some (.play id (.nightSelect round targetId))) []
        (found.course.change id fun trail => { trail with nightTarget := targetId })
  | hastens {id round : Nat} {reportAt : Int} (night : found.phase = .night) (reported : found.reportAt = some reportAt)
      (everyone : (found.lockedIn ctx id).living.all (·.nightLocked)) :
      Deed ctx found (some (.play id (.nightLock round))) []
        { found.course with
          clock := { found.clock with reportAt := some ctx.now, phaseEndsAt := ctx.now + (found.phaseEndsAt - reportAt) } }
  | casts {id : Nat} {targetId : Option Nat} (votes : found.phase = .vote)
      (stands : targetId.all fun id => (found.player id).any (·.alive)) :
      Deed ctx found (some (.play id (.castVote targetId))) []
        (found.course.change id fun trail => { trail with vote := targetId })
  | haunts {id : Nat} {targetId : Option Nat} {player : PlayerState} (seated : found.player id = some player)
      (dead : player.alive = false) :
      Deed ctx found (some (.play id (.graveyardVote targetId))) []
        (found.course.change id fun trail => { trail with graveyardVote := targetId })
  | counts {id : Nat} (votes : found.phase = .vote) :
      Deed ctx found (some (.play id .lockVote)) [⟨ctx, found.votedIn ctx id, ctx.now⟩]
        ((found.votedIn ctx id).resolveVote ctx ctx.now).course
  | leads {act : Option Act} {table : LiarsRoom} {course : Course} (same : table.course = found.course)
      (day : found.phase ≠ .night ∧ found.phase ≠ .vote) (leads : Leads ctx table ctx.now course) : Deed ctx found act [] course

/-! ### What the host does -/

theorem change_course (changed : ∀ row, (change row).trail = change' row.trail) :
    (room.updatePlayer id change).course = room.course.change id change' := by
  have listed : (room.updatePlayer id change).trails = updateFirst room.trails (·.id == id) change' :=
    map_updateFirst_through (fun _ => rfl) changed
  calc (room.updatePlayer id change).course = { room.course with trails := (room.updatePlayer id change).trails } := rfl
    _ = room.course.change id change' := by
      rw [listed]
      rfl

theorem dealGame_course (ctx : GameContext) (room : LiarsRoom) (now : Int) :
    ∃ (roles : Nat → Option LiarsRole) (table : LiarsRoom),
    table.timings = room.timings ∧
      (room.dealGame ctx now).course = (room.course.deal roles).enter .deal now (table.phaseDuration .deal) := by
  unfold dealGame
  extract_lets previous dealt pair worded seated
  refine ⟨dealt, seated, rfl, ?_⟩
  have dealt_course : seated.course = room.course.deal dealt := by
    have rows : seated.trails = room.trails.map fun trail => trail.deal (dealt trail.id) := by
      simp only [seated, trails, map_map]
      rfl
    calc seated.course = { ({ room.course with round := 0, winner := none, clock := { room.clock with dawn := none } } : Course) with
        trails := seated.trails } := rfl
      _ = room.course.deal dealt := by
        rw [rows]
        rfl
  rw [enterPhase_course, dealt_course]

theorem resetGame_course (room : LiarsRoom) : room.resetGame.course = room.course.reset := by
  have rows : room.resetGame.trails =
      (room.trails.filter (·.leftAt.isNone)).map fun trail => { trail with alive := true, role := none } := by
    simp only [resetGame, trails, map_map, filter_map]
    rfl
  calc room.resetGame.course = { ({ room.course with gameNumber := room.gameNumber + 1, round := 0, winner := none
                                                     clock := { room.clock with dawn := none } } : Course) with
        trails := room.resetGame.trails } := rfl
    _ = room.course.reset := by
      rw [rows]
      rfl

theorem configureParts_reset (ctx : GameContext) (room : LiarsRoom) (configuration : GameConfiguration) :
    room.configureParts ctx configuration =
      if configuration.resetLineup then (room.configureParts ctx { configuration with resetLineup := false }).resetLineup ctx
      else room.configureParts ctx { configuration with resetLineup := false } := by
  cases reset : configuration.resetLineup <;> simp [configureParts, reset]

theorem configureParts_course (ctx : GameContext) (room : LiarsRoom) (configuration : GameConfiguration) :
    (room.configureParts ctx configuration).course =
      { room.course with
        roomMode := (room.configureParts ctx configuration).roomMode
        timings := (room.configureParts ctx configuration).timings } := by
  rw [configureParts_reset, configureParts_eq rfl]
  split <;> rfl

theorem change_change (course : Course) (id : Nat) {first second : Trail → Trail} (kept : ∀ trail, (first trail).id = trail.id) :
    (course.change id first).change id second = course.change id (second ∘ first) := by
  have rows : updateFirst (updateFirst course.trails (·.id == id) first) (·.id == id) second =
      updateFirst course.trails (·.id == id) (second ∘ first) := updateFirst_updateFirst fun trail => by rw [kept]
  simp [Course.change, rows]

theorem trail_found (seated : room.player id = some player) :
    room.course.trails.find? (·.id == id) = some player.trail := by
  have found : room.course.trails.find? (·.id == id) = (room.player id).map PlayerState.trail := find?_map ..
  rw [found, seated, map_some]

theorem depart_course (ctx : GameContext) (room : LiarsRoom) {target : PlayerState} (secret : Secret)
    (seated : room.player target.id = some target) :
    ∃ won : Option LiarsSide, (room.depart ctx target secret).course =
      (won.elim room.course (room.course.finish · ctx.now)).change target.id (Trail.leaves room.round ctx.now) := by
  have found := trail_found seated
  have gone {left : LiarsRoom} :
      (left.updatePlayer target.id fun row => { row with leftAt := some ctx.now, tokenHash := secret }).course =
      left.course.change target.id fun trail => { trail with leftAt := some ctx.now } := change_course fun _ => rfl
  have trails (won : Option LiarsSide) : (won.elim room.course (room.course.finish · ctx.now)).trails = room.course.trails := by
    cases won <;> rfl
  have leaves (won : Option LiarsSide) {change : Trail → Trail}
      (same : change target.trail = target.trail.leaves room.round ctx.now) :
      (won.elim room.course (room.course.finish · ctx.now)).change target.id change =
        (won.elim room.course (room.course.finish · ctx.now)).change target.id (Trail.leaves room.round ctx.now) := by
    have rows : updateFirst room.course.trails (·.id == target.id) change =
        updateFirst room.course.trails (·.id == target.id) (Trail.leaves room.round ctx.now) :=
      updateFirst_congr fun trail listed => by rw [← some.inj (found.symm.trans listed), same]
    unfold Course.change
    rw [trails, rows]
  unfold depart
  rw [gone]
  split
  · next alive =>
    have killed : (room.kill target.id .left).course = room.course.change target.id fun trail =>
        { trail with alive := false, deathRound := some room.round, deathCause := some .left } := change_course fun _ => rfl
    generalize line : (room.kill target.id .left).narrate ctx .left { victim := some target.name } = told
    have same : (told.2.note .day told.1).course = (room.kill target.id .left).course := by
      rw [note_course, ← line, narrate_course]
    obtain ⟨text, after⟩ := told
    dsimp only at same ⊢
    generalize after.note .day text = noted at same ⊢
    have dies : target.trail.leaves room.round ctx.now =
        { target.trail with alive := false, deathRound := some room.round, deathCause := some .left, leftAt := some ctx.now } := if_pos alive
    rcases checkWinner_course ctx noted ctx.now none with ⟨winner, ended⟩ | goesOn
    · refine ⟨some winner, ?_⟩
      rw [ended, same, killed]
      have moved : ((room.course.change target.id fun trail =>
          { trail with alive := false, deathRound := some room.round, deathCause := some .left }).finish winner ctx.now) =
          (room.course.finish winner ctx.now).change target.id fun trail =>
            { trail with alive := false, deathRound := some room.round, deathCause := some .left } := rfl
      rw [moved, change_change]
      · exact leaves (some winner) dies.symm
      · exact fun _ => rfl
    · refine ⟨none, ?_⟩
      rw [goesOn, same, killed, change_change]
      · exact leaves none dies.symm
      · exact fun _ => rfl
  · next dead =>
    refine ⟨none, leaves none ?_⟩
    exact (if_neg dead).symm

theorem dismiss_course (room : LiarsRoom) (id : Nat) :
    (room.dismiss id).course = { room.course with trails := room.course.trails.filter (·.id ≠ id) } := by
  have rows : (room.dismiss id).trails = room.trails.filter (·.id ≠ id) := by
    simp only [dismiss, trails, filter_map]
    rfl
  calc (room.dismiss id).course = { room.course with trails := (room.dismiss id).trails } := rfl
    _ = { room.course with trails := room.course.trails.filter (·.id ≠ id) } := by
      rw [rows]
      rfl

theorem Deed.of_eq {act : Option Act} {made : List Decision} {course other : Course} (deed : Deed ctx found act made course)
    (same : other = course) : Deed ctx found act made other := same ▸ deed

theorem removePlayer_deed (ctx : GameContext) (found : LiarsRoom) (id : Nat) :
    Deed ctx found (some (.host (.remove id))) [] (leftBy (found.removePlayer ctx id)).course := by
  unfold removePlayer
  cases seated : found.player id with
  | none => exact .rests
  | some target =>
    cases player_id seated
    by_cases lobby : found.phase = .lobby
    · simp only [lobby, ↓reduceIte]
      refine (@Deed.dismisses ctx found _ target.id lobby).of_eq ?_
      exact (handOver_course ..).trans (dismiss_course ..)
    · simp only [lobby, ↓reduceIte]
      obtain ⟨won, departed⟩ := depart_course ctx found (.removed ctx.newId target.id) seated
      refine (@Deed.departs ctx found target.id _ won (.inl rfl) lobby).of_eq ?_
      exact (handOver_course ..).trans departed

theorem leaveRoom_deed (ctx : GameContext) (seated : found.player player.id = some player) :
    Deed ctx found (some (.play player.id .leave)) [] (found.leaveRoom ctx player).course := by
  unfold leaveRoom
  by_cases lobby : found.phase = .lobby
  · simp only [lobby, ↓reduceIte]
    refine (@Deed.dismisses ctx found _ player.id lobby).of_eq ?_
    rw [changed_course, handOver_course]
    split <;> exact dismiss_course found player.id
  · simp only [lobby, ↓reduceIte]
    obtain ⟨won, departed⟩ := depart_course ctx found (.left ctx.newId player.id) seated
    refine (@Deed.departs ctx found player.id _ won (.inr rfl) lobby).of_eq ?_
    exact (handOver_course ..).trans departed

theorem requestReadiness_course (ctx : GameContext) (room : LiarsRoom) (waited : List PlayerState) :
    (room.requestReadiness ctx waited).course = room.course := by
  unfold requestReadiness
  extract_lets asks
  split
  · rw [changed_course]
    refine course_players (map_update ?_)
    exact fun _ => rfl
  · rfl

theorem startGame_deed (ctx : GameContext) (found : LiarsRoom) (removed : List Nat) :
    Deed ctx found (some (.host (.start removed))) [] (leftBy (found.startGame ctx removed)).course := by
  unfold startGame
  extract_lets limit needs waited remaining fewer
  split
  · exact .rests
  · next closed =>
    have lobby : found.phase = .lobby := not_not.mp closed
    split
    · exact .rests
    · split
      · exact .rests
      · split
        · exact Deed.rests.of_eq (requestReadiness_course ..)
        · split
          · exact .rests
          · split
            · obtain ⟨roles, table, timed, dealt⟩ := dealGame_course ctx found ctx.now
              exact (Deed.deals lobby (List.Sublist.refl _) ⟨table, timed, rfl⟩).of_eq dealt
            · obtain ⟨roles, table, timed, dealt⟩ :=
                dealGame_course ctx (changed ctx { fewer with lineup := fewer.standardLineup, lineupCustom := false }) ctx.now
              refine (Deed.deals lobby ?_ ⟨table, timed, rfl⟩).of_eq dealt
              exact filter_sublist.map _

theorem configure_deed (ctx : GameContext) (found : LiarsRoom) (configuration : GameConfiguration) :
    Deed ctx found (some (.host (.configure configuration))) [] (leftBy (found.configure ctx configuration)).course := by
  have parts := configureParts_course ctx found configuration
  unfold configure
  split
  · exact .rests
  · split
    · exact .rests
    · next closed =>
      have lobby : found.phase = .lobby := not_not.mp closed
      have deed := @Deed.configures ctx found configuration lobby
      split
      · exact deed.of_eq parts
      · split
        · exact deed.of_eq parts
        · exact deed.of_eq parts

theorem hostCommand_deed (ctx : GameContext) (found : LiarsRoom) (action : LiarsHostAction) :
    Deed ctx found (some (.host action)) [] (leftBy (found.hostCommand ctx action)).course := by
  cases action with
  | admissionSet =>
    simp only [hostCommand]
    split
    · exact .rests
    · split
      · exact .rests
      · exact .rests
  | configure configuration => exact configure_deed ctx found configuration
  | start removed => exact startGame_deed ctx found removed
  | extend => exact .extends_
  | pause => exact .pauses
  | resume =>
    simp only [hostCommand]
    split
    · exact .rests
    · next since paused => exact .resumes paused
  | passHost =>
    simp only [hostCommand]
    split
    · exact .rests
    · exact .rests
  | remove playerId => exact removePlayer_deed ctx found playerId
  | replay =>
    obtain ⟨roles, table, timed, dealt⟩ := dealGame_course ctx found.resetGame ctx.now
    rw [resetGame_course] at dealt
    refine (Deed.replays ⟨table, ?_, rfl⟩).of_eq dealt
    exact timed.trans (congrArg Course.timings found.resetGame_course)
  | lobby =>
    have rows : (found.resetGame.players.map (·.setReady false)).map PlayerState.trail = found.resetGame.trails := by
      rw [map_map]
      rfl
    refine Deed.returns.of_eq ?_
    rw [← resetGame_course]
    calc _ = { ({ found.resetGame with players := found.resetGame.players.map (·.setReady false) } : LiarsRoom).course with phase := .lobby } := rfl
      _ = { found.resetGame.course with phase := .lobby } := by rw [course_players rows]
  | endGame => exact .ends

/-! ### What a player does -/

theorem row_course (ctx : GameContext) (same : ∀ row, (change row).trail = row.trail) :
    (changed ctx (found.updatePlayer id change)).course = found.course := (changed_course ..).trans (updatePlayer_course same)

theorem row_change (ctx : GameContext) (same : ∀ row, (change row).trail = change' row.trail) :
    (changed ctx (found.updatePlayer id change)).course = found.course.change id change' :=
      (changed_course ..).trans (change_course same)

theorem nightCommand_deed (ctx : GameContext) (seated : found.player player.id = some player) (alive : player.alive)
    (round : Nat) (choice : Option (Option Nat)) :
    Deed ctx found (some (.play player.id (choice.elim (.nightLock round) (.nightSelect round)))) []
      (leftBy (found.nightCommand ctx player round choice)).course := by
  unfold nightCommand
  split
  · exact .rests
  · next closed =>
    have night : found.phase = .night := not_not.mp closed
    split
    · exact .rests
    · split
      · exact .rests
      · cases choice with
        | none =>
          have same : (found.lockedIn ctx player.id).course = found.course := row_course ctx fun _ => rfl
          have reported : (found.lockedIn ctx player.id).reportAt = found.reportAt := rfl
          change Deed ctx found _ [] (found.lockNight ctx player.id).course
          unfold lockNight
          dsimp only
          split
          · next reportAt known =>
            split
            · next everyone =>
              refine (Deed.hastens night (reported.symm.trans known) everyone).of_eq ?_
              rw [writeNightReports_course]
              change { (found.lockedIn ctx player.id).course with
                clock := { (found.lockedIn ctx player.id).course.clock with
                  reportAt := some ctx.now
                  phaseEndsAt := ctx.now + ((found.lockedIn ctx player.id).course.clock.phaseEndsAt - reportAt) } } = _
              rw [same]
              rfl
            · exact Deed.rests.of_eq same
          · exact Deed.rests.of_eq same
        | some =>
          simp only
          split
          · next targets =>
            refine (Deed.chooses night seated alive targets).of_eq (row_change ctx ?_)
            exact fun _ => rfl
          · exact .rests

theorem clueCommand_deed (ctx : GameContext) (player : PlayerState) (said : Bool) (act : Option Act) :
    Deed ctx found act [] (leftBy (found.clueCommand ctx player said)).course := by
  unfold clueCommand
  extract_lets isTheirs
  split
  · exact .rests
  · next closed =>
    have clue : found.phase = .clue := not_not.mp closed
    split
    · exact .rests
    · have same : (found.updatePlayer player.id fun row => { row with clueDone := isTheirs || row.clueDone }).course =
          found.course :=
        updatePlayer_course fun _ => rfl
      exact .leads rfl (by simp [clue]) (advanceClue_leads clue same)

theorem allSaid_deed (ctx : GameContext) (player : PlayerState) (act : Option Act) :
    Deed ctx found act [] (leftBy (found.allSaid ctx player)).course := by
  unfold allSaid
  extract_lets finishedBy finished
  split
  · exact .rests
  · next closed =>
    have clue : found.phase = .clue := not_not.mp closed
    split
    · exact .rests
    · exact .leads rfl (by simp [clue]) (advanceClue_leads clue rfl)

theorem declareReady_deed (ctx : GameContext) (player : PlayerState) (ready : Bool) (act : Option Act) :
    Deed ctx found act [] (leftBy (found.declareReady ctx player ready)).course := by
  unfold declareReady
  extract_lets declared here
  have same : declared.course = found.course := row_course ctx fun _ => rfl
  split
  · exact .rests
  · next closed =>
    have talks : found.phase = .deliberation := not_not.mp closed
    have talks' : declared.phase = .deliberation := (congrArg Course.phase same).trans talks
    split
    · exact .leads same (by simp [talks]) (.call talks' ⟨declared, rfl, rfl⟩)
    · exact Deed.rests.of_eq same

theorem voteCommand_deed (ctx : GameContext) (seated : found.player player.id = some player) (alive : player.alive)
    (choice : Option (Option Nat)) :
    Deed ctx found (some (.play player.id (choice.elim .lockVote .castVote)))
      (found.countsNow ctx player.id (choice.elim .lockVote .castVote))
      (leftBy (found.voteCommand ctx player choice)).course := by
  unfold voteCommand
  split
  · next closed =>
    have nothing : found.countsNow ctx player.id (choice.elim .lockVote .castVote) = [] := by
      cases choice with
      | none => exact if_neg fun counts => closed counts.1
      | some => rfl
    rw [nothing]
    exact .rests
  · next closed =>
    have votes : found.phase = .vote := not_not.mp closed
    split
    · next locked =>
      have nothing : found.countsNow ctx player.id (choice.elim .lockVote .castVote) = [] := by
        cases choice with
        | none =>
          refine if_neg fun counts => ?_
          rw [seated] at counts
          simp [locked] at counts
        | some => rfl
      rw [nothing]
      exact .rests
    · next unlocked =>
      cases choice with
      | none =>
        change Deed ctx found _ _ (if (found.votedIn ctx player.id).living.all (·.voteLocked) then
          (found.votedIn ctx player.id).resolveVote ctx ctx.now else found.votedIn ctx player.id).course
        split
        · next everyone =>
          have counted : found.countsNow ctx player.id .lockVote = [⟨ctx, found.votedIn ctx player.id, ctx.now⟩] := by
            refine if_pos ⟨votes, ?_, everyone⟩
            rw [seated]
            simp [alive, unlocked]
          rw [elim_none, counted]
          exact .counts votes
        · next waits =>
          have nothing : found.countsNow ctx player.id .lockVote = [] := if_neg fun counts => waits counts.2.2
          rw [elim_none, nothing]
          exact Deed.rests.of_eq (row_course ctx fun _ => rfl)
      | some =>
        change Deed ctx found _ [] _
        simp only
        split
        · next stands =>
          refine (Deed.casts votes stands).of_eq (row_change ctx ?_)
          exact fun _ => rfl
        · exact .rests

theorem dawn_course {dawn : Option LiarsDawn} (same : dawn.map LiarsDawn.clock = room.dawn.map LiarsDawn.clock) :
    ({ room with dawn } : LiarsRoom).course = room.course := by
  simp only [course, clock, same]
  rfl

theorem sayLastWords_deed (ctx : GameContext) (text : String) :
    Deed ctx found (some (.play player.id (.lastWords text))) [] (leftBy (found.sayLastWords ctx player text)).course := by
  unfold sayLastWords
  extract_lets words spoken
  split
  · have same : spoken.course = found.course := updatePlayer_course fun _ => rfl
    have clocks : (spoken.dawn.map fun dawn =>
        if words = "" then dawn else { dawn with lastWords := dawn.lastWords ++ [{ name := player.name, text := words }] }).map LiarsDawn.clock =
        spoken.dawn.map LiarsDawn.clock := by
      rw [Option.map_map]
      congr 1
      funext dawn
      split <;> rfl
    exact Deed.rests.of_eq ((changed_course ..).trans ((dawn_course clocks).trans same))
  · exact .rests

theorem playerCommand_deed (ctx : GameContext) (seated : found.player player.id = some player) (actionId : Nat)
    (action : LiarsPlayerAction) :
    Deed ctx found (some (.play player.id action)) (found.countsNow ctx player.id action)
      (leftBy (found.playerCommand ctx player actionId action)).course := by
  have living {act : LiarsPlayerAction} {command : Except Rejected LiarsRoom} {made : List Decision}
      (dies : player.alive = false → made = [])
      (deed : player.alive → Deed ctx found (some (.play player.id act)) made (leftBy command).course) :
      Deed ctx found (some (.play player.id act)) made (leftBy (if !player.alive then found.refuseWith .notAlive "You are dead" else command)).course := by
    cases alive : player.alive with
    | false =>
      rw [dies alive]
      exact .rests
    | true => exact deed alive
  cases action with
  | leave => exact leaveRoom_deed ctx seated
  | rename | readiness =>
    simp only [playerCommand, countsNow]
    split
    · exact .rests
    · split
      · exact .rests
      · exact Deed.rests.of_eq (row_course ctx fun _ => rfl)
  | claimHost =>
    simp only [playerCommand, countsNow]
    split
    · exact .rests
    · split
      · exact .rests
      · exact .rests
  | lastWords text => exact sayLastWords_deed ctx text
  | wish =>
    simp only [playerCommand, countsNow]
    split
    · exact .rests
    · exact Deed.rests.of_eq (row_course ctx fun _ => rfl)
  | pin | unpin =>
    simp only [playerCommand, countsNow]
    split
    · exact .rests
    · exact .rests
  | graveyardVote =>
    simp only [playerCommand, countsNow]
    split
    · exact .rests
    · next dead =>
      refine (Deed.haunts seated (by simpa using dead)).of_eq (row_change ctx ?_)
      exact fun _ => rfl
  | guess text =>
    simp only [playerCommand, countsNow]
    split
    · exact .rests
    · next may =>
      have asked : found.phase = .finalGuess := not_not.mp (not_or.mp may).1
      exact .leads rfl (by simp [asked]) (resolveFinalGuess_leads asked (some text))
  | nightSelect round targetId =>
    exact living (fun _ => rfl) fun alive => nightCommand_deed ctx seated alive round (some targetId)
  | nightLock round => exact living (fun _ => rfl) fun alive => nightCommand_deed ctx seated alive round none
  | clueSaid => exact living (fun _ => rfl) fun _ => clueCommand_deed ctx player true _
  | clueSkip => exact living (fun _ => rfl) fun _ => clueCommand_deed ctx player false _
  | clueAllSaid => exact living (fun _ => rfl) fun _ => allSaid_deed ctx player _
  | point =>
    refine living (fun _ => rfl) fun _ => ?_
    split
    · exact .rests
    · exact Deed.rests.of_eq (row_course ctx fun _ => rfl)
  | readyToVote ready => exact living (fun _ => rfl) fun _ => declareReady_deed ctx player ready _
  | castVote targetId => exact living (fun _ => rfl) fun alive => voteCommand_deed ctx seated alive (some targetId)
  | lockVote =>
    refine living (fun dead => ?_) fun alive => voteCommand_deed ctx seated alive none
    refine if_neg fun counts => ?_
    rw [seated] at counts
    simp [dead] at counts

end LiarsRoom

namespace Command
open LiarsRoom

def ctx : Command → GameContext
  | .join ctx .. | .read ctx .. | .host ctx _ | .play ctx _ => ctx

def finds : Command → LiarsRoom → LiarsRoom
  | .join .., room => room
  | .read ctx credential playerId, room => if room.authenticate credential playerId then room.attend ctx playerId false else room
  | .host ctx input, room => room.hostFinds ctx input
  | .play ctx input, room => room.playerFinds ctx input

/-- What the command asks for, where it is let in and has not been answered before. -/
def act (command : Command) (room : LiarsRoom) : Option Act :=
  match command with
  | .join ctx .. => some (.join (ctx.token room.revision 0))
  | .read .. => none
  | .host ctx input =>
    if room.mayHost input && !(room.hostFinds ctx input).processedActions.contains input.actionId then some (.host input.action) else none
  | .play ctx input =>
    if room.mayPlay input && !(room.playerFinds ctx input).processedActions.contains input.actionId then some (.play input.playerId input.action)
    else none

/-- The nights and votes that time decides before the command acts. -/
def awaited (command : Command) (room : LiarsRoom) : List Decision :=
  match command with
  | .join .. => []
  | .read ctx credential playerId => if room.authenticate credential playerId then room.awaited ctx playerId false else []
  | .host ctx input =>
    if room.mayHost input then room.awaited ctx (input.playerId.filter fun id => (room.player id).isSome) true else []
  | .play ctx input => if room.mayPlay input then room.awaited ctx (some input.playerId) true else []

/-- The vote that the command itself decides. -/
def counted (command : Command) (room : LiarsRoom) : List Decision :=
  match command.act room with
  | some (.play id action) => (command.finds room).countsNow command.ctx id action
  | some (.join _) | some (.host _) | none => []

/-- All nights and votes that are decided on the way. -/
def decisions (command : Command) (room : LiarsRoom) : List Decision := command.awaited room ++ command.counted room

theorem finds_passes (command : Command) (room : LiarsRoom) :
    Passes command.ctx room (command.awaited room) (command.finds room) := by
  cases command with
  | join => exact .rests rfl
  | read ctx credential playerId =>
    simp only [awaited, finds]
    split
    · exact attend_passes ctx room playerId false
    · exact .rests rfl
  | host ctx =>
    simp only [awaited, finds, hostFinds]
    split
    · exact attend_passes ctx room _ true
    · exact .rests rfl
  | play ctx =>
    simp only [awaited, finds, playerFinds]
    split
    · exact attend_passes ctx room _ true
    · exact .rests rfl

theorem answer_course {ctx : GameContext} (found : LiarsRoom) {viewerId : Option Nat} {actionId : Nat}
    {command : Except Rejected LiarsRoom} :
    (found.answer ctx viewerId actionId command).2.course =
      if found.processedActions.contains actionId then found.course else (leftBy command).course := by
  unfold answer
  split
  · rfl
  · cases command with
    | error => rfl
    | ok => exact rememberAction_course ..

theorem apply_deed (command : Command) (room : LiarsRoom) :
    Deed command.ctx (command.finds room) (command.act room) (command.counted room) (command.apply room).course := by
  cases command with
  | join ctx joinToken hostToken name =>
    change Deed ctx room (some (.join (ctx.token room.revision 0))) [] (room.joinLiarsRoom ctx joinToken hostToken name).2.course
    unfold joinLiarsRoom
    extract_lets taken id joined fits
    split
    · exact .rests
    · split
      · exact .rests
      · next opened =>
        have lobby : room.phase = .lobby := by simpa using (not_or.mp opened).1
        split
        · exact .rests
        · split
          · exact .rests
          · refine (Deed.joins lobby).of_eq ?_
            have rows : joined.trails = room.trails ++ [.fresh (ctx.token room.revision 0)] := map_append
            change { room.course with trails := joined.trails } = _
            rw [rows]
  | read ctx credential playerId =>
    change Deed ctx _ none [] (room.readLiarsSnapshot ctx credential playerId).2.course
    simp only [finds, readLiarsSnapshot]
    split
    · exact .rests
    · exact .rests
  | host ctx input =>
    simp only [counted, act, finds, apply, applyLiarsHostAction, hostFinds]
    by_cases allowed : room.mayHost input
    · simp only [allowed, ↓reduceIte, Bool.true_and]
      generalize room.attend ctx (input.playerId.filter fun id => (room.player id).isSome) true = found
      rw [answer_course]
      cases found.processedActions.contains input.actionId with
      | true => exact .rests
      | false => exact hostCommand_deed ctx found input.action
    · simp only [allowed, false_eq_true, ↓reduceIte, Bool.false_and]
      exact .rests
  | play ctx input =>
    simp only [counted, act, finds, apply, applyLiarsPlayerAction, playerFinds]
    by_cases allowed : room.mayPlay input
    · simp only [allowed, ↓reduceIte, Bool.true_and]
      generalize room.attend ctx (some input.playerId) true = found
      cases seated : found.player input.playerId with
      | none =>
        have nothing : found.countsNow ctx input.playerId input.action = [] := by
          cases input.action with
          | lockVote =>
            refine if_neg fun counts => ?_
            rw [seated] at counts
            exact absurd counts.2.1 Bool.false_ne_true
          | _ => rfl
        cases found.processedActions.contains input.actionId with
        | true => exact .rests
        | false =>
          change Deed ctx found _ (found.countsNow ctx input.playerId input.action) found.course
          rw [nothing]
          exact .rests
      | some =>
        obtain named := player_id seated
        rw [answer_course]
        cases found.processedActions.contains input.actionId with
        | true => exact .rests
        | false =>
          have deed := playerCommand_deed ctx (named ▸ seated) input.actionId input.action
          rw [named] at deed
          exact deed
    · simp only [allowed, false_eq_true, ↓reduceIte, Bool.false_and]
      exact .rests

end Command

end MilkAndHenny.Liars

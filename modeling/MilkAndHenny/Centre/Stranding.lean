import MilkAndHenny.Centre.Places

/-! A room never waits for players who are all ready to go on, for as long as the last one that
it waits for does not leave. -/

namespace MilkAndHenny.Centre
open Library Multiplayer

variable {ctx : GameContext} {room after : CentreRoom} {entranceIndex : Nat}

namespace CentreRoom

def stranded (room : CentreRoom) : Bool :=
  room.phase == .arming && room.activePlayers.all (·.armed) || room.phase == .racing && room.activePlayers.all (·.through)

def strandedBy (room : CentreRoom) (playerId : Nat) : Bool :=
  let others := room.activePlayers.eraseP (·.id == playerId)
  !others.isEmpty &&
    (room.phase == .arming && others.all (·.armed) || room.phase == .racing && others.all (·.through))

end CentreRoom

def Deed.strands (room : CentreRoom) : Deed → Bool
  | .leave playerId => room.strandedBy playerId
  | _ => false

/-- What holds of a room after every command. -/
structure Rolling (room : CentreRoom) : Prop where
  course : room.phase = .arming ∨ room.phase = .countdown ∨ room.phase = .racing →
    ∃ course, room.course = some course ∧ course.firstFinishAt = none
  fresh : room.phase = .arming ∨ room.phase = .countdown →
    room.activePlayers ≠ [] ∧ ∀ through ∈ room.activePlayers.map (·.through), through = false

structure Going (room : CentreRoom) : Prop extends Rolling room where
  unstranded : room.stranded = false

section
variable {player : PlayerState} {now : Int} {course : CourseState} {route : CentreRoute}

theorem active_column {β : Type} {r : PlayerState → PlayerState → Prop} (pairs : Forall₂ r room.players after.players) {k : PlayerState → β}
    (same : ∀ row other, r row other → other.withdrawn = row.withdrawn ∧ k other = k row) :
    after.activePlayers.map k = room.activePlayers.map k := by
  have columns (room : CentreRoom) : room.activePlayers.map k =
      ((room.players.map fun row => (row.withdrawn, k row)).filter (!·.1)).map Prod.snd := by
    simp [CentreRoom.activePlayers, filter_map, Function.comp_def]
  have rows : room.players.map (fun row => (row.withdrawn, k row)) = after.players.map fun row => (row.withdrawn, k row) :=
    map_pairs pairs fun row other pair => by rw [(same row other pair).1, (same row other pair).2]
  rw [columns, columns, rows]

theorem Going.elsewhere (elsewhere : room.phase ≠ .arming ∧ room.phase ≠ .countdown ∧ room.phase ≠ .racing) : Going room where
  course waits := by
    rcases waits with waits | waits | waits
    · exact absurd waits elsewhere.1
    · exact absurd waits elsewhere.2.1
    · exact absurd waits elsewhere.2.2
  fresh waits := by
    rcases waits with waits | waits
    · exact absurd waits elsewhere.1
    · exact absurd waits elsewhere.2.1
  unstranded := by simp [CentreRoom.stranded, elsewhere.1, elsewhere.2.2]

theorem Rolling.same (rolling : Rolling room) (phase : after.phase = room.phase) (course : after.course = room.course)
    (through : after.activePlayers.map (·.through) = room.activePlayers.map (·.through)) : Rolling after where
  course := phase ▸ course ▸ rolling.course
  fresh waits := by
    obtain ⟨some, running⟩ := rolling.fresh (phase ▸ waits)
    refine ⟨fun none => some ?_, through ▸ running⟩
    rw [none] at through
    exact map_eq_nil_iff.mp through.symm

theorem Mild.rolling (mild : Mild room after) (rolling : Rolling room) : Rolling after := by
  refine rolling.same mild.phase mild.course (active_column mild.rows fun row other alike => ⟨alike.gone, ?_⟩)
  simp [PlayerState.through, alike.race]

theorem Mild.stranded (mild : Mild room after) : after.stranded = room.stranded := by
  have armed : after.activePlayers.map (·.armed) = room.activePlayers.map (·.armed) :=
    active_column mild.rows fun row other alike => ⟨alike.gone, by rw [alike.race]⟩
  have through : after.activePlayers.map (·.through) = room.activePlayers.map (·.through) :=
    active_column mild.rows fun row other alike => ⟨alike.gone, by simp [PlayerState.through, alike.race]⟩
  have allArmed : after.activePlayers.all (·.armed) = room.activePlayers.all (·.armed) := by
    simpa using congrArg (List.all · id) armed
  have allThrough : after.activePlayers.all (·.through) = room.activePlayers.all (·.through) := by
    simpa using congrArg (List.all · id) through
  simp [CentreRoom.stranded, mild.phase, allArmed, allThrough]

theorem running_going (counted : room.phase = .countdown) (rolling : Rolling room) :
    Going (CentreRoom.changed { room with phase := .racing } now) := by
  obtain ⟨some, running⟩ := rolling.fresh (.inr counted)
  obtain ⟨player, rest, split⟩ := List.exists_cons_of_ne_nil some
  refine ⟨⟨fun _ => rolling.course (.inr (.inl counted)), fun waits => ?_⟩, ?_⟩
  · rcases waits with waits | waits <;> cases waits
  · have first : player.through = false := running _ (mem_map_of_mem (split ▸ mem_cons_self ..))
    have waits : room.activePlayers.all (·.through) = false := by simp [split, first]
    exact waits

theorem arm_going {armed : Bool} (waiting : room.phase = .arming) (rolling : Rolling room) :
    Going (room.arm player armed now) := by
  unfold CentreRoom.arm
  extract_lets set
  have same : set.phase = room.phase ∧ set.course = room.course ∧
      set.activePlayers.map (·.through) = room.activePlayers.map (·.through) := by
    simp only [set]
    split
    · exact ⟨rfl, rfl, rfl⟩
    · have rows : Forall₂ (fun row other : PlayerState => other.withdrawn = row.withdrawn ∧ other.through = row.through) room.players
          (updateFirst room.players (·.id == player.id) fun row => { row with armed }) :=
        forall₂_updateFirst (fun row => ⟨rfl, rfl⟩) fun row _ => ⟨rfl, rfl⟩
      exact ⟨rfl, rfl, @active_column room (room.updatePlayer player.id fun row => { row with armed }) _ _ rows _ fun _ _ pair => pair⟩
  have rolling : Rolling set := rolling.same same.1 same.2.1 same.2.2
  have waiting : set.phase = .arming := same.1.trans waiting
  clear_value set
  obtain ⟨course, isCourse, unfinished⟩ := rolling.course (.inl waiting)
  rw [isCourse, filter_some]
  cases all : set.activePlayers.all (·.armed) with
  | false => exact ⟨rolling, by simp [CentreRoom.stranded, waiting, all]⟩
  | true =>
    refine ⟨⟨fun _ => ⟨_, rfl, unfinished⟩, fun _ => rolling.fresh (.inl waiting)⟩, ?_⟩
    rfl

theorem retire_going {courseHash : Nat}
    (raced : room.phase = .racing ∨ room.phase = .finishing ∨ room.phase = .finished) (rolling : Rolling room) :
    Going (room.retire ctx player course entranceIndex courseHash route now) := by
  have begun : ¬ (room.phase = .arming ∨ room.phase = .countdown) := by
    rintro (waits | waits) <;> simp [waits] at raced
  unfold CentreRoom.retire
  extract_lets traced kept out saved
  split
  · exact .elsewhere (by simp)
  · next waits =>
    refine ⟨⟨rolling.course, fun waits => absurd waits begun⟩, ?_⟩
    have running : room.phase ≠ .arming := fun waits => begun (.inl waits)
    have unready : saved.activePlayers.all (·.through) = false := eq_false_iff.mpr waits
    change (room.phase == .arming && _ || room.phase == .racing && saved.activePlayers.all (·.through)) = false
    rw [unready, beq_false_of_ne running, Bool.false_and, Bool.and_false, Bool.or_false]

theorem finish_going {elapsedMs now : Int}
    (raced : room.phase = .racing ∨ room.phase = .finishing) (on : room.course = some course) (rolling : Rolling room) :
    Going (room.finish player course entranceIndex route elapsedMs now) := by
  have finishing : (room.finish player course entranceIndex route elapsedMs now).phase = .finishing := by
    unfold CentreRoom.finish
    extract_lets timed closing
    simp only [CentreRoom.saveReplay, closing, CentreRoom.changed_phase]
    split
    · next closed =>
      rcases raced with racing | finishing
      · obtain ⟨known, isCourse, unfinished⟩ := rolling.course (.inr (.inr racing))
        obtain rfl : known = course := some.inj (isCourse.symm.trans on)
        simp [unfinished] at closed
      · exact finishing
    · rfl
  exact .elsewhere (by simp [finishing])

theorem started_going {now : Int} {player : PlayerState} (mem : player ∈ room.players) (active : player.withdrawn = false) :
    Going (room.startCourse ctx now) := by
  have rows := lineUp_rows room.gameNumber room.activePlayers.length 0 room.players
  obtain ⟨first, listed, lined⟩ := mem_pairs rows.flip mem
  have present : first ∈ (room.startCourse ctx now).activePlayers :=
    CentreRoom.mem_activePlayers.mpr ⟨listed, lined.gone.trans active⟩
  have fresh : ∀ row ∈ (room.startCourse ctx now).activePlayers, row.armed = false ∧ row.through = false := by
    intro row mem
    obtain ⟨listed, here⟩ := CentreRoom.mem_activePlayers.mp mem
    obtain ⟨old, -, lined⟩ := mem_pairs rows listed
    obtain ⟨unarmed, -, untimed, running⟩ := lined.fresh (lined.gone.symm.trans here)
    exact ⟨unarmed, by simp [PlayerState.through, untimed, running]⟩
  refine ⟨⟨fun _ => ⟨_, rfl, rfl⟩, fun _ => ⟨ne_nil_of_mem present, ?_⟩⟩, ?_⟩
  · intro through listed
    obtain ⟨row, mem, rfl⟩ := mem_map.mp listed
    exact (fresh row mem).2
  · have waits : (room.startCourse ctx now).activePlayers.all (·.armed) = false := by
      rw [List.all_eq_false]
      exact ⟨first, present, by simp [(fresh first present).1]⟩
    have racing : (room.startCourse ctx now).phase = .arming := rfl
    simp [CentreRoom.stranded, racing, waits]

theorem leave_active {player : PlayerState} {now : Int} (found : room.player player.id = some player) (active : player.withdrawn = false) :
    (room.leave player.id now).activePlayers = room.activePlayers.eraseP (·.id == player.id) := by
  obtain ⟨host, handed⟩ := @transferHost_eq room player.id now
  have dropped := @filter_updateFirst _ room.players (·.id == player.id) (fun row => { row with withdrawn := true }) (!·.withdrawn)
    (fun row => rfl) player found (by simp [active])
  unfold CentreRoom.leave
  rw [handed]
  extract_lets gone
  split <;> exact dropped

theorem leave_phase {player : PlayerState} {now : Int} (found : room.player player.id = some player) (active : player.withdrawn = false) :
    (room.leave player.id now).course = room.course ∧ (room.leave player.id now).phase =
      if (room.activePlayers.eraseP (·.id == player.id)).isEmpty then .closed else room.phase := by
  have left := @leave_active room player now found active
  obtain ⟨host, handed⟩ := @transferHost_eq room player.id now
  unfold CentreRoom.leave at left ⊢
  rw [handed] at left ⊢
  extract_lets gone at left
  extract_lets at ⊢
  have others : gone.activePlayers = room.activePlayers.eraseP (·.id == player.id) := by
    rw [← left]
    split <;> rfl
  rw [← others]
  split
  · exact ⟨rfl, rfl⟩
  · exact ⟨rfl, rfl⟩

theorem leave_going (found : room.player player.id = some player) (active : player.withdrawn = false)
    (rolling : Rolling room) :
    Rolling (room.leave player.id now) ∧ (room.leave player.id now).stranded = room.strandedBy player.id := by
  obtain ⟨course, phase⟩ := @leave_phase room player now found active
  have left := @leave_active room player now found active
  unfold CentreRoom.strandedBy
  extract_lets others
  cases emptied : others.isEmpty with
  | true =>
    rw [if_pos emptied] at phase
    exact ⟨(Going.elsewhere (by simp [phase])).toRolling, by simp [CentreRoom.stranded, phase]⟩
  | false =>
    rw [if_neg (eq_false_iff.mp emptied)] at phase
    refine ⟨⟨phase ▸ course ▸ rolling.course, fun waits => ?_⟩, by simp [CentreRoom.stranded, phase, left, others]⟩
    obtain ⟨-, running⟩ := rolling.fresh (phase ▸ waits)
    rw [left]
    refine ⟨fun none => by simp [others, none] at emptied, fun through listed => ?_⟩
    obtain ⟨row, mem, rfl⟩ := mem_map.mp listed
    exact running _ (mem_map_of_mem (List.mem_of_mem_eraseP mem))

end

section
variable {deed : Deed}

theorem Move.going (move : Move ctx room deed after) (stays : deed.isLeave = false) (going : Going room) : Going after := by
  cases move with
  | mild mild => exact ⟨mild.rolling going.toRolling, mild.stranded.trans going.unstranded⟩
  | running counted => exact running_going counted going.toRolling
  | stopped => exact .elsewhere (by simp)
  | seat lobby => exact .elsewhere (by simp [CentreRoom.seat, lobby])
  | arm waiting => exact arm_going waiting going.toRolling
  | retire raced => exact retire_going raced going.toRolling
  | leave => cases stays
  | finish found active untimed raced on => exact finish_going raced on going.toRolling
  | @start player removePlayerIds lobby found active =>
    have listed : player ∈ (room.removeUnready player.id removePlayerIds).players := by
      have listed : player ∈ room.players := mem_of_find?_eq_some found
      unfold CentreRoom.removeUnready
      split
      · exact listed
      · exact mem_filter.mpr ⟨listed, by simp [CentreRoom.keepsSeat]⟩
    exact started_going listed active
  | @replay player finished found active => exact @started_going ctx room.nextGame ctx.now player (mem_of_find?_eq_some found) active
  | lobby => exact .elsewhere (by simp [CentreRoom.toLobby])

theorem Calm.going (calm : Calm ctx room after) (going : Going room) : Going after := by
  induction calm with
  | refl => exact going
  | tail _ move ih => exact move.going rfl ih

theorem command_going {command : Command} (rolling : Rolling room) (unstranded : room.stranded = false) (draws : command.DrawsNewId room) :
    Rolling (command.apply room) ∧ ((command.apply room).stranded = false ↔ (command.deed room).strands room = false) := by
  have going : Going room := ⟨rolling, unstranded⟩
  obtain @⟨found, left, before, move, rest, leaves⟩ := Command.played draws
  cases deeds : (command.deed room).isLeave with
  | false =>
    have after := rest.going (move.going deeds (before.going going))
    refine ⟨after.toRolling, fun _ => ?_, fun _ => after.unstranded⟩
    cases deed : command.deed room with
    | leave => simp [deed, Deed.isLeave] at deeds
    | _ => rfl
  | true =>
    obtain ⟨rfl, mild⟩ := leaves deeds
    generalize command.deed found = deed at move deeds
    cases move with
    | @leave player isPlayer active =>
      obtain ⟨gone, exactly⟩ := leave_going isPlayer active rolling
      refine ⟨mild.rolling gone, ?_⟩
      rw [mild.stranded, exactly]
      rfl
    | _ => cases deeds

theorem created_going (ctx : GameContext) (input : CreateInput) : Going (createCentreRoom ctx input) :=
  .elsewhere (by simp [createCentreRoom])

end

/-- In every run of a room, it never waits where everyone in it is armed or has run the race, exactly where
nobody leaves who is the only one whom the others are waiting for. -/
theorem races_goOn {ctx : GameContext} {input : CreateInput} {commands : List Command}
    (draws : EachStep Command.apply Command.DrawsNewId (createCentreRoom ctx input) commands) :
    Throughout Command.apply (·.stranded = false) (createCentreRoom ctx input) commands ↔
      EachStep Command.apply (fun command room => (command.deed room).strands room = false) (createCentreRoom ctx input) commands := by
  have going := created_going ctx input
  exact @throughout_iff_within CentreRoom Command Command.apply (·.stranded = false)
    (fun command room => (command.deed room).strands room = false) Rolling Command.DrawsNewId command_going
    (createCentreRoom ctx input) commands going.toRolling going.unstranded draws

def bobWaits : List Command := [.joinAs "Bob" 1, .by 0 2 1 (.start []), .by 1 3 2 (.arming true), .by 0 4 3 .leave]

def bobRetires : List Command :=
  [.joinAs "Bob" 1, .by 0 2 1 (.start []), .by 0 3 2 (.arming true), .by 1 3 3 (.arming true),
    .by 1 9000 4 (.retire 0 { segments := [], wallHits := 0 }), .by 0 9500 5 .leave]

def bobGoesOn : List Command := [.joinAs "Bob" 1, .by 0 2 1 (.start []), .by 0 4 2 .leave, .by 1 5 3 (.arming true)]

theorem races_goOn_bobGoesOn : Throughout Command.apply (·.stranded = false) annsRoom bobGoesOn :=
  (races_goOn (by decide +kernel)).mpr (by decide +kernel)

theorem leaver_strands : (¬ Throughout Command.apply (·.stranded = false) annsRoom bobWaits) ∧
    ¬ Throughout Command.apply (·.stranded = false) annsRoom bobRetires := by
  constructor
  · intro goesOn
    exact absurd goesOn.last (by decide +kernel)
  · intro goesOn
    exact absurd goesOn.last (by decide +kernel)

end MilkAndHenny.Centre

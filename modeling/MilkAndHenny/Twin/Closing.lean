import MilkAndHenny.Twin.Playable

/-! When a heat is closed before its time: how those who landed are counted against those who
are still hunting. -/

namespace MilkAndHenny.Twin
open Library Multiplayer

def PlayerState.hasLanded (heat : HeatState) (player : PlayerState) : Bool := player.heatId == some heat.id && player.landedMs.isSome

def PlayerState.contends (now : Int) (player : PlayerState) : Bool := !player.withdrawn && player.connected now && !player.hand.isEmpty

structure Drive where
  ctx : GameContext
  room : TwinRoom
  now : Int

namespace Drive

def after (drive : Drive) : TwinRoom := drive.room.advance drive.ctx drive.now

/-- The heat that is being played, before its deadline and before the end of its grace. -/
structure Open (drive : Drive) (heat : HeatState) : Prop where
  live : drive.room.liveHeat = some heat
  unresolved : heat.resolvedAt = none
  early : drive.now < heat.deadlineAt
  grace : ∀ graceEndsAt ∈ heat.graceEndsAt, drive.now < graceEndsAt

instance (drive : Drive) (heat : HeatState) : Decidable (drive.Open heat) :=
  decidable_of_iff (drive.room.liveHeat = some heat ∧ heat.resolvedAt = none ∧ drive.now < heat.deadlineAt ∧
    ∀ graceEndsAt ∈ heat.graceEndsAt, drive.now < graceEndsAt)
    ⟨fun ⟨live, unresolved, early, grace⟩ => ⟨live, unresolved, early, grace⟩,
      fun open_ => ⟨open_.live, open_.unresolved, open_.early, open_.grace⟩⟩

def closes (drive : Drive) : Bool := drive.after.heat.any (·.resolvedAt == some drive.now)

/-- Nobody who is still hunting is cut short. -/
def Fair (drive : Drive) : Prop :=
  ∀ heat ∈ drive.room.heat, drive.Open heat → drive.closes → ∀ player ∈ drive.room.players, player.contends drive.now → player.hasLanded heat

/-- Those who landed and have withdrawn or lost connection since are fewer than those who are still hunting. -/
def Covered (drive : Drive) : Prop :=
  ∀ heat ∈ drive.room.heat, drive.Open heat → heat.revealAt ≤ drive.now →
    drive.room.players.countP (fun player => player.contends drive.now && !player.hasLanded heat) = 0 ∨
    drive.room.players.countP (fun player => player.hasLanded heat && !player.contends drive.now) <
      drive.room.players.countP fun player => player.contends drive.now && !player.hasLanded heat

instance (drive : Drive) : Decidable drive.Fair :=
  inferInstanceAs (Decidable (∀ heat ∈ drive.room.heat, drive.Open heat → drive.closes →
    ∀ player ∈ drive.room.players, player.contends drive.now → player.hasLanded heat))

end Drive

/-- Every room whose clock a command drives on: the one that it finds, with its player seen, and
the one that a tap or `heat.next` leaves. -/
def Command.drives : Command → TwinRoom → List Drive
  | .join ctx _, room => [⟨ctx, room, ctx.clock⟩]
  | .read ctx input, room =>
    (room.validPlayer input.playerId input.playerToken).toList.map fun player =>
      ⟨ctx, room.updatePlayer player.id fun row => { row with lastSeenAt := touchMultiplayerPresence row.lastSeenAt ctx.clock false }, ctx.clock⟩
  | .act ctx input, room =>
    match room.authenticatedPlayer input.playerId input.playerToken with
    | none => []
    | some player =>
      if room.processedActions.contains (input.actionId.getD ctx.newId) ∨ player.withdrawn ∨ input.action = .leave then []
      else
        let attended := room.attend ctx player.id
        let after := (attended.player player.id).toList.flatMap fun player =>
          if (attended.refusal ctx player input.action).isSome then []
          else match input.action with
            | .tap _ symbolId elapsedMs => if attended.expectedSymbol player = some symbolId then [attended.land ctx player.id elapsedMs] else []
            | .nextHeat => [{ attended with heat := attended.heat.map fun heat => { heat with nextHeatAt := some ctx.now } }]
            | _ => []
        ⟨ctx, room.updatePlayer player.id fun row => { row with lastSeenAt := ctx.now }, ctx.now⟩ ::
          after.map fun room => ⟨ctx, room, ctx.now⟩

namespace TwinRoom
variable {ctx : GameContext} {room : TwinRoom} {heat : HeatState} {now : Int}

def Unresolved (room : TwinRoom) : Prop := ∀ heat ∈ room.heat, heat.resolvedAt = none

theorem Unresolved.startHeat (unresolved : room.Unresolved) : (room.startHeat ctx now).Unresolved := by
  unfold TwinRoom.startHeat
  cases room.middle with
  | none => exact unresolved
  | some =>
    rintro heat ⟨⟩
    rfl

theorem Unresolved.settleHeat (unresolved : room.Unresolved) : (room.settleHeat ctx now).Unresolved := by
  unfold TwinRoom.settleHeat
  split
  · exact unresolved
  · next heat found =>
    rintro after ⟨⟩
    exact unresolved heat (filter_eq_some_iff.mp found).1

theorem Unresolved.advanceSettle (unresolved : room.Unresolved) : (room.advanceSettle ctx now).Unresolved := by
  unfold TwinRoom.advanceSettle
  split
  · split
    · exact unresolved
    · exact unresolved.startHeat
  · exact unresolved

theorem closeHeat_cases (live : room.liveHeat = some heat) (unresolved : heat.resolvedAt = none) :
    ((heat.revealAt ≤ now ∧ twinHeatShouldClose (room.heatProgress heat now) now) ∧ (room.closeHeat ctx now).phase = .heat ∧
      (room.closeHeat ctx now).heat = some { heat with resolvedAt := some now, settleAt := some (now + settleDelayMs) }) ∨
    ¬ (heat.revealAt ≤ now ∧ twinHeatShouldClose (room.heatProgress heat now) now) ∧ room.closeHeat ctx now = room := by
  unfold closeHeat
  rw [live]
  simp only [unresolved, true_and]
  split
  · next closes => exact .inl ⟨closes, (liveHeat_eq_some live).2, rfl⟩
  · next goes => exact .inr ⟨goes, rfl⟩

theorem closes_iff (live : room.liveHeat = some heat) (unresolved : heat.resolvedAt = none) :
    (room.advance ctx now).heat.any (·.resolvedAt == some now) ↔
      heat.revealAt ≤ now ∧ twinHeatShouldClose (room.heatProgress heat now) now := by
  obtain ⟨current, playing⟩ := liveHeat_eq_some live
  have first : room.advanceDealing ctx now = room := if_neg fun due => by simp [playing] at due
  have cases_ := @closeHeat_cases ctx room heat now live unresolved
  unfold advance advanceHeat
  rw [first]
  generalize room.closeHeat ctx now = closed at cases_
  obtain ⟨closes, phase, resolved⟩ | ⟨goes, rfl⟩ := cases_
  · have live' : closed.liveHeat.bind (·.settleAt) = some (now + settleDelayMs) := by
      unfold liveHeat
      rw [resolved, Option.filter_some_pos (by simp [phase])]
      rfl
    have waits : ¬ (now + settleDelayMs ≤ now) := Int.not_le.mpr (Int.lt_add_of_pos_right now (by decide))
    dsimp only
    rw [live', if_neg (by simpa using waits), advanceSettle, if_neg fun due => by simp [phase] at due, resolved]
    exact iff_of_true (by simp) closes
  · have open_ : closed.Unresolved := fun other found => some.inj (current.symm.trans found) ▸ unresolved
    have still : (advanceSettle ctx (if (closed.liveHeat.bind (·.settleAt)).any (· ≤ now) then closed.settleHeat ctx now else closed) now).Unresolved := by
      split
      · exact open_.settleHeat.advanceSettle
      · exact open_.advanceSettle
    refine iff_of_false (fun resolved => ?_) goes
    obtain ⟨other, found, resolved⟩ := (Option.any_eq_true _ _).mp resolved
    simp [still other found] at resolved

theorem contenders_eq : (room.heatProgress heat now).contenders = room.players.countP (·.contends now) := by
  simp only [heatProgress, connectedPlayers, activePlayers, countP_filter]
  refine countP_congr fun player _ => ?_
  simp only [PlayerState.contends, and_eq_true]
  tauto

theorem shouldClose_iff (early : now < heat.deadlineAt) (grace : ∀ graceEndsAt ∈ heat.graceEndsAt, now < graceEndsAt) :
    twinHeatShouldClose (room.heatProgress heat now) now ↔
      0 < room.players.countP (·.contends now) ∧ room.players.countP (·.contends now) ≤ room.players.countP (·.hasLanded heat) := by
  have waits : heat.graceEndsAt.any (· ≤ now) = false := by
    cases ends : heat.graceEndsAt with
    | none => rfl
    | some graceEndsAt => simpa using grace graceEndsAt ends
  have landed : (room.heatProgress heat now).landed = room.players.countP (·.hasLanded heat) := rfl
  unfold twinHeatShouldClose
  rw [contenders_eq, landed]
  simp [heatProgress, waits, Int.not_le.mpr early]

end TwinRoom

namespace Drive

theorem countP_le_iff {α : Type} (p q : α → Bool) (rows : List α) : rows.countP p ≤ rows.countP q ↔
    rows.countP (fun row => p row && !q row) ≤ rows.countP fun row => q row && !p row := by
  have parted (p q : α → Bool) : rows.countP p = rows.countP (fun row => p row && q row) + rows.countP fun row => p row && !q row := by
    rw [List.countP_eq_countP_filter_add _ p q, countP_filter, countP_filter]
  have both : rows.countP (fun row => p row && q row) = rows.countP fun row => q row && p row :=
    countP_congr fun row _ => by rw [Bool.and_comm]
  have first := parted p q
  have second := parted q p
  omega

theorem fair_iff (drive : Drive) : drive.Fair ↔ drive.Covered := by
  refine forall₂_congr fun heat _ => forall_congr' fun open_ => ?_
  have closes : drive.closes ↔ _ := TwinRoom.closes_iff open_.live open_.unresolved
  rw [closes, TwinRoom.shouldClose_iff open_.early open_.grace]
  have hunting : (∀ player ∈ drive.room.players, player.contends drive.now → player.hasLanded heat) ↔
      drive.room.players.countP (fun player => player.contends drive.now && !player.hasLanded heat) = 0 := by
    simp [countP_eq_zero]
  have fewer := countP_le_iff (fun player => player.contends drive.now) (fun player => player.hasLanded heat) drive.room.players
  have some_ : drive.room.players.countP (fun player => player.contends drive.now && !player.hasLanded heat) ≤
      drive.room.players.countP (·.contends drive.now) := countP_mono_left fun player _ both => (and_eq_true_iff.mp both).1
  rw [hunting, fewer]
  constructor
  · intro fair revealed
    by_contra cut
    omega
  · rintro covered ⟨revealed, contended, enough⟩
    omega

end Drive

section
variable {ctx : GameContext} {room : TwinRoom}

theorem join_drives (input : JoinInput) :
    ((Command.join ctx input).drives room).map (fun drive => (drive.after.join ctx input).2) = [(Command.join ctx input).apply room] := rfl

theorem read_drives (input : ReadInput) :
    (((Command.read ctx input).drives room).map Drive.after).getLastD room = (Command.read ctx input).apply room := by
  cases valid : room.validPlayer input.playerId input.playerToken with
  | none | some => simp [Command.drives, Command.apply, TwinRoom.readTwinSnapshot, valid, Drive.after]

/-- The action is carried out on what the first drive leaves, and leaves what the second one does. -/
theorem act_drives {input : ActionInput} {player : PlayerState} {first : Drive} {rest : List Drive}
    (found : room.authenticatedPlayer input.playerId input.playerToken = some player) (driven : (Command.act ctx input).drives room = first :: rest) :
    first.after = room.attend ctx player.id ∧
      ∀ last ∈ rest, (Command.act ctx input).apply room = last.after.rememberAction (input.actionId.getD ctx.newId) := by
  simp only [Command.drives, found] at driven
  split at driven
  · cases driven
  · next stays =>
    obtain ⟨rfl, rfl⟩ := List.cons.inj driven
    simp only [not_or] at stays
    refine ⟨rfl, fun last mem => ?_⟩
    obtain ⟨played, made, rfl⟩ := mem_map.mp mem
    obtain ⟨attended, seen, made⟩ := mem_flatMap.mp made
    simp only [Command.apply, TwinRoom.applyTwinAction, found, stays, Option.mem_toList.mp seen, TwinRoom.command]
    cases refused : (room.attend ctx player.id).refusal ctx attended input.action with
    | some => simp [refused] at made
    | none =>
      cases acted : input.action with
      | tap _ symbolId elapsedMs =>
        by_cases right : (room.attend ctx player.id).expectedSymbol attended = some symbolId
        · simp_all [TwinRoom.carryOut, TwinRoom.conclude, Drive.after]
        · simp_all
      | nextHeat => simp_all [TwinRoom.carryOut, TwinRoom.conclude, TwinRoom.hurry, Drive.after]
      | _ => simp_all

end

/-- In every run a heat is closed before its deadline and its grace only when everyone who contends has landed,
exactly where those who landed and went never stand in for those who hunt. -/
theorem heats_closed_iff (ctx : GameContext) (input : CreateInput) (commands : List Command) :
    EachStep Command.apply (fun command room => ∀ drive ∈ command.drives room, drive.Fair) (createTwinRoom ctx input) commands ↔
      EachStep Command.apply (fun command room => ∀ drive ∈ command.drives room, drive.Covered) (createTwinRoom ctx input) commands := by
  simp [Drive.fair_iff]

/-- Ann finds it and leaves; the heat closes at once on Bob, who holds cards and has most of his grace left. -/
theorem heats_closed_annLeft : ¬ ∀ (ctx : GameContext) (input : CreateInput) (commands : List Command),
    EachStep Command.apply (fun command room => ∀ drive ∈ command.drives room, drive.Fair) (createTwinRoom ctx input) commands := by
  intro fair
  have cut := fair (.plain 1) annsTable (annAndBob ++ [.by 0 2400 2 (.tap 3 "capsule" 247), .by 0 2401 3 .leave, .readBy 1 2402])
  revert cut
  decide +kernel

end MilkAndHenny.Twin

import MilkAndHenny.Liars.Frames

/-! The deal. A lineup that passes has a card for every player, and the shuffle and its
repairs hand out exactly those cards; a start looks at the lineup first, a replay does not. -/

namespace MilkAndHenny.Liars
variable {playerIds : List Nat} {previous : Nat → Option LiarsRole} {lineup : LiarsLineup} {α : Type}
open Library

def LiarsLineup.cards (lineup : LiarsLineup) : List LiarsRole :=
  lineup.entries.flatMap fun (role, count) => List.replicate count role

theorem LiarsLineup.length_cards (lineup : LiarsLineup) : lineup.cards.length = lineup.total := by
  simp [cards, total]

theorem shuffle_perm (pick : Nat → Nat) (items : List α) : (shuffle pick items).Perm items := Library.shuffle_perm _ items

def Deals (cards : List LiarsRole) (playerIds : List Nat) (dealt : Nat → Option LiarsRole) : Prop :=
  (playerIds.map dealt).Perm (cards.map some)

theorem repairDeal_deals {cards : List LiarsRole}
    {dealt : Nat → Option LiarsRole} {playerId : Nat} (unique : playerIds.Nodup) (seated : playerId ∈ playerIds)
    (deals : Deals cards playerIds dealt) : Deals cards playerIds (repairDeal previous playerIds dealt playerId) := by
  unfold repairDeal
  split
  · exact deals
  · split
    · exact deals
    · next partner found => exact (map_exchange_perm unique seated (mem_of_find?_eq_some found) dealt).trans deals

theorem repairs_deal {cards : List LiarsRole}
    (unique : playerIds.Nodup) {repaired : List Nat} (seated : ∀ id ∈ repaired, id ∈ playerIds) {dealt : Nat → Option LiarsRole}
    (deals : Deals cards playerIds dealt) : Deals cards playerIds (repaired.foldl (repairDeal previous playerIds) dealt) := by
  induction repaired generalizing dealt with
  | nil => exact deals
  | cons id repaired ih =>
    refine ih (fun other mem => seated other (mem_cons_of_mem id mem)) ?_
    exact repairDeal_deals unique (seated id (mem_cons_self ..)) deals

theorem liarsDealRoles_deals (unique : playerIds.Nodup)
    (counted : lineup.total = playerIds.length) (previousRoles : Option (Nat → Option LiarsRole)) (pick : Nat → Nat) :
    Deals lineup.cards playerIds (liarsDealRoles lineup playerIds previousRoles pick) := by
  have shuffled := shuffle_perm pick lineup.cards
  have dealt : Deals lineup.cards playerIds fun id => (playerIds.zip (shuffle pick lineup.cards)).lookup id := by
    have same : playerIds.length = (shuffle pick lineup.cards).length := by
      rw [shuffled.length_eq, lineup.length_cards, counted]
    unfold Deals
    rw [map_lookup_zip unique same]
    exact shuffled.map some
  cases previousRoles with
  | none => exact dealt
  | some => exact repairs_deal unique (fun _ => id) dealt

theorem total_of_valid {mode : LiarsMode} {playerCount : Nat}
    (valid : liarsValidateLineup mode lineup playerCount = none) : lineup.total = playerCount := by
  by_contra mismatch
  simp [liarsValidateLineup, mismatch] at valid

theorem standardLineup_valid {room : LiarsRoom} (seats : room.players.length ≤ 16) :
    liarsValidateLineup room.mode room.standardLineup room.players.length = none ↔
      (liarsPlayerLimits room.mode).min ≤ room.players.length := by
  have checked : ∀ playerCount ≤ 16, ∀ mode ∈ [LiarsMode.mafia, .imposter],
      (liarsValidateLineup mode (liarsFirstGameLineup mode playerCount) playerCount = none ↔
        (liarsPlayerLimits mode).min ≤ playerCount) ∧
      (liarsValidateLineup mode (liarsDefaultLineup mode playerCount) playerCount = none ↔
        (liarsPlayerLimits mode).min ≤ playerCount) := by decide +kernel
  have listed : room.mode ∈ [LiarsMode.mafia, .imposter] := by cases room.mode <;> simp
  unfold LiarsRoom.standardLineup
  split
  · exact (checked _ seats _ listed).1
  · exact (checked _ seats _ listed).2

namespace LiarsRoom
variable {ctx : GameContext} {room before : LiarsRoom} {now : Int} {after : LiarsRoom} {actionId : Nat} {viewerId : Option Nat} {removed : List Nat} {leavingId : Nat}

/-- Who sits at the table, once each and no more than the table has seats. -/
structure Seated (room : LiarsRoom) : Prop where
  unique : (room.players.map (·.id)).Nodup
  seats : room.players.length ≤ 16

/-- A room in the deal has a lineup that passes for its players, and they hold exactly its roles. -/
def DealtWell (room : LiarsRoom) : Prop :=
  room.phase = .deal → liarsValidateLineup room.mode room.lineup room.players.length = none ∧
    (room.players.map (·.role)).Perm (room.lineup.cards.map some)

def dealtTo (player : PlayerState) : Nat × Option LiarsRole := (player.id, player.role)

/-- Nobody sits down and nothing is dealt. -/
structure Undealt (before after : LiarsRoom) : Prop where
  seats : (after.players.map (·.id)).Sublist (before.players.map (·.id))
  deal : after.phase = .deal → Keeps dealtTo before after

theorem Keeps.undealt (kept : Keeps dealtTo before after) : Undealt before after where
  seats := (kept.through Prod.fst).players ▸ List.Sublist.refl _
  deal _ := kept

theorem Keeps.dealt {after : LiarsRoom} (kept : Keeps place before after) : Keeps dealtTo before after :=
  kept.through fun place => (place.1, place.2.1)

theorem Undealt.seated (undealt : Undealt before after) (seated : Seated before) : Seated after where
  unique := seated.unique.sublist undealt.seats
  seats := by
    have fewer := undealt.seats.length_le
    rw [length_map, length_map] at fewer
    exact fewer.trans seated.seats

theorem Undealt.dealtWell (undealt : Undealt before after) (well : DealtWell before) : DealtWell after := by
  intro deal
  have kept := undealt.deal deal
  obtain ⟨valid, dealt⟩ := well (kept.deal deal)
  have roles : after.players.map (·.role) = before.players.map (·.role) := (kept.through Prod.snd).players
  have seats : after.players.length = before.players.length := by
    simpa using congrArg List.length kept.players
  rw [kept.mode, kept.lineup, roles, seats]
  exact ⟨valid, dealt⟩

theorem dealGame_dealtWell (seated : Seated room) :
    DealtWell (room.dealGame ctx now) ↔ liarsValidateLineup room.mode room.lineup room.players.length = none := by
  have seats : (room.dealGame ctx now).players.length = room.players.length := by
    exact length_map ..
  constructor
  · intro well
    have valid := (well rfl).1
    rwa [seats] at valid
  · intro valid _
    refine ⟨by rwa [seats], ?_⟩
    have counted : room.lineup.total = (room.players.map (·.id)).length := by
      rw [length_map]
      exact total_of_valid valid
    unfold dealGame
    extract_lets previous dealt pair worded dealtIn
    have dealt_deals : Deals room.lineup.cards (room.players.map (·.id)) dealt :=
      liarsDealRoles_deals seated.unique counted _ _
    have roles : dealtIn.players.map (·.role) = (room.players.map (·.id)).map dealt := by
      simp only [dealtIn, map_map]
      rfl
    change (dealtIn.players.map (·.role)).Perm _
    rw [roles]
    exact dealt_deals

theorem dealGame_seated (seated : Seated room) : Seated (room.dealGame ctx now) := by
  have ids : (room.dealGame ctx now).players.map (·.id) = room.players.map (·.id) := by
    exact map_map ..
  have seats : (room.dealGame ctx now).players.length = room.players.length := by
    exact length_map ..
  exact ⟨ids ▸ seated.unique, seats ▸ seated.seats⟩

theorem configureParts_lobby (room : LiarsRoom) (ctx : GameContext) (configuration : GameConfiguration) :
    (room.configureParts ctx configuration).phase = room.phase ∧
      (room.configureParts ctx configuration).players = room.players := by
  have parts : room.configureParts ctx configuration =
      if configuration.resetLineup then (room.configureParts ctx { configuration with resetLineup := false }).resetLineup ctx
      else room.configureParts ctx { configuration with resetLineup := false } := by
    cases reset : configuration.resetLineup <;> simp [configureParts, reset]
  rw [parts, configureParts_eq rfl]
  split <;> exact ⟨rfl, rfl⟩

theorem handOver_keeps (kept : Keeps dealtTo before after) : Keeps dealtTo before (after.handOver leavingId now) := by
  unfold handOver transferNarrator
  split
  · exact ⟨kept.mode, kept.lineup, kept.players, kept.deal, kept.processed⟩
  · split
    · exact kept
    · exact ⟨kept.mode, kept.lineup, kept.players, kept.deal, kept.processed⟩

theorem depart_keeps {target : PlayerState} {secret : Secret} : Keeps dealtTo room (room.depart ctx target secret) := by
  refine Keeps.updatePlayer ?_ fun _ => rfl
  split
  · have killed : Keeps dealtTo room (room.kill target.id .left) := (Keeps.refl room).updatePlayer fun _ => rfl
    exact killed.narrate.note.checkWinner
  · exact .refl room

theorem dismissed_undealt {dismissed : LiarsRoom} (lobby : dismissed.phase = .lobby)
    (seats : (dismissed.players.map (·.id)).Sublist (room.players.map (·.id))) :
    Undealt room (changed ctx (dismissed.handOver leavingId now)) := by
  have handed : Keeps dealtTo dismissed (dismissed.handOver leavingId now) := handOver_keeps (.refl dismissed)
  refine ⟨?_, fun deal => ?_⟩
  · have ids : (dismissed.handOver leavingId now).players.map (·.id) = dismissed.players.map (·.id) :=
      (handed.through Prod.fst).players
    change ((dismissed.handOver leavingId now).players.map (·.id)).Sublist _
    rwa [ids]
  · have opened : dismissed.phase = .deal := handed.deal deal
    exact absurd (lobby.symm.trans opened) (by decide)

theorem dismiss_seats (id : Nat) : ((room.dismiss id).players.map (·.id)).Sublist (room.players.map (·.id)) :=
  filter_sublist.map _

theorem removePlayer_undealt {id : Nat} : Undealt room (leftBy (room.removePlayer ctx id)) := by
  unfold removePlayer
  cases room.player id with
  | none => exact (Keeps.refl room).undealt
  | some =>
    by_cases lobby : room.phase = .lobby
    · simp only [lobby, ↓reduceIte]
      exact dismissed_undealt lobby (dismiss_seats id)
    · simp only [lobby, ↓reduceIte]
      exact (handOver_keeps depart_keeps).changed.undealt

theorem leaveRoom_undealt {player : PlayerState} : Undealt room (room.leaveRoom ctx player) := by
  unfold leaveRoom
  by_cases lobby : room.phase = .lobby
  · simp only [lobby, ↓reduceIte]
    split <;> exact dismissed_undealt lobby (dismiss_seats player.id)
  · simp only [lobby, ↓reduceIte]
    exact (handOver_keeps depart_keeps).changed.undealt

theorem hostCommand_undealt {action : LiarsHostAction} (starts : ∀ removed, action ≠ .start removed) (replays : action ≠ .replay) :
    Undealt room (leftBy (room.hostCommand ctx action)) := by
  have same : Keeps dealtTo room room := .refl room
  cases action with
  | admissionSet =>
    simp only [hostCommand]
    split
    · exact same.undealt
    · split
      · exact same.undealt
      · exact Keeps.undealt ⟨rfl, rfl, rfl, id, rfl⟩
  | configure configuration =>
    obtain ⟨phase, players⟩ := room.configureParts_lobby ctx configuration
    simp only [hostCommand, configure]
    split
    · exact same.undealt
    · split
      · exact same.undealt
      · next lobby =>
        have opened : room.phase = .lobby := by simpa using lobby
        have undealt {after : LiarsRoom} (phase : after.phase = room.phase) (players : after.players = room.players) :
            Undealt room after := by
          refine ⟨players ▸ List.Sublist.refl _, fun deal => ?_⟩
          rw [phase, opened] at deal
          cases deal
        split
        · exact undealt phase players
        · split <;> exact undealt phase players
  | start removed => exact absurd rfl (starts removed)
  | extend | pause => exact Keeps.undealt ⟨rfl, rfl, rfl, id, rfl⟩
  | resume | passHost =>
    simp only [hostCommand]
    split
    · exact same.undealt
    · exact Keeps.undealt ⟨rfl, rfl, rfl, id, rfl⟩
  | remove => exact removePlayer_undealt
  | replay => exact absurd rfl replays
  | lobby =>
    constructor
    · simp only [hostCommand, leftBy, resetGame, changed, applyExpiry, map_map]
      exact filter_sublist.map _
    · intro deal
      cases deal
  | endGame => exact same.finish.undealt

theorem answer_leaves {holds : LiarsRoom → Prop} {command : Except Rejected LiarsRoom}
    (remembers : ∀ {left : LiarsRoom}, holds left → holds (left.rememberAction actionId)) (same : holds room)
    (left : room.processedActions.contains actionId = false → holds (leftBy command)) :
    holds (room.answer ctx viewerId actionId command).2 := by
  unfold answer
  cases processed : room.processedActions.contains actionId with
  | true => exact same
  | false =>
    cases command with
    | error => exact left processed
    | ok => exact remembers (left processed)

/-- What the table and its deal are like between two commands. -/
structure Fair (room : LiarsRoom) : Prop where
  seated : Seated room
  dealtWell : DealtWell room

theorem Undealt.fair (undealt : Undealt before after) (fair : Fair before) : Fair after :=
  ⟨undealt.seated fair.seated, undealt.dealtWell fair.dealtWell⟩

theorem rememberAction_dealtWell : DealtWell (room.rememberAction actionId) ↔ DealtWell room := by
  simp [rememberAction, DealtWell]

theorem rememberAction_seated (seated : Seated room) : Seated (room.rememberAction actionId) where
  unique := by simpa [rememberAction] using seated.unique
  seats := by simpa [rememberAction] using seated.seats

theorem Fair.remembers {left : LiarsRoom} (fair : Fair left) : Fair (left.rememberAction actionId) :=
  ⟨rememberAction_seated fair.seated, rememberAction_dealtWell.mpr fair.dealtWell⟩

theorem requestReadiness_keeps {waited : List PlayerState} : Keeps dealtTo room (room.requestReadiness ctx waited) := by
  unfold requestReadiness
  extract_lets asks
  split
  · refine ((Keeps.refl room).rows ?_).changed
    exact fun _ => rfl
  · exact .refl room

theorem startGame_deals (seats : room.players.length ≤ 16) (starts : room.startGame ctx removed = .ok after) :
    ∃ table : LiarsRoom, after = table.dealGame ctx ctx.now ∧ table.players.Sublist room.players ∧
      (liarsPlayerLimits table.mode).min ≤ table.players.length ∧
      liarsValidateLineup table.mode table.lineup table.players.length = none := by
  simp only [startGame] at starts
  split at starts
  · cases starts
  · split at starts
    · cases starts
    · next seated =>
      split at starts
      · cases starts
      · next valid =>
        split at starts
        · cases starts
        · split at starts
          · cases starts
          · next enough =>
            split at starts
            · cases starts
              exact ⟨room, rfl, List.Sublist.refl _, Nat.le_of_not_lt seated, valid⟩
            · cases starts
              refine ⟨_, rfl, filter_sublist, Nat.le_of_not_lt enough, ?_⟩
              exact (standardLineup_valid (filter_sublist.length_le.trans seats)).mpr (Nat.le_of_not_lt enough)

theorem startGame_leaves (fair : Fair room) (removed : List Nat) :
    leftBy (room.startGame ctx removed) = room ∨ (∃ asks, leftBy (room.startGame ctx removed) = room.requestReadiness ctx asks) ∨
      ∃ table : LiarsRoom, leftBy (room.startGame ctx removed) = table.dealGame ctx ctx.now ∧ Seated table ∧
        (liarsPlayerLimits table.mode).min ≤ table.players.length ∧ liarsValidateLineup table.mode table.lineup table.players.length = none := by
  cases starts : room.startGame ctx removed with
  | error refused =>
    have refuses : room.hostCommand ctx (.start removed) = .error refused := starts
    rcases hostCommand_refuses refuses with ⟨-, same⟩ | ⟨asks, same, -, asked⟩ | ⟨_, configures, _⟩
    · exact .inl same
    · exact .inr (.inl ⟨_, asked⟩)
    · cases configures
  | ok =>
    obtain ⟨table, rfl, fewer, enough, valid⟩ := startGame_deals fair.seated.seats starts
    exact .inr (.inr ⟨table, rfl, ⟨fair.seated.unique.sublist (fewer.map _), fewer.length_le.trans fair.seated.seats⟩, enough, valid⟩)

theorem startGame_fair (fair : Fair room) : Fair (leftBy (room.startGame ctx removed)) := by
  obtain same | ⟨asks, asked⟩ | ⟨table, dealt, seated, -, valid⟩ := startGame_leaves fair removed
  · rwa [same]
  · rw [asked]
    exact requestReadiness_keeps.undealt.fair fair
  · rw [dealt]
    exact ⟨dealGame_seated seated, (dealGame_dealtWell seated).mpr valid⟩

theorem resetGame_ids (room : LiarsRoom) : room.resetGame.players.map (·.id) = (room.players.filter (·.leftAt.isNone)).map (·.id) := by
  simp only [resetGame, map_map]
  rfl

theorem resetGame_count (room : LiarsRoom) : room.resetGame.players.length = room.presentPlayerCount := by
  have ids := congrArg List.length room.resetGame_ids
  rw [length_map, length_map] at ids
  rw [ids, presentPlayerCount, countP_eq_length_filter]

theorem resetGame_seated (seated : Seated room) : Seated room.resetGame := by
  have fewer : (room.resetGame.players.map (·.id)).Sublist (room.players.map (·.id)) := by
    rw [resetGame_ids]
    exact filter_sublist.map _
  have seats := fewer.length_le
  rw [length_map, length_map] at seats
  exact ⟨seated.unique.sublist fewer, seats.trans seated.seats⟩

theorem replay_dealtWell (seated : Seated room) :
    DealtWell (room.resetGame.dealGame ctx now) ↔ (liarsPlayerLimits room.mode).min ≤ room.presentPlayerCount := by
  have reset := resetGame_seated seated
  rw [dealGame_dealtWell reset, ← resetGame_count]
  exact standardLineup_valid reset.seats

theorem answer_replay (fair : Fair room)
    (left : (room.answer ctx viewerId actionId (room.hostCommand ctx .replay)).2 = after) :
    Seated after ∧ (DealtWell after ↔
      (room.processedActions.contains actionId = false → (liarsPlayerLimits room.mode).min ≤ room.presentPlayerCount)) := by
  unfold answer at left
  cases processed : room.processedActions.contains actionId with
  | true =>
    rw [processed] at left
    subst left
    exact ⟨fair.seated, iff_of_true fair.dealtWell nofun⟩
  | false =>
    rw [processed] at left
    subst left
    refine ⟨rememberAction_seated (dealGame_seated (resetGame_seated fair.seated)), ?_⟩
    exact rememberAction_dealtWell.trans ((replay_dealtWell fair.seated).trans (by simp))

theorem seatsOneMore (fair : Fair room) {joined : PlayerState} (lobby : after.phase = .lobby)
    (space : room.players.length < 16) (players : after.players = room.players ++ [joined])
    (fresh : ∀ player ∈ room.players, player.id ≠ joined.id) : Fair after where
  seated := by
    refine ⟨?_, ?_⟩
    · rw [players, map_append, map_singleton, nodup_append]
      refine ⟨fair.seated.unique, nodup_singleton _, ?_⟩
      intro id mem other last
      obtain ⟨player, listed, rfl⟩ := mem_map.mp mem
      rw [mem_singleton.mp last]
      exact fresh player listed
    · rw [players, length_append, length_singleton]
      exact space
  dealtWell deal := by
    rw [lobby] at deal
    cases deal

end LiarsRoom

namespace Command
variable {room : LiarsRoom}

/-- A replay that is carried out finds enough players who have not left. -/
def ReplaysEnough (command : Command) (room : LiarsRoom) : Prop :=
  match command with
  | .host _ input =>
    match input.action with
    | .replay => room.mayHost input → room.processedActions.contains input.actionId = false →
        (liarsPlayerLimits room.mode).min ≤ room.presentPlayerCount
    | _ => True
  | _ => True

/-- Whoever joins is given an id that nobody at the table has. -/
def DrawsNewId (command : Command) (room : LiarsRoom) : Prop :=
  match command with
  | .join ctx _ _ _ => ∀ player ∈ room.players, player.id ≠ ctx.token room.revision 0
  | _ => True

theorem attend_fair (ctx : GameContext) (fair : room.Fair) (playerId : Option Nat) (force : Bool) :
    (room.attend ctx playerId force).Fair := (room.attend_keeps ctx playerId force).dealt.undealt.fair fair

theorem attend_present (ctx : GameContext) (room : LiarsRoom) (playerId : Option Nat) (force : Bool) :
    (room.attend ctx playerId force).presentPlayerCount = room.presentPlayerCount := by
  have left := ((room.attend_keeps ctx playerId force).through (·.2.2)).players
  have counted (players : List PlayerState) :
      players.countP (·.leftAt.isNone) = (players.map ((·.2.2) ∘ LiarsRoom.place)).countP (·.isNone) := by
    rw [countP_map]
    rfl
  rw [LiarsRoom.presentPlayerCount, LiarsRoom.presentPlayerCount, counted, counted, left]

instance {command : Command} {room : LiarsRoom} : Decidable (command.ReplaysEnough room) :=
  match command with
  | .host _ ⟨_, _, _, _, action⟩ =>
    match action with
    | .replay => inferInstanceAs (Decidable (_ → _ → _))
    | .admissionSet _ | .configure _ | .start _ | .extend | .pause | .resume | .passHost _ | .remove _ | .lobby | .endGame =>
      .isTrue trivial
  | .join .. | .read .. | .play .. => .isTrue trivial

instance {command : Command} {room : LiarsRoom} : Decidable (command.DrawsNewId room) :=
  match command with
  | .join ctx _ _ _ => inferInstanceAs (Decidable (∀ player ∈ room.players, player.id ≠ ctx.token room.revision 0))
  | .read .. | .host .. | .play .. => .isTrue trivial

/-- Whatever is done, the players are seated once each; and the deal is right exactly when a
replay finds enough of them. -/
theorem apply_fair {command : Command} (fair : room.Fair) (draws : command.DrawsNewId room) :
    (command.apply room).Seated ∧ ((command.apply room).DealtWell ↔ command.ReplaysEnough room) := by
  have always {after : LiarsRoom} (fair : after.Fair) {enough : Prop} (holds : enough) :
      after.Seated ∧ (after.DealtWell ↔ enough) := ⟨fair.seated, iff_of_true fair.dealtWell holds⟩
  cases command with
  | join =>
    refine always ?_ trivial
    simp only [apply, LiarsRoom.joinLiarsRoom]
    split
    · exact fair
    · split
      · exact fair
      · next opened =>
        split
        · exact fair
        · split
          · exact fair
          · next room_left =>
            have lobby : room.phase = .lobby := by simpa using (not_or.mp opened).1
            have space : room.players.length < 16 := by
              have limit : (liarsPlayerLimits room.mode).max = 16 := by cases room.mode <;> rfl
              rw [← limit]
              exact Nat.lt_of_not_le room_left
            exact LiarsRoom.seatsOneMore fair lobby space rfl draws
  | read ctx =>
    refine always ?_ trivial
    simp only [apply, LiarsRoom.readLiarsSnapshot]
    split
    · exact attend_fair ctx fair _ _
    · exact fair
  | host ctx input =>
    simp only [apply, LiarsRoom.applyLiarsHostAction, ReplaysEnough]
    cases allowed : room.mayHost input with
    | false => cases input.action <;> exact always fair (by simp)
    | true =>
      simp only [↓reduceIte, true_imp_iff]
      have kept := room.attend_keeps ctx (input.playerId.filter fun id => (room.player id).isSome) true
      have found := attend_fair ctx fair (input.playerId.filter fun id => (room.player id).isSome) true
      have present := attend_present ctx room (input.playerId.filter fun id => (room.player id).isSome) true
      rw [← kept.processed, ← kept.mode, ← present]
      cases action : input.action with
      | replay =>
        exact LiarsRoom.answer_replay found rfl
      | start =>
        refine always ?_ (by simp)
        exact LiarsRoom.answer_leaves (fun left => left.remembers) found fun _ => LiarsRoom.startGame_fair found
      | admissionSet | configure | extend | pause | resume | passHost | remove | lobby | endGame =>
        refine always ?_ (by simp)
        exact LiarsRoom.answer_leaves (fun left => left.remembers) found fun _ =>
          (LiarsRoom.hostCommand_undealt (by simp) (by simp)).fair found
  | play ctx input =>
    refine always ?_ trivial
    simp only [apply, LiarsRoom.applyLiarsPlayerAction]
    split
    · have found := attend_fair ctx fair (some input.playerId) true
      split
      · next player seated =>
        refine LiarsRoom.answer_leaves (fun left => left.remembers) found fun _ => ?_
        by_cases leaves : input.action = .leave
        · rw [leaves]
          exact LiarsRoom.leaveRoom_undealt.fair found
        · exact (LiarsRoom.playerCommand_keeps leaves).dealt.undealt.fair found
      · exact found
    · exact fair

end Command

/-- From its creation on, a room that is dealt has a lineup that passes and deals out exactly its
roles, exactly when every replay finds the players that the mode needs. -/
theorem deals_matchLineup (ctx : GameContext) (mode : LiarsMode) (roomMode : LiarsRoomMode) (toggles : TogglesPatch)
    (timings : TimingsPatch) (managed : Bool) {commands : List Command}
    (draws : EachStep Command.apply Command.DrawsNewId (LiarsRoom.createLiarsRoom ctx mode roomMode toggles timings managed) commands) :
    Throughout Command.apply LiarsRoom.DealtWell (LiarsRoom.createLiarsRoom ctx mode roomMode toggles timings managed) commands ↔
      EachStep Command.apply Command.ReplaysEnough (LiarsRoom.createLiarsRoom ctx mode roomMode toggles timings managed) commands := by
  have step {room : LiarsRoom} {command : Command} (seated : room.Seated) (well : room.DealtWell) (draws : command.DrawsNewId room) :
      (command.apply room).Seated ∧ ((command.apply room).DealtWell ↔ command.ReplaysEnough room) :=
    Command.apply_fair ⟨seated, well⟩ draws
  exact throughout_iff_within @step ⟨nodup_nil, Nat.zero_le _⟩ (nofun) draws

def replayAfterLeaves (names : List String) (leavers : List Nat) : List Command :=
  names.map (.join (.plain 1) none none) ++ [.byHost 2 1 (.start [])] ++
    leavers.map (fun id => .by id 3 (10 + id) .leave) ++ [.byHost 4 2 .replay]

/-- A replay after one of five has left deals five roles to four players. -/
theorem replayOfFour_dealsFive :
    let room := LiarsRoom.createLiarsRoom (.plain 1) .mafia .sameRoom {} {} false
    let commands := replayAfterLeaves ["Ada", "Bo", "Cy", "Di", "Em"] [4]
    EachStep Command.apply Command.DrawsNewId room commands ∧ ¬ Throughout Command.apply LiarsRoom.DealtWell room commands ∧
    (runFrom Command.apply room commands).phase = .deal ∧ (runFrom Command.apply room commands).players.length = 4 ∧
    (runFrom Command.apply room commands).lineup.total = 5 := by
  refine ⟨by decide +kernel, fun throughout => ?_, by decide +kernel, by decide +kernel, by decide +kernel⟩
  exact absurd (throughout.last (by decide +kernel)).1 (by decide +kernel)

theorem deals_matchLineup_replayOfFive :
    Throughout Command.apply LiarsRoom.DealtWell (LiarsRoom.createLiarsRoom (.plain 1) .mafia .sameRoom {} {} false)
      (replayAfterLeaves ["Ada", "Bo", "Cy", "Di", "Em", "Flo"] [4]) :=
  (deals_matchLineup (.plain 1) .mafia .sameRoom {} {} false (by decide +kernel)).mpr (by decide +kernel)

end MilkAndHenny.Liars

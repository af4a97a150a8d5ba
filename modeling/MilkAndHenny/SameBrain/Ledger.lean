import MilkAndHenny.Library.Machine
import MilkAndHenny.SameBrain.Turns

/-! The ledger of the scores: what the players have is what the history calls for, and a
correction that is taken back has changed nothing, unless it has brought back a player who left. -/

namespace MilkAndHenny.SameBrain
open Library

variable {room : SameBrainRoom}

namespace SameBrainRoom

/-- What the players have is what the history says of them, and whoever has left is out. -/
structure Balanced (room : SameBrainRoom) : Prop where
  score : ∀ player ∈ room.players, player.score = (room.history.map (·.pointsFor player.id)).sum
  aloneCount : ∀ player ∈ room.players, player.aloneCount = room.history.countP (·.oddPlayerId == some player.id)
  departed : ∀ player ∈ room.players, player.leftAt.isSome → player.out

instance : Decidable room.Balanced :=
  decidable_of_iff ((∀ player ∈ room.players, player.score = (room.history.map (·.pointsFor player.id)).sum) ∧
      (∀ player ∈ room.players, player.aloneCount = room.history.countP (·.oddPlayerId == some player.id)) ∧
      ∀ player ∈ room.players, player.leftAt.isSome → player.out)
    ⟨fun ⟨score, aloneCount, departed⟩ => ⟨score, aloneCount, departed⟩,
      fun ⟨score, aloneCount, departed⟩ => ⟨score, aloneCount, departed⟩⟩

/-- The round that is shown has its first score. -/
def Uncorrected (room : SameBrainRoom) : Prop :=
  (room.phase = .sayIt ∨ room.phase = .reveal) ∧ room.result = room.resultBaseline

instance : Decidable room.Uncorrected := inferInstanceAs (Decidable (_ ∧ _))

/-- Everybody has again what they had, but for those who have left since. -/
structure Restored (scored room : SameBrainRoom) : Prop where
  history : room.history = scored.history
  players : Forall₂ (fun before after : PlayerState => after.id = before.id ∧ after.score = before.score ∧
    after.aloneCount = before.aloneCount ∧ after.out = (before.out || after.leftAt.isSome)) scored.players room.players

theorem balanced_iff (books : room.game.Books) : room.Balanced ↔ room.game.KeepsOut := by
  have settled (player : PlayerState) (mem : player ∈ room.players) :
      Settled room.toggles.eliminateOddOne room.history player.standing := books.settled _ (mem_map_of_mem mem)
  constructor
  · intro balanced standing mem left
    obtain ⟨player, listed, rfl⟩ := mem_map.mp mem
    exact balanced.departed player listed left
  · intro keeps
    exact ⟨fun player mem => (settled player mem).score, fun player mem => (settled player mem).aloneCount,
      fun player mem left => keeps player.standing (mem_map_of_mem mem) left⟩

end SameBrainRoom

def Command.passes (command : Command) (room : SameBrainRoom) : List SameBrainRoom := [command.finds room, command.apply room]

/-- The command carries out a reset of the round that is shown. -/
def Command.Resets (command : Command) (room : SameBrainRoom) : Prop :=
  match command with
  | .host _ { action := .reset _, .. } => command.act room ≠ .other
  | _ => False

/-- To put back a round that has been scored is to restore it, whatever has been done since. -/
def Restores (start : SameBrainRoom) (commands : List Command) : Prop :=
  ∀ (first later : List Command) (scoring reset : Command), first ++ scoring :: later ++ [reset] <+: commands →
    ∀ scored ∈ scoring.passes (runFrom Command.apply start first), scored.Uncorrected →
    let found := runFrom Command.apply start (first ++ scoring :: later)
    reset.Resets found → (reset.apply found).gameNumber = scored.gameNumber → (reset.apply found).round = scored.round →
    scored.Restored (reset.apply found)

/-- A correction that is carried out leaves the odd one out the odd one out, where the odd one out is
put out of the game and has left. -/
def Command.KeepsDeparted (command : Command) (room : SameBrainRoom) : Prop :=
  (command.act room).KeepsDeparted (command.finds room).game

instance {command : Command} {room : SameBrainRoom} : Decidable (command.KeepsDeparted room) :=
  inferInstanceAs (Decidable ((command.act room).KeepsDeparted _))

namespace Game

structure Ordered (game : Game) : Prop where
  tidy : game.Tidy
  books : game.Books
  keepsOut : game.KeepsOut

theorem Ordered.turn {game next : Game} {act : Act} (ordered : game.Ordered) (turn : Turn game act next)
    (keeps : act.KeepsDeparted game) : next.Ordered where
  tidy := turn.tidy ordered.tidy
  books := turn.books ordered.tidy ordered.books ordered.keepsOut
  keepsOut := (turn.keepsOut ordered.keepsOut).mpr keeps

end Game

theorem Since.start {game : Game} (shown : game.phase = .sayIt ∨ game.phase = .reveal) : Since game game :=
  .showing rfl rfl shown rfl rfl rfl (forall₂_same.mpr fun _ _ => ⟨rfl, id⟩)

namespace Command
variable {command : Command}

theorem finds_ordered (command : Command) (ordered : room.game.Ordered) : (command.finds room).game.Ordered :=
  ordered.turn (command.finds_turn ordered.tidy) trivial

theorem apply_ordered (ordered : room.game.Ordered) (draws : command.DrawsNewId room) (keeps : command.KeepsDeparted room) :
    (command.apply room).game.Ordered :=
  (command.finds_ordered ordered).turn (command.apply_turn ordered.tidy draws) keeps

theorem apply_balanced (ordered : room.game.Ordered) (draws : command.DrawsNewId room) :
    (command.apply room).game.Books ∧ ((command.apply room).Balanced ↔ command.KeepsDeparted room) := by
  have found := command.finds_ordered ordered
  have turn := command.apply_turn ordered.tidy draws
  have books := turn.books found.tidy found.books found.keepsOut
  exact ⟨books, (SameBrainRoom.balanced_iff books).trans (turn.keepsOut found.keepsOut)⟩

end Command

section
variable {commands : List Command}

theorem run_ordered (ordered : room.game.Ordered)
    (meets : EachStep Command.apply (fun command room => command.DrawsNewId room ∧ command.KeepsDeparted room) room commands) :
    (runFrom Command.apply room commands).game.Ordered := by
  have step {room : SameBrainRoom} {command : Command} (ordered : room.game.Ordered)
      (meets : command.DrawsNewId room ∧ command.KeepsDeparted room) : (command.apply room).game.Ordered ∧ True :=
    ⟨command.apply_ordered ordered meets.1 meets.2, trivial⟩
  exact (EachStep.shows @step ordered meets).1.last

theorem run_since {scored : Game} (tidy : room.game.Tidy) (since : Since scored room.game)
    (draws : EachStep Command.apply Command.DrawsNewId room commands) : Since scored (runFrom Command.apply room commands).game := by
  have step {room : SameBrainRoom} {command : Command} (held : room.game.Tidy ∧ Since scored room.game)
      (draws : command.DrawsNewId room) : ((command.apply room).game.Tidy ∧ Since scored (command.apply room).game) ∧ True :=
    ⟨⟨command.apply_tidy held.1 draws, (command.apply_turn held.1 draws).since ((command.finds_turn held.1).since held.2)⟩, trivial⟩
  exact (EachStep.shows @step ⟨tidy, since⟩ draws).1.last.2

theorem Command.Resets.amends {reset : Command} (resets : reset.Resets room) :
    ∃ result base, (reset.finds room).phase = .reveal ∧ (reset.finds room).result = some result ∧
      (reset.finds room).resultBaseline = some base ∧ reset.act room = .correct base := by
  unfold Command.Resets at resets
  split at resets
  · next ctx hostToken playerId playerToken actionId round =>
    simp only [Command.act, Command.finds] at resets ⊢
    split at resets
    · next may =>
      simp only [may, ↓reduceIte]
      generalize room.attend ctx playerId = found at resets ⊢
      unfold SameBrainRoom.firstOf at resets ⊢
      split at resets
      · exact absurd rfl resets
      · next first =>
        rw [if_neg first]
        simp only [SameBrainRoom.hostAct] at resets ⊢
        cases made : found.correctionOf ctx round none with
        | none =>
          rw [made] at resets
          exact absurd rfl resets
        | some base =>
          obtain ⟨result, shown, corrected⟩ := bind_eq_some_iff.mp made
          obtain ⟨current, showing⟩ := filter_eq_some_iff.mp shown
          have revealed : found.phase = .reveal := by simp_all
          have baseline : found.resultBaseline = some base := by
            simp only [SameBrainRoom.corrected] at corrected
            split at corrected
            · next kept =>
              cases corrected
              exact Option.eq_some_of_filter_eq_some kept
            · cases corrected
          exact ⟨result, base, revealed, current, baseline, rfl⟩
    · exact absurd rfl resets
  · exact resets.elim

theorem run_restores (ordered : room.game.Ordered)
    (meets : EachStep Command.apply (fun command room => command.DrawsNewId room ∧ command.KeepsDeparted room) room commands) :
    Restores room commands := by
  rintro first later scoring reset ⟨rest, rfl⟩ scored mem uncorrected found resets sameGame sameRound
  have whole := (EachStep.append.mp meets).1
  obtain ⟨upTo, last, -⟩ := EachStep.append.mp whole
  have last : reset.DrawsNewId found ∧ reset.KeepsDeparted found := last
  obtain ⟨before, scores⟩ := EachStep.append.mp upTo
  have earlier := run_ordered ordered before
  have there : found.game.Ordered := run_ordered ordered upTo
  have reached : found = runFrom Command.apply (scoring.apply (runFrom Command.apply room first)) later := runFrom_append
  generalize runFrom Command.apply room first = start at mem scores earlier reached
  clear_value found
  have shown : Since scored.game scored.game := .start uncorrected.1
  have turn := scoring.apply_turn earlier.tidy scores.1.1
  obtain ⟨scoredOrdered, since⟩ : scored.game.Ordered ∧ Since scored.game (scoring.apply start).game := by
    rcases List.mem_pair.mp mem with rfl | rfl
    · exact ⟨scoring.finds_ordered earlier, turn.since shown⟩
    · exact ⟨scoring.apply_ordered earlier scores.1.1 scores.1.2, shown⟩
  have since : Since scored.game found.game := by
    rw [reached]
    exact run_since (scoring.apply_ordered earlier scores.1.1 scores.1.2).tidy since (scores.2.imp fun _ _ => And.left)
  have since := (reset.finds_turn there.tidy).since since
  obtain ⟨result, base, revealed, current, baseline, act⟩ := resets.amends
  have after := reset.apply_ordered there last.1 last.2
  have turn := reset.apply_turn there.tidy last.1
  have amended : (reset.apply found).game = (reset.finds found).game.amend result base := by
    rw [act] at turn
    generalize (reset.apply found).game = next at turn
    cases turn with
    | amended _ shows => exact congrArg (Game.amend _ · base) (some.inj (shows.symm.trans current))
  have number : (reset.finds found).game.gameNumber = scored.game.gameNumber :=
    (congrArg Game.gameNumber amended).symm.trans sameGame
  have round : (reset.finds found).game.round = scored.game.round := (congrArg Game.round amended).symm.trans sameRound
  obtain ⟨history, standings⟩ := since.restores number round revealed current baseline uncorrected.2 uncorrected.1
    scoredOrdered.books (reset.finds_ordered there).books (amended ▸ after.keepsOut)
  rw [← amended] at history standings
  exact ⟨history, List.forall₂_map_left_iff.mp (forall₂_map_right_iff.mp standings)⟩

end

theorem createSameBrainRoom_ordered (ctx : GameContext) (rounds : Option Nat) (toggles : TogglesPatch) (timings : TimingsPatch)
    (managed : Bool) (officialResultChannelId : Option Nat) :
    (SameBrainRoom.createSameBrainRoom ctx rounds toggles timings managed officialResultChannelId).game.Ordered where
  tidy := createSameBrainRoom_tidy ctx rounds toggles timings managed officialResultChannelId
  books := .begun rfl (nofun) (.inl rfl)
  keepsOut _ mem := absurd mem not_mem_nil

/-- The ledger balances in every room of a run, and every reset restores the round that it puts back,
exactly where no correction brings back a player who has left. -/
theorem ledger_balances (ctx : GameContext) (rounds : Option Nat) (toggles : TogglesPatch) (timings : TimingsPatch)
    (managed : Bool) (officialResultChannelId : Option Nat) {commands : List Command}
    (draws : EachStep Command.apply Command.DrawsNewId
      (SameBrainRoom.createSameBrainRoom ctx rounds toggles timings managed officialResultChannelId) commands) :
    Throughout Command.apply SameBrainRoom.Balanced
        (SameBrainRoom.createSameBrainRoom ctx rounds toggles timings managed officialResultChannelId) commands ∧
      Restores (SameBrainRoom.createSameBrainRoom ctx rounds toggles timings managed officialResultChannelId) commands ↔
    EachStep Command.apply Command.KeepsDeparted
      (SameBrainRoom.createSameBrainRoom ctx rounds toggles timings managed officialResultChannelId) commands := by
  have created := createSameBrainRoom_ordered ctx rounds toggles timings managed officialResultChannelId
  generalize SameBrainRoom.createSameBrainRoom ctx rounds toggles timings managed officialResultChannelId = room at *
  have balanced : room.Balanced := (SameBrainRoom.balanced_iff created.books).mpr created.keepsOut
  have step {room : SameBrainRoom} {command : Command} (held : room.game.Tidy ∧ room.game.Books) (kept : room.Balanced)
      (draws : command.DrawsNewId room) : ((command.apply room).game.Tidy ∧ (command.apply room).game.Books) ∧
        ((command.apply room).Balanced ↔ command.KeepsDeparted room) := by
    have ordered : room.game.Ordered := ⟨held.1, held.2, (SameBrainRoom.balanced_iff held.2).mp kept⟩
    obtain ⟨books, exactly⟩ := Command.apply_balanced ordered draws
    exact ⟨⟨command.apply_tidy held.1 draws, books⟩, exactly⟩
  have throughout := throughout_iff_within @step ⟨created.tidy, created.books⟩ balanced draws
  constructor
  · exact fun holds => throughout.mp holds.1
  · exact fun keeps => ⟨throughout.mpr keeps, run_restores created (draws.and keeps)⟩

/-- A room that puts the odd one out of the game, and shows a round at once. -/
def sharpRoom : SameBrainRoom :=
  SameBrainRoom.createSameBrainRoom (.plain 1) none { sayItAloud := some false, eliminateOddOne := some true } {} false none

/-- Four join and play a round of which the last of them is the odd one out; then more is done. -/
def lonePear (more : List Command) : List Command :=
  joins ["Ada", "Bo", "Cy", "Di"] ++
    [.byHost 2 1 (.start []), .pump (.plain 5000), .by 2 5001 2 (.submit 1 "Apple"), .by 4 5002 3 (.submit 1 "Apple"),
      .by 6 5003 4 (.submit 1 "Apple"), .by 8 5004 5 (.submit 1 "Pear")] ++ more

/-- The odd one out leaves; her group is moved into the herd, and she is back in the game. -/
theorem leaverMerged_backIn :
    let run := lonePear [.by 8 5005 6 .leave, .byHost 5006 7 (.merge 1 1 0)]
    EachStep Command.apply Command.DrawsNewId sharpRoom run ∧ ¬ Throughout Command.apply SameBrainRoom.Balanced sharpRoom run ∧
    ((runFrom Command.apply sharpRoom run).player 8).map (fun player => (player.leftAt, player.out)) = some (some 5005, false) := by
  refine ⟨by decide +kernel, fun throughout => ?_, by decide +kernel⟩
  exact absurd throughout.last (by decide +kernel)

theorem ledger_balances_pearPutBack :
    let run := lonePear [.byHost 5005 6 (.merge 1 1 0), .byHost 5006 7 (.reset 1), .by 8 5007 8 .leave]
    Throughout Command.apply SameBrainRoom.Balanced sharpRoom run ∧ Restores sharpRoom run :=
  (ledger_balances (.plain 1) none { sayItAloud := some false, eliminateOddOne := some true } {} false none (by decide +kernel)).mpr
    (by decide +kernel)

end MilkAndHenny.SameBrain

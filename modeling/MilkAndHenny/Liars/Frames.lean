import MilkAndHenny.Liars.Ending
import MilkAndHenny.Liars.Rejection
import MilkAndHenny.Liars.Rescue

/-! What presence, time and the players' own commands keep of a room: who sits at the table with
which role, the lineup, and that the game is not dealt again. -/

namespace MilkAndHenny.Liars
open Library

variable {change : PlayerState → PlayerState} {text : String} {after : LiarsRoom}

namespace LiarsRoom
variable {ctx : GameContext} {room : LiarsRoom} {now : Int} {player : PlayerState} {choice : Option (Option Nat)}

/-- What a room keeps of the deal besides the players' records, of which it keeps a column:
nobody is dealt in again, and the phase does not go back to the deal. -/
structure Keeps {β : Type} (column : PlayerState → β) (before after : LiarsRoom) : Prop where
  mode : after.mode = before.mode
  lineup : after.lineup = before.lineup
  players : after.players.map column = before.players.map column
  deal : after.phase = .deal → before.phase = .deal
  processed : after.processedActions = before.processedActions

namespace Keeps
variable {β : Type} {column : PlayerState → β} {before middle after : LiarsRoom}

theorem refl (room : LiarsRoom) : Keeps column room room := ⟨rfl, rfl, rfl, id, rfl⟩

theorem through {γ : Type} (kept : Keeps column before after)
    (other : β → γ) : Keeps (other ∘ column) before after where
  mode := kept.mode
  lineup := kept.lineup
  players := by
    have listed := congrArg (List.map other) kept.players
    rwa [map_map, map_map] at listed
  deal := kept.deal
  processed := kept.processed

theorem updatePlayer (kept : Keeps column before after) {id : Nat}
    (same : ∀ row, column (change row) = column row) : Keeps column before (after.updatePlayer id change) :=
  ⟨kept.mode, kept.lineup, (map_updateFirst same).trans kept.players, kept.deal, kept.processed⟩

variable (kept : Keeps column before after)
include kept

theorem enterPhase {phase : LiarsPhase} (later : phase ≠ .deal) :
    Keeps column before (after.enterPhase ctx phase now) :=
  ⟨kept.mode, kept.lineup, kept.players, fun same => absurd same later, kept.processed⟩

theorem changed : Keeps column before (changed ctx after) :=
  ⟨kept.mode, kept.lineup, kept.players, kept.deal, kept.processed⟩

theorem finish {winner : LiarsSide} : Keeps column before (after.finish ctx winner now) :=
  ⟨kept.mode, kept.lineup, kept.players, (nomatch ·), kept.processed⟩

theorem checkWinner {jester : Option Nat} : Keeps column before ((after.checkWinner ctx now jester).getD after) := by
  unfold LiarsRoom.checkWinner
  cases after.detectWinner after.living jester with
  | none => exact kept
  | some => exact kept.finish

theorem narrate {outcome : NarrationOutcome} {slots : NarrationSlots} :
    Keeps column before (after.narrate ctx outcome slots).2 := by
  unfold LiarsRoom.narrate
  split
  · exact ⟨kept.mode, kept.lineup, kept.players, kept.deal, kept.processed⟩
  · exact kept

theorem note {phase : HistoryPhase} : Keeps column before (after.note phase text) :=
  ⟨kept.mode, kept.lineup, kept.players, kept.deal, kept.processed⟩

theorem rows {which : PlayerState → Bool} (same : ∀ row, column (change row) = column row) :
    Keeps column before { after with players := update after.players which change } :=
  ⟨kept.mode, kept.lineup, (map_update same).trans kept.players, kept.deal, kept.processed⟩

end Keeps

def place (player : PlayerState) : Nat × Option LiarsRole × Option Int := (player.id, player.role, player.leftAt)

variable {before : LiarsRoom}

theorem Keeps.kill (kept : Keeps place before room) {id : Nat} {cause : LiarsDeathCause} :
    Keeps place before (room.kill id cause) := kept.updatePlayer fun _ => rfl

theorem writeNightReports_keeps (kept : Keeps place before room) : Keeps place before (room.writeNightReports ctx) := by
  simp only [writeNightReports]
  split
  · refine (kept.rows fun row => ?_).changed
    simp only [withReport]
    split <;> rfl
  · exact kept

theorem Keeps.night {plan : NightPlan} (kept : Keeps place before room) (night : Night plan room after) :
    Keeps place before after where
  mode := (congrArg LiarsRoom.mode night.same).trans kept.mode
  lineup := (congrArg LiarsRoom.lineup night.same).trans kept.lineup
  players := by
    have places := night.pairs (r := fun old new => place old = place new) (fun _ => rfl) (fun _ _ _ => Eq.trans) fun _ _ touched => by
      cases touched <;> rfl
    exact (map_pairs places fun _ _ same => same).symm.trans kept.players
  deal deal := kept.deal ((congrArg LiarsRoom.phase night.same).symm.trans deal)
  processed := (congrArg LiarsRoom.processedActions night.same).trans kept.processed

theorem nightOutcome_keeps (kept : Keeps place before room) : Keeps place before (room.nightOutcome ctx).room :=
  (writeNightReports_keeps kept).night (nightOutcome_night ctx room)

theorem dawnNarration_keeps {deaths : List LiarsDeathEvent} (kept : Keeps place before room) :
    Keeps place before (room.dawnNarration ctx deaths).2 := by
  unfold dawnNarration
  split
  · exact kept.narrate
  · split
    · split
      · exact kept.narrate
      · exact kept
    · split <;> exact kept.narrate

theorem notes_keep {names : List String} (kept : Keeps place before room) :
    Keeps place before (names.foldl (fun room name => room.note .night (name ++ " was seen moving.")) room) := by
  induction names generalizing room with
  | nil => exact kept
  | cons name names ih => exact ih kept.note

theorem tellDawn_keeps {outcome : NightOutcome} (kept : Keeps place before outcome.room) :
    Keeps place before (tellDawn ctx outcome now) := by
  have told : Keeps place before (outcome.room.dawnNarration ctx outcome.deaths).2 := dawnNarration_keeps kept
  exact notes_keep ⟨told.mode, told.lineup, told.players, told.deal, told.processed⟩

theorem resolveNight_keeps (kept : Keeps place before room) : Keeps place before (room.resolveNight ctx now) := by
  unfold resolveNight
  extract_lets entered
  have told : Keeps place before entered := (tellDawn_keeps (nightOutcome_keeps kept)).enterPhase (by decide)
  exact told.checkWinner

theorem startClueRound_keeps (kept : Keeps place before room) : Keeps place before (room.startClueRound ctx now) :=
  ⟨kept.mode, kept.lineup, kept.players, (nomatch ·), kept.processed⟩

theorem clearRoundState_keeps (kept : Keeps place before room) : Keeps place before room.clearRoundState where
  mode := kept.mode
  lineup := kept.lineup
  players := by
    simp only [clearRoundState, map_map]
    exact kept.players
  deal := kept.deal
  processed := kept.processed

theorem startRound_keeps (kept : Keeps place before room) : Keeps place before (room.startRound ctx now) := by
  unfold startRound
  extract_lets next emptied cleared
  have counted : Keeps place before next := ⟨kept.mode, kept.lineup, kept.players, kept.deal, kept.processed⟩
  have kept := clearRoundState_keeps counted
  have opened : Keeps place before cleared := ⟨kept.mode, kept.lineup, kept.players, kept.deal, kept.processed⟩
  clear_value cleared
  split
  · exact startClueRound_keeps opened
  · exact opened.enterPhase (by decide)

theorem advanceClue_keeps (kept : Keeps place before room) : Keeps place before (room.advanceClue ctx now) := by
  simp only [advanceClue]
  generalize (if room.roomMode ≠ .remote ∧ room.phaseEndsAt ≤ now then room.clueOrder.length else room.clueIndex + 1) = clueIndex
  have moved : Keeps place before { room with clueIndex } := ⟨kept.mode, kept.lineup, kept.players, kept.deal, kept.processed⟩
  split
  · exact ⟨kept.mode, kept.lineup, kept.players, kept.deal, kept.processed⟩
  · split
    · exact startClueRound_keeps moved
    · exact moved.enterPhase (by decide)

theorem tie_keeps (kept : Keeps place before room) : Keeps place before (room.resolveTie ctx now) := by
  unfold resolveTie
  extract_lets tied names cleared
  have revoted : Keeps place before cleared := by
    refine ⟨kept.mode, kept.lineup, ?_, kept.deal, kept.processed⟩
    simp only [cleared, map_map]
    exact kept.players
  split
  · exact revoted.note.enterPhase (by decide)
  · exact kept.narrate.note.enterPhase (by decide)

theorem countedEjection_keeps {role : LiarsRole} (kept : Keeps place before room) : Keeps place before (room.countEjection role) := by
  unfold countEjection
  split
  · split <;> exact ⟨kept.mode, kept.lineup, kept.players, kept.deal, kept.processed⟩
  · exact kept

theorem eject_keeps {ejected : PlayerState} (kept : Keeps place before room) : Keeps place before (room.eject ctx ejected now) := by
  have killed : Keeps place before (room.kill ejected.id .ejected) := kept.kill
  have named : Keeps place before { room.kill ejected.id .ejected with
      ejectedJesterId := if ejected.played = .jester then some ejected.id else (room.kill ejected.id .ejected).ejectedJesterId } :=
    ⟨killed.mode, killed.lineup, killed.players, killed.deal, killed.processed⟩
  exact (countedEjection_keeps named).narrate.note.enterPhase (by decide)

theorem resolveVote_keeps (kept : Keeps place before room) : Keeps place before (room.resolveVote ctx now) := by
  have declared (ejected : Option PlayerState) : Keeps place before (room.declare ejected) :=
    ⟨kept.mode, kept.lineup, kept.players, kept.deal, kept.processed⟩
  unfold resolveVote
  split
  · exact tie_keeps (declared none)
  · exact eject_keeps (declared _)

theorem afterVerdict_keeps (kept : Keeps place before room) : Keeps place before (room.afterVerdict ctx now) := by
  have checked : Keeps place before ((room.checkWinner ctx now room.ejectedJesterId).getD room) := kept.checkWinner
  unfold afterVerdict
  cases wins : room.checkWinner ctx now room.ejectedJesterId with
  | some => rwa [wins] at checked
  | none =>
    simp only
    split
    · exact ⟨kept.mode, kept.lineup, kept.players, (nomatch ·), kept.processed⟩
    · exact startRound_keeps kept

theorem resolveFinalGuess_keeps {guess : Option String} (kept : Keeps place before room) :
    Keeps place before (room.resolveFinalGuess ctx now guess) := by
  unfold resolveFinalGuess
  extract_lets normalise attempt correct word text noted
  have told : Keeps place before noted := ⟨kept.mode, kept.lineup, kept.players, kept.deal, kept.processed⟩
  have checked : Keeps place before ((noted.checkWinner ctx now none).getD noted) := told.checkWinner
  cases wins : noted.checkWinner ctx now none with
  | some => rwa [wins] at checked
  | none => exact told.finish

theorem advancePhases_keeps {guard : Nat} (kept : Keeps place before room) :
    Keeps place before (advancePhases ctx now guard room) := by
  induction guard generalizing room with
  | zero => exact kept
  | succ guard ih =>
    unfold advancePhases
    split
    · exact kept
    · split
      · split
        · exact writeNightReports_keeps kept
        · exact kept
      · split
        · exact ih (startRound_keeps kept)
        · exact ih (resolveNight_keeps kept)
        · exact ih (advanceClue_keeps kept)
        · exact ih (kept.enterPhase (by decide))
        · exact ih (kept.enterPhase (by decide))
        · exact ih (resolveVote_keeps kept)
        · exact ih (afterVerdict_keeps kept)
        · exact ih (resolveFinalGuess_keeps kept)
        · exact kept
        · exact kept

theorem touch_keepsTable (playerId : Option Nat) (now : Int) (force : Bool) :
    Keeps place room (room.touch playerId now force) := by
  obtain ⟨players, active, since, narrator, -, touched⟩ := room.touch_keeps playerId now force
  have seats := room.touch_seats playerId now force
  rw [touched] at seats ⊢
  refine ⟨rfl, rfl, ?_, id, rfl⟩
  have listed := congrArg (List.map place) seats
  rwa [map_map, map_map] at listed

theorem attend_keeps (room : LiarsRoom) (ctx : GameContext) (playerId : Option Nat) (force : Bool) : Keeps place room (room.attend ctx playerId force) := by
  have touched := room.touch_keepsTable playerId ctx.now force
  unfold attend advance
  split
  · exact touched
  · extract_lets dormant shifted woken
    refine advancePhases_keeps ?_
    simp only [woken]
    split
    · exact ⟨touched.mode, touched.lineup, touched.players, touched.deal, touched.processed⟩
    · exact touched

/-! ### What the players do -/

namespace Keeps
variable {β : Type} {column : PlayerState → β} {p : Prop} [Decidable p] {first second : Except Rejected LiarsRoom}

theorem ok (kept : Keeps column room after) : Keeps column room (leftBy (.ok after)) := kept

theorem refuse {code : LiarsRejectionCode} {error : String} : Keeps column room (leftBy (room.refuseWith code error)) := refl room

theorem ite (yes : Keeps column room (leftBy first)) (no : Keeps column room (leftBy second)) :
    Keeps column room (leftBy (if p then first else second)) := by
  split
  · exact yes
  · exact no

theorem row {id : Nat} (same : ∀ row, column (change row) = column row) :
    Keeps column room (LiarsRoom.changed ctx (room.updatePlayer id change)) := ((refl room).updatePlayer same).changed

end Keeps

theorem lockNight_keeps {id : Nat} : Keeps place room (room.lockNight ctx id) := by
  unfold lockNight
  extract_lets locked
  have kept : Keeps place room locked := .row fun _ => rfl
  clear_value locked
  split
  · split
    · exact writeNightReports_keeps ⟨kept.mode, kept.lineup, kept.players, kept.deal, kept.processed⟩
    · exact kept
  · exact kept

theorem nightCommand_keeps {round : Nat} : Keeps place room (leftBy (room.nightCommand ctx player round choice)) := by
  refine .ite .refuse (.ite .refuse (.ite .refuse ?_))
  cases choice with
  | none => exact .ok lockNight_keeps
  | some => exact .ite (.ok (.row fun _ => rfl)) .refuse

theorem voteCommand_keeps : Keeps place room (leftBy (room.voteCommand ctx player choice)) := by
  refine .ite .refuse (.ite .refuse ?_)
  cases choice with
  | none =>
    refine .ok ?_
    split
    · exact resolveVote_keeps (.row fun _ => rfl)
    · exact .row fun _ => rfl
  | some => exact .ite (.ok (.row fun _ => rfl)) .refuse

theorem clueCommand_keeps {said : Bool} : Keeps place room (leftBy (room.clueCommand ctx player said)) := by
  refine .ite .refuse (.ite .refuse (.ok ?_))
  exact advanceClue_keeps ((Keeps.refl room).updatePlayer fun _ => rfl)

theorem allSaid_keeps : Keeps place room (leftBy (room.allSaid ctx player)) := by
  refine .ite .refuse (.ite (.ok ?_) (.ok (advanceClue_keeps ?_)))
  · exact ⟨rfl, rfl, rfl, id, rfl⟩
  · exact ⟨rfl, rfl, rfl, id, rfl⟩

theorem declareReady_keeps {ready : Bool} : Keeps place room (leftBy (room.declareReady ctx player ready)) := by
  have declared : Keeps place room (changed ctx (room.updatePlayer player.id fun row => { row with readyToVote := ready })) :=
    .row fun _ => rfl
  exact .ite .refuse (.ite (.ok (declared.enterPhase (by decide))) (.ok declared))

theorem sayLastWords_keeps : Keeps place room (leftBy (room.sayLastWords ctx player text)) := by
  refine .ite (.ok ?_) .refuse
  have spoken : Keeps place room (room.updatePlayer player.id fun row =>
      { row with lastWords := some (clip liarsLastWordsLength text) }) := (Keeps.refl room).updatePlayer fun _ => rfl
  exact ⟨spoken.mode, spoken.lineup, spoken.players, spoken.deal, spoken.processed⟩

theorem playerCommand_keeps {actionId : Nat} {action : LiarsPlayerAction} (stays : action ≠ .leave) :
    Keeps place room (leftBy (room.playerCommand ctx player actionId action)) := by
  have same : Keeps place room room := .refl room
  cases action with
  | leave => exact absurd rfl stays
  | rename => exact .ite .refuse (.ite .refuse (.ok (.row fun _ => rfl)))
  | readiness => exact .ite .refuse (.ite (.ok same) (.ok (.row fun _ => rfl)))
  | claimHost => exact .ite .refuse (.ite .refuse (.ok ⟨rfl, rfl, rfl, id, rfl⟩))
  | lastWords => exact sayLastWords_keeps
  | wish => exact .ite (.ok same) (.ok (.row fun _ => rfl))
  | pin | unpin => exact .ite (.ok same) (.ok ⟨rfl, rfl, rfl, id, rfl⟩)
  | graveyardVote => exact .ite .refuse (.ok (.row fun _ => rfl))
  | guess => exact .ite .refuse (.ok (resolveFinalGuess_keeps same))
  | nightSelect | nightLock => exact .ite .refuse nightCommand_keeps
  | clueSaid | clueSkip => exact .ite .refuse clueCommand_keeps
  | clueAllSaid => exact .ite .refuse allSaid_keeps
  | point => exact .ite .refuse (.ite .refuse (.ok (.row fun _ => rfl)))
  | readyToVote => exact .ite .refuse declareReady_keeps
  | castVote | lockVote => exact .ite .refuse voteCommand_keeps

end LiarsRoom

end MilkAndHenny.Liars

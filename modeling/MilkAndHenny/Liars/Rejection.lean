import MilkAndHenny.Liars.Actions

/-! What a refused command leaves behind. The room that a command finds is touched and
advanced whatever the answer, and the draft is stored whatever the answer. -/

namespace MilkAndHenny.Liars

variable {refused : Rejected}

namespace LiarsRoom
variable {ctx : GameContext} {room : LiarsRoom} {now : Int} {configuration : GameConfiguration} {player : PlayerState} {choice : Option (Option Nat)} {action : LiarsHostAction} {jester : Option Nat} {actionId : Nat}

/-! ### Time never leads back to the lobby -/

theorem checkWinner_phase {finished : LiarsRoom}
    (wins : room.checkWinner ctx now jester = some finished) : finished.phase = .ending := by
  obtain ⟨winner, -, rfl⟩ := map_eq_some_iff.mp wins
  rfl

theorem checkWinner_notLobby (playing : room.phase ≠ .lobby) :
    ((room.checkWinner ctx now jester).getD room).phase ≠ .lobby := by
  cases wins : room.checkWinner ctx now jester with
  | none => exact playing
  | some => simp [checkWinner_phase wins]

theorem writeNightReports_phase : (room.writeNightReports ctx).phase = room.phase := by
  simp only [writeNightReports]
  split <;> rfl

theorem startClueRound_phase : (room.startClueRound ctx now).phase = .clue := rfl

theorem startRound_notLobby : (room.startRound ctx now).phase ≠ .lobby := by
  simp only [startRound]
  split <;> simp [startClueRound_phase]

theorem advanceClue_notLobby (playing : room.phase ≠ .lobby) : (room.advanceClue ctx now).phase ≠ .lobby := by
  simp only [advanceClue]
  generalize (if room.roomMode ≠ .remote ∧ room.phaseEndsAt ≤ now then room.clueOrder.length else room.clueIndex + 1) = clueIndex
  split
  · exact playing
  · split <;> simp [startClueRound_phase]

theorem resolveNight_notLobby : (room.resolveNight ctx now).phase ≠ .lobby := by
  exact checkWinner_notLobby (by simp)

theorem resolveVote_notLobby : (room.resolveVote ctx now).phase ≠ .lobby := by
  unfold resolveVote
  split
  · simp only [resolveTie]
    split <;> simp
  · simp [eject]

theorem afterVerdict_notLobby : (room.afterVerdict ctx now).phase ≠ .lobby := by
  unfold afterVerdict
  split
  · next finished wins => simp [checkWinner_phase wins]
  · split
    · simp
    · exact startRound_notLobby

theorem resolveFinalGuess_notLobby {guess : Option String} : (room.resolveFinalGuess ctx now guess).phase ≠ .lobby := by
  simp only [resolveFinalGuess]
  generalize wins : checkWinner ctx _ now none = decided
  cases decided with
  | none => simp [finish]
  | some => simp [checkWinner_phase wins]

theorem advancePhases_notLobby {guard : Nat} (playing : room.phase ≠ .lobby) :
    (advancePhases ctx now guard room).phase ≠ .lobby := by
  induction guard generalizing room with
  | zero => exact playing
  | succ guard ih =>
    unfold advancePhases
    split
    · exact playing
    · split
      · split
        · rwa [writeNightReports_phase]
        · exact playing
      · split
        · exact ih startRound_notLobby
        · exact ih resolveNight_notLobby
        · exact ih (advanceClue_notLobby playing)
        · exact ih (by simp)
        · exact ih (by simp)
        · exact ih resolveVote_notLobby
        · exact ih afterVerdict_notLobby
        · exact ih resolveFinalGuess_notLobby
        · exact playing
        · exact playing

theorem touch_keeps (room : LiarsRoom) (playerId : Option Nat) (now : Int) (force : Bool) :
    ∃ players lastActiveAt hostDisconnectedSince narratorPlayerId, players.length = room.players.length ∧
      room.touch playerId now force =
        { room with players, lastActiveAt, hostDisconnectedSince, narratorPlayerId } := by
  unfold touch
  cases playerId.bind room.player with
  | none => exact ⟨room.players, _, _, _, rfl, rfl⟩
  | some => exact ⟨_, _, _, _, Library.length_updateFirst, rfl⟩

theorem attend_lobby (lobby : room.phase = .lobby) (playerId : Option Nat) (force : Bool) :
    room.attend ctx playerId force = room.touch playerId ctx.now force := by
  obtain ⟨players, active, since, narrator, -, touched⟩ := room.touch_keeps playerId ctx.now force
  simp [attend, advance, touched, lobby]

theorem attend_notLobby (playing : room.phase ≠ .lobby) (playerId : Option Nat) (force : Bool) :
    (room.attend ctx playerId force).phase ≠ .lobby := by
  obtain ⟨players, active, since, narrator, -, touched⟩ := room.touch_keeps playerId ctx.now force
  simp only [attend, advance, touched]
  split
  · exact playing
  · refine advancePhases_notLobby ?_
    split <;> exact playing

/-! ### What a configuration asks for besides its lineup -/

def configuredTimings (room : LiarsRoom) (configuration : GameConfiguration) : LiarsTimings :=
  let moded := configuration.roomMode.elim room.timings fun roomMode =>
    { room.timings with deliberation := (liarsDefaultTimings roomMode).deliberation }
  configuration.timings.elim moded moded.patch

def configuredToggles (room : LiarsRoom) (configuration : GameConfiguration) : LiarsToggles :=
  configuration.toggles.elim room.toggles fun change =>
    let toggles := room.toggles.patch change
    if toggles.liveGodView then { toggles with graveyardVote := false } else toggles

def configuredLineup (room : LiarsRoom) (configuration : GameConfiguration) : LiarsLineup :=
  match configuration.toggles.bind (·.firstGame) with
  | some true => liarsFirstGameLineup room.mode room.players.length
  | some false => liarsDefaultLineup room.mode room.players.length
  | none => room.lineup

/-- Besides its lineup the configuration asks only for what the room already has. -/
structure AsksNothingElse (room : LiarsRoom) (configuration : GameConfiguration) : Prop where
  noReset : configuration.resetLineup = false
  roomMode : configuration.roomMode.getD room.roomMode = room.roomMode
  timings : room.configuredTimings configuration = room.timings
  toggles : room.configuredToggles configuration = room.toggles
  lineup : room.configuredLineup configuration = room.lineup

theorem configureParts_eq (noReset : configuration.resetLineup = false) :
    room.configureParts ctx configuration =
      { room with
        roomMode := configuration.roomMode.getD room.roomMode
        timings := room.configuredTimings configuration
        toggles := room.configuredToggles configuration
        lineup := room.configuredLineup configuration } := by
  obtain ⟨lineup, reset, toggles, timings, roomMode⟩ := configuration
  obtain rfl : reset = false := noReset
  cases toggles with
  | none => cases roomMode <;> cases timings <;> rfl
  | some change =>
    rcases first : change.firstGame with _ | _ | _ <;> cases roomMode <;> cases timings <;>
      simp [configureParts, configureToggles, configureRoomMode, configuredLineup, configuredToggles, configuredTimings, first]

theorem configureParts_keeps : room.configureParts ctx configuration = room ↔ room.AsksNothingElse configuration := by
  constructor
  · intro keeps
    have noReset : configuration.resetLineup = false := by
      cases reset : configuration.resetLineup with
      | false => rfl
      | true =>
        have parted : room.configureParts ctx configuration =
            (room.configureParts ctx { configuration with resetLineup := false }).resetLineup ctx := by
          simp [configureParts, reset]
        have revisions := congrArg LiarsRoom.revision keeps
        rw [parted, configureParts_eq rfl] at revisions
        exact absurd revisions (Nat.succ_ne_self _)
    rw [configureParts_eq noReset] at keeps
    exact {
      noReset
      roomMode := congrArg LiarsRoom.roomMode keeps
      timings := congrArg LiarsRoom.timings keeps
      toggles := congrArg LiarsRoom.toggles keeps
      lineup := congrArg LiarsRoom.lineup keeps }
  · intro asks
    rw [configureParts_eq asks.noReset, asks.roomMode, asks.timings, asks.toggles, asks.lineup]

/-! ### Refused commands -/

theorem hostCommand_refuses (refuses : room.hostCommand ctx action = .error refused) :
    (refused.code ≠ .playersNotReady ∧ refused.room = room) ∨
    (∃ removed, action = .start removed ∧ refused.code = .playersNotReady ∧
      refused.room = room.requestReadiness ctx (room.unconfirmed removed)) ∨
    ∃ configuration, action = .configure configuration ∧ refused.code = .lineupInvalid ∧
      refused.room = room.configureParts ctx configuration ∧ room.managed = false ∧ room.phase = .lobby ∧
      ∃ lineup ∈ configuration.lineup, (liarsValidateLineup room.mode lineup room.players.length).isSome := by
  cases action with
  | admissionSet =>
    simp only [hostCommand] at refuses
    split at refuses
    · cases refuses
      simp
    · split at refuses <;> cases refuses
  | configure configuration =>
    simp only [hostCommand, configure] at refuses
    split at refuses
    · cases refuses
      simp
    · next unmanaged =>
      split at refuses
      · cases refuses
        simp
      · next lobby =>
        split at refuses
        · cases refuses
        · next lineup asked =>
          split at refuses <;> cases refuses
          next problem fails =>
          exact .inr (.inr ⟨configuration, rfl, rfl, rfl, by simpa using unmanaged, by simpa using lobby, lineup, asked,
            by rw [fails]; rfl⟩)
  | start removed =>
    simp only [hostCommand, startGame] at refuses
    split at refuses
    · cases refuses
      simp
    · split at refuses
      · cases refuses
        simp
      · split at refuses
        · cases refuses
          simp
        · split at refuses
          · cases refuses
            exact .inr (.inl ⟨removed, rfl, rfl, rfl⟩)
          · split at refuses
            · cases refuses
              simp
            · split at refuses <;> cases refuses
  | extend | pause | replay | lobby | endGame => cases refuses
  | resume =>
    simp only [hostCommand] at refuses
    split at refuses <;> cases refuses
  | passHost =>
    simp only [hostCommand] at refuses
    split at refuses <;> cases refuses
    simp
  | remove =>
    simp only [hostCommand, removePlayer] at refuses
    split at refuses <;> cases refuses
    simp

def RefusesWith (room : LiarsRoom) (command : Except Rejected LiarsRoom) : Prop :=
  ∀ refused, command = .error refused → refused.room = room

namespace RefusesWith
variable {p : Prop} [Decidable p] {first second : Except Rejected LiarsRoom}

theorem ok {after : LiarsRoom} : room.RefusesWith (.ok after) := fun _ refuses => by cases refuses

theorem error (same : refused.room = room) : room.RefusesWith (.error refused) := fun _ refuses => by
  cases refuses
  exact same

theorem ite (yes : room.RefusesWith first) (no : room.RefusesWith second) : room.RefusesWith (if p then first else second) := by
  split
  · exact yes
  · exact no

end RefusesWith

theorem nightCommand_refuses {round : Nat} : room.RefusesWith (room.nightCommand ctx player round choice) := by
  refine .ite (.error rfl) (.ite (.error rfl) (.ite (.error rfl) ?_))
  cases choice with
  | none => exact .ok
  | some => exact .ite .ok (.error rfl)

theorem voteCommand_refuses : room.RefusesWith (room.voteCommand ctx player choice) := by
  refine .ite (.error rfl) (.ite (.error rfl) ?_)
  cases choice with
  | none => exact .ok
  | some => exact .ite .ok (.error rfl)

theorem playerCommand_refuses {action : LiarsPlayerAction} :
    room.RefusesWith (room.playerCommand ctx player actionId action) := by
  cases action with
  | leave => exact .ok
  | rename | claimHost => exact .ite (.error rfl) (.ite (.error rfl) .ok)
  | readiness => exact .ite (.error rfl) (.ite .ok .ok)
  | lastWords => exact .ite .ok (.error rfl)
  | wish | pin | unpin => exact .ite .ok .ok
  | graveyardVote | guess => exact .ite (.error rfl) .ok
  | nightSelect | nightLock => exact .ite (.error rfl) nightCommand_refuses
  | clueSaid | clueSkip => exact .ite (.error rfl) (.ite (.error rfl) (.ite (.error rfl) .ok))
  | clueAllSaid => exact .ite (.error rfl) (.ite (.error rfl) (.ite .ok .ok))
  | point => exact .ite (.error rfl) (.ite (.error rfl) .ok)
  | readyToVote => exact .ite (.error rfl) (.ite (.error rfl) (.ite .ok .ok))
  | castVote | lockVote => exact .ite (.error rfl) voteCommand_refuses

def hostFinds (ctx : GameContext) (room : LiarsRoom) (input : HostInput) : LiarsRoom :=
  if room.mayHost input then room.attend ctx (input.playerId.filter fun id => (room.player id).isSome) true else room

def playerFinds (ctx : GameContext) (room : LiarsRoom) (input : PlayerInput) : LiarsRoom :=
  if room.mayPlay input then room.attend ctx (some input.playerId) true else room

def refusalLeaves (ctx : GameContext) (found : LiarsRoom) (action : LiarsHostAction) (result : LiarsActionResult) : LiarsRoom :=
  match action, result with
  | .start removed, .rejected _ .playersNotReady _ _ => found.requestReadiness ctx (found.unconfirmed removed)
  | _, _ => found

def HostRefusalKeeps (ctx : GameContext) (room : LiarsRoom) (input : HostInput) : Prop :=
  (room.applyLiarsHostAction ctx input).1.isAccepted = false →
    (room.applyLiarsHostAction ctx input).2 =
      refusalLeaves ctx (room.hostFinds ctx input) input.action (room.applyLiarsHostAction ctx input).1

def PlayerRefusalKeeps (ctx : GameContext) (room : LiarsRoom) (input : PlayerInput) : Prop :=
  (room.applyLiarsPlayerAction ctx input).1.isAccepted = false →
    (room.applyLiarsPlayerAction ctx input).2 = room.playerFinds ctx input

/-- A host configures the open lobby with a lineup that does not pass. -/
def SendsBadLineup (room : LiarsRoom) (input : HostInput) (configuration : GameConfiguration) : Prop :=
  input.action = .configure configuration ∧ room.mayHost input ∧ room.processedActions.contains input.actionId = false ∧
    room.managed = false ∧ room.phase = .lobby ∧
    ∃ lineup ∈ configuration.lineup, (liarsValidateLineup room.mode lineup room.players.length).isSome

theorem answer_refuses {viewerId : Option Nat} {command : Except Rejected LiarsRoom}
    (refused : (room.answer ctx viewerId actionId command).1.isAccepted = false) :
    room.processedActions.contains actionId = false ∧ ∃ refusal, command = .error refusal ∧
      room.answer ctx viewerId actionId command =
        (.rejected (refusal.room.snapshot viewerId ctx.now) refusal.code refusal.error refusal.retryable, refusal.room) := by
  unfold answer at refused ⊢
  cases processed : room.processedActions.contains actionId with
  | true =>
    rw [if_pos processed] at refused
    cases refused
  | false =>
    rw [if_neg (by rw [processed]; exact Bool.false_ne_true)] at refused
    cases command with
    | ok => cases refused
    | error refusal => exact ⟨rfl, refusal, rfl, rfl⟩

theorem playerRefusal_keeps (input : PlayerInput) : room.PlayerRefusalKeeps ctx input := by
  intro refused
  unfold playerFinds
  unfold applyLiarsPlayerAction at refused ⊢
  split at refused
  · next allowed =>
    simp only [allowed, ↓reduceIte]
    generalize room.attend ctx (some input.playerId) true = found at refused ⊢
    cases seated : found.player input.playerId with
    | none => rfl
    | some =>
      simp only [seated] at refused
      obtain ⟨-, refusal, refuses, answered⟩ := answer_refuses refused
      simp only [answered]
      exact playerCommand_refuses refusal refuses
  · next denied => simp [denied]

theorem asksNothingElse_touch {playerId : Option Nat} {force : Bool} :
    (room.touch playerId now force).AsksNothingElse configuration ↔ room.AsksNothingElse configuration := by
  obtain ⟨players, active, since, narrator, same, touched⟩ := room.touch_keeps playerId now force
  have lineup : ({ room with
      players, lastActiveAt := active, hostDisconnectedSince := since, narratorPlayerId := narrator } : LiarsRoom).configuredLineup
        configuration = room.configuredLineup configuration := by
    simp [configuredLineup, same]
  rw [touched]
  exact ⟨fun asks => ⟨asks.noReset, asks.roomMode, asks.timings, asks.toggles, lineup ▸ asks.lineup⟩,
    fun asks => ⟨asks.noReset, asks.roomMode, asks.timings, asks.toggles, lineup ▸ asks.lineup⟩⟩

theorem badLineup_refused {input : HostInput} {configuration : GameConfiguration}
    (sends : room.SendsBadLineup input configuration) : ∃ snapshot error,
      room.applyLiarsHostAction ctx input =
        (.rejected snapshot .lineupInvalid error false, (room.hostFinds ctx input).configureParts ctx configuration) := by
  obtain ⟨action, allowed, fresh, unmanaged, lobby, lineup, asked, fails⟩ := sends
  obtain ⟨problem, found⟩ := isSome_iff_exists.mp fails
  simp only [mem_def] at asked
  simp only [applyLiarsHostAction, hostFinds, allowed, ↓reduceIte, attend_lobby lobby]
  obtain ⟨players, active, since, narrator, same, touched⟩ :=
    room.touch_keeps (input.playerId.filter fun id => (room.player id).isSome) ctx.now true
  have refuses : (room.touch (input.playerId.filter fun id => (room.player id).isSome) ctx.now true).hostCommand ctx input.action =
      .error { room := (room.touch (input.playerId.filter fun id => (room.player id).isSome) ctx.now true).configureParts ctx configuration
               code := .lineupInvalid, error := problem.message } := by
    rw [action, touched]
    simp [hostCommand, configure, unmanaged, lobby, asked, same, found]
  have unseen : (room.touch (input.playerId.filter fun id => (room.player id).isSome) ctx.now true).processedActions.contains
      input.actionId = false := by
    rw [touched]
    exact fresh
  rw [refuses, answer, unseen]
  exact ⟨_, _, rfl⟩

theorem refusalLeaves_found {found : LiarsRoom} {snapshot : LiarsSnapshot}
    {code : LiarsRejectionCode} {error : String} {retryable : Bool} (other : code ≠ .playersNotReady) :
    refusalLeaves ctx found action (.rejected snapshot code error retryable) = found := by
  cases action <;> cases code <;> first | rfl | exact absurd rfl other

theorem hostRefusal_keeps (input : HostInput) : room.HostRefusalKeeps ctx input ↔
    ∀ configuration, room.SendsBadLineup input configuration → room.AsksNothingElse configuration := by
  constructor
  · intro keeps configuration sends
    obtain ⟨snapshot, error, answered⟩ := @badLineup_refused ctx _ _ _ sends
    have left := keeps (by rw [answered]; rfl)
    rw [answered, sends.1] at left
    have found : room.hostFinds ctx input = room.touch (input.playerId.filter fun id => (room.player id).isSome) ctx.now true := by
      rw [hostFinds, if_pos sends.2.1, attend_lobby sends.2.2.2.2.1]
    have asks := configureParts_keeps.mp left
    rwa [found, asksNothingElse_touch] at asks
  · intro asks refused
    by_cases allowed : room.mayHost input
    · have applied : room.applyLiarsHostAction ctx input = (room.hostFinds ctx input).answer ctx input.playerId input.actionId
          ((room.hostFinds ctx input).hostCommand ctx input.action) := by
        simp [applyLiarsHostAction, hostFinds, allowed]
      rw [applied] at refused ⊢
      obtain ⟨fresh, refusal, refuses, answered⟩ := answer_refuses refused
      rw [answered]
      rcases hostCommand_refuses refuses with ⟨other, same⟩ | ⟨removed, starts, code, asked⟩ |
        ⟨configuration, configures, code, parts, unmanaged, lobby, badLineup⟩
      · rw [refusalLeaves_found other]
        exact same
      · rw [starts, code]
        exact asked
      · rw [refusalLeaves_found (by simp [code]), parts]
        have opened : room.phase = .lobby := by
          by_contra playing
          rw [hostFinds, if_pos allowed] at lobby
          exact attend_notLobby playing _ _ lobby
        have found : room.hostFinds ctx input = room.touch (input.playerId.filter fun id => (room.player id).isSome) ctx.now true := by
          rw [hostFinds, if_pos allowed, attend_lobby opened]
        obtain ⟨players, active, since, narrator, same, touched⟩ :=
          room.touch_keeps (input.playerId.filter fun id => (room.player id).isSome) ctx.now true
        rw [found] at fresh unmanaged badLineup ⊢
        rw [touched] at fresh unmanaged badLineup
        exact configureParts_keeps.mpr (asksNothingElse_touch.mpr
          (asks configuration ⟨configures, allowed, fresh, unmanaged, opened, by simpa [same] using badLineup⟩))
    · have applied : room.applyLiarsHostAction ctx input = (.unavailable, room) := by
        simp [applyLiarsHostAction, allowed]
      rw [applied, hostFinds, if_neg allowed]
      cases input.action <;> rfl

end LiarsRoom

/-- Every refused command leaves the room as it found it, but for a host's configuration that
carries a lineup which does not pass: that one does exactly when it asks for nothing else. -/
theorem refusals_keepRoom (ctx : GameContext) (room : LiarsRoom) :
    (∀ input, room.PlayerRefusalKeeps ctx input) ∧
    ∀ input, room.HostRefusalKeeps ctx input ↔
      ∀ configuration, room.SendsBadLineup input configuration → room.AsksNothingElse configuration :=
  ⟨LiarsRoom.playerRefusal_keeps, LiarsRoom.hostRefusal_keeps⟩

def remoteWithoutRoles : LiarsRoom.HostInput where
  hostToken := some (.token 0)
  playerId := none
  playerToken := none
  actionId := 1
  action := .configure { lineup := some ⟨[]⟩, roomMode := some .remote }

/-- The request is refused for its lineup, and the room has changed its mode and its timings. -/
theorem remoteWithoutRoles_leavesRemote :
    let lobby := lobbyOf .mafia {} ["Ada"]
    ¬ lobby.HostRefusalKeeps (.plain 2) remoteWithoutRoles ∧
    (lobby.applyLiarsHostAction (.plain 2) remoteWithoutRoles).1.isAccepted = false ∧
    (lobby.applyLiarsHostAction (.plain 2) remoteWithoutRoles).2.roomMode = .remote ∧ lobby.roomMode = .sameRoom := by
  refine ⟨fun keeps => ?_, by decide +kernel, by decide +kernel, by decide +kernel⟩
  have left := congrArg LiarsRoom.roomMode (keeps (by decide +kernel))
  exact absurd left (by decide +kernel)

end MilkAndHenny.Liars

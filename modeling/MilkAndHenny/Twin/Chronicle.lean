import MilkAndHenny.Twin.Playable

/-! What a command writes to the log of a game: the heats that it settles, numbered one after another, and
nothing any more where it begins a game or leaves one. -/

namespace MilkAndHenny.Twin
variable {room : TwinRoom}
open Library Multiplayer

/-- `TwinGameEvent`. -/
inductive LogEvent where
  | append (entries : List TwinLoggedHeat)
  | clear

def LogEvent.entries : LogEvent → List TwinLoggedHeat
  | .append entries => entries
  | .clear => []

def LogEvent.apply (log : List TwinLoggedHeat) : LogEvent → List TwinLoggedHeat
  | .append entries => log ++ entries
  | .clear => []

/-- `emitLog`: the heats that were settled between two rooms, if there are any. -/
def emitLog (room after : TwinRoom) : List LogEvent :=
  match after.loggedHeats.drop room.loggedHeats.length with
  | [] => []
  | entry :: entries => [.append (entry :: entries)]

/-- The actions that call `emitLogClear`. -/
def TwinAction.clears : TwinAction → Bool
  | .start _ | .replay | .lobby => true
  | _ => false

def Verdict.events (room attended : TwinRoom) (action : TwinAction) : Verdict → List LogEvent
  | .accept after => emitLog room attended ++ if action.clears then [.clear] else emitLog attended after
  | .reject after code _ =>
    emitLog room attended ++ if action = .replay ∧ code = .deckTooSmall then [.clear] else emitLog attended after
  | .fail => []

def TwinRoom.actionEvents (ctx : GameContext) (room : TwinRoom) (input : ActionInput) : List LogEvent :=
  match room.authenticatedPlayer input.playerId input.playerToken with
  | none => []
  | some player =>
    if room.processedActions.contains (input.actionId.getD ctx.newId) || player.withdrawn || input.action = .leave then []
    else
      let attended := room.attend ctx player.id
      (attended.player player.id).elim [] fun player => (attended.command ctx player input.action).events room attended input.action

def Command.events : Command → TwinRoom → List LogEvent
  | .join ctx input, room => emitLog room (room.joinTwinRoom ctx input).2
  | .read ctx input, room => emitLog room (room.readTwinSnapshot ctx input).2
  | .act ctx input, room => room.actionEvents ctx input

/-- Of every heat that was ever settled, the game that it was of. -/
abbrev History : Type := List (Nat × TwinLoggedHeat)

def History.ofGame (history : History) (gameNumber : Nat) : List TwinLoggedHeat :=
  (history.filter (·.1 == gameNumber)).map Prod.snd

def Command.remember (command : Command) (room : TwinRoom) (history : History) : History :=
  history ++ ((command.events room).flatMap LogEvent.entries).map (room.gameNumber, ·)

def TwinRoom.settled (room : TwinRoom) : Nat :=
  match room.phase with
  | .settle | .finished => room.heatCount
  | _ => room.heatCount - 1

structure Right (room : TwinRoom) (log : List TwinLoggedHeat) (history : History) : Prop where
  waiting : room.phase = .lobby ∨ room.phase = .dealing → room.heatCount = 0
  playing : room.phase = .heat → ∃ heat, room.heat = some heat ∧ heat.number = room.heatCount ∧ heat.results = [] ∧ 0 < heat.number
  numbers : room.phase ≠ .closed → log.map (·.number) = List.range' 1 room.settled
  ours : log = history.ofGame room.gameNumber
  past : ∀ entry ∈ history, entry.1 ≤ room.gameNumber

structure Goes (room after : TwinRoom) (entries : List TwinLoggedHeat) : Prop where
  log : after.loggedHeats = room.loggedHeats ++ entries
  game : after.gameNumber = room.gameNumber
  right : ∀ {log history}, Sound room → Right room log history →
    Right after (log ++ entries) (history ++ entries.map (room.gameNumber, ·))

/-- Another game: nothing of it has been settled. -/
structure Restarts (room after : TwinRoom) : Prop where
  log : after.loggedHeats = []
  right : ∀ {log history}, Right room log history → Right after [] history

section
variable {ctx : GameContext} {room found after : TwinRoom} {now : Int} {entries others : List TwinLoggedHeat} {player : PlayerState}

theorem Goes.trans (sound : Sound room → Sound found) (first : Goes room found entries) (second : Goes found after others) :
    Goes room after (entries ++ others) where
  log := by rw [second.log, first.log, append_assoc]
  game := second.game.trans first.game
  right kept right := by
    have last := second.right (sound kept) (first.right kept right)
    rw [first.game, append_assoc, append_assoc, ← map_append] at last
    exact last

def TwinRoom.chronicle (room : TwinRoom) : TwinPhase × Nat × Nat × List TwinLoggedHeat × Option (Nat × List TwinHeatResult) :=
  (room.phase, room.gameNumber, room.heatCount, room.loggedHeats, room.heat.map fun heat => (heat.number, heat.results))

theorem Right.congr {log : List TwinLoggedHeat} {history : History} (right : Right room log history)
    (same : after.chronicle = room.chronicle) : Right after log history := by
  simp only [TwinRoom.chronicle, Prod.mk.injEq] at same
  obtain ⟨phase, game, count, -, heats⟩ := same
  refine ⟨by rw [phase, count]; exact right.waiting, fun playing => ?_, ?_, by rw [game]; exact right.ours, by rw [game]; exact right.past⟩
  · obtain ⟨heat, current, number, results, positive⟩ := right.playing (phase ▸ playing)
    rw [current] at heats
    obtain ⟨heat', current', same⟩ := map_eq_some_iff.mp heats
    obtain ⟨number', results'⟩ := Prod.mk.inj same
    exact ⟨heat', current', by rw [number', number, count], by rw [results', results], number' ▸ positive⟩
  · rw [TwinRoom.settled, phase, count]
    exact right.numbers

theorem goes_quiet (same : after.chronicle = room.chronicle) : Goes room after [] where
  log := by
    rw [append_nil]
    exact congrArg (fun chronicle => chronicle.2.2.2.1) same
  game := congrArg (fun chronicle => chronicle.2.1) same
  right _ right := by
    rw [append_nil, map_nil, append_nil]
    exact right.congr same

theorem Goes.refl (room : TwinRoom) : Goes room room [] := goes_quiet rfl

theorem goes_startHeat (due : room.phase = .dealing ∨ room.phase = .settle) : Goes room (room.startHeat ctx now) [] := by
  unfold TwinRoom.startHeat
  cases room.middle with
  | none => exact .refl room
  | some =>
    refine ⟨(append_nil _).symm, rfl, fun _ right => ?_⟩
    rw [append_nil, map_nil, append_nil]
    refine ⟨fun waiting => by simp [TwinRoom.enterHeat] at waiting, fun _ => ⟨_, rfl, rfl, rfl, Nat.succ_pos _⟩, fun _ => ?_, right.ours,
      right.past⟩
    rw [right.numbers (by rcases due with same | same <;> simp [same])]
    change _ = List.range' 1 room.heatCount
    rcases due with same | same
    · simp [TwinRoom.settled, same, right.waiting (.inr same)]
    · simp [TwinRoom.settled, same]

theorem ofGame_append (history : History) (gameNumber : Nat) (entries : List TwinLoggedHeat) :
    History.ofGame (history ++ entries.map (gameNumber, ·)) gameNumber = history.ofGame gameNumber ++ entries := by
  simp [History.ofGame, filter_map, Function.comp_def]

theorem goes_settleHeat (ctx : GameContext) (now : Int) (playing : room.phase = .heat) : ∃ entries, Goes room (room.settleHeat ctx now) entries := by
  unfold TwinRoom.settleHeat
  split
  · exact ⟨[], .refl room⟩
  · next heat unsettled =>
    extract_lets outcome payout results logged
    refine ⟨logged.toList, rfl, rfl, fun sound right => ?_⟩
    obtain ⟨heat', current, middle, _⟩ := sound.live playing
    cases some.inj ((filter_eq_some_iff.mp unsettled).1.symm.trans current)
    obtain ⟨other, current', number, -, positive⟩ := right.playing playing
    cases some.inj (current.symm.trans current')
    obtain ⟨_, distinct⟩ := sound.dealt (.inr (.inl playing))
    have known := distinct.known heat.middle (by rw [TwinRoom.table, middle]; exact mem_cons_self)
    obtain ⟨card, dealt⟩ := isSome_iff_exists.mp known
    have entered : logged.toList.map (·.number) = [room.heatCount] := by
      simp [logged, TwinRoom.dealtCard, dealt, number]
    refine ⟨fun waiting => by simp at waiting, fun playing => by simp at playing, fun _ => ?_, ?_, ?_⟩
    · have count : room.heatCount = room.settled + 1 := by
        simp only [TwinRoom.settled, playing]
        omega
      rw [map_append, entered, right.numbers (by simp [playing])]
      change _ = List.range' 1 room.heatCount
      rw [count, List.range'_1_concat, Nat.add_comm]
    · exact right.ours ▸ (ofGame_append ..).symm
    · intro entry mem
      obtain old | new := mem_append.mp mem
      · exact right.past entry old
      · obtain ⟨_, _, rfl⟩ := mem_map.mp new
        exact Nat.le_refl _

/-- Whatever the clock does, it goes on. -/
theorem goes_advance (ctx : GameContext) (now : Int) (sound : Sound room) : ∃ entries, Goes room (room.advance ctx now) entries := by
  have dealing : Goes room (room.advanceDealing ctx now) [] := by
    unfold TwinRoom.advanceDealing
    split
    · next due => exact goes_startHeat (.inl due.1)
    · exact .refl room
  have sound' : Sound (room.advanceDealing ctx now) := sound.moves TwinRoom.advanceDealing_moves
  unfold TwinRoom.advance
  generalize room.advanceDealing ctx now = dealt at *
  have closing : Goes dealt (dealt.closeHeat ctx now) [] := by
    unfold TwinRoom.closeHeat
    split
    · exact .refl dealt
    · next heat live =>
      split
      · refine goes_quiet ?_
        simp only [TwinRoom.chronicle, (TwinRoom.liveHeat_eq_some live).1]
        rfl
      · exact .refl dealt
  have heat : ∃ entries, Goes dealt (dealt.advanceHeat ctx now) entries := by
    unfold TwinRoom.advanceHeat
    extract_lets closed
    split
    · next due =>
      cases live : closed.liveHeat with
      | none => simp [live] at due
      | some =>
        obtain ⟨entries, settles⟩ := goes_settleHeat ctx now (TwinRoom.liveHeat_eq_some live).2
        exact ⟨_, closing.trans (fun sound => sound.mild TwinRoom.closeHeat_mild) settles⟩
    · exact ⟨[], closing⟩
  have settle {room : TwinRoom} : Goes room (room.advanceSettle ctx now) [] := by
    unfold TwinRoom.advanceSettle
    split
    · next due =>
      split
      · refine ⟨(append_nil _).symm, rfl, fun _ right => ?_⟩
        rw [append_nil, map_nil, append_nil]
        refine ⟨fun waiting => by simp at waiting, fun playing => by simp at playing, fun _ => ?_, right.ours, right.past⟩
        rw [right.numbers (by simp [due.1]), TwinRoom.settled, due.1]
        rfl
      · exact goes_startHeat (.inr due.1)
    · exact .refl room
  obtain ⟨entries, goes⟩ := heat
  exact ⟨_, dealing.trans (fun _ => sound') (goes.trans (fun sound => sound.moves TwinRoom.advanceHeat_moves) settle)⟩

theorem goes_driven (sound : Sound room) (mild : Mild room found) (same : found.chronicle = room.chronicle) :
    ∃ entries, Goes room (found.advance ctx now) entries := by
  obtain ⟨entries, goes⟩ := goes_advance ctx now (sound.mild mild)
  exact ⟨_, (goes_quiet same).trans (fun sound => sound.mild mild) goes⟩

/-! ### The actions -/

theorem restarts_of (log : after.loggedHeats = []) (phase : after.phase = .lobby ∨ after.phase = .dealing)
    (game : after.gameNumber = room.gameNumber + 1 ∧ after.heatCount = 0 ∨
      room.phase = .lobby ∧ after.gameNumber = room.gameNumber ∧ after.heatCount = room.heatCount) : Restarts room after where
  log := log
  right {log history} right := by
    have fresh : after.heatCount = 0 ∧ room.gameNumber ≤ after.gameNumber ∧ history.ofGame after.gameNumber = [] := by
      rcases game with ⟨next, none⟩ | ⟨lobby, same, count⟩
      · refine ⟨none, by omega, ?_⟩
        rw [History.ofGame, map_eq_nil_iff, filter_eq_nil_iff]
        intro entry mem
        have older := right.past entry mem
        simp only [beq_iff_eq]
        omega
      · have none := right.waiting (.inl lobby)
        have numbers := right.numbers (by simp [lobby])
        rw [TwinRoom.settled, lobby, none] at numbers
        exact ⟨count.trans none, by omega, by rw [same, ← right.ours]; exact map_eq_nil_iff.mp numbers⟩
    refine ⟨fun _ => fresh.1, ?_, fun _ => ?_, fresh.2.2.symm, fun entry mem => (right.past entry mem).trans fresh.2.1⟩
    · rcases phase with same | same <;> simp [same]
    · rcases phase with same | same <;> simp [TwinRoom.settled, same, fresh.1]

theorem applyDeal_chronicle {plan : TwinDeckPlan} (dealt : room.applyDeal ctx plan now = some after) :
    after.phase = .dealing ∧ after.gameNumber = room.gameNumber ∧ after.heatCount = room.heatCount ∧ after.loggedHeats = room.loggedHeats := by
  obtain ⟨deal, -, made⟩ := bind_eq_some_iff.mp dealt
  extract_lets seedCounter table at made
  split at made
  · exact some.inj made ▸ ⟨rfl, rfl, rfl, rfl⟩
  · cases made

def Verdict.Tells (room : TwinRoom) (action : TwinAction) : Verdict → Prop
  | .accept after => if action.clears then Restarts room after else ∃ entries, Goes room after entries
  | .reject after code _ => ¬ (action = .replay ∧ code = .deckTooSmall) ∧ ∃ entries, Goes room after entries
  | .fail => True

theorem goes_leave (playerId : Nat) : Goes room (room.leave ctx playerId) [] := by
  obtain ⟨host, handed⟩ := room.transferHost_eq playerId ctx.now
  unfold TwinRoom.leave
  rw [handed]
  extract_lets left
  split
  · refine ⟨(append_nil _).symm, rfl, fun _ right => ?_⟩
    rw [append_nil, map_nil, append_nil]
    exact ⟨fun waiting => by simp at waiting, fun playing => by simp at playing, absurd rfl, right.ours, right.past⟩
  · exact goes_quiet rfl

theorem start_tells (lobby : room.phase = .lobby) (playerId : Nat) (removePlayerIds : List Nat) :
    (room.start ctx playerId removePlayerIds).Tells room (.start removePlayerIds) := by
  have seats : (room.removeUnready ctx playerId removePlayerIds).chronicle = room.chronicle := by
    unfold TwinRoom.removeUnready
    split <;> rfl
  unfold TwinRoom.start
  extract_lets asks seated
  split
  · refine ⟨nofun, [], goes_quiet ?_⟩
    unfold TwinRoom.requestReadiness
    split <;> rfl
  · cases seated.planned with
    | none => exact ⟨nofun, [], goes_quiet seats⟩
    | some plan =>
      cases dealt : { seated with loggedHeats := [] }.applyDeal ctx plan ctx.now with
      | none => simp only [dealt, Verdict.Tells]
      | some =>
        simp only [dealt]
        obtain ⟨phase, game, count, log⟩ := applyDeal_chronicle dealt
        exact restarts_of log (.inr phase) (.inr ⟨lobby, game.trans (congrArg (·.2.1) seats), count.trans (congrArg (·.2.2.1) seats)⟩)

theorem replay_tells (sound : Sound room) : (room.replay ctx).Tells room .replay := by
  unfold TwinRoom.replay
  extract_lets cleared
  obtain ⟨plan, planned⟩ := planTwinDeck_admitted sound.seats cleared.requestedHandSize
  rw [show cleared.planned = some plan from planned]
  cases dealt : cleared.applyDeal ctx plan ctx.now with
  | none => simp only [dealt, Verdict.Tells]
  | some =>
    simp only [dealt]
    obtain ⟨-, game, -, log⟩ := applyDeal_chronicle dealt
    exact restarts_of log (.inr (applyDeal_chronicle dealt).1) (.inl ⟨congrArg (· + 1) game, rfl⟩)

theorem carryOut_tells (sound : Sound room) (found : room.player player.id = some player) {action : TwinAction}
    (open_ : room.refusal ctx player action = none) : (room.carryOut ctx player action).Tells room action := by
  cases action with
  | rename => exact ⟨[], goes_quiet rfl⟩
  | readiness =>
    simp only [TwinRoom.carryOut]
    split <;> exact ⟨[], goes_quiet rfl⟩
  | tap heatId symbolId elapsedMs =>
    obtain ⟨_, live, _, _, _, _, _, _, held, _⟩ := TwinRoom.tapRefusal_eq_none open_
    simp only [TwinRoom.carryOut]
    split
    · refine goes_driven sound (TwinRoom.land_mild (fun row mem => ?_) elapsedMs) ?_
      · rw [found] at mem
        exact mem_some.mp mem ▸ held
      · unfold TwinRoom.land
        simp only [TwinRoom.chronicle, (TwinRoom.liveHeat_eq_some live).1]
        rfl
    · exact ⟨(fun again => by cases again.1), [], goes_quiet rfl⟩
  | admissionSet =>
    simp only [TwinRoom.carryOut]
    split <;> exact ⟨[], goes_quiet rfl⟩
  | passHost => exact ⟨[], goes_quiet rfl⟩
  | configure handSize windowMs graceMs =>
    change (room.configure ctx handSize windowMs graceMs).Tells room _
    unfold TwinRoom.configure
    extract_lets asked
    cases asked.planned with
    | none => exact ⟨(fun again => by cases again.1), [], goes_quiet rfl⟩
    | some => exact ⟨[], goes_quiet rfl⟩
  | timing => exact ⟨[], goes_quiet rfl⟩
  | start removePlayerIds =>
    have lobby : room.phase = .lobby := by
      have unrefused := TwinRoom.host_open open_
      by_contra apart
      simp only [TwinRoom.hostRefusal, if_neg apart, reduceCtorEq] at unrefused
    exact start_tells lobby player.id removePlayerIds
  | nextHeat =>
    refine goes_driven sound { Mild.refl room with heat := Option.map_map .. } ?_
    simp only [TwinRoom.chronicle, Option.map_map]
    rfl
  | replay => exact replay_tells sound
  | lobby => exact restarts_of rfl (.inl rfl) (.inl ⟨rfl, rfl⟩)
  | leave => exact ⟨[], goes_leave player.id⟩

theorem command_tells (ctx : GameContext) {id : Nat} (sound : Sound room) (found : room.player id = some player) (action : TwinAction) :
    (room.command ctx player action).Tells room action := by
  cases TwinRoom.player_id found
  unfold TwinRoom.command
  cases refused : room.refusal ctx player action with
  | none => exact carryOut_tells sound found refused
  | some =>
    refine ⟨?_, [], .refl room⟩
    rintro ⟨rfl, deck⟩
    simp only [TwinRoom.refusal, TwinRoom.hostRefusal] at refused
    repeat' split at refused
    all_goals cases refused
    all_goals cases deck

theorem goes_attend (ctx : GameContext) (sound : Sound room) (playerId : Nat) : ∃ entries, Goes room (room.attend ctx playerId) entries :=
  goes_driven sound (.updatePlayer fun row _ => { Alike.refl row with }) rfl

theorem goes_join (ctx : GameContext) (sound : Sound room) (input : JoinInput) : ∃ entries, Goes room (room.joinTwinRoom ctx input).2 entries := by
  obtain ⟨entries, goes⟩ := goes_advance ctx ctx.clock sound
  have joins : Goes (room.advance ctx ctx.clock) (room.joinTwinRoom ctx input).2 [] := by
    refine goes_quiet ?_
    unfold TwinRoom.joinTwinRoom
    generalize room.advance ctx ctx.clock = room
    have seats (name : String) (token : Secret) (joinId : Option Nat) : (room.seat ctx name token joinId).chronicle = room.chronicle := by
      obtain ⟨order, handSize, seated⟩ := room.seat_eq ctx name token joinId
      rw [seated]
      rfl
    unfold TwinRoom.join
    extract_lets existing token name seated
    clear_value existing
    repeat' split
    all_goals first | rfl | exact seats name token _
  exact ⟨_, goes.trans (fun sound => sound.moves TwinRoom.advance_moves) joins⟩

theorem goes_read (ctx : GameContext) (sound : Sound room) (input : ReadInput) : ∃ entries, Goes room (room.readTwinSnapshot ctx input).2 entries := by
  unfold TwinRoom.readTwinSnapshot
  split
  · exact ⟨[], .refl room⟩
  · exact goes_driven sound (.updatePlayer fun row _ => { Alike.refl row with }) rfl

structure Tells (room after : TwinRoom) (events : List LogEvent) : Prop where
  log : events.foldl LogEvent.apply room.loggedHeats = after.loggedHeats
  right : ∀ {log history}, Sound room → Right room log history →
    Right after (events.foldl LogEvent.apply log) (history ++ (events.flatMap LogEvent.entries).map (room.gameNumber, ·))

theorem emitLog_goes (goes : Goes room after entries) :
    (∀ log, (emitLog room after).foldl LogEvent.apply log = log ++ entries) ∧ (emitLog room after).flatMap LogEvent.entries = entries := by
  unfold emitLog
  rw [goes.log, drop_left]
  cases entries <;> simp [LogEvent.apply, LogEvent.entries]

theorem Goes.tells (goes : Goes room after entries) : Tells room after (emitLog room after) := by
  obtain ⟨applied, written⟩ := emitLog_goes goes
  exact ⟨by rw [applied, goes.log], fun sound right => by rw [applied, written]; exact goes.right sound right⟩

theorem Goes.tells_on (sound : Sound room → Sound found) (first : Goes room found entries) (second : Goes found after others) :
    Tells room after (emitLog room found ++ emitLog found after) := by
  have whole := first.trans sound second
  obtain ⟨applied, written⟩ := emitLog_goes first
  obtain ⟨applied', written'⟩ := emitLog_goes second
  refine ⟨?_, fun sound right => ?_⟩
  · rw [foldl_append, applied, applied', whole.log, append_assoc]
  · rw [foldl_append, applied, applied', flatMap_append, written, written', append_assoc]
    exact whole.right sound right

theorem Goes.tells_clear (first : Goes room found entries) (restarts : Restarts found after) :
    Tells room after (emitLog room found ++ [.clear]) := by
  obtain ⟨-, written⟩ := emitLog_goes first
  refine ⟨?_, fun sound right => ?_⟩
  · rw [foldl_append, restarts.log]
    rfl
  · rw [foldl_append, flatMap_append, written]
    simpa [LogEvent.apply, LogEvent.entries] using restarts.right (first.right sound right)

theorem tells_quiet (same : after.chronicle = room.chronicle) : Tells room after [] where
  log := (congrArg (fun chronicle => chronicle.2.2.2.1) same).symm
  right _ right := by
    rw [List.flatMap_nil, map_nil, append_nil]
    exact right.congr same

theorem goes_tells_nothing (goes : Goes room after []) : Tells room after [] :=
  ⟨by simpa using goes.log.symm, fun sound right => by simpa using goes.right sound right⟩

theorem Tells.congr {events : List LogEvent} {last : TwinRoom} (tells : Tells room after events) (same : last.chronicle = after.chronicle) :
    Tells room last events :=
  ⟨tells.log.trans (congrArg (fun chronicle => chronicle.2.2.2.1) same).symm, fun sound right => (tells.right sound right).congr same⟩

end

theorem conclude_chronicle (ctx : GameContext) (room after : TwinRoom) (playerId actionId : Nat) :
    (room.conclude ctx playerId actionId (.accept after)).2.chronicle = after.chronicle := by
  simp [TwinRoom.conclude, TwinRoom.rememberAction, TwinRoom.chronicle]

theorem TwinRoom.actionEvents_tell (ctx : GameContext) (sound : Sound room) (input : ActionInput) :
    Tells room (room.applyTwinAction ctx input).2 (room.actionEvents ctx input) := by
  unfold TwinRoom.applyTwinAction TwinRoom.actionEvents
  extract_lets actionId
  cases room.authenticatedPlayer input.playerId input.playerToken with
  | none => exact tells_quiet rfl
  | some player =>
    by_cases known : room.processedActions.contains actionId
    · simp only [known, actionId, if_true, Bool.true_or]
      exact tells_quiet (conclude_chronicle ..)
    · cases gone : player.withdrawn with
      | true =>
        simp only [known, gone, Bool.or_true, Bool.true_or, if_true, false_eq_true, if_false]
        split
        · exact tells_quiet (conclude_chronicle ..)
        · exact tells_quiet rfl
      | false =>
        by_cases leaves : input.action = .leave
        · simp only [known, gone, leaves, decide_true, Bool.or_true, if_true, false_eq_true, if_false]
          exact (goes_tells_nothing (goes_leave player.id)).congr (conclude_chronicle ..)
        · simp only [known, actionId, gone, leaves, decide_false, Bool.or_false, false_eq_true, if_false]
          obtain ⟨entries, attends⟩ := goes_attend ctx sound player.id
          have sound' : Sound (room.attend ctx player.id) := sound.moves (attend_moves player.id)
          generalize room.attend ctx player.id = attended at *
          cases found : attended.player player.id with
          | none => exact tells_quiet rfl
          | some judged =>
            have tells := command_tells ctx sound' found input.action
            simp only [elim_some]
            generalize attended.command ctx judged input.action = verdict at tells
            cases verdict with
            | accept =>
              simp only [Verdict.Tells, Verdict.events] at tells ⊢
              split at tells
              · next clears =>
                rw [if_pos clears]
                exact (attends.tells_clear tells).congr (conclude_chronicle ..)
              · next goes_on =>
                obtain ⟨others, goes⟩ := tells
                rw [if_neg goes_on]
                exact (attends.tells_on (fun _ => sound') goes).congr (conclude_chronicle ..)
            | reject =>
              obtain ⟨kept, others, goes⟩ := tells
              simp only [Verdict.events, if_neg kept]
              exact attends.tells_on (fun _ => sound') goes
            | fail => exact tells_quiet rfl

theorem Command.tells (sound : Sound room) (command : Command) : Tells room (command.apply room) (command.events room) := by
  cases command with
  | join ctx input =>
    obtain ⟨entries, goes⟩ := goes_join ctx sound input
    exact goes.tells
  | read ctx input =>
    obtain ⟨entries, goes⟩ := goes_read ctx sound input
    exact goes.tells
  | act ctx input => exact TwinRoom.actionEvents_tell ctx sound input

end MilkAndHenny.Twin

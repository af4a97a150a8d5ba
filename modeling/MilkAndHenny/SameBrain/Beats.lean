import MilkAndHenny.SameBrain.Turns

/-! The beats of a room: the phase, its clock and what everybody has written. Whatever is asked of a room
does one thing to the beat that it finds. -/

namespace MilkAndHenny.SameBrain
open Library Multiplayer

/-- What a player has written. -/
structure Sheet where
  id : Nat
  out : Bool
  answer : Option String

/-- A player who is playing has no answer yet. -/
def Sheet.owed (sheet : Sheet) : Bool := !sheet.out && sheet.answer.isNone

def PlayerState.sheet (player : PlayerState) : Sheet := ⟨player.id, player.out, player.answer⟩

structure Beat where
  gameNumber : Nat
  round : Nat
  phase : SameBrainPhase
  phaseStartedAt : Int
  phaseEndsAt : Int
  pausedAt : Option Int
  sheets : List Sheet

namespace Beat

def enter (beat : Beat) (phase : SameBrainPhase) (now duration : Int) : Beat :=
  { beat with phase, phaseStartedAt := now, phaseEndsAt := if 0 < duration then now + duration else 0 }

/-- Somebody's answer is still missing. -/
def owed (beat : Beat) : Bool := beat.sheets.any Sheet.owed

def write (beat : Beat) (id : Nat) (answer : Option String) : Beat :=
  { beat with sheets := updateFirst beat.sheets (·.id == id) fun sheet => { sheet with answer } }

def withdraw (beat : Beat) (id : Nat) : Beat :=
  { beat with sheets := updateFirst beat.sheets (·.id == id) fun sheet => { sheet with out := true, answer := none } }

/-- The answer of anybody else is missing. -/
def owedBesides (beat : Beat) (id : Nat) : Bool := (beat.sheets.eraseP (·.id == id)).any Sheet.owed

theorem withdraw_owed (beat : Beat) (id : Nat) : (beat.withdraw id).owed = beat.owedBesides id :=
  any_updateFirst_gone fun _ => rfl

theorem write_owed (beat : Beat) (id : Nat) (text : String) : (beat.write id (some text)).owed = beat.owedBesides id :=
  any_updateFirst_gone fun sheet => Bool.and_false (!sheet.out)

end Beat

def SameBrainPhase.stops : SameBrainPhase → Bool
  | .prompt | .submit | .reveal => true
  | .lobby | .sayIt | .ending => false

/-- The action takes a result back. -/
def SameBrainHostAction.corrects : SameBrainHostAction → Bool
  | .merge .. | .reset _ => true
  | _ => false

/-- What is asked of a room. -/
inductive Request where
  | host (action : SameBrainHostAction)
  | play (player : PlayerState) (action : SameBrainPlayerAction)

namespace SameBrainRoom

variable (locale : Locale) (room : SameBrainRoom)

def beat : Beat where
  gameNumber := room.gameNumber
  round := room.round
  phase := room.phase
  phaseStartedAt := room.phaseStartedAt
  phaseEndsAt := room.phaseEndsAt
  pausedAt := room.pausedAt
  sheets := room.players.map PlayerState.sheet

def endsWithout (id : Nat) : Bool :=
  (room.rounds : Nat) ≤ room.round || (room.toggles.eliminateOddOne && decide ((room.players.eraseP (·.id == id)).countP (!·.out) < 2))

def takes (player : PlayerState) (round : Nat) : Bool :=
  !player.out && (room.phase == .submit || room.phase == .prompt) && round == room.round

def accepts (player : PlayerState) (round : Nat) (text : String) : Bool :=
  room.takes player round && answerIsUsable locale text

def enters : Request → Bool
  | .host .advance => room.phase != .lobby && room.phase != .ending
  | .host .skipQuestion => room.phase == .prompt || room.phase == .submit
  | .host (.start _) => room.phase == .lobby
  | .host .replay | .host .lobby | .host .endGame => true
  | .play player .leave => room.phase != .lobby && room.endsWithout player.id
  | .play player (.submit round text) =>
      room.phase == .submit && room.accepts locale player round text && !room.beat.owedBesides player.id
  | _ => false

def acts : Request → Bool
  | .host .advance | .host .replay | .host .lobby | .host .endGame => true
  | .host .skipQuestion => room.phase == .prompt || room.phase == .submit
  | .host .extend => room.phaseEndsAt != 0
  | .host .pause => room.pausedAt.isNone
  | .host .resume => room.pausedAt.isSome
  | .host (.remove _) | .play _ .leave => true
  | .play player (.submit round text) => room.accepts locale player round text
  | .play player (.clear round) => room.takes player round
  | _ => false

inductive Deed (ctx : GameContext) (found : SameBrainRoom) : Option Request → Beat → Prop where
  | rests {request : Option Request} (waits : found.phase.stops → request.all (!found.acts ctx.locale ·)) :
      Deed ctx found request found.beat
  | seats {request : Option Request} {sheets : List Sheet} (lobby : found.phase = .lobby) :
      Deed ctx found request { found.beat with sheets }
  | regroups {action : SameBrainHostAction} {sheets : List Sheet} (corrects : action.corrects)
      (revealed : found.phase = .reveal) :
      Deed ctx found (some (.host action)) { found.beat with sheets }
  | extends_ (timed : found.phaseEndsAt ≠ 0) :
      Deed ctx found (some (.host .extend)) { found.beat with phaseEndsAt := found.phaseEndsAt + 20000 }
  | pauses (running : found.pausedAt = none) (stops : found.phase.stops) :
      Deed ctx found (some (.host .pause)) { found.beat with pausedAt := some ctx.now }
  | resumes {since : Int} (paused : found.pausedAt = some since) :
      Deed ctx found (some (.host .resume))
        { found.beat with phaseEndsAt := if found.phaseEndsAt =
          0 then 0 else found.phaseEndsAt + max 0 (ctx.now - since), pausedAt := none }
  | opens {duration : Int} (asked : found.phase = .prompt) :
      Deed ctx found (some (.host .advance)) (found.beat.enter .submit ctx.now duration)
  | enters {request : Request} {beat : Beat} (moves : found.enters ctx.locale request) (elsewhere : beat.phase ≠ .submit)
      (closes : request = .host .advance → found.phase ≠ .prompt) (paused : beat.pausedAt = found.pausedAt) :
      Deed ctx found (some request) beat
  | removes {id : Nat} (begun : found.phase ≠ .lobby) : Deed ctx found (some (.host (.remove id))) (found.beat.withdraw id)
  | leaves {player : PlayerState} (begun : found.phase ≠ .lobby) (further : found.endsWithout player.id = false) :
      Deed ctx found (some (.play player .leave)) (found.beat.withdraw player.id)
  | answers {player : PlayerState} {round : Nat} {text answer : String} (accepted : found.accepts ctx.locale player round text)
      (waits : found.phase = .submit → found.beat.owedBesides player.id) :
      Deed ctx found (some (.play player (.submit round text))) (found.beat.write player.id (some answer))
  | clears {player : PlayerState} {round : Nat} (seated : found.player player.id = some player)
      (taken : found.takes player round) :
      Deed ctx found (some (.play player (.clear round))) (found.beat.write player.id none)

section
variable {ctx : GameContext} {room found : SameBrainRoom} {now : Int} {request : Option Request} {beat : Beat} {change : PlayerState → PlayerState} {player : PlayerState} {id : Nat} {round : Nat}

theorem Deed.of_eq (deed : Deed ctx found request beat) {other : Beat} (same : other = beat) :
    Deed ctx found request other := same ▸ deed

/-! ### What the functions of the engine do to the beat -/

@[simp] theorem changed_beat : (changed ctx room).beat = room.beat := rfl

theorem enterPhase_beat (phase : SameBrainPhase) :
    (room.enterPhase ctx phase now).beat = room.beat.enter phase now (room.phaseDuration phase) := rfl

theorem beat_players {players : List PlayerState} (same : players.map PlayerState.sheet = room.players.map PlayerState.sheet) :
    ({ room with players } : SameBrainRoom).beat = room.beat := by simp [beat, same]

theorem updatePlayer_beat (same : ∀ row, (change row).sheet = row.sheet) :
    (room.updatePlayer id change).beat = room.beat := beat_players (map_updateFirst same)

theorem row_beat (ctx : GameContext) (same : ∀ row, (change row).sheet = row.sheet) :
    (changed ctx (room.updatePlayer id change)).beat = room.beat := changed_beat.trans (updatePlayer_beat same)

theorem change_beat {change' : Sheet → Sheet} (changed : ∀ row, (change row).sheet = change' row.sheet) :
    (room.updatePlayer id change).beat = { room.beat with sheets := updateFirst room.beat.sheets (·.id == id) change' } := by
  have listed : (room.updatePlayer id change).players.map PlayerState.sheet = updateFirst room.beat.sheets (·.id == id) change' :=
    map_updateFirst_through (fun _ => rfl) changed
  calc (room.updatePlayer id change).beat =
      { room.beat with sheets := (room.updatePlayer id change).players.map PlayerState.sheet } := rfl
    _ = { room.beat with sheets := updateFirst room.beat.sheets (·.id == id) change' } := by rw [listed]

theorem write_beat (room : SameBrainRoom) (id : Nat) (answer : Option String) :
    (room.updatePlayer id fun row => { row with answer }).beat = room.beat.write id answer := change_beat fun _ => rfl

theorem depart_beat (room : SameBrainRoom) (id : Nat) (now : Int) (secret : Secret) :
    (room.depart id now secret).beat = room.beat.withdraw id :=
  change_beat fun _ => rfl

theorem depart_gameOver (room : SameBrainRoom) (id : Nat) (now : Int) (secret : Secret) :
    (room.depart id now secret).gameOver = room.endsWithout id := by
  have playing : (room.depart id now secret).playing.length = (room.players.eraseP (·.id == id)).countP (!·.out) := by
    rw [countP_eq_length_filter]
    exact congrArg List.length (filter_updateFirst_gone fun _ => rfl)
  unfold gameOver endsWithout
  rw [playing]
  rfl

theorem owed_playing (room : SameBrainRoom) : room.beat.owed = room.playing.any (·.answer.isNone) := by
  unfold Beat.owed playing beat
  rw [List.any_map, List.any_filter]
  rfl

theorem everyoneAnswered_owed (plays : room.playing ≠ []) : room.everyoneAnswered = !room.beat.owed := by
  have some_ : room.playing.isEmpty = false := by simpa using plays
  rw [owed_playing, everyoneAnswered, some_, List.not_any_eq_all_not]
  simp

theorem closeSubmit_elsewhere (room : SameBrainRoom) (ctx : GameContext) (now : Int) :
    (room.closeSubmit ctx now).phase ≠ .submit ∧ (room.closeSubmit ctx now).pausedAt = room.pausedAt := by
  unfold closeSubmit
  extract_lets closed
  have paused : closed.pausedAt = room.pausedAt := rfl
  clear_value closed
  unfold applyResult
  extract_lets posted
  have still : posted.pausedAt = closed.pausedAt := rfl
  obtain ⟨players, awarded, -⟩ := posted.awardResult_keeps (closed.computeResult ctx) 1
  rw [awarded]
  constructor
  · change (if _ then SameBrainPhase.sayIt else .reveal) ≠ .submit
    split <;> simp
  · exact still.trans paused

theorem replaceResult_keeps (room : SameBrainRoom) (ctx : GameContext) (result next : SameBrainRoundResult) :
    ∃ sheets, (room.replaceResult ctx result next).beat = { room.beat with sheets } := by
  obtain ⟨undone, first, -⟩ := room.awardResult_keeps result (-1)
  obtain ⟨again, second, -⟩ := ({ room.awardResult result (-1) with result := some next } : SameBrainRoom).awardResult_keeps next 1
  unfold replaceResult
  rw [second, first]
  exact ⟨_, rfl⟩

theorem afterReveal_elsewhere (room : SameBrainRoom) (ctx : GameContext) (now : Int) :
    (room.afterReveal ctx now).phase ≠ .submit ∧ (room.afterReveal ctx now).pausedAt = room.pausedAt := by
  unfold afterReveal
  split
  · exact ⟨nofun, rfl⟩
  · exact ⟨nofun, rfl⟩

/-! ### What is asked for -/

theorem handOver_beat {p : Prop} [Decidable p] :
    (changed ctx (if p then room.transferHost id now else room)).beat = room.beat := by
  split <;> rfl

theorem requestReadiness_beat (waited : List PlayerState) (actionId : Nat) :
    (room.requestReadiness ctx waited actionId).beat = room.beat := by
  unfold requestReadiness
  extract_lets asks
  split
  · refine @beat_players room _ (map_update ?_)
    exact fun _ => rfl
  · rfl

theorem Deed.refused {request : Request} (waits : found.phase.stops → found.acts ctx.locale request = false) :
    Deed ctx found (some request) found.beat := .rests fun stops => by simp [waits stops]

theorem Deed.calm {request : Request} (calm : found.acts ctx.locale request = false) :
    Deed ctx found (some request) found.beat := .refused fun _ => calm

theorem Deed.closed {request : Request} (goesOn : found.phase.stops = false) : Deed ctx found (some request) found.beat :=
  .refused fun stops => absurd stops (eq_false_iff.mp goesOn)

theorem removePlayer_deed (found : SameBrainRoom) (id : Nat) :
    Deed ctx found (some (.host (.remove id))) (leftBy (found.removePlayer ctx id)).beat := by
  unfold removePlayer
  split
  · next nobody =>
    by_cases lobby : found.phase = .lobby
    · exact .closed (by rw [lobby]; rfl)
    · have same : found.beat.withdraw id = found.beat := by
        have unfound : found.beat.sheets.find? (·.id == id) = none := by
          have listed : found.beat.sheets.find? (·.id == id) = (found.player id).map PlayerState.sheet := find?_map ..
          rw [listed, nobody]
          rfl
        rw [Beat.withdraw, updateFirst_unfound unfound]
      exact (Deed.removes lobby).of_eq same.symm
  · next target seated =>
    obtain rfl : target.id = id := by simpa using find?_some seated
    change Deed ctx found _ (changed ctx _).beat
    rw [handOver_beat]
    split
    · next lobby => exact .seats lobby
    · next begun => exact (Deed.removes begun).of_eq (depart_beat ..)

theorem advanceByHost_deed (found : SameBrainRoom) :
    Deed ctx found (some (.host .advance)) (leftBy (found.advanceByHost ctx)).beat := by
  unfold advanceByHost
  split
  · next open_ =>
    obtain ⟨elsewhere, paused⟩ := found.closeSubmit_elsewhere ctx ctx.now
    exact .enters (by simp [enters, open_]) elsewhere (by simp [open_]) paused
  · next asked => exact .opens asked
  · next said => exact .enters (by simp [enters, said]) nofun (by simp [said]) rfl
  · next revealed =>
    obtain ⟨elsewhere, paused⟩ := found.afterReveal_elsewhere ctx ctx.now
    exact .enters (by simp [enters, revealed]) elsewhere (by simp [revealed]) paused
  · next lobby => exact .closed (by rw [lobby]; rfl)
  · next ended => exact .closed (by rw [ended]; rfl)

theorem correct_deed (found : SameBrainRoom) {groups : Option (Nat × Nat)} {action : SameBrainHostAction}
    (corrects : action.corrects) : Deed ctx found (some (.host action)) (leftBy (found.correct ctx round groups)).beat := by
  have calm : found.acts ctx.locale (.host action) = false := by cases action <;> first | rfl | cases corrects
  unfold correct
  split
  · exact .calm calm
  · next result shown =>
    have revealed : found.phase = .reveal := by
      obtain ⟨-, revealed⟩ := filter_eq_some_iff.mp shown
      simpa using revealed
    split
    · exact .calm calm
    · cases made : found.corrected ctx result groups with
      | error => exact (Deed.calm calm).of_eq (congrArg beat (corrected_refused made))
      | ok next =>
        obtain ⟨players, scored⟩ := found.replaceResult_keeps ctx result next
        exact (Deed.regroups corrects revealed).of_eq scored

theorem startGame_deed (found : SameBrainRoom) (removePlayerIds : List Nat) (actionId : Nat) :
    Deed ctx found (some (.host (.start removePlayerIds))) (leftBy (found.startGame ctx removePlayerIds actionId)).beat := by
  unfold startGame
  split
  · exact .calm rfl
  · next lobby =>
    have lobby : found.phase = .lobby := by simpa using lobby
    split
    · exact .calm rfl
    · extract_lets waited remaining seated begun
      split
      · exact (Deed.calm rfl).of_eq (requestReadiness_beat ..)
      · split
        · exact .calm rfl
        · refine .enters (by simp [enters, lobby]) nofun nofun ?_
          change begun.pausedAt = found.pausedAt
          simp only [begun, seated]
          split <;> rfl

theorem configure_deed (found : SameBrainRoom) (rounds : Option Nat) (toggles : Option TogglesPatch)
    (timings : Option TimingsPatch) :
    Deed ctx found (some (.host (.configure rounds toggles timings)))
      (leftBy (found.configure ctx rounds toggles timings)).beat := by
  unfold configure
  split
  · exact .calm rfl
  · split
    · exact .calm rfl
    · exact .calm rfl

theorem hostCommand_deed (found : SameBrainRoom) (actionId : Nat) (action : SameBrainHostAction) :
    Deed ctx found (some (.host action)) (leftBy (found.hostCommand ctx actionId action)).beat := by
  cases action with
  | admissionSet =>
    simp only [hostCommand]
    split
    · exact .calm rfl
    · split
      · exact .calm rfl
      · exact .calm rfl
  | configure rounds toggles timings => exact found.configure_deed rounds toggles timings
  | start removePlayerIds => exact found.startGame_deed removePlayerIds actionId
  | skipQuestion =>
    simp only [hostCommand]
    split
    · next other => exact .calm (by simp [acts, other])
    · next asked =>
      have open_ : found.enters ctx.locale (.host .skipQuestion) := by
        rcases not_and_or.mp asked with prompt | submit
        · simp [enters, not_not.mp prompt]
        · simp [enters, not_not.mp submit]
      exact .enters open_ (fun asks => by cases asks) (fun asked => by cases asked) rfl
  | extend =>
    simp only [hostCommand]
    split
    · next untimed => exact .calm (by simp [acts, untimed])
    · next timed => exact .extends_ timed
  | pause =>
    simp only [hostCommand]
    split
    · next paused => exact .calm (by simpa [acts] using paused)
    · next running =>
      have running : found.pausedAt = none := by simpa using running
      split
      · next idle => exact .closed (by rcases idle with phase | phase <;> rw [phase] <;> rfl)
      · next begun =>
        split
        · next said => exact .closed (by rw [said]; rfl)
        · next quiet =>
          refine .pauses running ?_
          cases phase : found.phase <;> simp_all [SameBrainPhase.stops]
  | resume =>
    simp only [hostCommand]
    split
    · next running => exact .calm (by simp [acts, running])
    · next since paused => exact .resumes paused
  | advance => exact found.advanceByHost_deed
  | merge | reset => exact found.correct_deed rfl
  | passHost =>
    simp only [hostCommand]
    split
    · exact .calm rfl
    · exact .calm rfl
  | remove playerId => exact found.removePlayer_deed playerId
  | replay | lobby | endGame => exact .enters rfl (fun asks => by cases asks) (fun asked => by cases asked) rfl

theorem leaveRoom_deed (found : SameBrainRoom) (player : PlayerState) :
    Deed ctx found (some (.play player .leave)) (leftBy (.ok (found.leaveRoom ctx player.id))).beat := by
  change Deed ctx found _ (found.leaveRoom ctx player.id).beat
  unfold leaveRoom
  dsimp only
  rw [handOver_beat]
  split
  · next lobby =>
    split
    · exact .seats lobby
    · exact .seats lobby
  · next begun =>
    unfold walkOut
    dsimp only
    rw [depart_gameOver]
    cases ends : found.endsWithout player.id with
    | true => exact .enters (by simp [enters, begun, ends]) nofun nofun rfl
    | false => exact (Deed.leaves begun ends).of_eq (depart_beat ..)

theorem submitAnswer_deed (seated : found.player player.id = some player) {text : String}
    (accepted : found.accepts ctx.locale player round text) :
    Deed ctx found (some (.play player (.submit round text))) (found.submitAnswer ctx player.id text).beat := by
  have writes := found.write_beat player.id (some (clip sameBrainMaxAnswerLength text))
  have plays : player.out = false := by
    simp only [accepts, takes, and_eq_true, not_eq_true'] at accepted
    exact accepted.1.1.1
  unfold submitAnswer
  dsimp only
  have listed : (found.updatePlayer player.id fun row =>
      { row with answer := some (clip sameBrainMaxAnswerLength text) }).playing ≠ [] := by
    have here : (updateFirst found.players (·.id == player.id) fun row =>
        { row with answer := some (clip sameBrainMaxAnswerLength text) }).find?
        (·.id == player.id) = (found.players.find? (·.id == player.id)).map fun row =>
          { row with answer := some (clip sameBrainMaxAnswerLength text) } :=
      find?_updateFirst_same fun row same => same
    rw [show found.players.find? (·.id == player.id) = some player from seated, map_some] at here
    refine ne_nil_of_mem (a := { player with answer := some (clip sameBrainMaxAnswerLength text) }) ?_
    refine mem_filter.mpr ⟨mem_of_find?_eq_some here, ?_⟩
    simp [plays]
  generalize found.updatePlayer player.id (fun row => { row with answer := some (clip sameBrainMaxAnswerLength text) }) =
      written at writes listed ⊢
  have phase : written.phase = found.phase := congrArg Beat.phase writes
  have everyone : (changed ctx written).everyoneAnswered = !found.beat.owedBesides player.id := by
    have answered := @everyoneAnswered_owed (changed ctx written) listed
    rw [answered, changed_beat, writes, Beat.write_owed]
  rw [everyone]
  split
  · next full =>
    obtain ⟨open_, all⟩ := full
    have submit : found.phase = .submit := phase.symm.trans open_
    obtain ⟨elsewhere, paused⟩ := (changed ctx written).closeSubmit_elsewhere ctx ctx.now
    refine .enters ?_ elsewhere nofun (paused.trans ?_)
    · rw [enters, submit, accepted, all]
      rfl
    · exact congrArg Beat.pausedAt writes
  · next others =>
    refine (Deed.answers accepted fun submit => ?_).of_eq writes
    by_contra all
    exact others ⟨phase.trans submit, by simpa using all⟩

theorem answerCommand_deed (seated : found.player player.id = some player) (plays : player.out = false) (round : Nat)
    (text : Option String) :
    Deed ctx found (some (.play player (text.elim (.clear round) (.submit round))))
      (leftBy (found.answerCommand ctx player.id round text)).beat := by
  have closes (taken : found.takes player round = false) :
      found.acts ctx.locale (.play player (text.elim (.clear round) (.submit round))) = false := by
    cases text with
    | none => exact taken
    | some => simp [acts, accepts, taken]
  unfold answerCommand
  split
  · next closed => exact .calm (closes (by simp [takes, closed]))
  · next open_ =>
    split
    · next other => exact .calm (closes (by simp [takes, other]))
    · next same =>
      have taken : found.takes player round := by
        have phase : found.phase = .submit ∨ found.phase = .prompt := by
          rcases not_and_or.mp open_ with submit | prompt
          · exact .inl (not_not.mp submit)
          · exact .inr (not_not.mp prompt)
        simp [takes, plays, not_not.mp same, phase]
      cases text with
      | none => exact (Deed.clears seated taken).of_eq (found.write_beat player.id none)
      | some =>
        dsimp only
        split
        · next usable => exact submitAnswer_deed seated (by simp [accepts, taken, usable])
        · next unusable => exact .calm (by simp [acts, accepts, unusable])

theorem playerCommand_deed (seated : found.player player.id = some player) (action : SameBrainPlayerAction) :
    Deed ctx found (some (.play player action)) (leftBy (found.playerCommand ctx player action)).beat := by
  cases action with
  | leave => exact found.leaveRoom_deed player
  | rename | readiness =>
    simp only [playerCommand]
    split
    · exact .calm rfl
    · split
      · exact .calm rfl
      · exact (Deed.calm rfl).of_eq (row_beat ctx fun _ => rfl)
  | claimHost =>
    simp only [playerCommand]
    split
    · exact .calm rfl
    · exact .calm rfl
  | submit round text =>
    simp only [playerCommand]
    split
    · next out => exact .calm (by simp [acts, accepts, takes, out])
    · next plays => exact answerCommand_deed seated (by simpa using plays) round (some text)
  | clear round =>
    simp only [playerCommand]
    split
    · next out => exact .calm (by simp [acts, takes, out])
    · next plays => exact answerCommand_deed seated (by simpa using plays) round none

/-! ### What time does -/

/-- What time does to the beat, where the phase is overdue or not. -/
inductive Passes (room : SameBrainRoom) (overdue : Bool) : Beat → Prop where
  | rests (early : room.phase = .prompt → overdue = false) : Passes room overdue room.beat
  | opens {now duration : Int} (due : overdue) (running : room.pausedAt = none) (asked : room.phase = .prompt) :
      Passes room overdue (room.beat.enter .submit now duration)
  | leads {beat : Beat} (due : overdue) (running : room.pausedAt = none) (other : room.phase ≠ .prompt)
      (elsewhere : beat.phase ≠ .submit)
      (unpaused : beat.pausedAt = none) : Passes room overdue beat

def dueAt (now : Int) : Bool :=
  room.pausedAt.isNone && room.phaseEndsAt != 0 && decide (room.phaseEndsAt ≤ now)

theorem advance_passes (room : SameBrainRoom) (ctx : GameContext) (now : Int) :
    Passes room (room.dueAt now) (room.advance ctx now).beat := by
  unfold advance
  split
  · next paused => exact .rests fun _ => by simp [dueAt, Option.isNone_eq_false_iff.mpr paused]
  · next running =>
    have unpaused : room.pausedAt = none := by simpa using running
    rw [advancePhases]
    split
    · next early => exact .rests fun _ => by rcases early with untimed | early <;> simp [dueAt, *]
    · next late =>
      have due : room.dueAt now := by
        obtain ⟨timed, late⟩ := not_or.mp late
        simp [dueAt, unpaused, timed, Int.not_lt.mp late]
      split
      · next asked =>
        rw [advancePhases_enterPhase, enterPhase_beat]
        exact .opens due unpaused asked
      · next open_ =>
        obtain ⟨elsewhere, paused⟩ := room.closeSubmit_elsewhere ctx now
        exact .leads due unpaused (by simp [open_]) elsewhere (paused.trans unpaused)
      · next said =>
        rw [advancePhases_enterPhase]
        exact .leads due unpaused (by simp [said]) (fun asked => by cases asked) unpaused
      · next revealed =>
        rw [advancePhases_afterReveal]
        obtain ⟨elsewhere, paused⟩ := room.afterReveal_elsewhere ctx now
        exact .leads due unpaused (by simp [revealed]) elsewhere (paused.trans unpaused)
      · next lobby => exact .rests fun asked => by simp [lobby] at asked
      · next ended => exact .rests fun asked => by simp [ended] at asked

theorem touch_beat (room : SameBrainRoom) (playerId : Option Nat) (now : Int) (force : Bool) :
    (room.touch playerId now force).beat = room.beat := by
  unfold touch
  extract_lets seen
  have same : seen.beat = room.beat := by
    simp only [seen]
    cases playerId.bind room.player with
    | none => rfl
    | some => exact updatePlayer_beat fun _ => rfl
  exact same

theorem Passes.of_beat {other : SameBrainRoom} {overdue : Bool} (passes : Passes other overdue beat)
    (same : other.beat = room.beat) : Passes room overdue beat := by
  have phase : other.phase = room.phase := congrArg Beat.phase same
  have paused : other.pausedAt = room.pausedAt := congrArg Beat.pausedAt same
  cases passes with
  | rests early =>
    rw [same]
    exact .rests (phase ▸ early)
  | opens due running asked =>
    rw [same]
    exact .opens due (paused ▸ running) (phase ▸ asked)
  | leads due running others elsewhere unpaused => exact .leads due (paused ▸ running) (phase ▸ others) elsewhere unpaused

theorem attend_passes (room : SameBrainRoom) (ctx : GameContext) (playerId : Option Nat) :
    Passes room (room.dueAt ctx.now) (room.attend ctx playerId).beat := by
  have touched := room.touch_beat playerId ctx.now true
  have passes := (room.touch playerId ctx.now true).advance_passes ctx ctx.now
  have due : (room.touch playerId ctx.now true).dueAt ctx.now = room.dueAt ctx.now := by
    have paused : (room.touch playerId ctx.now true).pausedAt = room.pausedAt := congrArg Beat.pausedAt touched
    have ends : (room.touch playerId ctx.now true).phaseEndsAt = room.phaseEndsAt := congrArg Beat.phaseEndsAt touched
    simp [dueAt, paused, ends]
  rw [due] at passes
  exact passes.of_beat touched

theorem answer_beat {viewerId : Option Nat} {actionId : Nat} (command : Except Rejected SameBrainRoom) :
    (room.answer ctx viewerId actionId command).2.beat =
      if room.processedActions.contains actionId then room.beat else (leftBy command).beat := by
  unfold answer
  split
  · rfl
  · cases command with
    | error => rfl
    | ok => simp [beat, rememberAction, leftBy]

end

end SameBrainRoom

namespace Command
open SameBrainRoom

def ctx : Command → GameContext
  | .join ctx .. | .pump ctx | .read ctx .. | .host ctx _ | .play ctx _ => ctx

/-- The command runs the clock, and the time of the phase is up. -/
def overdue (command : Command) (room : SameBrainRoom) : Bool :=
  match command with
  | .join .. | .read .. => false
  | .pump ctx => room.dueAt ctx.now
  | .host ctx input => room.mayHost input && room.dueAt ctx.now
  | .play ctx input => room.mayPlay input && room.dueAt ctx.now

/-- What the command asks for, where it is let in and has not been answered before. -/
def request (command : Command) (room : SameBrainRoom) : Option Request :=
  match command with
  | .join .. | .pump .. | .read .. => none
  | .host ctx input =>
    if room.mayHost input && !(room.attend ctx input.playerId).processedActions.contains input.actionId then some (.host input.action) else none
  | .play ctx input =>
    let found := room.attend ctx (some input.playerId)
    if room.mayPlay input && !found.processedActions.contains input.actionId then (found.player input.playerId).map (.play · input.action) else none

variable {command : Command} {room : SameBrainRoom}

theorem finds_passes (command : Command) (room : SameBrainRoom) :
    Passes room (command.overdue room) (command.finds room).beat := by
  cases command with
  | join | read => exact .rests fun _ => rfl
  | pump ctx => exact room.advance_passes ctx ctx.now
  | host ctx input =>
    simp only [overdue, finds]
    cases room.mayHost input with
    | true => exact room.attend_passes ctx input.playerId
    | false => exact .rests fun _ => rfl
  | play ctx input =>
    simp only [overdue, finds]
    cases room.mayPlay input with
    | true => exact room.attend_passes ctx (some input.playerId)
    | false => exact .rests fun _ => rfl

theorem apply_deed (command : Command) (room : SameBrainRoom) :
    Deed command.ctx (command.finds room) (command.request room) (command.apply room).beat := by
  cases command with
  | join ctx joinToken hostToken name =>
    change Deed ctx room none (room.joinSameBrainRoom ctx joinToken hostToken name).2.beat
    unfold joinSameBrainRoom
    extract_lets name taken id
    split
    · exact .rests fun _ => rfl
    · split
      · exact .rests fun _ => rfl
      · next opened =>
        have lobby : room.phase = .lobby := by simpa using (not_or.mp opened).1
        split
        · exact .rests fun _ => rfl
        · split
          · exact .rests fun _ => rfl
          · exact .seats lobby
  | pump => exact .rests fun _ => rfl
  | read ctx credential playerId =>
    change Deed ctx room none (room.readSameBrainSnapshot ctx credential playerId).2.beat
    unfold readSameBrainSnapshot
    split
    · exact (Deed.rests fun _ => rfl).of_eq (room.touch_beat playerId ctx.clock false)
    · exact .rests fun _ => rfl
  | host ctx input =>
    simp only [request, finds, apply, applySameBrainHostAction]
    cases room.mayHost input with
    | false => exact .rests fun _ => rfl
    | true =>
      generalize room.attend ctx input.playerId = found
      simp only [↓reduceIte, Bool.true_and, answer_beat]
      cases found.processedActions.contains input.actionId with
      | true => exact .rests fun _ => rfl
      | false => exact found.hostCommand_deed input.actionId input.action
  | play ctx input =>
    simp only [request, finds, apply, applySameBrainPlayerAction]
    cases room.mayPlay input with
    | false => exact .rests fun _ => rfl
    | true =>
      generalize room.attend ctx (some input.playerId) = found
      simp only [↓reduceIte, Bool.true_and]
      cases seated : found.player input.playerId with
      | none =>
        rw [map_none, ite_self]
        exact .rests fun _ => rfl
      | some player =>
        have named : player.id = input.playerId := by simpa using find?_some seated
        simp only [answer_beat]
        cases found.processedActions.contains input.actionId with
        | true => exact .rests fun _ => rfl
        | false => exact playerCommand_deed (named ▸ seated) input.action

end Command

end MilkAndHenny.SameBrain

import MilkAndHenny.Library.Machine
import MilkAndHenny.SameBrain.Beats

/-! Waiting for answers. Only an answer that is given while answers are open asks whether it was the last one;
a phase that opens with all answers given, and a departure that leaves nobody to wait for, wait all the same. -/

namespace MilkAndHenny.SameBrain
open Library

variable {beat : Beat} {room : SameBrainRoom}

namespace Beat

/-- Answers are open though nobody's is missing. -/
def idle (beat : Beat) : Bool := beat.phase == .submit && beat.pausedAt.isNone && !beat.owed

theorem idle_iff : beat.idle ↔ beat.phase = .submit ∧ beat.pausedAt = none ∧ beat.owed = false := by
  simp [idle, and_assoc]

theorem not_idle (elsewhere : beat.phase ≠ .submit) : beat.idle = false := by
  simp [idle, elsewhere]

end Beat

namespace SameBrainRoom
variable {ctx : GameContext} {found : SameBrainRoom} {request : Option Request}

/-- The room waits for answers though everybody who is playing has given one. -/
def WaitsForNobody (room : SameBrainRoom) : Prop :=
  room.phase = .submit ∧ room.pausedAt = none ∧ ∀ player ∈ room.playing, player.answer.isSome

instance (room : SameBrainRoom) : Decidable room.WaitsForNobody := inferInstanceAs (Decidable (_ ∧ _))

theorem waitsForNobody_iff : room.WaitsForNobody ↔ room.beat.idle := by
  have answered : (∀ player ∈ room.playing, player.answer.isSome) ↔ room.beat.owed = false := by
    rw [owed_playing, any_eq_false]
    exact forall₂_congr fun player _ => by cases player.answer <;> simp
  rw [Beat.idle_iff, ← answered]
  rfl

/-- The request leaves the room waiting for nobody. `opened` says that time has opened a phase in which nobody's answer is missing. -/
def strandedBy (locale : Locale) (found : SameBrainRoom) (opened : Bool) : Option Request → Bool
  | some (.host .advance) => found.phase == .prompt && found.pausedAt.isNone && !found.beat.owed
  | some (.host .resume) => found.phase == .submit && !found.beat.owed
  | some (.host (.remove id)) => found.phase == .submit && found.pausedAt.isNone && !found.beat.owedBesides id
  | some (.play player .leave) =>
    found.phase == .submit && found.pausedAt.isNone && !found.endsWithout player.id && !found.beat.owedBesides player.id
  | some (.host .extend) => opened
  | request => opened && request.all (!found.acts locale ·)

/-- Where nothing of the beat changes. -/
theorem rests_stranded (waits : found.phase.stops → request.all (!found.acts ctx.locale ·)) :
    found.beat.idle = found.strandedBy ctx.locale found.beat.idle request := by
  have phase : found.beat.phase = found.phase := rfl
  have paused : found.beat.pausedAt = found.pausedAt := rfl
  have general (calm : found.beat.idle → request.all (!found.acts ctx.locale ·)) :
      found.beat.idle = (found.beat.idle && request.all (!found.acts ctx.locale ·)) := by
    cases idle : found.beat.idle with
    | false => rfl
    | true => exact (calm idle).symm
  have calm (idle : found.beat.idle) : request.all (!found.acts ctx.locale ·) := by
    have submit : found.phase = .submit := (Beat.idle_iff.mp idle).1
    exact waits (by rw [submit]; rfl)
  cases request with
  | none => exact general calm
  | some request =>
    cases request with
    | host action =>
      cases action with
      | advance =>
        have elsewhere : found.phase ≠ .prompt ∧ found.phase ≠ .submit := by
          constructor <;> intro open_ <;> simp [open_, acts, SameBrainPhase.stops] at waits
        rw [Beat.not_idle elsewhere.2, strandedBy]
        simp [elsewhere.1]
      | resume =>
        simp only [strandedBy, Beat.idle, phase, paused]
        cases stopped : found.pausedAt with
        | none => simp
        | some =>
          have elsewhere : found.phase ≠ .submit := fun submit => by simp [submit, acts, stopped, SameBrainPhase.stops] at waits
          simp [elsewhere]
      | remove =>
        have elsewhere : found.phase ≠ .submit := fun submit => by simp [submit, acts, SameBrainPhase.stops] at waits
        rw [Beat.not_idle elsewhere, strandedBy]
        simp [elsewhere]
      | extend => rfl
      | _ => exact general calm
    | play player action =>
      cases action with
      | leave =>
        have elsewhere : found.phase ≠ .submit := fun submit => by simp [submit, acts, SameBrainPhase.stops] at waits
        rw [Beat.not_idle elsewhere, strandedBy]
        simp [elsewhere]
      | _ => exact general calm

theorem away_stranded (prompt : found.phase ≠ .prompt) (submit : found.phase ≠ .submit) (locale : Locale)
    (request : Option Request) : found.strandedBy locale found.beat.idle request = false := by
  have idle : found.beat.idle = false := Beat.not_idle submit
  unfold strandedBy
  split <;> simp [prompt, submit, idle]

theorem enters_stranded {request : Request} (moves : found.enters ctx.locale request)
    (closes : request = .host .advance → found.phase ≠ .prompt) :
    found.strandedBy ctx.locale found.beat.idle (some request) = false := by
  cases request with
  | host action =>
    cases action with
    | advance => simp [strandedBy, closes rfl]
    | start =>
      have lobby : found.phase = .lobby := by simpa [enters] using moves
      exact away_stranded (by simp [lobby]) (by simp [lobby]) ctx.locale _
    | skipQuestion =>
      have asked : found.acts ctx.locale (.host .skipQuestion) := moves
      simp [strandedBy, asked]
    | replay | lobby | endGame => exact Bool.and_false _
    | _ => cases moves
  | play player action =>
    cases action with
    | leave =>
      have ends : found.endsWithout player.id := (and_eq_true_iff.mp moves).2
      simp [strandedBy, ends]
    | submit round text =>
      have accepted : found.accepts ctx.locale player round text := (and_eq_true_iff.mp (and_eq_true_iff.mp moves).1).2
      simp [strandedBy, acts, accepted]
    | _ => cases moves

theorem clear_owed {player : PlayerState} (seated : found.player player.id = some player) (plays : player.out = false) :
    (found.beat.write player.id none).owed := by
  have listed : found.beat.sheets.find? (·.id == player.id) = some player.sheet := by
    have same : found.beat.sheets.find? (·.id == player.id) = (found.player player.id).map PlayerState.sheet := find?_map ..
    rw [same, seated, map_some]
  obtain ⟨before, after, -, written⟩ := updateFirst_split (fun sheet : Sheet => { sheet with answer := none }) listed
  have rows : (found.beat.write player.id none).sheets = _ := written
  rw [Beat.owed, rows, any_append, any_cons]
  simp [Sheet.owed, PlayerState.sheet, plays]

theorem deed_stranded (deed : Deed ctx found request beat) :
    beat.idle = found.strandedBy ctx.locale found.beat.idle request := by
  cases deed with
  | rests waits => exact rests_stranded waits
  | seats lobby =>
    rw [away_stranded (by simp [lobby]) (by simp [lobby])]
    exact Beat.not_idle (by simp [beat, lobby])
  | regroups corrects revealed =>
    rw [away_stranded (by simp [revealed]) (by simp [revealed])]
    exact Beat.not_idle (by simp [beat, revealed])
  | extends_ => rfl
  | pauses running => simp [Beat.idle, strandedBy, acts, running]
  | resumes =>
    simp only [Beat.idle, strandedBy, Option.isNone_none, Bool.and_true]
    rfl
  | opens asked =>
    simp only [strandedBy, asked]
    rfl
  | enters moves elsewhere closes => rw [Beat.not_idle elsewhere, enters_stranded moves closes]
  | @removes =>
    simp only [Beat.idle, strandedBy, Beat.withdraw_owed]
    rfl
  | @leaves player begun further =>
    simp only [Beat.idle, strandedBy, Beat.withdraw_owed, further, Bool.not_false, Bool.and_true]
    rfl
  | @answers player round text answer accepted waits =>
    have still : (found.beat.write player.id (some answer)).idle = false := by
      by_cases submit : found.phase = .submit
      · simp [Beat.idle, Beat.write_owed, waits submit]
      · exact Beat.not_idle submit
    rw [still]
    simp [strandedBy, acts, accepted]
  | @clears player round seated taken =>
    have plays : player.out = false := by
      simp only [takes, and_eq_true, not_eq_true'] at taken
      exact taken.1.1
    rw [Beat.idle, clear_owed seated plays]
    simp [strandedBy, acts, taken]

theorem passes_idle {overdue : Bool} (passes : Passes found overdue beat) (waits : found.beat.idle = false) :
    beat.idle = (found.phase == .prompt && overdue && !found.beat.owed) := by
  cases passes with
  | rests early =>
    rw [waits]
    by_cases asked : found.phase = .prompt
    · simp [early asked]
    · simp [asked]
  | @opens now duration due running asked =>
    have unpaused : (found.beat.enter .submit now duration).pausedAt = none := running
    rw [Beat.idle, unpaused, asked, due]
    rfl
  | leads due running other elsewhere =>
    rw [Beat.not_idle elsewhere]
    simp [other]

end SameBrainRoom

namespace Command
open SameBrainRoom

def strands (command : Command) (room : SameBrainRoom) : Bool :=
  (command.finds room).strandedBy command.ctx.locale (room.phase == .prompt && command.overdue room && !room.beat.owed)
  (command.request room)

theorem strands_iff {command : Command} (waits : ¬ room.WaitsForNobody) :
    (command.apply room).WaitsForNobody ↔ command.strands room := by
  rw [waitsForNobody_iff, not_eq_true] at waits
  rw [waitsForNobody_iff, strands, ← passes_idle (command.finds_passes room) waits, ← deed_stranded (command.apply_deed room)]

end Command

open SameBrainRoom

/-- In every run, the room never waits for nobody exactly where no command strands it. -/
theorem never_waits_for_nobody (ctx : GameContext) (rounds : Option Nat) (toggles : TogglesPatch)
    (timings : TimingsPatch) (managed : Bool) (officialResultChannelId : Option Nat) (commands : List Command) :
    Throughout Command.apply (¬ WaitsForNobody ·)
      (createSameBrainRoom ctx rounds toggles timings managed officialResultChannelId) commands ↔
      EachStep Command.apply (fun command room => command.strands room = false)
        (createSameBrainRoom ctx rounds toggles timings managed officialResultChannelId) commands := by
  have start : ¬ (createSameBrainRoom ctx rounds toggles timings managed officialResultChannelId).WaitsForNobody :=
    fun waits => nomatch waits.1
  refine throughout_iff (fun waits _ => ?_) start fun _ _ => trivial
  rw [Command.strands_iff waits, not_eq_true]

/-- Four join, the host starts, and these players write "Apple" from then on, each a little later. -/
def writing (start : Nat) (ids : List Nat) : List Command :=
  ids.map fun id => .by id (start + id) (start + id) (.submit 1 "Apple")

/-- All four answer while the question is read, and the answers open for nobody; three answer, and the fourth leaves or is removed. -/
theorem early_answers_wait :
    let created := createSameBrainRoom (.plain 1) none {} {} false none
    let begins : List Command := joins ["Ada", "Bo", "Cy", "Di"] ++ [.byHost 2 1 (.start [])]
    let asked : List Command := begins ++ writing 100 [2, 4, 6, 8]
    let open_ : List Command := begins ++ [.pump (.plain 5000)] ++ writing 5000 [2, 4, 6]
    ¬ Throughout Command.apply (¬ WaitsForNobody ·) created (asked ++ [.pump (.plain 5000)]) ∧
    ¬ Throughout Command.apply (¬ WaitsForNobody ·) created (asked ++ [.byHost 200 2 .advance]) ∧
    ¬ Throughout Command.apply (¬ WaitsForNobody ·) created (open_ ++ [.by 8 5010 3 .leave]) ∧
    ¬ Throughout Command.apply (¬ WaitsForNobody ·) created (open_ ++ [.byHost 5010 3 (.remove 8)]) := by
  refine ⟨fun never => ?_, fun never => ?_, fun never => ?_, fun never => ?_⟩
  · exact absurd never.last (by decide +kernel)
  · exact absurd never.last (by decide +kernel)
  · exact absurd never.last (by decide +kernel)
  · exact absurd never.last (by decide +kernel)

/-- Where the fourth answers too, the round closes. -/
example : (runFrom Command.apply (createSameBrainRoom (.plain 1) none {} {} false none)
    (joins ["Ada", "Bo", "Cy", "Di"] ++ [.byHost 2 1 (.start []), .pump (.plain 5000)] ++ writing 5000 [2, 4, 6, 8])).phase = .sayIt := by
  decide +kernel

end MilkAndHenny.SameBrain

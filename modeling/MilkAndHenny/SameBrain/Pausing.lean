import Mathlib.Data.List.Induction
import MilkAndHenny.Library.Machine
import MilkAndHenny.SameBrain.Beats

/-! The pause of a phase. As long as no phase is entered and no time is added in the meantime, the room is paused in the
phase that was paused, and going on gives back the time that was left. -/

namespace MilkAndHenny.SameBrain
open Library

def Beat.stay (beat : Beat) : Nat × Nat × SameBrainPhase × Int := (beat.gameNumber, beat.round, beat.phase, beat.phaseStartedAt)

namespace SameBrainRoom
variable {ctx : GameContext} {found : SameBrainRoom} {request : Option Request} {beat : Beat} {since : Int} {overdue : Bool}

def stay (room : SameBrainRoom) : Nat × Nat × SameBrainPhase × Int := room.beat.stay

def prolongs (found : SameBrainRoom) : Option Request → Bool
  | some (.host .extend) => found.phaseEndsAt != 0
  | _ => false

/-- What becomes of a pause in which no phase is entered: it lasts, or it is over. -/
inductive Holds (found : SameBrainRoom) (since : Int) (beat : Beat) : Prop where
  | lasts (paused : beat.pausedAt = some since) (stay : beat.stay = found.stay) (ends : beat.phaseEndsAt = found.phaseEndsAt)
  | lifted (running : beat.pausedAt = none)

theorem deed_holds (deed : Deed ctx found request beat) (paused : found.pausedAt = some since) (stops : found.phase.stops)
    (keeps : request.all (!found.enters ctx.locale ·)) (untouched : found.prolongs request = false) : Holds found since beat := by
  cases deed with
  | rests => exact .lasts paused rfl rfl
  | seats lobby =>
    rw [lobby] at stops
    cases stops
  | regroups => exact .lasts paused rfl rfl
  | extends_ timed => exact absurd untouched (by simp [prolongs, timed])
  | pauses running => cases paused.symm.trans running
  | resumes => exact .lifted rfl
  | opens asked => simp [enters, asked] at keeps
  | enters moves => simp [moves] at keeps
  | removes | leaves | answers | clears => exact .lasts paused rfl rfl

theorem deed_lifts (deed : Deed ctx found request beat) (paused : found.pausedAt = some since) (running : beat.pausedAt = none) :
    beat.stay = found.stay ∧ beat.phaseEndsAt =
      if found.phaseEndsAt = 0 then 0 else found.phaseEndsAt + max 0 (ctx.now - since) := by
  have still : found.beat.pausedAt ≠ none := by
    change found.pausedAt ≠ none
    simp [paused]
  cases deed with
  | resumes since' =>
    cases some.inj (paused.symm.trans since')
    exact ⟨rfl, rfl⟩
  | pauses open_ => exact nomatch paused.symm.trans open_
  | enters moves elsewhere closes kept => exact nomatch paused.symm.trans (kept.symm.trans running)
  | rests | seats | regroups | extends_ | opens | removes | leaves | answers | clears => exact absurd running still

theorem deed_pauses (deed : Deed ctx found request beat) (running : found.pausedAt = none) (paused : beat.pausedAt = some since) :
    request = some (.host .pause) ∧ ctx.now = since ∧ found.phase.stops ∧ beat.stay = found.stay ∧
      beat.phaseEndsAt = found.phaseEndsAt := by
  have open_ : found.beat.pausedAt = none := running
  cases deed with
  | pauses _ stops => exact ⟨rfl, some.inj paused, stops, rfl, rfl⟩
  | resumes => cases paused
  | enters moves elsewhere closes kept => exact nomatch running.symm.trans (kept.symm.trans paused)
  | rests | seats | regroups | extends_ | opens | removes | leaves | answers | clears => exact nomatch open_.symm.trans paused

theorem passes_paused (passes : Passes found overdue beat) (paused : found.pausedAt.isSome) : beat = found.beat := by
  cases passes with
  | rests => rfl
  | opens due running | leads due running => simp [running] at paused

theorem passes_running (passes : Passes found overdue beat) (running : found.pausedAt = none) :
    beat.pausedAt = none := by
  cases passes with
  | rests => exact running
  | opens due running => exact running
  | leads due running other elsewhere unpaused => exact unpaused

end SameBrainRoom

namespace Command
open SameBrainRoom

/-- While the room is paused no phase is entered, and no time is added to the one that is frozen. -/
def keepsPhase (command : Command) (room : SameBrainRoom) : Bool :=
  room.pausedAt.isNone || (command.request room).all (!(command.finds room).enters command.ctx.locale ·) &&
    !(command.finds room).prolongs (command.request room)

end Command

section
open SameBrainRoom
variable {created : SameBrainRoom} {commands first middle : List Command} {pause : Command} {since : Int}

structure PausedBy (created : SameBrainRoom) (commands first : List Command) (pause : Command) (middle : List Command)
    (since : Int) : Prop where
  split : commands = first ++ pause :: middle
  asked : pause.request (runFrom Command.apply created first) = some (.host .pause)
  moment : pause.ctx.now = since
  stops : (runFrom Command.apply created commands).phase.stops
  stay : (runFrom Command.apply created commands).stay = (pause.finds (runFrom Command.apply created first)).stay
  ends : (runFrom Command.apply created commands).phaseEndsAt = (pause.finds (runFrom Command.apply created first)).phaseEndsAt

theorem pausedBy (running : created.pausedAt = none)
    (keeps : EachStep Command.apply (fun command room => command.keepsPhase room) created commands)
    (paused : (runFrom Command.apply created commands).pausedAt = some since) :
    ∃ first pause middle, PausedBy created commands first pause middle since := by
  induction commands using List.reverseRecOn generalizing since with
  | nil => exact nomatch running.symm.trans paused
  | append_singleton commands command ih =>
    obtain ⟨before, -⟩ := EachStep.append.mp keeps
    have keeps := keeps.last
    have last : runFrom Command.apply created (commands ++ [command]) =
        command.apply (runFrom Command.apply created commands) := runFrom_append
    rw [last] at paused
    have deed := command.apply_deed (runFrom Command.apply created commands)
    have passes := command.finds_passes (runFrom Command.apply created commands)
    cases stopped : (runFrom Command.apply created commands).pausedAt with
    | none =>
      obtain ⟨asked, moment, stops, stay, ends⟩ := deed_pauses deed (passes_running passes stopped) paused
      have phase : (command.apply (runFrom Command.apply created commands)).phase =
          (command.finds (runFrom Command.apply created commands)).phase :=
        congrArg (·.2.2.1) stay
      refine ⟨commands, command, [], rfl, asked, moment, ?_, ?_, ?_⟩
      · rw [last, phase]
        exact stops
      · rw [last]
        exact stay
      · rw [last]
        exact ends
    | some earlier =>
      obtain ⟨first, pause, middle, held⟩ := ih before stopped
      have found := passes_paused passes (by simp [stopped])
      have phase : (command.finds (runFrom Command.apply created commands)).phase =
          (runFrom Command.apply created commands).phase :=
        congrArg Beat.phase found
      have since_found : (command.finds (runFrom Command.apply created commands)).pausedAt = some earlier :=
        (congrArg Beat.pausedAt found).trans stopped
      obtain ⟨still, untouched⟩ : (command.request (runFrom Command.apply created commands)).all
          (!(command.finds (runFrom Command.apply created commands)).enters command.ctx.locale ·) ∧
          (command.finds (runFrom Command.apply created commands)).prolongs
            (command.request (runFrom Command.apply created commands)) = false := by
        simpa [Command.keepsPhase, stopped] using keeps
      cases deed_holds deed since_found (phase ▸ held.stops) still untouched with
      | lifted running => exact nomatch running.symm.trans paused
      | lasts same stay ends =>
        have moment : earlier = since := some.inj (same.symm.trans paused)
        have kept : (command.apply (runFrom Command.apply created commands)).stay =
            (runFrom Command.apply created commands).stay :=
          stay.trans (congrArg Beat.stay found)
        have as : (command.apply (runFrom Command.apply created commands)).phase =
            (runFrom Command.apply created commands).phase :=
          congrArg (·.2.2.1) kept
        have ends_found : (command.finds (runFrom Command.apply created commands)).phaseEndsAt =
            (runFrom Command.apply created commands).phaseEndsAt :=
          congrArg Beat.phaseEndsAt found
        refine ⟨first, pause, middle ++ [command], ?_, held.asked, held.moment.trans moment, ?_, ?_, ?_⟩
        · rw [held.split, append_assoc, cons_append]
        · rw [last, as]
          exact held.stops
        · rw [last, kept, held.stay]
        · have now : (command.apply (runFrom Command.apply created commands)).phaseEndsAt = _ := ends
          rw [last, now, ends_found, held.ends]

/-- What was left of a phase when it was paused is left again when it goes on. -/
structure GivesBack (paused after : SameBrainRoom) (pausedAt resumedAt : Int) : Prop where
  same : after.stay = paused.stay
  untimed : paused.phaseEndsAt = 0 → after.phaseEndsAt = 0
  timed : paused.phaseEndsAt ≠ 0 → after.phaseEndsAt - resumedAt = paused.phaseEndsAt - pausedAt

theorem PausedBy.givesBack (held : PausedBy created commands first pause middle since)
    (paused : (runFrom Command.apply created commands).pausedAt = some since) {resume : Command}
    (resumes : (resume.apply (runFrom Command.apply created commands)).pausedAt = none) (later : since ≤ resume.ctx.now) :
    GivesBack (pause.finds (runFrom Command.apply created first))
      (resume.apply (runFrom Command.apply created commands)) since resume.ctx.now := by
  have found := passes_paused (resume.finds_passes (runFrom Command.apply created commands)) (by simp [paused])
  have since_found : (resume.finds (runFrom Command.apply created commands)).pausedAt = some since :=
    (congrArg Beat.pausedAt found).trans paused
  have ends_found : (resume.finds (runFrom Command.apply created commands)).phaseEndsAt =
      (runFrom Command.apply created commands).phaseEndsAt :=
    congrArg Beat.phaseEndsAt found
  obtain ⟨stay, ends⟩ := deed_lifts (resume.apply_deed (runFrom Command.apply created commands)) since_found resumes
  have ends : (resume.apply (runFrom Command.apply created commands)).phaseEndsAt = _ := ends
  rw [ends_found, held.ends] at ends
  refine ⟨(stay.trans (congrArg Beat.stay found)).trans held.stay, fun untimed => ?_, fun timed => ?_⟩
  · rw [ends, if_pos untimed]
  · omega

end

/-- In every run that enters no phase and adds no time while the room is paused, the room is only ever paused in a phase that can be paused, by a pause of
this very phase; and going on gives back the time that was left. -/
theorem pauses_hold (ctx : GameContext) (rounds : Option Nat) (toggles : TogglesPatch) (timings : TimingsPatch) (managed : Bool)
    (officialResultChannelId : Option Nat) (commands : List Command)
    (keeps : EachStep Command.apply (fun command room => command.keepsPhase room)
      (SameBrainRoom.createSameBrainRoom ctx rounds toggles timings managed officialResultChannelId) commands) :
    let created := SameBrainRoom.createSameBrainRoom ctx rounds toggles timings managed officialResultChannelId
    let room := runFrom Command.apply created commands
    ∀ since, room.pausedAt = some since → room.phase.stops ∧
      ∃ (first : List Command) (pause : Command) (middle : List Command), commands = first ++ pause :: middle ∧
        let before := runFrom Command.apply created first
        pause.request before = some (.host .pause) ∧ pause.ctx.now = since ∧ room.stay = (pause.finds before).stay ∧
        ∀ resume : Command, (resume.apply room).pausedAt = none → since ≤ resume.ctx.now →
          GivesBack (pause.finds before) (resume.apply room) since resume.ctx.now := by
  intro created room since paused
  have running : created.pausedAt = none := rfl
  obtain ⟨first, pause, middle, held⟩ := pausedBy running keeps paused
  refine ⟨held.stops, first, pause, middle, held.split, held.asked, held.moment, held.stay, fun resume resumes later => ?_⟩
  exact held.givesBack paused resumes later

def pausedEarly : List Command := joins ["Ada", "Bo", "Cy", "Di"] ++ [.byHost 2 1 (.start []), .byHost 1002 2 .pause]

/-- The host moves a paused room on: the answers have 45 seconds, and 55 of them are left when they go on a second later. The flag is
taken into the spoken beat, the ending, another game and the lobby. -/
theorem pause_outlives :
    let created := SameBrainRoom.createSameBrainRoom (.plain 1) none {} {} false none
    let paused := runFrom Command.apply created pausedEarly
    let later (commands : List Command) := runFrom Command.apply paused ([.byHost 11000 3 .advance] ++ commands)
    let answered : List Command := [2, 4, 6, 8].map fun id => .by id (11000 + id) (10 + id) (.submit 1 "Apple")
    (later []).phaseEndsAt - 11000 = 45000 ∧ (later [.byHost 12000 4 .resume]).pausedAt = none ∧
    (later [.byHost 12000 4 .resume]).phaseEndsAt - 12000 = 54998 ∧
    (later []).stay ≠ paused.stay ∧ (later []).pausedAt = some 1002 ∧
    (later answered).phase = .sayIt ∧ (later answered).pausedAt = some 1002 ∧
    (later [.byHost 12000 4 .endGame]).phase = .ending ∧ (later [.byHost 12000 4 .endGame]).pausedAt = some 1002 ∧
    (later [.byHost 12000 4 .replay]).gameNumber = 2 ∧ (later [.byHost 12000 4 .replay]).pausedAt = some 1002 ∧
    (later [.byHost 12000 4 .lobby]).phase = .lobby ∧ (later [.byHost 12000 4 .lobby]).pausedAt = some 1002 := by
  decide +kernel

/-- A pause in which two of the four answer the question, and one of them takes it back. -/
def pausedCalmly : List Command :=
  pausedEarly ++ [.by 2 5000 3 (.submit 1 "Apple"), .by 4 5001 4 (.submit 1 "Pear"), .by 4 6000 5 (.clear 1)]

theorem pauses_hold_calmly :
    ∃ (first : List Command) (pause : Command) (middle : List Command), pausedCalmly = first ++ pause :: middle ∧
      pause.ctx.now = 1002 ∧
      GivesBack (pause.finds (runFrom Command.apply (SameBrainRoom.createSameBrainRoom (.plain 1) none {} {} false none) first))
        ((Command.byHost 9000 6 .resume).apply
          (runFrom Command.apply (SameBrainRoom.createSameBrainRoom (.plain 1) none {} {} false none) pausedCalmly)) 1002 9000 := by
  have keeps : EachStep Command.apply (fun command room => command.keepsPhase room)
      (SameBrainRoom.createSameBrainRoom (.plain 1) none {} {} false none) pausedCalmly := by decide +kernel
  obtain ⟨-, first, pause, middle, split, -, moment, -, goesOn⟩ :=
    pauses_hold (.plain 1) none {} {} false none pausedCalmly keeps 1002 (by decide +kernel)
  exact ⟨first, pause, middle, split, moment, goesOn (.byHost 9000 6 .resume) (by decide +kernel) (by decide)⟩

/-- The three seconds are left again. -/
example : (runFrom Command.apply (SameBrainRoom.createSameBrainRoom (.plain 1) none {} {} false none)
    (pausedCalmly ++ [.byHost 9000 6 .resume])).phaseEndsAt - 9000 = 3000 := by
  decide +kernel

end MilkAndHenny.SameBrain

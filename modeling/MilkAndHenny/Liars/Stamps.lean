import MilkAndHenny.Library.Lazy
import MilkAndHenny.Liars.Locking

/-! The stamps of a room: when it expires and when it was last active. Nothing that time brings about
reads them or the clock, so the same phases follow whenever a room is read. -/

namespace MilkAndHenny.Liars
open Library

/-- The same draws at another time. -/
def GameContext.timed (ctx : GameContext) (now clock : Int) : GameContext := { ctx with now, clock }

namespace LiarsRoom

def stamped (room : LiarsRoom) (expiresAt lastActiveAt : Int) : LiarsRoom := { room with expiresAt, lastActiveAt }

def Unstamped (change : GameContext → LiarsRoom → LiarsRoom) : Prop :=
  ∀ (ctx : GameContext) (room : LiarsRoom) (now clock expiresAt lastActiveAt : Int), ∃ expiresAt',
    change (ctx.timed now clock) (room.stamped expiresAt lastActiveAt) = (change ctx room).stamped expiresAt' lastActiveAt

namespace Unstamped
variable {first second change : GameContext → LiarsRoom → LiarsRoom} {p : LiarsRoom → Prop} [DecidablePred p]

theorem comp (after : Unstamped second) (before : Unstamped first) : Unstamped fun ctx room => second ctx (first ctx room) := by
  intro ctx room now clock expiresAt lastActiveAt
  obtain ⟨between, same⟩ := before ctx room now clock expiresAt lastActiveAt
  simp only [same]
  exact after ctx _ now clock between lastActiveAt

theorem ite (reads : ∀ room expiresAt lastActiveAt, p (stamped room expiresAt lastActiveAt) ↔ p room)
    (yes : Unstamped first) (no : Unstamped second) :
    Unstamped fun ctx room => if p room then first ctx room else second ctx room := by
  intro ctx room now clock expiresAt lastActiveAt
  simp only [reads]
  split
  · exact yes ..
  · exact no ..

theorem lastActive (unstamped : Unstamped change) (ctx : GameContext) (room : LiarsRoom) :
    (change ctx room).lastActiveAt = room.lastActiveAt := by
  obtain ⟨expiresAt, same⟩ := unstamped ctx room ctx.now ctx.clock room.expiresAt room.lastActiveAt
  exact congrArg (·.lastActiveAt) (show change ctx room = (change ctx room).stamped expiresAt room.lastActiveAt from same)

end Unstamped

theorem enterPhase_unstamped (phase : LiarsPhase) (now : Int) : Unstamped fun ctx room => room.enterPhase ctx phase now :=
  fun _ _ _ _ _ _ => ⟨_, rfl⟩

theorem finish_unstamped (winner : LiarsSide) (now : Int) : Unstamped fun ctx room => room.finish ctx winner now :=
  fun _ _ _ _ _ _ => ⟨_, rfl⟩

theorem checkWinner_unstamped (now : Int) (jester : LiarsRoom → Option Nat)
    (reads : ∀ room expiresAt lastActiveAt, jester (stamped room expiresAt lastActiveAt) = jester room) :
    Unstamped fun ctx room => (room.checkWinner ctx now (jester room)).getD room := by
  intro ctx room at_ clock expiresAt lastActiveAt
  simp only [reads, checkWinner]
  have same : (room.stamped expiresAt lastActiveAt).detectWinner (room.stamped expiresAt lastActiveAt).living (jester room) =
      room.detectWinner room.living (jester room) := rfl
  rw [same]
  cases room.detectWinner room.living (jester room) with
  | none => exact ⟨expiresAt, rfl⟩
  | some winner => exact finish_unstamped winner now ctx room at_ clock expiresAt lastActiveAt

theorem writeNightReports_unstamped : Unstamped writeNightReports := by
  refine .ite (fun _ _ _ => Iff.rfl) ?_ ?_
  · intro ctx room now clock expiresAt lastActiveAt
    exact ⟨_, rfl⟩
  · intro ctx room now clock expiresAt lastActiveAt
    exact ⟨_, rfl⟩

theorem narrate_stamped (ctx : GameContext) (room : LiarsRoom) (outcome : NarrationOutcome) (slots : NarrationSlots)
    (now clock expiresAt lastActiveAt : Int) : (room.stamped expiresAt lastActiveAt).narrate (ctx.timed now clock) outcome slots =
      ((room.narrate ctx outcome slots).1, (room.narrate ctx outcome slots).2.stamped expiresAt lastActiveAt) := by
  have same : liarsNarration (ctx.timed now clock) (room.stamped expiresAt lastActiveAt).revision outcome slots
      (room.stamped expiresAt lastActiveAt).recentNarrationIds =
        liarsNarration ctx room.revision outcome slots room.recentNarrationIds := rfl
  unfold narrate
  rw [same]
  split
  · rfl
  · rfl

theorem told_unstamped (outcome : NarrationOutcome) (slots : NarrationSlots) (phase : LiarsPhase) (now : Int) :
    Unstamped fun ctx room => ((room.narrate ctx outcome slots).2.note .day (room.narrate ctx outcome slots).1).enterPhase ctx phase now := by
  intro ctx room at_ clock expiresAt lastActiveAt
  dsimp only
  rw [narrate_stamped]
  exact ⟨_, rfl⟩

/-! ### The night -/

section
variable {ctx : GameContext} {plan : NightPlan} {now clock expiresAt lastActiveAt : Int}

def NightOutcome.atNight (expiresAt lastActiveAt : Int) (outcome : NightOutcome) : NightOutcome :=
  { outcome with room := outcome.room.stamped expiresAt lastActiveAt }

theorem escortDies_atNight (attacker target : PlayerState) (outcome : NightOutcome) :
    escortDies plan attacker target (outcome.atNight expiresAt lastActiveAt) =
      (escortDies plan attacker target outcome).atNight expiresAt lastActiveAt := by
  unfold escortDies
  have same : (outcome.atNight expiresAt lastActiveAt).room.player = outcome.room.player := rfl
  rw [same]
  split
  · rfl
  · split
    · rfl
    · rfl

theorem strike_atNight (target attacker : PlayerState) (fromMafia : Bool) (outcome : NightOutcome) :
    strike plan target attacker fromMafia (outcome.atNight expiresAt lastActiveAt) =
      (strike plan target attacker fromMafia outcome).atNight expiresAt lastActiveAt := by
  unfold strike
  have same : (outcome.atNight expiresAt lastActiveAt).room.player = outcome.room.player := rfl
  rw [same]
  split
  · rfl
  · split
    · rfl
    · have died := @escortDies_atNight plan expiresAt lastActiveAt attacker target
        { outcome with room := outcome.room.kill target.id .killed, deaths := outcome.deaths ++ [outcome.room.deathOf target] }
      have killed : escortDies plan attacker target
          { outcome.atNight expiresAt lastActiveAt with
            room := (outcome.atNight expiresAt lastActiveAt).room.kill target.id .killed
            deaths := (outcome.atNight expiresAt lastActiveAt).deaths ++ [(outcome.atNight expiresAt lastActiveAt).room.deathOf target] } = _ := died
      dsimp only
      rw [killed]
      split
      · split
        · rfl
        · rfl
      · rfl

theorem escortSees_atNight (target attacker : PlayerState) (room : LiarsRoom) :
    escortSees (ctx.timed now clock) plan target attacker (room.stamped expiresAt lastActiveAt) =
      (escortSees ctx plan target attacker room).stamped expiresAt lastActiveAt := by
  unfold escortSees
  split
  · rfl
  · split
    · rfl
    · rfl

theorem resolveAttack_atNight (outcome : NightOutcome) (attack : Nat × PlayerState × Bool) :
    resolveAttack (ctx.timed now clock) plan (outcome.atNight expiresAt lastActiveAt) attack =
      (resolveAttack ctx plan outcome attack).atNight expiresAt lastActiveAt := by
  obtain ⟨targetId, attacker, fromMafia⟩ := attack
  have same : (outcome.atNight expiresAt lastActiveAt).room.player = outcome.room.player := rfl
  simp only [resolveAttack, same]
  split
  · rfl
  · split
    · rfl
    · next target _ _ =>
      have seen := @escortSees_atNight ctx plan now clock expiresAt lastActiveAt target attacker outcome.room
      have struck := @strike_atNight plan expiresAt lastActiveAt target attacker fromMafia
        { outcome with room := escortSees ctx plan target attacker outcome.room }
      rw [← struck]
      congr 1
      exact congrArg (fun room => ({ outcome with room } : NightOutcome)) seen

theorem attacked_atNight (attacks : List (Nat × PlayerState × Bool)) (outcome : NightOutcome) :
    attacks.foldl (resolveAttack (ctx.timed now clock) plan) (outcome.atNight expiresAt lastActiveAt) =
      (attacks.foldl (resolveAttack ctx plan) outcome).atNight expiresAt lastActiveAt := by
  induction attacks generalizing outcome with
  | nil => rfl
  | cons attack attacks ih =>
    rw [foldl_cons, foldl_cons, resolveAttack_atNight]
    exact ih _

theorem resolveGuilt_atNight (outcome : NightOutcome) :
    resolveGuilt (outcome.atNight expiresAt lastActiveAt) = (resolveGuilt outcome).atNight expiresAt lastActiveAt := by
  have living : (outcome.atNight expiresAt lastActiveAt).room.living = outcome.room.living := rfl
  have round : (outcome.atNight expiresAt lastActiveAt).room.round = outcome.room.round := rfl
  unfold resolveGuilt
  rw [living, round]
  split
  · rfl
  · split
    · rfl
    · rfl

theorem armed_stamped (room : LiarsRoom) :
    (room.stamped expiresAt lastActiveAt).armed = room.armed.stamped expiresAt lastActiveAt := by
  have plan : (room.stamped expiresAt lastActiveAt).nightPlan = room.nightPlan := rfl
  unfold armed
  rw [plan]
  split
  · cases room.nightPlan.vigilanteId with
    | none | some => rfl
  · rfl

variable (ctx : GameContext)

theorem nightOutcome_atNight (room : LiarsRoom) (now clock expiresAt lastActiveAt : Int) :
    ∃ expiresAt', (room.stamped expiresAt lastActiveAt).nightOutcome (ctx.timed now clock) =
      (room.nightOutcome ctx).atNight expiresAt' lastActiveAt := by
  obtain ⟨written, same⟩ := writeNightReports_unstamped ctx room now clock expiresAt lastActiveAt
  refine ⟨written, ?_⟩
  rw [nightOutcome_armed, nightOutcome_armed, same]
  generalize room.writeNightReports ctx = cards
  have plan : (cards.stamped written lastActiveAt).nightPlan = cards.nightPlan := rfl
  rw [plan, armed_stamped]
  have attacked := @attacked_atNight ctx cards.nightPlan now clock written lastActiveAt cards.nightPlan.attacks { room := cards.armed }
  have begun : ({ room := cards.armed } : NightOutcome).atNight written lastActiveAt =
      { room := cards.armed.stamped written lastActiveAt } := rfl
  rw [begun] at attacked
  rw [attacked, resolveGuilt_atNight]

theorem dawnNarration_stamped (room : LiarsRoom) (deaths : List LiarsDeathEvent)
    (now clock expiresAt lastActiveAt : Int) :
    (room.stamped expiresAt lastActiveAt).dawnNarration (ctx.timed now clock) deaths =
      ((room.dawnNarration ctx deaths).1, (room.dawnNarration ctx deaths).2.stamped expiresAt lastActiveAt) := by
  unfold dawnNarration
  split
  · exact narrate_stamped ..
  · split
    · have announced : (room.stamped expiresAt lastActiveAt).toggles = room.toggles := rfl
      rw [announced]
      split
      · exact narrate_stamped ..
      · rfl
    · split
      · exact narrate_stamped ..
      · exact narrate_stamped ..

theorem notes_stamped (names : List String) (room : LiarsRoom) :
    names.foldl (fun room name => room.note .night (name ++ " was seen moving.")) (room.stamped expiresAt lastActiveAt) =
      (names.foldl (fun room name => room.note .night (name ++ " was seen moving.")) room).stamped expiresAt lastActiveAt := by
  induction names generalizing room with
  | nil => rfl
  | cons name names ih => exact ih (room.note .night (name ++ " was seen moving."))

theorem tellDawn_stamped (outcome : NightOutcome) (at_ now clock expiresAt lastActiveAt : Int) :
    tellDawn (ctx.timed now clock)
      (outcome.atNight expiresAt lastActiveAt) at_ = (tellDawn ctx outcome at_).stamped expiresAt lastActiveAt := by
  have told : (outcome.atNight expiresAt lastActiveAt).room.dawnNarration (ctx.timed now clock)
      (outcome.atNight expiresAt lastActiveAt).deaths = _ :=
    dawnNarration_stamped ctx outcome.room outcome.deaths now clock expiresAt lastActiveAt
  unfold tellDawn
  rw [told]
  generalize outcome.room.dawnNarration ctx outcome.deaths = line
  exact notes_stamped outcome.room.corroboratedMovement ({ line.2 with dawn := some (dawnOf outcome line.1 at_) }.note .night line.1)

theorem resolveNight_unstamped (now : Int) : Unstamped fun ctx room => room.resolveNight ctx now := by
  intro ctx room at_ clock expiresAt lastActiveAt
  obtain ⟨expires, same⟩ := nightOutcome_atNight ctx room at_ clock expiresAt lastActiveAt
  simp only [resolveNight, same, tellDawn_stamped]
  have checked := checkWinner_unstamped now (fun _ => none) fun _ _ _ => rfl
  exact (checked.comp (enterPhase_unstamped .dawn now)) ctx _ at_ clock expires lastActiveAt

end

/-! ### The day -/

theorem startRound_unstamped (now : Int) : Unstamped fun ctx room => room.startRound ctx now := by
  intro ctx room at_ clock expiresAt lastActiveAt
  have mode : (room.stamped expiresAt lastActiveAt).mode = room.mode := rfl
  unfold startRound
  dsimp only
  rw [mode]
  split
  · exact ⟨_, rfl⟩
  · exact ⟨_, rfl⟩

theorem advanceClue_unstamped (now : Int) : Unstamped fun ctx room => room.advanceClue ctx now := by
  refine .ite (fun _ _ _ => Iff.rfl) (fun _ _ _ _ _ _ => ⟨_, rfl⟩) (.ite (fun _ _ _ => Iff.rfl) ?_ ?_)
  · exact fun _ _ _ _ _ _ => ⟨_, rfl⟩
  · exact fun _ _ _ _ _ _ => ⟨_, rfl⟩

theorem resolveTie_unstamped (now : Int) : Unstamped fun ctx room => room.resolveTie ctx now := by
  refine .ite (fun _ _ _ => Iff.rfl) ?_ ?_
  · exact fun _ _ _ _ _ _ => ⟨_, rfl⟩
  · exact told_unstamped .tie {} .verdict now

theorem eject_unstamped (ejected : PlayerState) (now : Int) : Unstamped fun ctx room => room.eject ctx ejected now := by
  intro ctx room at_ clock expiresAt lastActiveAt
  have counted (table : LiarsRoom) : (table.stamped expiresAt lastActiveAt).countEjection ejected.played =
      (table.countEjection ejected.played).stamped expiresAt lastActiveAt := by
    have mode : (table.stamped expiresAt lastActiveAt).mode = table.mode := rfl
    unfold countEjection
    rw [mode]
    split
    · split
      · rfl
      · rfl
    · rfl
  have named : ({ (room.stamped expiresAt lastActiveAt).kill ejected.id .ejected with
      ejectedJesterId := if ejected.played = .jester then some ejected.id
        else ((room.stamped expiresAt lastActiveAt).kill ejected.id .ejected).ejectedJesterId } :
        LiarsRoom) = ({ room.kill ejected.id .ejected with
      ejectedJesterId := if ejected.played = .jester then some ejected.id
        else (room.kill ejected.id .ejected).ejectedJesterId } : LiarsRoom).stamped
        expiresAt lastActiveAt := rfl
  simp only [eject, named, counted]
  exact told_unstamped _ _ .verdict now ctx _ at_ clock expiresAt lastActiveAt

theorem resolveVote_unstamped (now : Int) : Unstamped fun ctx room => room.resolveVote ctx now := by
  intro ctx room at_ clock expiresAt lastActiveAt
  have voted : (room.stamped expiresAt lastActiveAt).votedOut = room.votedOut := rfl
  simp only [resolveVote, voted]
  cases room.votedOut with
  | none => exact resolveTie_unstamped now ctx (room.declare none) at_ clock expiresAt lastActiveAt
  | some ejected => exact eject_unstamped ejected now ctx (room.declare (some ejected)) at_ clock expiresAt lastActiveAt

theorem afterVerdict_unstamped (now : Int) : Unstamped fun ctx room => room.afterVerdict ctx now := by
  have goesOn : Unstamped fun ctx room =>
      if room.mode = .imposter ∧ room.lastImposterJustEjected then { room with finalGuessCorrect := none }.enterPhase ctx .finalGuess now
      else room.startRound ctx now := .ite (fun _ _ _ => Iff.rfl) (fun _ _ _ _ _ _ => ⟨_, rfl⟩) (startRound_unstamped now)
  intro ctx room at_ clock expiresAt lastActiveAt
  have same : (room.stamped expiresAt lastActiveAt).detectWinner (room.stamped expiresAt lastActiveAt).living
      (room.stamped expiresAt lastActiveAt).ejectedJesterId = room.detectWinner room.living room.ejectedJesterId := rfl
  simp only [afterVerdict, checkWinner, same]
  cases room.detectWinner room.living room.ejectedJesterId with
  | none => exact goesOn ctx room at_ clock expiresAt lastActiveAt
  | some winner => exact finish_unstamped winner now ctx room at_ clock expiresAt lastActiveAt

theorem resolveFinalGuess_unstamped (now : Int) (guess : Option String) :
    Unstamped fun ctx room => room.resolveFinalGuess ctx now guess := by
  intro ctx room at_ clock expiresAt lastActiveAt
  change ∃ expiresAt', (room.stamped expiresAt lastActiveAt).resolveFinalGuess (ctx.timed at_ clock) now guess =
    (room.resolveFinalGuess ctx now guess).stamped expiresAt' lastActiveAt
  unfold resolveFinalGuess
  extract_lets normalise attempt correct word text noted normalise' attempt' correct' word' text' noted'
  have same : noted = noted'.stamped expiresAt lastActiveAt := rfl
  have decided : (noted'.stamped expiresAt lastActiveAt).detectWinner (noted'.stamped expiresAt lastActiveAt).living none =
      noted'.detectWinner noted'.living none := rfl
  rw [same, checkWinner, checkWinner, decided]
  cases noted'.detectWinner noted'.living none with
  | none => exact finish_unstamped .town now ctx noted' at_ clock expiresAt lastActiveAt
  | some winner => exact finish_unstamped winner now ctx noted' at_ clock expiresAt lastActiveAt

theorem transition_unstamped : Unstamped transition := by
  intro ctx room now clock expiresAt lastActiveAt
  have phase : (room.stamped expiresAt lastActiveAt).phase = room.phase := rfl
  have ends : (room.stamped expiresAt lastActiveAt).phaseEndsAt = room.phaseEndsAt := rfl
  simp only [transition, phase, ends]
  cases room.phase with
  | lobby | ending => exact ⟨expiresAt, rfl⟩
  | deal => exact startRound_unstamped room.phaseEndsAt ctx room now clock expiresAt lastActiveAt
  | night => exact resolveNight_unstamped room.phaseEndsAt ctx room now clock expiresAt lastActiveAt
  | clue => exact advanceClue_unstamped room.phaseEndsAt ctx room now clock expiresAt lastActiveAt
  | dawn => exact enterPhase_unstamped .deliberation room.phaseEndsAt ctx room now clock expiresAt lastActiveAt
  | deliberation => exact enterPhase_unstamped .vote room.phaseEndsAt ctx room now clock expiresAt lastActiveAt
  | vote => exact resolveVote_unstamped room.phaseEndsAt ctx room now clock expiresAt lastActiveAt
  | verdict => exact afterVerdict_unstamped room.phaseEndsAt ctx room now clock expiresAt lastActiveAt
  | finalGuess => exact resolveFinalGuess_unstamped room.phaseEndsAt none ctx room now clock expiresAt lastActiveAt

def phaseClock (ctx : GameContext) : Lazy LiarsRoom Int where
  due := overdue
  step := transition ctx
  shows := reporting ctx

theorem advancePhases_lazy (ctx : GameContext) (now : Int) (guard : Nat) (room : LiarsRoom) :
    advancePhases ctx now guard room = (phaseClock ctx).read now guard room := by
  induction guard generalizing room with
  | zero => rfl
  | succ guard ih =>
    by_cases due : room.overdue now
    · rw [advancePhases_overdue due, Lazy.read_due due]
      exact ih _
    · rw [advancePhases_reporting due, Lazy.read_rests due]
      rfl

theorem advancePhases_unstamped (now : Int) (guard : Nat) : Unstamped fun ctx room => advancePhases ctx now guard room := by
  induction guard with
  | zero => exact fun _ _ _ _ expiresAt _ => ⟨expiresAt, rfl⟩
  | succ guard ih =>
    have shows : Unstamped fun ctx room => room.reporting ctx now :=
      .ite (fun _ _ _ => Iff.rfl) writeNightReports_unstamped fun _ _ _ _ expiresAt _ => ⟨expiresAt, rfl⟩
    intro ctx room at_ clock expiresAt lastActiveAt
    have due : (room.stamped expiresAt lastActiveAt).overdue now = room.overdue now := rfl
    by_cases overdue : room.overdue now
    · simp only [advancePhases_overdue overdue, advancePhases_overdue (due.trans overdue)]
      exact ih.comp transition_unstamped ctx room at_ clock expiresAt lastActiveAt
    · have rests : ¬ (room.stamped expiresAt lastActiveAt).overdue now := overdue
      simp only [advancePhases_reporting overdue, advancePhases_reporting rests]
      exact shows ctx room at_ clock expiresAt lastActiveAt

theorem awaken_unstamped (idleFor : Int) : Unstamped fun ctx room => room.awaken ctx idleFor := by
  refine .ite (fun _ _ _ => Iff.rfl) ?_ ?_
  · exact fun _ _ _ _ _ _ => ⟨_, rfl⟩
  · exact fun _ _ _ _ expiresAt _ => ⟨expiresAt, rfl⟩

theorem advance_unstamped (now idleFor : Int) : Unstamped fun ctx room => room.advance ctx now idleFor :=
  .ite (fun _ _ _ => Iff.rfl) (fun _ _ _ _ expiresAt _ => ⟨expiresAt, rfl⟩)
    ((advancePhases_unstamped now 8).comp (awaken_unstamped idleFor))

end LiarsRoom

end MilkAndHenny.Liars

import MilkAndHenny.Library.Machine
import MilkAndHenny.SameBrain.Turns

/-! What a viewer can tell of the others' answers before the reveal: that they have been given,
and, from the moment they lock, what they have earned. -/

namespace MilkAndHenny.SameBrain
open Library

variable {ctx : GameContext} {room other : SameBrainRoom} {viewerId : Option Nat} {now : Int}

def PlayerState.SameButAnswer (viewerId : Option Nat) (player other : PlayerState) : Prop :=
  player = other ∨
    some player.id ≠ viewerId ∧ other = { player with answer := other.answer } ∧ other.answer.isSome = player.answer.isSome

instance {viewerId : Option Nat} {player other : PlayerState} : Decidable (player.SameButAnswer viewerId other) :=
  inferInstanceAs (Decidable (_ ∨ _ ∧ _ ∧ _))

structure PlayerState.SameFace (player other : PlayerState) : Prop where
  row : other = { player with answer := other.answer }
  answered : other.answer.isSome = player.answer.isSome

theorem PlayerState.SameButAnswer.sameFace {player other : PlayerState}
    (same : player.SameButAnswer viewerId other) : player.SameFace other := by
  rcases same with rfl | ⟨-, row, answered⟩
  · exact ⟨rfl, rfl⟩
  · exact ⟨row, answered⟩

def PlayerState.ownState (player : PlayerState) : OwnState where
  id := player.id
  answer := player.answer
  out := player.out
  startRequestId := player.startRequestId

def SameBrainRoundResult.AlikeFor (first second : SameBrainRoundResult) (id : Nat) : Prop :=
  first.pointsFor id = second.pointsFor id ∧ (first.oddPlayerId = some id ↔ second.oddPlayerId = some id)

instance {first second : SameBrainRoundResult} {id : Nat} : Decidable (first.AlikeFor second id) :=
  inferInstanceAs (Decidable (_ ∧ (_ ↔ _)))

namespace SameBrainRoom
variable {result resultBaseline : Option SameBrainRoundResult} {history : List SameBrainRoundResult}
  {players : List PlayerState}

/-- The rooms differ at most in what the others have answered. Once the answers are locked, the
players have besides what the result of the room has earned them. -/
structure AgreesFor (viewerId : Option Nat) (room other : SameBrainRoom) : Prop where
  rest : ∃ players result resultBaseline history, other = { room with players, result, resultBaseline, history }
  open_ : room.phase ≠ .sayIt → Forall₂ (PlayerState.SameButAnswer viewerId) room.players other.players
  locked : room.phase = .sayIt → ∃ first ∈ room.result, ∃ second ∈ other.result, ∃ before after,
    Forall₂ (PlayerState.SameButAnswer viewerId) before after ∧
    room.players = before.map (PlayerState.award room.toggles.eliminateOddOne first 1) ∧
    other.players = after.map (PlayerState.award room.toggles.eliminateOddOne second 1)

/-- The answers of the two rooms have earned every player the same. -/
def ScoredAlike (room other : SameBrainRoom) : Prop :=
  ∀ first ∈ room.result, ∀ second ∈ other.result, ∀ player ∈ room.players, first.AlikeFor second player.id

instance : Decidable (room.ScoredAlike other) :=
  inferInstanceAs (Decidable (∀ first ∈ room.result, ∀ second ∈ other.result, ∀ player ∈ room.players, first.AlikeFor second player.id))

theorem snapshot_eq_iff (early : room.phase = .prompt ∨ room.phase = .submit ∨ room.phase = .sayIt)
    (away : (room.snapshot viewerId now).hostDisconnected =
      (({ room with players, result, resultBaseline, history } : SameBrainRoom).snapshot viewerId now).hostDisconnected) :
    room.snapshot viewerId now = ({ room with players, result, resultBaseline, history } : SameBrainRoom).snapshot viewerId now ↔
      room.players.map (room.summaryOf now) = players.map (room.summaryOf now) ∧
      (viewerId.bind room.player).map PlayerState.ownState =
        (viewerId.bind ({ room with players } : SameBrainRoom).player).map PlayerState.ownState := by
  have hidden : room.phase ≠ .reveal ∧ room.phase ≠ .ending := by
    rcases early with phase | phase | phase <;> simp [phase]
  constructor
  · intro same
    exact ⟨congrArg SameBrainSnapshot.players same, congrArg SameBrainSnapshot.you same⟩
  · intro ⟨listed, own⟩
    simp only [snapshot] at away
    simp only [snapshot, away, hidden.1, hidden.2, or_self, ↓reduceIte, SameBrainSnapshot.mk.injEq, true_and, and_true]
    exact ⟨listed, own⟩

theorem hostDisconnected_same

    (seen : room.players.map (fun player => (player.id, player.lastSeenAt)) = players.map fun player => (player.id, player.lastSeenAt)) :
    (room.snapshot viewerId now).hostDisconnected =
      (({ room with players, result, resultBaseline, history } : SameBrainRoom).snapshot viewerId now).hostDisconnected := by
  have through (players : List PlayerState) (id : Nat) : (players.find? (·.id == id)).any (!·.connected now) =
      ((players.map fun player => (player.id, player.lastSeenAt)).find? (·.1 == id)).any
        fun seen => !decide (now - seen.2 ≤ connectedWindowMs) := by
    rw [find?_map, any_map]
    rfl
  simp only [snapshot]
  cases room.hostPlayerId with
  | none => rfl
  | some id =>
    change (room.players.find? (·.id == id)).any (!·.connected now) = (players.find? (·.id == id)).any (!·.connected now)
    rw [through, through, seen]

section
variable {before after : List PlayerState} (pairs : Forall₂ (PlayerState.SameButAnswer viewerId) before after)
  {earn earn' : PlayerState → PlayerState} {alike : Nat → Prop}
include pairs

theorem viewer_same (kept : ∀ row, (earn row).id = row.id) (kept' : ∀ row, (earn' row).id = row.id)
    (own : ∀ row ∈ before, (earn row).ownState = (earn' row).ownState) :
    (viewerId.bind ({ room with players := before.map earn } : SameBrainRoom).player).map PlayerState.ownState =
      (viewerId.bind ({ room with players := after.map earn' } : SameBrainRoom).player).map PlayerState.ownState := by
  cases viewerId with
  | none => rfl
  | some id =>
    have found : before.find? (·.id == id) = after.find? (·.id == id) := by
      refine find?_pairs pairs (fun row row' pair => by rw [pair.sameFace.row]) fun row row' pair same => ?_
      rcases pair with rfl | ⟨other, -⟩
      · rfl
      · exact absurd (congrArg some (eq_of_beq same)) other
    have mine : (fun row => (earn row).id == id) = (·.id == id) := funext fun row => by rw [kept]
    have mine' : (fun row => (earn' row).id == id) = (·.id == id) := funext fun row => by rw [kept']
    simp only [bind_some, player, find?_map, Function.comp_def, mine, mine', Option.map_map, ← found]
    refine Option.map_congr fun row mem => own row (mem_of_find?_eq_some mem)

theorem snapshot_same_iff (players : room.players = before.map earn) {result resultBaseline : Option SameBrainRoundResult}
    {history : List SameBrainRoundResult} (early : room.phase = .prompt ∨ room.phase = .submit ∨ room.phase = .sayIt)
    (kept : ∀ row, (earn row).id = row.id ∧ (earn row).lastSeenAt = row.lastSeenAt)
    (kept' : ∀ row, (earn' row).id = row.id ∧ (earn' row).lastSeenAt = row.lastSeenAt)
    (summary : ∀ row row', row.SameFace row' → (room.summaryOf now (earn row) = room.summaryOf now (earn' row') ↔ alike row.id))
    (own : ∀ row, alike row.id → (earn row).ownState = (earn' row).ownState) :
    room.snapshot viewerId now =
        ({ room with players := after.map earn', result, resultBaseline, history } : SameBrainRoom).snapshot viewerId now ↔
      ∀ row ∈ before, alike row.id := by
  have whole : ({ room with players := before.map earn } : SameBrainRoom) = room := by rw [← players]
  have seen : room.players.map (fun player => (player.id, player.lastSeenAt)) =
      (after.map earn').map fun player => (player.id, player.lastSeenAt) := by
    rw [players, map_map, map_map]
    refine map_pairs pairs fun row row' pair => ?_
    simp only [Function.comp_apply, kept, kept']
    rw [pair.sameFace.row]
  have listed : room.players.map (room.summaryOf now) = (after.map earn').map (room.summaryOf now) ↔ ∀ row ∈ before, alike row.id := by
    rw [players, map_map, map_map]
    exact map_eq_map_iff pairs fun row row' pair => summary row row' pair.sameFace
  rw [snapshot_eq_iff early (hostDisconnected_same seen), listed]
  refine and_iff_left_of_imp fun all => ?_
  have mine := @viewer_same room viewerId before after pairs earn earn' (fun row => (kept row).1) (fun row => (kept' row).1)
    fun row mem => own row (all row mem)
  rwa [whole] at mine

end

theorem summaryOf_award {house : Bool} {first second : SameBrainRoundResult} {row row' : PlayerState} (face : row.SameFace row') :
    room.summaryOf now (row.award house first 1) = room.summaryOf now (row'.award house second 1) ↔ first.AlikeFor second row.id := by
  rw [face.row]
  simp only [summaryOf, PlayerState.award, PlayerState.connected, face.answered, SameBrainPlayerSummary.mk.injEq, true_and, and_true,
    SameBrainRoundResult.AlikeFor]
  constructor
  · rintro ⟨-, score, -, alone⟩
    refine ⟨by omega, ?_⟩
    by_cases odd : first.oddPlayerId = some row.id <;> by_cases odd' : second.oddPlayerId = some row.id
    · exact iff_of_true odd odd'
    · rw [if_pos odd, if_neg odd'] at alone
      omega
    · rw [if_neg odd, if_pos odd'] at alone
      omega
    · exact iff_of_false odd odd'
  · rintro ⟨points, odd⟩
    exact ⟨rfl, by rw [points], by simp [odd], by simp [odd]⟩

end SameBrainRoom

open SameBrainRoom in
/-- Before the reveal, two rooms that differ at most in the answers of others look the same to the
viewer, until the answers are locked; from then on exactly where these have earned everybody the same. -/
theorem snapshot_withholds_iff {room other : SameBrainRoom} (agrees : room.AgreesFor viewerId other)
    (early : room.phase = .prompt ∨ room.phase = .submit ∨ room.phase = .sayIt) (now : Int) :
    room.snapshot viewerId now = other.snapshot viewerId now ↔ (room.phase = .sayIt → room.ScoredAlike other) := by
  obtain ⟨players, result, resultBaseline, history, rfl⟩ := agrees.rest
  by_cases locked : room.phase = .sayIt
  · obtain ⟨first, posted, second, posted', before, after, pairs, earned, earned'⟩ := agrees.locked locked
    simp only at earned' posted'
    subst earned'
    have same := @snapshot_same_iff room viewerId now before after pairs (PlayerState.award room.toggles.eliminateOddOne first 1)
      (PlayerState.award room.toggles.eliminateOddOne second 1) (first.AlikeFor second) earned result resultBaseline history early
      (fun _ => ⟨rfl, rfl⟩) (fun _ => ⟨rfl, rfl⟩) (fun row row' face => summaryOf_award face) (fun row alike => by
        simp only [PlayerState.ownState, PlayerState.award, alike.2])
    rw [same]
    simp only [locked, true_imp_iff, ScoredAlike, mem_def.mp posted, mem_def.mp posted', Option.mem_some_iff,
      forall_eq', earned, forall_mem_map]
    rfl
  · have pairs := agrees.open_ locked
    have same := @snapshot_same_iff room viewerId now room.players players pairs id id (fun _ => True) (map_id _).symm
      result resultBaseline history early (fun _ => ⟨rfl, rfl⟩) (fun _ => ⟨rfl, rfl⟩)
      (fun row row' face => by
        rw [face.row]
        simp only [id_eq, summaryOf, PlayerState.connected, face.answered])
      (fun _ _ => rfl)
    rw [map_id] at same
    exact same.trans (iff_of_true (fun _ _ => trivial) fun phase => absurd phase locked)

namespace SameBrainRoom

theorem closeSubmit_eq (seated : room.Seated) :
    room.closeSubmit ctx now = SameBrainRoom.enterPhase ctx { room with
      phaseEndsAt := now, result := some (room.computeResult ctx), resultBaseline := some (room.computeResult ctx)
      history := room.history ++ [room.computeResult ctx]
      players := room.players.map (PlayerState.award room.toggles.eliminateOddOne (room.computeResult ctx) 1) }
        (room.closeSubmit ctx now).phase now := by
  have proper : (room.computeResult ctx).Proper := (computeResult_scores seated ctx).1
  have awarded := @awardResult_eq { room with
    phaseEndsAt := now, result := some (room.computeResult ctx), resultBaseline := some (room.computeResult ctx)
    history := room.history ++ [room.computeResult ctx] } seated (room.computeResult ctx) proper 1
  exact congrArg (SameBrainRoom.enterPhase ctx · _ now) awarded

theorem closeSubmit_agrees (agrees : room.AgreesFor viewerId other) (open_ : room.phase = .submit) (seated : room.Seated)
    (seated' : other.Seated) (locked : (room.closeSubmit ctx now).phase = .sayIt) (locked' : (other.closeSubmit ctx now).phase = .sayIt) :
    (room.closeSubmit ctx now).AgreesFor viewerId (other.closeSubmit ctx now) := by
  obtain ⟨players, result, resultBaseline, history, rfl⟩ := agrees.rest
  have pairs := agrees.open_ (by simp [open_])
  have closed := @closeSubmit_eq ctx room now seated
  have closed' := @closeSubmit_eq ctx _ now seated'
  rw [locked] at closed
  rw [locked'] at closed'
  have present (result result' : SameBrainRoundResult) :
      (players.map (PlayerState.award room.toggles.eliminateOddOne result' 1)).countP (·.leftAt.isNone) =
        (room.players.map (PlayerState.award room.toggles.eliminateOddOne result 1)).countP (·.leftAt.isNone) := by
    rw [countP_map, countP_map]
    refine (countP_pairs pairs fun row row' pair => ?_).symm
    rw [pair.sameFace.row]
    rfl
  have rest {first second : SameBrainRoom} (same : second = { first with
      players := second.players, result := second.result, resultBaseline := second.resultBaseline, history := second.history }) :
      ∃ players result resultBaseline history, second = { first with players, result, resultBaseline, history } := ⟨_, _, _, _, same⟩
  rw [closed, closed']
  refine ⟨rest ?_, absurd rfl, fun _ => ⟨_, rfl, _, rfl, room.players, players, pairs, rfl, rfl⟩⟩
  generalize room.computeResult ctx = first
  generalize SameBrainRoom.computeResult ctx _ = second
  simp only [enterPhase, changed, applyRoomExpiry, presentPlayerCount, phaseKind, phaseDuration, present first second]
  rfl

end SameBrainRoom

def threeAnswers (bo cy : String) : SameBrainRoom :=
  runFrom Command.apply (SameBrainRoom.createSameBrainRoom (.plain 1) none {} {} false none)
    (joins ["Ada", "Bo", "Cy", "Di"] ++ [.byHost 2 1 (.start []), .byHost 3 2 .advance, .by 2 4 3 (.submit 1 "Apple"),
      .by 4 5 4 (.submit 1 bo), .by 6 6 5 (.submit 1 cy)])

/-- Ada sees by the scores, while the answers are still to be said, that Bo and Cy have said the same. -/
theorem sayIt_showsHerd :
    let room := (threeAnswers "Pear" "Pear").closeSubmit (.plain 7) 7
    let other := (threeAnswers "Pear" "Plum").closeSubmit (.plain 7) 7
    room.phase = .sayIt ∧ room.AgreesFor (some 2) other ∧ room.snapshot (some 2) 8 ≠ other.snapshot (some 2) 8 := by
  refine ⟨by decide +kernel, ?_, by decide +kernel⟩
  refine SameBrainRoom.closeSubmit_agrees ⟨⟨(threeAnswers "Pear" "Plum").players, none, none, [], by decide +kernel⟩,
    fun _ => by decide +kernel, fun locked => absurd locked (by decide +kernel)⟩ (by decide +kernel) (by decide +kernel)
    (by decide +kernel) (by decide +kernel) (by decide +kernel)

theorem snapshot_withholds_iff_plums :
    let room := (threeAnswers "Pear" "Pear").closeSubmit (.plain 7) 7
    let other := (threeAnswers "Plum" "Plum").closeSubmit (.plain 7) 7
    room.players ≠ other.players ∧ room.snapshot (some 2) 8 = other.snapshot (some 2) 8 := by
  refine ⟨by decide +kernel, (snapshot_withholds_iff ?_ (by decide +kernel) 8).mpr (by decide +kernel)⟩
  exact SameBrainRoom.closeSubmit_agrees ⟨⟨(threeAnswers "Plum" "Plum").players, none, none, [], by decide +kernel⟩,
    fun _ => by decide +kernel, fun locked => absurd locked (by decide +kernel)⟩ (by decide +kernel) (by decide +kernel)
    (by decide +kernel) (by decide +kernel) (by decide +kernel)

end MilkAndHenny.SameBrain

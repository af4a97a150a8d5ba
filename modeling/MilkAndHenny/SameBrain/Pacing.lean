import MilkAndHenny.Library.Machine
import MilkAndHenny.SameBrain.Turns

/-! The rounds of a game that the host lets run: each is scored and shown before the next, and
the winners of the last stay the winners. Only somebody's leaving asks early whether the game
is over, and asks again when it is. -/

namespace MilkAndHenny.SameBrain
open Library

variable {room : SameBrainRoom} {next game : Game}

/-! ### The best of a list -/

def Standing.tally (standing : Standing) : Nat × Int := (standing.id, standing.score)

def best (pool : List (Nat × Int)) : List Nat :=
  let highest : Int := (pool.map Prod.snd).foldl max 0
  if highest = 0 then [] else (pool.filter (·.2 == highest)).map Prod.fst

/-- Those among whom the winner is: whoever is still in, or everybody where nobody is. -/
def contenders (standings : List Standing) : List Standing :=
  if (standings.filter (!·.out)).isEmpty then standings else standings.filter (!·.out)

section
variable {pool staying : List (Nat × Int)} {standings : List Standing} (standings : List Standing)

theorem winnersOf_eq : winnersOf standings = best ((contenders standings).map Standing.tally) := by
  unfold winnersOf best contenders
  simp only [map_map, filter_map]
  rfl

theorem contenders_sublist : (contenders standings).Sublist standings := by
  unfold contenders
  split
  · exact .refl _
  · exact filter_sublist

theorem still_contend : (standings.filter (!·.out)).Sublist (contenders standings) := by
  unfold contenders
  split
  · exact filter_sublist
  · exact .refl _

theorem best_sublist (pool : List (Nat × Int)) : (best pool).Sublist (pool.map Prod.fst) := by
  unfold best
  extract_lets highest
  split
  · exact List.nil_sublist _
  · exact filter_sublist.map _

theorem best_of_staying (sub : staying.Sublist pool) (unique : (pool.map Prod.fst).Nodup)
    (stay : ∀ winner ∈ best pool, winner ∈ staying.map Prod.fst) : best staying = best pool := by
  obtain ⟨listed, above⟩ := foldl_max_spec 0 (pool.map Prod.snd)
  obtain ⟨here, reaches⟩ := foldl_max_spec 0 (staying.map Prod.snd)
  have below : (staying.map Prod.snd).foldl max 0 ≤ (pool.map Prod.snd).foldl max 0 :=
    above _ (List.cons_subset_cons 0 (sub.map Prod.snd).subset here)
  have least := reaches 0 (mem_cons_self ..)
  unfold best at stay ⊢
  by_cases nobody : (pool.map Prod.snd).foldl max 0 = 0
  · have low : (staying.map Prod.snd).foldl max 0 = 0 := by omega
    simp [nobody, low]
  · simp only [nobody, ↓reduceIte] at stay ⊢
    have inside (entry : Nat × Int) (mem : entry ∈ pool) (high : entry.2 = (pool.map Prod.snd).foldl max 0) : entry ∈ staying := by
      have won : entry.1 ∈ (pool.filter (·.2 == (pool.map Prod.snd).foldl max 0)).map Prod.fst :=
        mem_map_of_mem (mem_filter.mpr ⟨mem, beq_iff_eq.mpr high⟩)
      obtain ⟨other, here, same⟩ := mem_map.mp (stay entry.1 won)
      rwa [← inj_on_of_nodup_map unique (sub.subset here) mem same]
    have highest : (staying.map Prod.snd).foldl max 0 = (pool.map Prod.snd).foldl max 0 := by
      obtain ⟨entry, mem, high⟩ := mem_map.mp ((mem_cons.mp listed).resolve_left nobody)
      have reached := reaches entry.2 (mem_cons_of_mem 0 (mem_map_of_mem (inside entry mem high)))
      omega
    rw [highest, if_neg nobody]
    have whole : staying.filter (·.2 == (pool.map Prod.snd).foldl max 0) = pool.filter (·.2 == (pool.map Prod.snd).foldl max 0) := by
      refine (sub.filter _).eq_of_length_le ?_
      refine (subperm_of_subset ((List.Nodup.of_map _ unique).filter _) fun entry mem => ?_).length_le
      obtain ⟨listed, high⟩ := mem_filter.mp mem
      exact mem_filter.mpr ⟨inside entry listed (eq_of_beq high), high⟩
    rw [whole]

end

namespace Game
variable {game : Game} {id : Nat} {before after : Game}

/-- The rounds that have been scored are those that have been played, and the winners of a game
that is over were the best of its contenders. -/
structure Paced (game : Game) : Prop where
  first : 1 ≤ game.round
  within : game.round ≤ game.rounds
  begun : game.phase ≠ .lobby
  asked : game.phase = .prompt ∨ game.phase = .submit → game.history.length + 1 = game.round
  scored : game.phase = .sayIt ∨ game.phase = .reveal → game.history.length = game.round
  ended : game.phase = .ending → game.history.length = game.rounds ∧ game.round = game.rounds
  crowned : game.phase = .ending → ∃ pool : List (Nat × Int), best pool = game.winnerIds ∧
    pool.Sublist (game.standings.map Standing.tally) ∧ ((game.standings.filter (!·.out)).map Standing.tally).Sublist pool

/-- A game that moves on: each round follows one that has been scored and is shown, the ending
follows the last of them, and nothing follows the ending. -/
structure Proceeds (before after : Game) : Prop where
  rounds : after.round ≠ before.round →
    after.round = before.round + 1 ∧ before.phase = .reveal ∧ before.history.length = before.round
  ends : after.phase = .ending → before.phase ≠ .ending →
    before.phase = .reveal ∧ before.history.length = before.rounds
  stays : before.phase = .ending → after.phase = .ending ∧ after.winnerIds = before.winnerIds

/-- Somebody is still in when the player has left, and so is every winner; or nobody is, and the
winners are the best of everybody. -/
def KeepsWinners (game : Game) (id : Nat) : Prop :=
  if (game.depart id).standings.all (·.out) then game.winnerIds = best (game.standings.map Standing.tally)
  else ∀ winner ∈ game.winnerIds, winner ∈ ((game.depart id).standings.filter (!·.out)).map (·.id)

instance {id : Nat} : Decidable (game.KeepsWinners id) :=
  inferInstanceAs (Decidable (if (game.depart id).standings.all (·.out) then game.winnerIds = best (game.standings.map Standing.tally)
    else ∀ winner ∈ game.winnerIds, winner ∈ ((game.depart id).standings.filter (!·.out)).map (·.id)))

/-- The game goes on without the player, or its last round is shown, or it is over and keeps its winners. -/
def LeavesInTime (game : Game) (id : Nat) : Prop :=
  if game.phase = .ending then game.KeepsWinners id
  else ¬ (game.depart id).Over ∨ game.phase = .reveal ∧ game.rounds ≤ game.round

instance {id : Nat} : Decidable (game.LeavesInTime id) :=
  inferInstanceAs (Decidable (if game.phase = .ending then game.KeepsWinners id
    else ¬ (game.depart id).Over ∨ game.phase = .reveal ∧ game.rounds ≤ game.round))

/-- Where the odd one out is put out of the game, two at least are still in when a round is shown. -/
def Populated (game : Game) : Prop := game.phase = .reveal → game.eliminates → 2 ≤ game.playingCount

instance : Decidable game.Populated := inferInstanceAs (Decidable (_ → _ → _))

theorem depart_tally : (game.depart id).standings.map Standing.tally = game.standings.map Standing.tally := by
  simp only [Game.depart, map_map]
  refine map_congr_left fun standing _ => ?_
  simp only [Function.comp_apply, Standing.depart]
  split <;> rfl

theorem depart_stays : ((game.depart id).standings.filter (!·.out)).Sublist (game.standings.filter (!·.out)) := by
  simp only [Game.depart]
  induction game.standings with
  | nil => exact .slnil
  | cons standing standings ih =>
    by_cases same : standing.id = id
    · rw [map_cons, Standing.depart, if_pos same, filter_cons_of_neg (by simp)]
      exact ih.trans ((List.sublist_cons_self _ _).filter _)
    · rw [map_cons, Standing.depart, if_neg same]
      rw [filter_cons, filter_cons]
      split
      · exact ih.cons_cons standing
      · exact ih

theorem walkedOut_winners (tidy : game.Tidy) (paced : game.Paced) (ending : game.phase = .ending) :
    winnersOf (game.depart id).standings = game.winnerIds ↔ game.KeepsWinners id := by
  obtain ⟨pool, crowned, sub, still⟩ := paced.crowned ending
  unfold KeepsWinners
  rw [winnersOf_eq, contenders]
  by_cases nobody : (game.depart id).standings.all (·.out)
  · have empty : ((game.depart id).standings.filter (!·.out)).isEmpty := by simpa using nobody
    rw [if_pos empty, if_pos nobody, depart_tally, eq_comm]
  · have somebody : ¬ ((game.depart id).standings.filter (!·.out)).isEmpty := by simpa using nobody
    rw [if_neg somebody, if_neg nobody]
    have ids : ((game.depart id).standings.filter (!·.out)).map (·.id) =
        (((game.depart id).standings.filter (!·.out)).map Standing.tally).map Prod.fst := by
      rw [map_map]
      rfl
    constructor
    · intro same winner won
      rw [ids]
      exact (best_sublist _).subset (same ▸ won)
    · intro stay
      rw [← crowned] at stay ⊢
      have unique : (pool.map Prod.fst).Nodup := by
        have listed : (game.standings.map Standing.tally).map Prod.fst = game.standings.map (·.id) := by
          rw [map_map]
          rfl
        exact (sub.map Prod.fst).nodup (listed ▸ tidy.unique)
      rw [ids] at stay
      exact best_of_staying ((depart_stays.map Standing.tally).trans still) unique stay

theorem finish_crowned (game : Game) : ∃ pool : List (Nat × Int), best pool = game.finish.winnerIds ∧
    pool.Sublist (game.standings.map Standing.tally) ∧ ((game.standings.filter (!·.out)).map Standing.tally).Sublist pool :=
  ⟨_, (winnersOf_eq game.standings).symm, (contenders_sublist game.standings).map Standing.tally,
    (still_contend game.standings).map Standing.tally⟩

theorem Paced.finish (paced : game.Paced) (through : game.history.length = game.rounds) (round : game.round = game.rounds) :
    game.finish.Paced where
  first := paced.first
  within := paced.within
  begun := nofun
  asked asked := by rcases asked with asked | asked <;> cases asked
  scored scored := by rcases scored with scored | scored <;> cases scored
  ended _ := ⟨through, round⟩
  crowned _ := game.finish_crowned

theorem Paced.depart (paced : game.Paced) (id : Nat) : (game.depart id).Paced where
  first := paced.first
  within := paced.within
  begun := paced.begun
  asked := paced.asked
  scored := paced.scored
  ended := paced.ended
  crowned ending := by
    obtain ⟨pool, crowned, sub, still⟩ := paced.crowned ending
    refine ⟨pool, crowned, ?_, (depart_stays.map Standing.tally).trans still⟩
    rwa [depart_tally]

theorem Paced.enter (paced : game.Paced) (round : next.round = game.round) (rounds : next.rounds = game.rounds)
    (asked : next.phase = .prompt ∨ next.phase = .submit → next.history.length + 1 = next.round)
    (scored : next.phase = .sayIt ∨ next.phase = .reveal → next.history.length = next.round)
    (begun : next.phase ≠ .lobby) (goesOn : next.phase ≠ .ending) : next.Paced where
  first := round ▸ paced.first
  within := by
    rw [round, rounds]
    exact paced.within
  begun := begun
  asked := asked
  scored := scored
  ended ending := absurd ending goesOn
  crowned ending := absurd ending goesOn

theorem Proceeds.same (round : after.round = before.round) (goesOn : after.phase ≠ .ending)
    (still : before.phase ≠ .ending) : before.Proceeds after :=
  ⟨absurd round, fun ending => absurd ending goesOn, fun ending => absurd ending still⟩

theorem Proceeds.rests (round : after.round = before.round) (phase : after.phase = before.phase)
    (winners : after.winnerIds = before.winnerIds) : before.Proceeds after :=
  ⟨absurd round, fun ending other => absurd (phase ▸ ending) other, fun ending => ⟨phase.trans ending, winners⟩⟩

end Game

def Act.LeavesInTime (act : Act) (game : Game) : Prop :=
  match act with
  | .leave id => game.LeavesInTime id
  | _ => True

instance {game : Game} : (act : Act) → Decidable (act.LeavesInTime game)
  | .leave id => inferInstanceAs (Decidable (game.LeavesInTime id))
  | .other | .correct _ | .stop | .again => .isTrue trivial

def Act.LetsRun (act : Act) : Prop := act ≠ .stop ∧ act ≠ .again

instance {act : Act} : Decidable act.LetsRun := inferInstanceAs (Decidable (_ ∧ _))

open Game in
theorem Turn.paced {act : Act} (turn : Turn game act next) (tidy : game.Tidy) (paced : game.Paced)
    (runs : act.LetsRun) (populated : game.Populated) (inTime : act.LeavesInTime game) : next.Paced ∧ game.Proceeds next := by
  have first := paced.first
  cases turn with
  | calm => exact ⟨paced, .rests rfl rfl rfl⟩
  | gathered lobby | started lobby => exact absurd lobby paced.begun
  | skipped asked =>
    have same : game.round - 1 + 1 = game.round := by omega
    have still : game.phase ≠ .ending := by rcases asked with phase | phase <;> simp [phase]
    refine ⟨paced.enter same rfl (fun _ => ?_) (fun scored => ?_) nofun nofun, .same same nofun still⟩
    · exact same ▸ paced.asked asked
    · rcases scored with scored | scored <;> cases scored
  | opened asked =>
    refine ⟨paced.enter rfl rfl (fun _ => paced.asked (.inl asked)) (fun scored => ?_) nofun nofun, .same rfl nofun (by simp [asked])⟩
    rcases scored with scored | scored <;> cases scored
  | @closed result next open_ _ shown =>
    have scored : (game.history ++ [result]).length = game.round := by simpa using paced.asked (.inr open_)
    have closed : ¬ (next = .prompt ∨ next = .submit) ∧ next ≠ .lobby ∧ next ≠ .ending := by
      rcases shown with rfl | rfl <;> decide
    exact ⟨paced.enter rfl rfl (fun asked => absurd asked closed.1) (fun _ => scored) closed.2.1 closed.2.2,
      .same rfl closed.2.2 (by simp [open_])⟩
  | shown said =>
    refine ⟨paced.enter rfl rfl (fun asked => ?_) (fun _ => paced.scored (.inl said)) nofun nofun, .same rfl nofun (by simp [said])⟩
    rcases asked with asked | asked <;> cases asked
  | goesOn revealed further =>
    have scored := paced.scored (.inr revealed)
    have less : game.round < game.rounds := by
      by_contra through
      exact further (.inl (Nat.not_lt.mp through))
    refine ⟨⟨Nat.le_add_left 1 game.round, less, nofun, fun _ => ?_, fun scored => ?_, nofun, nofun⟩,
      ⟨fun _ => ⟨rfl, revealed, scored⟩, nofun, fun ending => by cases ending.symm.trans revealed⟩⟩
    · exact congrArg (· + 1) scored
    · rcases scored with scored | scored <;> cases scored
  | concluded revealed isOver =>
    have scored := paced.scored (.inr revealed)
    have through : game.rounds ≤ game.round := isOver.resolve_right fun emptied =>
      absurd (populated revealed emptied.1) (Nat.not_le.mpr emptied.2)
    have round := Nat.le_antisymm paced.within through
    refine ⟨paced.finish (scored.trans round) round, ⟨fun other => absurd rfl other, fun _ _ => ⟨revealed, scored.trans round⟩, fun ending => ?_⟩⟩
    cases ending.symm.trans revealed
  | amended revealed =>
    refine ⟨paced.enter rfl rfl (fun asked => ?_) (fun _ => ?_) paced.begun ?_, .rests rfl rfl rfl⟩
    · rcases asked with asked | asked <;> cases revealed.symm.trans asked
    · rw [Game.amend, length_set]
      exact paced.scored (.inr revealed)
    · intro ending
      cases revealed.symm.trans ending
  | removed | left => exact ⟨paced.depart _, .rests rfl rfl rfl⟩
  | @walkedOut id _ isOver =>
    have inTime : game.LeavesInTime id := inTime
    unfold Game.LeavesInTime at inTime
    split at inTime
    · next ending =>
      obtain ⟨counted, round⟩ := paced.ended ending
      refine ⟨(paced.depart id).finish counted round, ⟨fun other => absurd rfl other, fun _ other => absurd ending other, fun _ => ⟨rfl, ?_⟩⟩⟩
      exact (walkedOut_winners tidy paced ending).mpr inTime
    · next goesOn =>
      obtain ⟨revealed, through⟩ := inTime.resolve_left (not_not.mpr isOver)
      have round := Nat.le_antisymm paced.within through
      have scored := (paced.scored (.inr revealed)).trans round
      exact ⟨(paced.depart id).finish scored round,
        ⟨fun other => absurd rfl other, fun _ _ => ⟨revealed, scored⟩, fun ending => absurd ending goesOn⟩⟩
  | stopped => exact absurd rfl runs.1
  | again => exact absurd rfl runs.2

namespace SameBrainRoom

/-- A game that has just been begun. -/
def Begins (room : SameBrainRoom) : Prop := room.phase = .prompt ∧ room.round = 1 ∧ room.history = []

instance : Decidable room.Begins := inferInstanceAs (Decidable (_ ∧ _))

theorem Begins.paced (begins : room.Begins) : room.game.Paced where
  first := begins.2.1.ge
  within := begins.2.1.trans_le ((by decide : 1 ≤ 3).trans room.rounds.2.1)
  begun lobby := nomatch begins.1.symm.trans lobby
  asked _ := (congrArg (·.length + 1) begins.2.2).trans begins.2.1.symm
  scored scored := by rcases scored with scored | scored <;> exact nomatch begins.1.symm.trans scored
  ended ending := nomatch begins.1.symm.trans ending
  crowned ending := nomatch begins.1.symm.trans ending

theorem placements_players (index : Nat) (prior : Option (Int × Nat)) (players : List PlayerState) :
    (placements index prior players).map Prod.fst = players := by
  induction players generalizing index prior with
  | nil => rfl
  | cons player players ih => exact congrArg (player :: ·) (ih _ _)

theorem sameBrainOfficialResult_winners {envelope : OfficialGameResultEnvelope} (result : room.sameBrainOfficialResult = some envelope)
    (known : ∀ winner ∈ room.winnerIds, winner ∈ room.players.map (·.id)) (id : Nat) :
    id ∈ room.winnerIds ↔ ∃ row ∈ envelope.players, row.playerId = id ∧ row.won := by
  unfold sameBrainOfficialResult at result
  split at result
  · cases result
  · obtain ⟨channelId, -, rfl⟩ := map_eq_some_iff.mp result
    simp only [mem_map]
    constructor
    · intro won
      obtain ⟨player, seated, rfl⟩ := mem_map.mp (known id won)
      have ranked := (perm_insertionSort (fun a b : PlayerState =>
        b.score < a.score || (a.score == b.score && a.id ≤ b.id)) room.players).mem_iff.mpr seated
      rw [← placements_players 0 none (List.insertionSort _ _)] at ranked
      obtain ⟨⟨player, placement⟩, listed, rfl⟩ := mem_map.mp ranked
      exact ⟨_, ⟨(player, placement), listed, rfl⟩, rfl, by simpa using won⟩
    · rintro ⟨-, ⟨⟨player, placement⟩, -, rfl⟩, rfl, won⟩
      simpa using won

end SameBrainRoom

namespace Command
variable {command : Command}

/-- The host neither ends nor replays the game nor returns to the lobby, and where the odd one
out is put out of it, two at least are still in when a round is shown. -/
def LetsRun (command : Command) (room : SameBrainRoom) : Prop :=
  (command.act room).LetsRun ∧ room.game.Populated ∧ (command.finds room).game.Populated

instance : Decidable (command.LetsRun room) := inferInstanceAs (Decidable (_ ∧ _))

/-- Nobody leaves a game too early. -/
def LeavesInTime (command : Command) (room : SameBrainRoom) : Prop := (command.act room).LeavesInTime (command.finds room).game

instance : Decidable (command.LeavesInTime room) := inferInstanceAs (Decidable ((command.act room).LeavesInTime _))

/-- What time does, and then what the action does. -/
def Proceeds (command : Command) (room : SameBrainRoom) : Prop :=
  room.game.Proceeds (command.finds room).game ∧ (command.finds room).game.Proceeds (command.apply room).game

theorem apply_paced (tidy : room.game.Tidy) (paced : room.game.Paced) (draws : command.DrawsNewId room)
    (runs : command.LetsRun room) (inTime : command.LeavesInTime room) : (command.apply room).game.Paced ∧ command.Proceeds room := by
  obtain ⟨found, first⟩ := (command.finds_turn tidy).paced tidy paced ⟨nofun, nofun⟩ runs.2.1 trivial
  obtain ⟨after, second⟩ := (command.apply_turn tidy draws).paced (command.finds_tidy tidy) found runs.1 runs.2.2 inTime
  exact ⟨after, first, second⟩

end Command

def KeepsSealed (start : SameBrainRoom) (commands : List Command) : Prop :=
  ∀ (first later : List Command) (sealing : Command), first ++ sealing :: later <+: commands →
    ∀ envelope ∈ sealing.sealed (runFrom Command.apply start first), ∀ id,
      id ∈ (runFrom Command.apply start (first ++ sealing :: later)).winnerIds ↔ ∃ row ∈ envelope.players, row.playerId = id ∧ row.won

section
variable {commands : List Command}

theorem run_winners (proceeds : EachStep Command.apply Command.Proceeds room commands) (ending : room.phase = .ending) :
    (runFrom Command.apply room commands).winnerIds = room.winnerIds := by
  have step {before : SameBrainRoom} {command : Command} (held : before.phase = .ending ∧ before.winnerIds = room.winnerIds)
      (proceeds : command.Proceeds before) :
      ((command.apply before).phase = .ending ∧ (command.apply before).winnerIds = room.winnerIds) ∧ True := by
    obtain ⟨found, winners⟩ := proceeds.1.stays held.1
    obtain ⟨after, same⟩ := proceeds.2.stays found
    exact ⟨⟨after, same.trans (winners.trans held.2)⟩, trivial⟩
  exact (EachStep.shows @step ⟨ending, rfl⟩ proceeds).1.last.2

theorem Game.Paced.known (paced : game.Paced) (ending : game.phase = .ending) :
    ∀ winner ∈ game.winnerIds, winner ∈ game.standings.map (·.id) := by
  intro winner won
  obtain ⟨pool, crowned, sub, -⟩ := paced.crowned ending
  rw [← crowned] at won
  have listed := (sub.map Prod.fst).subset ((best_sublist pool).subset won)
  rw [map_map] at listed
  exact listed

theorem run_sealed (proceeds : EachStep Command.apply Command.Proceeds room commands)
    (paced : Throughout Command.apply (fun room => room.game.Tidy ∧ room.game.Paced) room commands) : KeepsSealed room commands := by
  rintro first later sealing ⟨rest, rfl⟩ envelope issued id
  obtain ⟨-, -, others⟩ := EachStep.append.mp (EachStep.append.mp proceeds).1
  have same : runFrom Command.apply room (first ++ sealing :: later) =
      runFrom Command.apply (sealing.apply (runFrom Command.apply room first)) later := runFrom_append
  have reached : (sealing.apply (runFrom Command.apply room first)).game.Paced := by
    rw [append_assoc] at paced
    exact (Throughout.append.mp paced).2.2.first.2
  rw [same]
  generalize runFrom Command.apply room first = before at issued others reached ⊢
  have result : (sealing.apply before).sameBrainOfficialResult = some envelope := by
    unfold Command.sealed at issued
    split at issued
    · cases issued
    · exact issued
  have ending : (sealing.apply before).phase = .ending := by
    by_contra playing
    simp [SameBrainRoom.sameBrainOfficialResult, playing] at result
  rw [run_winners others ending]
  refine SameBrainRoom.sameBrainOfficialResult_winners result (fun winner won => ?_) id
  rw [← SameBrainRoom.ids_standings]
  exact reached.known ending winner won

end

/-- In a game that the host lets run, and that nobody leaves too early, every round is scored and
shown before the next, the ending follows the last, and the winners stay those who were sealed. -/
theorem rounds_complete (ctx : GameContext) (rounds : Option Nat) (toggles : TogglesPatch) (timings : TimingsPatch)
    (managed : Bool) (officialResultChannelId : Option Nat) {earlier later : List Command}
    (draws : EachStep Command.apply Command.DrawsNewId
      (SameBrainRoom.createSameBrainRoom ctx rounds toggles timings managed officialResultChannelId) (earlier ++ later))
    (begins : (runFrom Command.apply
      (SameBrainRoom.createSameBrainRoom ctx rounds toggles timings managed officialResultChannelId) earlier).Begins)
    (meets : EachStep Command.apply (fun command room => command.LetsRun room ∧ command.LeavesInTime room)
      (runFrom Command.apply (SameBrainRoom.createSameBrainRoom ctx rounds toggles timings managed officialResultChannelId) earlier)
      later) :
    let game := runFrom Command.apply (SameBrainRoom.createSameBrainRoom ctx rounds toggles timings managed officialResultChannelId) earlier
    EachStep Command.apply Command.Proceeds game later ∧
    Throughout Command.apply (fun room => room.phase = .ending → room.history.length = room.rounds) game later ∧
    KeepsSealed game later := by
  have created := createSameBrainRoom_tidy ctx rounds toggles timings managed officialResultChannelId
  obtain ⟨before, after⟩ := EachStep.append.mp draws
  have tidies {room : SameBrainRoom} {command : Command} (tidy : room.game.Tidy) (draws : command.DrawsNewId room) :
      (command.apply room).game.Tidy ∧ True := ⟨command.apply_tidy tidy draws, trivial⟩
  have tidy := (EachStep.shows @tidies created before).1.last
  have step {room : SameBrainRoom} {command : Command} (held : room.game.Tidy ∧ room.game.Paced)
      (meets : command.DrawsNewId room ∧ command.LetsRun room ∧ command.LeavesInTime room) :
      ((command.apply room).game.Tidy ∧ (command.apply room).game.Paced) ∧ command.Proceeds room := by
    obtain ⟨paced, proceeds⟩ := command.apply_paced held.1 held.2 meets.1 meets.2.1 meets.2.2
    exact ⟨⟨command.apply_tidy held.1 meets.1, paced⟩, proceeds⟩
  obtain ⟨paced, proceeds⟩ := EachStep.shows @step ⟨tidy, begins.paced⟩ (after.and meets)
  exact ⟨proceeds, paced.imp fun _ held ending => (held.2.ended ending).1, run_sealed proceeds paced⟩

/-- A room of three rounds whose results are sealed. -/
def shortRoom : SameBrainRoom :=
  SameBrainRoom.createSameBrainRoom (.plain 1) (some 3) { sayItAloud := some false } {} false (some 1)

def gathers : List Command := joins ["Ada", "Bo", "Cy", "Di"] ++ [.byHost 2 1 (.start [])]

def moves (count : Nat) (last : Nat) : List Command := (List.range' (last + 1 - count) count).map fun tick : Nat => .byHost tick tick .advance

/-- Ada and Bo give the same answer in the first round, and something is done before it closes; the host
then moves on to the ending. -/
def sharedApple (more : List Command) : List Command :=
  moves 1 3 ++ [.by 2 4 4 (.submit 1 "Apple"), .by 4 5 5 (.submit 1 "Apple")] ++ more ++ moves 8 20

/-- Somebody leaves while the last round is answered, and the game is over a round early; a winner
leaves a game that is over, and is no winner any more. -/
theorem leaver_endsGame :
    let game := runFrom Command.apply shortRoom gathers
    let early := moves 7 9 ++ [.by 8 10 10 .leave]
    let late := sharedApple [] ++ [.by 4 21 21 .leave]
    EachStep Command.apply Command.DrawsNewId shortRoom gathers ∧ game.Begins ∧
    EachStep Command.apply Command.LetsRun game early ∧
    ¬ Throughout Command.apply (fun room => room.phase = .ending → room.history.length = room.rounds) game early ∧
    EachStep Command.apply Command.LetsRun game late ∧
    (runFrom Command.apply game (sharedApple [])).winnerIds = [2, 4] ∧ (runFrom Command.apply game late).winnerIds = [2] := by
  refine ⟨by decide +kernel, by decide +kernel, by decide +kernel, fun throughout => ?_, by decide +kernel, by decide +kernel,
    by decide +kernel⟩
  exact absurd throughout.last (by decide +kernel)

theorem rounds_complete_othersLeave :
    let game := runFrom Command.apply shortRoom gathers
    let run := sharedApple [.by 8 6 6 .leave] ++ [.by 6 21 21 .leave]
    EachStep Command.apply Command.Proceeds game run ∧
    Throughout Command.apply (fun room => room.phase = .ending → room.history.length = room.rounds) game run ∧ KeepsSealed game run :=
  rounds_complete (.plain 1) (some 3) { sayItAloud := some false } {} false (some 1) (by decide +kernel) (by decide +kernel)
    (by decide +kernel)

end MilkAndHenny.SameBrain

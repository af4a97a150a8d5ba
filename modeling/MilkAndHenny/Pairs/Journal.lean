import MilkAndHenny.Pairs.Rules

/-! What every game of Pairs keeps, where its undo leads, and the game that a stored record is
recovered to. -/

namespace MilkAndHenny.Pairs
open Library
open Staff (Json)
open Zip (trim trim_trim)

variable {game next : PairsGame} {place first : Nat}

/-! ### What a game keeps -/

def SameRank (cards : List PairsCard) (first second : Nat) : Prop :=
  ∃ card other, cards[first]? = some card ∧ cards[second]? = some other ∧ card.rank = other.rank

def placesOf (pairs : List (Nat × Nat)) : List Nat := pairs.flatMap fun pair => [pair.1, pair.2]

/-- The matched cards lie in pairs of one rank, none of them in two, and each pair was scored once. -/
structure PairsTurn.Fair (turn : PairsTurn) (cards : List PairsCard) (players : Nat) : Prop where
  paired : ∃ pairs, turn.matched = placesOf pairs ∧ ∀ pair ∈ pairs, SameRank cards pair.1 pair.2
  apart : turn.matched.Nodup
  scored : 2 * turn.scores.sum = turn.matched.length
  seats : turn.scores.length = players
  seated : turn.turn < players

structure PairsGame.Sound (game : PairsGame) : Prop where
  fair : game.Fair game.cards game.names.length
  chosen : game.selected.length ≤ 2
  single : game.phase = .playing → game.selected.length ≤ 1
  hidden : game.phase = .playing → ∀ place ∈ game.selected, place < game.cards.length ∧ place ∉ game.matched
  judged : game.phase ≠ .review → game.outcome = none
  finished : game.phase = .finished → ∀ place < game.cards.length, place ∈ game.matched
  stored : ∀ previous ∈ game.previous, previous.Fair game.cards game.names.length
  /-- What is stored is the start of a turn. -/
  opens : ∀ previous ∈ game.previous, previous.selected = [] ∧ previous.phase = .playing ∧ previous.outcome = none

section
variable {cards : List PairsCard} {turn : PairsTurn} {players : Nat}

theorem placesOf_append (pairs : List (Nat × Nat)) (pair : Nat × Nat) : placesOf (pairs ++ [pair]) = placesOf pairs ++ [pair.1, pair.2] := by
  rw [placesOf, flatMap_append, List.flatMap_singleton]
  rfl

theorem PairsTurn.Fair.inside (fair : turn.Fair cards players) : ∀ place ∈ turn.matched, place < cards.length := by
  obtain ⟨pairs, listed, same⟩ := fair.paired
  intro place mem
  rw [listed] at mem
  obtain ⟨pair, paired, at'⟩ := mem_flatMap.mp mem
  obtain ⟨card, other, first, second, -⟩ := same pair paired
  simp only [mem_cons, not_mem_nil, or_false] at at'
  rcases at' with rfl | rfl
  · exact (getElem?_eq_some_iff.mp first).1
  · exact (getElem?_eq_some_iff.mp second).1

theorem PairsTurn.Fair.keeps (fair : turn.Fair cards players) {other : PairsTurn} (matched : other.matched = turn.matched)
    (scores : other.scores = turn.scores) (seated : other.turn < players) : other.Fair cards players where
  paired := matched ▸ fair.paired
  apart := matched ▸ fair.apart
  scored := matched ▸ scores ▸ fair.scored
  seats := scores ▸ fair.seats
  seated := seated

theorem PairsTurn.Fair.all (fair : turn.Fair cards players) (full : turn.matched.length = cards.length) :
    ∀ place < cards.length, place ∈ turn.matched := by
  have within : turn.matched ⊆ List.range cards.length := fun place mem => mem_range.mpr (fair.inside place mem)
  have every : turn.matched.Perm (List.range cards.length) :=
    (subperm_of_subset fair.apart within).perm_of_length_le (by rw [length_range, full])
  intro place inside
  exact every.mem_iff.mpr (mem_range.mpr inside)

theorem mapIdx_kept (scores : List Nat) : (scores.mapIdx fun _ score => score) = scores :=
  List.ext_getElem (by simp) fun place _ _ => by simp

theorem sum_scored (scores : List Nat) {turn : Nat} (seated : turn < scores.length) :
    (scores.mapIdx fun index score => score + if index = turn then 1 else 0).sum = scores.sum + 1 := by
  induction scores generalizing turn with
  | nil => cases seated
  | cons score scores ih =>
    rw [List.mapIdx_cons, sum_cons, sum_cons]
    cases turn with
    | zero =>
      have rest : (scores.mapIdx fun index score => score + if index + 1 = 0 then 1 else 0) = scores := by simp [mapIdx_kept]
      rw [rest, if_pos rfl]
      omega
    | succ turn =>
      have rest := ih (Nat.lt_of_succ_lt_succ seated)
      simp only [Nat.add_right_cancel_iff]
      rw [rest, if_neg (Nat.succ_ne_zero turn).symm]
      omega

end

namespace PairsGame
variable {index : Rat}

theorem place_inside (found : game.place index = some place) :
    index.isInt ∧ 0 ≤ index ∧ place = index.num.toNat ∧ place < game.cards.length := by
  unfold PairsGame.place at found
  split at found
  · next inside =>
    cases found
    exact ⟨inside.1, inside.2.1, rfl, inside.2.2⟩
  · cases found

theorem play_flip (played : game.play (.flip index) = some next) :
    ∃ place, game.phase = .playing ∧ game.place index = some place ∧ place ∉ game.selected ∧ place ∉ game.matched ∧
      next = game.turnOver place := by
  simp only [play] at played
  split at played
  · cases played
  · next playing =>
    obtain ⟨place, found, rfl⟩ := map_eq_some_iff.mp played
    obtain ⟨found, hidden⟩ := filter_eq_some_iff.mp found
    simp only [and_eq_true, not_eq_true', contains_eq_mem, decide_eq_false_iff_not] at hidden
    exact ⟨place, not_not.mp playing, found, hidden.1, hidden.2, rfl⟩

theorem turnOver_first (place : Nat) (none_ : game.selected = []) :
    game.turnOver place = { game with selected := [place], previous := some game.checkpoint } := by
  unfold turnOver
  rw [none_]
  rfl

theorem turnOver_second (place : Nat) (one : game.selected = [first]) :
    game.turnOver place =
      let same := game.rank first = game.rank place
      { game with
        selected := [first, place]
        tries := game.tries + 1
        phase := .review
        outcome := some (if same then .match_ else .miss)
        matched := if same then game.matched ++ [first, place] else game.matched
        scores := game.scores.mapIdx fun index score => score + if same ∧ index = game.turn then 1 else 0 } := by
  unfold turnOver
  rw [one]
  rfl

theorem checkpoint_fair (sound : game.Sound) : game.checkpoint.Fair game.cards game.names.length :=
  sound.fair.keeps rfl rfl sound.fair.seated

theorem nextTurn_seated (sound : game.Sound) : game.nextTurn < game.names.length :=
  Nat.mod_lt _ (Nat.zero_lt_of_lt sound.fair.seated)

theorem Sound.second (sound : game.Sound) (playing : game.phase = .playing) (one : game.selected = [first])
    (inside : place < game.cards.length) (apart : place ≠ first) (hidden : place ∉ game.matched) : (game.turnOver place).Sound := by
  obtain ⟨within, hidden'⟩ := sound.hidden playing first (by simp [one])
  rw [turnOver_second place one]
  by_cases same : game.rank first = game.rank place
  · simp only [same, if_true, true_and]
    obtain ⟨pairs, listed, ranks⟩ := sound.fair.paired
    have scored := sound.fair.scored
    refine ⟨⟨⟨pairs ++ [(first, place)], ?_, ?_⟩, ?_, ?_, ?_, sound.fair.seated⟩, ?_, nofun, nofun, ?_, nofun, sound.stored, sound.opens⟩
    · rw [placesOf_append, listed]
    · intro pair mem
      rcases mem_append.mp mem with old | new
      · exact ranks pair old
      · rw [mem_singleton.mp new]
        simp only [rank, getElem?_eq_getElem within, getElem?_eq_getElem inside, map_some, some.injEq] at same
        exact ⟨_, _, getElem?_eq_getElem within, getElem?_eq_getElem inside, same⟩
    · refine nodup_append.mpr ⟨sound.fair.apart, by simp [Ne.symm apart], ?_⟩
      intro card mem other new
      simp only [mem_cons, not_mem_nil, or_false] at new
      rintro rfl
      rcases new with rfl | rfl
      · exact hidden' mem
      · exact hidden mem
    · rw [sum_scored _ (sound.fair.seats ▸ sound.fair.seated), length_append]
      simp only [length_cons, length_nil]
      omega
    · rw [List.length_mapIdx]
      exact sound.fair.seats
    · simp
    · exact absurd rfl
  · simp only [same, if_false, false_and, Nat.add_zero]
    rw [mapIdx_kept]
    exact ⟨sound.fair.keeps rfl rfl sound.fair.seated, by simp, nofun, nofun,
      absurd rfl, nofun, sound.stored, sound.opens⟩

theorem Sound.play (sound : game.Sound) {action : PairsAction} (played : game.play action = some next) : next.Sound := by
  cases action with
  | flip =>
    obtain ⟨place, playing, found, unselected, hidden, rfl⟩ := play_flip played
    obtain ⟨-, -, -, inside⟩ := place_inside found
    have single := sound.single playing
    cases chosen : game.selected with
    | nil =>
      rw [turnOver_first place chosen]
      refine ⟨sound.fair.keeps rfl rfl sound.fair.seated, by simp, fun _ => by simp, ?_, sound.judged, ?_, ?_, ?_⟩
      · intro _ other mem
        rw [mem_singleton.mp mem]
        exact ⟨inside, hidden⟩
      · exact sound.finished
      · intro previous stored
        rw [← mem_some.mp stored]
        exact checkpoint_fair sound
      · intro previous stored
        rw [← mem_some.mp stored]
        exact ⟨rfl, rfl, rfl⟩
    | cons first rest =>
      have alone : rest = [] := by
        rw [chosen, length_cons] at single
        exact List.length_eq_zero_iff.mp (Nat.le_zero.mp (Nat.le_of_succ_le_succ single))
      rw [alone] at chosen
      refine sound.second playing chosen inside (fun same => unselected ?_) hidden
      rw [chosen, same]
      exact mem_singleton_self _
  | continue_ =>
    simp only [PairsGame.play] at played
    split at played
    · cases played
    · cases played
      refine ⟨sound.fair.keeps rfl rfl ?_, by simp, by simp, ?_, fun _ => rfl, ?_,
        sound.stored, sound.opens⟩
      · change (if _ then _ else _) < _
        split
        · exact nextTurn_seated sound
        · exact sound.fair.seated
      · exact nofun
      · intro ended
        change (if _ then _ else _) = _ at ended
        split at ended
        · next full => exact sound.fair.all full
        · cases ended
  | undo =>
    obtain ⟨previous, stored, rfl⟩ := map_eq_some_iff.mp played
    obtain ⟨unchosen, playing, open_⟩ := sound.opens previous stored
    refine ⟨sound.stored previous stored, ?_, ?_, ?_, fun _ => open_, ?_, nofun, nofun⟩
    · simp [unchosen]
    · simp [unchosen]
    · intro _ place mem
      rw [unchosen] at mem
      cases mem
    · intro ended
      cases playing.symm.trans ended
  | skip =>
    simp only [PairsGame.play] at played
    split at played
    · cases played
    · next open_ =>
      cases played
      refine ⟨sound.fair.keeps rfl rfl (nextTurn_seated sound), by simp, by simp, ?_,
        sound.judged, sound.finished, ?_, ?_⟩
      · exact nofun
      · intro previous stored
        rw [← mem_some.mp stored]
        exact checkpoint_fair sound
      · intro previous stored
        rw [← mem_some.mp stored]
        exact ⟨rfl, rfl, rfl⟩

end PairsGame

/-! ### Where the undo leads -/

/-- A game, and the game at the start of its latest turn: of the cards turned over last, or of the one that was skipped. -/
structure Round where
  game : PairsGame
  start : Option PairsGame

namespace Round

/-- The start of the turn that an action belongs to; no turn can be taken back twice. -/
def starts (round : Round) : PairsAction → Option PairsGame
  | .undo => none
  | .continue_ => round.start
  | .flip _ | .skip => if round.game.selected = [] then some round.game else round.start

def act (action : PairsAction) (round : Round) : Round :=
  (round.game.play action).elim round fun next => { game := next, start := round.starts action }

structure Returns (round : Round) : Prop where
  sound : round.game.Sound
  stored : round.game.previous = round.start.map (·.checkpoint)
  opens : ∀ start ∈ round.start, start.phase = .playing ∧ start.selected = [] ∧ start.outcome = none
  table : ∀ start ∈ round.start, start.cards = round.game.cards ∧ start.names = round.game.names
  /-- Until its second card is turned over, nothing else has changed. -/
  midway : round.game.phase = .playing → round.game.selected ≠ [] → ∃ start ∈ round.start, round.game.checkpoint = start.checkpoint

variable {round : Round}

theorem Returns.undo (returns : round.Returns) :
    round.game.play .undo = round.start.map fun start => { start with previous := none } := by
  simp only [PairsGame.play, returns.stored, Option.map_map]
  refine Option.map_congr fun start mem => ?_
  obtain ⟨playing, unchosen, open_⟩ := returns.opens start mem
  obtain ⟨cards, names⟩ := returns.table start mem
  simp only [Function.comp_apply, PairsGame.checkpoint]
  rw [← cards, ← names, ← playing, ← unchosen, ← open_]

theorem Returns.act (returns : round.Returns) (action : PairsAction) : (round.act action).Returns := by
  unfold Round.act
  cases played : round.game.play action with
  | none => exact returns
  | some next =>
    have sound := returns.sound.play played
    cases action with
    | flip index =>
      obtain ⟨place, playing, -, -, -, rfl⟩ := PairsGame.play_flip played
      cases chosen : round.game.selected with
      | nil =>
        have begun : round.starts (.flip index) = some round.game := if_pos chosen
        rw [PairsGame.turnOver_first place chosen] at sound
        simp only [elim_some, begun, PairsGame.turnOver_first place chosen]
        refine ⟨sound, rfl, ?_, ?_, fun _ _ => ⟨round.game, rfl, rfl⟩⟩
        · rintro start ⟨⟩
          exact ⟨playing, chosen, returns.sound.judged (by simp [playing])⟩
        · rintro start ⟨⟩
          exact ⟨rfl, rfl⟩
      | cons first rest =>
        have kept : round.starts (.flip index) = round.start := if_neg (by simp [chosen])
        have alone : rest = [] := by
          have single := returns.sound.single playing
          rw [chosen, length_cons] at single
          exact List.length_eq_zero_iff.mp (Nat.le_zero.mp (Nat.le_of_succ_le_succ single))
        rw [alone] at chosen
        rw [PairsGame.turnOver_second place chosen] at sound
        simp only [elim_some, kept, PairsGame.turnOver_second place chosen]
        exact ⟨sound, returns.stored, returns.opens, returns.table, nofun⟩
    | continue_ =>
      simp only [PairsGame.play] at played
      split at played
      · cases played
      · cases played
        exact ⟨sound, returns.stored, returns.opens, returns.table, fun _ chosen => absurd rfl chosen⟩
    | undo =>
      obtain ⟨previous, stored, rfl⟩ := map_eq_some_iff.mp played
      exact ⟨sound, rfl, nofun, nofun, fun _ chosen => absurd (returns.sound.opens previous stored).1 chosen⟩
    | skip =>
      simp only [PairsGame.play] at played
      split at played
      · cases played
      · next open_ =>
        cases played
        have playing : round.game.phase = .playing := by
          by_contra other
          exact open_ (.inl other)
        by_cases chosen : round.game.selected = []
        · have begun : round.starts .skip = some round.game := if_pos chosen
          simp only [elim_some, begun]
          refine ⟨sound, rfl, ?_, ?_, fun _ chosen => absurd rfl chosen⟩
          · rintro start ⟨⟩
            exact ⟨playing, chosen, returns.sound.judged (by simp [playing])⟩
          · rintro start ⟨⟩
            exact ⟨rfl, rfl⟩
        · have kept : round.starts .skip = round.start := if_neg chosen
          obtain ⟨start, begun, same⟩ := returns.midway playing chosen
          simp only [elim_some, kept]
          refine ⟨sound, ?_, returns.opens, returns.table, fun _ chosen => absurd rfl chosen⟩
          rw [mem_def.mp begun, map_some, ← same]

end Round

/-! ### The record of a table -/

section
variable {toLowerCase : String → String} {seed : Rat} {pairCount : Nat} {names : List String} {table : Table}
  {first : PairsGame} {action : PairsAction}

theorem length_shufflePairs (state : UInt32) (index : Nat) (cards : List PairsCard) :
    (shufflePairs state index cards).length = cards.length := by
  induction index generalizing state cards with
  | zero => rfl
  | succ index ih =>
    unfold shufflePairs
    rw [ih]
    split
    · rw [length_set, length_set]
    · rfl

theorem length_pairsDeck (known : pairCount ∈ pairsSizes) : (pairsDeck pairCount).length ≤ 20 := by
  have all : ∀ size ∈ pairsSizes, (pairsDeck size).length ≤ 20 := by decide
  exact all pairCount known

theorem createPairsGame_ok (created : createPairsGame toLowerCase seed pairCount names = .ok game) :
    pairCount ∈ pairsSizes ∧ game.names = names.map trim ∧ game.cards.length ≤ 20 ∧ game.Sound ∧ game.previous = none ∧ game.selected = [] ∧
      createPairsGame toLowerCase seed pairCount game.names = .ok game := by
  have again := created
  unfold createPairsGame at created
  split at created
  · cases created
  · split at created
    · cases created
    · next size =>
      simp only [or_eq_true, not_eq_true', decide_eq_true_eq, not_or, not_eq_false, contains_eq_mem, Nat.not_lt] at size
      extract_lets trimmed cards at created
      split at created
      · cases created
      · have known : pairCount ∈ pairsSizes := by simpa using size.1.1
        cases Except.ok.inj created
        have same : (names.map trim).map trim = names.map trim := by
          rw [map_map]
          exact map_congr_left fun name _ => trim_trim name
        refine ⟨known, rfl, ?_, ⟨⟨⟨[], rfl, nofun⟩, nodup_nil, ?_, ?_, ?_⟩, ?_, ?_, ?_, fun _ => rfl, nofun, nofun, nofun⟩, rfl, rfl, ?_⟩
        · rw [length_shufflePairs]
          exact length_pairsDeck known
        · simp
        · simp
        · change 0 < (names.map trim).length
          rw [length_map]
          omega
        · simp
        · simp
        · simp
        · rw [← again]
          simp [createPairsGame, trimmed, same]

structure Table.Recorded (table : Table) (toLowerCase : String → String) (first : PairsGame) : Prop where
  dealt : createPairsGame toLowerCase table.record.seed table.record.pairCount table.record.names = .ok first
  replays : (table.record.actions.map PairsAction.toJson).foldlM Replay.next { actions := [], game := first } =
    some { actions := table.record.actions, game := table.game }
  small : table.game.cards.length ≤ 20

theorem PairsGame.play_cards (played : game.play action = some next) : next.cards = game.cards := by
  cases action with
  | flip =>
    obtain ⟨place, -, -, -, -, rfl⟩ := play_flip played
    unfold turnOver
    dsimp only
    split <;> rfl
  | undo =>
    obtain ⟨previous, -, rfl⟩ := map_eq_some_iff.mp played
    rfl
  | continue_ | skip =>
    simp only [play] at played
    split at played
    · cases played
    · rw [← some.inj played]

theorem parse_toJson (small : game.cards.length ≤ 20) (played : game.play action = some next) :
    parseAction action.toJson = some action := by
  cases action with
  | flip index =>
    obtain ⟨place, -, found, -, -, -⟩ := PairsGame.play_flip played
    obtain ⟨whole, positive, rfl, inside⟩ := PairsGame.place_inside found
    have below : index < 20 := by
      have number : index = index.num := Rat.eq_num_of_isInt whole
      rw [number]
      have limit : index.num < 20 := by omega
      exact_mod_cast limit
    exact if_pos ⟨whole, positive, below⟩
  | continue_ | undo | skip => rfl

theorem Table.Recorded.act (recorded : table.Recorded toLowerCase first) (action : PairsAction) :
    (table.act action).Recorded toLowerCase first := by
  unfold Table.act
  cases played : table.game.play action with
  | none => exact recorded
  | some next =>
    refine ⟨recorded.dealt, ?_, ?_⟩
    · simp only [elim_some, map_append, map_cons, map_nil]
      rw [List.foldlM_append, recorded.replays]
      simp [Replay.next, parse_toJson recorded.small played, played]
    · rw [elim_some, PairsGame.play_cards played]
      exact recorded.small

theorem Table.Recorded.restored (recorded : table.Recorded toLowerCase first)
    (size : table.record.pairCount ∈ pairsSizes) (limit : table.record.actions.length ≤ 4000) :
    restorePairsRecord toLowerCase table.record.toJson = some (table.record, table.game) := by
  have version : (field table.record.toJson "version").bind Json.asNumber = some 1 := rfl
  have seed : (field table.record.toJson "seed").bind Json.asNumber = some table.record.seed := rfl
  have count : (field table.record.toJson "pairCount").bind Json.asNumber = some (table.record.pairCount : Rat) := rfl
  have names : (field table.record.toJson "names").bind Json.asArray = some (table.record.names.map .string) := rfl
  have actions : (field table.record.toJson "actions").bind Json.asArray = some (table.record.actions.map PairsAction.toJson) := rfl
  have sized : (pairsSizes.find? fun (size : Nat) => (size : Rat) == table.record.pairCount) = some table.record.pairCount := by
    have all : ∀ count ∈ pairsSizes, (pairsSizes.find? fun (size : Nat) => (size : Rat) == count) = some count := by decide
    exact all _ size
  have texts : (table.record.names.map Json.string).mapM Json.asString = some table.record.names := by
    rw [List.mapM_map]
    exact (@List.mapM_pure Option String String _ _ table.record.names id).trans (congrArg some (map_id _))
  unfold restorePairsRecord
  rw [version, seed, count, names, actions]
  simp [sized, texts, recorded.dealt, recorded.replays, Nat.not_lt.mpr limit, Except.toOption]

theorem Table.Recorded.run (recorded : table.Recorded toLowerCase first) (actions : List PairsAction) :
    (runFrom Table.act table actions).Recorded toLowerCase first := by
  induction actions generalizing table with
  | nil => exact recorded
  | cons action actions ih => exact ih (recorded.act action)

theorem Table.size_run (actions : List PairsAction) : (runFrom Table.act table actions).record.pairCount = table.record.pairCount := by
  induction actions generalizing table with
  | nil => rfl
  | cons action actions ih =>
    have same : (table.act action).record.pairCount = table.record.pairCount := by
      unfold Table.act
      cases table.game.play action <;> rfl
    exact ih.trans same

theorem Round.Returns.run {round : Round} (returns : round.Returns) (actions : List PairsAction) :
    (runFrom Round.act round actions).Returns := by
  induction actions generalizing round with
  | nil => exact returns
  | cons action actions ih => exact ih (returns.act action)

theorem same_game {round : Round} (same : round.game = table.game) (actions : List PairsAction) :
    (runFrom Round.act round actions).game = (runFrom Table.act table actions).game := by
  induction actions generalizing round table with
  | nil => exact same
  | cons action actions ih =>
    have step : (round.act action).game = (table.act action).game := by
      unfold Round.act Table.act
      rw [same]
      cases table.game.play action with
      | none => exact same
      | some => rfl
    exact ih step

/-- Whatever is played at a table, its stored record is recovered to its game, its matched cards lie in pairs that
were scored once, and an undo goes back to the start of the latest turn, once. -/
theorem pairs_recovered (toLowerCase : String → String) (seed : Rat) (pairCount : Nat) (names : List String) (table : Table)
    (started : Table.start toLowerCase seed pairCount names = .ok table) (actions : List PairsAction) :
    let played := runFrom Table.act table actions
    let latest := (runFrom Round.act { game := table.game, start := none } actions).start
    (played.record.actions.length ≤ 4000 →
      restorePairsRecord toLowerCase played.record.toJson = some (played.record, played.game)) ∧
    played.game.Sound ∧
    (∀ start ∈ latest, start.phase = .playing ∧ start.selected = []) ∧
    (played.game.play .undo = latest.map fun start => { start with previous := none }) ∧
    ∀ undone, played.game.play .undo = some undone → undone.play .undo = none := by
  intro played latest
  unfold Table.start at started
  cases created : createPairsGame toLowerCase seed pairCount names with
  | error =>
    rw [created] at started
    cases started
  | ok game =>
    rw [created] at started
    cases Except.ok.inj started
    obtain ⟨size, -, small, sound, unstored, unchosen, again⟩ := createPairsGame_ok created
    have first : Table.Recorded { game, record := { seed, pairCount, names := game.names, actions := [] } } toLowerCase game :=
      ⟨again, rfl, small⟩
    have recorded := first.run actions
    have opened : Round.Returns { game, start := none } := ⟨sound, unstored, nofun, nofun, fun _ chosen => absurd unchosen chosen⟩
    have returns := opened.run actions
    have same := @same_game { game, record := { seed, pairCount, names := game.names, actions := [] } } { game, start := none } rfl actions
    have undo := returns.undo
    rw [same] at undo
    refine ⟨fun limit => recorded.restored ?_ limit, same ▸ returns.sound, fun start mem => ?_, undo, fun undone carried => ?_⟩
    · rw [Table.size_run]
      exact size
    · obtain ⟨playing, chosen, -⟩ := returns.opens start mem
      exact ⟨playing, chosen⟩
    · obtain ⟨previous, -, rfl⟩ := map_eq_some_iff.mp carried
      rfl

def theirTable : Table where
  game := {
    cards := [⟨"Q", .hearts⟩, ⟨"Q", .spades⟩, ⟨"K", .diamonds⟩, ⟨"K", .clubs⟩, ⟨"A", .spades⟩, ⟨"A", .hearts⟩]
    names := ["Alex", "Jo"], scores := [0, 0], matched := [], selected := [], turn := 0, tries := 0, phase := .playing
    outcome := none, previous := none }
  record := { seed := 12, pairCount := 3, names := ["Alex", "Jo"], actions := [] }

theorem pairs_recovered_theirTable :
    let played := runFrom Table.act theirTable [.flip 0, .flip 0, .flip 1, .continue_, .flip 2]
    played.record.actions = [.flip 0, .flip 1, .continue_, .flip 2] ∧ played.game.scores = [1, 0] ∧
      restorePairsRecord id played.record.toJson = some (played.record, played.game) :=
  have started : Table.start id 12 3 ["Alex ", "Jo"] = .ok theirTable := by decide +kernel
  have small : (runFrom Table.act theirTable [.flip 0, .flip 0, .flip 1, .continue_, .flip 2]).record.actions.length ≤ 4000 := by decide +kernel
  ⟨by decide +kernel, by decide +kernel, (pairs_recovered id 12 3 ["Alex ", "Jo"] theirTable started _).1 small⟩

end

end MilkAndHenny.Pairs

import MilkAndHenny.Twin.Chronicle

/-! Where the log of a game is kept. Postgres keeps it in the room, and writes both at once. Redis keeps it
under a key of its own, which an action writes after it has let go of the lock of the room. -/

namespace MilkAndHenny.Twin
variable {store : RedisStore} {room : TwinRoom} {log : List TwinLoggedHeat} {now : Int} {history : History} {command : Command}
open Library Multiplayer

/-- What is to be read at the end of a game: each heat of it that was settled, once and in order. -/
structure Complete (room : TwinRoom) (history : History) (heats : List TwinLoggedHeat) : Prop where
  ours : heats = history.ofGame room.gameNumber
  numbers : heats.map (·.number) = List.range' 1 room.heatCount

instance {room : TwinRoom} {history : History} {heats : List TwinLoggedHeat} : Decidable (Complete room history heats) :=
  decidable_of_iff (heats = history.ofGame room.gameNumber ∧ heats.map (·.number) = List.range' 1 room.heatCount)
    ⟨fun ⟨ours, numbers⟩ => ⟨ours, numbers⟩, fun ⟨ours, numbers⟩ => ⟨ours, numbers⟩⟩

theorem Right.complete (right : Right room log history)
    (finished : room.phase = .finished) : Complete room history log := by
  refine ⟨right.ours, (right.numbers (by simp [finished])).trans ?_⟩
  rw [TwinRoom.settled, finished]

variable (ctx : GameContext) (input : CreateInput)

theorem right_created : Right (createTwinRoom ctx input) [] [] where
  waiting _ := rfl
  playing playing := by cases playing
  numbers _ := rfl
  ours := rfl
  past _ mem := by cases mem

/-! ### Postgres -/

structure PostgresStore where
  room : TwinRoom
  history : History

def PostgresStore.next (command : Command) (store : PostgresStore) : PostgresStore where
  room := command.apply store.room
  history := command.remember store.room store.history

def PostgresStore.readTwinLog (store : PostgresStore) (playerId : Nat) (playerToken : Secret) : Option (List TwinLoggedHeat) :=
  (store.room.validPlayer playerId playerToken).map fun _ => store.room.loggedHeats

/-! ### Redis -/

/-- What a request has yet to do. -/
inductive LogOp where
  | load
  | get (entries : List TwinLoggedHeat)
  | set (log : List TwinLoggedHeat)
  | del
  | save (room : TwinRoom)

structure Writer where
  /-- Of the room that the request holds. -/
  expiresAt : Int
  todo : List LogOp
  locks : Bool

structure RedisStore where
  /-- Stored without a log. -/
  room : TwinRoom
  /-- The log, and the time at which its key lapses. -/
  log : Option (List TwinLoggedHeat × Int)
  writers : List Writer
  history : History

inductive RedisStep where
  | request (command : Command)
  | proceed (writer : Nat) (now : Int)

def TwinRoom.unlogged (room : TwinRoom) : TwinRoom := { room with loggedHeats := [] }

/-- A read-modify-write, or a deletion. -/
def LogEvent.ops : LogEvent → List LogOp
  | .append entries => [.get entries]
  | .clear => [.del]

/-- `remainingMultiplayerRoomTtlSeconds`. -/
def remainingMultiplayerRoomTtlSeconds (expiresAt now : Int) : Int := max 1 ((expiresAt - now + 999) / 1000)

namespace RedisStore

def logAt (store : RedisStore) (now : Int) : List TwinLoggedHeat := (store.log.filter (now < ·.2)).elim [] (·.1)

def request (command : Command) (store : RedisStore) : RedisStore :=
  if store.writers.any (·.locks) then store
  else
    let room := (command.apply store.room).unlogged
    let events := command.events store.room
    let history := command.remember store.room store.history
    if events.isEmpty then { store with room, history }
    else
      match command with
      | .act .. =>
        let writer : Writer := { expiresAt := room.expiresAt, todo := .load :: events.flatMap LogEvent.ops, locks := false }
        { store with room, history, writers := store.writers ++ [writer] }
      | .join .. | .read .. =>
        let writer : Writer := { expiresAt := room.expiresAt, todo := events.flatMap LogEvent.ops ++ [.save room], locks := true }
        { store with history, writers := store.writers ++ [writer] }

/-- The next thing that a writer does, and the writer after it. An action finds its room again first, and
writes nothing where it has lapsed. -/
def perform (now : Int) (store : RedisStore) (writer : Writer) (rest : List LogOp) : LogOp → RedisStore × Writer
  | .load => (store, { writer with expiresAt := store.room.expiresAt, todo := if now < store.room.expiresAt then rest else [] })
  | .get entries => (store, { writer with todo := .set (store.logAt now ++ entries) :: rest })
  | .set log =>
    ({ store with log := some (log, now + remainingMultiplayerRoomTtlSeconds writer.expiresAt now * 1000) }, { writer with todo := rest })
  | .del => ({ store with log := none }, { writer with todo := rest })
  | .save room => ({ store with room }, { writer with todo := rest })

def proceed (index : Nat) (now : Int) (store : RedisStore) : RedisStore :=
  match store.writers[index]? with
  | none => store
  | some writer =>
    match writer.todo with
    | [] => store
    | op :: rest =>
      let (after, writer) := store.perform now writer rest op
      { after with writers := (store.writers.set index writer).filter (!·.todo.isEmpty) }

def readTwinLog (store : RedisStore) (now : Int) (playerId : Nat) (playerToken : Secret) : Option (List TwinLoggedHeat) :=
  if now < store.room.expiresAt then (store.room.validPlayer playerId playerToken).map fun _ => store.logAt now else none

/-- The key of the log is held for longer. -/
def Fresh (store : RedisStore) (now : Int) : Prop := ∀ log ∈ store.log, now < log.2

instance (store : RedisStore) (now : Int) : Decidable (store.Fresh now) := inferInstanceAs (Decidable (∀ log ∈ store.log, now < log.2))

end RedisStore

def RedisStep.apply : RedisStep → RedisStore → RedisStore
  | .request command, store => store.request command
  | .proceed index now, store => store.proceed index now

def RedisStep.DrawsNewId : RedisStep → RedisStore → Prop
  | .request command, store => command.DrawsNewId store.room
  | .proceed .., _ => True

instance : (step : RedisStep) → (store : RedisStore) → Decidable (step.DrawsNewId store)
  | .request command, store => inferInstanceAs (Decidable (command.DrawsNewId store.room))
  | .proceed .., _ => .isTrue trivial

/-- No request changes the log while another has yet to, and that one does before the room or the key of the log lapses. -/
def RedisStep.Calm : RedisStep → RedisStore → Prop
  | .request command, store => store.writers = [] ∨ store.writers.any (·.locks) = true ∨ (command.events store.room).isEmpty = true
  | .proceed _ now, store => now < store.room.expiresAt ∧ store.Fresh now

instance : (step : RedisStep) → (store : RedisStore) → Decidable (step.Calm store)
  | .request command, store =>
    inferInstanceAs (Decidable (store.writers = [] ∨ store.writers.any (·.locks) = true ∨ (command.events store.room).isEmpty = true))
  | .proceed _ now, store => inferInstanceAs (Decidable (now < store.room.expiresAt ∧ store.Fresh now))

/-! ### What the writers leave -/

def finishOps (kept : TwinRoom × List TwinLoggedHeat) (todo : List LogOp) : TwinRoom × List TwinLoggedHeat :=
  todo.foldl (fun (room, log) op =>
    match op with
    | .load => (room, log)
    | .get entries => (room, log ++ entries)
    | .set log => (room, log)
    | .del => (room, [])
    | .save room => (room, log)) kept

theorem finishOps_append (kept : TwinRoom × List TwinLoggedHeat) (first second : List LogOp) :
    finishOps kept (first ++ second) = finishOps (finishOps kept first) second := foldl_append

theorem finishOps_events (room : TwinRoom) (log : List TwinLoggedHeat) (events : List LogEvent) :
    finishOps (room, log) (events.flatMap LogEvent.ops) = (room, events.foldl LogEvent.apply log) := by
  induction events generalizing log with
  | nil => rfl
  | cons event events ih =>
    cases event with
    | append entries => exact ih (log ++ entries)
    | clear => exact ih []

theorem finishOps_unsaved {todo : List LogOp} (unsaved : ∀ room, .save room ∉ todo) (room : TwinRoom) (log : List TwinLoggedHeat) :
    finishOps (room, log) todo = (room, (finishOps (room, log) todo).2) := by
  induction todo generalizing log with
  | nil => rfl
  | cons op todo ih =>
    have rest : ∀ room, .save room ∉ todo := fun room mem => unsaved room (mem_cons_of_mem op mem)
    cases op with
    | load => exact ih rest log
    | get entries => exact ih rest (log ++ entries)
    | set log => exact ih rest log
    | del => exact ih rest []
    | save saved => exact absurd mem_cons_self (unsaved saved)

theorem finishOps_log (todo : List LogOp) (room other : TwinRoom) (log : List TwinLoggedHeat) :
    (finishOps (room, log) todo).2 = (finishOps (other, log) todo).2 := by
  induction todo generalizing room other log with
  | nil => rfl
  | cons op todo ih => cases op <;> exact ih ..

theorem ops_unsaved (events : List LogEvent) (room : TwinRoom) : .save room ∉ LogOp.load :: events.flatMap LogEvent.ops := by
  intro mem
  obtain loads | ⟨event, -, writes⟩ := (mem_cons.mp mem).imp_right mem_flatMap.mp
  · cases loads
  · cases event <;> simp [LogEvent.ops] at writes

def RedisStore.contents (store : RedisStore) : List TwinLoggedHeat := store.log.elim [] (·.1)

def RedisStore.ahead (store : RedisStore) : TwinRoom × List TwinLoggedHeat :=
  finishOps (store.room, store.contents) (store.writers.flatMap (·.todo))

structure Settling (store : RedisStore) : Prop where
  one : store.writers.length ≤ 1
  apart : ∀ writer ∈ store.writers, writer.locks = false → ∀ room, .save room ∉ writer.todo
  sound : Sound store.ahead.1
  right : Right store.ahead.1 store.ahead.2 store.history

theorem Sound.unlogged (sound : Sound room) : Sound room.unlogged := ⟨sound.ids, sound.seats, sound.dealt, sound.live⟩

theorem Right.unlogged (right : Right room log history) :
    Right room.unlogged log history := ⟨right.waiting, right.playing, right.numbers, right.ours, right.past⟩

theorem Settling.request (settling : Settling store) (idle : store.writers = [])
    (draws : command.DrawsNewId store.room) : Settling (store.request command) := by
  have ahead : store.ahead = (store.room, store.contents) := by
    rw [RedisStore.ahead, idle]
    rfl
  have sound : Sound store.room := by simpa [ahead] using settling.sound
  have right : Right store.room store.contents store.history := by simpa [ahead] using settling.right
  have kept := (sound.apply draws).unlogged
  have told := ((command.tells sound).right sound right).unlogged
  unfold RedisStore.request
  rw [if_neg (by simp [idle])]
  extract_lets room events history
  have leaves {after : RedisStore} (one : after.writers.length ≤ 1)
      (apart : ∀ writer ∈ after.writers, writer.locks = false → ∀ room, .save room ∉ writer.todo) (told' : after.history = history)
      (ahead : after.ahead = (room, events.foldl LogEvent.apply store.contents)) : Settling after :=
    ⟨one, apart, by rw [ahead]; exact kept, by rw [ahead, told']; exact told⟩
  split
  · next none =>
    refine leaves (by simp [idle]) (by simp [idle]) rfl ?_
    rw [RedisStore.ahead, idle, List.isEmpty_iff.mp none]
    rfl
  · split
    · refine leaves (by simp [idle]) (fun writer mem _ => ?_) rfl ?_
      · obtain rfl : writer = _ := by simpa [idle] using mem
        exact ops_unsaved events
      · simp only [RedisStore.ahead, idle, nil_append, flatMap_cons, List.flatMap_nil, append_nil]
        exact finishOps_events room store.contents events
    all_goals
      refine leaves (by simp [idle]) (by simp [idle]) rfl ?_
      simp only [RedisStore.ahead, idle, nil_append, flatMap_cons, List.flatMap_nil, append_nil]
      rw [finishOps_append, finishOps_events]
      rfl

theorem Settling.request_quiet (settling : Settling store)
    (unlocked : store.writers.any (·.locks) = false) (quiet : command.events store.room = []) (draws : command.DrawsNewId store.room) :
    Settling (store.request command) := by
  have unsaved : ∀ room, .save room ∉ store.writers.flatMap (·.todo) := by
    intro room mem
    obtain ⟨writer, writes, saves⟩ := mem_flatMap.mp mem
    exact settling.apart writer writes (eq_false_iff.mpr (any_eq_false.mp unlocked writer writes)) room saves
  have ahead : store.ahead = (store.room, store.ahead.2) := finishOps_unsaved unsaved ..
  have sound : Sound store.room := by
    have sound := settling.sound
    rw [ahead] at sound
    exact sound
  have right : Right store.room store.ahead.2 store.history := by
    have right := settling.right
    rw [ahead] at right
    exact right
  have told := ((command.tells sound).right sound right).unlogged
  have made : store.request command =
      { store with room := (command.apply store.room).unlogged, history := command.remember store.room store.history } := by
    simp [RedisStore.request, unlocked, quiet]
  rw [made]
  have ahead' : RedisStore.ahead { store with
      room := (command.apply store.room).unlogged, history := command.remember store.room store.history } =
        ((command.apply store.room).unlogged, store.ahead.2) :=
    (finishOps_unsaved unsaved ..).trans (congrArg _ (finishOps_log _ _ store.room store.contents))
  refine ⟨settling.one, settling.apart, by rw [ahead']; exact (sound.apply draws).unlogged, ?_⟩
  rw [ahead']
  simpa [quiet, Command.remember] using told

theorem logAt_fresh (fresh : store.Fresh now) : store.logAt now = store.contents := by
  unfold RedisStore.logAt RedisStore.contents
  cases held : store.log with
  | none => rfl
  | some log => simp [Option.filter, fresh log held]

theorem finishOps_perform (lives : now < store.room.expiresAt) (fresh : store.Fresh now)
    (writer : Writer) (rest : List LogOp) (op : LogOp) :
    finishOps ((store.perform now writer rest op).1.room, (store.perform now writer rest op).1.contents)
      (store.perform now writer rest op).2.todo = finishOps (store.room, store.contents) (op :: rest) := by
  cases op with
  | load =>
    simp only [RedisStore.perform, if_pos lives]
    rfl
  | get =>
    rw [← logAt_fresh fresh]
    rfl
  | set | del | save => rfl

theorem Settling.proceed {index : Nat} (settling : Settling store) (lives : now < store.room.expiresAt)
    (fresh : store.Fresh now) : Settling (store.proceed index now) := by
  unfold RedisStore.proceed
  split
  · exact settling
  · next writer found =>
    split
    · exact settling
    · next op rest todo =>
      obtain ⟨inside, drawn⟩ := getElem?_eq_some_iff.mp found
      obtain ⟨only, alone⟩ := List.length_eq_one_iff.mp (Nat.le_antisymm settling.one (Nat.zero_lt_of_lt inside))
      obtain rfl : index = 0 := by
        rw [alone] at inside
        exact Nat.lt_one_iff.mp inside
      simp only [alone, List.getElem_cons_zero] at drawn
      subst drawn
      have ahead : store.ahead = finishOps (store.room, store.contents) (op :: rest) := by simp [RedisStore.ahead, alone, todo]
      have same := (finishOps_perform lives fresh only rest op).trans ahead.symm
      have kept : (store.perform now only rest op).1.history = store.history ∧ (store.perform now only rest op).2.locks = only.locks ∧
          ∀ room, .save room ∈ (store.perform now only rest op).2.todo → .save room ∈ only.todo := by
        rw [todo]
        cases op with
        | load =>
          refine ⟨rfl, rfl, fun room saves => mem_cons_of_mem _ ?_⟩
          simpa [RedisStore.perform, if_pos lives] using saves
        | get =>
          refine ⟨rfl, rfl, fun room saves => mem_cons_of_mem _ ?_⟩
          exact List.mem_of_ne_of_mem (by nofun) saves
        | set | del => exact ⟨rfl, rfl, fun room => mem_cons_of_mem _⟩
        | save room => exact ⟨rfl, rfl, fun room => mem_cons_of_mem _⟩
      generalize store.perform now only rest op = performed at same kept
      obtain ⟨after, writer⟩ := performed
      obtain ⟨history, locks, saves⟩ := kept
      simp only [alone, List.set_cons_zero]
      have left : RedisStore.ahead { after with writers := [writer].filter (!·.todo.isEmpty) } = store.ahead := by
        rw [← same, RedisStore.ahead]
        cases todo : writer.todo with
        | nil | cons => simp [todo, RedisStore.contents]
      refine ⟨List.length_filter_le _ _, ?_, by rw [left]; exact settling.sound, by rw [left]; exact history ▸ settling.right⟩
      intro other mem unlocked room saved
      have listed : other ∈ [writer].filter (!·.todo.isEmpty) := mem
      cases mem_singleton.mp (mem_filter.mp listed).1
      exact settling.apart only (by simp [alone]) (locks.symm.trans unlocked) room (saves room saved)

/-! ### Every run -/

def PostgresStore.created (ctx : GameContext) (input : CreateInput) : PostgresStore where
  room := createTwinRoom ctx input
  history := []

def RedisStore.created (ctx : GameContext) (input : CreateInput) : RedisStore where
  room := createTwinRoom ctx input
  log := none
  writers := []
  history := []

/-- What Postgres reads at the end of a game is complete. -/
def PostgresStore.Reads (store : PostgresStore) : Prop :=
  store.room.phase = .finished → ∀ playerId playerToken heats, store.readTwinLog playerId playerToken = some heats →
    Complete store.room store.history heats

def RedisStore.ReadsAt (store : RedisStore) (now : Int) : Prop :=
  store.room.phase = .finished → ∀ playerId playerToken heats, store.readTwinLog now playerId playerToken = some heats →
    Complete store.room store.history heats

theorem postgres_reads (commands : List Command)
    (draws : EachStep PostgresStore.next (fun command store => command.DrawsNewId store.room) (.created ctx input) commands) :
    Throughout PostgresStore.next PostgresStore.Reads (.created ctx input) commands := by
  have step {store : PostgresStore} {command : Command} (inside : Sound store.room ∧ Right store.room store.room.loggedHeats store.history)
      (draws : command.DrawsNewId store.room) :
      (Sound (store.next command).room ∧ Right (store.next command).room (store.next command).room.loggedHeats (store.next command).history) ∧
        True := by
    obtain ⟨sound, right⟩ := inside
    have tells := command.tells sound
    exact ⟨⟨sound.apply draws, tells.log ▸ tells.right sound right⟩, trivial⟩
  have kept := (EachStep.shows @step ⟨Sound.created ctx input, right_created ctx input⟩ draws).1
  refine kept.imp fun store ⟨_, right⟩ finished playerId playerToken heats read => ?_
  obtain ⟨_, -, rfl⟩ := map_eq_some_iff.mp read
  exact right.complete finished

theorem Settling.step {store : RedisStore} {step : RedisStep} (settling : Settling store)
    (meets : step.DrawsNewId store ∧ step.Calm store) : Settling (step.apply store) := by
  cases step with
  | request =>
    obtain ⟨draws, idle | locked | quiet⟩ := meets
    · exact settling.request idle draws
    · simp only [RedisStep.apply, RedisStore.request, if_pos locked]
      exact settling
    · cases locked : store.writers.any (·.locks) with
      | true =>
        simp only [RedisStep.apply, RedisStore.request, if_pos locked]
        exact settling
      | false => exact settling.request_quiet locked (List.isEmpty_iff.mp quiet) draws
  | proceed => exact settling.proceed meets.2.1 meets.2.2

theorem redis_reads (steps : List RedisStep)
    (draws : EachStep RedisStep.apply RedisStep.DrawsNewId (.created ctx input) steps)
    (calm : EachStep RedisStep.apply RedisStep.Calm (.created ctx input) steps) :
    Throughout RedisStep.apply (fun store => ∀ now, store.writers = [] → store.Fresh now → store.ReadsAt now) (.created ctx input) steps := by
  have start : Settling (.created ctx input) := ⟨Nat.zero_le 1, nofun, Sound.created ctx input, right_created ctx input⟩
  have kept := (EachStep.shows (fun settling meets => ⟨Settling.step settling meets, trivial⟩) start (draws.and calm)).1
  refine kept.imp fun store settling now idle fresh finished playerId playerToken heats read => ?_
  have ahead : store.ahead = (store.room, store.contents) := by
    rw [RedisStore.ahead, idle]
    rfl
  have right := settling.right
  rw [ahead] at right
  unfold RedisStore.readTwinLog at read
  split at read
  · obtain ⟨_, -, rfl⟩ := map_eq_some_iff.mp read
    exact logAt_fresh fresh ▸ right.complete finished
  · cases read

/-- The log that is read at the end of a game has each heat of it that was settled, once and in order, and nothing else: with
Postgres in every run, with Redis in every run in which no one changes the log or reads it while another has yet to write to it,
and before its key lapses. -/
theorem twinLog_complete :
    (∀ commands, EachStep PostgresStore.next (fun command store => command.DrawsNewId store.room) (.created ctx input) commands →
      Throughout PostgresStore.next PostgresStore.Reads (.created ctx input) commands) ∧
    ∀ steps, EachStep RedisStep.apply RedisStep.DrawsNewId (.created ctx input) steps →
      EachStep RedisStep.apply RedisStep.Calm (.created ctx input) steps →
        Throughout RedisStep.apply (fun store => ∀ now, store.writers = [] → store.Fresh now → store.ReadsAt now) (.created ctx input) steps :=
  ⟨postgres_reads ctx input, redis_reads ctx input⟩

/-- Ann plays alone and is rid of her three cards in three heats. -/
def annsGame : List Command :=
  [.by 0 3 1 (.start []), .readBy 0 2003, .by 0 2400 2 (.tap 2 "capsule" 247), .by 0 3000 3 (.rename "Anne"), .readBy 0 4650,
    .by 0 5050 4 (.tap 6 "bolt" 250), .readBy 0 5650, .readBy 0 7300, .by 0 7700 5 (.tap 10 "ring" 250), .readBy 0 8300, .readBy 0 9950]

/-- The same game, in which everyone waits for whoever writes. -/
def annsCalmGame : List RedisStep :=
  annsGame.flatMap fun command => .request command :: List.replicate 3 (.proceed 0 command.ctx.now)

theorem twinLog_complete_annsGame :
    Throughout PostgresStore.next PostgresStore.Reads (.created (.plain 1) annsTable) annsGame ∧
    Throughout RedisStep.apply (fun store => ∀ now, store.writers = [] → store.Fresh now → store.ReadsAt now)
      (.created (.plain 1) annsTable) annsCalmGame ∧
    (runFrom RedisStep.apply (.created (.plain 1) annsTable) annsCalmGame).readTwinLog 9951 0 (.token 100) =
      (runFrom PostgresStore.next (.created (.plain 1) annsTable) annsGame).readTwinLog 0 (.token 100) := by
  have complete := twinLog_complete (.plain 1) annsTable
  exact ⟨complete.1 annsGame (by decide +kernel), complete.2 annsCalmGame (by decide +kernel) (by decide +kernel), by decide +kernel⟩

/-- Her change of name settles the first heat, and writes it only after a read has written the second one, which is lost. -/
def annsRace : List RedisStep :=
  [.request (.by 0 3 1 (.start [])), .proceed 0 4, .proceed 0 5, .request (.readBy 0 2003), .request (.by 0 2400 2 (.tap 2 "capsule" 247)),
    .request (.by 0 3000 3 (.rename "Anne")), .proceed 0 3001, .proceed 0 3002, .request (.readBy 0 4650),
    .request (.by 0 5050 4 (.tap 6 "bolt" 250)), .request (.readBy 0 5650), .proceed 1 5651, .proceed 1 5652, .proceed 1 5653, .proceed 0 5654,
    .request (.readBy 0 7300), .request (.by 0 7700 5 (.tap 10 "ring" 250)), .request (.readBy 0 8300), .proceed 0 8301, .proceed 0 8302,
    .proceed 0 8303, .request (.readBy 0 9950)]

theorem twinLog_incomplete_annsRace : ¬ ∀ (ctx : GameContext) (input : CreateInput) (steps : List RedisStep),
    EachStep RedisStep.apply RedisStep.DrawsNewId (.created ctx input) steps →
      Throughout RedisStep.apply (fun store => ∀ now, store.ReadsAt now) (.created ctx input) steps := by
  intro complete
  have reads := (complete (.plain 1) annsTable annsRace (by decide +kernel)).last 9951 (by decide +kernel) 0 (.token 100)
  have lost : ((runFrom RedisStep.apply (.created (.plain 1) annsTable) annsRace).readTwinLog 9951 0 (.token 100)).any
      (fun heats => heats.map (·.number) == [1, 3]) = true := by decide +kernel
  obtain ⟨heats, read, numbers⟩ := Option.any_eq_true .. |>.mp lost
  have whole := (reads heats read).numbers
  rw [beq_iff_eq.mp numbers] at whole
  revert whole
  decide +kernel

end MilkAndHenny.Twin

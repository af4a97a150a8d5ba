import MilkAndHenny.GamePool.Bookkeeping

/-! An allocation is a sweep, a departure and an admission in one transaction. -/

namespace MilkAndHenny.GamePool

open Library

variable {excused : List String} {pool after : Pool} {room : GamePoolRoom} {night : Night} {roomId : String}
  {placed : Pool}

def refusals (input : AssignGamePoolRoomInput) : List GamePoolRoom → List String
  | [] => []
  | room :: rooms =>
    match input.join room.roomId with
    | .refused code => if passesOn code then (if code == "game_started" then [] else [room.roomId]) ++ refusals input rooms else []
    | _ => []

/-- The rows that a step adds are in rooms of at most the target size. -/
def Fits (before after : Pool) : Prop :=
  ∀ assignment ∈ after.assignments.drop before.assignments.length, ∀ room ∈ after.rooms, room.roomId = assignment.roomId →
    room.playerCount ≤ before.run.targetSize

section

variable {input : AssignGamePoolRoomInput}

theorem Fits.of_same (same : after.assignments.length ≤ pool.assignments.length) : Fits pool after := by
  intro assignment mem
  rw [List.drop_eq_nil_of_le same] at mem
  cases mem

theorem releaseExisting_length : (pool.releaseExisting input).assignments.length = pool.assignments.length := by
  unfold Pool.releaseExisting
  split
  · exact length_map _
  · rfl

def Stays (input : AssignGamePoolRoomInput) (pool : Pool) (room : GamePoolRoom) : Prop :=
  input.moveExisting = true → pool.existingRoom input.clientId = some room.roomId → 1 < room.playerCount

theorem releaseExisting_rooms (books : Books excused pool) (known : room ∈ pool.rooms) (stays : Stays input pool room) {moved : GamePoolRoom}
    (mem : moved ∈ (pool.releaseExisting input).rooms) (same : moved.roomId = room.roomId) :
    moved.status = room.status ∧ moved.playerCount ≤ room.playerCount := by
  unfold Pool.releaseExisting at mem
  split at mem
  · next moves =>
    obtain ⟨old, listed, step⟩ := mem_pairs (leaveExisting_released input.clientId input.now) mem
    cases inj_on_of_nodup_map books.ids listed known (step.roomId.symm.trans same)
    refine ⟨?_, step.count ▸ Nat.sub_le _ _⟩
    rcases step.status with kept | ⟨leaves, last⟩
    · exact kept
    · split at leaves
      · next own =>
        rw [if_pos own] at last
        exact absurd (stays moves own) (by omega)
      · cases leaves
  · cases inj_on_of_nodup_map books.ids mem known same
    exact ⟨rfl, le_refl _⟩

theorem releaseExisting_known (known : room ∈ pool.rooms) : ∃ moved ∈ (pool.releaseExisting input).rooms, moved.roomId = room.roomId := by
  unfold Pool.releaseExisting
  split
  · obtain ⟨moved, listed, step⟩ := mem_pairs (leaveExisting_released input.clientId input.now).flip known
    exact ⟨moved, listed, step.roomId⟩
  · exact ⟨room, known, rfl⟩

theorem admitPlayer_books (books : Books excused pool) (known : room ∈ pool.rooms) (opened : room.status = .opened)
    (space : room.playerCount < pool.run.targetSize) (stays : Stays input pool room) {playerId : String}
    (admitted : pool.admitPlayer input room.roomId playerId = some after) : Books excused after ∧ Fits pool after := by
  have released := books.releaseExisting input
  unfold Pool.admitPlayer Pool.insertAssignment at admitted
  simp only at admitted
  split at admitted
  · cases admitted
  · next free =>
    cases admitted
    have nobody : (pool.releaseExisting input).activeOf input.clientId = none := not_isSome_iff_eq_none.mp free
    have stillOpen : ∀ moved ∈ (pool.releaseExisting input).rooms, moved.roomId = room.roomId → moved.status ≠ .closed := by
      intro moved mem same
      rw [(releaseExisting_rooms books known stays mem same).1, opened]
      decide
    refine ⟨released.admitted (releaseExisting_known known) stillOpen nobody rfl rfl rfl rfl, ?_⟩
    intro assignment mem moved listed same
    simp only [← @releaseExisting_length pool input, drop_left, mem_singleton] at mem
    obtain ⟨old, inside, change⟩ := mem_update.mp listed
    have at_room : moved.roomId = room.roomId := by rw [same, mem]; rfl
    split at change
    · next chosen =>
      rw [change]
      have bound := (releaseExisting_rooms books known stays inside (eq_of_beq chosen)).2
      simp only
      omega
    · next other =>
      rw [change] at at_room
      exact absurd (beq_iff_eq.mpr at_room) other

theorem createRoom_books (books : Books excused pool) (created : pool.createRoom input = some after) : Books excused after ∧ Fits pool after := by
  have released := books.releaseExisting input
  unfold Pool.createRoom at created
  split at created
  · cases created
  · cases created
  · next roomId playerId _ _ =>
    split at created
    · cases created
    · simp only [Pool.insertAssignment] at created
      split at created
      · cases created
      · next fresh =>
        split at created
        · cases created
        · next free =>
          cases created
          have nobody : (pool.releaseExisting input).activeOf input.clientId = none := not_isSome_iff_eq_none.mp free
          have unknown : (pool.releaseExisting input).rooms.any (·.roomId == roomId) = false := not_eq_true _ ▸ fresh
          refine ⟨released.created unknown rfl rfl nobody rfl rfl rfl, ?_⟩
          intro assignment mem made listed same
          simp only [← @releaseExisting_length pool input, drop_left, mem_singleton] at mem
          rw [mem] at same
          rcases mem_append.mp listed with listed | listed
          · have found : (pool.releaseExisting input).rooms.any (·.roomId == roomId) = true :=
              any_eq_true.mpr ⟨made, listed, beq_iff_eq.mpr same⟩
            rw [unknown] at found
            cases found
          · rw [mem_singleton.mp listed]
            have sized := pool.run.sized.1
            simp only
            omega

/-- A room that may be tried. -/
structure Candidate (input : AssignGamePoolRoomInput) (pool : Pool) (room : GamePoolRoom) : Prop where
  known : room ∈ pool.rooms
  opened : room.status = .opened
  space : room.playerCount < pool.run.targetSize
  stays : Stays input pool room

theorem tryRooms_books {rooms : List GamePoolRoom} (books : Books excused pool) (candidates : ∀ room ∈ rooms, Candidate input pool room)
    (distinct : (rooms.map (·.roomId)).Nodup) {found : Bool} (tried : Pool.tryRooms input pool rooms = some (after, found)) :
    Books (excused ++ refusals input rooms) after ∧ (found = false → after.assignments = pool.assignments ∧ after.run = pool.run) ∧
      (found = true → Fits pool after) := by
  induction rooms generalizing pool excused with
  | nil =>
    cases tried
    rw [refusals, append_nil]
    exact ⟨books, fun _ => ⟨rfl, rfl⟩, nofun⟩
  | cons room rooms ih =>
    obtain ⟨apart, distinct⟩ := nodup_cons.mp distinct
    have first := candidates room (mem_cons_self ..)
    rw [Pool.tryRooms] at tried
    cases answer : input.join room.roomId with
    | failed =>
      rw [answer] at tried
      cases tried
    | joined =>
      rw [answer] at tried
      obtain ⟨admitted, same, pair⟩ := map_eq_some_iff.mp tried
      cases pair
      obtain ⟨kept, fits⟩ := admitPlayer_books books first.known first.opened first.space first.stays same
      refine ⟨kept.mono (subset_append_left _ _), ?_, fun _ => fits⟩
      intro impossible
      cases impossible
    | refused code =>
      rw [answer] at tried
      simp only at tried
      split at tried
      · next passes =>
        have refused : refusals input (room :: rooms) = (if code == "game_started" then [] else [room.roomId]) ++ refusals input rooms := by
          simp [refusals, answer, if_pos passes]
        have closing : Books (excused ++ if code == "game_started" then [] else [room.roomId])
            (pool.setStatus room.roomId (if code == "game_started" then .started else .closed)) := by
          refine (books.mono (subset_append_left _ _)).setStatus room.roomId fun closed _ => ?_
          split at closed
          · cases closed
          · next other =>
            rw [if_neg other]
            exact mem_append_right _ (mem_singleton_self _)
        have others : ∀ other ∈ rooms, Candidate input (pool.setStatus room.roomId (if code == "game_started" then .started else .closed)) other := by
          intro other mem
          have candidate := candidates other (mem_cons_of_mem _ mem)
          have away : other.roomId ≠ room.roomId := fun same => apart (mem_map.mpr ⟨other, mem, same⟩)
          refine ⟨mem_update.mpr ⟨other, candidate.known, ?_⟩, candidate.opened, candidate.space, candidate.stays⟩
          rw [if_neg (by simpa using away)]
        obtain ⟨kept, unchanged, fits⟩ := ih closing others distinct tried
        rw [append_assoc, ← refused] at kept
        exact ⟨kept, unchanged, fits⟩
      · cases tried

end

/-! ### Allocations -/

/-- A player who is alone in a room, once the stale ones are out of it, chooses that same room. -/
def Alone (input : AssignGamePoolRoomInput) (pool : Pool) : Prop :=
  input.moveExisting = true ∧
    match input.choice with
    | .room roomId => pool.existingRoom input.clientId = some roomId ∧ activeIn pool.assignments roomId = 1
    | _ => False

section

variable {read : Pool} {input : AssignGamePoolRoomInput}

/-- The rooms that an allocation tries, and closes for their games. -/
def excusing (pool counted emptied placed : Pool) (input : AssignGamePoolRoomInput) : List String :=
  let sweep := pool.sweep input.now counted emptied
  let read := sweep.applyTo placed
  if (pool.assignReading counted emptied placed input).isNone || (read.activeOf input.clientId).isSome && !input.moveExisting then []
  else refusals input ((sweep.applyTo pool).candidatesReading read input)

theorem mem_openRooms (mem : room ∈ pool.openRooms) : room ∈ pool.rooms ∧ room.status = .opened := by
  have inside := (perm_insertionSort _ _).mem_iff.mp mem
  exact ⟨(mem_filter.mp inside).1, eq_of_beq (mem_filter.mp inside).2⟩

theorem mem_openRoomsReading (mem : room ∈ pool.openRoomsReading read) : room ∈ pool.rooms ∧ room.status = .opened := by
  obtain ⟨seen, -, found⟩ := mem_filterMap.mp mem
  have chosen := find?_some found
  simp only [and_eq_true, beq_iff_eq] at chosen
  exact ⟨mem_of_find?_eq_some found, chosen.2⟩

theorem candidates_distinct (ids : (read.rooms.map (·.roomId)).Nodup) :
    ((pool.candidatesReading read input).map (·.roomId)).Nodup := by
  have seen : (read.openRooms.map (·.roomId)).Nodup :=
    ((perm_insertionSort _ _).map _).nodup_iff.mpr (ids.sublist (filter_sublist.map _))
  have distinct : ((pool.openRoomsReading read).map (·.roomId)).Nodup := by
    refine seen.sublist (map_filterMap_sublist read.openRooms fun row room found => ?_)
    have chosen := find?_some found
    simp only [and_eq_true, beq_iff_eq] at chosen
    exact chosen.1
  unfold Pool.candidatesReading
  split
  · exact nodup_nil
  · exact distinct.sublist (filter_sublist.map _)
  · exact distinct.sublist (filter_sublist.map _)

theorem existing_counted (existing : pool.existingRoom input.clientId = some roomId) : 0 < activeIn pool.assignments roomId := by
  obtain ⟨assignment, found, same⟩ := map_eq_some_iff.mp existing
  have active := find?_some found
  simp only [and_eq_true, beq_iff_eq] at active
  refine countP_pos_iff.mpr ⟨assignment, mem_of_find?_eq_some found, ?_⟩
  simp [active.2, same]

theorem candidate_of_candidates (books : Books excused pool) (company : ¬ Alone input pool)
    (seen : ∀ roomId, pool.existingRoom input.clientId = some roomId → read.existingRoom input.clientId = some roomId)
    (mem : room ∈ pool.candidatesReading read input) : Candidate input pool room := by
  unfold Pool.candidatesReading at mem
  cases choice : input.choice with
  | new =>
    rw [choice] at mem
    cases mem
  | auto =>
    rw [choice] at mem
    obtain ⟨inside, chosen⟩ := mem_filter.mp mem
    simp only [and_eq_true, bne_iff_ne, decide_eq_true_eq] at chosen
    obtain ⟨known, opened⟩ := mem_openRoomsReading inside
    refine ⟨known, opened, chosen.2, fun _ own => ?_⟩
    have excluded : read.excludedRoom input = some room.roomId := by
      unfold Pool.excludedRoom
      rw [choice]
      simp [seen _ own]
    exact absurd excluded.symm chosen.1
  | room roomId =>
    rw [choice] at mem
    obtain ⟨inside, chosen⟩ := mem_filter.mp mem
    simp only [and_eq_true, bne_iff_ne, beq_iff_eq, decide_eq_true_eq] at chosen
    obtain ⟨known, opened⟩ := mem_openRoomsReading inside
    refine ⟨known, opened, chosen.2, fun moves own => ?_⟩
    have used := existing_counted own
    have count := books.counts room known
    have others : activeIn pool.assignments room.roomId ≠ 1 := by
      intro single
      refine company ⟨moves, ?_⟩
      rw [choice]
      exact ⟨chosen.1.1 ▸ own, chosen.1.1 ▸ single⟩
    omega

/-- Since `before` nobody has been assigned; some have gone. -/
def Follows (before after : Pool) : Prop :=
  Forall₂ (fun row later : Assignment => later.id = row.id ∧ later.clientId = row.clientId ∧ later.roomId = row.roomId ∧
    (later.active = true → row.active = true)) before.assignments after.assignments

/-- A client who has a place when the allocation commits had it when the allocation looked. -/
theorem existing_read {sweep : Sweep} (books : Books excused placed) (follows : Follows placed pool) {clientId : String}
    (existing : (sweep.applyTo pool).existingRoom clientId = some roomId) : (sweep.applyTo placed).existingRoom clientId = some roomId := by
  have kept {pool : Pool} {assignment : Assignment} (mem : assignment ∈ (sweep.applyTo pool).assignments) (active : assignment.active = true) :
      assignment ∈ pool.assignments ∧ sweep.takes assignment = false := by
    obtain ⟨old, listed, same⟩ := mem_update.mp mem
    split at same
    · rw [same, ended_inactive (by decide)] at active
      cases active
    · next stays => exact same ▸ ⟨listed, eq_false_iff.mpr stays⟩
  obtain ⟨assignment, found, there⟩ := map_eq_some_iff.mp existing
  have theirs := find?_some found
  simp only [and_eq_true, beq_iff_eq] at theirs
  obtain ⟨mem, stays⟩ := kept (mem_of_find?_eq_some found) theirs.2
  obtain ⟨row, listed, id, client, room, active⟩ := mem_pairs follows mem
  have taken : sweep.takes row = false := by
    unfold Sweep.takes at stays ⊢
    rw [← id, ← room, stays]
  have present : row ∈ (sweep.applyTo placed).assignments := mem_update.mpr ⟨row, listed, by simp [taken]⟩
  have own : (row.clientId == clientId && row.active) = true := by simp [← client, theirs.1, active theirs.2]
  refine map_eq_some_iff.mpr ⟨row, find?_only present own fun other inside chosen => ?_, room ▸ there⟩
  have held := (kept inside ((and_eq_true _ _).mp chosen).2).1
  exact eq_of_countP_le_one (books.one clientId) held listed chosen own

theorem assign_books {counted emptied : Pool} (books : Books excused pool) (first : Books excused counted) (second : Books excused emptied)
    (third : Books excused placed) (follows : Follows placed pool)
    (undisturbed : (pool.sweep input.now counted emptied).Undisturbed pool)
    (company : ¬ Alone input ((pool.sweep input.now counted emptied).applyTo pool))
    (assigned : pool.assignReading counted emptied placed input = some after) :
    Books (excused ++ excusing pool counted emptied placed input) after ∧ Fits pool after := by
  have swept := books.swept first second undisturbed
  have done : (pool.assignReading counted emptied placed input).isNone = false := by rw [assigned]; rfl
  generalize isSweep : pool.sweep input.now counted emptied = sweep at *
  have same : (sweep.applyTo pool).assignments.length = pool.assignments.length := length_map _
  have transfer {other : Pool} (fits : Fits (sweep.applyTo pool) other) : Fits pool other := by
    unfold Fits at *
    rwa [same] at fits
  have wide {other : Pool} (kept : Books excused other) : Books (excused ++ excusing pool counted emptied placed input) other :=
    kept.mono (subset_append_left _ _)
  simp only [Pool.assignReading, isSweep] at assigned
  split at assigned
  · cases assigned
  · by_cases moving : ((sweep.applyTo placed).activeOf input.clientId).isSome && !input.moveExisting
    · rw [if_pos moving] at assigned
      split at assigned
      · cases assigned
        exact ⟨wide swept, Fits.of_same same.le⟩
      · cases assigned
    · rw [if_neg moving] at assigned
      have tries : excusing pool counted emptied placed input =
          refusals input ((sweep.applyTo pool).candidatesReading (sweep.applyTo placed) input) := by
        simp only [excusing, done, Bool.false_or, isSweep, if_neg moving]
      have candidates : ∀ room ∈ (sweep.applyTo pool).candidatesReading (sweep.applyTo placed) input, Candidate input (sweep.applyTo pool) room :=
        fun room mem => candidate_of_candidates swept company (fun _ => existing_read third follows) mem
      have distinct := @candidates_distinct (sweep.applyTo pool) (sweep.applyTo placed) input
        (by rw [applyTo_rooms, map_map]; exact (map_congr_left fun room _ => rewritten_roomId sweep room) ▸ third.ids)
      split at assigned
      · cases assigned
      · next found tried =>
        cases assigned
        obtain ⟨kept, -, fits⟩ := tryRooms_books swept candidates distinct tried
        rw [tries]
        exact ⟨kept, transfer (fits rfl)⟩
      · next found tried =>
        obtain ⟨kept, unchanged, -⟩ := tryRooms_books swept candidates distinct tried
        obtain ⟨unmoved, run⟩ := unchanged rfl
        obtain ⟨made, fits⟩ := createRoom_books kept assigned
        rw [tries]
        refine ⟨made, transfer ?_⟩
        unfold Fits at *
        rwa [unmoved, run] at fits

end

/-! ### Runs -/

/-- A transaction commits, with what its statements have read. -/
structure Event where
  action : Action
  reads : Reads := {}

def excuses (event : Event) (night : Night) : List String :=
  match event.action with
  | .assign input => excusing night.pool (night.versions.ago event.reads.counted) (night.versions.ago event.reads.emptied)
      (night.locked event.reads.placed) input
  | .closeRoom roomId => if night.pool.rooms.any (·.roomId == roomId) then [roomId] else []
  | _ => []

def next (event : Event) (night : Night) : Night where
  versions := night.versions.commit (night.committed event.action event.reads)
  free := if event.action.locks then 0 else night.free + 1
  excused := night.excused ++ excuses event night

/-- No sweep that stays, an allocation's or one of its own, is disturbed, and no allocation that stays moves somebody who is
alone in a room to that room. -/
def Meets (event : Event) (night : Night) : Prop :=
  match event.action with
  | .assign input => (night.assigned input event.reads).isSome → (night.sweep input.now event.reads).Undisturbed night.pool ∧
      ¬ Alone input ((night.sweep input.now event.reads).applyTo night.pool)
  | .expire now => (night.sweep now event.reads).Undisturbed night.pool
  | _ => True

/-- What holds of the run between its transactions. -/
structure Kept (night : Night) : Prop where
  one : ∀ clientId, (night.pool.assignments.countP fun assignment => assignment.clientId == clientId && assignment.active) ≤ 1
  counts : ∀ room ∈ night.pool.rooms, room.playerCount = activeIn night.pool.assignments room.roomId
  excused : ∀ room ∈ night.pool.rooms, room.status = .closed → 0 < activeIn night.pool.assignments room.roomId → room.roomId ∈ night.excused

/-- Any state that a transaction may have read is in order. -/
structure Orderly (night : Night) : Prop where
  books : ∀ version ∈ night.versions.list, Books night.excused version
  follows : ∀ version ∈ night.versions.recent night.free, Follows version night.pool

section

variable {event : Event}

theorem Follows.refl (pool : Pool) : Follows pool pool := forall₂_same.mpr fun _ _ => ⟨rfl, rfl, rfl, id⟩

theorem Follows.trans {first second third : Pool} (before : Follows first second) (after : Follows second third) : Follows first third :=
  pairs_comp (fun _ _ _ old new => ⟨new.1.trans old.1, new.2.1.trans old.2.1, new.2.2.1.trans old.2.2.1, old.2.2.2 ∘ new.2.2.2⟩) before after

theorem follows_ended {pool after : Pool} {leaving : Assignment → Bool} {status : AssignmentStatus} {now : Int} (gone : status ≠ .active)
    (same : after.assignments = update pool.assignments leaving (ended status now)) : Follows pool after := by
  unfold Follows
  rw [same]
  refine forall₂_update (fun row => ⟨rfl, rfl, rfl, id⟩) fun row _ => ⟨rfl, rfl, rfl, fun active => ?_⟩
  rw [ended_inactive gone] at active
  cases active

/-- A transaction without the lock assigns nobody. -/
theorem committed_follows (free : event.action.locks = false) : Follows night.pool (night.committed event.action event.reads) := by
  obtain ⟨action, reads⟩ := event
  cases action with
  | assign | release | closeRoom | configure => cases free
  | left | removed | expire => exact follows_ended (by decide) rfl
  | seen => exact forall₂_update (fun row => ⟨rfl, rfl, rfl, id⟩) fun row _ => ⟨rfl, rfl, rfl, id⟩

theorem committed_books (orderly : Orderly night) (meets : Meets event night) :
    Books (next event night).excused (night.committed event.action event.reads) ∧
      Fits night.pool (night.committed event.action event.reads) := by
  have books : Books night.excused night.pool := orderly.books night.pool mem_cons_self
  have same {other : Pool} (length : other.assignments.length = night.pool.assignments.length) : Fits night.pool other := Fits.of_same length.le
  have wide {other : Pool} (kept : Books night.excused other) : Books (next event night).excused other := kept.mono (subset_append_left _ _)
  have read (commits : Nat) : Books night.excused (night.versions.ago commits) := orderly.books _ (Versions.ago_mem commits)
  obtain ⟨action, reads⟩ := event
  cases action with
  | assign input =>
    simp only [Night.committed]
    cases assigned : night.assigned input reads with
    | none => exact ⟨wide books, same rfl⟩
    | some =>
      obtain ⟨undisturbed, company⟩ := meets (by rw [assigned]; rfl)
      have follows : Follows (night.locked reads.placed) night.pool := orderly.follows _ (Versions.ago_mem_recent (Nat.min_le_right _ _))
      exact assign_books books (read _) (read _) (read _) follows undisturbed company assigned
  | release clientId now => exact ⟨wide (books.leaveExisting clientId now), same (length_map _)⟩
  | left roomId playerId now =>
    have kept := @Books.endPlayers _ _ .left books (by decide) (night.versions.ago reads.found) false roomId (· == playerId) now
    exact ⟨wide kept, same (length_map _)⟩
  | removed roomId playerIds now =>
    have kept := @Books.endPlayers _ _ .removed books (by decide) (night.versions.ago reads.found) true roomId
      (fun playerId => playerIds.contains playerId && playerId != "") now
    exact ⟨wide kept, same (length_map _)⟩
  | seen roomId playerId now => exact ⟨wide (books.seen roomId playerId now), same (length_map _)⟩
  | expire => exact ⟨wide (books.swept (read _) (read _) meets), same (length_map _)⟩
  | closeRoom roomId =>
    refine ⟨(wide books).setStatus roomId fun _ known => mem_append_right _ ?_, same rfl⟩
    have found : night.pool.rooms.any (·.roomId == roomId) = true := by
      obtain ⟨room, listed, equal⟩ := known
      exact any_eq_true.mpr ⟨room, listed, beq_iff_eq.mpr equal⟩
    simp only [excuses, if_pos found]
    exact mem_singleton_self _
  | configure run => exact ⟨wide (books.configured run), same rfl⟩

theorem Orderly.next (orderly : Orderly night) (meets : Meets event night) : Orderly (next event night) := by
  refine ⟨fun version mem => ?_, fun version mem => ?_⟩
  · rcases mem_cons.mp mem with rfl | earlier
    · exact (committed_books orderly meets).1
    · exact (orderly.books version earlier).mono (subset_append_left _ _)
  · cases locks : event.action.locks with
    | true =>
      simp only [GamePool.next, locks, if_true] at mem
      cases mem_singleton.mp mem
      exact .refl _
    | false =>
      simp only [GamePool.next, locks, false_eq_true, if_false] at mem
      rcases mem_cons.mp mem with rfl | earlier
      · exact .refl _
      · exact (orderly.follows version earlier).trans (committed_follows locks)

def start (run : GamePoolRun) : Night := { versions := { current := { run, rooms := [], assignments := [] } } }

theorem orderly_start (run : GamePoolRun) : Orderly (start run) := by
  refine ⟨fun version mem => ?_, fun version mem => ?_⟩
  all_goals obtain rfl := mem_singleton.mp mem
  · constructor <;> simp [start, Numbered]
  · exact .refl _

/-- In a run whose steps all meet the condition every client has at most one place, every count is right, a room in use is closed only by its game or an
operator, and nobody is admitted beyond the target size. -/
theorem bookkeeping_settles (run : GamePoolRun) (events : List Event) (meets : EachStep next Meets (start run) events) :
    Throughout next Kept (start run) events ∧
      EachStep next (fun event night => Fits night.pool (next event night).pool) (start run) events := by
  have step {night : Night} {event : Event} (orderly : Orderly night) (meets : Meets event night) :
      Orderly (next event night) ∧ Fits night.pool (next event night).pool := ⟨orderly.next meets, (committed_books orderly meets).2⟩
  obtain ⟨throughout, fits⟩ := @EachStep.shows _ _ next Meets Orderly
    (fun event night => Fits night.pool (next event night).pool) step _ events (orderly_start run) meets
  refine ⟨throughout.imp fun night orderly => ?_, fits⟩
  have books := orderly.books night.pool mem_cons_self
  exact ⟨books.one, books.counts, books.excused⟩

end

/-! ### Transactions that overlap with none -/

section

variable {now : Int}

theorem sweep_at_once (books : Books excused pool) : (pool.sweep now pool pool).applyTo pool = pool.expireStaleGamePoolAssignments now := by
  have assignments : ((pool.sweep now pool pool).applyTo pool).assignments = (pool.expireStaleGamePoolAssignments now).assignments :=
    map_congr_left fun assignment mem => by rw [takes_stale books.numbered mem]; rfl
  have live (roomId : String) : (pool.sweep now pool pool).live pool roomId = activeIn (update pool.assignments (stale now) (ended .sessionEnded now)) roomId :=
    (live_pool roomId).trans (by rw [assignments]; rfl)
  have rooms : ((pool.sweep now pool pool).applyTo pool).rooms = (pool.expireStaleGamePoolAssignments now).rooms := by
    rw [applyTo_rooms]
    simp only [Pool.expireStaleGamePoolAssignments, update, map_map]
    refine map_congr_left fun room mem => ?_
    have first : reached (·.roomId) (pool.sweep now pool pool).counted.rooms (pool.sweep now pool pool).recounts room =
        (pool.sweep now pool pool).recounts room := reached_self mem
    have second : reached (·.roomId) (pool.sweep now pool pool).emptied.rooms (pool.sweep now pool pool).empties room =
        (pool.sweep now pool pool).empties room := reached_self mem
    have column := recounted_columns (pool.sweep now pool pool) room
    unfold Sweep.rewritten
    rw [reached_recounted, second, Sweep.empties, ← column.1, ← column.2]
    unfold Sweep.recounted
    rw [first]
    simp only [Sweep.recounts, Function.comp_apply]
    have isFirst : (pool.sweep now pool pool).counted = pool := rfl
    have isSecond : (pool.sweep now pool pool).emptied = pool := rfl
    simp only [isFirst, isSecond, live]
    rfl
  exact congrArg₂ (fun rooms assignments => ({ pool with rooms, assignments } : Pool)) rooms assignments

theorem openRooms_at_once (ids : (pool.rooms.map (·.roomId)).Nodup) : pool.openRoomsReading pool = pool.openRooms := by
  have itself : ∀ seen ∈ pool.openRooms,
      (pool.rooms.find? fun room => room.roomId == seen.roomId && room.status == .opened) = some seen := by
    intro seen mem
    obtain ⟨known, opened⟩ := mem_openRooms mem
    refine find?_only known (by simp [opened]) fun other listed chosen => ?_
    simp only [and_eq_true, beq_iff_eq] at chosen
    exact inj_on_of_nodup_map ids listed known chosen.1
  exact (List.filterMap_congr itself).trans List.filterMap_some

theorem endPlayers_at_once (closes : Bool) (status : AssignmentStatus) (roomId : String) (players : String → Bool) (now : Int) :
    pool.endPlayersReading pool closes status roomId players now = pool.endPlayers closes status roomId players now := by
  have leaving : ∀ assignment ∈ pool.assignments, reached (·.id) pool.assignments (fun assignment : Assignment =>
      assignment.roomId == roomId && players assignment.playerId && assignment.active) assignment =
      (assignment.roomId == roomId && players assignment.playerId && assignment.active) := fun _ mem => reached_self mem
  simp only [Pool.endPlayersReading, Pool.endPlayers]
  rw [filter_congr leaving]
  congr 1
  exact map_congr_left fun assignment mem => by rw [leaving assignment mem]

/-- A transaction whose statements have read what it commits upon is the operation in one piece. -/
theorem committed_at_once (books : Books excused night.pool) (action : Action) : night.committed action {} = night.pool.apply action := by
  cases action with
  | assign input =>
    have read : night.assigned input {} = night.pool.assignReading night.pool night.pool night.pool input := by
      rfl
    simp only [Night.committed, Pool.apply, read, Pool.assignReading, Pool.assignGamePoolRoomState, sweep_at_once books]
    have ids : ((night.pool.expireStaleGamePoolAssignments input.now).rooms.map (·.roomId)).Nodup := by
      rw [← sweep_at_once books, applyTo_rooms, map_map]
      exact (map_congr_left fun room _ => rewritten_roomId _ room) ▸ books.ids
    simp only [Pool.candidatesReading, openRooms_at_once ids]
    rfl
  | expire => exact sweep_at_once books
  | left roomId playerId now => exact endPlayers_at_once false .left roomId (· == playerId) now
  | removed roomId playerIds now =>
    exact endPlayers_at_once true .removed roomId (fun playerId => playerIds.contains playerId && playerId != "") now
  | release | seen | closeRoom | configure => rfl

end

def runOf (targetSize : Nat) (sized : 2 ≤ targetSize ∧ targetSize ≤ 16) : GamePoolRun :=
  { status := .opened, closesAt := none, allowNewRooms := true, capacity := 8, targetSize, sized }

def pairRun : GamePoolRun := runOf 2 (by decide)

def asking (clientId : String) (choice : Choice) (moveExisting : Bool) (now : Int) : Action :=
  .assign
    { clientId, name := clientId, choice, moveExisting, receipt := false, join := fun _ => .joined clientId, created := some (clientId, clientId), now }

/-- Two guests meet in a room, and one moves on to a room of their own and is silent; the other one leaves while the sweep counts. -/
def meeting : List Event :=
  [{ action := asking "first" .new false 0 }, { action := asking "second" .auto false 1, reads := { counted := 1, emptied := 1 } },
    { action := asking "second" .new true 2 }, { action := .seen "first" "first" (hours 6) }, { action := .left "first" "first" (hours 7) },
    { action := .expire (hours 7), reads := { counted := 1, emptied := 1 } }]

instance Sweep.Undisturbed.decidable (sweep : Sweep) (pool : Pool) : Decidable (sweep.Undisturbed pool) :=
  inferInstanceAs (Decidable (_ ∧ _))

instance Alone.decidable (input : AssignGamePoolRoomInput) (pool : Pool) : Decidable (Alone input pool) := by
  unfold Alone
  cases input.choice <;> infer_instance

instance Meets.decidable (event : Event) (night : Night) : Decidable (Meets event night) := by
  unfold Meets
  cases event.action <;> infer_instance

theorem bookkeeping_settles_meeting :
    Throughout next Kept (start pairRun) meeting ∧
      EachStep next (fun event night => Fits night.pool (next event night).pool) (start pairRun) meeting :=
  bookkeeping_settles pairRun meeting (by decide)

def again : List Event := [{ action := asking "first" .new false 0 }, { action := asking "first" (.room "first") true 1 }]

/-- An operator closes a room, and its player goes away without a word. -/
def silent : List Event :=
  [{ action := asking "first" .new false 0 }, { action := .closeRoom "first" }, { action := .expire (hours 7) }]

/-- Of three players one is silent, and another one leaves when the sweep has counted two: it waits for the row, finds two on it and leaves it. -/
def crossed : List Event :=
  [{ action := asking "first" .new false 0 }, { action := asking "second" .auto false 1 }, { action := asking "third" .auto false 2 },
    { action := .seen "first" "second" (hours 6) }, { action := .seen "first" "third" (hours 6) },
    { action := .left "first" "second" (hours 7) }, { action := .expire (hours 7), reads := { counted := 1 } }]

theorem books_wrong : ¬ Throughout next Kept (start pairRun) again ∧ ¬ Throughout next Kept (start pairRun) silent ∧
    ¬ Throughout next Kept (start (runOf 3 (by decide))) crossed := by
  have closed : ¬ Kept (runFrom next (start pairRun) again) := by
    intro kept
    have excused := kept.excused { roomId := "first", status := .closed, playerCount := 1, capacity := 8, createdAt := 0 } (by decide) rfl (by decide)
    exact absurd excused (by decide)
  have counted : ¬ Kept (runFrom next (start pairRun) silent) := by
    intro kept
    exact absurd (kept.counts { roomId := "first", status := .closed, playerCount := 1, capacity := 8, createdAt := 0 } (by decide)) (by decide)
  have skipped : ¬ Kept (runFrom next (start (runOf 3 (by decide))) crossed) := by
    intro kept
    exact absurd (kept.counts { roomId := "first", status := .opened, playerCount := 2, capacity := 8, createdAt := 0 } (by decide)) (by decide)
  exact ⟨mt Throughout.last closed, mt Throughout.last counted, mt Throughout.last skipped⟩

end MilkAndHenny.GamePool

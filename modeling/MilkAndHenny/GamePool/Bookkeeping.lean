import MilkAndHenny.GamePool.Overlap

/-! The count of a room is the number of its active assignments, and a room in use is closed only by its game or an operator, unless somebody who is
alone in a room chooses it again, an assignment to a closed room goes stale, or a room is entered or left while a sweep counts. -/

namespace MilkAndHenny.GamePool

open Library

variable {excused more : List String} {pool : Pool} {room : GamePoolRoom} {rooms : List GamePoolRoom} {roomId : String}
  {assignment : Assignment}

structure Books (excused : List String) (pool : Pool) : Prop where
  ids : (pool.rooms.map (·.roomId)).Nodup
  numbered : Numbered (·.id) pool.assignments
  known : ∀ assignment ∈ pool.assignments, assignment.active = true → ∃ room ∈ pool.rooms, room.roomId = assignment.roomId
  one : ∀ clientId, (pool.assignments.countP fun assignment => assignment.clientId == clientId && assignment.active) ≤ 1
  counts : ∀ room ∈ pool.rooms, room.playerCount = activeIn pool.assignments room.roomId
  excused : ∀ room ∈ pool.rooms, room.status = .closed → 0 < activeIn pool.assignments room.roomId → room.roomId ∈ excused

section

variable {status : AssignmentStatus} {leaving : Assignment → Bool} {assignment : Assignment}

theorem Books.mono (books : Books excused pool) (subset : excused ⊆ more) : Books more pool :=
  ⟨books.ids, books.numbered, books.known, books.one, books.counts, fun room mem closed used => subset (books.excused room mem closed used)⟩

/-! ### Leaving -/

/-- So many players less; a room may close that nobody stays in. -/
structure Released (gone : String → Nat) (room after : GamePoolRoom) : Prop where
  roomId : after.roomId = room.roomId
  count : after.playerCount = room.playerCount - gone room.roomId
  status : after.status = room.status ∨ 0 < gone room.roomId ∧ room.playerCount ≤ gone room.roomId

theorem releaseRoom_released (closes : Bool) (rooms : List GamePoolRoom) (roomId : String) :
    List.Forall₂ (Released fun other => if roomId == other then 1 else 0) rooms (Pool.releaseRoom closes rooms roomId) := by
  unfold Pool.releaseRoom update
  rw [forall₂_map_right_iff, forall₂_same]
  intro room _
  by_cases same : roomId = room.roomId
  · subst same
    rw [if_pos (beq_self_eq_true _)]
    refine ⟨rfl, by simp, ?_⟩
    by_cases last : closes && room.playerCount ≤ 1
    · refine .inr ?_
      simp only [and_eq_true, decide_eq_true_eq] at last
      simpa using last.2
    · exact .inl (if_neg last)
  · rw [if_neg (by simpa using Ne.symm same)]
    exact ⟨rfl, by simp [same], .inl rfl⟩

theorem Released.trans {first second : String → Nat} {middle after : GamePoolRoom} (before : Released first room middle)
    (later : Released second middle after) : Released (fun roomId => first roomId + second roomId) room after where
  roomId := later.roomId.trans before.roomId
  count := by
    have count := later.count
    rw [before.roomId, before.count] at count
    omega
  status := by
    rcases later.status with same | ⟨some_go, gone⟩
    · rcases before.status with kept | ⟨some_go, gone⟩
      · exact .inl (same.trans kept)
      · exact .inr ⟨Nat.add_pos_left some_go _, gone.trans (Nat.le_add_right _ _)⟩
    · rw [before.roomId] at some_go gone
      rw [before.count] at gone
      exact .inr ⟨Nat.add_pos_right _ some_go, by omega⟩

theorem foldl_released (closes : Bool) (leaving : List Assignment) (rooms : List GamePoolRoom) :
    List.Forall₂ (Released fun roomId => leaving.countP fun assignment => assignment.roomId == roomId) rooms
      (leaving.foldl (fun rooms assignment => Pool.releaseRoom closes rooms assignment.roomId) rooms) := by
  induction leaving generalizing rooms with
  | nil => exact forall₂_same.mpr fun room _ => ⟨rfl, rfl, .inl rfl⟩
  | cons assignment leaving ih =>
    have first := releaseRoom_released closes rooms assignment.roomId
    have rest := ih (Pool.releaseRoom closes rooms assignment.roomId)
    have sum : (fun roomId => (assignment :: leaving).countP fun assignment => assignment.roomId == roomId) =
        fun roomId => (if assignment.roomId == roomId then 1 else 0) + leaving.countP fun assignment => assignment.roomId == roomId := by
      funext roomId
      rw [countP_cons, Nat.add_comm]
    rw [sum, foldl_cons]
    exact pairs_comp (fun _ _ _ before later => before.trans later) first rest

theorem ended_inactive (gone : status ≠ .active) (now : Int) (assignment : Assignment) :
    (ended status now assignment).active = false := beq_false_of_ne gone

theorem activeIn_ended (active : ∀ assignment, leaving assignment = true → assignment.active = true)
    (gone : status ≠ .active) (now : Int) (assignments : List Assignment) (roomId : String) :
    activeIn (update assignments leaving (ended status now)) roomId +
      (assignments.countP fun assignment => leaving assignment && assignment.roomId == roomId) = activeIn assignments roomId := by
  have dropped := @countP_update_dropped _ assignments leaving (ended status now) (fun assignment => assignment.active && assignment.roomId == roomId)
    fun assignment _ => by rw [ended_inactive gone, Bool.false_and]
  have same : (fun assignment => leaving assignment && (assignment.active && assignment.roomId == roomId)) =
      fun assignment => leaving assignment && assignment.roomId == roomId := by
    funext assignment
    cases leaves : leaving assignment with
    | false => rfl
    | true => rw [active assignment leaves, Bool.true_and]
  rwa [same] at dropped

theorem Books.ending (books : Books excused pool)
    (active : ∀ assignment, leaving assignment = true → assignment.active = true) (gone : status ≠ .active) (now : Int)
    (released : List.Forall₂ (Released fun roomId => pool.assignments.countP fun assignment => leaving assignment && assignment.roomId == roomId)
      pool.rooms rooms) :
    Books excused { pool with assignments := update pool.assignments leaving (ended status now), rooms } := by
  have ids : pool.rooms.map (·.roomId) = rooms.map (·.roomId) := map_pairs released fun room after step => step.roomId.symm
  have counted {room : GamePoolRoom} (mem : room ∈ rooms) : ∃ old ∈ pool.rooms,
      Released (fun roomId => pool.assignments.countP fun assignment => leaving assignment && assignment.roomId == roomId) old room :=
    mem_pairs released mem
  constructor
  · rw [← ids]
    exact books.ids
  · exact books.numbered.update fun _ => rfl
  · intro assignment mem still
    obtain ⟨old, listed, same⟩ := mem_update.mp mem
    have present : assignment.roomId = old.roomId ∧ old.active = true := by
      split at same
      · rw [same, ended_inactive gone] at still
        cases still
      · rw [same] at still ⊢
        exact ⟨rfl, still⟩
    obtain ⟨room, known, at_room⟩ := books.known old listed present.2
    obtain ⟨after, kept, step⟩ := mem_pairs released.flip known
    exact ⟨after, kept, by rw [step.roomId, at_room, present.1]⟩
  · intro clientId
    refine le_trans (countP_update_le ?_ ?_) (books.one clientId)
    · intro assignment _ _ counts
      simp only [ended_inactive gone, Bool.and_false, false_eq_true] at counts
    · exact fun assignment _ _ counts => counts
  · intro room mem
    obtain ⟨old, known, step⟩ := counted mem
    have left := activeIn_ended active gone now pool.assignments old.roomId
    have count := books.counts old known
    simp only [step.count, step.roomId, count]
    omega
  · intro room mem closed used
    obtain ⟨old, known, step⟩ := counted mem
    have left := activeIn_ended active gone now pool.assignments old.roomId
    have count := books.counts old known
    simp only [step.roomId] at used ⊢
    rcases step.status with same | ⟨-, last⟩
    · exact books.excused old known (same ▸ closed) (by omega)
    · omega

theorem Books.endPlayers (books : Books excused pool) (gone : status ≠ .active) (found : Pool) (closes : Bool) (roomId : String)
    (players : String → Bool) (now : Int) : Books excused (pool.endPlayersReading found closes status roomId players now) := by
  let leaving := reached (·.id) found.assignments fun assignment : Assignment =>
    assignment.roomId == roomId && players assignment.playerId && assignment.active
  have active (assignment : Assignment) (leaves : leaving assignment = true) : assignment.active = true :=
    ((and_eq_true _ _).mp ((and_eq_true _ _).mp leaves).1).2
  refine books.ending active gone now ?_
  have released := foldl_released closes (pool.assignments.filter leaving) pool.rooms
  simpa [countP_filter, Bool.and_comm (leaving _)] using released

theorem Books.leaveExisting (books : Books excused pool) (clientId : String) (now : Int) : Books excused (pool.leaveExistingAssignment clientId now) := by
  have active (assignment : Assignment) (leaves : (assignment.clientId == clientId && assignment.active) = true) : assignment.active = true :=
    ((and_eq_true _ _).mp leaves).2
  refine books.ending active (by decide) now ?_
  have single := books.one clientId
  rw [countP_eq_length_filter] at single
  have counted (roomId : String) :
      (pool.assignments.countP fun assignment => assignment.clientId == clientId && assignment.active && assignment.roomId == roomId) =
        (pool.assignments.filter fun assignment => assignment.clientId == clientId && assignment.active).countP (·.roomId == roomId) := by
    rw [countP_filter]
    simp [Bool.and_comm]
  simp only [counted]
  rw [← List.head?_filter]
  cases leaving : pool.assignments.filter fun assignment => assignment.clientId == clientId && assignment.active with
  | nil => exact forall₂_same.mpr fun room _ => ⟨rfl, rfl, .inl rfl⟩
  | cons assignment others =>
    rw [leaving, length_cons] at single
    obtain rfl : others = [] := List.eq_nil_of_length_eq_zero (by omega)
    have released := releaseRoom_released true pool.rooms assignment.roomId
    simpa using released

theorem leaveExisting_released (clientId : String) (now : Int) :
    List.Forall₂ (Released fun roomId => if pool.existingRoom clientId = some roomId then 1 else 0) pool.rooms
      (pool.leaveExistingAssignment clientId now).rooms := by
  unfold Pool.leaveExistingAssignment Pool.existingRoom Pool.activeOf
  simp only
  cases pool.assignments.find? fun assignment => assignment.clientId == clientId && assignment.active with
  | none =>
    exact forall₂_same.mpr fun room _ => ⟨rfl, rfl, .inl rfl⟩
  | some assignment => simpa using releaseRoom_released true pool.rooms assignment.roomId

theorem Books.releaseExisting (books : Books excused pool) (input : AssignGamePoolRoomInput) : Books excused (pool.releaseExisting input) := by
  unfold Pool.releaseExisting
  split
  · exact books.leaveExisting input.clientId input.now
  · exact books

/-! ### Rooms -/

theorem Books.setStatus (books : Books excused pool) (roomId : String) {status : GamePoolRoomStatus}
    (allowed : status = .closed → (∃ room ∈ pool.rooms, room.roomId = roomId) → roomId ∈ excused) : Books excused (pool.setStatus roomId status) := by
  have ids : (pool.setStatus roomId status).rooms.map (·.roomId) = pool.rooms.map (·.roomId) := map_update fun _ => rfl
  refine ⟨ids ▸ books.ids, books.numbered, ?_, books.one, ?_, ?_⟩
  · intro assignment mem active
    obtain ⟨room, known, same⟩ := books.known assignment mem active
    have listed : assignment.roomId ∈ (pool.setStatus roomId status).rooms.map (·.roomId) := by
      rw [ids, ← same]
      exact mem_map_of_mem known
    exact mem_map.mp listed
  · intro room mem
    obtain ⟨old, known, same⟩ := mem_update.mp mem
    split at same <;> (rw [same]; exact books.counts old known)
  · intro room mem closed used
    obtain ⟨old, known, same⟩ := mem_update.mp mem
    split at same
    · next chosen =>
      rw [same] at closed ⊢
      exact eq_of_beq chosen ▸ allowed closed ⟨old, known, eq_of_beq chosen⟩
    · rw [same] at closed used ⊢
      exact books.excused old known closed used

theorem Books.admitted (books : Books excused pool) {clientId : String} (known : ∃ room ∈ pool.rooms, room.roomId = roomId)
    (opened : ∀ room ∈ pool.rooms, room.roomId = roomId → room.status ≠ .closed) (free : pool.activeOf clientId = none)
    (active : assignment.active = true) (room : assignment.roomId = roomId) (client : assignment.clientId = clientId)
    (next : assignment.id = pool.assignments.length) :
    Books excused
      { pool with
        rooms := update pool.rooms (·.roomId == roomId) fun room => { room with playerCount := room.playerCount + 1 }
        assignments := pool.assignments ++ [assignment] } := by
  have ids : (update pool.rooms (·.roomId == roomId) fun room => { room with playerCount := room.playerCount + 1 }).map (·.roomId) =
      pool.rooms.map (·.roomId) := map_update fun _ => rfl
  have count (other : String) : activeIn (pool.assignments ++ [assignment]) other = activeIn pool.assignments other + if roomId = other then 1 else 0 := by
    unfold activeIn
    rw [countP_append, countP_singleton, active, room]
    simp
  have present {other : String} (held : ∃ room ∈ pool.rooms, room.roomId = other) :
      ∃ room ∈ update pool.rooms (·.roomId == roomId) fun room => { room with playerCount := room.playerCount + 1 }, room.roomId = other := by
    obtain ⟨held, listed, same⟩ := held
    have mem : other ∈ pool.rooms.map (·.roomId) := same ▸ mem_map_of_mem listed
    rw [← ids] at mem
    exact mem_map.mp mem
  refine ⟨ids ▸ books.ids, books.numbered.append next, ?_, ?_, ?_, ?_⟩
  · intro other mem still
    rcases mem_append.mp mem with mem | mem
    · exact present (books.known other mem still)
    · rw [mem_singleton.mp mem, room]
      exact present known
  · intro other
    rw [countP_append, countP_singleton, client, active, Bool.and_true]
    by_cases same : clientId = other
    · subst same
      have none_yet : (pool.assignments.countP fun assignment => assignment.clientId == clientId && assignment.active) = 0 :=
        countP_eq_zero.mpr fun held mem => find?_eq_none.mp free held mem
      simp [none_yet]
    · simpa [same] using books.one other
  · intro after mem
    obtain ⟨old, listed, same⟩ := mem_update.mp mem
    split at same
    · next chosen =>
      rw [same, count, books.counts old listed, if_pos (eq_of_beq chosen).symm]
    · next other =>
      rw [same, count, books.counts old listed, if_neg fun equal => other (beq_iff_eq.mpr equal.symm)]
      rfl
  · intro after mem closed used
    obtain ⟨old, listed, same⟩ := mem_update.mp mem
    split at same
    · next chosen =>
      rw [same] at closed
      exact absurd closed (opened old listed (eq_of_beq chosen))
    · next other =>
      rw [same] at closed used ⊢
      rw [count, if_neg fun equal => other (beq_iff_eq.mpr equal.symm)] at used
      exact books.excused old listed closed used

variable (books : Books excused pool)
include books

theorem Books.created (fresh : pool.rooms.any (·.roomId == room.roomId) = false)
    (count : room.playerCount = 1) (opened : room.status = .opened) (free : pool.activeOf assignment.clientId = none)
    (active : assignment.active = true) (same : assignment.roomId = room.roomId) (next : assignment.id = pool.assignments.length) :
    Books excused { pool with rooms := pool.rooms ++ [room], assignments := pool.assignments ++ [assignment] } := by
  have apart {old : GamePoolRoom} (known : old ∈ pool.rooms) : old.roomId ≠ room.roomId := by
    intro equal
    have found : pool.rooms.any (·.roomId == room.roomId) = true := any_eq_true.mpr ⟨old, known, beq_iff_eq.mpr equal⟩
    rw [fresh] at found
    cases found
  have counted (other : String) : activeIn (pool.assignments ++ [assignment]) other = activeIn pool.assignments other + if room.roomId = other then 1 else 0 := by
    unfold activeIn
    rw [countP_append, countP_singleton, active, same]
    simp
  have empty : activeIn pool.assignments room.roomId = 0 := by
    refine countP_eq_zero.mpr fun held listed inside => ?_
    simp only [and_eq_true, beq_iff_eq] at inside
    obtain ⟨old, known, at_room⟩ := books.known held listed inside.1
    exact apart known (at_room.trans inside.2)
  refine ⟨?_, books.numbered.append next, ?_, ?_, ?_, ?_⟩
  · rw [map_append, nodup_append_comm]
    refine nodup_cons.mpr ⟨fun listed => ?_, books.ids⟩
    obtain ⟨old, known, equal⟩ := mem_map.mp listed
    exact apart known equal
  · intro other mem still
    rcases mem_append.mp mem with mem | mem
    · obtain ⟨old, known, at_room⟩ := books.known other mem still
      exact ⟨old, mem_append_left _ known, at_room⟩
    · rw [mem_singleton.mp mem]
      exact ⟨room, mem_append_right _ (mem_singleton_self _), same.symm⟩
  · intro other
    rw [countP_append, countP_singleton, active, Bool.and_true]
    by_cases client : assignment.clientId = other
    · subst client
      have none_yet : (pool.assignments.countP fun held => held.clientId == assignment.clientId && held.active) = 0 :=
        countP_eq_zero.mpr fun held mem => find?_eq_none.mp free held mem
      simp [none_yet]
    · simpa [client] using books.one other
  · intro after mem
    rcases mem_append.mp mem with mem | mem
    · rw [counted, if_neg (Ne.symm (apart mem)), books.counts after mem]
      rfl
    · rw [mem_singleton.mp mem, counted, if_pos rfl, empty, count]
  · intro after mem closed used
    rcases mem_append.mp mem with mem | mem
    · rw [counted, if_neg (Ne.symm (apart mem))] at used
      exact books.excused after mem closed used
    · rw [mem_singleton.mp mem, opened] at closed
      cases closed

theorem Books.of_columns {assignments : List Assignment} (numbered : Numbered (·.id) assignments)
    (same : List.Forall₂ (fun row other : Assignment => other.clientId = row.clientId ∧ other.roomId = row.roomId ∧ other.active = row.active)
      pool.assignments assignments) : Books excused { pool with assignments } := by
  have counts (roomId : String) : activeIn pool.assignments roomId = activeIn assignments roomId :=
    countP_pairs same fun row other columns => by rw [columns.2.1, columns.2.2]
  refine ⟨books.ids, numbered, ?_, ?_, ?_, ?_⟩
  · intro other mem active
    obtain ⟨row, listed, columns⟩ := mem_pairs same mem
    rw [columns.2.1]
    exact books.known row listed (columns.2.2 ▸ active)
  · intro clientId
    have one := books.one clientId
    rwa [@countP_pairs _ _ _ _ _ same _ (fun assignment => assignment.clientId == clientId && assignment.active)
      fun row other columns => by rw [columns.1, columns.2.2]] at one
  · intro room mem
    rw [books.counts room mem, counts]
  · intro room mem closed used
    exact books.excused room mem closed (counts room.roomId ▸ used)

theorem Books.configured (run : GamePoolRun) : Books excused { pool with run } :=
  ⟨books.ids, books.numbered, books.known, books.one, books.counts, books.excused⟩

theorem Books.seen (roomId playerId : String) (now : Int) :
    Books excused (pool.markGamePoolPlayerSeen roomId playerId now) := by
  refine books.of_columns (books.numbered.update fun _ => rfl) ?_
  unfold update
  rw [forall₂_map_right_iff, forall₂_same]
  intro assignment _
  split <;> exact ⟨rfl, rfl, rfl⟩

end

/-! ### Sweeps -/

/-- The places of a room that are taken, by their ids. -/
def inside (assignments : List Assignment) (roomId : String) : List Nat :=
  (assignments.filter fun assignment => assignment.active && assignment.roomId == roomId).map (·.id)

/-- No stale assignment is to a room that is closed, and neither the rooms of the stale ones nor those that are found empty
are entered or left by others between the sweep's reading and its commit. -/
def Sweep.Undisturbed (sweep : Sweep) (pool : Pool) : Prop :=
  (∀ assignment ∈ pool.assignments, stale sweep.now assignment = true → ∀ read ∈ [pool, sweep.counted, sweep.emptied],
    inside read.assignments assignment.roomId = inside pool.assignments assignment.roomId ∧
      ∀ room ∈ read.rooms, room.roomId = assignment.roomId → room.status ≠ .closed) ∧
  ∀ room ∈ sweep.emptied.rooms, sweep.empties room = true →
    inside sweep.emptied.assignments room.roomId = inside pool.assignments room.roomId

section

variable {read counted emptied : Pool} {now : Int} {room : GamePoolRoom}

theorem activeIn_inside (assignments : List Assignment) (roomId : String) :
    activeIn assignments roomId = (inside assignments roomId).length := by
  rw [activeIn, countP_eq_length_filter, inside, length_map]

theorem stale_active (old : stale now assignment = true) : assignment.active = true :=
  ((and_eq_true _ _).mp old).1

theorem takes_iff : (pool.sweep now counted emptied).takes assignment = true ↔
    ∃ taken ∈ pool.assignments, stale now taken = true ∧ taken.id = assignment.id ∧ taken.roomId = assignment.roomId := by
  simp [Sweep.takes, Pool.sweep, and_assoc]

theorem takes_stale (numbered : Numbered (·.id) pool.assignments) (mem : assignment ∈ pool.assignments) :
    (pool.sweep now counted emptied).takes assignment = stale now assignment := by
  refine Bool.eq_iff_iff.mpr (takes_iff.trans ⟨fun ⟨taken, listed, old, same, _⟩ => ?_, fun old => ⟨assignment, mem, old, rfl, rfl⟩⟩)
  exact inj_on_of_nodup_map numbered.nodup listed mem same ▸ old

variable (sweep : Sweep)

theorem live_inside (read : Pool) (roomId : String) :
    sweep.live read roomId = (inside read.assignments roomId).countP fun id => !sweep.gone.contains (id, roomId) := by
  rw [inside, countP_map, countP_filter]
  refine countP_congr fun assignment _ => ?_
  simp only [Sweep.takes, and_eq_true, beq_iff_eq, Function.comp_apply]
  constructor
  · rintro ⟨⟨active, rfl⟩, stays⟩
    exact ⟨stays, active, rfl⟩
  · rintro ⟨stays, active, rfl⟩
    exact ⟨⟨active, rfl⟩, stays⟩

theorem live_pool (roomId : String) :
    (pool.sweep now counted emptied).live pool roomId =
      activeIn (((pool.sweep now counted emptied).applyTo pool).assignments) roomId := by
  unfold Sweep.live activeIn Sweep.applyTo update
  rw [countP_map]
  refine countP_congr fun assignment _ => ?_
  cases taken : (pool.sweep now counted emptied).takes assignment with
  | true => simp [taken, ended_inactive (show AssignmentStatus.sessionEnded ≠ .active by decide)]
  | false => simp [taken]

theorem live_untouched {sweep : Sweep} (untouched : ∀ assignment, assignment.roomId = room.roomId → sweep.takes assignment = false) (read : Pool) :
    sweep.live read room.roomId = activeIn read.assignments room.roomId := by
  refine countP_congr fun assignment _ => ?_
  simp only [and_eq_true, beq_iff_eq, not_eq_true', and_iff_left_iff_imp]
  exact fun inside => untouched assignment inside.2

theorem Books.room_of_inside (books : Books excused pool) {id : Nat} (mem : id ∈ inside pool.assignments roomId) :
    ∃ room ∈ pool.rooms, room.roomId = roomId := by
  obtain ⟨assignment, listed, -⟩ := mem_map.mp mem
  obtain ⟨known, taken⟩ := mem_filter.mp listed
  simp only [and_eq_true, beq_iff_eq] at taken
  exact taken.2 ▸ books.known assignment known taken.1

def Sweep.recounted (sweep : Sweep) (room : GamePoolRoom) : GamePoolRoom :=
  if reached (·.roomId) sweep.counted.rooms sweep.recounts room then
    { room with playerCount := sweep.live sweep.counted room.roomId }
  else room

/-- The row after both statements of the sweep. -/
def Sweep.rewritten (sweep : Sweep) (room : GamePoolRoom) : GamePoolRoom :=
  if reached (·.roomId) sweep.emptied.rooms sweep.empties (sweep.recounted room) then
    { sweep.recounted room with status := .closed, playerCount := 0 }
  else sweep.recounted room

theorem applyTo_rooms (pool : Pool) : (sweep.applyTo pool).rooms = pool.rooms.map sweep.rewritten := by
  simp only [Sweep.applyTo, update, map_map]
  rfl

theorem recounted_columns (room : GamePoolRoom) :
    (sweep.recounted room).roomId = room.roomId ∧ (sweep.recounted room).status = room.status := by
  unfold Sweep.recounted
  split <;> exact ⟨rfl, rfl⟩

theorem rewritten_roomId (room : GamePoolRoom) : (sweep.rewritten room).roomId = room.roomId := by
  unfold Sweep.rewritten
  split <;> exact (recounted_columns sweep room).1

theorem reached_recounted (rooms : List GamePoolRoom) (room : GamePoolRoom) :
    reached (·.roomId) rooms sweep.empties (sweep.recounted room) = reached (·.roomId) rooms sweep.empties room := by
  obtain ⟨roomId, status⟩ := recounted_columns sweep room
  simp [reached, Sweep.empties, roomId, status]

theorem mem_reached {which : GamePoolRoom → Bool} :
    reached (·.roomId) rooms which room = true ↔ which room = true ∧ ∃ seen ∈ rooms, seen.roomId = room.roomId ∧ which seen = true := by
  simp [reached]

/-- A room that stale assignments are in gets the count of those that stay, and is closed if there are none. -/
theorem rewritten_taken (books : Books excused pool) (first : Books excused counted) (second : Books excused emptied)
    (undisturbed : (pool.sweep now counted emptied).Undisturbed pool) (known : room ∈ pool.rooms)
    {taken : Assignment} (listed : taken ∈ pool.assignments) (old : stale now taken = true) (there : taken.roomId = room.roomId) :
    ((pool.sweep now counted emptied).rewritten room).playerCount = (pool.sweep now counted emptied).live pool room.roomId ∧
      (((pool.sweep now counted emptied).rewritten room).status = room.status ∨ (pool.sweep now counted emptied).live pool room.roomId = 0) := by
  have read := undisturbed.1 taken listed old
  simp only [there] at read
  obtain ⟨-, opened⟩ := read pool (by simp)
  obtain ⟨same, openedFirst⟩ := read counted (by simp [Pool.sweep])
  obtain ⟨alike, openedSecond⟩ := read emptied (by simp [Pool.sweep])
  generalize isSweep : pool.sweep now counted emptied = sweep at *
  have isFirst : sweep.counted = counted := isSweep ▸ rfl
  have isSecond : sweep.emptied = emptied := isSweep ▸ rfl
  have place : taken.id ∈ inside pool.assignments room.roomId :=
    mem_map_of_mem (mem_filter.mpr ⟨listed, by simp [stale_active old, there]⟩)
  have lost : sweep.live pool room.roomId < (inside pool.assignments room.roomId).length := by
    have gone : (taken.id, room.roomId) ∈ sweep.gone :=
      isSweep ▸ mem_map.mpr ⟨taken, mem_filter.mpr ⟨listed, old⟩, by rw [there]⟩
    rw [live_inside]
    refine lt_of_le_of_ne List.countP_le_length fun all => ?_
    have stays := List.countP_eq_length.mp all taken.id place
    simp [gone] at stays
  have count := books.counts room known
  rw [activeIn_inside] at count
  have liveFirst : sweep.live counted room.roomId = sweep.live pool room.roomId := by rw [live_inside, same, ← live_inside]
  have liveSecond : sweep.live emptied room.roomId = sweep.live pool room.roomId := by rw [live_inside, alike, ← live_inside]
  unfold Sweep.rewritten
  rw [reached_recounted]
  by_cases some_stay : sweep.live pool room.roomId = 0
  · obtain ⟨seen, mem, named⟩ := second.room_of_inside (alike ▸ place)
    have closes : reached (·.roomId) sweep.emptied.rooms sweep.empties room = true := by
      refine mem_reached.mpr ⟨?_, seen, isSecond ▸ mem, named, ?_⟩
      · simp [Sweep.empties, isSecond, liveSecond, some_stay, opened room known rfl]
      · simp [Sweep.empties, isSecond, named, liveSecond, some_stay, openedSecond seen mem named]
    rw [if_pos closes]
    exact ⟨some_stay.symm, .inr some_stay⟩
  · obtain ⟨seen, mem, named⟩ := first.room_of_inside (same ▸ place)
    have before := first.counts seen mem
    rw [named, activeIn_inside, same] at before
    have recounts : reached (·.roomId) sweep.counted.rooms sweep.recounts room = true := by
      refine mem_reached.mpr ⟨?_, seen, isFirst ▸ mem, named, ?_⟩
      · simp [Sweep.recounts, isFirst, liveFirst, some_stay, opened room known rfl]
        omega
      · simp [Sweep.recounts, isFirst, named, liveFirst, some_stay, openedFirst seen mem named]
        omega
    have used : ¬ reached (·.roomId) sweep.emptied.rooms sweep.empties room = true := by
      simp [reached, Sweep.empties, isSecond, liveSecond, some_stay]
    rw [if_neg used, Sweep.recounted, if_pos recounts]
    exact ⟨isFirst ▸ liveFirst, .inl rfl⟩

/-- Any other room stays as it is, or is closed with nobody in it. -/
theorem rewritten_untouched (books : Books excused pool) (first : Books excused counted)
    (undisturbed : (pool.sweep now counted emptied).Undisturbed pool) (known : room ∈ pool.rooms)
    (untouched : ∀ assignment, assignment.roomId = room.roomId → (pool.sweep now counted emptied).takes assignment = false) :
    ((pool.sweep now counted emptied).rewritten room).playerCount = (pool.sweep now counted emptied).live pool room.roomId ∧
      (((pool.sweep now counted emptied).rewritten room).status = room.status ∨ (pool.sweep now counted emptied).live pool room.roomId = 0) := by
  have stays := live_untouched untouched
  have vacant := undisturbed.2
  generalize isSweep : pool.sweep now counted emptied = sweep at *
  have isFirst : sweep.counted = counted := isSweep ▸ rfl
  have skipped : ¬ reached (·.roomId) sweep.counted.rooms sweep.recounts room = true := by
    intro recounts
    obtain ⟨-, seen, mem, named, recounts⟩ := mem_reached.mp recounts
    rw [isFirst] at mem
    have count := first.counts seen mem
    simp only [Sweep.recounts, isFirst, named, stays, and_eq_true, bne_iff_ne] at recounts
    exact recounts.2 (count.trans (by rw [named]))
  unfold Sweep.rewritten
  rw [reached_recounted, Sweep.recounted, if_neg skipped]
  split
  · next closes =>
    obtain ⟨-, seen, mem, named, empty⟩ := mem_reached.mp closes
    have same := vacant seen mem empty
    simp only [Sweep.empties, named, stays, and_eq_true, beq_iff_eq] at empty
    rw [named] at same
    have nobody : sweep.live pool room.roomId = 0 := by rw [stays, activeIn_inside, ← same, ← activeIn_inside, empty.2]
    exact ⟨nobody.symm, .inr nobody⟩
  · exact ⟨(books.counts room known).trans (stays pool).symm, .inl rfl⟩

theorem Books.swept (books : Books excused pool) (first : Books excused counted) (second : Books excused emptied)
    (undisturbed : (pool.sweep now counted emptied).Undisturbed pool) :
    Books excused ((pool.sweep now counted emptied).applyTo pool) := by
  have rewritten {room : GamePoolRoom} (known : room ∈ pool.rooms) :
      ((pool.sweep now counted emptied).rewritten room).playerCount =
          activeIn ((pool.sweep now counted emptied).applyTo pool).assignments room.roomId ∧
        (((pool.sweep now counted emptied).rewritten room).status = room.status ∨
          activeIn ((pool.sweep now counted emptied).applyTo pool).assignments room.roomId = 0) := by
    rw [← live_pool]
    by_cases touched : ∃ taken ∈ pool.assignments, stale now taken = true ∧ taken.roomId = room.roomId
    · obtain ⟨taken, listed, old, there⟩ := touched
      exact rewritten_taken books first second undisturbed known listed old there
    · refine rewritten_untouched books first undisturbed known fun assignment there => ?_
      refine eq_false_iff.mpr fun takes => ?_
      obtain ⟨taken, listed, old, -, same⟩ := takes_iff.mp takes
      exact touched ⟨taken, listed, old, same.trans there⟩
  have ids : ((pool.sweep now counted emptied).applyTo pool).rooms.map (·.roomId) = pool.rooms.map (·.roomId) := by
    rw [applyTo_rooms, map_map]
    exact map_congr_left fun room _ => rewritten_roomId _ room
  refine ⟨ids ▸ books.ids, books.numbered.update fun _ => rfl, ?_, ?_, ?_, ?_⟩
  · intro assignment mem still
    obtain ⟨old, listed, same⟩ := mem_update.mp mem
    split at same
    · rw [same, ended_inactive (by decide)] at still
      cases still
    · obtain ⟨room, known, there⟩ := books.known old listed (same ▸ still)
      have listed : assignment.roomId ∈ ((pool.sweep now counted emptied).applyTo pool).rooms.map (·.roomId) := by
        rw [ids, same, ← there]
        exact mem_map_of_mem known
      exact mem_map.mp listed
  · intro clientId
    refine le_trans (countP_update_le ?_ ?_) (books.one clientId)
    · intro assignment _ _ counts
      simp only [ended_inactive (show AssignmentStatus.sessionEnded ≠ .active by decide), Bool.and_false, false_eq_true] at counts
    · exact fun assignment _ _ counts => counts
  · intro room mem
    rw [applyTo_rooms] at mem
    obtain ⟨old, known, rfl⟩ := mem_map.mp mem
    rw [rewritten_roomId]
    exact (rewritten known).1
  · intro room mem closed used
    rw [applyTo_rooms] at mem
    obtain ⟨old, known, rfl⟩ := mem_map.mp mem
    rw [rewritten_roomId] at used ⊢
    rcases (rewritten known).2 with same | nobody
    · refine books.excused old known (same ▸ closed) (lt_of_lt_of_le used ?_)
      refine countP_update_le ?_ ?_
      · intro assignment _ _ counts
        simp only [ended_inactive (show AssignmentStatus.sessionEnded ≠ .active by decide), Bool.false_and, false_eq_true] at counts
      · exact fun assignment _ _ counts => counts
    · omega

end

end MilkAndHenny.GamePool

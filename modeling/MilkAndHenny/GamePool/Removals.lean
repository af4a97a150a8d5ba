import MilkAndHenny.GamePool.Allocation

/-! An allocation keeps one room from the client: the one that they are in, or the one that they were removed from last. -/

namespace MilkAndHenny.GamePool

open Library

def removes (pool : Pool) : Action → List (String × String)
  | .removed roomId playerIds _ =>
    (pool.assignments.filter fun assignment =>
      assignment.roomId == roomId && (playerIds.contains assignment.playerId && assignment.playerId != "") && assignment.active).map
        fun assignment => (assignment.clientId, assignment.roomId)
  | _ => []

/-- A run, and who has been removed from which room in it. -/
structure Evening where
  pool : Pool
  removals : List (String × String)

def Evening.start (run : GamePoolRun) : Evening := { pool := { run, rooms := [], assignments := [] }, removals := [] }

def Evening.next (action : Action) (evening : Evening) : Evening :=
  { pool := evening.pool.apply action, removals := evening.removals ++ removes evening.pool action }

/-- Nobody is assigned to a room that they have been removed from. -/
def Sticks (action : Action) (evening : Evening) : Prop :=
  ∀ assignment ∈ (evening.pool.apply action).assignments.drop evening.pool.assignments.length,
    (assignment.clientId, assignment.roomId) ∉ evening.removals

def Choice.wants : Choice → String → Bool
  | .auto, _ => true
  | .new, _ => false
  | .room roomId, other => roomId == other

/-- Of the open rooms with space that a client asks for, the only one that they can have been removed from is the one that is kept from them. -/
def Remembered (removals : List (String × String)) (input : AssignGamePoolRoomInput) (swept : Pool) : Prop :=
  ∀ room ∈ swept.rooms, room.status = .opened → room.playerCount < swept.run.targetSize → input.choice.wants room.roomId →
    (input.clientId, room.roomId) ∈ removals → swept.excludedRoom input = some room.roomId

def Remembers (action : Action) (evening : Evening) : Prop :=
  match action with
  | .assign input => Remembered evening.removals input (evening.pool.expireStaleGamePoolAssignments input.now)
  | _ => True

/-! ### What a step adds -/

def Pool.roomIds (pool : Pool) : List String := pool.rooms.map (·.roomId)

def Pool.places (pool : Pool) : List (String × String) := pool.assignments.map fun assignment => (assignment.clientId, assignment.roomId)

/-- The same rooms, and the same clients in them. -/
structure Unmoved (before after : Pool) : Prop where
  rooms : after.roomIds = before.roomIds
  places : after.places = before.places

/-- One more place: in a room that has been tried, or in a new one. -/
structure Placed (clientId : String) (tried : List String) (before after : Pool) (roomId : String) : Prop where
  places : after.places = before.places ++ [(clientId, roomId)]
  rooms : roomId ∈ tried ∧ after.roomIds = before.roomIds ∨ roomId ∉ before.roomIds ∧ after.roomIds = before.roomIds ++ [roomId]

section
variable {pool middle after : Pool} {input : AssignGamePoolRoomInput}

theorem Unmoved.trans (first : Unmoved pool middle) (second : Unmoved middle after) : Unmoved pool after :=
  ⟨second.rooms.trans first.rooms, second.places.trans first.places⟩

theorem expire_unmoved (pool : Pool) (now : Int) : Unmoved pool (pool.expireStaleGamePoolAssignments now) where
  rooms := by
    refine (map_update ?_).trans (map_update ?_)
    · exact fun _ => rfl
    · exact fun _ => rfl
  places := map_update fun _ => rfl

theorem leave_unmoved (pool : Pool) (clientId : String) (now : Int) : Unmoved pool (pool.leaveExistingAssignment clientId now) where
  rooms := (map_pairs (leaveExisting_released clientId now) fun _ _ step => step.roomId.symm).symm
  places := map_update fun _ => rfl

theorem release_unmoved (pool : Pool) (input : AssignGamePoolRoomInput) : Unmoved pool (pool.releaseExisting input) := by
  unfold Pool.releaseExisting
  split
  · exact leave_unmoved pool input.clientId input.now
  · exact ⟨rfl, rfl⟩

theorem status_unmoved (pool : Pool) (roomId : String) (status : GamePoolRoomStatus) : Unmoved pool (pool.setStatus roomId status) :=
  ⟨map_update fun _ => rfl, rfl⟩

theorem endPlayers_unmoved (pool : Pool) (closes : Bool) (status : AssignmentStatus) (roomId : String) (players : String → Bool) (now : Int) :
    Unmoved pool (pool.endPlayers closes status roomId players now) where
  rooms := (map_pairs (foldl_released closes _ pool.rooms) fun _ _ step => step.roomId.symm).symm
  places := map_update fun _ => rfl

theorem insert_placed {roomId playerId : String} (inserted : pool.insertAssignment input roomId playerId = some after) :
    after.places = pool.places ++ [(input.clientId, roomId)] ∧ after.roomIds = pool.roomIds := by
  unfold Pool.insertAssignment at inserted
  split at inserted
  · cases inserted
  · cases inserted
    exact ⟨map_append, rfl⟩

theorem tryRooms_placed {rooms : List GamePoolRoom} {found : Bool} (tried : Pool.tryRooms input pool rooms = some (after, found)) :
    (found = false → Unmoved pool after) ∧
      (found = true → ∃ roomId, Placed input.clientId (rooms.map (·.roomId)) pool after roomId) := by
  induction rooms generalizing pool with
  | nil =>
    cases tried
    exact ⟨fun _ => ⟨rfl, rfl⟩, Bool.noConfusion⟩
  | cons room rooms ih =>
    rw [Pool.tryRooms] at tried
    cases answer : input.join room.roomId with
    | failed =>
      rw [answer] at tried
      cases tried
    | joined =>
      rw [answer] at tried
      obtain ⟨admitted, same, pair⟩ := map_eq_some_iff.mp tried
      cases pair
      obtain ⟨places, ids⟩ := insert_placed same
      have released := release_unmoved pool input
      refine ⟨Bool.noConfusion, fun _ => ⟨room.roomId, ?_, .inl ⟨mem_cons_self, ?_⟩⟩⟩
      · exact places.trans (congrArg (· ++ _) released.places)
      · refine ids.trans (Eq.trans ?_ released.rooms)
        refine map_update ?_
        exact fun _ => rfl
    | refused code =>
      rw [answer] at tried
      simp only at tried
      split at tried
      · obtain ⟨unfound, placed⟩ := ih tried
        have closed := status_unmoved pool room.roomId (if code == "game_started" then .started else .closed)
        refine ⟨fun none_ => closed.trans (unfound none_), fun found => ?_⟩
        obtain ⟨roomId, place⟩ := placed found
        refine ⟨roomId, closed.places ▸ place.places, ?_⟩
        rw [← closed.rooms]
        exact place.rooms.imp_left fun inside => ⟨mem_cons_of_mem _ inside.1, inside.2⟩
      · cases tried

theorem createRoom_placed (created : pool.createRoom input = some after) (tried : List String) :
    ∃ roomId, Placed input.clientId tried pool after roomId := by
  have released := release_unmoved pool input
  unfold Pool.createRoom at created
  split at created
  · cases created
  · cases created
  · next roomId playerId _ _ =>
    split at created
    · cases created
    · simp only at created
      split at created
      · cases created
      · next fresh =>
        obtain ⟨places, ids⟩ := insert_placed created
        refine ⟨roomId, places.trans (congrArg (· ++ _) released.places), .inr ⟨fun known => fresh ?_, ?_⟩⟩
        · rw [← released.rooms] at known
          obtain ⟨room, listed, same⟩ := mem_map.mp known
          exact any_eq_true.mpr ⟨room, listed, beq_iff_eq.mpr same⟩
        · exact ids.trans (map_append.trans (congrArg (· ++ _) released.rooms))

theorem assign_placed (assigned : pool.assignGamePoolRoomState input = some after) : Unmoved pool after ∨
    ∃ roomId, Placed input.clientId (((pool.expireStaleGamePoolAssignments input.now).candidates input).map (·.roomId)) pool after roomId := by
  have swept := expire_unmoved pool input.now
  have carry {other : Pool} {tried : List String} {roomId : String} (same : Unmoved pool other)
      (placed : Placed input.clientId tried other after roomId) : Placed input.clientId tried pool after roomId :=
    ⟨same.places ▸ placed.places, same.rooms ▸ placed.rooms⟩
  unfold Pool.assignGamePoolRoomState at assigned
  split at assigned
  · cases assigned
  · simp only at assigned
    split at assigned
    · split at assigned
      · exact .inl (some.inj assigned ▸ swept)
      · cases assigned
    · split at assigned
      · cases assigned
      · next found tried =>
        cases assigned
        obtain ⟨roomId, placed⟩ := (tryRooms_placed tried).2 rfl
        exact .inr ⟨roomId, carry swept placed⟩
      · next found tried =>
        obtain ⟨roomId, placed⟩ := createRoom_placed assigned (((pool.expireStaleGamePoolAssignments input.now).candidates input).map (·.roomId))
        exact .inr ⟨roomId, carry (swept.trans ((tryRooms_placed tried).1 rfl)) placed⟩

/-- What the history and the table have in common. -/
structure Known (evening : Evening) : Prop where
  placed : ∀ place ∈ evening.pool.places, place.2 ∈ evening.pool.roomIds
  removed : ∀ removal ∈ evening.removals, removal.2 ∈ evening.pool.roomIds

theorem removes_places (pool : Pool) (action : Action) : ∀ removal ∈ removes pool action, removal ∈ pool.places := by
  cases action with
  | removed => exact fun _ mem => List.map_subset _ (List.filter_subset_self _) mem
  | _ => exact nofun

theorem mem_candidates {room : GamePoolRoom} (mem : room ∈ pool.candidates input) :
    (room ∈ pool.rooms ∧ room.status = .opened) ∧ room.playerCount < pool.run.targetSize ∧ input.choice.wants room.roomId ∧
      pool.excludedRoom input ≠ some room.roomId := by
  unfold Pool.candidates at mem
  cases choice : input.choice with
  | new =>
    rw [choice] at mem
    cases mem
  | auto =>
    rw [choice] at mem
    obtain ⟨inside, chosen⟩ := mem_filter.mp mem
    simp only [and_eq_true, bne_iff_ne, decide_eq_true_eq] at chosen
    exact ⟨mem_openRooms inside, chosen.2, rfl, chosen.1.symm⟩
  | room =>
    rw [choice] at mem
    obtain ⟨inside, chosen⟩ := mem_filter.mp mem
    simp only [and_eq_true, bne_iff_ne, beq_iff_eq, decide_eq_true_eq] at chosen
    exact ⟨mem_openRooms inside, chosen.2, beq_iff_eq.mpr chosen.1.1.symm, chosen.1.2.symm⟩

theorem apply_placed (pool : Pool) (action : Action) : Unmoved pool (pool.apply action) ∨ ∃ input, action = .assign input ∧
    ∃ roomId, Placed input.clientId (((pool.expireStaleGamePoolAssignments input.now).candidates input).map (·.roomId)) pool (pool.apply action) roomId := by
  cases action with
  | assign input =>
    cases assigned : pool.assignGamePoolRoomState input with
    | none =>
      rw [Pool.apply, assigned]
      exact .inl ⟨rfl, rfl⟩
    | some =>
      rw [Pool.apply, assigned]
      exact (assign_placed assigned).imp_right fun placed => ⟨input, rfl, placed⟩
  | release clientId now => exact .inl (leave_unmoved pool clientId now)
  | left roomId playerId now => exact .inl (endPlayers_unmoved pool false .left roomId (· == playerId) now)
  | removed roomId playerIds now => exact .inl (endPlayers_unmoved pool true .removed roomId
    (fun playerId => playerIds.contains playerId && playerId != "") now)
  | seen => exact .inl ⟨rfl, map_update fun _ => rfl⟩
  | expire now => exact .inl (expire_unmoved pool now)
  | closeRoom roomId => exact .inl (status_unmoved pool roomId .closed)
  | configure => exact .inl ⟨rfl, rfl⟩

end

section
variable {evening : Evening} {action : Action}

theorem tried_known (pool : Pool) (input : AssignGamePoolRoomInput) {roomId : String}
    (tried : roomId ∈ ((pool.expireStaleGamePoolAssignments input.now).candidates input).map (·.roomId)) : roomId ∈ pool.roomIds := by
  obtain ⟨room, listed, rfl⟩ := mem_map.mp tried
  rw [← (expire_unmoved pool input.now).rooms]
  exact mem_map_of_mem (mem_candidates listed).1.1

theorem Known.next (known : Known evening) (action : Action) : Known (evening.next action) := by
  have listed : ∀ removal ∈ (evening.next action).removals, removal.2 ∈ evening.pool.roomIds := fun removal mem =>
    (mem_append.mp mem).elim (known.removed removal) fun new => known.placed removal (removes_places evening.pool action removal new)
  rcases apply_placed evening.pool action with same | ⟨input, -, roomId, placed⟩
  · refine ⟨fun place mem => ?_, fun removal mem => ?_⟩
    · exact same.rooms ▸ known.placed place (same.places ▸ mem)
    · exact same.rooms ▸ listed removal mem
  · have grows : evening.pool.roomIds ⊆ (evening.pool.apply action).roomIds ∧ roomId ∈ (evening.pool.apply action).roomIds := by
      rcases placed.rooms with ⟨tried, same⟩ | ⟨-, more⟩
      · rw [same]
        exact ⟨List.Subset.refl _, tried_known evening.pool input tried⟩
      · rw [more]
        exact ⟨subset_append_left .., mem_append_right _ (mem_singleton_self _)⟩
    refine ⟨fun place mem => ?_, fun removal mem => grows.1 (listed removal mem)⟩
    rcases mem_append.mp (placed.places ▸ mem) with old | new
    · exact grows.1 (known.placed place old)
    · exact mem_singleton.mp new ▸ grows.2

theorem Known.sticks (known : Known evening) (remembers : Remembers action evening) : Sticks action evening := by
  intro assignment mem
  have added : (assignment.clientId, assignment.roomId) ∈ (evening.pool.apply action).places.drop evening.pool.places.length := by
    simp only [Pool.places, ← List.map_drop, length_map]
    exact mem_map_of_mem (f := fun assignment : Assignment => (assignment.clientId, assignment.roomId)) mem
  rcases apply_placed evening.pool action with same | ⟨input, rfl, roomId, placed⟩
  · rw [same.places, List.drop_length] at added
    cases added
  · rw [placed.places, drop_left, mem_singleton] at added
    rw [added]
    rcases placed.rooms with ⟨tried, -⟩ | ⟨fresh, -⟩
    · obtain ⟨room, listed, rfl⟩ := mem_map.mp tried
      obtain ⟨inside, space, wants, open_⟩ := mem_candidates listed
      exact fun removed => open_ (remembers room inside.1 inside.2 space wants removed)
    · exact fun removed => fresh (known.removed _ removed)

/-- In a run whose allocations remember every removal, nobody is assigned to a room that they have been removed from. -/
theorem removals_stick (run : GamePoolRun) (actions : List Action) (remembers : EachStep Evening.next Remembers (.start run) actions) :
    EachStep Evening.next Sticks (.start run) actions :=
  (@EachStep.shows _ _ Evening.next Remembers Known Sticks (fun known remembers => ⟨known.next _, known.sticks remembers⟩) (.start run) actions
    ⟨nofun, nofun⟩ remembers).2

end

instance Sticks.decidable (action : Action) (evening : Evening) : Decidable (Sticks action evening) :=
  inferInstanceAs (Decidable (∀ assignment ∈ (evening.pool.apply action).assignments.drop evening.pool.assignments.length,
    (assignment.clientId, assignment.roomId) ∉ evening.removals))

def twiceRemoved : List Action :=
  [asking "first" .new false 0, asking "guest" .auto false 1, asking "second" .new false 2, .removed "first" ["guest"] 3,
    asking "guest" .auto false 4, .removed "second" ["guest"] 5]

instance Remembers.decidable (action : Action) (evening : Evening) : Decidable (Remembers action evening) :=
  match action with
  | .assign input => inferInstanceAs (Decidable (∀ room ∈ (evening.pool.expireStaleGamePoolAssignments input.now).rooms, room.status = .opened → _))
  | .release .. | .left .. | .removed .. | .seen .. | .expire .. | .closeRoom .. | .configure .. => .isTrue trivial

theorem removals_stick_once : EachStep Evening.next Sticks (.start pairRun) twiceRemoved :=
  removals_stick pairRun twiceRemoved (by decide)

/-- The first room is given to them again, also where they move before they are removed from the second one. -/
theorem removals_forgotten : ¬ EachStep Evening.next Sticks (.start pairRun) (twiceRemoved ++ [asking "guest" .auto false 6]) ∧
    ¬ EachStep Evening.next Sticks (.start pairRun) (twiceRemoved.dropLast ++ [asking "guest" (.room "first") true 6]) := by
  decide

end MilkAndHenny.GamePool

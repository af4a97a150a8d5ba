import MilkAndHenny.Library.Machine
import MilkAndHenny.Centre.Moves

/-! The places of a race are those of its verified routes, for as long as nobody who has left with
a time is still in the roster when the next race is started. -/

namespace MilkAndHenny.Centre
open Library Multiplayer

variable {race : Race} {ctx : GameContext} {envelope : OfficialGameResultEnvelope} {watched : Watched}
  {course : CourseState} {entranceIndex : Nat} {route : CentreRoute}

/-- A race as it is watched: whom it has been started for, and the routes verified in it. -/
structure Race where
  starters : List Nat := []
  finishes : List Finish := []

def Race.after (race : Race) : Deed → Race
  | .calm | .leave _ => race
  | .finish finish => { race with finishes := race.finishes ++ [finish] }
  | .start players | .replay players => { starters := players }
  | .lobby => {}

structure Watched where
  room : CentreRoom
  race : Race := {}

def Command.watch (command : Command) (watched : Watched) : Watched where
  room := command.apply watched.room
  race := watched.race.after (command.deed watched.room)

/-- Whoever has a verified route in the race is placed by its time, and nobody else is. -/
structure Race.Places (race : Race) (places : List (Nat × Option Nat)) : Prop where
  listed : ∀ finish ∈ race.finishes, finish.playerId ∈ places.map Prod.fst
  ordered : ∃ order : List Finish, order.Perm race.finishes ∧ order.Pairwise (·.elapsedMs ≤ ·.elapsedMs) ∧
    ∀ entry ∈ places, entry.2 = (order.findIdx? (·.playerId == entry.1)).map (· + 1)

/-- The places that anyone is shown, and those of the sealed result, are the places of the race; it has
been run by players it was started for, each of them once. -/
structure Watched.Placed (watched : Watched) : Prop where
  distinct : (watched.race.finishes.map (·.playerId)).Nodup
  starters : ∀ finish ∈ watched.race.finishes, finish.playerId ∈ watched.race.starters
  snapshots : ∀ viewerId now, watched.race.Places ((watched.room.snapshot viewerId now).players.map fun player => (player.id, player.place))
  result : ∀ envelope ∈ watched.room.centreOfficialResult,
    watched.race.Places (envelope.players.map fun player => (player.playerId, player.placement)) ∧
      ∀ player ∈ envelope.players, player.won = true ↔ player.placement = some 1

def PlayerState.finish (player : PlayerState) : Finish where
  playerId := player.id
  elapsedMs := player.elapsedMs.getD 0
  finishedAt := player.finishedAt.getD 0

structure Recorded (watched : Watched) : Prop where
  ids : (watched.room.players.map (·.id)).Nodup
  rows : ∀ finish ∈ watched.race.finishes, ∃ row ∈ watched.room.players, row.placed = true ∧ row.finish = finish
  distinct : (watched.race.finishes.map (·.playerId)).Nodup
  starters : ∀ finish ∈ watched.race.finishes, finish.playerId ∈ watched.race.starters
  lobby : watched.room.phase = .lobby → ∀ row ∈ watched.room.players, row.placed = false
  raced : watched.room.phase ≠ .lobby → ∀ row ∈ watched.room.activePlayers, row.id ∈ watched.race.starters

def Timed (watched : Watched) : Prop := ∀ row ∈ watched.room.players, row.placed = true → row.finish ∈ watched.race.finishes

section
variable {room : CentreRoom}

theorem before_total (row other : PlayerState) : row.before other ∨ other.before row := by
  simp only [PlayerState.before, or_eq_true, and_eq_true, decide_eq_true_eq, beq_iff_eq]
  omega

theorem before_trans (row other third : PlayerState) (first : row.before other) (second : other.before third) : row.before third := by
  simp only [PlayerState.before, or_eq_true, and_eq_true, decide_eq_true_eq, beq_iff_eq] at *
  omega

/-- The times of the roster, in the order of the rankings. -/
def CentreRoom.standings (room : CentreRoom) : List Finish :=
  (orderBy PlayerState.before (room.players.filter (·.placed))).map (·.finish)

theorem mem_standings {finish : Finish} : finish ∈ room.standings ↔ ∃ row ∈ room.players, row.placed = true ∧ row.finish = finish := by
  simp [CentreRoom.standings, orderBy, and_assoc]

theorem standings_sorted : room.standings.Pairwise (·.elapsedMs ≤ ·.elapsedMs) := by
  apply List.pairwise_map.mpr
  refine (pairwise_orderBy before_total before_trans _).imp fun {row other} before => ?_
  simp only [PlayerState.before, or_eq_true, and_eq_true, decide_eq_true_eq, beq_iff_eq] at before
  simp only [PlayerState.finish]
  omega

theorem standings_nodup (ids : (room.players.map (·.id)).Nodup) : (room.standings.map (·.playerId)).Nodup := by
  have sorted : ((orderBy PlayerState.before (room.players.filter (·.placed))).map (·.id)).Nodup := by
    have perm := (perm_insertionSort (PlayerState.before · ·) (room.players.filter (·.placed))).map (·.id)
    exact perm.nodup_iff.mpr (ids.sublist (filter_sublist.map _))
  rwa [CentreRoom.standings, map_map]

theorem place_eq (id : Nat) : room.place id = (room.standings.findIdx? (·.playerId == id)).map (· + 1) := by
  unfold CentreRoom.place CentreRoom.rankings CentreRoom.standings
  rw [lookup_places, List.findIdx?_map]
  rfl

theorem place_isSome (id : Nat) : (room.place id).isSome ↔ ∃ row ∈ room.players, row.placed = true ∧ row.id = id := by
  rw [place_eq, isSome_map, List.findIdx?_isSome, any_eq_true]
  constructor
  · rintro ⟨finish, listed, same⟩
    obtain ⟨row, mem, placed, rfl⟩ := mem_standings.mp listed
    exact ⟨row, mem, placed, eq_of_beq same⟩
  · rintro ⟨row, mem, placed, rfl⟩
    exact ⟨row.finish, mem_standings.mpr ⟨row, mem, placed, rfl⟩, beq_self_eq_true _⟩

def CentreRoom.places (room : CentreRoom) : List (Nat × Option Nat) := room.players.map fun player => (player.id, room.place player.id)

theorem snapshot_places (viewerId : Nat) (now : Int) :
    ((room.snapshot viewerId now).players.map fun player => (player.id, player.place)) = room.places := by
  simp only [CentreRoom.snapshot, CentreRoom.places, map_map]
  rfl

theorem result_places (sealed_ : envelope ∈ room.centreOfficialResult) :
    (envelope.players.map fun player => (player.playerId, player.placement)) = room.places ∧
      ∀ player ∈ envelope.players, player.won = true ↔ player.placement = some 1 := by
  unfold CentreRoom.centreOfficialResult at sealed_
  split at sealed_
  · cases sealed_
  · obtain ⟨channel, -, rfl⟩ := map_eq_some_iff.mp sealed_
    simp only [map_map, CentreRoom.places, mem_map]
    refine ⟨rfl, ?_⟩
    rintro player ⟨row, -, rfl⟩
    exact beq_iff_eq

theorem Timed.places (timed : Timed ⟨room, race⟩) (recorded : Recorded ⟨room, race⟩) : race.Places room.places where
  listed finish mem := by
    obtain ⟨row, listed, -, rfl⟩ := recorded.rows finish mem
    simp only [CentreRoom.places, map_map]
    exact mem_map_of_mem (f := fun row : PlayerState => row.id) listed
  ordered := by
    refine ⟨room.standings, ?_, standings_sorted, ?_⟩
    · have standings : room.standings.Nodup := (standings_nodup recorded.ids).of_map _
      have finishes : race.finishes.Nodup := recorded.distinct.of_map _
      refine (List.perm_ext_iff_of_nodup standings finishes).mpr fun finish => ?_
      constructor
      · intro listed
        obtain ⟨row, mem, placed, rfl⟩ := mem_standings.mp listed
        exact timed row mem placed
      · exact fun listed => mem_standings.mpr (recorded.rows finish listed)
    · intro entry listed
      obtain ⟨row, -, rfl⟩ := mem_map.mp listed
      exact place_eq row.id

theorem Race.Places.timed (places : race.Places room.places) (recorded : Recorded ⟨room, race⟩) : Timed ⟨room, race⟩ := by
  intro row mem placed
  obtain ⟨order, perm, -, matched⟩ := places.ordered
  have shown : room.place row.id = (order.findIdx? (·.playerId == row.id)).map (· + 1) :=
    matched (row.id, room.place row.id) (mem_map_of_mem mem)
  have isPlaced : (room.place row.id).isSome := (place_isSome row.id).mpr ⟨row, mem, placed, rfl⟩
  rw [shown, isSome_map, List.findIdx?_isSome, any_eq_true] at isPlaced
  obtain ⟨finish, listed, same⟩ := isPlaced
  obtain ⟨other, otherMember, -, rfl⟩ := recorded.rows finish (perm.mem_iff.mp listed)
  obtain rfl : other = row := inj_on_of_nodup_map recorded.ids otherMember mem (eq_of_beq same)
  exact perm.mem_iff.mp listed

theorem Recorded.placed_iff (recorded : Recorded watched) : watched.Placed ↔ Timed watched := by
  constructor
  · intro placed
    have shown := placed.snapshots 0 0
    rw [snapshot_places] at shown
    exact shown.timed recorded
  · intro timed
    have places := timed.places recorded
    refine ⟨recorded.distinct, recorded.starters, fun viewerId now => ?_, fun envelope sealed_ => ?_⟩
    · rw [snapshot_places]
      exact places
    · obtain ⟨same, won⟩ := result_places sealed_
      rw [same]
      exact ⟨places, won⟩

end

/-- A player whose time is left alone, and who does not come back; nor goes, where nobody leaves. -/
structure Still (stays : Prop) (row other : PlayerState) : Prop where
  id : other.id = row.id
  placed : other.placed = row.placed
  finish : other.finish = row.finish
  gone : row.withdrawn = true → other.withdrawn = true
  stay : stays → other.withdrawn = row.withdrawn

theorem Still.refl {stays : Prop} (row : PlayerState) : Still stays row row := ⟨rfl, rfl, rfl, fun gone => gone, fun _ => rfl⟩

/-- A room whose times are left alone. -/
structure Keeps (stays : Prop) (room after : CentreRoom) : Prop where
  rows : Forall₂ (Still stays) room.players after.players
  lobby : after.phase = .lobby → room.phase = .lobby
  raced : after.phase ≠ .lobby → room.phase ≠ .lobby ∨ after.activePlayers = []

section
variable {stays : Prop} {room after : CentreRoom} {player : PlayerState} {now : Int}

theorem Keeps.recorded (keeps : Keeps stays room after) (recorded : Recorded ⟨room, race⟩) : Recorded ⟨after, race⟩ where
  ids := by
    have same : room.players.map (·.id) = after.players.map (·.id) := map_pairs keeps.rows fun row other still => still.id.symm
    exact same ▸ recorded.ids
  rows finish listed := by
    obtain ⟨row, mem, placed, same⟩ := recorded.rows finish listed
    obtain ⟨other, listed, still⟩ := mem_pairs keeps.rows.flip mem
    exact ⟨other, listed, still.placed.trans placed, still.finish.trans same⟩
  distinct := recorded.distinct
  starters := recorded.starters
  lobby lobby row mem := by
    obtain ⟨old, listed, still⟩ := mem_pairs keeps.rows mem
    exact still.placed.trans (recorded.lobby (keeps.lobby lobby) old listed)
  raced raced row mem := by
    rcases keeps.raced raced with begun | emptied
    · obtain ⟨listed, active⟩ := CentreRoom.mem_activePlayers.mp mem
      obtain ⟨old, oldListed, still⟩ := mem_pairs keeps.rows listed
      have present : old.withdrawn = false := by
        cases gone : old.withdrawn with
        | false => rfl
        | true => exact absurd (still.gone gone) (by simp [active])
      exact still.id ▸ recorded.raced begun old (CentreRoom.mem_activePlayers.mpr ⟨oldListed, present⟩)
    · rw [emptied] at mem
      cases mem

theorem Keeps.timed (keeps : Keeps stays room after) : Timed ⟨after, race⟩ ↔ Timed ⟨room, race⟩ := by
  constructor
  · intro timed row mem placed
    obtain ⟨other, listed, still⟩ := mem_pairs keeps.rows.flip mem
    exact still.finish ▸ timed other listed (still.placed.trans placed)
  · intro timed row mem placed
    obtain ⟨old, listed, still⟩ := mem_pairs keeps.rows mem
    exact still.finish ▸ timed old listed (still.placed.symm.trans placed)

/-- Nobody who is out of the room has a time. -/
def CentreRoom.Clean (room : CentreRoom) : Prop := ∀ row ∈ room.players, row.withdrawn = true → row.placed = false

instance (room : CentreRoom) : Decidable room.Clean := inferInstanceAs (Decidable (∀ row ∈ room.players, row.withdrawn = true → row.placed = false))

theorem Keeps.clean (keeps : Keeps True room after) : after.Clean ↔ room.Clean := by
  constructor
  · intro clean row mem gone
    obtain ⟨other, listed, still⟩ := mem_pairs keeps.rows.flip mem
    exact still.placed ▸ clean other listed ((still.stay trivial).trans gone)
  · intro clean row mem gone
    obtain ⟨old, listed, still⟩ := mem_pairs keeps.rows mem
    exact still.placed.trans (clean old listed ((still.stay trivial).symm.trans gone))

theorem still_rows (rows : List PlayerState) : Forall₂ (Still stays) rows rows := forall₂_same.mpr fun row _ => .refl row

theorem Mild.keeps (mild : Mild room after) : Keeps stays room after where
  rows := mild.rows.imp fun row other alike => by
    refine ⟨alike.id, ?_, ?_, fun gone => alike.gone.trans gone, fun _ => alike.gone⟩
    · simp [PlayerState.placed, alike.race]
    · simp [PlayerState.finish, alike.race, alike.id]
  lobby lobby := mild.phase ▸ lobby
  raced raced := .inl (mild.phase ▸ raced)

theorem Keeps.of_rows (rows : Forall₂ (Still stays) room.players after.players) (begun : room.phase ≠ .lobby) (goes : after.phase ≠ .lobby) :
    Keeps stays room after := ⟨rows, fun lobby => absurd lobby goes, fun _ => .inl begun⟩

theorem arm_keeps {armed : Bool} (waiting : room.phase = .arming) : Keeps stays room (room.arm player armed now) := by
  have begun : room.phase ≠ .lobby := by simp [waiting]
  have set : Forall₂ (Still stays) room.players (updateFirst room.players (·.id == player.id) fun row => { row with armed }) :=
    forall₂_updateFirst Still.refl fun row _ => ⟨rfl, rfl, rfl, fun gone => gone, fun _ => rfl⟩
  unfold CentreRoom.arm
  extract_lets changed
  have rows : Forall₂ (Still stays) room.players changed.players ∧ changed.phase ≠ .lobby := by
    simp only [changed]
    split
    · exact ⟨still_rows _, begun⟩
    · exact ⟨set, begun⟩
  split
  · exact .of_rows rows.1 begun rows.2
  · exact .of_rows rows.1 begun (by simp)

theorem retire_keeps {courseHash : Nat}
    (begun : room.phase ≠ .lobby) : Keeps stays room (room.retire ctx player course entranceIndex courseHash route now) := by
  unfold CentreRoom.retire
  extract_lets traced kept out saved
  have rows : Forall₂ (Still stays) room.players saved.players := forall₂_updateFirst Still.refl fun row _ => ⟨rfl, rfl, rfl, fun gone => gone, fun _ => rfl⟩
  split
  · exact .of_rows rows begun (by simp)
  · exact .of_rows rows begun begun

theorem transferHost_eq (leavingId : Nat) (now : Int) : ∃ host, room.transferHost leavingId now = { room with hostPlayerId := host } := by
  unfold CentreRoom.transferHost
  split
  · exact ⟨room.hostPlayerId, rfl⟩
  · exact ⟨_, rfl⟩

theorem leave_keeps (playerId : Nat) (now : Int) : Keeps False room (room.leave playerId now) := by
  have rows : Forall₂ (Still False) room.players (updateFirst room.players (·.id == playerId) fun row => { row with withdrawn := true }) :=
    forall₂_updateFirst Still.refl fun row _ => ⟨rfl, rfl, rfl, fun _ => rfl, False.elim⟩
  obtain ⟨host, handed⟩ := @transferHost_eq room playerId now
  unfold CentreRoom.leave
  rw [handed]
  extract_lets gone
  split
  · next emptied => exact ⟨rows, nofun, fun _ => .inr (List.isEmpty_iff.mp emptied)⟩
  · exact ⟨rows, fun lobby => lobby, .inl⟩

end

section
variable {room after : CentreRoom} {joinId : Option Nat} {token : Secret} {name : String}

theorem seat_recorded (recorded : Recorded ⟨room, race⟩)
    (lobby : room.phase = .lobby) (fresh : ∀ player ∈ room.players, player.id ≠ ctx.randomUUID room.revision) :
    Recorded ⟨room.seat ctx name token joinId, race⟩ where
  ids := by
    change ((room.players ++ [newPlayer (ctx.randomUUID room.revision) joinId name token (room.players.length % 8) ctx.clock]).map
      (·.id)).Nodup
    rw [map_append, nodup_append]
    refine ⟨recorded.ids, nodup_singleton _, ?_⟩
    intro id listed other new same
    obtain ⟨player, mem, rfl⟩ := mem_map.mp listed
    exact fresh player mem (same.trans (mem_singleton.mp new))
  rows finish listed := by
    obtain ⟨row, mem, timed⟩ := recorded.rows finish listed
    exact ⟨row, mem_append_left _ mem, timed⟩
  distinct := recorded.distinct
  starters := recorded.starters
  lobby _ row mem := by
    rcases mem_append.mp mem with old | new
    · exact recorded.lobby lobby row old
    · rw [mem_singleton.mp new]
      rfl
  raced raced := absurd lobby raced

theorem seat_timed : Timed ⟨room.seat ctx name token joinId, race⟩ ↔ Timed ⟨room, race⟩ := by
  constructor
  · exact fun timed row mem => timed row (mem_append_left _ mem)
  · intro timed row mem placed
    rcases mem_append.mp mem with old | new
    · exact timed row old placed
    · rw [mem_singleton.mp new] at placed
      cases placed

theorem seat_clean : (room.seat ctx name token joinId).Clean ↔ room.Clean := by
  constructor
  · exact fun clean row mem => clean row (mem_append_left _ mem)
  · intro clean row mem gone
    rcases mem_append.mp mem with old | new
    · exact clean row old gone
    · rw [mem_singleton.mp new]
      rfl

structure LeavesTimes (race : Race) (room after : CentreRoom) : Prop where
  recorded : Recorded ⟨room, race⟩ → Recorded ⟨after, race⟩
  timed : Timed ⟨after, race⟩ ↔ Timed ⟨room, race⟩
  clean : after.Clean ↔ room.Clean

theorem Keeps.leavesTimes (keeps : Keeps True room after) : LeavesTimes race room after :=
  ⟨keeps.recorded, keeps.timed, keeps.clean⟩

theorem Move.leavesTimes (move : Move ctx room .calm after) : LeavesTimes race room after := by
  cases move with
  | mild mild => exact mild.keeps.leavesTimes
  | @running now counted =>
    have keeps : Keeps True room (CentreRoom.changed { room with phase := .racing } now) :=
      .of_rows (still_rows _) (by simp [counted]) (by simp)
    exact keeps.leavesTimes
  | @stopped now finishing =>
    have keeps : Keeps True room (CentreRoom.changed { room with phase := .finished } now) :=
      .of_rows (still_rows _) (by simp [finishing]) (by simp)
    exact keeps.leavesTimes
  | seat lobby fresh => exact ⟨fun recorded => seat_recorded recorded lobby fresh, seat_timed, seat_clean⟩
  | arm waiting => exact (arm_keeps waiting).leavesTimes
  | retire raced =>
    refine (retire_keeps ?_).leavesTimes
    intro lobby
    simp [lobby] at raced

theorem Calm.leavesTimes (calm : Calm ctx room after) : LeavesTimes race room after := by
  induction calm with
  | refl => exact ⟨id, Iff.rfl, Iff.rfl⟩
  | @tail found last _ move ih =>
    have next : LeavesTimes race found last := move.leavesTimes
    exact ⟨next.recorded ∘ ih.recorded, next.timed.trans ih.timed, next.clean.trans ih.clean⟩

theorem finish_recorded {player : PlayerState} {elapsedMs : Int}
    (found : room.player player.id = some player) (active : player.withdrawn = false) (untimed : player.elapsedMs = none)
    (begun : room.phase ≠ .lobby) (recorded : Recorded ⟨room, race⟩) (timed : Timed ⟨room, race⟩) :
    let finish : Finish := { playerId := player.id, elapsedMs, finishedAt := ctx.now }
    Recorded ⟨room.finish player course entranceIndex route elapsedMs ctx.now, race.after (.finish finish)⟩ ∧
      Timed ⟨room.finish player course entranceIndex route elapsedMs ctx.now, race.after (.finish finish)⟩ := by
  intro finish
  let change (row : PlayerState) : PlayerState :=
    { row with finishedAt := some ctx.now, elapsedMs := some elapsedMs, wallHits := route.wallHits, resets := route.segments.length - 1 }
  have rows : (room.finish player course entranceIndex route elapsedMs ctx.now).players = update room.players (·.id == player.id) change := by
    rw [← updateFirst_eq_update recorded.ids]
    unfold CentreRoom.finish
    extract_lets timed closing
    simp only [CentreRoom.saveReplay, closing]
    split <;> rfl
  have goes : (room.finish player course entranceIndex route elapsedMs ctx.now).phase ≠ .lobby := by
    unfold CentreRoom.finish
    extract_lets timed closing
    simp only [CentreRoom.saveReplay, closing]
    split
    · exact begun
    · simp
  have listed : player ∈ room.players := mem_of_find?_eq_some found
  have only {row : PlayerState} (mem : row ∈ room.players) (same : row.id = player.id) : row = player :=
    inj_on_of_nodup_map recorded.ids mem listed same
  have unplaced : player.placed = false := by simp [PlayerState.placed, untimed]
  have apart {row : PlayerState} (placed : row.placed = true) (mem : row ∈ room.players) : row.id ≠ player.id := by
    intro same
    rw [only mem same, unplaced] at placed
    cases placed
  have changed : (change player).finish = finish := rfl
  refine ⟨⟨?_, ?_, ?_, ?_, fun lobby => absurd lobby goes, ?_⟩, ?_⟩
  · exact rows ▸ nodup_update (fun row => rfl) recorded.ids
  · intro other mem
    rcases mem_append.mp mem with old | new
    · obtain ⟨row, mem, placed, same⟩ := recorded.rows other old
      refine ⟨row, rows ▸ mem_update.mpr ⟨row, mem, ?_⟩, placed, same⟩
      rw [if_neg (by simpa using apart placed mem)]
    · refine ⟨change player, rows ▸ mem_update.mpr ⟨player, listed, ?_⟩, rfl, changed.trans (mem_singleton.mp new).symm⟩
      rw [if_pos (beq_self_eq_true _)]
  · change ((race.finishes ++ [finish]).map (·.playerId)).Nodup
    rw [map_append, nodup_append]
    refine ⟨recorded.distinct, nodup_singleton _, ?_⟩
    intro id old other new same
    obtain ⟨earlier, mem, rfl⟩ := mem_map.mp old
    obtain ⟨row, rowListed, placed, rfl⟩ := recorded.rows earlier mem
    exact apart placed rowListed (same.trans (mem_singleton.mp new))
  · intro other mem
    rcases mem_append.mp mem with old | new
    · exact recorded.starters other old
    · rw [mem_singleton.mp new]
      exact recorded.raced begun player (CentreRoom.mem_activePlayers.mpr ⟨listed, active⟩)
  · intro _ row mem
    obtain ⟨shown, present⟩ := CentreRoom.mem_activePlayers.mp mem
    obtain ⟨old, oldListed, same⟩ := mem_update.mp (rows ▸ shown)
    have kept : row.id = old.id ∧ row.withdrawn = old.withdrawn := by
      rw [same]
      split <;> exact ⟨rfl, rfl⟩
    exact kept.1 ▸ recorded.raced begun old (CentreRoom.mem_activePlayers.mpr ⟨oldListed, kept.2 ▸ present⟩)
  · intro row mem placed
    obtain ⟨old, oldListed, rfl⟩ := mem_update.mp (rows ▸ mem)
    by_cases own : old.id = player.id
    · rw [if_pos (by simpa using own), only oldListed own, changed]
      exact mem_append_right _ (mem_singleton_self _)
    · rw [if_neg (by simpa using own)] at placed ⊢
      exact mem_append_left _ (timed old oldListed placed)

structure LinedUp (row other : PlayerState) : Prop where
  id : other.id = row.id
  gone : other.withdrawn = row.withdrawn
  out : row.withdrawn = true → other = row
  fresh : row.withdrawn = false → other.armed = false ∧ other.finishedAt = none ∧ other.elapsedMs = none ∧ other.retired = false

theorem lineUp_rows (gameNumber count index : Nat) (players : List PlayerState) :
    Forall₂ LinedUp players (CentreRoom.lineUp gameNumber count index players) := by
  induction players generalizing index with
  | nil => exact .nil
  | cons player players ih =>
    unfold CentreRoom.lineUp
    split
    · next gone => exact .cons ⟨rfl, rfl, fun _ => rfl, fun present => absurd gone (by simp [present])⟩ (ih index)
    · next present => exact .cons ⟨rfl, rfl, fun gone => absurd gone present, fun _ => ⟨rfl, rfl, rfl, rfl⟩⟩ (ih (index + 1))

theorem started_recorded {now : Int} (ids : (room.players.map (·.id)).Nodup) :
    Recorded ⟨room.startCourse ctx now, { starters := room.activePlayers.map (·.id) }⟩ := by
  have rows := lineUp_rows room.gameNumber room.activePlayers.length 0 room.players
  refine ⟨?_, nofun, nodup_nil, fun _ listed => absurd listed not_mem_nil,
    CentrePhase.noConfusion, ?_⟩
  · have same := map_pairs rows (f := (·.id)) (g := (·.id)) fun row other lined => lined.id.symm
    exact same ▸ ids
  · intro _ row mem
    obtain ⟨listed, active⟩ := CentreRoom.mem_activePlayers.mp mem
    obtain ⟨old, oldListed, lined⟩ := mem_pairs rows listed
    exact mem_map.mpr ⟨old, CentreRoom.mem_activePlayers.mpr ⟨oldListed, lined.gone ▸ active⟩, lined.id.symm⟩

theorem started_timed {now : Int} :
    Timed ⟨room.startCourse ctx now, { starters := room.activePlayers.map (·.id) }⟩ ↔ room.Clean := by
  have rows := lineUp_rows room.gameNumber room.activePlayers.length 0 room.players
  constructor
  · intro timed row mem gone
    obtain ⟨other, listed, lined⟩ := mem_pairs rows.flip mem
    by_contra placed
    rw [lined.out gone] at listed
    exact absurd (timed row listed (not_eq_false _ ▸ placed)) not_mem_nil
  · intro clean row mem placed
    obtain ⟨old, listed, lined⟩ := mem_pairs rows mem
    cases gone : old.withdrawn with
    | true =>
      rw [lined.out gone, clean old listed gone] at placed
      cases placed
    | false => simp [PlayerState.placed, (lined.fresh gone).2.1] at placed

theorem lobby_recorded (recorded : Recorded ⟨room, race⟩) (now : Int) : Recorded ⟨room.toLobby now, {}⟩ ∧ Timed ⟨room.toLobby now, {}⟩ := by
  have cleared : ∀ row ∈ (room.toLobby now).players, row.placed = false := by
    intro row mem
    obtain ⟨old, -, rfl⟩ := mem_map.mp mem
    rfl
  refine ⟨⟨?_, nofun, nodup_nil, fun _ listed => absurd listed not_mem_nil,
    fun _ => cleared, absurd rfl⟩, fun row mem placed => ?_⟩
  · have same : (room.toLobby now).players.map (·.id) = room.players.map (·.id) := map_map
    exact same ▸ recorded.ids
  · rw [cleared row mem] at placed
    cases placed

end

def Deed.isReplay : Deed → Bool
  | .replay _ => true
  | _ => false

/-- A `game.replay` that is carried out finds nobody in the roster who has left with a time. -/
def Command.StartsClean (command : Command) (room : CentreRoom) : Prop := (command.deed room).isReplay = true → room.Clean

instance (command : Command) (room : CentreRoom) : Decidable (command.StartsClean room) :=
  inferInstanceAs (Decidable ((command.deed room).isReplay = true → room.Clean))

section
variable {room after : CentreRoom} {deed : Deed}

/-- A deed leaves what is recorded; and every time in the roster is of the race, but after a replay
that finds one of a player who has left. -/
theorem Move.recorded (move : Move ctx room deed after) (recorded : Recorded ⟨room, race⟩) (timed : Timed ⟨room, race⟩) :
    Recorded ⟨after, race.after deed⟩ ∧ (Timed ⟨after, race.after deed⟩ ↔ (deed.isReplay = true → room.Clean)) := by
  have unbound {deed : Deed} {watched : Watched} (other : deed.isReplay = false) (timed : Timed watched) :
      Timed watched ↔ (deed.isReplay = true → room.Clean) := ⟨fun _ replays => absurd replays (by simp [other]), fun _ => timed⟩
  cases deed with
  | calm =>
    have calm : LeavesTimes race room after := move.leavesTimes
    exact ⟨calm.recorded recorded, unbound rfl (calm.timed.mpr timed)⟩
  | leave =>
    cases move with
    | @leave player =>
      have keeps : Keeps False room (room.leave player.id ctx.now) := leave_keeps player.id ctx.now
      exact ⟨keeps.recorded recorded, unbound rfl (keeps.timed.mpr timed)⟩
  | finish finish =>
    cases move with
    | finish found active untimed raced =>
      have begun : room.phase ≠ .lobby := by
        intro lobby
        simp [lobby] at raced
      obtain ⟨recorded, timed⟩ := finish_recorded found active untimed begun recorded timed
      exact ⟨recorded, unbound rfl timed⟩
  | start players =>
    cases move with
    | @start player removePlayerIds lobby =>
      have kept : (room.removeUnready player.id removePlayerIds).players.Sublist room.players := by
        unfold CentreRoom.removeUnready
        split
        · exact List.Sublist.refl _
        · exact filter_sublist
      refine ⟨started_recorded (recorded.ids.sublist (kept.map _)), unbound rfl (started_timed.mpr fun row mem _ => ?_)⟩
      exact recorded.lobby lobby row (kept.subset mem)
  | replay =>
    cases move with
    | replay =>
      have begun : Timed ⟨room.nextGame.startCourse ctx ctx.now, race.after (.replay (room.activePlayers.map (·.id)))⟩ ↔ room.Clean :=
        @started_timed ctx room.nextGame ctx.now
      exact ⟨@started_recorded ctx room.nextGame ctx.now recorded.ids, begun.trans ⟨fun clean _ => clean, fun clean => clean rfl⟩⟩
  | lobby =>
    cases move with
    | lobby =>
      obtain ⟨recorded, timed⟩ := lobby_recorded recorded ctx.now
      exact ⟨recorded, unbound rfl timed⟩

theorem watch_placed {command : Command} (recorded : Recorded watched) (placed : watched.Placed)
    (draws : command.DrawsNewId watched.room) :
    Recorded (command.watch watched) ∧ ((command.watch watched).Placed ↔ command.StartsClean watched.room) := by
  obtain @⟨found, left, before, move, rest, -⟩ := Command.played draws
  have earlier : LeavesTimes watched.race watched.room found := before.leavesTimes
  have later : LeavesTimes (watched.race.after (command.deed watched.room)) left (command.apply watched.room) := rest.leavesTimes
  have timed := earlier.timed.mpr (recorded.placed_iff.mp placed)
  obtain ⟨kept, exactly⟩ := move.recorded (earlier.recorded recorded) timed
  have after : Recorded (command.watch watched) := later.recorded kept
  refine ⟨after, after.placed_iff.trans (later.timed.trans (exactly.trans ?_))⟩
  exact imp_congr_right fun _ => earlier.clean

theorem created_recorded (ctx : GameContext) (input : CreateInput) :
    Recorded ⟨createCentreRoom ctx input, {}⟩ ∧ Timed ⟨createCentreRoom ctx input, {}⟩ := by
  have unplaced : ∀ row ∈ (createCentreRoom ctx input).players, row.placed = false := by
    intro row mem
    rw [mem_singleton.mp mem]
    rfl
  refine ⟨⟨nodup_singleton _, nofun, nodup_nil,
    nofun, fun _ => unplaced, fun raced => absurd rfl raced⟩, fun row mem placed => ?_⟩
  rw [unplaced row mem] at placed
  cases placed

end

theorem Watched.Placed.winner (placed : watched.Placed)
    (sealed_ : envelope ∈ watched.room.centreOfficialResult) {player : OfficialResultPlayer} (listed : player ∈ envelope.players)
    (won : player.won = true) : player.playerId ∈ watched.race.finishes.map (·.playerId) := by
  obtain ⟨places, wins⟩ := placed.result envelope sealed_
  obtain ⟨order, perm, -, matched⟩ := places.ordered
  have first := matched (player.playerId, player.placement) (mem_map_of_mem listed)
  rw [(wins player listed).mp won] at first
  obtain ⟨index, found, -⟩ := map_eq_some_iff.mp first.symm
  obtain ⟨inside, same, -⟩ := List.findIdx?_eq_some_iff_getElem.mp found
  exact mem_map.mpr ⟨order[index], perm.subset (getElem_mem inside), eq_of_beq same⟩

/-- In every run of a room, the places that anyone is shown and those of the sealed results are those of the
race's own verified routes, exactly where each replay finds nobody in the roster who has left with a time. -/
theorem races_placed {ctx : GameContext} {input : CreateInput} {commands : List Command}
    (draws : EachStep Command.watch (fun command watched => command.DrawsNewId watched.room) ⟨createCentreRoom ctx input, {}⟩ commands) :
    Throughout Command.watch Watched.Placed ⟨createCentreRoom ctx input, {}⟩ commands ↔
      EachStep Command.watch (fun command watched => command.StartsClean watched.room) ⟨createCentreRoom ctx input, {}⟩ commands := by
  obtain ⟨recorded, timed⟩ := created_recorded ctx input
  exact throughout_iff_within (fun recorded placed draws => watch_placed recorded placed draws) recorded
    (recorded.placed_iff.mpr timed) draws

def annWins : List Command :=
  [.joinAs "Bob" 1, .by 0 2 1 (.start []), .by 0 3 2 (.arming true), .by 1 3 3 (.arming true),
    .by 0 10003 4 (.finishIn 5900), .by 1 10500 5 (.finishIn 6400), .readBy 1 19000]

def annLeaves : List Command :=
  annWins ++ [.by 0 20000 6 .leave, .by 1 21000 7 .replay, .by 1 22000 8 (.arming true), .by 1 40000 9 (.finishIn 13000), .readBy 1 49000]

def annLeavesLater : List Command :=
  annWins ++ [.by 1 20000 6 (.passHost 1), .by 0 20000 7 (.passHost 1), .by 1 21000 8 .replay, .by 0 21500 9 .leave,
    .by 1 22000 10 (.arming true), .by 1 40000 11 (.finishIn 13000), .readBy 1 49000]

theorem races_placed_annLeavesLater : Throughout Command.watch Watched.Placed ⟨annsRoom, {}⟩ annLeavesLater :=
  (races_placed (by decide +kernel)).mpr (by decide +kernel)

theorem leaver_wins : ¬ Throughout Command.watch Watched.Placed ⟨annsRoom, {}⟩ annLeaves := by
  intro placed
  let last := runFrom Command.watch ⟨annsRoom, {}⟩ annLeaves
  have wins : ∃ envelope ∈ last.room.centreOfficialResult, ∃ player ∈ envelope.players,
      player.won = true ∧ player.playerId ∉ last.race.finishes.map (·.playerId) := by decide +kernel
  obtain ⟨envelope, sealed_, player, listed, won, unverified⟩ := wins
  exact unverified (placed.last.winner sealed_ listed won)

end MilkAndHenny.Centre

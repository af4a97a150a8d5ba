import MilkAndHenny.GamePool.Rooms
import MilkAndHenny.Library.Machine
import MilkAndHenny.Library.Versions

/-! Transactions that overlap. An allocation and a release hold the lock of the run, and an operator its row,
which an allocation takes too; a sweep, and a game that lets players go, hold neither. -/

namespace MilkAndHenny.GamePool

open Library

/-- How many commits ago the statements of a transaction have read: those that end assignments, the two of a sweep that
count, and those of an allocation that look for its client and for rooms. -/
structure Reads where
  found : Nat := 0
  counted : Nat := 0
  emptied : Nat := 0
  placed : Nat := 0

/-- A sweep that has ended the assignments that are gone, and read how many stay. -/
structure Sweep where
  now : Int
  gone : List (Nat × String)
  counted : Pool
  emptied : Pool

namespace Sweep
variable (sweep : Sweep)

def takes (assignment : Assignment) : Bool := sweep.gone.contains (assignment.id, assignment.roomId)

def live (read : Pool) (roomId : String) : Nat :=
  read.assignments.countP fun assignment => assignment.active && assignment.roomId == roomId && !sweep.takes assignment

def recounts (room : GamePoolRoom) : Bool :=
  room.status != .closed && sweep.live sweep.counted room.roomId != 0 && room.playerCount != sweep.live sweep.counted room.roomId

def empties (room : GamePoolRoom) : Bool := room.status != .closed && sweep.live sweep.emptied room.roomId == 0

/-- The state with the writes of the sweep. -/
def applyTo (pool : Pool) : Pool :=
  let recounted := update pool.rooms (reached (·.roomId) sweep.counted.rooms sweep.recounts) fun room =>
    { room with playerCount := sweep.live sweep.counted room.roomId }
  { pool with
    assignments := update pool.assignments sweep.takes (ended .sessionEnded sweep.now)
    rooms := update recounted (reached (·.roomId) sweep.emptied.rooms sweep.empties) fun room =>
      { room with status := .closed, playerCount := 0 } }

end Sweep

namespace Pool
variable (pool : Pool)

def sweep (now : Int) (counted emptied : Pool) : Sweep :=
  { now, gone := (pool.assignments.filter (stale now)).map fun assignment => (assignment.id, assignment.roomId), counted, emptied }

/-- `for update`, in the order that the rooms had when the statement began. -/
def openRoomsReading (read : Pool) : List GamePoolRoom :=
  read.openRooms.filterMap fun seen => pool.rooms.find? fun room => room.roomId == seen.roomId && room.status == .opened

def candidatesReading (read : Pool) (input : AssignGamePoolRoomInput) : List GamePoolRoom :=
  match input.choice with
  | .new => []
  | .auto => (pool.openRoomsReading read).filter fun room =>
      some room.roomId != read.excludedRoom input && room.playerCount < pool.run.targetSize
  | .room roomId => (pool.openRoomsReading read).filter fun room =>
      room.roomId == roomId && some room.roomId != read.excludedRoom input && room.playerCount < pool.run.targetSize

def assignReading (counted emptied placed : Pool) (input : AssignGamePoolRoomInput) : Option Pool :=
  if !pool.accepting input.now then none
  else
    let sweep := pool.sweep input.now counted emptied
    let swept := sweep.applyTo pool
    let read := sweep.applyTo placed
    if (read.activeOf input.clientId).isSome && !input.moveExisting then if input.receipt then some swept else none
    else
      match tryRooms input swept (swept.candidatesReading read input) with
      | none => none
      | some (pool, true) => some pool
      | some (pool, false) => pool.createRoom input

def endPlayersReading (found : Pool) (closes : Bool) (status : AssignmentStatus) (roomId : String) (players : String → Bool) (now : Int) : Pool :=
  let leaving := reached (·.id) found.assignments fun assignment =>
    assignment.roomId == roomId && players assignment.playerId && assignment.active
  { pool with
    assignments := update pool.assignments leaving (ended status now)
    rooms := (pool.assignments.filter leaving).foldl (fun rooms assignment => releaseRoom closes rooms assignment.roomId) pool.rooms }

end Pool

def Action.locks : Action → Bool
  | .assign _ | .release .. | .closeRoom _ | .configure _ => true
  | .left .. | .removed .. | .seen .. | .expire _ => false

/-- `free`: how many transactions have committed since one that locks. `excused`: the rooms that have been closed because
their games refused a join or an operator closed them. -/
structure Night where
  versions : Versions Pool
  free : Nat := 0
  excused : List String := []

namespace Night
variable (night : Night)

def pool : Pool := night.versions.current

/-- What an allocation that has the lock may have read. -/
def locked (commits : Nat) : Pool := night.versions.ago (min commits night.free)

/-- What a sweep that commits now has read. -/
def sweep (now : Int) (reads : Reads) : Sweep :=
  night.pool.sweep now (night.versions.ago reads.counted) (night.versions.ago reads.emptied)

def assigned (input : AssignGamePoolRoomInput) (reads : Reads) : Option Pool :=
  night.pool.assignReading (night.versions.ago reads.counted) (night.versions.ago reads.emptied) (night.locked reads.placed) input

def committed (action : Action) (reads : Reads) : Pool :=
  match action with
  | .assign input => (night.assigned input reads).getD night.pool
  | .expire now => (night.sweep now reads).applyTo night.pool
  | .left roomId playerId now =>
    night.pool.endPlayersReading (night.versions.ago reads.found) false .left roomId (· == playerId) now
  | .removed roomId playerIds now =>
    night.pool.endPlayersReading (night.versions.ago reads.found) true .removed roomId
      (fun playerId => playerIds.contains playerId && playerId != "") now
  | action => night.pool.apply action

end Night

end MilkAndHenny.GamePool

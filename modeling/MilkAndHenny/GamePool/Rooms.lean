import MilkAndHenny.Library.Table

/-! The rooms of one game-night run and who is assigned to them. A transaction takes effect at one moment; times are milliseconds. -/

namespace MilkAndHenny.GamePool

open Library

inductive GamePoolRoomStatus
  | opened | started | closed
  deriving DecidableEq

structure GamePoolRoom where
  roomId : String
  status : GamePoolRoomStatus
  playerCount : Nat
  capacity : Nat
  createdAt : Int
  deriving DecidableEq

inductive AssignmentStatus
  | active | left | removed | sessionEnded
  deriving DecidableEq

def AssignmentStatus.text : AssignmentStatus → String
  | .active => "active"
  | .left => "left"
  | .removed => "removed"
  | .sessionEnded => "session_ended"

/-- A row of `game_pool_assignments`. -/
structure Assignment where
  id : Nat
  roomId : String
  clientId : String
  playerId : String
  displayName : String
  status : AssignmentStatus
  lastSeenAt : Int
  endedAt : Option Int

inductive GamePoolRunStatus
  | opened | paused | closed
  deriving DecidableEq

structure GamePoolRun where
  status : GamePoolRunStatus
  closesAt : Option Int
  allowNewRooms : Bool
  capacity : Nat
  targetSize : Nat
  sized : 2 ≤ targetSize ∧ targetSize ≤ 16

structure Pool where
  run : GamePoolRun
  rooms : List GamePoolRoom
  assignments : List Assignment

inductive Choice
  | auto | new
  | room (roomId : String)
  deriving DecidableEq

/-- How a game answers somebody who wants to join one of its rooms; a room without credentials is refused as unavailable. -/
inductive JoinAnswer
  | joined (playerId : String)
  | refused (code : String)
  | failed

/-- An assignment that no stored receipt has answered beforehand. `receipt`: one turns up under the lock. `created`: the game's new room and its player,
where one can be made. -/
structure AssignGamePoolRoomInput where
  clientId : String
  name : String
  choice : Choice
  moveExisting : Bool
  receipt : Bool
  join : String → JoinAnswer
  created : Option (String × String)
  now : Int

def hours (count : Int) : Int := count * 60 * 60 * 1000

def Assignment.active (assignment : Assignment) : Bool := assignment.status == .active

/-- `6 hours` without a sign of life. -/
def stale (now : Int) (assignment : Assignment) : Bool := assignment.active && assignment.lastSeenAt < now - hours 6

/-- Refusals after which the next room is tried. -/
def passesOn (code : String) : Bool := ["game_started", "room_full", "room_unavailable", "invite_expired"].contains code

def ended (status : AssignmentStatus) (now : Int) (assignment : Assignment) : Assignment :=
  { assignment with status, endedAt := some now, displayName := status.text }

def activeIn (assignments : List Assignment) (roomId : String) : Nat :=
  assignments.countP fun assignment => assignment.active && assignment.roomId == roomId

namespace Pool

variable (pool : Pool)

def activeOf (clientId : String) : Option Assignment := pool.assignments.find? fun assignment => assignment.clientId == clientId && assignment.active

def expireStaleGamePoolAssignments (now : Int) : Pool :=
  let assignments := update pool.assignments (stale now) (ended .sessionEnded now)
  let recounted := update pool.rooms
    (fun room => room.status != .closed && activeIn assignments room.roomId != 0 && room.playerCount != activeIn assignments room.roomId)
    fun room => { room with playerCount := activeIn assignments room.roomId }
  let rooms := update recounted (fun room => room.status != .closed && activeIn assignments room.roomId == 0)
    fun room => { room with status := .closed, playerCount := 0 }
  { pool with rooms, assignments }

/-- One player less; where `closes`, the last one to go closes the room. -/
def releaseRoom (closes : Bool) (rooms : List GamePoolRoom) (roomId : String) : List GamePoolRoom :=
  update rooms (·.roomId == roomId) fun room =>
    { room with playerCount := room.playerCount - 1, status := if closes && room.playerCount ≤ 1 then .closed else room.status }

def leaveExistingAssignment (clientId : String) (now : Int) : Pool :=
  let leaving (assignment : Assignment) : Bool := assignment.clientId == clientId && assignment.active
  { pool with
    assignments := update pool.assignments leaving (ended .left now)
    rooms := ((pool.assignments.find? leaving).map (·.roomId)).elim pool.rooms (releaseRoom true pool.rooms) }

def setStatus (roomId : String) (status : GamePoolRoomStatus) : Pool :=
  { pool with rooms := update pool.rooms (·.roomId == roomId) fun room => { room with status } }

variable (input : AssignGamePoolRoomInput)

def newAssignment (roomId playerId : String) : Assignment where
  id := pool.assignments.length
  roomId := roomId
  clientId := input.clientId
  playerId := playerId
  displayName := input.name
  status := .active
  lastSeenAt := input.now
  endedAt := none

def insertAssignment (roomId playerId : String) : Option Pool :=
  if (pool.activeOf input.clientId).isSome then none
  else some { pool with assignments := pool.assignments ++ [pool.newAssignment input roomId playerId] }

def releaseExisting : Pool :=
  if input.moveExisting then pool.leaveExistingAssignment input.clientId input.now else pool

def admitPlayer (roomId playerId : String) : Option Pool :=
  let pool := pool.releaseExisting input
  let counted := { pool with rooms := update pool.rooms (·.roomId == roomId) fun room => { room with playerCount := room.playerCount + 1 } }
  counted.insertAssignment input roomId playerId

/-- `none`: the transaction fails. The flag says whether a room has been found. -/
def tryRooms (input : AssignGamePoolRoomInput) : Pool → List GamePoolRoom → Option (Pool × Bool)
  | pool, [] => some (pool, false)
  | pool, room :: rooms =>
    match input.join room.roomId with
    | .joined playerId => (pool.admitPlayer input room.roomId playerId).map (·, true)
    | .refused code =>
      if passesOn code then tryRooms input (pool.setStatus room.roomId (if code == "game_started" then .started else .closed)) rooms else none
    | .failed => none

def createRoom : Option Pool :=
  match input.choice, input.created with
  | .room _, _ => none
  | _, none => none
  | choice, some (roomId, playerId) =>
    if choice = .new ∧ !pool.run.allowNewRooms then none
    else
      let pool := pool.releaseExisting input
      if pool.rooms.any (·.roomId == roomId) then none
      else
        let room := { roomId, status := .opened, playerCount := 1, capacity := pool.run.capacity, createdAt := input.now }
        { pool with rooms := pool.rooms ++ [room] }.insertAssignment input roomId playerId

def accepting (now : Int) : Bool := pool.run.status == .opened && pool.run.closesAt.all (now < ·)

def removedRoom (clientId : String) : Option String :=
  ((orderBy (fun row other => (other.endedAt.map fun theirs => row.endedAt.any (theirs ≤ ·)).getD true)
    (pool.assignments.filter fun assignment => assignment.clientId == clientId && assignment.status == .removed)).head?).map (·.roomId)

def existingRoom (clientId : String) : Option String := (pool.activeOf clientId).map (·.roomId)

def excludedRoom : Option String :=
  match input.choice with
  | .room roomId =>
    if pool.existingRoom input.clientId = some roomId then pool.removedRoom input.clientId
    else (pool.existingRoom input.clientId).or (pool.removedRoom input.clientId)
  | _ => (pool.existingRoom input.clientId).or (pool.removedRoom input.clientId)

def openRooms : List GamePoolRoom :=
  orderBy (fun room other => room.playerCount > other.playerCount || room.playerCount == other.playerCount && room.createdAt ≤ other.createdAt)
    (pool.rooms.filter (·.status == .opened))

def candidates : List GamePoolRoom :=
  match input.choice with
  | .new => []
  | .auto => pool.openRooms.filter fun room => some room.roomId != pool.excludedRoom input && room.playerCount < pool.run.targetSize
  | .room roomId =>
    pool.openRooms.filter fun room =>
      room.roomId == roomId && some room.roomId != pool.excludedRoom input && room.playerCount < pool.run.targetSize

/-- `none`: the transaction fails and nothing of it stays. -/
def assignGamePoolRoomState : Option Pool :=
  if !pool.accepting input.now then none
  else
    let pool := pool.expireStaleGamePoolAssignments input.now
    if (pool.activeOf input.clientId).isSome && !input.moveExisting then if input.receipt then some pool else none
    else
      match tryRooms input pool (pool.candidates input) with
      | none => none
      | some (pool, true) => some pool
      | some (pool, false) => pool.createRoom input

def releaseGamePoolAssignmentState (clientId : String) (now : Int) : Pool := pool.leaveExistingAssignment clientId now

def endPlayers (closes : Bool) (status : AssignmentStatus) (roomId : String) (players : String → Bool) (now : Int) : Pool :=
  let leaving (assignment : Assignment) : Bool := assignment.roomId == roomId && players assignment.playerId && assignment.active
  { pool with
    assignments := update pool.assignments leaving (ended status now)
    rooms := (pool.assignments.filter leaving).foldl (fun rooms assignment => releaseRoom closes rooms assignment.roomId) pool.rooms }

def markGamePoolPlayerLeft (roomId playerId : String) (now : Int) : Pool := pool.endPlayers false .left roomId (· == playerId) now

def markGamePoolPlayersRemoved (roomId : String) (playerIds : List String) (now : Int) : Pool :=
  pool.endPlayers true .removed roomId (fun playerId => playerIds.contains playerId && playerId != "") now

def markGamePoolPlayerSeen (roomId playerId : String) (now : Int) : Pool :=
  { pool with
    assignments := update pool.assignments
      (fun assignment => assignment.roomId == roomId && assignment.playerId == playerId && assignment.active && assignment.lastSeenAt < now - 30 * 1000)
      fun assignment => { assignment with lastSeenAt := now } }

end Pool

/-- `configure`: an operator changes what the run allows. -/
inductive Action
  | assign (input : AssignGamePoolRoomInput)
  | release (clientId : String) (now : Int)
  | left (roomId playerId : String) (now : Int)
  | removed (roomId : String) (playerIds : List String) (now : Int)
  | seen (roomId playerId : String) (now : Int)
  | expire (now : Int)
  | closeRoom (roomId : String)
  | configure (run : GamePoolRun)

def Pool.apply (pool : Pool) : Action → Pool
  | .assign input => (pool.assignGamePoolRoomState input).getD pool
  | .release clientId now => pool.releaseGamePoolAssignmentState clientId now
  | .left roomId playerId now => pool.markGamePoolPlayerLeft roomId playerId now
  | .removed roomId playerIds now => pool.markGamePoolPlayersRemoved roomId playerIds now
  | .seen roomId playerId now => pool.markGamePoolPlayerSeen roomId playerId now
  | .expire now => pool.expireStaleGamePoolAssignments now
  | .closeRoom roomId => pool.setStatus roomId .closed
  | .configure run => { pool with run }

end MilkAndHenny.GamePool

import MilkAndHenny.Door.Queue

/-! Checkpoints: stations where a ticket draws down a counted allowance. A scan reads the checkpoint and
the ticket, each in a statement of its own, and then draws in one guarded transaction. -/

namespace MilkAndHenny.Checkpoints

open Library Door

/-- Its name and its position are left out. Allowances are by ticket type. -/
structure CheckpointRecord where
  eventSlug : String
  id : String
  defaultAllowance : Nat
  allowances : List (String × Nat)
  multiScan : Bool

inductive TicketStatus
  | valid | void | refunded
  deriving DecidableEq

structure Ticket where
  id : String
  accessReference : Option String
  eventSlug : String
  ticketTypeId : String
  status : TicketStatus
  holderName : String
  orderId : String

structure Usage where
  eventSlug : String
  checkpointId : String
  ticketId : String
  used : Nat
  updatedAt : Int
  lastUsedBy : Option String

structure Database where
  checkpoints : List CheckpointRecord
  tickets : List Ticket
  usage : List Usage

def CheckpointRecord.key (checkpoint : CheckpointRecord) : String × String := (checkpoint.eventSlug, checkpoint.id)

def Ticket.reference (ticket : Ticket) : String := ticket.accessReference.getD ticket.id

def Usage.drawDown (units : Nat) (scannedBy : Option String) (now : Int) (row : Usage) : Usage :=
  { row with used := row.used + units, updatedAt := now, lastUsedBy := scannedBy }

/-- `greatest(0, used - units)`. -/
def Usage.putBack (units : Nat) (now : Int) (row : Usage) : Usage := { row with used := row.used - units, updatedAt := now }

def Usage.key (row : Usage) : String × String × String := (row.eventSlug, row.checkpointId, row.ticketId)

def checkpointAllowanceFor (checkpoint : CheckpointRecord) (ticketTypeId : String) : Nat :=
  (checkpoint.allowances.lookup ticketTypeId).getD checkpoint.defaultAllowance

/-- Words of small letters and digits with single hyphens between them. -/
def slugLetters (fresh : Bool) : List Char → Bool
  | [] => !fresh
  | letter :: letters =>
    if letter = '-' then !fresh && slugLetters true letters
    else (letter.isDigit || ('a' ≤ letter && letter ≤ 'z')) && slugLetters false letters

def isValidEventSlug (slug : String) : Bool := slugLetters true slug.toList && 2 ≤ slug.toList.length && slug.toList.length ≤ 80

def isValidCheckpointId (value : String) : Bool := slugLetters true value.toList && 2 ≤ value.toList.length && value.toList.length ≤ 40

/-- A number that a caller asks for, which need not be whole or finite. -/
inductive Amount
  | finite (value : Rat)
  | notFinite

/-- `Math.round`, where the outcome is finite. -/
def Amount.rounded : Amount → Option Int
  | .finite value => some (value + 1 / 2).floor
  | .notFinite => none

structure CheckpointTicketView where
  ticketId : String
  holderName : String
  allowance : Nat
  used : Nat

structure CheckpointGroupView where
  otherTickets : Nat
  othersLeft : Nat

/-- `failed` is an exception of the database. -/
inductive CheckpointScanOutcome
  | consumed (ticket : CheckpointTicketView) (consumed : Nat) (group : Option CheckpointGroupView)
  | exhausted (ticket : CheckpointTicketView) (lastUsedAt : Option Int) (group : Option CheckpointGroupView)
  | notIncluded (ticket : CheckpointTicketView)
  | overRemaining (ticket : CheckpointTicketView) (requested : Nat)
  | void | wrongEvent | invalid | notFound | unknownCheckpoint
  | failed

/-- `scanned` is the reference that is read: of a payload whose signature verifies, or typed in. -/
structure CheckpointScanInput where
  scanned : Option String
  eventSlug : String
  checkpointId : String
  consume : Option Amount
  scannedBy : Option String

structure UndoInput where
  eventSlug : String
  checkpointId : String
  ticketId : String
  units : Option Amount

/-- How many units are to be put back, unless the request is refused. -/
def UndoInput.amount (input : UndoInput) : Option Nat :=
  if !isValidEventSlug input.eventSlug || !isValidCheckpointId input.checkpointId || !isTicketReference input.ticketId then none
  else
    match (input.units.getD (.finite 1)).rounded with
    | none => none
    | some units => if units < 1 ∨ 100 < units then none else some units.toNat

variable (db : Database) (input : CheckpointScanInput)

namespace Database

def getCheckpoint (eventSlug checkpointId : String) : Option CheckpointRecord :=
  if !isValidEventSlug eventSlug || !isValidCheckpointId checkpointId then none
  else db.checkpoints.find? (·.key == (eventSlug, checkpointId))

def ticketByReference (reference : String) : Option Ticket := db.tickets.find? (·.reference == reference)

def usageOf (key : String × String × String) : Option Usage := db.usage.find? (·.key == key)

def used (db : Database) (key : String × String × String) : Nat := ((db.usageOf key).map Usage.used).getD 0

def groupView (checkpoint : CheckpointRecord) (input : CheckpointScanInput) (ticket : Ticket) : Option CheckpointGroupView :=
  let siblings := db.tickets.filter fun other => other.orderId == ticket.orderId && other.status == .valid && other.id != ticket.id
  if siblings.isEmpty then none
  else
    let left (sibling : Ticket) :=
      checkpointAllowanceFor checkpoint sibling.ticketTypeId - db.used (input.eventSlug, input.checkpointId, sibling.id)
    some { otherTickets := siblings.length, othersLeft := (siblings.map left).sum }

/-- The guarded upsert. It fails where a new row has no checkpoint or no ticket, and returns the use if it draws. -/
def draw (ticketId : String) (consume allowance : Nat) (now : Int) :
    Except Unit (Option Nat × Database) :=
  match db.usageOf (input.eventSlug, input.checkpointId, ticketId) with
  | none =>
    if db.checkpoints.any (·.key == (input.eventSlug, input.checkpointId)) && db.tickets.any (·.id == ticketId) then
      .ok (some consume, { db with usage := db.usage ++ [{
        eventSlug := input.eventSlug, checkpointId := input.checkpointId, ticketId, used := consume, updatedAt := now, lastUsedBy := input.scannedBy }] })
    else .error ()
  | some row =>
    if row.used + consume ≤ allowance then
      .ok (some (row.used + consume), { db with usage := update db.usage (·.key == row.key) (Usage.drawDown consume input.scannedBy now) })
    else .ok (none, db)

/-- `on delete cascade`. -/
def deleteCheckpoint (eventSlug checkpointId : String) : Database :=
  if !isValidEventSlug eventSlug || !isValidCheckpointId checkpointId then db
  else
    { db with
      checkpoints := db.checkpoints.filter (·.key ≠ (eventSlug, checkpointId))
      usage := db.usage.filter fun row => (row.eventSlug, row.checkpointId) ≠ (eventSlug, checkpointId) }

def markTicketStatus (ticketId : String) (status : TicketStatus) : Database :=
  { db with tickets := update db.tickets (·.id == ticketId) fun ticket => { ticket with status } }

def corrects (input : UndoInput) (row : Usage) : Bool :=
  row.eventSlug == input.eventSlug && row.checkpointId == input.checkpointId &&
    db.tickets.any fun ticket => ticket.id == row.ticketId && ticket.eventSlug == input.eventSlug && ticket.reference == input.ticketId

def undoCheckpointUse (input : UndoInput) (now : Int) : Option Nat × Database :=
  match input.amount with
  | none => (none, db)
  | some units =>
    let row := (db.usage.find? (db.corrects input)).map (Usage.putBack units now)
    (some ((row.map Usage.used).getD 0), { db with usage := update db.usage (db.corrects input) (Usage.putBack units now) })

end Database

/-- How far a scan has come: what it has read, and what it is to draw. -/
inductive Stage
  | parsed (input : CheckpointScanInput) (reference : String) (consume : Nat)
  | located (input : CheckpointScanInput) (reference : String) (consume : Nat) (checkpoint : CheckpointRecord)
  | admitted (input : CheckpointScanInput) (consume : Nat) (checkpoint : CheckpointRecord) (ticket : Ticket)
  | answered (outcome : CheckpointScanOutcome)

def parseScan : Stage :=
  match input.scanned with
  | none => .answered .invalid
  | some reference =>
    match (input.consume.getD (.finite 1)).rounded with
    | none => .answered .invalid
    | some consume => if consume < 0 ∨ 100 < consume then .answered .invalid else .parsed input reference consume.toNat

def readCheckpoint (reference : String) (consume : Nat) : Stage :=
  match db.getCheckpoint input.eventSlug input.checkpointId with
  | none => .answered .unknownCheckpoint
  | some checkpoint => .located input reference (if !checkpoint.multiScan && 1 < consume then 1 else consume) checkpoint

def ticketView (checkpoint : CheckpointRecord) (ticket : Ticket) (used : Nat) : CheckpointTicketView where
  ticketId := ticket.reference
  holderName := ticket.holderName
  allowance := checkpointAllowanceFor checkpoint ticket.ticketTypeId
  used := used

def readTicket (reference : String) (consume : Nat) (checkpoint : CheckpointRecord) : Stage :=
  match db.ticketByReference reference with
  | none => .answered .notFound
  | some ticket =>
    if ticket.eventSlug ≠ input.eventSlug then .answered .wrongEvent
    else if ticket.status ≠ .valid then .answered .void
    else if checkpointAllowanceFor checkpoint ticket.ticketTypeId = 0 then .answered (.notIncluded (ticketView checkpoint ticket 0))
    else .admitted input consume checkpoint ticket

/-- The last part of a scan: a read where there is nothing to draw or too much is asked for, and else the transaction. A
refused upsert has locked its row, so what the transaction reads after it is the row that refused. -/
def consumeAllowance (consume : Nat) (checkpoint : CheckpointRecord) (ticket : Ticket) (now : Int) :
    CheckpointScanOutcome × Database :=
  let allowance := checkpointAllowanceFor checkpoint ticket.ticketTypeId
  let used := db.used (input.eventSlug, input.checkpointId, ticket.id)
  if consume = 0 then (.consumed (ticketView checkpoint ticket used) 0 none, db)
  else if allowance < consume then (.overRemaining (ticketView checkpoint ticket used) consume, db)
  else
    match db.draw input ticket.id consume allowance now with
    | .error () => (.failed, db)
    | .ok (some drawn, db) => (.consumed (ticketView checkpoint ticket drawn) consume (db.groupView checkpoint input ticket), db)
    | .ok (none, db) =>
      if allowance ≤ used then
        (.exhausted (ticketView checkpoint ticket used) ((db.usageOf (input.eventSlug, input.checkpointId, ticket.id)).map Usage.updatedAt)
          (db.groupView checkpoint input ticket), db)
      else (.overRemaining (ticketView checkpoint ticket used) consume, db)

/-- The next statement of a scan. -/
def Stage.proceed (stage : Stage) (db : Database) (now : Int) : Stage × Database :=
  match stage with
  | .parsed input reference consume => (readCheckpoint db input reference consume, db)
  | .located input reference consume checkpoint => (readTicket db input reference consume checkpoint, db)
  | .admitted input consume checkpoint ticket =>
    let (outcome, db) := consumeAllowance db input consume checkpoint ticket now
    (.answered outcome, db)
  | .answered outcome => (.answered outcome, db)

end MilkAndHenny.Checkpoints

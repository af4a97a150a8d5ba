import MilkAndHenny.Library.Table

/-! The email outbox: a table of messages that workers claim, hand to the provider and settle. -/

namespace MilkAndHenny.Email

open Library

inductive EmailOutboxStatus
  | pending | processing | accepted | failed | cancelled
  deriving DecidableEq

inductive EmailKind
  | ticketIssued | ticketResend | ticketRefund | ticketExchange | ticketExchangePayment | attendeeAccess | ticketAssignment | ticketTransfer
  | ticketReturn | eventTeam | staffAccess | adminAccess | securityNotice | operationsAlert | operationsDigest | eventBroadcast | communication
  | communicationStage | communicationTest | waitlistConfirmation | waitlistAvailability | pitchWelcome | pitchPublished | pitchRecovery
  | pitchReminder
  deriving DecidableEq

inductive EmailSource
  | system | admin | selfService | scheduled | test
  deriving DecidableEq

structure EmailContext where
  orderId : Option String
  replayedFrom : Option String
  deriving DecidableEq

structure EmailMessage where
  recipient : String
  subject : String
  text : String
  html : Option String
  unsubscribeUrl : Option String
  deriving DecidableEq

structure QueueEmailOptions where
  kind : EmailKind
  source : Option EmailSource
  context : Option EmailContext
  notBefore : Option Int
  contentExpiresAt : Option Int

inductive SendEmailResult
  | ok (id : Option String)
  | error (status : Nat) (error : String) (suppressRecipient : Bool)

/-- A row of `email_outbox`; times are in milliseconds. -/
structure EmailRow where
  id : Nat
  idempotencyKey : String
  recipientHash : String
  kind : EmailKind
  source : EmailSource
  context : EmailContext
  message : Option EmailMessage
  status : EmailOutboxStatus
  attempts : Nat
  nextAttemptAt : Int
  lockedUntil : Option Int
  contentExpiresAt : Int
  cancelledAt : Option Int
  createdAt : Int
  providerMessageId : Option String
  providerStatus : Option Nat
  lastError : Option String
  deriving DecidableEq

structure Outbox where
  rows : List EmailRow
  suppressions : List String

/-- What the outbox has from elsewhere: the hash of a recipient however it is written, what the platform takes for a web address, and an
error's text without the recipient in it. -/
structure Services where
  hashEmailRecipient : String → String
  isWebUrl : String → Bool
  redacted : String → String → String

def claimLimit : Nat := 8

def lockSeconds : Int := 45

def adminResendCooldownMinutes : Int := 5

def emailQueueContentDays : Int := 7

def emailMaxDeliveryAttempts : Nat := 10

def seconds (count : Int) : Int := count * 1000

def days (count : Int) : Int := seconds (count * 86400)

/-- Only a stored address to unsubscribe at can make a stored message unreadable. -/
def parseMessage (services : Services) (message : EmailMessage) : Option EmailMessage :=
  if message.unsubscribeUrl.all services.isWebUrl then some message else none

def retryDelaySeconds (attempts : Nat) : Int :=
  let schedule : List Int := [60, 5 * 60, 15 * 60, 60 * 60, 4 * 60 * 60, 12 * 60 * 60, 24 * 60 * 60]
  (schedule[min (attempts - 1) (schedule.length - 1)]?).getD (24 * 60 * 60)

def isPermanentFailure (status : Nat) : Bool := status == 400 || status == 404 || status == 422

namespace Outbox

variable (outbox : Outbox)

def suppressed (recipientHash : String) : Bool := outbox.suppressions.contains recipientHash

def adminResendOrder (options : QueueEmailOptions) : Option String :=
  match options.source, options.context with
  | some .admin, some context =>
    if options.kind = .ticketResend ∨ options.kind = .ticketRefund ∧ context.replayedFrom.isSome then context.orderId else none
  | _, _ => none

def recentResend (options : QueueEmailOptions) (orderId : String) (now : Int) : Option EmailRow :=
  (orderBy (fun row other => other.createdAt ≤ row.createdAt) (outbox.rows.filter fun row =>
    row.kind == options.kind && row.source == .admin && row.context.orderId == some orderId &&
      [EmailOutboxStatus.pending, .processing, .accepted].contains row.status &&
      row.createdAt > now - seconds (adminResendCooldownMinutes * 60))).head?

/-- What queueing a message answers. -/
structure Queued where
  id : Nat
  status : EmailOutboxStatus
  deduplicated : Bool

def newRow (services : Services) (message : EmailMessage) (idempotencyKey : String) (options : QueueEmailOptions) (now : Int) : EmailRow where
  id := outbox.rows.length
  idempotencyKey := idempotencyKey
  recipientHash := services.hashEmailRecipient message.recipient
  kind := options.kind
  source := options.source.getD .system
  context := options.context.getD { orderId := none, replayedFrom := none }
  message := some message
  status := .pending
  attempts := 0
  nextAttemptAt := options.notBefore.getD now
  lockedUntil := none
  contentExpiresAt := options.contentExpiresAt.getD (max (options.notBefore.getD now) now + days emailQueueContentDays)
  cancelledAt := none
  createdAt := now
  providerMessageId := none
  providerStatus := none
  lastError := none

/-- `none` for a suppressed recipient. Fresh ids are the numbers in their order. -/
def insertEmail (services : Services) (message : EmailMessage) (idempotencyKey : String) (options : QueueEmailOptions) (now : Int) :
    Option Queued × Outbox :=
  match (adminResendOrder options).bind fun orderId => outbox.recentResend options orderId now with
  | some existing => (some { id := existing.id, status := existing.status, deduplicated := true }, outbox)
  | none =>
    if outbox.suppressed (services.hashEmailRecipient message.recipient) then (none, outbox)
    else
      match outbox.rows.find? (·.idempotencyKey == idempotencyKey) with
      | some existing => (some { id := existing.id, status := existing.status, deduplicated := true }, outbox)
      | none =>
        let row := outbox.newRow services message idempotencyKey options now
        (some { id := row.id, status := row.status, deduplicated := false }, { outbox with rows := outbox.rows ++ [row] })

/-- Free to be taken up: waiting, or with a lock that has run out. -/
def unlocked (now : Int) (row : EmailRow) : Bool := row.status == .pending || row.status == .processing && row.lockedUntil.any (· < now)

/-- Rows that other transactions hold are skipped. -/
def claimable (now : Int) (held : Nat → Bool) (row : EmailRow) : Bool :=
  unlocked now row && row.cancelledAt.isNone && row.nextAttemptAt ≤ now && row.attempts < emailMaxDeliveryAttempts &&
    row.contentExpiresAt > now && !outbox.suppressed row.recipientHash && !held row.id

/-- What a worker knows of the row that it has claimed. -/
structure EmailOutboxRow where
  id : Nat
  idempotencyKey : String
  message : Option EmailMessage
  attempts : Nat

def claimedRow (now : Int) (row : EmailRow) : EmailRow :=
  { row with status := .processing, attempts := row.attempts + 1, lockedUntil := some (now + seconds lockSeconds) }

def returning (row : EmailRow) : EmailOutboxRow :=
  { id := row.id, idempotencyKey := row.idempotencyKey, message := row.message, attempts := row.attempts }

def earlier (row other : EmailRow) : Bool :=
  row.nextAttemptAt < other.nextAttemptAt || row.nextAttemptAt == other.nextAttemptAt && row.createdAt ≤ other.createdAt

def claimEmailOutboxBatch (now : Int) (held : Nat → Bool) : List EmailOutboxRow × Outbox :=
  let ids := ((orderBy earlier (outbox.rows.filter (outbox.claimable now held))).take claimLimit).map (·.id)
  let rows := update outbox.rows (fun row => ids.contains row.id) (claimedRow now)
  ((rows.filter fun row => ids.contains row.id).map returning, { outbox with rows })

def failedRow (providerStatus : Nat) (lastError : String) (row : EmailRow) : EmailRow :=
  { row with status := .failed, message := none, lockedUntil := none, providerStatus := some providerStatus, lastError := some lastError }

def expireUndeliverableEmailMessages (now : Int) : Outbox :=
  { outbox with
    rows := outbox.rows.map fun row =>
      if unlocked now row &&
          (row.attempts ≥ emailMaxDeliveryAttempts || row.contentExpiresAt ≤ now || outbox.suppressed row.recipientHash) then
        failedRow (if outbox.suppressed row.recipientHash then 422 else 408)
          (if outbox.suppressed row.recipientHash then "Delivery stopped because the recipient is blocked after a delivery failure"
            else if row.attempts ≥ emailMaxDeliveryAttempts then "Delivery stopped after the retry limit"
            else "Delivery window expired before the provider accepted the message") row
      else row }

def owned (claimed : EmailOutboxRow) (row : EmailRow) : Bool :=
  row.id == claimed.id && row.status == .processing && row.attempts == claimed.attempts

def acceptedRow (id : Option String) (row : EmailRow) : EmailRow :=
  { row with status := .accepted, message := none, lockedUntil := none, providerMessageId := id, providerStatus := none, lastError := none }

def requeuedRow (status : Nat) (error : String) (attempts : Nat) (now : Int) (row : EmailRow) : EmailRow :=
  { row with
    status := .pending, lockedUntil := none, providerStatus := some status, lastError := some error
    nextAttemptAt := now + seconds (retryDelaySeconds attempts) }

/-- What an attempt leaves of the row that it owns. -/
def settledRow (services : Services) (claimed : EmailOutboxRow) (message : EmailMessage) (result : SendEmailResult) (now : Int) (row : EmailRow) : EmailRow :=
  match result with
  | .ok id => acceptedRow id row
  | .error status error _ =>
    let exhausted : Bool := claimed.attempts ≥ emailMaxDeliveryAttempts
    let safeError := services.redacted error message.recipient
    if isPermanentFailure status || exhausted then failedRow status (if exhausted then safeError ++ " (retry limit reached)" else safeError) row
    else requeuedRow status safeError claimed.attempts now row

def refuses : SendEmailResult → Bool
  | .ok _ => false
  | .error _ _ suppressRecipient => suppressRecipient

/-- The end of an attempt, once the provider has answered. -/
def finishDelivery (services : Services) (claimed : EmailOutboxRow) (message : EmailMessage) (result : SendEmailResult) (now : Int) : Outbox :=
  let rows := update outbox.rows (owned claimed) (settledRow services claimed message result now)
  if outbox.rows.any (owned claimed) && refuses result then
    { rows, suppressions := outbox.suppressions ++ [services.hashEmailRecipient message.recipient] }
  else { outbox with rows }

/-- The end of an attempt at a message that cannot be read. -/
def finishUnreadable (claimed : EmailOutboxRow) : Outbox :=
  { outbox with rows := update outbox.rows (owned claimed) (failedRow 500 "Stored email payload is invalid") }

def retryEmailNow (id : Nat) (now : Int) : Outbox :=
  { outbox with
    rows := update outbox.rows (fun row => row.id == id && row.status == .pending && row.message.isSome) fun row =>
      { row with nextAttemptAt := now, lastError := none } }

/-- Waiting messages are called off: one of them, those of a communication, or those that a new credential replaces. -/
def cancelQueuedEmails (which : EmailRow → Bool) (now : Int) : Outbox :=
  { outbox with
    rows := update outbox.rows (fun row => which row && row.status == .pending) fun row =>
      { row with status := .cancelled, message := none, cancelledAt := some now } }

end Outbox

structure Attempt where
  row : Outbox.EmailOutboxRow
  result : Option SendEmailResult

structure System where
  outbox : Outbox
  attempts : List Attempt

inductive Action
  | enqueue (message : EmailMessage) (idempotencyKey : String) (options : QueueEmailOptions) (now : Int)
  | claim (held : Nat → Bool) (now : Int)
  /-- The provider answers an attempt. -/
  | deliver (attempt : Nat) (result : SendEmailResult)
  | finish (attempt : Nat) (now : Int)
  | expire (now : Int)
  | suppress (recipientHash : String)
  | resolve (recipientHash : String)
  | retry (id : Nat) (now : Int)
  | cancel (which : EmailRow → Bool) (now : Int)

namespace System

variable (services : Services) (system : System)

def readable (attempt : Attempt) : Option EmailMessage := attempt.row.message.bind (parseMessage services)

def finish (index : Nat) (attempt : Attempt) (now : Int) : System :=
  match readable services attempt, attempt.result with
  | none, _ => { outbox := system.outbox.finishUnreadable attempt.row, attempts := system.attempts.eraseIdx index }
  | some message, some result =>
    { outbox := system.outbox.finishDelivery services attempt.row message result now, attempts := system.attempts.eraseIdx index }
  | some _, none => system

/-- A worker that stops is one whose attempt takes no further step. -/
def apply (action : Action) : System :=
  match action with
  | .enqueue message idempotencyKey options now => { system with outbox := (system.outbox.insertEmail services message idempotencyKey options now).2 }
  | .claim held now =>
    let (claimed, outbox) := system.outbox.claimEmailOutboxBatch now held
    { outbox, attempts := system.attempts ++ claimed.map fun row => { row, result := none } }
  | .deliver index result =>
    match system.attempts[index]? with
    | some attempt =>
      if (readable services attempt).isSome && attempt.result.isNone then
        { system with attempts := system.attempts.set index { attempt with result := some result } }
      else system
    | none => system
  | .finish index now =>
    match system.attempts[index]? with
    | some attempt => system.finish services index attempt now
    | none => system
  | .expire now => { system with outbox := system.outbox.expireUndeliverableEmailMessages now }
  | .suppress recipientHash => { system with outbox := { system.outbox with suppressions := system.outbox.suppressions ++ [recipientHash] } }
  | .resolve recipientHash => { system with outbox := { system.outbox with suppressions := system.outbox.suppressions.filter (· != recipientHash) } }
  | .retry id now => { system with outbox := system.outbox.retryEmailNow id now }
  | .cancel which now => { system with outbox := system.outbox.cancelQueuedEmails which now }

end System

end MilkAndHenny.Email

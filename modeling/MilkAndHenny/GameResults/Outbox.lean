import MilkAndHenny.Library.Merge

/-! The outbox of official game results: keys in Redis that run out, or rows in Postgres that drains claim. Times are milliseconds. -/

namespace MilkAndHenny.GameResults

open Library

/-- `payload`: all that a result says besides, written as text. -/
structure OfficialGameResultEnvelope where
  channelId : String
  resultId : String
  revision : Nat
  payload : String
  payloadHash : String

namespace OfficialGameResultEnvelope

def key (envelope : OfficialGameResultEnvelope) : String × String × Nat := (envelope.channelId, envelope.resultId, envelope.revision)

def identity (envelope : OfficialGameResultEnvelope) : (String × String × Nat) × String := (envelope.key, envelope.payloadHash)

end OfficialGameResultEnvelope

def outboxPrefix : String := "things:official-result-outbox"

def outboxKey (envelope : OfficialGameResultEnvelope) : String :=
  outboxPrefix ++ ":" ++ envelope.channelId ++ ":" ++ envelope.resultId ++ ":" ++ toString envelope.revision

/-- How many a drain selects. -/
def bounded (limit : Int) : Nat := (max 1 (min 200 limit)).toNat

/-- What a drain is at with one item. -/
inductive Stage (α : Type)
  | ready
  | offering (offered : α)
  | answered (offered : α) (consumed : Bool)

/-- A drain under way: what it selected, what it has not come to yet, and what it will return. -/
structure Drain (ι α : Type) where
  selected : List ι
  left : List ι
  stage : Stage α
  delivered : Nat

inductive Turn
  | look
  | answer (answer : Option Bool)
  | settle

namespace Drain

variable {ι α : Type} (drain : Drain ι α)

def start (selected : List ι) : Drain ι α := { selected, left := selected, stage := .ready, delivered := 0 }

def look (found : ι → Option α) : Drain ι α :=
  match drain.stage, drain.left with
  | .ready, item :: left => { drain with left, stage := (found item).elim .ready .offering }
  | _, _ => drain

def answer (answer : Option Bool) : Drain ι α :=
  match drain.stage with
  | .offering offered => { drain with stage := .answered offered (answer == some true) }
  | _ => drain

def settle (delivered : Bool) : Drain ι α :=
  match drain.stage with
  | .answered _ _ => { drain with stage := .ready, delivered := drain.delivered + delivered.toNat }
  | _ => drain

end Drain

/-! ### Redis -/

/-- A value under its key, and when it runs out. -/
structure Entry where
  key : String
  envelope : OfficialGameResultEnvelope
  expiresAt : Int

structure RedisOutbox where
  now : Int
  entries : List Entry
  drains : List (Drain String (String × OfficialGameResultEnvelope))

inductive RedisAction
  | persist (envelopes : List OfficialGameResultEnvelope) (ttlSeconds : Nat)
  | wait (now : Int)
  /-- A drain begins with the keys that its scan came upon. -/
  | scan (keys : List String) (limit : Int)
  | turn (drain : Nat) (turn : Turn)
  | failDelete (drain : Nat)

namespace RedisOutbox

variable (outbox : RedisOutbox)

def entry (key : String) : Option Entry := outbox.entries.find? (Entry.key · == key)

/-- A key is gone once its time has passed. -/
def read (key : String) : Option OfficialGameResultEnvelope :=
  ((outbox.entry key).filter fun entry => outbox.now ≤ entry.expiresAt).map (·.envelope)

def set (ttlSeconds : Nat) (entries : List Entry) (envelope : OfficialGameResultEnvelope) : List Entry :=
  setKey Entry.key entries { key := outboxKey envelope, envelope, expiresAt := outbox.now + ttlSeconds * 1000 }

def persistRoomWithOfficialResults (envelopes : List OfficialGameResultEnvelope) (ttlSeconds : Nat) : RedisOutbox :=
  { outbox with entries := envelopes.foldl (outbox.set ttlSeconds) outbox.entries }

def del (key : String) : RedisOutbox := { outbox with entries := outbox.entries.filter (Entry.key · != key) }

def deletes (drain : Drain String (String × OfficialGameResultEnvelope)) : Option String :=
  match drain.stage with
  | .answered (key, _) true => some key
  | _ => none

def apply (action : RedisAction) : RedisOutbox :=
  match action with
  | .persist envelopes ttlSeconds => outbox.persistRoomWithOfficialResults envelopes ttlSeconds
  | .wait now => { outbox with now := max outbox.now now }
  | .scan keys limit => { outbox with drains := outbox.drains ++ [.start (keys.take (bounded limit))] }
  | .turn index turn =>
    match outbox.drains[index]? with
    | none => outbox
    | some drain =>
      match turn with
      | .look => { outbox with drains := outbox.drains.set index (drain.look fun key => (outbox.read key).map (key, ·)) }
      | .answer answer => { outbox with drains := outbox.drains.set index (drain.answer answer) }
      | .settle =>
        let outbox := { outbox with drains := outbox.drains.set index (drain.settle (deletes drain).isSome) }
        (deletes drain).elim outbox outbox.del
  | .failDelete index =>
    match outbox.drains[index]? with
    | none => outbox
    | some drain => { outbox with drains := outbox.drains.set index (drain.settle false) }

end RedisOutbox

/-! ### Postgres -/

inductive ResultStatus
  | pending | delivered
  deriving DecidableEq

/-- A row of `multiplayer_game_result_outbox`. -/
structure ResultRow where
  channelId : String
  resultId : String
  revision : Nat
  payloadHash : String
  envelope : OfficialGameResultEnvelope
  status : ResultStatus
  createdAt : Int
  deliveredAt : Option Int
  claimToken : Option Nat
  claimUntil : Option Int
  nextAttemptAt : Int
  attemptCount : Nat

def ResultRow.key (row : ResultRow) : String × String × Nat := (row.channelId, row.resultId, row.revision)

structure ClaimedResult where
  channelId : String
  resultId : String
  revision : Nat
  envelope : OfficialGameResultEnvelope
  claimToken : Nat

def ClaimedResult.key (item : ClaimedResult) : String × String × Nat := (item.channelId, item.resultId, item.revision)

def claimSeconds : Int := 300

/-- Claim tokens are fresh: they are the numbers of the drains. -/
structure PostgresOutbox where
  now : Int
  rows : List ResultRow
  drains : List (Drain ClaimedResult ClaimedResult)

/-- `textLe`: the database's collation. A drain whose statement fails takes no further turn. -/
inductive PostgresAction
  | transition (results : List OfficialGameResultEnvelope)
  | wait (now : Int)
  | claim (textLe : String → String → Bool) (held : String × String × Nat → Bool) (limit : Int)
  | turn (drain : Nat) (turn : Turn)

namespace PostgresOutbox

variable (outbox : PostgresOutbox)

def newRow (now : Int) (envelope : OfficialGameResultEnvelope) : ResultRow where
  channelId := envelope.channelId
  resultId := envelope.resultId
  revision := envelope.revision
  payloadHash := envelope.payloadHash
  envelope := envelope
  status := .pending
  createdAt := now
  deliveredAt := none
  claimToken := none
  claimUntil := none
  nextAttemptAt := now
  attemptCount := 0

/-- The column is `revision integer not null check (revision > 0)`. -/
def insertResult (now : Int) (rows : List ResultRow) (envelope : OfficialGameResultEnvelope) : Except String (List ResultRow) :=
  if envelope.revision = 0 then .error "violates check constraint"
  else if 2147483647 < envelope.revision then .error "integer out of range"
  else
    match rows.find? (ResultRow.key · == envelope.key) with
    | none => .ok (rows ++ [newRow now envelope])
    | some existing => if existing.payloadHash ≠ envelope.payloadHash then .error "Conflicting official game result revision" else .ok rows

/-- An error takes the whole transaction back. -/
def insertResults (results : List OfficialGameResultEnvelope) : Except String (List ResultRow) :=
  results.foldlM (insertResult outbox.now) outbox.rows

/-- Rows that other transactions hold are skipped. -/
def claimable (held : String × String × Nat → Bool) (row : ResultRow) : Bool :=
  row.status == .pending && row.nextAttemptAt ≤ outbox.now && row.claimUntil.all (· ≤ outbox.now) && !held row.key

def earlier (textLe : String → String → Bool) (row other : ResultRow) : Bool :=
  if row.nextAttemptAt ≠ other.nextAttemptAt then row.nextAttemptAt ≤ other.nextAttemptAt
  else if row.createdAt ≠ other.createdAt then row.createdAt ≤ other.createdAt
  else if row.channelId ≠ other.channelId then textLe row.channelId other.channelId
  else if row.resultId ≠ other.resultId then textLe row.resultId other.resultId
  else row.revision ≤ other.revision

def claimedKeys (textLe : String → String → Bool) (held : String × String × Nat → Bool) (limit : Int) : List (String × String × Nat) :=
  ((orderBy (earlier textLe) (outbox.rows.filter (outbox.claimable held))).take (bounded limit)).map (·.key)

def claimedRow (claimToken : Nat) (row : ResultRow) : ResultRow :=
  { row with claimToken := some claimToken, claimUntil := some (outbox.now + claimSeconds * 1000), attemptCount := row.attemptCount + 1 }

def returning (claimToken : Nat) (row : ResultRow) : ClaimedResult :=
  { channelId := row.channelId, resultId := row.resultId, revision := row.revision, envelope := row.envelope, claimToken }

def claimPostgresOfficialResults (textLe : String → String → Bool) (held : String × String × Nat → Bool) (limit : Int) : PostgresOutbox :=
  let keys := outbox.claimedKeys textLe held limit
  let claimToken := outbox.drains.length
  { outbox with
    rows := update outbox.rows (fun row => keys.contains row.key) (outbox.claimedRow claimToken)
    drains := outbox.drains ++ [.start ((outbox.rows.filter fun row => keys.contains row.key).map (returning claimToken))] }

def owned (item : ClaimedResult) (row : ResultRow) : Bool :=
  row.key == item.key && row.status == .pending && row.claimToken == some item.claimToken

def finishedRow (delivered : Bool) (row : ResultRow) : ResultRow :=
  { row with
    status := if delivered then .delivered else .pending
    deliveredAt := if delivered then some outbox.now else none
    claimToken := none
    claimUntil := none
    nextAttemptAt := if delivered then row.nextAttemptAt else outbox.now + (min row.attemptCount 6 * 10 : Nat) * 1000 }

def finishPostgresOfficialResult (item : ClaimedResult) (delivered : Bool) : Bool × PostgresOutbox :=
  (outbox.rows.any (owned item), { outbox with rows := update outbox.rows (owned item) (outbox.finishedRow delivered) })

def apply (action : PostgresAction) : PostgresOutbox :=
  match action with
  | .transition results =>
    match outbox.insertResults results with
    | .ok rows => { outbox with rows }
    | .error _ => outbox
  | .wait now => { outbox with now := max outbox.now now }
  | .claim textLe held limit => outbox.claimPostgresOfficialResults textLe held limit
  | .turn index turn =>
    match outbox.drains[index]? with
    | none => outbox
    | some drain =>
      match turn with
      | .look => { outbox with drains := outbox.drains.set index (drain.look some) }
      | .answer answer => { outbox with drains := outbox.drains.set index (drain.answer answer) }
      | .settle =>
        match drain.stage with
        | .answered item consumed =>
          let (finished, outbox) := outbox.finishPostgresOfficialResult item consumed
          { outbox with drains := outbox.drains.set index (drain.settle (finished && consumed)) }
        | _ => outbox

end PostgresOutbox

end MilkAndHenny.GameResults

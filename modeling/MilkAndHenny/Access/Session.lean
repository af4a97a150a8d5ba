import MilkAndHenny.Library.Pool
import MilkAndHenny.Library.Table

/-! Attendee sessions and the statements of their store. The store is Postgres, Redis or,
in development, the memory of the process; each statement takes effect as a whole. -/

namespace MilkAndHenny.Access
open Library

structure PersonId where
  key : Nat
  uuidV7 : Bool := true
deriving DecidableEq

inductive AuthenticationMethod where
  | email | passkey
deriving DecidableEq

inductive Factor where
  | email | passkey | totp | recoveryCode
deriving DecidableEq

def AuthenticationMethod.factor : AuthenticationMethod → Factor
  | .email => .email
  | .passkey => .passkey

structure Assurance where
  primary : AuthenticationMethod
  factors : List Factor
  phishingResistant : Bool
  authenticatedAt : Int
  steppedUpAt : Option Int
deriving DecidableEq

/-- `origin` is the number of the request that signs in, by which an observer knows the
sign-in; no decision reads it. -/
structure PendingMfa where
  personId : PersonId
  personSessionVersion : Option Nat
  verifiedEmailHash : String
  returnTo : String
  createdAt : Int
  origin : Nat
deriving DecidableEq

/-- The fields of a session that say who it belongs to. -/
structure Identity where
  personId : Option PersonId := none
  personSessionVersion : Option Nat := none
  verifiedEmailHash : Option String := none
  authenticatedAt : Option Int := none
  authenticationMethod : Option AuthenticationMethod := none
  passkeyAuthenticatedAt : Option Int := none
  passkeyId : Option Nat := none
  totpAuthenticatedAt : Option Int := none
  totpId : Option Nat := none
  assurance : Option Assurance := none
  pendingMfa : Option PendingMfa := none
  origin : Nat := 0
deriving DecidableEq

inductive AccessMode where
  | scoring | viewOnly
deriving DecidableEq

structure AttendeeTicketAccess where
  ticketId : Nat
  authorityVersion : Nat
  eventSlug : Nat
  eventId : Nat
  participantId : Nat
  mode : AccessMode
  addedAt : Int
deriving DecidableEq

structure AttendeeSession where
  id : Nat
  /-- Is `schemaVersion` the current one? -/
  schemaCurrent : Bool := true
  tickets : List AttendeeTicketAccess := []
  activeParticipantByEventId : List (Nat × Nat) := []
  identity : Identity := {}
  createdAt : Int
  lastSeenAt : Int
deriving DecidableEq

def pendingMfaLifetime : Int := 10 * 60 * 1000

def pendingMfaIsFresh (pending : PendingMfa) (now : Int) : Bool :=
  decide (pending.createdAt ≤ now) && decide (now - pending.createdAt ≤ pendingMfaLifetime)

def AttendeeSession.withoutIdentity (session : AttendeeSession) : AttendeeSession :=
  { session with identity := {}, schemaCurrent := true }

def AttendeeSession.withoutPendingMfa (session : AttendeeSession) : AttendeeSession :=
  { session with identity := { session.identity with pendingMfa := none }, schemaCurrent := true }

inductive StorageMode where
  | postgres | redis | memory
deriving DecidableEq

def sessionTtl : Int := 60 * 60 * 24 * 60 * 1000

structure StoredSession where
  session : AttendeeSession
  /-- The memory of the process lets no session run out. -/
  expiresAt : Option Int

/-- A row of `person_totp_authenticators`. -/
structure Authenticator where
  id : Nat
  personId : PersonId
  secret : String
  lastCounter : Option Int := none
  verifiedAt : Option Int := none
  revokedAt : Option Int := none
  lastUsedAt : Option Int := none
  /-- The session that enrols, until the first code is seen. -/
  enrollmentSession : Option Nat
  enrollmentExpiresAt : Option Int

/-- A row of `person_recovery_codes`. -/
structure RecoveryCode where
  id : Nat
  personId : PersonId
  generationId : Nat
  codeHash : String
  consumedAt : Option Int := none

inductive Code where
  | totp (authenticator : Nat) (counter : Int)
  | recovery (person : PersonId) (id : Nat)
deriving DecidableEq

/-- What an observer writes down, latest first. No statement reads it. -/
inductive Entry where
  /-- The session version of the person has been replaced by the request. -/
  | revoked (worker : Nat) (person : PersonId)
  /-- A read has found the version that a sign-in of the person was given to be current. -/
  | yielded (worker : Nat) (person : PersonId) (origin : Nat)
  | rotated (worker : Nat) (old new : AttendeeSession)
  | opened (ticket session : Nat)
  | accepted (worker : Nat) (code : Code)
  /-- The set of recovery codes with the generation has been put in place. -/
  | replaced (person : PersonId) (generation : Nat)
  | checked (worker : Nat) (person : PersonId) (code : Code) (stands alive : Bool)
deriving DecidableEq

structure Db where
  sessions : List StoredSession := []
  /-- Sessions under mutation, each with the request that has locked it. -/
  locks : List (Nat × Nat) := []
  /-- `attendee_session_versions`. -/
  versions : List (PersonId × Nat) := []
  /-- How many session ids and versions have been drawn. -/
  minted : Nat := 0
  authenticators : List Authenticator := []
  recoveryCodes : List RecoveryCode := []
  history : List Entry := []

/-- What a statement reads besides these tables. -/
structure Ctx where
  now : Int := 0
  /-- Has the rate limiter an attempt left? -/
  allowed : Bool := true
  /-- Is the person in `event_people`? -/
  personExists : Bool := true
  /-- Is the address of the sign-in still a verified one of the person? -/
  emailActive : Bool := true

namespace Db
variable (db : Db)

def row (id : Nat) : Option AttendeeSession :=
  (db.sessions.find? fun row => row.session.id == id).map (·.session)

def session (id : Nat) (now : Int) : Option AttendeeSession :=
  ((db.sessions.find? fun row => row.session.id == id).filter fun row => row.expiresAt.all (now < ·)).map (·.session)

def lockedBy (id : Nat) : Option Nat := db.locks.lookup id

def version (person : PersonId) : Option Nat := db.versions.lookup person

end Db

structure Claim where
  version : Option Nat
  origin : Nat

inductive Acquired where
  | granted | busy | gone

inductive SessionStatement : Type → Type where
  | clock : SessionStatement Int
  /-- The number of the request, for its observer. -/
  | self : SessionStatement Nat
  | legacyPersonExists (person : PersonId) : SessionStatement Bool
  | get (id : Nat) : SessionStatement (Option AttendeeSession)
  /-- A read that checks an identity holds its claim against the version; a sign-in only reads it. -/
  | personSessionVersion (person : PersonId) (held : Option Claim) : SessionStatement (Option Nat)
  /-- Store the session under a new id. -/
  | write (session : AttendeeSession) : SessionStatement AttendeeSession
  | acquire (id : Nat) : SessionStatement Acquired
  | release (id : Nat) : SessionStatement Unit
  | writeCurrent (id : Nat) (session : AttendeeSession) (opens : Nat) : SessionStatement Bool
  | replaceCurrent (id : Nat) (session : AttendeeSession) : SessionStatement (Option AttendeeSession)
  | revokePersonSessionVersion (person : PersonId) : SessionStatement Unit
  | sessionsOf (person : PersonId) : SessionStatement (List Nat)
  | deleteSessions (ids : List Nat) : SessionStatement Unit
  /-- The end of the revoking transaction, which has locked the rows it removes. -/
  | commitRevocation (person : PersonId) (ids : List Nat) : SessionStatement Unit
  /-- Redis lets a lock run out at any time. -/
  | expireLock (id : Nat) : SessionStatement Unit

namespace Db
variable (mode : StorageMode) (worker : Nat) (now : Int) (db : Db)

def store (session : AttendeeSession) : StoredSession :=
  { session, expiresAt := if mode = .memory then none else some (now + sessionTtl) }

def setVersion (person : PersonId) : Db :=
  { db with
    versions := (person, db.minted) :: db.versions.filter (·.1 ≠ person)
    minted := db.minted + 1 }

def removeSessions (ids : List Nat) : Db :=
  { db with sessions := db.sessions.filter fun row => !ids.contains row.session.id }

def insertSession (session : AttendeeSession) : AttendeeSession × Db :=
  let named := { session with id := db.minted }
  (named, { db with sessions := db.sessions ++ [store mode now named], minted := db.minted + 1 })

def rewrite (id : Nat) (session : AttendeeSession) : Db :=
  { db with
    sessions := db.sessions.map fun row => if row.session.id = id then store mode now { session with id } else row }

def commits (id : Nat) : Bool :=
  (db.session id now).isSome && (mode != .redis || db.lockedBy id == some worker)

/-- May it replace the session? Postgres no longer asks whether the row has run out. -/
def commitsReplacement (id : Nat) : Bool :=
  if mode = .postgres then (db.row id).isSome else db.commits mode worker now id

def free (id : Nat) : Db := { db with locks := db.locks.filter (·.1 ≠ id) }

end Db

def SessionStatement.exec {β : Type} (mode : StorageMode) (worker : Nat) :
    SessionStatement β → Ctx → Db → β × Db
  | .clock, ctx, db => (ctx.now, db)
  | .self, _, db => (worker, db)
  | .legacyPersonExists _, ctx, db => (ctx.personExists, db)
  | .get id, ctx, db => (db.session id ctx.now, db)
  | .personSessionVersion person _, _, db => (db.version person, db)
  | .write session, ctx, db => db.insertSession mode ctx.now session
  | .acquire id, ctx, db =>
    if (db.lockedBy id).isSome then (.busy, db)
    else if mode = .postgres ∧ (db.session id ctx.now).isNone then (.gone, db)
    else (.granted, { db with locks := (id, worker) :: db.locks })
  | .release id, _, db => ((), if db.lockedBy id = some worker then db.free id else db)
  | .writeCurrent id session _, ctx, db =>
    if db.commits mode worker ctx.now id then
      (true, db.rewrite mode ctx.now id session)
    else (false, db)
  | .replaceCurrent id session, ctx, db =>
    if db.commitsReplacement mode worker ctx.now id then
      let inserted := db.insertSession mode ctx.now session
      (some inserted.1, inserted.2.removeSessions [id])
    else (none, db)
  | .revokePersonSessionVersion person, _, db => ((), db.setVersion person)
  | .sessionsOf person, _, db =>
    ((db.sessions.filter fun row =>
      row.session.identity.personId == some person ||
        row.session.identity.pendingMfa.any (·.personId == person)).map (·.session.id), db)
  | .deleteSessions ids, _, db => ((), db.removeSessions ids)
  | .commitRevocation person ids, _, db => ((), (db.setVersion person).removeSessions ids)
  | .expireLock id, _, db => ((), if mode = .redis then db.free id else db)

end MilkAndHenny.Access

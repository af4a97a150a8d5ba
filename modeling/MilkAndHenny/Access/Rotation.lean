import MilkAndHenny.Access.Statement

/-! Reading, rotating and mutating attendee sessions. `none` is a thrown error, which ends
the request. A request knows its session by the cookie it came with. -/

namespace MilkAndHenny.Access
open Library

def sessionRotation : Int := 1000 * 60 * 60 * 24 * 7

def sessionLockAttempts : Nat := 12

/-- What reading a session has already asked about persons. -/
structure Asked where
  existence : List (PersonId × Bool) := []
  versions : List (PersonId × Option Nat) := []

def validLegacyPerson (legacySchema : Bool) (person : PersonId) (asked : Asked) : Flow (Bool × Asked) := do
  if !person.uuidV7 then return (false, asked)
  else if !legacySchema then return (true, asked)
  else match asked.existence.lookup person with
    | some cached => return (cached, asked)
    | none =>
      let found ← perform (.legacyPersonExists person)
      return (found, { asked with existence := (person, found) :: asked.existence })

def hasCurrentVersion (person : PersonId) (held : Claim) (asked : Asked) : Flow (Bool × Asked) := do
  match asked.versions.lookup person with
  | some cached => return (cached = held.version, asked)
  | none =>
    let version ← perform (.personSessionVersion person (some held))
    return (version = held.version, { asked with versions := (person, version) :: asked.versions })

/-- Is the identity one that the session may not carry any longer? -/
def invalidPerson (legacySchema : Bool) (person : Option PersonId) (held : Claim) (asked : Asked) :
    Flow (Bool × Asked) := do
  match person with
  | none => return (false, asked)
  | some person =>
    let (known, asked) ← validLegacyPerson legacySchema person asked
    if !known then return (true, asked)
    else
      let (current, asked) ← hasCurrentVersion person held asked
      return (!current, asked)

def Identity.claim (identity : Identity) : Claim := { version := identity.personSessionVersion, origin := identity.origin }

def PendingMfa.claim (pending : PendingMfa) : Claim := { version := pending.personSessionVersion, origin := pending.origin }

def normalizeStoredSession (session : AttendeeSession) : Flow (AttendeeSession × Bool) := do
  let legacySchema := !session.schemaCurrent
  let pending := session.identity.pendingMfa
  let (invalidPersonId, asked) ← invalidPerson legacySchema session.identity.personId session.identity.claim {}
  let (invalidPendingPersonId, _) ← invalidPerson legacySchema (pending.map (·.personId))
    ((pending.map (·.claim)).getD session.identity.claim) asked
  if invalidPersonId then return (session.withoutIdentity, true)
  else if invalidPendingPersonId then return (session.withoutPendingMfa, true)
  else return ({ session with schemaCurrent := true }, legacySchema)

/-- The session, and whether its schema has to be upgraded. -/
def readById (id : Nat) : Flow (Option (AttendeeSession × Bool)) := do
  match ← perform (.get id) with
  | none => return none
  | some session =>
    let read ← normalizeStoredSession session
    return some read

def acquire (id : Nat) : Nat → Flow Bool
  | 0 => return false
  | attempts + 1 => do
    match ← perform (.acquire id) with
    | .granted => return true
    | .gone => return false
    | .busy => acquire id attempts

def withSessionMutation {α : Type} (site : Site) (id : Nat) (use : Flow (Option α)) : Flow (Option α) := do
  if ← acquire id (if site.mode = .redis then sessionLockAttempts else site.patience) then
    let result ← use
    perform (.release id)
    return result
  else return none

variable (site : Site) (cookie : Option Nat)

/-- A new id for the session, with the identity fields that were decided on before the lock
and everything else as it is found under the lock. -/
def rotateSession (session : AttendeeSession) (changes : Identity) : Flow (Option AttendeeSession) :=
  withSessionMutation site session.id do
    match ← readById session.id with
    | none => return none
    | some (current, _) =>
      let now ← perform .clock
      perform (.replaceCurrent session.id { current with identity := changes, createdAt := now, lastSeenAt := now })

/-- `none` in the answer: there is no such session. -/
def getAttendeeSession : Flow (Option (Option AttendeeSession)) := do
  match cookie with
  | none => return some none
  | some id =>
    match ← readById id with
    | none => return some none
    | some (session, schemaUpgradeNeeded) =>
      if schemaUpgradeNeeded then
        let rotated ← rotateSession site session session.identity
        return rotated.map some
      else
        let now ← perform .clock
        if sessionRotation ≤ now - session.createdAt then
          let rotated ← rotateSession site session session.identity
          return rotated.map some
        else return some (some session)

def getAttendeeSessionForRequest : Flow (Option AttendeeSession) := do
  match cookie with
  | none => return none
  | some id =>
    let read ← readById id
    return read.map (·.1)

def loadOrCreate : Flow (Option AttendeeSession) := do
  let existing ← match cookie with
    | none => pure none
    | some id => readById id
  match existing with
  | some (session, true) => rotateSession site session session.identity
  | some (session, false) => return some session
  | none =>
    let now ← perform .clock
    let created ← perform (.write { id := 0, createdAt := now, lastSeenAt := now })
    return some created

structure SignIn where
  personId : PersonId
  verifiedEmailHash : Option String := none
  method : AuthenticationMethod := .email
  passkeyId : Option Nat := none

def authenticateAttendeeSession (input : SignIn) : Flow (Option AttendeeSession) := do
  if !input.personId.uuidV7 then return none
  else match ← loadOrCreate site cookie with
    | none => return none
    | some session =>
      let now ← perform .clock
      let version ← perform (.personSessionVersion input.personId none)
      let origin ← perform .self
      let passkey := input.method = .passkey
      rotateSession site session
        { personId := some input.personId, personSessionVersion := version, verifiedEmailHash := input.verifiedEmailHash,
          authenticatedAt := some now, authenticationMethod := some input.method,
          passkeyAuthenticatedAt := if passkey then some now else none,
          passkeyId := if passkey then input.passkeyId else none,
          assurance := some
            { primary := input.method, factors := [input.method.factor], phishingResistant := passkey,
              authenticatedAt := now, steppedUpAt := if passkey then some now else none },
          origin }

def beginAttendeeMfaSession (person : PersonId) (verifiedEmailHash returnTo : String) :
    Flow (Option AttendeeSession) := do
  if !person.uuidV7 then return none
  else match ← loadOrCreate site cookie with
    | none => return none
    | some session =>
      let version ← perform (.personSessionVersion person none)
      let origin ← perform .self
      let now ← perform .clock
      rotateSession site session
        { pendingMfa := some
            { personId := person, personSessionVersion := version, verifiedEmailHash, returnTo, createdAt := now, origin } }

inductive MfaFactor where
  | totp | recoveryCode

def MfaFactor.factor : MfaFactor → Factor
  | .totp => .totp
  | .recoveryCode => .recoveryCode

def PendingMfa.completed (pending : PendingMfa) (factor : MfaFactor) (totpId : Option Nat) (now : Int) : Identity :=
  { personId := some pending.personId, personSessionVersion := pending.personSessionVersion,
    verifiedEmailHash := some pending.verifiedEmailHash, authenticatedAt := some now,
    authenticationMethod := some .email, totpAuthenticatedAt := some now, totpId,
    assurance := some
      { primary := .email, factors := [.email, factor.factor], phishingResistant := false, authenticatedAt := now,
        steppedUpAt := some now },
    origin := pending.origin }

def completeAttendeeMfaSession (factor : MfaFactor) (totpId : Option Nat) :
    Flow (Option (Option AttendeeSession)) := do
  match ← getAttendeeSession site cookie with
  | none => return none
  | some none => return some none
  | some (some session) =>
    let now ← perform .clock
    match session.identity.pendingMfa.filter (pendingMfaIsFresh · now) with
    | none => return some none
    | some pending =>
      let rotated ← rotateSession site session (pending.completed factor totpId now)
      return rotated.map some

def Identity.steppedUp (identity : Identity) (totpId : Nat) (authenticatedAt now : Int) : Identity :=
  let primary := identity.authenticationMethod.getD .email
  let factors := (identity.assurance.map (·.factors)).getD [primary.factor]
  { identity with
    authenticationMethod := some primary, totpAuthenticatedAt := some now, totpId := some totpId,
    assurance := some
      { primary, factors := distinct (factors ++ [.totp]),
        phishingResistant := (identity.assurance.map (·.phishingResistant)).getD (primary = .passkey),
        authenticatedAt := (identity.assurance.map (·.authenticatedAt)).getD authenticatedAt,
        steppedUpAt := some now },
    pendingMfa := none }

def stepUpAttendeeSession (totpId : Nat) : Flow (Option (Option AttendeeSession)) := do
  match ← getAttendeeSession site cookie with
  | none => return none
  | some none => return some none
  | some (some session) =>
    match session.identity.personId, session.identity.authenticatedAt with
    | some _, some authenticatedAt =>
      let now ← perform .clock
      let rotated ← rotateSession site session (session.identity.steppedUp totpId authenticatedAt now)
      return rotated.map some
    | _, _ => return some none

def signOutAttendeeSession : Flow (Option (Option AttendeeSession)) := do
  match ← getAttendeeSession site cookie with
  | none => return none
  | some none => return some none
  | some (some session) =>
    let rotated ← rotateSession site session.withoutIdentity {}
    return rotated.map some

structure FoundTicket where
  ticketId : Nat
  authorityVersion : Nat
  eventSlug : Nat
  eventId : Nat
  participantId : Nat

def AttendeeSession.openTicket (session : AttendeeSession) (found : FoundTicket) (mode : AccessMode) (now : Int) :
    AttendeeSession :=
  let existing := session.tickets.find? (·.ticketId == found.ticketId)
  let access : AttendeeTicketAccess :=
    { ticketId := found.ticketId, authorityVersion := found.authorityVersion, eventSlug := found.eventSlug,
      eventId := found.eventId, participantId := found.participantId,
      mode := if mode = .viewOnly then (existing.map (·.mode)).getD mode else mode
      addedAt := (existing.map (·.addedAt)).getD now }
  let tickets := if session.tickets.any (·.ticketId == access.ticketId) then
      session.tickets.map fun entry => if entry.ticketId = access.ticketId then { entry with mode := access.mode } else entry
    else session.tickets ++ [access]
  let others := session.activeParticipantByEventId.filter (·.1 ≠ found.eventId)
  if access.mode = .scoring then
    { session with
      tickets := tickets.map fun entry =>
        if entry.eventId = found.eventId ∧ entry.ticketId ≠ access.ticketId then { entry with mode := .viewOnly } else entry
      activeParticipantByEventId := (found.eventId, found.participantId) :: others
      lastSeenAt := now }
  else
    { session with
      tickets
      activeParticipantByEventId :=
        if session.activeParticipantByEventId.lookup found.eventId = some found.participantId then others
        else session.activeParticipantByEventId
      lastSeenAt := now }

def openAttendeeTicket (found : FoundTicket) (mode : AccessMode) :
    Flow (Option AttendeeSession) := do
  match ← loadOrCreate site cookie with
  | none => return none
  | some initial =>
    withSessionMutation site initial.id do
      match ← readById initial.id with
      | none => return none
      | some (current, _) =>
        let now ← perform .clock
        let updated := current.openTicket found mode now
        if ← perform (.writeCurrent initial.id updated found.ticketId) then return some updated
        else return none

def revokeAttendeeSessionsForPerson (person : PersonId) : Flow Unit := do
  if site.mode = .postgres then
    let ids ← perform (.sessionsOf person)
    perform (.commitRevocation person ids)
  else
    perform (.revokePersonSessionVersion person)
    let ids ← perform (.sessionsOf person)
    perform (.deleteSessions ids)

def clearAttendeeSession : Flow Unit := do
  match cookie with
  | none => return ()
  | some id => perform (.deleteSessions [id])

end MilkAndHenny.Access

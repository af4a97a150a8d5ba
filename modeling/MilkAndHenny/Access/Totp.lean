import MilkAndHenny.Access.Rotation

/-! Authenticator apps and recovery codes as second factors, and the requests that the
pool of workers serves. -/

namespace MilkAndHenny.Access
open Library

structure TotpError where
  status : Nat
  error : String
  code : Option String := none

abbrev TotpResult (α : Type) := Except TotpError α

def refuse {α : Type} (status : Nat) (error : String) (code : Option String := none) : TotpResult α :=
  .error { status, error, code }

def managementStepUp : Int := 10 * 60 * 1000

def fresh (value : Option Int) (now : Int) : Bool :=
  value.any fun timestamp => decide (timestamp ≤ now) && decide (now - timestamp ≤ managementStepUp)

variable (site : Site) (cookie : Option Nat)

/-- `normalizeRecoveryCode`. -/
def Site.normalizeRecoveryCode (value : String) : String :=
  String.ofList ((site.toUpperCase value).toList.filter fun c =>
    (decide ('A' ≤ c) && decide (c ≤ 'Z')) || (decide ('0' ≤ c) && decide (c ≤ '9')))

/-- `/^[A-Z2-9]{12}$/`. -/
def wellFormedRecoveryCode (normalized : String) : Bool :=
  normalized.toList.length == 12 && normalized.toList.all fun c =>
    (decide ('A' ≤ c) && decide (c ≤ 'Z')) || (decide ('2' ≤ c) && decide (c ≤ '9'))

/-- The enrolment and the secret that its authenticator app is given. -/
def beginTotpEnrollment (secret : String) : Flow (Option (TotpResult Nat)) := do
  match ← getAttendeeSession site cookie with
  | none => return none
  | some session =>
    let now ← perform .clock
    match session.bind (fun session => session.identity.personId.map (session, ·)) with
    | some (session, person) =>
      if !fresh session.identity.authenticatedAt now then
        return some (refuse 428 "Sign in again before setting up an authenticator app" (some "FRESH_SIGN_IN_REQUIRED"))
      else if !site.authSecret then return some (refuse 503 "MFA is not configured")
      else if !(← totp (.reserveAttempt session.id)) then
        return some (refuse 429 "Too many MFA requests. Try again shortly.")
      else if !(← perform (.legacyPersonExists person)) then return some (refuse 404 "Account not found")
      else
        let enrollment ← totp (.enroll person session.id secret)
        return some (.ok enrollment)
    | none => return some (refuse 428 "Sign in again before setting up an authenticator app" (some "FRESH_SIGN_IN_REQUIRED"))

def finishTotpEnrollment (enrollment : Nat) (token : String) (codes : List String) :
    Flow (Option (TotpResult (List String))) := do
  match ← getAttendeeSession site cookie with
  | none => return none
  | some session =>
    match session.bind (fun session => session.identity.personId.map (session, ·)) with
    | none => return some (refuse 401 "Sign in first")
    | some (session, person) =>
      if !site.authSecret then return some (refuse 401 "Sign in first")
      else if !(← totp (.reserveAttempt session.id)) then return some (refuse 429 "Too many attempts. Try again shortly.")
      else
        let active ← totp (.verifiedAuthenticators person)
        let replaced ← totp (.recoveryCodesOf person)
        if (← totp (.finishEnrollment enrollment person session.id token active replaced (codes.map site.recoveryHash))).isNone then
          return some (refuse 400 "That code is not valid")
        else match ← stepUpAttendeeSession site cookie enrollment with
          | none => return none
          | some _ => return some (.ok codes)

structure Attempt where
  completed : Option AttendeeSession := none
  /-- Where the person is sent, and how many recovery codes are left. -/
  answer : TotpResult (String × Option Nat)

def settleSignIn (pending : PendingMfa) (factor : MfaFactor) (totpId : Option Nat)
    (code : Code) (remaining : Option Nat) : Flow (Option Attempt) := do
  match ← completeAttendeeMfaSession site cookie factor totpId with
  | none => return none
  | some completed =>
    match completed.bind (fun session => session.identity.personId.map (session, ·)) with
    | none => return some { answer := refuse 401 "Start sign-in again" }
    | some (session, person) =>
      if ← totp (.completedEmailMfaIsStillValid person totpId code) then
        return some { completed := some session, answer := .ok (pending.returnTo, remaining) }
      else
        revokeAttendeeSessionsForPerson site person
        return some { completed := some session, answer := refuse 401 "Start sign-in again" }

/-- What `verifyPendingTotp` and `verifyPendingRecoveryCode` both ask first. -/
def verifyPending (settle : PendingMfa → Flow (Option Attempt)) : Flow (Option Attempt) := do
  match ← getAttendeeSession site cookie with
  | none => return none
  | some session =>
    let now ← perform .clock
    match session.bind (fun session => (session.identity.pendingMfa.filter (pendingMfaIsFresh · now)).map (session, ·)) with
    | none => return some { answer := refuse 401 "Start sign-in again" }
    | some (session, pending) =>
      if !site.authSecret then return some { answer := refuse 401 "Start sign-in again" }
      else if !(← totp (.reserveAttempt session.id)) then
        return some { answer := refuse 429 "Too many attempts. Try again shortly." }
      else settle pending

def verifyPendingTotp (token : String) : Flow (Option Attempt) :=
  verifyPending site cookie fun pending => do
    match ← totp (.activeAuthenticator pending.personId) with
    | none => return some { answer := refuse 409 "Authenticator app is not enabled" }
    | some authenticator =>
      match ← totp (.acceptTotp authenticator.id token) with
      | none => return some { answer := refuse 401 "That code is not valid" }
      | some counter =>
        settleSignIn site cookie pending .totp (some authenticator.id) (.totp authenticator.id counter) none

def verifyPendingRecoveryCode (code : String) : Flow (Option Attempt) :=
  verifyPending site cookie fun pending => do
    if !wellFormedRecoveryCode (site.normalizeRecoveryCode code) then
      return some { answer := refuse 401 "That recovery code is not valid" }
    else match ← totp (.consumeRecoveryCode pending.personId (site.recoveryHash (site.normalizeRecoveryCode code))) with
      | none => return some { answer := refuse 401 "That recovery code is not valid" }
      | some (id, remaining) =>
        settleSignIn site cookie pending .recoveryCode none (.recovery pending.personId id) (some remaining)

/-- The person of a session whose second factor or passkey was seen a moment ago. -/
def Identity.steppedUpPerson (identity : Identity) (now : Int) : Option PersonId :=
  if fresh identity.passkeyAuthenticatedAt now || fresh identity.totpAuthenticatedAt now then identity.personId else none

def disableTotp : Flow (Option (TotpResult Unit)) := do
  match ← getAttendeeSession site cookie with
  | none => return none
  | some session =>
    let now ← perform .clock
    match session.bind (·.identity.personId) with
    | none => return some (refuse 401 "Sign in first")
    | some person =>
      if (session.bind (·.identity.steppedUpPerson now)).isNone then
        return some (refuse 428 "Use your passkey or authenticator app again before disabling MFA" (some "STEP_UP_REQUIRED"))
      else
        totp (.disable person)
        revokeAttendeeSessionsForPerson site person
        return some (.ok ())

def regenerateRecoveryCodes (codes : List String) :
    Flow (Option (TotpResult (List String))) := do
  match ← getAttendeeSession site cookie with
  | none => return none
  | some session =>
    let now ← perform .clock
    match session.bind (fun session => session.identity.personId.map (session, ·)) with
    | none => return some (refuse 401 "Sign in first")
    | some (session, person) =>
      if !site.authSecret then return some (refuse 401 "Sign in first")
      else if (session.identity.steppedUpPerson now).isNone then
        return some (refuse 428 "Use your passkey or authenticator app again before replacing recovery codes"
          (some "STEP_UP_REQUIRED"))
      else if !(← totp (.reserveAttempt session.id)) then
        return some (refuse 429 "Too many MFA requests. Try again shortly.")
      else if (← totp (.activeAuthenticator person)).isNone then
        return some (refuse 409 "Authenticator app is not enabled")
      else
        let replaced ← totp (.recoveryCodesOf person)
        totp (.regenerate person replaced (codes.map site.recoveryHash))
        return some (.ok codes)

/-- `none` is a thrown error. -/
def establishEmailAuthenticatedSession (person : PersonId)
    (verifiedEmailHash returnTo : String) : Flow (Option AttendeeSession) := do
  if (← totp (.activeAuthenticator person)).isSome then
    beginAttendeeMfaSession site cookie person verifiedEmailHash returnTo
  else authenticateAttendeeSession site cookie { personId := person, verifiedEmailHash := some verifiedEmailHash }

inductive Request where
  | signInByEmail (cookie : Option Nat) (person : PersonId) (verifiedEmailHash returnTo : String)
  | authenticate (cookie : Option Nat) (input : SignIn)
  | beginMfa (cookie : Option Nat) (person : PersonId) (verifiedEmailHash returnTo : String)
  | completeMfa (cookie : Option Nat) (factor : MfaFactor) (totpId : Option Nat)
  | stepUp (cookie : Option Nat) (totpId : Nat)
  | signOut (cookie : Option Nat)
  | ensure (cookie : Option Nat)
  | read (cookie : Option Nat)
  | readForRequest (cookie : Option Nat)
  | openTicket (cookie : Option Nat) (found : FoundTicket) (mode : AccessMode)
  | clear (cookie : Option Nat)
  | revoke (person : PersonId)
  | beginEnrollment (cookie : Option Nat) (secret : String)
  | finishEnrollment (cookie : Option Nat) (enrollment : Nat) (token : String) (codes : List String)
  | verifyTotp (cookie : Option Nat) (token : String)
  | verifyRecoveryCode (cookie : Option Nat) (code : String)
  | disable (cookie : Option Nat)
  | regenerate (cookie : Option Nat) (codes : List String)
  /-- A lock of Redis runs out. -/
  | expireLock (session : Nat)

/-- What a request answers, as far as it is about a session or a second factor. -/
inductive Answer where
  | read (session : Option AttendeeSession)
  | session (session : Option AttendeeSession)
  | attempt (attempt : Attempt)
  | revoked (person : PersonId)
  | done

def answering (flow : Flow (Option AttendeeSession)) : Flow Answer := flow.bind fun session => .done (.session session)

def discard {α : Type} (flow : Flow α) : Flow Answer := flow.bind fun _ => .done .done

def serve (site : Site) : Request → Flow Answer
  | .signInByEmail cookie person email returnTo =>
    answering (establishEmailAuthenticatedSession site cookie person email returnTo)
  | .authenticate cookie input => answering (authenticateAttendeeSession site cookie input)
  | .beginMfa cookie person email returnTo => answering (beginAttendeeMfaSession site cookie person email returnTo)
  | .completeMfa cookie factor totpId =>
    answering ((completeAttendeeMfaSession site cookie factor totpId).bind fun answer => .done answer.join)
  | .stepUp cookie totpId => answering ((stepUpAttendeeSession site cookie totpId).bind fun answer => .done answer.join)
  | .signOut cookie => answering ((signOutAttendeeSession site cookie).bind fun answer => .done answer.join)
  | .ensure cookie => answering (loadOrCreate site cookie)
  | .read cookie => (getAttendeeSession site cookie).bind fun answer => .done (.read answer.join)
  | .readForRequest cookie => (getAttendeeSessionForRequest cookie).bind fun session => .done (.read session)
  | .openTicket cookie found mode => answering (openAttendeeTicket site cookie found mode)
  | .clear cookie => discard (clearAttendeeSession cookie)
  | .revoke person => (revokeAttendeeSessionsForPerson site person).bind fun _ => .done (.revoked person)
  | .beginEnrollment cookie secret => discard (beginTotpEnrollment site cookie secret)
  | .finishEnrollment cookie enrollment token codes => discard (finishTotpEnrollment site cookie enrollment token codes)
  | .verifyTotp cookie token =>
    (verifyPendingTotp site cookie token).bind fun attempt => .done ((attempt.map .attempt).getD .done)
  | .verifyRecoveryCode cookie code =>
    (verifyPendingRecoveryCode site cookie code).bind fun attempt => .done ((attempt.map .attempt).getD .done)
  | .disable cookie => discard (disableTotp site cookie)
  | .regenerate cookie codes => discard (regenerateRecoveryCodes site cookie codes)
  | .expireLock session => discard (perform (.expireLock session))

abbrev serveAll (db : Db) (events : List (Event Request Ctx)) : Pool Statement Answer Db :=
  Pool.run (engine site) (serve site) { db, workers := [] } events

end MilkAndHenny.Access

import MilkAndHenny.Access.Session

/-! The statements of authenticator apps and recovery codes, beside those of the sessions. A
transaction is one statement, but for those that replace rows: what they revoke and delete is
what they have found, and no other transaction sees their own rows before they commit. -/

namespace MilkAndHenny.Access
open Library

/-- What the deployment brings along: its session store, and the functions of others that
its code calls. -/
structure Site where
  mode : StorageMode
  /-- How often a request polls for a lock that it waits for. -/
  patience : Nat := 12
  /-- Is `AUTH_SECRET` set? -/
  authSecret : Bool := true
  /-- `validate` of `otpauth`: how many time steps the token is off, in the window. -/
  validate : (secret token : String) → (now : Int) → Option Int
  /-- `toUpperCase`. -/
  toUpperCase : String → String
  recoveryHash : String → String

def totpPeriodSeconds : Int := 30

/-- The time step of a moment. -/
def totpCounter (now : Int) : Int := now / 1000 / totpPeriodSeconds

/-- `/^\\d{6}$/`. -/
def sixDigits (token : String) : Bool :=
  token.toList.length == 6 && token.toList.all Char.isDigit

def Site.validateTotp (site : Site) (now : Int) (token secret : String) (lastCounter : Option Int) : Option Int :=
  if !sixDigits token then none
  else match site.validate secret token now with
    | none => none
    | some delta =>
      let acceptedCounter := totpCounter now + delta
      if lastCounter.any (acceptedCounter ≤ ·) then none else some acceptedCounter

inductive TotpStatement : Type → Type where
  | reserveAttempt (session : Nat) : TotpStatement Bool
  | activeAuthenticator (person : PersonId) : TotpStatement (Option Authenticator)
  /-- Unverified enrolments of the person make way for a new one. -/
  | enroll (person : PersonId) (session : Nat) (secret : String) : TotpStatement Nat
  | verifiedAuthenticators (person : PersonId) : TotpStatement (List Nat)
  | recoveryCodesOf (person : PersonId) : TotpStatement (List Nat)
  /-- The time step that is accepted. -/
  | finishEnrollment (enrollment : Nat) (person : PersonId) (session : Nat) (token : String) (active replaced : List Nat)
      (codes : List String) : TotpStatement (Option Int)
  | acceptTotp (authenticator : Nat) (token : String) : TotpStatement (Option Int)
  | consumeRecoveryCode (person : PersonId) (wanted : String) : TotpStatement (Option (Nat × Nat))
  /-- The code of the sign-in is for its observer. -/
  | completedEmailMfaIsStillValid (person : PersonId) (authenticator : Option Nat) (code : Code) : TotpStatement Bool
  | disable (person : PersonId) : TotpStatement Unit
  | regenerate (person : PersonId) (replaced : List Nat) (codes : List String) : TotpStatement Unit

def Authenticator.active (row : Authenticator) : Bool := row.verifiedAt.isSome && row.revokedAt.isNone

namespace Db
variable (db : Db)

def activeAuthenticator (person : PersonId) : Option Authenticator :=
  (orderBy (fun a b => decide (b.verifiedAt.getD 0 ≤ a.verifiedAt.getD 0))
    (db.authenticators.filter fun row => row.personId == person && row.active)).head?

def replaceRecoveryCodes (person : PersonId) (replaced : List Nat) (codes : List String) : Db :=
  { db with
    recoveryCodes := db.recoveryCodes.filter (fun row => row.personId ≠ person ∨ row.id ∉ replaced) ++
      codes.mapIdx fun index codeHash =>
        { id := db.minted + 1 + index, personId := person, generationId := db.minted, codeHash }
    minted := db.minted + 1 + codes.length }

def enrolling (enrollment : Nat) (person : PersonId) (session : Nat) (now : Int) : Option Authenticator :=
  db.authenticators.find? fun row => row.id == enrollment && row.personId == person && row.verifiedAt.isNone &&
    row.revokedAt.isNone && row.enrollmentSession == some session && row.enrollmentExpiresAt.any (now < ·)

def verifyEnrollment (enrollment : Nat) (person : PersonId) (active : List Nat) (counter now : Int) : Db :=
  let revoked := update db.authenticators (fun row => row.personId == person && row.active && active.contains row.id)
    fun row => { row with revokedAt := some now }
  { db with
    authenticators := update revoked (·.id == enrollment) fun row =>
      { row with verifiedAt := some now, lastCounter := some counter, lastUsedAt := some now,
                 enrollmentSession := none, enrollmentExpiresAt := none } }

end Db

def TotpStatement.exec {β : Type} (site : Site) : TotpStatement β → Ctx → Db → β × Db
  | .reserveAttempt _, ctx, db => (ctx.allowed, db)
  | .activeAuthenticator person, _, db => (db.activeAuthenticator person, db)
  | .enroll person session secret, ctx, db =>
    (db.minted, { db with
      authenticators := db.authenticators.filter (fun row => row.personId ≠ person ∨ row.verifiedAt.isSome) ++
        [{ id := db.minted, personId := person, secret, enrollmentSession := some session,
           enrollmentExpiresAt := some (ctx.now + 10 * 60 * 1000) }]
      minted := db.minted + 1 })
  | .verifiedAuthenticators person, _, db =>
    ((db.authenticators.filter fun row => row.personId == person && row.active).map (·.id), db)
  | .recoveryCodesOf person, _, db => ((db.recoveryCodes.filter (·.personId == person)).map (·.id), db)
  | .finishEnrollment enrollment person session token active replaced codes, ctx, db =>
    match db.enrolling enrollment person session ctx.now with
    | none => (none, db)
    | some row => match site.validateTotp ctx.now token row.secret none with
      | none => (none, db)
      | some counter =>
        (some counter, (db.verifyEnrollment row.id person active counter ctx.now).replaceRecoveryCodes person replaced codes)
  | .acceptTotp authenticator token, ctx, db =>
    match db.authenticators.find? fun row => row.id == authenticator && row.active with
    | none => (none, db)
    | some row => match site.validateTotp ctx.now token row.secret row.lastCounter with
      | none => (none, db)
      | some counter => (some counter, { db with
        authenticators := update db.authenticators (·.id == row.id) fun row =>
          { row with lastCounter := some counter, lastUsedAt := some ctx.now } })
  | .consumeRecoveryCode person wanted, ctx, db =>
    match db.recoveryCodes.find? fun row =>
        row.personId == person && row.consumedAt.isNone && row.codeHash == wanted with
    | none => (none, db)
    | some row =>
      let consumed := update db.recoveryCodes (·.id == row.id) fun row => { row with consumedAt := some ctx.now }
      (some (row.id, consumed.countP fun row => row.personId == person && row.consumedAt.isNone),
        { db with recoveryCodes := consumed })
  | .completedEmailMfaIsStillValid person authenticator _, ctx, db =>
    (ctx.emailActive && db.authenticators.any fun row =>
      row.personId == person && row.active && authenticator.all (row.id == ·), db)
  | .disable person, ctx, db =>
    ((), { db with
      authenticators := update db.authenticators (fun row => row.personId == person && row.revokedAt.isNone)
        fun row => { row with revokedAt := some ctx.now }
      recoveryCodes := db.recoveryCodes.filter (·.personId ≠ person) })
  | .regenerate person replaced codes, _, db => ((), db.replaceRecoveryCodes person replaced codes)

inductive Statement : Type → Type where
  | session {β : Type} (op : SessionStatement β) : Statement β
  | totp {β : Type} (op : TotpStatement β) : Statement β

def Statement.exec {β : Type} (site : Site) (worker : Nat) : Statement β → Ctx → Db → β × Db
  | .session op, ctx, db => op.exec site.mode worker ctx db
  | .totp op, ctx, db => op.exec site ctx db

/-- The set of recovery codes that has last been put in place for the person. -/
def setInForce (person : PersonId) : List Entry → Option Nat
  | [] => none
  | .replaced subject generation :: history => if subject = person then some generation else setInForce person history
  | _ :: history => setInForce person history

def Code.alive (db : Db) (subject : PersonId) : Code → Bool
  | .totp authenticator _ =>
    db.authenticators.any fun row => row.personId == subject && row.active && row.id == authenticator
  | .recovery person id => person == subject && db.recoveryCodes.any fun row =>
    row.personId == person && row.id == id && (setInForce person db.history).all (row.generationId == ·)

/-- The entries that a statement adds to the history. -/
def observe (worker : Nat) (before : Db) : {β : Type} → Statement β → β → List Entry
  | _, .session (.personSessionVersion person (some held)), version =>
    if version = held.version then [.yielded worker person held.origin] else []
  | _, .session (.writeCurrent id _ opens), true => [.opened opens id]
  | _, .session (.replaceCurrent id _), some new => (before.row id).toList.map (.rotated worker · new)
  | _, .session (.revokePersonSessionVersion person), _ => [.revoked worker person]
  | _, .session (.commitRevocation person _), _ => [.revoked worker person]
  | _, .totp (.finishEnrollment enrollment person ..), some counter =>
    [.accepted worker (.totp enrollment counter), .replaced person before.minted]
  | _, .totp (.regenerate person _ _), _ => [.replaced person before.minted]
  | _, .totp (.acceptTotp authenticator _), some counter => [.accepted worker (.totp authenticator counter)]
  | _, .totp (.consumeRecoveryCode person _), some (id, _) => [.accepted worker (.recovery person id)]
  | _, .totp (.completedEmailMfaIsStillValid person _ code), stands =>
    [.checked worker person code stands (code.alive before person)]
  | _, _, _ => []

def engine (site : Site) : Engine Statement Ctx Db where
  exec worker op ctx db :=
    let result := op.exec site worker ctx db
    (result.1, { result.2 with history := observe worker db op result.1 ++ db.history })

abbrev Flow (α : Type) : Type 1 := Program Statement α

def perform {β : Type} (op : SessionStatement β) : Flow β := .perform (.session op)

def totp {β : Type} (op : TotpStatement β) : Flow β := .perform (.totp op)

end MilkAndHenny.Access

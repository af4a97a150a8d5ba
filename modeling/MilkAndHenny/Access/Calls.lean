import MilkAndHenny.Library.Contract
import MilkAndHenny.Access.Totp

/-! Which statements the requests make: those about sessions keep to the sessions, and only an
attempt with a second factor checks a sign-in once more. -/

namespace MilkAndHenny.Access
variable {next : Option (Option AttendeeSession) → Flow α} {p : {β : Type} → Statement β → Prop} {cookie : Option Nat} {β : Type}
open Library Library.Program

def OfSession : {β : Type} → Statement β → Prop
  | _, .session _ => True
  | _, .totp _ => False

def Unchecked : {β : Type} → Statement β → Prop
  | _, .totp (.completedEmailMfaIsStillValid ..) => False
  | _, _ => True

theorem OfSession.unchecked (op : Statement β) (ofSession : OfSession op) : Unchecked op := by
  cases op with
  | session => trivial
  | totp => exact ofSession.elim

variable {α : Type} {site : Site}

theorem makes_call {op : Statement β} {next : β → Flow α} (made : p op)
    (rest : ∀ reply, (next reply).makes p) : ((Program.perform op).bind next).makes p := ⟨made, rest⟩

theorem validLegacyPerson_makes (legacySchema : Bool) (person : PersonId) (asked : Asked) :
    (validLegacyPerson legacySchema person asked).makes OfSession := by
  unfold validLegacyPerson
  split
  · trivial
  split
  · trivial
  split
  · trivial
  · exact makes_call trivial fun _ => trivial

theorem hasCurrentVersion_makes (person : PersonId) (held : Claim) (asked : Asked) :
    (hasCurrentVersion person held asked).makes OfSession := by
  unfold hasCurrentVersion
  split
  · trivial
  · exact makes_call trivial fun _ => trivial

theorem invalidPerson_makes (legacySchema : Bool) (person : Option PersonId) (held : Claim) (asked : Asked) :
    (invalidPerson legacySchema person held asked).makes OfSession := by
  cases person with
  | none => trivial
  | some person =>
    refine makes_bind (validLegacyPerson_makes legacySchema person asked) fun (known, asked) => ?_
    cases known with
    | false => trivial
    | true => exact makes_bind (hasCurrentVersion_makes person held asked) fun _ => trivial

theorem normalizeStoredSession_makes (session : AttendeeSession) : (normalizeStoredSession session).makes OfSession := by
  refine makes_bind (invalidPerson_makes ..) fun (invalid, asked) => ?_
  refine makes_bind (invalidPerson_makes ..) fun (invalidPending, _) => ?_
  cases invalid <;> cases invalidPending <;> trivial

theorem readById_makes (id : Nat) : (readById id).makes OfSession := by
  refine makes_call trivial fun found => ?_
  cases found with
  | none => trivial
  | some session => exact makes_bind (normalizeStoredSession_makes session) fun _ => trivial

theorem acquire_makes (id attempts : Nat) : (acquire id attempts).makes OfSession := by
  induction attempts with
  | zero => trivial
  | succ attempts ih =>
    refine makes_call trivial fun acquired => ?_
    cases acquired with
    | granted | gone => trivial
    | busy => exact ih

theorem withSessionMutation_makes {id : Nat} {use : Flow (Option α)} (made : use.makes OfSession) :
    (withSessionMutation site id use).makes OfSession := by
  refine makes_bind (acquire_makes id _) fun granted => ?_
  cases granted with
  | false => trivial
  | true => exact makes_bind made fun _ => makes_call trivial fun _ => trivial

theorem rotateSession_makes (session : AttendeeSession) (changes : Identity) :
    (rotateSession site session changes).makes OfSession := by
  refine withSessionMutation_makes (makes_bind (readById_makes session.id) fun read => ?_)
  cases read with
  | none => trivial
  | some => exact makes_call trivial fun _ => makes_call trivial fun _ => trivial

theorem getAttendeeSession_makes (cookie : Option Nat) : (getAttendeeSession site cookie).makes OfSession := by
  cases cookie with
  | none => trivial
  | some id =>
    refine makes_bind (readById_makes id) fun read => ?_
    cases read with
    | none => trivial
    | some read =>
      obtain ⟨session, upgrade⟩ := read
      cases upgrade with
      | true => exact makes_bind (rotateSession_makes session _) fun _ => trivial
      | false =>
        refine makes_call trivial fun now => ?_
        split
        · exact makes_bind (rotateSession_makes session _) fun _ => trivial
        · trivial

theorem getAttendeeSessionForRequest_makes (cookie : Option Nat) :
    (getAttendeeSessionForRequest cookie).makes OfSession := by
  cases cookie with
  | none => trivial
  | some id => exact makes_bind (readById_makes id) fun _ => trivial

theorem loadOrCreate_makes (cookie : Option Nat) : (loadOrCreate site cookie).makes OfSession := by
  have created : (do
      let now ← perform .clock
      let created ← perform (.write { id := 0, createdAt := now, lastSeenAt := now })
      return some created : Flow (Option AttendeeSession)).makes OfSession :=
    makes_call trivial fun _ => makes_call trivial fun _ => trivial
  cases cookie with
  | none => exact created
  | some id =>
    refine makes_bind (readById_makes id) fun read => ?_
    cases read with
    | none => exact created
    | some read =>
      obtain ⟨session, upgrade⟩ := read
      cases upgrade with
      | true => exact rotateSession_makes session _
      | false => trivial

theorem authenticateAttendeeSession_makes (cookie : Option Nat) (input : SignIn) :
    (authenticateAttendeeSession site cookie input).makes OfSession := by
  unfold authenticateAttendeeSession
  split
  · trivial
  refine makes_bind (loadOrCreate_makes cookie) fun session => ?_
  cases session with
  | none => trivial
  | some session =>
    refine makes_call trivial fun _ => makes_call trivial fun _ => makes_call trivial fun _ => ?_
    exact rotateSession_makes session _

theorem beginAttendeeMfaSession_makes (cookie : Option Nat) (person : PersonId) (verifiedEmailHash returnTo : String) :
    (beginAttendeeMfaSession site cookie person verifiedEmailHash returnTo).makes OfSession := by
  unfold beginAttendeeMfaSession
  split
  · trivial
  refine makes_bind (loadOrCreate_makes cookie) fun session => ?_
  cases session with
  | none => trivial
  | some session =>
    refine makes_call trivial fun _ => makes_call trivial fun _ => makes_call trivial fun _ => ?_
    exact rotateSession_makes session _

theorem makes_with_session (fewer : ∀ {β} (op : Statement β), OfSession op → p op)
    (thrown : (next none).makes p) (none_ : (next (some none)).makes p)
    (found : ∀ session, (next (some (some session))).makes p) :
    ((getAttendeeSession site cookie).bind next).makes p := by
  refine makes_bind (makes_mono (getAttendeeSession_makes cookie) fewer) fun answer => ?_
  cases answer with
  | none => exact thrown
  | some answer => cases answer with
    | none => exact none_
    | some session => exact found session

theorem completeAttendeeMfaSession_makes (cookie : Option Nat) (factor : MfaFactor) (totpId : Option Nat) :
    (completeAttendeeMfaSession site cookie factor totpId).makes OfSession := by
  refine makes_with_session (fun _ made => made) trivial trivial fun session => makes_call trivial fun now => ?_
  split
  · trivial
  · exact makes_bind (rotateSession_makes session _) fun _ => trivial

theorem stepUpAttendeeSession_makes (cookie : Option Nat) (totpId : Nat) :
    (stepUpAttendeeSession site cookie totpId).makes OfSession := by
  refine makes_with_session (fun _ made => made) trivial trivial fun session => ?_
  dsimp only
  split
  · exact makes_call trivial fun _ => makes_bind (rotateSession_makes session _) fun _ => trivial
  · trivial

theorem signOutAttendeeSession_makes (cookie : Option Nat) : (signOutAttendeeSession site cookie).makes OfSession :=
  makes_with_session (fun _ made => made) trivial trivial fun _ => makes_bind (rotateSession_makes _ _) fun _ => trivial

theorem openAttendeeTicket_makes (cookie : Option Nat) (found : FoundTicket) (mode : AccessMode) :
    (openAttendeeTicket site cookie found mode).makes OfSession := by
  refine makes_bind (loadOrCreate_makes cookie) fun initial => ?_
  cases initial with
  | none => trivial
  | some initial =>
    refine withSessionMutation_makes (makes_bind (readById_makes initial.id) fun read => ?_)
    cases read with
    | none => trivial
    | some =>
      refine makes_call trivial fun now => makes_call trivial fun written => ?_
      cases written <;> trivial

theorem revokeAttendeeSessionsForPerson_makes (person : PersonId) :
    (revokeAttendeeSessionsForPerson site person).makes OfSession := by
  unfold revokeAttendeeSessionsForPerson
  split
  · exact makes_call trivial fun _ => makes_call trivial fun _ => trivial
  · exact makes_call trivial fun _ => makes_call trivial fun _ => makes_call trivial fun _ => trivial

theorem makes_after_session (thrown : (next none).makes Unchecked) (found : ∀ session, (next (some session)).makes Unchecked) :
    ((getAttendeeSession site cookie).bind next).makes Unchecked :=
  makes_with_session OfSession.unchecked thrown (found none) fun session => found (some session)

theorem beginTotpEnrollment_makes (cookie : Option Nat) (secret : String) :
    (beginTotpEnrollment site cookie secret).makes Unchecked := by
  refine makes_after_session trivial fun session => makes_call trivial fun now => ?_
  split
  · split
    · trivial
    split
    · trivial
    refine makes_call trivial fun reserved => ?_
    split
    · trivial
    refine makes_call trivial fun known => ?_
    split
    · trivial
    · exact makes_call trivial fun _ => trivial
  · trivial

theorem finishTotpEnrollment_makes (cookie : Option Nat) (enrollment : Nat) (token : String) (codes : List String) :
    (finishTotpEnrollment site cookie enrollment token codes).makes Unchecked := by
  refine makes_after_session trivial fun session => ?_
  dsimp only
  split
  · trivial
  split
  · trivial
  refine makes_call trivial fun reserved => ?_
  split
  · trivial
  refine makes_call trivial fun active => makes_call trivial fun replaced => makes_call trivial fun finished => ?_
  split
  · trivial
  · refine makes_bind (makes_mono (stepUpAttendeeSession_makes cookie enrollment) OfSession.unchecked) fun answer => ?_
    cases answer <;> trivial

theorem disableTotp_makes (cookie : Option Nat) : (disableTotp site cookie).makes Unchecked := by
  refine makes_after_session trivial fun session => makes_call trivial fun now => ?_
  split
  · trivial
  split
  · trivial
  · refine makes_call trivial fun _ => ?_
    exact makes_bind (makes_mono (revokeAttendeeSessionsForPerson_makes _) OfSession.unchecked) fun _ => trivial

theorem regenerateRecoveryCodes_makes (cookie : Option Nat) (codes : List String) :
    (regenerateRecoveryCodes site cookie codes).makes Unchecked := by
  refine makes_after_session trivial fun session => makes_call trivial fun now => ?_
  split
  · trivial
  split
  · trivial
  split
  · trivial
  refine makes_call trivial fun reserved => ?_
  split
  · trivial
  refine makes_call trivial fun active => ?_
  split
  · trivial
  · exact makes_call trivial fun replaced => makes_call trivial fun _ => trivial

theorem establishEmailAuthenticatedSession_makes (cookie : Option Nat) (person : PersonId)
    (verifiedEmailHash returnTo : String) :
    (establishEmailAuthenticatedSession site cookie person verifiedEmailHash returnTo).makes Unchecked := by
  refine makes_call trivial fun active => ?_
  split
  · exact makes_mono (beginAttendeeMfaSession_makes cookie person verifiedEmailHash returnTo) OfSession.unchecked
  · exact makes_mono (authenticateAttendeeSession_makes cookie _) OfSession.unchecked

end MilkAndHenny.Access

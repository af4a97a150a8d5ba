import MilkAndHenny.Access.Calls
import MilkAndHenny.Access.Codes
import MilkAndHenny.Access.Revocation

/-! Second factors that are still good when the sign-in ends. An authenticator is asked for
again by its id; a recovery code is not, so it counts on its set staying in force. -/

namespace MilkAndHenny.Access
open Library Library.Program

variable {site : Site} {worker : Nat} {db : Db} {β : Type} {op : Statement β} {α : Type} {entries history : List Entry}
  {now : Int} {flow : Flow α}

/-- Whose recovery codes the statement replaces, and which it has found to delete. -/
def replacing (site : Site) : {β : Type} → Statement β → Ctx → Db → Option (PersonId × List Nat)
  | _, .totp (.regenerate person replaced _), _, _ => some (person, replaced)
  | _, .totp (.finishEnrollment enrollment person session token _ replaced _), ctx, db =>
    if (db.enrolling enrollment person session ctx.now).any fun row =>
      (site.validateTotp ctx.now token row.secret none).isSome then some (person, replaced) else none
  | _, _, _, _ => none

def underWay : List Entry → List (Nat × PersonId)
  | [] => []
  | .accepted worker (.recovery person _) :: history => (worker, person) :: underWay history
  | .checked worker _ _ _ _ :: history => (underWay history).filter (·.1 ≠ worker)
  | _ :: history => underWay history

/-- Codes are replaced while no sign-in with one of them is under way, and no other replacement
has come between: the codes that were found are all that there are. -/
def undisturbedSets (site : Site) : Condition Statement Ctx Db :=
  fun live _ _ op ctx db => (replacing site op ctx db).all fun (person, replaced) =>
    (!(underWay db.history).any fun found => found.2 == person && live found.1) &&
      db.recoveryCodes.all fun row => row.personId != person || replaced.contains row.id

def Standing (db : Db) (person : PersonId) (id : Nat) : Prop :=
  (∃ row ∈ db.recoveryCodes, row.personId = person ∧ row.id = id) ∨
    ∀ row ∈ db.authenticators, row.personId = person → row.active = false

/-- The request has consumed a recovery code that has yet to be checked. -/
structure Recovering (worker : Nat) (person : PersonId) (id : Nat) (db : Db) : Prop where
  begun : (worker, person) ∈ underWay db.history
  standing : Standing db person id

/-- The last check of a sign-in is made with what its code calls for. -/
def Code.Backs (db : Db) (person : PersonId) (authenticator : Option Nat) : Code → Prop
  | .totp id _ => authenticator = some id
  | .recovery subject id => subject = person ∧ Standing db person id

def FactorOwes : {β : Type} → Statement β → Db → Prop
  | _, .totp (.completedEmailMfaIsStillValid person authenticator code), db => code.Backs db person authenticator
  | _, _, _ => True

/-- All recovery codes of a person are of the set that has last been put in place. -/
def InForce (db : Db) : Prop :=
  ∀ row ∈ db.recoveryCodes, ∀ generation, setInForce row.personId db.history = some generation → row.generationId = generation

structure FactorsValid (db : Db) : Prop extends CodesValid db where
  inForce : InForce db
  stood : ∀ worker person code alive, Entry.checked worker person code true alive ∈ db.history → alive = true

/-- A sign-in that is let stand rests on a code that its own request has had accepted and checked. -/
def Answer.Proved (worker : Nat) (db : Db) : Answer → Prop
  | .attempt tried => ∀ session value, tried.completed = some session → tried.answer = .ok value →
    ∃ code person, session.identity.personId = some person ∧ Entry.accepted worker code ∈ db.history ∧
      Entry.checked worker person code true true ∈ db.history
  | _ => True

def factors : Contract Statement Answer Db where
  valid := FactorsValid
  owes _ _ op db := FactorOwes op db
  allows worker before after := ∀ person id, Recovering worker person id before → Recovering worker person id after
  ends worker answer db := answer.Proved worker db

section
variable {other : Nat} {after : Db} {person subject : PersonId} {id : Nat} {ctx : Ctx} {live : Nat → Bool}
  {active replaced : List Nat} {codes : List String}

theorem Standing.same (standing : Standing db person id) (authenticators : after.authenticators = db.authenticators)
    (recoveryCodes : after.recoveryCodes = db.recoveryCodes) : Standing after person id := by
  unfold Standing
  rw [authenticators, recoveryCodes]
  exact standing

theorem mem_underWay_append (apart : ∀ checker person code stands alive,
    Entry.checked checker person code stands alive ∈ entries → checker ≠ other) (under : (other, person) ∈ underWay history) :
    (other, person) ∈ underWay (entries ++ history) := by
  induction entries with
  | nil => exact under
  | cons entry entries ih =>
    have rest := ih fun checker person code stands alive listed =>
      apart checker person code stands alive (mem_cons_of_mem _ listed)
    cases entry with
    | accepted worker code => cases code with
      | totp => exact rest
      | recovery => exact mem_cons_of_mem _ rest
    | checked checker person code stands alive =>
      refine mem_filter.mpr ⟨rest, ?_⟩
      simpa using (apart checker person code stands alive mem_cons_self).symm
    | _ => exact rest

theorem Recovering.seen (recovers : Recovering other person id db) (busy : live other = true) :
    ((underWay db.history).any fun found => found.2 == person && live found.1) = true :=
  any_eq_true.mpr ⟨_, recovers.begun, by simp [busy]⟩

theorem Standing.replaceRecoveryCodes (standing : Standing db person id) (apart : subject ≠ person) :
    Standing (db.replaceRecoveryCodes subject replaced codes) person id := by
  rcases standing with ⟨row, mem, same, named⟩ | inactive
  · exact .inl ⟨row, mem_append_left _ (mem_filter.mpr ⟨mem, by simp [same, apart.symm]⟩), same, named⟩
  · exact .inr inactive

theorem inactive_update {which : Authenticator → Bool} {change : Authenticator → Authenticator}
    (inactive : ∀ row ∈ db.authenticators, row.personId = person → row.active = false)
    (kept : ∀ row, (change row).personId = row.personId)
    (changed : ∀ row ∈ db.authenticators, which row → row.personId = person → (change row).active = false) :
    ∀ row ∈ update db.authenticators which change, row.personId = person → row.active = false := by
  intro row mem same
  obtain ⟨old, listed, rfl⟩ := mem_update.mp mem
  split at same
  · next selected =>
    rw [if_pos selected]
    exact changed old listed selected (kept old ▸ same)
  · next untouched =>
    rw [if_neg untouched]
    exact inactive old listed same

theorem Standing.enroll {session : Nat} {secret : String} (standing : Standing db person id) :
    Standing ((TotpStatement.enroll subject session secret).exec site ctx db).2 person id := by
  rcases standing with present | inactive
  · exact .inl present
  · refine .inr fun row mem same => ?_
    rcases mem_append.mp mem with old | new
    · exact inactive row (mem_filter.mp old).1 same
    · cases mem_singleton.mp new
      rfl

theorem Standing.verifyEnrollment {row : Authenticator} {counter : Int} (keyed : db.Keyed)
    (mem : row ∈ db.authenticators) (theirs : row.personId = subject) (standing : Standing db person id)
    (apart : subject ≠ person) : Standing (db.verifyEnrollment row.id subject active counter now) person id := by
  rcases standing with present | inactive
  · exact .inl present
  · let revoked : Db := { db with
      authenticators := update db.authenticators
        (fun row => row.personId == subject && row.active && active.contains row.id)
        fun row => { row with revokedAt := some now } }
    have still : ∀ row ∈ revoked.authenticators, row.personId = person → row.active = false :=
      inactive_update inactive (fun _ => rfl) fun _ _ _ _ => by simp [Authenticator.active]
    refine .inr (inactive_update still (fun _ => rfl) fun other listed selected same => absurd ?_ apart)
    obtain ⟨old, inTable, id, personId⟩ : ∃ old ∈ db.authenticators, other.id = old.id ∧ other.personId = old.personId := by
      obtain ⟨old, inTable, rfl⟩ := mem_update.mp listed
      refine ⟨old, inTable, ?_⟩
      split <;> exact ⟨rfl, rfl⟩
    have unique := keyed.row_unique inTable mem (id.symm.trans (by simpa using selected))
    rw [← theirs, ← unique, ← personId, same]

theorem Standing.disable (standing : Standing db person id) :
    Standing ((TotpStatement.disable subject).exec site ctx db).2 person id := by
  by_cases same : subject = person
  · subst same
    refine .inr fun row mem theirs => ?_
    obtain ⟨old, -, rfl⟩ := mem_update.mp mem
    split at theirs
    · next selected => simp [selected, Authenticator.active]
    · next revoked =>
      rw [if_neg revoked]
      simp only [theirs, beq_self_eq_true, Bool.true_and, not_eq_true] at revoked
      rw [Authenticator.active, revoked, Bool.and_false]
  · rcases standing with ⟨row, mem, theirs, named⟩ | inactive
    · exact .inl ⟨row, mem_filter.mpr ⟨mem, by simpa [theirs] using Ne.symm same⟩, theirs, named⟩
    · exact .inr (inactive_update inactive (fun _ => rfl) fun _ _ _ _ => by simp [Authenticator.active])

theorem standing_kept (op : Statement β) (keyed : db.Keyed) (standing : Standing db person id)
    (untouched : ∀ replaced, replacing site op ctx db ≠ some (person, replaced)) : Standing (op.exec site worker ctx db).2 person id := by
  cases op with
  | session op =>
    obtain ⟨authenticators, recoveryCodes, -⟩ := session_frame op site.mode worker ctx db
    exact standing.same authenticators recoveryCodes
  | totp op =>
    cases op with
    | enroll => exact standing.enroll
    | finishEnrollment enrollment subject session token active replaced =>
      simp only [Statement.exec, TotpStatement.exec]
      split
      · exact standing
      · next row found =>
        split
        · exact standing
        · next counter accepted =>
          have named := find?_some found
          simp only [and_eq_true, beq_iff_eq] at named
          have apart : subject ≠ person := by
            rintro rfl
            refine untouched replaced ?_
            simp [replacing, found, accepted]
          have verified : Standing (db.verifyEnrollment row.id subject active counter ctx.now) person id :=
            Standing.verifyEnrollment keyed (mem_of_find?_eq_some found) named.1.1.1.1.2 standing apart
          exact verified.replaceRecoveryCodes apart
    | acceptTotp =>
      simp only [Statement.exec, TotpStatement.exec]
      split
      · exact standing
      · split
        · exact standing
        · rcases standing with present | inactive
          · exact .inl present
          · exact .inr (inactive_update inactive (fun _ => rfl) fun row mem _ same => inactive row mem same)
    | consumeRecoveryCode =>
      simp only [Statement.exec, TotpStatement.exec]
      split
      · exact standing
      · next consumed _ =>
        rcases standing with ⟨row, mem, theirs, named⟩ | inactive
        · refine .inl ⟨_, mem_update.mpr ⟨row, mem, rfl⟩, ?_⟩
          split <;> exact ⟨theirs, named⟩
        · exact .inr inactive
    | disable => exact standing.disable
    | regenerate subject replaced =>
      exact standing.replaceRecoveryCodes fun same => untouched replaced (congrArg (fun subject => some (subject, replaced)) same)
    | _ => exact standing

theorem observe_session (op : SessionStatement β) (reply : β) :
    ∀ entry ∈ observe worker db (.session op) reply, ¬ entry.Factor := by
  have none {entry : Entry} (listed : entry ∈ ([] : List Entry)) : ¬ entry.Factor := absurd listed not_mem_nil
  have only {entry : Entry} (other : ¬ entry.Factor) : ∀ listed ∈ [entry], ¬ listed.Factor := fun listed mem =>
    mem_singleton.mp mem ▸ other
  cases op with
  | personSessionVersion person held => cases held with
    | none => exact fun _ => none
    | some =>
      simp only [observe]
      split
      · exact only id
      · exact fun _ => none
  | writeCurrent => cases reply with
    | false => exact fun _ => none
    | true => exact only id
  | replaceCurrent => cases reply with
    | none => exact fun _ => none
    | some =>
      intro entry mem
      obtain ⟨old, -, rfl⟩ := mem_map.mp mem
      exact not_false
  | revokePersonSessionVersion | commitRevocation => exact only id
  | _ => exact fun _ => none

theorem setInForce_append (none : ∀ subject generation, Entry.replaced subject generation ∉ entries) :
    setInForce person (entries ++ history) = setInForce person history := by
  induction entries with
  | nil => rfl
  | cons entry entries ih =>
    have rest := ih fun subject generation listed => none subject generation (mem_cons_of_mem _ listed)
    cases entry with
    | replaced subject generation => exact absurd mem_cons_self (none subject generation)
    | _ => exact rest

theorem InForce.kept (inForce : InForce db) (rows : ∀ row ∈ after.recoveryCodes, ∃ old ∈ db.recoveryCodes,
      old.personId = row.personId ∧ old.generationId = row.generationId)
    (sets : ∀ person, setInForce person after.history = setInForce person db.history) : InForce after := by
  intro row mem generation set
  obtain ⟨old, listed, theirs, same⟩ := rows row mem
  rw [sets, ← theirs] at set
  exact same ▸ inForce old listed generation set

theorem InForce.renewed (inForce : InForce db) (all : ∀ row ∈ db.recoveryCodes, row.personId = subject → row.id ∈ replaced)
    (rows : after.recoveryCodes = (db.replaceRecoveryCodes subject replaced codes).recoveryCodes)
    (sets : ∀ person, setInForce person after.history =
      if subject = person then some db.minted else setInForce person db.history) : InForce after := by
  intro row mem generation set
  rw [sets] at set
  rcases mem_replaceRecoveryCodes (rows ▸ mem) with ⟨old, kept⟩ | ⟨-, -, theirs, fresh⟩
  · have others : subject ≠ row.personId := fun same => kept.elim (· same.symm) (· (all row old same.symm))
    rw [if_neg others] at set
    exact inForce row old generation set
  · rw [if_pos theirs.symm] at set
    exact fresh.trans (some.inj set)

theorem inForce_kept (op : Statement β) (inForce : InForce db)
    (all : ∀ subject replaced, replacing site op ctx db = some (subject, replaced) →
      ∀ row ∈ db.recoveryCodes, row.personId = subject → row.id ∈ replaced) :
    InForce ((engine site).exec worker op ctx db).2 := by
  cases op with
  | session op =>
    obtain ⟨-, recoveryCodes, -⟩ := session_frame op site.mode worker ctx db
    refine inForce.kept (fun row mem => ⟨row, recoveryCodes ▸ mem, rfl, rfl⟩) fun person => ?_
    exact setInForce_append fun subject generation listed => absurd trivial (observe_session op _ _ listed)
  | totp op =>
    cases op with
    | finishEnrollment enrollment subject session token active replaced =>
      simp only [engine, Statement.exec, TotpStatement.exec]
      split
      · exact inForce
      · next row found =>
        split
        · exact inForce
        · next counter accepted =>
          refine inForce.renewed (all subject replaced ?_) rfl fun _ => rfl
          simp [replacing, found, accepted]
    | regenerate subject replaced => exact inForce.renewed (all subject replaced rfl) rfl fun _ => rfl
    | acceptTotp =>
      simp only [engine, Statement.exec, TotpStatement.exec]
      split
      · exact inForce
      · split <;> exact inForce
    | consumeRecoveryCode =>
      simp only [engine, Statement.exec, TotpStatement.exec]
      split
      · exact inForce
      · refine inForce.kept (fun row mem => ?_) fun _ => rfl
        obtain ⟨old, listed, rfl⟩ := mem_update.mp mem
        split <;> exact ⟨old, listed, rfl, rfl⟩
    | disable => exact inForce.kept (fun row mem => ⟨row, (mem_filter.mp mem).1, rfl, rfl⟩) fun _ => rfl
    | _ => exact inForce

theorem checked_of_observe {checker : Nat} {code : Code} {stands alive : Bool} (inForce : InForce db)
    (owed : FactorOwes op db)
    (listed : Entry.checked checker person code stands alive ∈ observe worker db op (op.exec site worker ctx db).1) :
    checker = worker ∧ (stands = true → alive = true) := by
  cases op with
  | session op => exact absurd trivial (observe_session op _ _ listed)
  | totp op =>
    cases op with
    | completedEmailMfaIsStillValid subject authenticator =>
      obtain ⟨rfl, rfl, rfl, rfl, rfl⟩ := Entry.checked.inj (mem_singleton.mp listed)
      refine ⟨rfl, fun stands => ?_⟩
      simp only [Statement.exec, TotpStatement.exec, and_eq_true, any_eq_true, beq_iff_eq] at stands
      obtain ⟨-, row, mem, ⟨same, active⟩, named⟩ := stands
      cases code with
      | totp id =>
        have owed : authenticator = some id := owed
        simp only [owed, all_some, beq_iff_eq] at named
        exact any_eq_true.mpr ⟨row, mem, by simp [same, active, named]⟩
      | recovery holder =>
        obtain ⟨rfl, ⟨found, listed, theirs, named⟩ | inactive⟩ := owed
        · have set : (setInForce holder db.history).all (found.generationId == ·) = true :=
              (Option.all_eq_true ..).mpr fun generation set => beq_iff_eq.mpr (inForce found listed generation (theirs ▸ set))
          simp only [Code.alive, beq_self_eq_true, Bool.true_and]
          exact any_eq_true.mpr ⟨found, listed, by simp [theirs, named, set]⟩
        · rw [inactive row mem same] at active
          cases active
    | finishEnrollment enrollment subject session token active replaced codes =>
      generalize (Statement.exec site worker
        (.totp (.finishEnrollment enrollment subject session token active replaced codes)) ctx db).1 = reply at listed
      cases reply with
      | none => cases listed
      | some =>
        rcases mem_cons.mp listed with same | listed
        · cases same
        · cases mem_singleton.mp listed
    | regenerate => cases mem_singleton.mp listed
    | acceptTotp authenticator token =>
      generalize (Statement.exec site worker (.totp (.acceptTotp authenticator token)) ctx db).1 = reply at listed
      cases reply with
      | none => cases listed
      | some => cases mem_singleton.mp listed
    | consumeRecoveryCode subject wanted =>
      generalize (Statement.exec site worker (.totp (.consumeRecoveryCode subject wanted)) ctx db).1 = reply at listed
      cases reply with
      | none => cases listed
      | some => cases mem_singleton.mp listed
    | _ => cases listed

theorem Answer.Proved.later {answer : Answer} (proved : answer.Proved worker db) (history : db.history <:+ after.history) :
    answer.Proved worker after := by
  cases answer with
  | attempt =>
    intro session value completed stands
    obtain ⟨code, person, held, accepted, checked⟩ := proved session value completed stands
    exact ⟨code, person, held, history.subset accepted, history.subset checked⟩
  | _ => trivial

theorem Recovering.later (recovers : Recovering other person id db) (apart : other ≠ worker)
    (valid : FactorsValid db) (owed : FactorOwes op db)
    (untouched : ∀ replaced, replacing site op ctx db ≠ some (person, replaced)) :
    Recovering other person id ((engine site).exec worker op ctx db).2 := by
  refine ⟨mem_underWay_append (fun checker person code stands alive listed => ?_) recovers.begun,
    standing_kept op valid.toKeyed recovers.standing untouched⟩
  exact (checked_of_observe valid.inForce owed listed).1 ▸ apart.symm

theorem met_of_replacing (met : undisturbedSets site live worker op ctx db = true)
    (replaces : replacing site op ctx db = some (person, replaced)) :
    ((underWay db.history).any fun found => found.2 == person && live found.1) = false ∧
      ∀ row ∈ db.recoveryCodes, row.personId = person → row.id ∈ replaced := by
  simp only [undisturbedSets, replaces, all_some, and_eq_true, not_eq_true', all_eq_true,
    or_eq_true, bne_iff_ne, contains_iff_mem] at met
  exact ⟨met.1, fun row mem theirs => (met.2 row mem).resolve_left (· theirs)⟩

theorem factors_sound (site : Site) : factors.Sound (engine site) (undisturbedSets site) where
  trans _ _ _ _ first second person id recovers := second person id (first person id recovers)
  valid _ worker _ op ctx db valid owed met := by
    refine ⟨codes_kept op worker ctx valid.toCodesValid,
      inForce_kept op valid.inForce fun _ _ replaces => (met_of_replacing met replaces).2, fun checker person code alive listed => ?_⟩
    rcases mem_append.mp listed with new | old
    · exact (checked_of_observe valid.inForce owed new).2 rfl
    · exact valid.stood checker person code alive old
  allows live worker _ op ctx db valid owed met other apart busy person id recovers := by
    refine recovers.later apart valid owed fun replaced replaces => ?_
    have alone := (met_of_replacing met replaces).1
    rw [recovers.seen busy] at alone
    cases alone
  ends _ _ _ _ _ _ _ _ _ _ _ proved := proved.later (List.suffix_append _ _)

end

/-! ### The requests -/

/-- Of a sign-in only that its version was drawn. -/
def bounded (site : Site) (condition : Condition Statement Ctx Db) : Vouching site condition where
  holds db _ claim := claim.Drawn db
  shows _ := True
  drawn drawn := drawn
  lasts evolves drawn := drawn.later evolves
  begins drawn _ := drawn
  yields _ _ _ := trivial
  others _ _ := trivial

section
variable {post : α → Db → Prop} {totpId : Option Nat} {code : Code} {pending : PendingMfa} {cookie : Option Nat}

abbrev insured (site : Site) : Contract Statement Answer Db := (custody (bounded site (undisturbedSets site))).both factors

abbrev Insures (site : Site) (worker : Nat) (flow : Flow α) (post : α → Db → Prop) (db : Db) : Prop :=
  flow.keeps (engine site) (insured site) (undisturbedSets site) worker post db

theorem factorOwes_unchecked (op : Statement β) (unchecked : Unchecked op) (db : Db) : FactorOwes op db := by
  cases op with
  | session => trivial
  | totp op => cases op with
    | completedEmailMfaIsStillValid => exact unchecked.elim
    | _ => trivial

theorem insures_unchecked
    (conducts : Conducts (bounded site (undisturbedSets site)) worker flow post db) (made : flow.makes Unchecked) :
    Insures site worker flow post db :=
  keeps_beside conducts made factorOwes_unchecked

/-- What a request that has had its code accepted knows until it is checked. -/
structure Ready (worker : Nat) (totpId : Option Nat) (code : Code) (db : Db) : Prop where
  accepted : Entry.accepted worker code ∈ db.history
  totp : ∀ id counter, code = .totp id counter → totpId = some id
  recovery : ∀ person id, code = .recovery person id → Recovering worker person id db

theorem Ready.others {after : Db} (ready : Ready worker totpId code db)
    (allowed : (insured site).allows worker db after) : Ready worker totpId code after :=
  ⟨allowed.1.history.subset ready.accepted, ready.totp, fun person id same => allowed.2 person id (ready.recovery person id same)⟩

theorem Ready.own {ctx : Ctx} (ready : Ready worker totpId code db)
    (ofSession : OfSession op) : Ready worker totpId code ((engine site).exec worker op ctx db).2 := by
  cases op with
  | totp => exact ofSession.elim
  | session op =>
    obtain ⟨authenticators, recoveryCodes, -⟩ := session_frame op site.mode worker ctx db
    refine ⟨mem_append_right _ ready.accepted, ready.totp, fun person id same => ?_⟩
    have recovers := ready.recovery person id same
    refine ⟨mem_underWay_append (fun checker person code stands alive listed => ?_) recovers.begun,
      recovers.standing.same authenticators recoveryCodes⟩
    exact absurd trivial (observe_session op _ _ listed)

def Proven (worker : Nat) (attempt : Option Attempt) (db : Db) : Prop := ∀ tried, attempt = some tried → (Answer.attempt tried).Proved worker db

theorem proven_none : Proven worker none db := fun _ none => absurd none (some_ne_none _).symm

theorem proven_refused {completed : Option AttendeeSession} {error : TotpError} :
    Proven worker (some { completed, answer := .error error }) db := by
  rintro tried same session value - stands
  rw [← some.inj same] at stands
  cases stands

theorem note_checked (worker : Nat) (person : PersonId) (authenticator : Option Nat) (code : Code) (ctx : Ctx) (before : Db) :
    ∃ alive, Entry.checked worker person code
        ((engine site).exec worker (.totp (.completedEmailMfaIsStillValid person authenticator code)) ctx before).1 alive ∈
      ((engine site).exec worker (.totp (.completedEmailMfaIsStillValid person authenticator code)) ctx before).2.history :=
  ⟨code.alive before person, mem_cons_self⟩

theorem insures_ask {next : β → Flow α}
    (free : ∀ db, Owes (bounded site (undisturbedSets site)) worker op db) (unchecked : ∀ db, FactorOwes op db)
    (rest : ∀ reply after, Evolves db after → Insures site worker (next reply) post after) :
    Insures site worker ((Program.perform op).bind next) post db := by
  refine fun before allowed valid => ⟨⟨free before, unchecked before⟩, fun _ ctx _ _ => rest _ _ ?_⟩
  exact allowed.1.toEvolves.trans (evolves_statement op valid.1 (free before))

theorem revoked_insures (person : PersonId) (session : AttendeeSession) (error : TotpError) (db : Db) :
    Insures site worker ((revokeAttendeeSessionsForPerson site person).bind fun _ =>
      .done (some { completed := some session, answer := .error error })) (Proven worker) db :=
  keeps_bind (insures_unchecked (revokeAttendeeSessionsForPerson_conducts person none nofun)
    (makes_mono (revokeAttendeeSessionsForPerson_makes person) OfSession.unchecked)) fun _ _ _ => proven_refused

theorem settleSignIn_insures {factor : MfaFactor}
    {remaining : Option Nat} {origin : Identity} (ready : Ready worker totpId code db)
    (carries : Carries cookie origin db) (isOrigin : origin.pendingMfa = some pending)
    (theirs : ∀ person id, code = .recovery person id → person = pending.personId) :
    Insures site worker (settleSignIn site cookie pending factor totpId code remaining) (Proven worker) db := by
  have made := @completeAttendeeMfaSession_makes site cookie factor totpId
  refine keeps_bind (keeps_and (insures_unchecked (completeAttendeeMfaSession_conducts cookie factor totpId)
    (makes_mono made OfSession.unchecked)) made (fun _ _ allowed ready => ready.others allowed)
    (fun _ _ _ _ _ ofSession _ _ _ ready => ready.own ofSession) ready) fun completed after ⟨known, ready⟩ => ?_
  cases completed with
  | none => exact proven_none
  | some completed =>
    dsimp only
    split
    · exact proven_refused
    · next session person isPerson =>
      obtain ⟨found, rfl, isPerson⟩ := bind_eq_some_iff.mp isPerson
      obtain ⟨_, held, same⟩ := map_eq_some_iff.mp isPerson
      obtain ⟨rfl, rfl⟩ := Prod.mk.inj same
      cases some.inj (held.symm.trans ((known found rfl).2 origin pending carries isOrigin))
      refine fun before allowed _ => ⟨⟨trivial, ?_⟩, fun live ctx _ valid => ?_⟩
      · have ready := ready.others allowed
        cases code with
        | totp id counter => exact ready.totp id counter rfl
        | recovery subject id =>
          cases theirs subject id rfl
          exact ⟨rfl, (ready.recovery _ id rfl).standing⟩
      · have accepted := (ready.others allowed).accepted
        obtain ⟨alive, noted⟩ := @note_checked site worker pending.personId totpId code ctx before
        have kept : Entry.accepted worker code ∈ ((engine site).exec worker
            (.totp (.completedEmailMfaIsStillValid pending.personId totpId code)) ctx before).2.history :=
          mem_append_right _ accepted
        generalize (engine site).exec worker (.totp (.completedEmailMfaIsStillValid pending.personId totpId code)) ctx before =
          result at valid noted kept ⊢
        obtain ⟨stands, after⟩ := result
        cases stands with
        | true =>
          cases valid.2.stood _ _ _ _ noted
          rintro tried same session value completed -
          rw [← some.inj same] at completed
          cases completed
          exact ⟨code, _, held, kept, noted⟩
        | false => exact revoked_insures pending.personId found _ after

theorem note_totp {authenticator : Nat} {token : String} {ctx : Ctx} {before : Db} {counter : Int}
    (accepted : ((engine site).exec worker (.totp (.acceptTotp authenticator token)) ctx before).1 = some counter) :
    Ready worker (some authenticator) (.totp authenticator counter)
      ((engine site).exec worker (.totp (.acceptTotp authenticator token)) ctx before).2 := by
  refine ⟨?_, fun id other same => congrArg some (Code.totp.inj same).1, fun person id same => (nomatch same)⟩
  change _ ∈ observe worker before (.totp (.acceptTotp authenticator token))
    ((engine site).exec worker (.totp (.acceptTotp authenticator token)) ctx before).1 ++ before.history
  rw [accepted]
  exact mem_cons_self

theorem note_recovery {person : PersonId} {wanted : String} {ctx : Ctx} {before : Db} {id left : Nat}
    (consumed : ((engine site).exec worker (.totp (.consumeRecoveryCode person wanted)) ctx before).1 = some (id, left)) :
    Ready worker none (.recovery person id)
      ((engine site).exec worker (.totp (.consumeRecoveryCode person wanted)) ctx before).2 := by
  have noted : ((engine site).exec worker (.totp (.consumeRecoveryCode person wanted)) ctx before).2.history =
      .accepted worker (.recovery person id) :: before.history := by
    change observe worker before (.totp (.consumeRecoveryCode person wanted))
      ((engine site).exec worker (.totp (.consumeRecoveryCode person wanted)) ctx before).1 ++ before.history = _
    rw [consumed]
    rfl
  refine ⟨noted ▸ mem_cons_self, fun id counter same => (nomatch same), fun subject other same => ?_⟩
  obtain ⟨rfl, rfl⟩ := Code.recovery.inj same
  refine ⟨noted ▸ mem_cons_self, .inl ?_⟩
  simp only [engine, Statement.exec, TotpStatement.exec] at consumed ⊢
  split at consumed
  · cases consumed
  · next row found =>
    obtain ⟨rfl, -⟩ := Prod.mk.inj (some.inj consumed)
    have named := find?_some found
    simp only [and_eq_true, beq_iff_eq] at named
    refine ⟨_, mem_update.mpr ⟨row, mem_of_find?_eq_some found, rfl⟩, ?_⟩
    simp only [beq_self_eq_true, if_true]
    exact ⟨named.1.1, trivial⟩

theorem carries_pending {began : Db} {answer : Option AttendeeSession} {session : AttendeeSession}
    (got : GotCurrent (bounded site (undisturbedSets site)) worker cookie began (some answer) db)
    (isPending : answer.bind (fun session => (session.identity.pendingMfa.filter (pendingMfaIsFresh · now)).map (session, ·)) =
      some (session, pending)) : ∃ origin, Carries cookie origin db ∧ origin.pendingMfa = some pending := by
  obtain ⟨found, rfl, isPending⟩ := bind_eq_some_iff.mp isPending
  obtain ⟨_, held, same⟩ := map_eq_some_iff.mp isPending
  obtain ⟨rfl, rfl⟩ := Prod.mk.inj same
  obtain ⟨origin, descends, carries⟩ := (got found rfl).carried
  exact ⟨origin, carries, descends.pendingMfa (filter_eq_some_iff.mp held).1⟩

theorem verifyPending_insures {cookie : Option Nat} {settle : PendingMfa → Flow (Option Attempt)}
    (settles : ∀ pending origin db, Carries cookie origin db → origin.pendingMfa = some pending → Insures site worker (settle pending) (Proven worker) db) :
    Insures site worker (verifyPending site cookie settle) (Proven worker) db := by
  refine keeps_bind (insures_unchecked (getAttendeeSession_conducts cookie)
    (makes_mono (getAttendeeSession_makes cookie) OfSession.unchecked)) fun session first got => ?_
  cases session with
  | none => exact proven_none
  | some session =>
    refine insures_ask (fun _ => trivial) (fun _ => trivial) fun now second evolves => ?_
    split
    · exact proven_refused
    next session pending isPending =>
    obtain ⟨origin, carries, isOrigin⟩ := carries_pending got isPending
    split
    · exact proven_refused
    refine insures_ask (fun _ => trivial) (fun _ => trivial) fun reserved third evolves' => ?_
    split
    · exact proven_refused
    · exact settles pending origin third (carries.later (evolves.trans evolves')) isOrigin

theorem verifyPendingTotp_insures (cookie : Option Nat) (token : String) :
    Insures site worker (verifyPendingTotp site cookie token) (Proven worker) db := by
  refine verifyPending_insures fun pending origin db carries isOrigin => ?_
  refine insures_ask (fun _ => trivial) (fun _ => trivial) fun active second evolves => ?_
  cases active with
  | none => exact proven_refused
  | some authenticator =>
  refine fun before allowed valid => ⟨⟨trivial, trivial⟩, fun live ctx _ _ => ?_⟩
  have later := evolves.trans allowed.1.toEvolves
  have own : Evolves before ((engine site).exec worker (.totp (.acceptTotp authenticator.id token)) ctx before).2 :=
    evolves_statement _ valid.1 trivial
  have carries := carries.later (later.trans own)
  have ready := @note_totp site worker authenticator.id token ctx before
  generalize (engine site).exec worker (.totp (.acceptTotp authenticator.id token)) ctx before = result at ready carries ⊢
  obtain ⟨accepted, after⟩ := result
  cases accepted with
  | none => exact proven_refused
  | some => exact settleSignIn_insures (ready rfl) carries isOrigin nofun

theorem verifyPendingRecoveryCode_insures (cookie : Option Nat) (code : String) :
    Insures site worker (verifyPendingRecoveryCode site cookie code) (Proven worker) db := by
  refine verifyPending_insures fun pending origin db carries isOrigin => ?_
  split
  · exact proven_refused
  let wanted := site.recoveryHash (site.normalizeRecoveryCode code)
  refine fun before allowed valid => ⟨⟨trivial, trivial⟩, fun live ctx _ _ => ?_⟩
  have own : Evolves before ((engine site).exec worker (.totp (.consumeRecoveryCode pending.personId wanted)) ctx before).2 :=
    evolves_statement _ valid.1 trivial
  have carries := carries.later (allowed.1.toEvolves.trans own)
  have ready := @note_recovery site worker pending.personId wanted ctx before
  generalize (engine site).exec worker (.totp (.consumeRecoveryCode pending.personId wanted)) ctx before = result at ready carries ⊢
  obtain ⟨consumed, after⟩ := result
  cases consumed with
  | none => exact proven_refused
  | some =>
    exact settleSignIn_insures (ready rfl) carries isOrigin fun person id same => (Code.recovery.inj same).1.symm

end

/-! ### Every request -/

theorem answering_insures {flow : Flow (Option AttendeeSession)} {post : Option AttendeeSession → Db → Prop}
    (conducts : Conducts (bounded site (undisturbedSets site)) worker flow post db) (made : flow.makes Unchecked) :
    Insures site worker (answering flow) ((insured site).ends worker) db :=
  keeps_bind (insures_unchecked conducts made) fun _ _ _ => ⟨trivial, trivial⟩

theorem discard_insures {post : α → Db → Prop}
    (conducts : Conducts (bounded site (undisturbedSets site)) worker flow post db) (made : flow.makes Unchecked) :
    Insures site worker (discard flow) ((insured site).ends worker) db :=
  keeps_bind (insures_unchecked conducts made) fun _ _ _ => ⟨trivial, trivial⟩

theorem joining_insures {flow : Flow (Option (Option AttendeeSession))} {post : Option (Option AttendeeSession) → Db → Prop}
    (conducts : Conducts (bounded site (undisturbedSets site)) worker flow post db) (made : flow.makes OfSession) :
    Insures site worker (answering (flow.bind fun answer => .done answer.join)) ((insured site).ends worker) db := by
  have joined : Conducts (bounded site (undisturbedSets site)) worker (flow.bind fun answer => .done answer.join)
      (fun _ _ => True) db := keeps_bind conducts fun _ _ _ => trivial
  exact answering_insures joined (makes_mono (makes_bind made fun _ => trivial) OfSession.unchecked)

theorem attempt_insures {flow : Flow (Option Attempt)}
    (conducts : Conducts (bounded site (undisturbedSets site)) worker flow (Attempted worker) db)
    (insures : Insures site worker flow (Proven worker) db) :
    Insures site worker (flow.bind fun attempt => .done ((attempt.map .attempt).getD .done)) ((insured site).ends worker) db := by
  refine keeps_bind (keeps_conj conducts insures) fun attempt after ⟨settled, proven⟩ => ?_
  cases attempt with
  | none => exact ⟨trivial, trivial⟩
  | some tried => exact ⟨settled tried rfl, proven tried rfl⟩

theorem serve_insures (request : Request) (worker : Nat) (db : Db) :
    Insures site worker (serve site request) ((insured site).ends worker) db := by
  cases request with
  | signInByEmail cookie person email returnTo =>
    exact answering_insures (establishEmailAuthenticatedSession_conducts cookie person email returnTo)
      (establishEmailAuthenticatedSession_makes cookie person email returnTo)
  | authenticate cookie input =>
    exact answering_insures (authenticateAttendeeSession_conducts cookie input)
      (makes_mono (authenticateAttendeeSession_makes cookie input) OfSession.unchecked)
  | beginMfa cookie person email returnTo =>
    exact answering_insures (beginAttendeeMfaSession_conducts cookie person email returnTo)
      (makes_mono (beginAttendeeMfaSession_makes cookie person email returnTo) OfSession.unchecked)
  | completeMfa cookie factor totpId =>
    exact joining_insures (completeAttendeeMfaSession_conducts cookie factor totpId)
      (completeAttendeeMfaSession_makes cookie factor totpId)
  | stepUp cookie totpId =>
    exact joining_insures (stepUpAttendeeSession_conducts cookie totpId) (stepUpAttendeeSession_makes cookie totpId)
  | signOut cookie => exact joining_insures (signOutAttendeeSession_conducts cookie) (signOutAttendeeSession_makes cookie)
  | ensure cookie =>
    exact answering_insures (loadOrCreate_conducts cookie) (makes_mono (loadOrCreate_makes cookie) OfSession.unchecked)
  | read cookie =>
    refine keeps_bind (insures_unchecked (getAttendeeSession_conducts cookie)
      (makes_mono (getAttendeeSession_makes cookie) OfSession.unchecked)) fun answer after got => ⟨fun session same => ?_, trivial⟩
    exact (got session (Option.join_eq_some_iff.mp same)).shown
  | readForRequest cookie =>
    exact keeps_bind (insures_unchecked (getAttendeeSessionForRequest_conducts cookie)
      (makes_mono (getAttendeeSessionForRequest_makes cookie) OfSession.unchecked)) fun _ _ shown => ⟨shown, trivial⟩
  | openTicket cookie found mode =>
    exact answering_insures (openAttendeeTicket_conducts cookie found mode)
      (makes_mono (openAttendeeTicket_makes cookie found mode) OfSession.unchecked)
  | clear cookie =>
    cases cookie with
    | none => exact ⟨trivial, trivial⟩
    | some => exact insures_ask (fun _ => trivial) (fun _ => trivial) fun _ _ _ => ⟨trivial, trivial⟩
  | revoke person =>
    exact keeps_bind (insures_unchecked (revokeAttendeeSessionsForPerson_conducts person none nofun)
      (makes_mono (revokeAttendeeSessionsForPerson_makes person) OfSession.unchecked)) fun _ _ known => ⟨known.2, trivial⟩
  | beginEnrollment cookie secret =>
    exact discard_insures (beginTotpEnrollment_conducts cookie secret) (beginTotpEnrollment_makes cookie secret)
  | finishEnrollment cookie enrollment token codes =>
    exact discard_insures (finishTotpEnrollment_conducts cookie enrollment token codes)
      (finishTotpEnrollment_makes cookie enrollment token codes)
  | verifyTotp cookie token =>
    exact attempt_insures (verifyPendingTotp_conducts cookie token) (verifyPendingTotp_insures cookie token)
  | verifyRecoveryCode cookie code =>
    exact attempt_insures (verifyPendingRecoveryCode_conducts cookie code) (verifyPendingRecoveryCode_insures cookie code)
  | disable cookie => exact discard_insures (disableTotp_conducts cookie) (disableTotp_makes cookie)
  | regenerate cookie codes =>
    exact discard_insures (regenerateRecoveryCodes_conducts cookie codes) (regenerateRecoveryCodes_makes cookie codes)
  | expireLock => exact insures_ask (fun _ => trivial) (fun _ => trivial) fun _ _ _ => ⟨trivial, trivial⟩

/-- What second factors are worth, once an attempt with one has been answered. -/
structure CodesSafe (pool : Pool Statement Answer Db) : Prop where
  /-- A sign-in that is let stand has a code of a verified authenticator, or of the set in force. -/
  stood : ∀ worker person code alive, Entry.checked worker person code true alive ∈ pool.db.history → alive = true
  /-- One that is answered rests on a code that the very request has had accepted and checked. -/
  proved : ∀ (worker : Nat) tried session value, pool.workers[worker]? = some (.running (.done (.attempt tried))) →
    tried.completed = some session → tried.answer = .ok value → ∃ code person, session.identity.personId = some person ∧
      Entry.accepted worker code ∈ pool.db.history ∧ Entry.checked worker person code true true ∈ pool.db.history
  refused : ∀ (worker : Nat) tried session error person, pool.workers[worker]? = some (.running (.done (.attempt tried))) →
    tried.completed = some session → tried.answer = .error error → session.identity.personId = some person →
    Stale pool.db person session.identity.personSessionVersion

/-- No code is ever accepted twice; and as long as no recovery codes are replaced while a
sign-in with one of them is under way, no code that is no longer good leaves a person signed in. -/
theorem codes_safe (site : Site) {db : Db} (unwatched : db.Unwatched) (keyed : db.Keyed) (events : List (Event Request Ctx)) :
    OneTime (serveAll site db events).db.history ∧
    (Pool.along (engine site) (serve site) (undisturbedSets site) { db, workers := [] } events →
      CodesSafe (serveAll site db events)) := by
  have empty {p : Prop} {entry : Entry} (listed : entry ∈ db.history) : p := by
    rw [unwatched.history] at listed
    cases listed
  have codes : CodesValid db := by
    refine ⟨keyed, fun code listed => ?_, ?_⟩ <;> rw [unwatched.history] at *
    · cases listed
    · exact List.Pairwise.nil
  have inForce : InForce db := by
    intro row _ generation set
    rw [unwatched.history] at set
    cases set
  refine ⟨?_, fun met => ?_⟩
  · have always : Pool.along (engine site) (serve site) (fun _ _ _ _ _ _ => true) { db, workers := [] } events :=
      Pool.along_true events _
    exact (Pool.run_valid (fun _ worker _ op ctx _ valid _ => codes_kept op worker ctx valid) events _ codes always).oneTime
  · have sessions : SessionsValid (bounded site (undisturbedSets site)) db :=
      unwatched.sessionsValid _ (fun _ _ drawn => drawn) trivial
    have kept : (insured site).Kept (engine site) (undisturbedSets site) (serveAll site db events) :=
      Contract.run_kept (custody_sound.both (factors_sound site)) (fun _ db => ⟨.refl db, fun _ _ recovers => recovers⟩)
        (fun request _ worker db => serve_insures request worker db) events _
        ⟨⟨sessions, codes, inForce, fun _ _ _ _ listed => empty listed⟩, nofun⟩
        (only_true events) met
    refine ⟨kept.valid.2.stood, fun worker tried session value answered completed stands => ?_,
      fun worker tried session error person answered completed refused held => ?_⟩
    · exact (kept.workers worker _ answered).2 session value completed stands
    · exact (kept.workers worker _ answered).1 session error person completed refused held

/-! ### A recovery code that is replaced while it signs in -/

theorem keyed_empty : Db.Keyed {} where
  authenticators := nodup_nil
  recoveryCodes := nodup_nil
  authenticatorsDrawn _ listed := absurd listed not_mem_nil
  recoveryCodesDrawn _ listed := absurd listed not_mem_nil

/-- Sign in, set up an authenticator app with one recovery code, and begin another sign-in, which
has the recovery code accepted by its first calls. -/
def codeAccepted : List (Event Request Ctx) :=
  [.start (.authenticate none { personId := attendee })] ++ steps 0 10 {} ++
  [.start (.beginEnrollment (some 1) "secret")] ++ steps 1 7 {} ++
  [.start (.finishEnrollment (some 1) 2 "000000" ["AAAAAAAAAAAA"])] ++ steps 2 17 {} ++
  [.start (.signInByEmail none attendee "address" "/")] ++ steps 3 11 {} ++
  [.start (.verifyRecoveryCode (some 7) "AAAAAAAAAAAA")] ++ steps 4 6 {}

def setReplaced : List (Event Request Ctx) :=
  codeAccepted ++ [.start (.regenerate (some 5) ["BBBBBBBBBBBB"])] ++ steps 5 8 {} ++ steps 4 11 {}

def Entry.onDeadCode : Entry → Bool
  | .checked _ _ _ true false => true
  | _ => false

theorem setReplaced_unsafe : ¬ CodesSafe (serveAll (deployment .postgres) {} setReplaced) := by
  intro safe
  have dead : (serveAll (deployment .postgres) {} setReplaced).db.history.any (·.onDeadCode) = true := by decide +kernel
  obtain ⟨entry, listed, isDead⟩ := any_eq_true.mp dead
  unfold Entry.onDeadCode at isDead
  split at isDead
  · exact absurd (safe.stood _ _ _ _ listed) Bool.false_ne_true
  · cases isDead

def setKept : List (Event Request Ctx) :=
  codeAccepted ++ steps 4 11 {} ++ [.start (.regenerate (some 5) ["BBBBBBBBBBBB"])] ++ steps 5 8 {}

theorem codes_safe_setKept : OneTime (serveAll (deployment .postgres) {} setKept).db.history ∧
    CodesSafe (serveAll (deployment .postgres) {} setKept) :=
  have ⟨oneTime, safe⟩ := codes_safe (deployment .postgres) unwatched_empty keyed_empty setKept
  ⟨oneTime, safe (by decide +kernel)⟩

end MilkAndHenny.Access

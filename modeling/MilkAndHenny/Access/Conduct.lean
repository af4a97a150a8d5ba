import MilkAndHenny.Access.Custody

/-! Every request keeps the custody contract, whatever is vouched for about sign-ins. -/

namespace MilkAndHenny.Access
open Library Library.Program

variable {person : PersonId} {site : Site} {condition : Condition Statement Ctx Db} {vouching : Vouching site condition}
  {worker : Nat} {db after : Db} {session : AttendeeSession} {id : Nat} {changes : Identity} {α : Type}
  {read : AttendeeSession} {flow : Flow α} {before : Db} {post : α → Db → Prop}

/-- A session in hand, of which only what normalisation drops may be missing. -/
structure Known {site : Site} {condition : Condition Statement Ctx Db} (vouching : Vouching site condition) (db : Db)
    (session : AttendeeSession) : Prop where
  low : session.id < db.minted
  vouched : Vouched vouching db session.identity
  origin : ∃ origin : Identity, origin.WellFormed ∧ session.identity.Descends origin ∧
    ∀ row, db.row session.id = some row → row.identity.Descends origin

/-- The identity may be stored in place of that of the session. -/
structure Offered {site : Site} {condition : Condition Statement Ctx Db} (vouching : Vouching site condition) (worker : Nat)
    (db : Db) (id : Nat) (changes : Identity) : Prop where
  low : id < db.minted
  formed : changes.WellFormed
  vouched : Vouched vouching db changes
  completes : ∀ row, db.row id = some row → Completes worker row.identity changes

/-- No one else writes the session. -/
def Held (mode : StorageMode) (worker : Nat) (db : Db) (id : Nat) : Prop := mode ≠ .redis → db.lockedBy id = some worker

section

theorem Known.later (known : Known vouching db session) (evolves : Evolves db after) : Known vouching after session := by
  obtain ⟨origin, formed, descends, rows⟩ := known.origin
  refine ⟨known.low.trans_le evolves.minted, known.vouched.later evolves, origin, formed, descends, fun row isRow => ?_⟩
  obtain ⟨old, isOld, descends'⟩ := evolves.rows _ row known.low isRow
  exact descends'.trans (rows old isOld)

theorem Known.of_row (valid : SessionsValid vouching db) (isRow : db.row id = some session) : Known vouching db session := by
  cases Db.row_id isRow
  obtain ⟨row, mem, same⟩ := Db.mem_of_row isRow
  refine ⟨same ▸ valid.ids row mem, valid.vouched _ _ isRow, session.identity, valid.formed _ _ isRow, .refl _,
    fun row again => ?_⟩
  rw [some.inj (again.symm.trans isRow)]
  exact .refl _

theorem Known.descends (known : Known vouching db session) (same : read.id = session.id)
    (descends : read.identity.Descends session.identity) : Known vouching db read := by
  obtain ⟨origin, formed, descends', rows⟩ := known.origin
  exact ⟨same ▸ known.low, known.vouched.descends descends, origin, formed, descends.trans descends', fun row isRow =>
    rows row (same ▸ isRow)⟩

theorem Known.wellFormed (known : Known vouching db session) : session.identity.WellFormed :=
  have ⟨_, formed, descends, _⟩ := known.origin
  descends.wellFormed formed

theorem Offered.later (offered : Offered vouching worker db id changes) (evolves : Evolves db after) :
    Offered vouching worker after id changes := by
  refine ⟨offered.low.trans_le evolves.minted, offered.formed, offered.vouched.later evolves, fun row isRow => ?_⟩
  obtain ⟨old, isOld, descends⟩ := evolves.rows id row offered.low isRow
  exact fun pending person held => offered.completes old isOld pending person (descends.pendingMfa held)

variable (known : Known vouching db session)
include known

theorem Known.no_pending (held : session.identity.personId = some person) {row : AttendeeSession} (isRow : db.row session.id = some row) :
    row.identity.pendingMfa = none := by
  obtain ⟨origin, formed, descends, rows⟩ := known.origin
  refine Option.eq_none_iff_forall_ne_some.mpr fun pending found => ?_
  have absent := formed (((rows row isRow).pendingMfa found).symm ▸ nofun)
  rw [descends.personId held] at absent
  cases absent

theorem Known.offers_own : Offered vouching worker db session.id session.identity := by
  refine ⟨known.low, known.wellFormed, known.vouched, fun row isRow pending person found held => ?_⟩
  rw [known.no_pending held isRow] at found
  cases found

theorem Known.offers_nobody : Offered vouching worker db session.id {} :=
  ⟨known.low, absurd rfl, ⟨nofun, nofun⟩, fun _ _ _ _ _ held => nomatch held⟩

theorem Known.offers_completed {pending : PendingMfa}
    (held : session.identity.pendingMfa = some pending) (factor : MfaFactor) (totpId : Option Nat) (now : Int) :
    Offered vouching worker db session.id (pending.completed factor totpId now) := by
  refine ⟨known.low, absurd rfl, ⟨fun person same => ?_, nofun⟩, fun row isRow earlier person found same _ => ?_⟩
  · cases same
    exact known.vouched.pending pending held
  · obtain ⟨origin, -, descends, rows⟩ := known.origin
    cases some.inj ((descends.pendingMfa held).symm.trans ((rows row isRow).pendingMfa found))
    exact ⟨(some.inj same).symm, rfl⟩

theorem Known.offers_steppedUp (held : session.identity.personId = some person) (totpId : Nat) (authenticatedAt now : Int) :
    Offered vouching worker db session.id (session.identity.steppedUp totpId authenticatedAt now) := by
  refine ⟨known.low, absurd rfl, ⟨known.vouched.person, nofun⟩,
    fun row isRow earlier _ found _ _ => ?_⟩
  rw [known.no_pending held isRow] at found
  cases found

end

/-! ### Calls -/

section
variable {β : Type}

/-- The program keeps the contract, and the rest is known when it ends. -/
abbrev Conducts (vouching : Vouching site condition) (worker : Nat) (flow : Flow α) (post : α → Db → Prop) (db : Db) : Prop :=
  flow.keeps (engine site) (custody vouching) condition worker post db

variable {post : α → Db → Prop}

theorem conducts_call {op : Statement β} {next : β → Flow α}
    (owed : ∀ before, Respects site.mode worker db before → SessionsValid vouching before → Owes vouching worker op before)
    (rest : ∀ before live ctx, Respects site.mode worker db before → SessionsValid vouching before →
      condition live worker op ctx before → Evolves db ((engine site).exec worker op ctx before).2 →
      SessionsValid vouching ((engine site).exec worker op ctx before).2 →
      Conducts vouching worker (next ((engine site).exec worker op ctx before).1) post
        ((engine site).exec worker op ctx before).2) :
    Conducts vouching worker ((Program.perform op).bind next) post db := by
  refine fun before allowed valid => ⟨owed before allowed valid, fun live ctx met valid' => ?_⟩
  have evolves : Evolves before ((engine site).exec worker op ctx before).2 := evolves_statement op valid (owed before allowed valid)
  exact rest before live ctx allowed valid met (allowed.toEvolves.trans evolves) valid'

theorem conducts_look {op : Statement β} {next : β → Flow α} (answer : Ctx → Db → β)
    (free : ∀ db, Owes vouching worker op db)
    (same : ∀ ctx before, (engine site).exec worker op ctx before = (answer ctx before, before))
    (rest : ∀ before ctx, SessionsValid vouching before → Respects site.mode worker db before →
      Conducts vouching worker (next (answer ctx before)) post before) :
    Conducts vouching worker ((Program.perform op).bind next) post db := by
  refine fun before allowed valid => ⟨free before, fun live ctx _ _ => ?_⟩
  rw [same]
  exact rest before ctx valid allowed

theorem conducts_ask {op : Statement β} {next : β → Flow α} (free : ∀ db, Owes vouching worker op db)
    (rest : ∀ reply after, Evolves db after → Conducts vouching worker (next reply) post after) :
    Conducts vouching worker ((Program.perform op).bind next) post db :=
  conducts_call (fun before _ _ => free before) fun _ _ _ _ _ _ evolves _ => rest _ _ evolves

private theorem conducts_remember {first : Db} (conducts : Conducts vouching worker flow post db)
    (grown : Evolves first db) :
    Conducts vouching worker flow (fun value after => Evolves first after ∧ post value after) db := by
  induction flow generalizing db with
  | done => exact ⟨grown, conducts⟩
  | call op next ih =>
    intro before allowed valid
    obtain ⟨owed, rest⟩ := conducts before allowed valid
    refine ⟨owed, fun live ctx met after => ih _ (rest live ctx met after) ?_⟩
    exact grown.trans (allowed.toEvolves.trans (evolves_statement op valid owed))

theorem conducts_bind {first : β → Db → Prop} {flow : Flow β} {next : β → Flow α}
    (conducts : Conducts vouching worker flow first db)
    (rest : ∀ value after, Evolves db after → first value after → Conducts vouching worker (next value) post after) :
    Conducts vouching worker (flow.bind next) post db :=
  keeps_bind (conducts_remember conducts (.refl db)) fun value after known => rest value after known.1 known.2

end

/-! ### Reading a session -/

theorem exec_version (person : PersonId) (held : Claim) (ctx : Ctx) (before : Db) :
    (engine site).exec worker (.session (.personSessionVersion person (some held))) ctx before =
      (before.version person, { before with history :=
        (if before.version person = held.version then [.yielded worker person held.origin] else []) ++ before.history }) := rfl

theorem reads_version (person : PersonId) (held : Claim) (ctx : Ctx) (before : Db) :
    Respects site.mode worker before
      ((engine site).exec worker (.session (.personSessionVersion person (some held))) ctx before).2 := by
  rw [exec_version]
  split
  · refine Quiet.respects ⟨rfl, rfl, rfl, le_rfl, [.yielded worker person held.origin], rfl, fun entry mem => ?_⟩
    cases mem_singleton.mp mem
    trivial
  · exact .refl before

theorem validLegacyPerson_conducts (legacySchema : Bool) (person : PersonId) (asked : Asked) :
    Conducts vouching worker (validLegacyPerson legacySchema person asked)
      (fun found after => Respects site.mode worker db after ∧ found.2.versions = asked.versions) db := by
  unfold validLegacyPerson
  split
  · exact ⟨.refl db, rfl⟩
  split
  · exact ⟨.refl db, rfl⟩
  split
  · exact ⟨.refl db, rfl⟩
  · exact conducts_look (fun ctx _ => ctx.personExists) (fun _ => trivial) (fun _ _ => rfl) fun _ _ _ respects => ⟨respects, rfl⟩

theorem hasCurrentVersion_conducts {person : PersonId} {held : Claim} {asked : Asked} (vouched : vouching.holds db person held)
    (unasked : asked.versions = []) :
    Conducts vouching worker (hasCurrentVersion person held asked)
      (fun found after => Respects site.mode worker db after ∧
        (found.1 = true → Entry.yielded worker person held.origin ∈ after.history)) db := by
  unfold hasCurrentVersion
  rw [unasked]
  refine conducts_call (fun _ respects _ => vouching.lasts respects.toEvolves vouched) fun before _ ctx respects _ _ _ _ => ?_
  rw [exec_version]
  have noted := @reads_version site worker person held ctx before
  refine ⟨respects.trans noted, fun current => ?_⟩
  rw [if_pos (of_decide_eq_true current)]
  exact mem_cons_self

theorem invalidPerson_conducts (legacySchema : Bool) (person : PersonId) (held : Claim)
    (vouched : vouching.holds db person held) :
    Conducts vouching worker (invalidPerson legacySchema (some person) held {})
      (fun found after => Respects site.mode worker db after ∧
        (found.1 = false → Entry.yielded worker person held.origin ∈ after.history)) db := by
  refine keeps_bind (validLegacyPerson_conducts legacySchema person {}) fun (known, asked) after ⟨respects, unasked⟩ => ?_
  cases known with
  | false => exact ⟨respects, nofun⟩
  | true =>
    refine keeps_bind (hasCurrentVersion_conducts (vouching.lasts respects.toEvolves vouched) unasked)
      fun (current, _) later ⟨respects', yielded⟩ => ⟨respects.trans respects', fun valid => yielded ?_⟩
    simpa using valid

theorem invalidPerson_none (legacySchema : Bool) (held : Claim) (asked : Asked) :
    invalidPerson legacySchema none held asked = pure (false, asked) := rfl

structure Reading (worker : Nat) (db : Db) (stored read : AttendeeSession) : Prop where
  id : read.id = stored.id
  tickets : read.tickets = stored.tickets
  descends : read.identity.Descends stored.identity
  shown : Shown worker db read.identity

theorem normalizeStoredSession_conducts (formed : session.identity.WellFormed)
    (vouched : Vouched vouching db session.identity) :
    Conducts vouching worker (normalizeStoredSession session)
      (fun read after => Respects site.mode worker db after ∧ Reading worker after session read.1) db := by
  have dropped (after : Db) : Reading worker after session session.withoutIdentity := ⟨rfl, rfl, .inr (.inr rfl), fun _ _ shows => by simp [Identity.Shows, AttendeeSession.withoutIdentity] at shows⟩
  unfold normalizeStoredSession
  cases person : session.identity.personId with
  | some subject =>
    have alone : session.identity.pendingMfa = none := by
      refine not_isSome_iff_eq_none.mp fun pending => ?_
      rw [formed (isSome_iff_ne_none.mp pending)] at person
      cases person
    rw [alone]
    refine keeps_bind (invalidPerson_conducts _ subject _ (vouched.person subject person))
      fun (invalid, asked) after ⟨respects, yielded⟩ => ?_
    cases invalid with
    | true => exact ⟨respects, dropped after⟩
    | false =>
      refine ⟨respects, rfl, rfl, .refl _, ?_⟩
      rintro held _ (⟨same, rfl⟩ | ⟨pending, held, -⟩)
      · cases some.inj (person.symm.trans same)
        exact yielded rfl
      · cases alone.symm.trans held
  | none =>
    cases pending : session.identity.pendingMfa with
    | none =>
      refine ⟨.refl db, rfl, rfl, .refl _, ?_⟩
      rintro held _ (⟨same, -⟩ | ⟨again, held, -⟩)
      · cases person.symm.trans same
      · cases pending.symm.trans held
    | some pendingMfa =>
      simp only [invalidPerson_none, Program.pure_eq, Program.bind_eq, Program.bind_done]
      refine keeps_bind (invalidPerson_conducts _ pendingMfa.personId _ (vouched.pending pendingMfa pending))
        fun (invalid, asked) after ⟨respects, yielded⟩ => ?_
      cases invalid with
      | true =>
        refine ⟨respects, rfl, rfl, .inr (.inl rfl), ?_⟩
        rintro held _ (⟨same, -⟩ | ⟨again, held, -⟩)
        · cases person.symm.trans same
        · cases held
      | false =>
        refine ⟨respects, rfl, rfl, .refl _, ?_⟩
        rintro held _ (⟨same, -⟩ | ⟨again, held, rfl, rfl⟩)
        · cases person.symm.trans same
        · cases some.inj (pending.symm.trans held)
          exact yielded rfl

def Carries (cookie : Option Nat) (origin : Identity) (db : Db) : Prop :=
  ∃ id, cookie = some id ∧ id < db.minted ∧ ∀ row, db.row id = some row → row.identity.Descends origin

theorem Carries.later {cookie : Option Nat} {origin : Identity} (carries : Carries cookie origin db)
    (evolves : Evolves db after) : Carries cookie origin after := by
  obtain ⟨id, same, low, rows⟩ := carries
  refine ⟨id, same, low.trans_le evolves.minted, fun row isRow => ?_⟩
  obtain ⟨old, isOld, descends⟩ := evolves.rows id row low isRow
  exact descends.trans (rows old isOld)

structure ReadBy (vouching : Vouching site condition) (worker : Nat) (db : Db) (id : Nat) (read : AttendeeSession) : Prop where
  named : read.id = id
  known : Known vouching db read
  shown : Shown worker db read.identity
  /-- While it is locked, the session stays what it was when it was read. -/
  row : ∀ row, db.row id = some row → db.lockedBy id = some worker →
    read.identity.Descends row.identity ∧ read.tickets = row.tickets

theorem readById_conducts (id : Nat) :
    Conducts vouching worker (readById id)
      (fun read after => Respects site.mode worker db after ∧ ∀ found, read = some found →
        ReadBy vouching worker after id found.1 ∧
        ∀ origin, Carries (some id) origin db → found.1.identity.Descends origin) db := by
  refine conducts_look (fun ctx db => db.session id ctx.now) (fun _ => trivial) (fun _ _ => rfl) fun before ctx valid respects => ?_
  split
  · exact ⟨respects, fun _ found => absurd found (some_ne_none _).symm⟩
  · next session found =>
    have isRow : before.row id = some session := Db.row_of_session found
    have known := Known.of_row valid isRow
    refine keeps_bind (normalizeStoredSession_conducts known.wellFormed known.vouched) ?_
    rintro read after ⟨respects', reading⟩
    refine ⟨respects.trans respects', fun found same => ?_⟩
    cases same
    have named := Db.row_id isRow
    refine ⟨⟨reading.id.trans named, (known.later respects'.toEvolves).descends reading.id reading.descends, reading.shown,
      fun row again mine => ?_⟩, fun origin carries => ?_⟩
    · rw [respects'.row id session row (named ▸ known.low) isRow again mine]
      exact ⟨reading.descends, reading.tickets⟩
    · obtain ⟨_, same, -, rows⟩ := carries.later respects.toEvolves
      cases same
      exact reading.descends.trans (rows session isRow)

/-! ### Rotating a session -/

section
variable {began : Db}

theorem Held.later (held : Held site.mode worker db id) (respects : Respects site.mode worker db after) :
    Held site.mode worker after id :=
  fun durable => respects.held durable id (held durable)

theorem lockedBy_of_granted (id : Nat) (ctx : Ctx) (before : Db)
    (granted : ((engine site).exec worker (.session (.acquire id)) ctx before).1 = .granted) :
    ((engine site).exec worker (.session (.acquire id)) ctx before).2.lockedBy id = some worker := by
  simp only [engine, Statement.exec, SessionStatement.exec] at granted ⊢
  split at granted
  · cases granted
  split at granted
  · cases granted
  · rw [if_neg ‹_›, if_neg ‹_›]
    exact lookup_cons_self

theorem acquire_conducts (id attempts : Nat) :
    Conducts vouching worker (acquire id attempts) (fun granted after => granted = true → Held site.mode worker after id) db := by
  induction attempts generalizing db with
  | zero => exact nofun
  | succ attempts ih =>
    refine conducts_call (fun _ _ _ => trivial) fun before _ ctx _ _ _ _ _ => ?_
    have locked := @lockedBy_of_granted site worker id ctx before
    generalize (engine site).exec worker (.session (.acquire id)) ctx before = result at locked ⊢
    obtain ⟨reply, after⟩ := result
    cases reply with
    | granted => exact fun _ _ => locked rfl
    | gone => exact nofun
    | busy => exact ih

theorem withSessionMutation_conducts {use : Flow (Option α)} {post : Option α → Db → Prop}
    (inner : ∀ after, Evolves db after → Held site.mode worker after id → Conducts vouching worker use post after)
    (later : ∀ value before after, Evolves before after → post value before → post value after)
    (busy : ∀ after, post none after) : Conducts vouching worker (withSessionMutation site id use) post db := by
  refine conducts_bind (acquire_conducts id _) fun granted after evolves held => ?_
  split
  · next got =>
    refine conducts_bind (inner after evolves (held got)) fun result after' _ known => ?_
    exact conducts_ask (fun _ => trivial) fun _ _ evolves => later result _ _ evolves known
  · exact busy after

theorem ReadBy.later (known : ReadBy vouching worker db id read)
    (respects : Respects site.mode worker db after) : ReadBy vouching worker after id read := by
  refine ⟨known.named, known.known.later respects.toEvolves, known.shown.later respects.history, fun row isRow mine => ?_⟩
  obtain ⟨old, isOld, -⟩ := respects.rows id row (known.named ▸ known.known.low) isRow
  cases respects.row id old row (known.named ▸ known.known.low) isOld isRow mine
  exact known.row row isOld (respects.lockedBy id mine)

theorem row_of_replaced {new : AttendeeSession} {ctx : Ctx} (low : id < before.minted)
    (valid : SessionsValid vouching before)
    (replaced : ((engine site).exec worker (.session (.replaceCurrent id session)) ctx before).1 = some new) :
    new.identity = session.identity ∧
    ((engine site).exec worker (.session (.replaceCurrent id session)) ctx before).2.row new.id = some new := by
  simp only [engine, Statement.exec, SessionStatement.exec] at replaced ⊢
  split at replaced
  · next commits =>
    cases replaced
    rw [if_pos commits]
    refine ⟨rfl, (row_replaced valid).trans ?_⟩
    have drawn : (before.insertSession site.mode ctx.now session).1.id = before.minted := rfl
    rw [drawn, if_neg low.ne', if_pos rfl]
    rfl
  · cases replaced

theorem rotateSession_conducts (offered : Offered vouching worker db session.id changes) :
    Conducts vouching worker (rotateSession site session changes)
      (fun rotated after => ∀ new, rotated = some new → new.identity = changes ∧ Known vouching after new) db := by
  refine withSessionMutation_conducts (fun after evolves held => ?_) (fun value before after evolves known new same => ?_)
    (fun _ _ none => absurd none (some_ne_none _).symm)
  · refine keeps_bind (readById_conducts session.id) fun read db' ⟨respects, known⟩ => ?_
    cases read with
    | none => exact fun _ none => absurd none (some_ne_none _).symm
    | some read =>
      have read := (known read rfl).1
      refine conducts_look (fun ctx _ => ctx.now) (fun _ => trivial) (fun _ _ => rfl) fun before ctx valid respects' => ?_
      have held := (held.later respects).later respects'
      have offered := (offered.later evolves).later (respects.trans respects').toEvolves
      have read := read.later respects'
      intro before' allowed valid'
      have offered := offered.later allowed.toEvolves
      refine ⟨⟨held.later allowed, offered.formed, offered.vouched, fun old isOld => ⟨offered.completes old isOld, fun mine =>
        ((read.later allowed).row old isOld mine).2⟩⟩, fun live ctx' _ after new replaced => ?_⟩
      obtain ⟨same, isRow⟩ := row_of_replaced offered.low valid' replaced
      exact ⟨same, .of_row after isRow⟩
  · exact (known new same).imp_right (·.later evolves)

/-- A session that has been read or written by the request, if there is one. -/
def Got (vouching : Vouching site condition) (answer : Option AttendeeSession) (db : Db) : Prop :=
  ∀ session, answer = some session → Known vouching db session

/-- The session of the cookie: its identity was found to be current, and is what the session
has carried since the request began. -/
structure Current (vouching : Vouching site condition) (worker : Nat) (cookie : Option Nat) (began db : Db) (session : AttendeeSession) :
    Prop where
  known : Known vouching db session
  shown : Shown worker db session.identity
  carried : ∃ origin, session.identity.Descends origin ∧ Carries cookie origin db
  since : ∀ origin, Carries cookie origin began → session.identity.Descends origin

def GotCurrent (vouching : Vouching site condition) (worker : Nat) (cookie : Option Nat) (began : Db)
    (answer : Option (Option AttendeeSession)) (db : Db) : Prop :=
  ∀ session, answer = some (some session) → Current vouching worker cookie began db session

theorem ReadBy.current (read : ReadBy vouching worker db id session)
    (since : ∀ origin, Carries (some id) origin began → session.identity.Descends origin) :
    Current vouching worker (some id) began db session := by
  obtain ⟨origin, -, descends, rows⟩ := read.known.origin
  have named := read.named
  exact ⟨read.known, read.shown, ⟨origin, descends, id, rfl, named ▸ read.known.low, named ▸ rows⟩, since⟩

theorem got_none : Got vouching none db := fun _ none => absurd none (some_ne_none _).symm

theorem rotateSession_got (offered : Offered vouching worker db session.id changes) :
    Conducts vouching worker (rotateSession site session changes) (Got vouching) db :=
  keeps_mono (rotateSession_conducts offered) fun _ _ known new same => (known new same).2

theorem rotateSession_gotCurrent {cookie : Option Nat} (current : Current vouching worker cookie began db session) :
    Conducts vouching worker (do
      let rotated ← rotateSession site session session.identity
      return rotated.map some) (GotCurrent vouching worker cookie began) db := by
  refine conducts_bind (rotateSession_conducts current.known.offers_own) fun rotated after evolves replaced session same => ?_
  cases rotated with
  | none => exact absurd same (some_ne_none _).symm
  | some new =>
    obtain rfl := some.inj (some.inj same)
    obtain ⟨kept, known⟩ := replaced new rfl
    obtain ⟨origin, descends, carries⟩ := current.carried
    exact ⟨known, kept ▸ current.shown.later evolves.history, ⟨origin, kept ▸ descends, carries.later evolves⟩,
      fun origin carries => kept ▸ current.since origin carries⟩

theorem getAttendeeSession_conducts (cookie : Option Nat) :
    Conducts vouching worker (getAttendeeSession site cookie) (GotCurrent vouching worker cookie db) db := by
  have nobody (after : Db) : GotCurrent vouching worker cookie db (some none) after := fun _ same => nomatch some.inj same
  cases cookie with
  | none => exact nobody db
  | some id =>
    refine keeps_bind (readById_conducts id) fun read after ⟨_, known⟩ => ?_
    cases read with
    | none => exact nobody after
    | some read =>
      obtain ⟨session, upgrade⟩ := read
      obtain ⟨read, since⟩ := known (session, upgrade) rfl
      cases upgrade with
      | true => exact rotateSession_gotCurrent (read.current since)
      | false =>
        refine conducts_look (fun ctx _ => ctx.now) (fun _ => trivial) (fun _ _ => rfl) fun before ctx _ respects => ?_
        have current := (read.later respects).current since
        split
        · exact rotateSession_gotCurrent current
        · intro found same
          cases some.inj (some.inj same)
          exact current

theorem getAttendeeSessionForRequest_conducts (cookie : Option Nat) :
    Conducts vouching worker (getAttendeeSessionForRequest cookie)
      (fun answer after => ∀ session, answer = some session → Shown worker after session.identity) db := by
  cases cookie with
  | none => exact fun _ none => absurd none (some_ne_none _).symm
  | some id =>
    refine keeps_bind (readById_conducts id) fun read after ⟨_, known⟩ session same => ?_
    obtain ⟨found, isRead, rfl⟩ := map_eq_some_iff.mp same
    exact (known found isRead).1.shown

theorem loadOrCreate_conducts (cookie : Option Nat) :
    Conducts vouching worker (loadOrCreate site cookie) (Got vouching) db := by
  have created (after : Db) : Conducts vouching worker (do
      let now ← perform .clock
      let created ← perform (.write { id := 0, createdAt := now, lastSeenAt := now })
      return some created) (Got vouching) after := by
    refine conducts_look (fun ctx _ => ctx.now) (fun _ => trivial) (fun _ _ => rfl) fun before ctx _ _ => ?_
    refine conducts_call (fun _ _ _ => rfl) fun before' _ ctx' _ valid _ _ valid' session same => ?_
    cases same
    exact .of_row valid' ((Db.row_insertSession valid.ids).trans (if_pos rfl))
  cases cookie with
  | none => exact created db
  | some id =>
    refine keeps_bind (readById_conducts id) fun read after ⟨_, known⟩ => ?_
    cases read with
    | none => exact created after
    | some read =>
      obtain ⟨session, upgrade⟩ := read
      have read := (known (session, upgrade) rfl).1
      cases upgrade with
      | true => exact rotateSession_got read.known.offers_own
      | false =>
        intro found same
        cases same
        exact read.known

end

/-! ### The requests about sessions -/

section

theorem conducts_begin {next : Option Nat → Flow α}
    (rest : ∀ before, Evolves db before → vouching.holds before person { version := before.version person, origin := worker } →
      Conducts vouching worker (next (before.version person)) post before) :
    Conducts vouching worker ((perform (.personSessionVersion person none)).bind next) post db := by
  refine fun before allowed valid => ⟨trivial, fun live ctx met _ => ?_⟩
  exact rest before allowed.toEvolves (vouching.begins (valid.versions person) met)

variable (cookie : Option Nat)

theorem authenticateAttendeeSession_conducts (input : SignIn) :
    Conducts vouching worker (authenticateAttendeeSession site cookie input) (Got vouching) db := by
  unfold authenticateAttendeeSession
  split
  · exact got_none
  refine conducts_bind (loadOrCreate_conducts cookie) fun session after _ got => ?_
  cases session with
  | none => exact got_none
  | some session =>
    refine conducts_ask (fun _ => trivial) fun now _ evolves => ?_
    refine conducts_begin fun before evolves' vouched => ?_
    have known := ((got session rfl).later evolves).later evolves'
    refine conducts_look (fun _ _ => worker) (fun _ => trivial) (fun _ _ => rfl) fun before' _ _ respects => ?_
    have known := known.later respects.toEvolves
    refine rotateSession_got ⟨known.low, absurd rfl, ⟨fun person same => ?_, nofun⟩,
      fun _ _ _ _ _ _ apart => absurd rfl apart⟩
    cases same
    exact vouching.lasts respects.toEvolves vouched

theorem beginAttendeeMfaSession_conducts (person : PersonId) (verifiedEmailHash returnTo : String) :
    Conducts vouching worker (beginAttendeeMfaSession site cookie person verifiedEmailHash returnTo) (Got vouching) db := by
  unfold beginAttendeeMfaSession
  split
  · exact got_none
  refine conducts_bind (loadOrCreate_conducts cookie) fun session after _ got => ?_
  cases session with
  | none => exact got_none
  | some session =>
    refine conducts_begin fun before evolves vouched => ?_
    have known := (got session rfl).later evolves
    refine conducts_look (fun _ _ => worker) (fun _ => trivial) (fun _ _ => rfl) fun before' _ _ respects => ?_
    refine conducts_ask (fun _ => trivial) fun now after' evolves' => ?_
    have evolves := respects.toEvolves.trans evolves'
    have known := known.later evolves
    refine rotateSession_got ⟨known.low, fun _ => rfl, ⟨nofun, fun pending same => ?_⟩, fun _ _ _ _ _ held => nomatch held⟩
    cases same
    exact vouching.lasts evolves vouched

theorem completeAttendeeMfaSession_conducts (factor : MfaFactor) (totpId : Option Nat) :
    Conducts vouching worker (completeAttendeeMfaSession site cookie factor totpId)
      (fun completed after => ∀ session, completed = some (some session) → Known vouching after session ∧
        ∀ origin pending, Carries cookie origin db → origin.pendingMfa = some pending →
          session.identity.personId = some pending.personId) db := by
  refine conducts_bind (getAttendeeSession_conducts cookie) fun answer after _ got => ?_
  cases answer with
  | none => exact fun _ same => nomatch same
  | some answer =>
    cases answer with
    | none => exact fun _ same => nomatch some.inj same
    | some session =>
      have current := got session rfl
      refine conducts_ask (fun _ => trivial) fun now after' evolves => ?_
      split
      · exact fun _ same => nomatch some.inj same
      · next pending isPending =>
        obtain ⟨held, -⟩ := filter_eq_some_iff.mp isPending
        refine conducts_bind (rotateSession_conducts ((current.known.later evolves).offers_completed held factor totpId now))
          fun rotated _ _ got new same => ?_
        cases rotated with
        | none => cases same
        | some rotated =>
          obtain rfl := some.inj (some.inj same)
          obtain ⟨completed, known⟩ := got rotated rfl
          refine ⟨known, fun origin pending' carries isOrigin => ?_⟩
          cases some.inj (isOrigin.symm.trans ((current.since origin carries).pendingMfa held))
          exact completed ▸ rfl

theorem stepUpAttendeeSession_conducts (totpId : Nat) :
    Conducts vouching worker (stepUpAttendeeSession site cookie totpId) (fun _ _ => True) db := by
  refine conducts_bind (getAttendeeSession_conducts cookie) fun answer after _ got => ?_
  cases answer with
  | none => trivial
  | some answer =>
    cases answer with
    | none => trivial
    | some session =>
      have known := (got session rfl).known
      dsimp only
      split
      · next person authenticatedAt held _ =>
        refine conducts_ask (fun _ => trivial) fun now after' evolves => ?_
        exact conducts_bind (rotateSession_got ((known.later evolves).offers_steppedUp held totpId authenticatedAt now))
          fun _ _ _ _ => trivial
      · trivial

theorem signOutAttendeeSession_conducts :
    Conducts vouching worker (signOutAttendeeSession site cookie) (fun _ _ => True) db := by
  refine conducts_bind (getAttendeeSession_conducts cookie) fun answer after _ got => ?_
  cases answer with
  | none => trivial
  | some answer =>
    cases answer with
    | none => trivial
    | some session =>
      exact conducts_bind (rotateSession_got (got session rfl).known.offers_nobody) fun _ _ _ _ => trivial

variable (session : AttendeeSession)

theorem openTicket_identity (found : FoundTicket) (mode : AccessMode) (now : Int) :
    (session.openTicket found mode now).identity = session.identity := by
  unfold AttendeeSession.openTicket
  extract_lets existing access tickets others
  split <;> rfl

theorem openTicket_ticketIds (found : FoundTicket) (mode : AccessMode) (now : Int) :
    (session.openTicket found mode now).tickets.map (·.ticketId) =
      if session.tickets.any (·.ticketId == found.ticketId) then session.tickets.map (·.ticketId)
      else session.tickets.map (·.ticketId) ++ [found.ticketId] := by
  have unmoved (entry : AttendeeTicketAccess) (p : Prop) [Decidable p] (mode : AccessMode) :
      (if p then { entry with mode } else entry : AttendeeTicketAccess).ticketId = entry.ticketId := by
    split <;> rfl
  unfold AttendeeSession.openTicket
  extract_lets existing access tickets others
  have listed : tickets.map (·.ticketId) = if session.tickets.any (·.ticketId == found.ticketId) then
      session.tickets.map (·.ticketId) else session.tickets.map (·.ticketId) ++ [found.ticketId] := by
    simp only [tickets]
    split
    · simp [unmoved]
    · simp [access]
  split
  · simpa [Function.comp_def, unmoved] using listed
  · exact listed

theorem openTicket_opens (found : FoundTicket) (mode : AccessMode) (now : Int) :
    ∃ access ∈ (session.openTicket found mode now).tickets, access.ticketId = found.ticketId := by
  rw [← mem_map, openTicket_ticketIds]
  split
  · next listed =>
    obtain ⟨access, mem, same⟩ := any_eq_true.mp listed
    exact mem_map.mpr ⟨access, mem, by simpa using same⟩
  · exact mem_append_right _ (mem_singleton.mpr rfl)

theorem openTicket_keeps (found : FoundTicket) (mode : AccessMode) (now : Int) :
    ∀ access ∈ session.tickets, ∃ kept ∈ (session.openTicket found mode now).tickets, kept.ticketId = access.ticketId := by
  intro access mem
  rw [← mem_map, openTicket_ticketIds]
  have listed : access.ticketId ∈ session.tickets.map (·.ticketId) := mem_map.mpr ⟨access, mem, rfl⟩
  split
  · exact listed
  · exact mem_append_left _ listed

theorem openAttendeeTicket_conducts (found : FoundTicket) (mode : AccessMode) :
    Conducts vouching worker (openAttendeeTicket site cookie found mode) (fun _ _ => True) db := by
  refine conducts_bind (loadOrCreate_conducts cookie) fun initial after _ _ => ?_
  cases initial with
  | none => trivial
  | some initial =>
    refine withSessionMutation_conducts (fun after' _ held => ?_) (fun _ _ _ _ _ => trivial) fun _ => trivial
    refine keeps_bind (readById_conducts initial.id) fun read db' ⟨respects, known⟩ => ?_
    cases read with
    | none => trivial
    | some read =>
      have known := (known read rfl).1
      refine conducts_look (fun ctx _ => ctx.now) (fun _ => trivial) (fun _ _ => rfl) fun before ctx _ respects' => ?_
      refine conducts_call (fun before' allowed _ => ?_) fun _ _ _ _ _ _ _ _ => ?_
      · refine ⟨((held.later respects).later respects').later allowed, openTicket_opens .., fun old isOld mine => ?_⟩
        obtain ⟨descends, same⟩ := ((known.later respects').later allowed).row old isOld mine
        rw [openTicket_identity, ← same]
        exact ⟨descends, openTicket_keeps _ _ _ _⟩
      · split <;> trivial

theorem stale_of_set {version : Option Nat} (set : after.version person = some before.minted)
    (minted : before.minted ≤ after.minted) (drawn : ∀ drawn, version = some drawn → drawn < before.minted) :
    Stale after person version :=
  ⟨fun same => absurd (drawn _ (same.symm.trans set)) (lt_irrefl _), fun number held => (drawn number held).trans_le minted⟩

theorem revokeAttendeeSessionsForPerson_conducts (person : PersonId) (version : Option Nat)
    (drawn : ∀ drawn, version = some drawn → drawn < db.minted) :
    Conducts vouching worker (revokeAttendeeSessionsForPerson site person)
      (fun _ after => Stale after person version ∧ Entry.revoked worker person ∈ after.history) db := by
  have later {after : Db} (evolves : Evolves db after) : ∀ drawn, version = some drawn → drawn < after.minted :=
    fun number held => (drawn number held).trans_le evolves.minted
  unfold revokeAttendeeSessionsForPerson
  split
  · refine conducts_ask (fun _ => trivial) fun _ after evolves => ?_
    refine fun before allowed _ => ⟨trivial, fun _ _ _ _ => ⟨?_, mem_cons_self⟩⟩
    exact stale_of_set ((version_setVersion person person).trans (if_pos rfl)) (Nat.le_succ _)
      (later (evolves.trans allowed.toEvolves))
  · refine conducts_call (fun _ _ _ => trivial) fun before _ ctx allowed _ _ _ _ => ?_
    have stale : Stale ((engine site).exec worker (.session (.revokePersonSessionVersion person)) ctx before).2 person version :=
      stale_of_set ((version_setVersion person person).trans (if_pos rfl)) (Nat.le_succ _) (later allowed.toEvolves)
    refine conducts_ask (fun _ => trivial) fun ids _ evolves => conducts_ask (fun _ => trivial) fun _ _ evolves' => ?_
    exact ⟨Stale.later (Stale.later stale evolves) evolves',
      evolves'.history.subset (evolves.history.subset mem_cons_self)⟩

end

/-! ### Second factors -/

section

/-- An attempt that has completed a session without being let stand has made it worthless. -/
def Attempted (worker : Nat) (attempt : Option Attempt) (db : Db) : Prop :=
  ∀ tried, attempt = some tried → (Answer.attempt tried).Settled worker db

theorem attempted_none : Attempted worker none db := fun _ none => absurd none (some_ne_none _).symm

theorem attempted_incomplete (answer : TotpResult (String × Option Nat)) : Attempted worker (some { answer }) db := by
  rintro tried same session error person completed - -
  rw [← some.inj same] at completed
  cases completed

variable (cookie : Option Nat)
include cookie

theorem settleSignIn_conducts (pending : PendingMfa) (factor : MfaFactor) (totpId : Option Nat)
    (code : Code) (remaining : Option Nat) :
    Conducts vouching worker (settleSignIn site cookie pending factor totpId code remaining) (Attempted worker) db := by
  refine conducts_bind (completeAttendeeMfaSession_conducts cookie factor totpId) fun completed after _ known => ?_
  cases completed with
  | none => exact attempted_none
  | some completed =>
    dsimp only
    split
    · exact attempted_incomplete _
    · next session person isPerson =>
      obtain ⟨found, rfl, isPerson⟩ := bind_eq_some_iff.mp isPerson
      obtain ⟨_, held, same⟩ := map_eq_some_iff.mp isPerson
      obtain ⟨rfl, rfl⟩ := Prod.mk.inj same
      have known := (known found rfl).1
      refine conducts_ask (fun _ => trivial) fun stands after' evolves => ?_
      split
      · rintro tried same session error person - refused -
        rw [← some.inj same] at refused
        cases refused
      · have drawn := vouching.drawn ((known.later evolves).vouched.person _ held)
        refine conducts_bind (revokeAttendeeSessionsForPerson_conducts _ _ drawn) fun _ last _ ⟨stale, _⟩ => ?_
        rintro tried same session error person completed - held'
        rw [← some.inj same] at completed
        cases completed
        cases some.inj (held.symm.trans held')
        exact stale

theorem verifyPending_conducts {settle : PendingMfa → Flow (Option Attempt)}
    (settles : ∀ pending db, Conducts vouching worker (settle pending) (Attempted worker) db) :
    Conducts vouching worker (verifyPending site cookie settle) (Attempted worker) db := by
  refine conducts_bind (getAttendeeSession_conducts cookie) fun session _ _ _ => ?_
  cases session with
  | none => exact attempted_none
  | some =>
    refine conducts_ask (fun _ => trivial) fun now _ _ => ?_
    split
    · exact attempted_incomplete _
    split
    · exact attempted_incomplete _
    refine conducts_ask (fun _ => trivial) fun reserved _ _ => ?_
    split
    · exact attempted_incomplete _
    · exact settles _ _

theorem verifyPendingTotp_conducts (token : String) :
    Conducts vouching worker (verifyPendingTotp site cookie token) (Attempted worker) db := by
  refine verifyPending_conducts cookie fun pending db => ?_
  refine conducts_ask (fun _ => trivial) fun active _ _ => ?_
  split
  · exact attempted_incomplete _
  refine conducts_ask (fun _ => trivial) fun accepted _ _ => ?_
  cases accepted with
  | none => exact attempted_incomplete _
  | some => exact settleSignIn_conducts cookie ..

theorem verifyPendingRecoveryCode_conducts (code : String) :
    Conducts vouching worker (verifyPendingRecoveryCode site cookie code) (Attempted worker) db := by
  refine verifyPending_conducts cookie fun pending db => ?_
  split
  · exact attempted_incomplete _
  refine conducts_ask (fun _ => trivial) fun remaining _ _ => ?_
  cases remaining with
  | none => exact attempted_incomplete _
  | some => exact settleSignIn_conducts cookie ..

theorem beginTotpEnrollment_conducts (secret : String) :
    Conducts vouching worker (beginTotpEnrollment site cookie secret) (fun _ _ => True) db := by
  refine conducts_bind (getAttendeeSession_conducts cookie) fun session _ _ _ => ?_
  cases session with
  | none => trivial
  | some =>
    refine conducts_ask (fun _ => trivial) fun now _ _ => ?_
    split
    · split
      · trivial
      split
      · trivial
      refine conducts_ask (fun _ => trivial) fun reserved _ _ => ?_
      split
      · trivial
      refine conducts_ask (fun _ => trivial) fun exists_ _ _ => ?_
      split
      · trivial
      · exact conducts_ask (fun _ => trivial) fun _ _ _ => trivial
    · trivial

theorem finishTotpEnrollment_conducts (enrollment : Nat) (token : String) (codes : List String) :
    Conducts vouching worker (finishTotpEnrollment site cookie enrollment token codes) (fun _ _ => True) db := by
  refine conducts_bind (getAttendeeSession_conducts cookie) fun session _ _ _ => ?_
  cases session with
  | none => trivial
  | some =>
    dsimp only
    split
    · trivial
    split
    · trivial
    refine conducts_ask (fun _ => trivial) fun reserved _ _ => ?_
    split
    · trivial
    refine conducts_ask (fun _ => trivial) fun active _ _ => conducts_ask (fun _ => trivial) fun replaced _ _ =>
      conducts_ask (fun _ => trivial) fun finished _ _ => ?_
    split
    · trivial
    · refine conducts_bind (stepUpAttendeeSession_conducts cookie enrollment) fun answer _ _ _ => ?_
      cases answer <;> trivial

theorem disableTotp_conducts : Conducts vouching worker (disableTotp site cookie) (fun _ _ => True) db := by
  refine conducts_bind (getAttendeeSession_conducts cookie) fun session _ _ _ => ?_
  cases session with
  | none => trivial
  | some =>
    refine conducts_ask (fun _ => trivial) fun now _ _ => ?_
    split
    · trivial
    split
    · trivial
    · refine conducts_ask (fun _ => trivial) fun _ _ _ => ?_
      exact conducts_bind (revokeAttendeeSessionsForPerson_conducts _ none nofun) fun _ _ _ _ => trivial

theorem regenerateRecoveryCodes_conducts (codes : List String) :
    Conducts vouching worker (regenerateRecoveryCodes site cookie codes) (fun _ _ => True) db := by
  refine conducts_bind (getAttendeeSession_conducts cookie) fun session _ _ _ => ?_
  cases session with
  | none => trivial
  | some =>
    refine conducts_ask (fun _ => trivial) fun now _ _ => ?_
    split
    · trivial
    split
    · trivial
    split
    · trivial
    refine conducts_ask (fun _ => trivial) fun reserved _ _ => ?_
    split
    · trivial
    refine conducts_ask (fun _ => trivial) fun active _ _ => ?_
    split
    · trivial
    · exact conducts_ask (fun _ => trivial) fun replaced _ _ => conducts_ask (fun _ => trivial) fun _ _ _ => trivial

theorem establishEmailAuthenticatedSession_conducts (person : PersonId) (verifiedEmailHash returnTo : String) :
    Conducts vouching worker (establishEmailAuthenticatedSession site cookie person verifiedEmailHash returnTo)
      (Got vouching) db := by
  refine conducts_ask (fun _ => trivial) fun active _ _ => ?_
  split
  · exact beginAttendeeMfaSession_conducts cookie person verifiedEmailHash returnTo
  · exact authenticateAttendeeSession_conducts cookie _

end

/-! ### Every request -/

theorem answering_conducts {flow : Flow (Option AttendeeSession)} {post : Option AttendeeSession → Db → Prop}
    (conducts : Conducts vouching worker flow post db) :
    Conducts vouching worker (answering flow) ((custody vouching).ends worker) db :=
  keeps_bind conducts fun _ _ _ => trivial

theorem discard_conducts (conducts : Conducts vouching worker flow post db) :
    Conducts vouching worker (discard flow) ((custody vouching).ends worker) db :=
  keeps_bind conducts fun _ _ _ => trivial

theorem joining_conducts {flow : Flow (Option (Option AttendeeSession))} {post : Option (Option AttendeeSession) → Db → Prop}
    (conducts : Conducts vouching worker flow post db) :
    Conducts vouching worker (answering (flow.bind fun answer => .done answer.join)) ((custody vouching).ends worker) db := by
  have joined : Conducts vouching worker (flow.bind fun answer => .done answer.join) (fun _ _ => True) db :=
    keeps_bind conducts fun _ _ _ => trivial
  exact answering_conducts joined

theorem attempt_conducts {flow : Flow (Option Attempt)} (conducts : Conducts vouching worker flow (Attempted worker) db) :
    Conducts vouching worker (flow.bind fun attempt => .done ((attempt.map .attempt).getD .done))
      ((custody vouching).ends worker) db := by
  refine keeps_bind conducts fun attempt after settled => ?_
  cases attempt with
  | none => trivial
  | some tried => exact settled tried rfl

theorem serve_conducts (request : Request) (worker : Nat) (db : Db) :
    (serve site request).keeps (engine site) (custody vouching) condition worker ((custody vouching).ends worker) db := by
  cases request with
  | signInByEmail cookie person email returnTo =>
    exact answering_conducts (establishEmailAuthenticatedSession_conducts cookie person email returnTo)
  | authenticate cookie input => exact answering_conducts (authenticateAttendeeSession_conducts cookie input)
  | beginMfa cookie person email returnTo =>
    exact answering_conducts (beginAttendeeMfaSession_conducts cookie person email returnTo)
  | completeMfa cookie factor totpId => exact joining_conducts (completeAttendeeMfaSession_conducts cookie factor totpId)
  | stepUp cookie totpId => exact joining_conducts (stepUpAttendeeSession_conducts cookie totpId)
  | signOut cookie => exact joining_conducts (signOutAttendeeSession_conducts cookie)
  | ensure cookie => exact answering_conducts (loadOrCreate_conducts cookie)
  | read cookie =>
    refine keeps_bind (getAttendeeSession_conducts cookie) fun answer after got session same => ?_
    exact (got session (Option.join_eq_some_iff.mp same)).shown
  | readForRequest cookie =>
    refine keeps_bind (getAttendeeSessionForRequest_conducts cookie) fun answer after shown session same => ?_
    exact shown session same
  | openTicket cookie found mode => exact answering_conducts (openAttendeeTicket_conducts cookie found mode)
  | clear cookie =>
    cases cookie with
    | none => trivial
    | some => exact conducts_ask (fun _ => trivial) fun _ _ _ => trivial
  | revoke person => exact keeps_bind (revokeAttendeeSessionsForPerson_conducts person none nofun) fun _ _ known => known.2
  | beginEnrollment cookie secret => exact discard_conducts (beginTotpEnrollment_conducts cookie secret)
  | finishEnrollment cookie enrollment token codes =>
    exact discard_conducts (finishTotpEnrollment_conducts cookie enrollment token codes)
  | verifyTotp cookie token => exact attempt_conducts (verifyPendingTotp_conducts cookie token)
  | verifyRecoveryCode cookie code => exact attempt_conducts (verifyPendingRecoveryCode_conducts cookie code)
  | disable cookie => exact discard_conducts (disableTotp_conducts cookie)
  | regenerate cookie codes => exact discard_conducts (regenerateRecoveryCodes_conducts cookie codes)
  | expireLock => exact conducts_ask (fun _ => trivial) fun _ _ _ => trivial

end MilkAndHenny.Access

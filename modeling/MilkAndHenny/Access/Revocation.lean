import MilkAndHenny.Access.Conduct

/-! What a revocation is worth. A request begins when it is started, so its number says which
of two began first, and a revocation has taken effect once the version is replaced. -/

namespace MilkAndHenny.Access
open Library

variable {db : Db} {person : PersonId} {site : Site}

/-- Has a revocation of the person that began no earlier than the sign-in taken effect? -/
def revokedSince (person : PersonId) (origin : Nat) (history : List Entry) : Bool :=
  history.any fun
    | .revoked worker subject => subject == person && decide (origin ≤ worker)
    | _ => false

/-- No read has found a sign-in current that a later revocation of the person had already met. -/
def timely : List Entry → Bool
  | [] => true
  | .yielded _ person origin :: history => !revokedSince person origin history && timely history
  | _ :: history => timely history

/-- A sign-in that reads the version of its person finds no revocation that began after it. -/
def uncrossed : Condition Statement Ctx Db
  | _, worker, _, .session (.personSessionVersion person none), _, db => !revokedSince person worker db.history
  | _, _, _, _, _, _ => true

/-- What an attendee may rely on, whatever the requests and however they overlap. -/
structure SessionsSafe (site : Site) (db : Db) (events : List (Event Request Ctx)) : Prop where
  /-- Once a revocation has taken effect, no read that begins then shows the person by a sign-in
  that began before it. -/
  final : ∀ before request after, events = before ++ .start request :: after → ∀ revoker person origin session,
    Entry.revoked revoker person ∈ (serveAll site db before).db.history →
    (serveAll site db events).answered (serveAll site db before).workers.length = some (.read (some session)) →
    session.identity.Shows person origin → revoker < origin
  /-- It has taken effect when it returns. -/
  returned : ∀ before after revoker person, events = before ++ after →
    (serveAll site db before).answered revoker = some (.revoked person) →
    Entry.revoked revoker person ∈ (serveAll site db before).db.history
  timely : timely (serveAll site db events).db.history
  /-- A read answers with an identity that it has itself found current. -/
  shown : ∀ worker session, (serveAll site db events).answered worker = some (.read (some session)) →
    Shown worker (serveAll site db events).db session.identity
  pending : ∀ id session, (serveAll site db events).db.row id = some session → session.identity.WellFormed
  completed : ∀ worker old new, Entry.rotated worker old new ∈ (serveAll site db events).db.history →
    Completes worker old.identity new.identity
  retired : ∀ worker old new, Entry.rotated worker old new ∈ (serveAll site db events).db.history →
    (serveAll site db events).db.row old.id = none
  opened : ∀ ticket id session, (ticket, id) ∈ openedUnder (serveAll site db events).db.history →
    (serveAll site db events).db.row id = some session → ∃ access ∈ session.tickets, access.ticketId = ticket

/-- A store that has not been watched yet: what it refers to has been drawn, and a pending
second factor stands beside no person. -/
structure Db.Unwatched (db : Db) : Prop where
  history : db.history = []
  ids : ∀ row ∈ db.sessions, row.session.id < db.minted
  versions : ∀ person version, db.version person = some version → version < db.minted
  formed : ∀ row ∈ db.sessions, row.session.identity.WellFormed
  claims : ∀ row ∈ db.sessions, row.session.identity.claim.Drawn db ∧
    ∀ pending, row.session.identity.pendingMfa = some pending → pending.claim.Drawn db

/-- The version of the sign-in is that of the person only if no later revocation has taken effect. -/
def Untainted (db : Db) (person : PersonId) (claim : Claim) : Prop :=
  claim.Drawn db ∧ (db.version person = claim.version → revokedSince person claim.origin db.history = false)

section
variable {after : Db} {claim : Claim}

theorem Claim.Drawn.later (drawn : claim.Drawn db) (evolves : Evolves db after) : claim.Drawn after :=
  fun version held => (drawn version held).trans_le evolves.minted

theorem revokedSince_eq_false {origin : Nat} {history : List Entry} :
    revokedSince person origin history = false ↔ ∀ worker, Entry.revoked worker person ∈ history → worker < origin := by
  simp only [revokedSince, any_eq_false]
  constructor
  · intro none worker listed
    have := none _ listed
    simpa using this
  · intro all entry listed
    cases entry with
    | revoked worker =>
      simp only [and_eq_true, beq_iff_eq, decide_eq_true_eq, not_and, not_le]
      rintro rfl
      exact all worker listed
    | _ => exact Bool.false_ne_true

theorem Untainted.later (untainted : Untainted db person claim) (evolves : Evolves db after) : Untainted after person claim := by
  refine ⟨untainted.1.later evolves, fun current => ?_⟩
  rcases evolves.version person with ⟨same, listed⟩ | ⟨drawn, high, later⟩
  · rw [revokedSince_eq_false]
    exact fun worker entry => revokedSince_eq_false.mp (untainted.2 (same.symm.trans current)) worker (listed worker entry)
  · exact absurd (untainted.1 drawn (current.symm.trans later)) (not_lt.mpr high)

end

def untainted (site : Site) : Vouching site uncrossed where
  holds := Untainted
  shows history := timely history
  drawn untainted := untainted.1
  lasts evolves untainted := untainted.later evolves
  begins drawn met := ⟨drawn, fun _ => by simpa [uncrossed] using met⟩
  yields untainted current shown := by simp [timely, untainted.2 current, shown]
  others apart shown := by
    rename_i entry
    cases entry with
    | yielded worker person origin => exact absurd rfl (apart worker person origin)
    | _ => exact shown

/-! A request writes history under its own number, and begins before it writes. -/

section
variable {reader worker origin : Nat} {β : Type} {op : Statement β} {reply : β}

theorem reader_of_observe (listed : Entry.yielded reader person origin ∈ observe worker db op reply) : reader = worker := by
  cases op with
  | session op =>
    cases op with
    | personSessionVersion person held =>
      cases held with
      | none => cases listed
      | some =>
        simp only [observe] at listed
        split at listed
        · exact (Entry.yielded.inj (mem_singleton.mp listed)).1
        · cases listed
    | writeCurrent =>
      cases reply with
      | false => cases listed
      | true => cases mem_singleton.mp listed
    | replaceCurrent =>
      cases reply with
      | none => cases listed
      | some =>
        obtain ⟨old, -, same⟩ := mem_map.mp listed
        cases same
    | revokePersonSessionVersion | commitRevocation => cases mem_singleton.mp listed
    | _ => cases listed
  | totp op => exact (observe_totp op reply _ listed).elim

theorem history_grows (events : List (Event Request Ctx)) (pool : Pool Statement Answer Db) :
    pool.db.history <:+ (Pool.run (engine site) (serve site) pool events).db.history := by
  refine Pool.run_induction (p := fun later => pool.db.history <:+ later.db.history) (fun later event grown _ => ?_) events pool
    (suffix_refl _) (Pool.along_true events pool)
  cases event with
  | step worker ctx =>
    obtain ⟨β, op, rest, -, same⟩ | same := Pool.step_cases (engine site) (serve site) later worker ctx
    · rw [same]
      exact grown.trans (List.suffix_append _ _)
    · rw [same]
      exact grown
  | _ => exact grown

def ReadersBegan (pool : Pool Statement Answer Db) : Prop :=
  ∀ reader person origin, Entry.yielded reader person origin ∈ pool.db.history → reader < pool.workers.length

theorem readers_began (unwatched : db.history = []) (events : List (Event Request Ctx)) :
    ReadersBegan (serveAll site db events) := by
  refine Pool.run_induction (p := ReadersBegan) (fun pool event begun _ => ?_) events { db, workers := [] } ?_
    (Pool.along_true events _)
  · cases event with
    | start =>
      intro reader person origin listed
      exact (begun reader person origin listed).trans_le (by simp [Pool.next])
    | stop => simpa [ReadersBegan, Pool.next] using begun
    | step worker ctx =>
      obtain ⟨β, op, rest, found, same⟩ | same := Pool.step_cases (engine site) (serve site) pool worker ctx
      · rw [same]
        intro reader person origin listed
        rw [length_set]
        rcases mem_append.mp listed with new | old
        · rw [reader_of_observe new]
          exact (getElem?_eq_some_iff.mp found).1
        · exact begun reader person origin old
      · rw [same]
        exact begun
  · intro reader person origin listed
    rw [unwatched] at listed
    cases listed

theorem timely_below {later earlier : List Entry} (kept : timely (later ++ earlier))
    (listed : Entry.yielded reader person origin ∈ later) : revokedSince person origin earlier = false := by
  induction later with
  | nil => cases listed
  | cons entry later ih =>
    have rest : timely (later ++ earlier) := by
      cases entry with
      | yielded => exact ((and_eq_true _ _).mp kept).2
      | _ => exact kept
    rcases mem_cons.mp listed with rfl | further
    · have fresh : revokedSince person origin (later ++ earlier) = false := by
        simpa using ((and_eq_true _ _).mp kept).1
      rw [revokedSince_eq_false] at fresh ⊢
      exact fun worker revoked => fresh worker (mem_append_right _ revoked)
    · exact ih rest further

end

theorem only_true (events : List (Event Request Ctx)) : Contract.only (fun _ => true) events := by
  refine all_eq_true.mpr fun event _ => ?_
  cases event <;> rfl

section
variable {condition : Condition Statement Ctx Db}

theorem Db.Unwatched.sessionsValid (unwatched : db.Unwatched) (vouching : Vouching site condition)
    (vouched : ∀ person claim, claim.Drawn db → vouching.holds db person claim) (shown : vouching.shows []) :
    SessionsValid vouching db := by
  have empty {p : Prop} {entry : Entry} (listed : entry ∈ db.history) : p := by
    rw [unwatched.history] at listed
    cases listed
  have unopened {p : Prop} {opened : Nat × Nat} (listed : opened ∈ openedUnder db.history) : p := by
    rw [unwatched.history] at listed
    cases listed
  refine ⟨unwatched.ids, unwatched.versions, fun id session isRow => ?_, fun id session isRow => ⟨fun person _ => ?_, fun pending held => ?_⟩,
    fun _ _ _ listed => empty listed, fun _ _ _ listed => empty listed, fun _ _ _ listed _ => unopened listed,
    fun _ _ listed => unopened listed, unwatched.history ▸ shown⟩
  all_goals obtain ⟨row, mem, rfl⟩ := Db.mem_of_row isRow
  · exact unwatched.formed row mem
  · exact vouched person _ (unwatched.claims row mem).1
  · exact vouched pending.personId _ ((unwatched.claims row mem).2 pending held)

theorem custody_kept (vouching : Vouching site condition) (valid : SessionsValid vouching db)
    (events : List (Event Request Ctx))
    (met : Pool.along (engine site) (serve site) condition { db, workers := [] } events) :
    (custody vouching).Kept (engine site) condition (serveAll site db events) :=
  Contract.run_kept custody_sound (fun _ db => .refl db) (fun request _ worker db => serve_conducts request worker db) events _
    ⟨valid, nofun⟩ (only_true events) met

/-- As long as every sign-in reads the version of its person before any later revocation takes
effect, revocations are final, and nothing else is lost or gained by overlapping. -/
theorem sessions_safe (site : Site) (unwatched : db.Unwatched) (events : List (Event Request Ctx))
    (met : Pool.along (engine site) (serve site) uncrossed { db, workers := [] } events) :
    SessionsSafe site db events := by
  have valid : SessionsValid (untainted site) db := by
    refine unwatched.sessionsValid _ (fun person claim drawn => ⟨drawn, fun _ => ?_⟩) rfl
    rw [unwatched.history]
    rfl
  have kept := custody_kept (untainted site) valid events met
  have shown : ∀ worker session, (serveAll site db events).answered worker = some (.read (some session)) →
      Shown worker (serveAll site db events).db session.identity := fun worker session answered =>
    kept.workers worker _ (Pool.answered_eq_some.mp answered) session rfl
  refine ⟨?_, ?_, kept.valid.shown, shown, kept.valid.formed, kept.valid.completed,
    fun worker old new listed => (kept.valid.retired worker old new listed).2, kept.valid.opened⟩
  · intro before request after split revoker person origin session revoked answered shows
    have found := shown _ session answered person origin shows
    have grown : (serveAll site db before).db.history <:+ (serveAll site db events).db.history := by
      show _ <:+ (Pool.run (engine site) (serve site) { db, workers := [] } events).db.history
      rw [split, Pool.run_append]
      exact history_grows _ _
    obtain ⟨later, same⟩ := grown
    have timely := kept.valid.shown
    rw [← same] at found timely
    have late : Entry.yielded (serveAll site db before).workers.length person origin ∈ later :=
      (mem_append.mp found).resolve_right fun early =>
        absurd (readers_began unwatched.history before _ _ _ early) (lt_irrefl _)
    exact revokedSince_eq_false.mp (timely_below timely late) revoker revoked
  · intro before after revoker person split answered
    rw [split, Pool.along_append, and_eq_true] at met
    exact (custody_kept (untainted site) valid before met.1).workers revoker _ (Pool.answered_eq_some.mp answered)

end

/-! ### A sign-in that a revocation overtakes -/

/-- A deployment in which six digits are the code of the moment. -/
def deployment (mode : StorageMode) : Site :=
  { mode, validate := fun _ _ _ => some 0, toUpperCase := id, recoveryHash := id }

def attendee : PersonId := { key := 1 }

def steps (worker calls : Nat) (ctx : Ctx) : List (Event Request Ctx) := List.replicate calls (.step worker ctx)

/-- The revocation begins and ends while the sign-in stores its first session; then the session
that the sign-in ends with is read. -/
def overtakenFirst : List (Event Request Ctx) :=
  [.start (.authenticate none { personId := attendee }), .start (.revoke attendee)] ++
  steps 0 2 {} ++ steps 1 2 {} ++ steps 0 8 {}

def overtaken : List (Event Request Ctx) := overtakenFirst ++ .start (.read (some 2)) :: steps 2 3 {}

def Answer.signedIn : Answer → Option (AttendeeSession × PersonId × Nat)
  | .read (some found) => found.identity.personId.map (found, ·, found.identity.origin)
  | _ => none

theorem overtaken_unsafe : ¬ SessionsSafe (deployment .postgres) {} overtaken := by
  intro safe
  have revoked : Entry.revoked 1 attendee ∈ (serveAll (deployment .postgres) {} overtakenFirst).db.history := by decide +kernel
  have begun : (serveAll (deployment .postgres) {} overtakenFirst).workers.length = 2 := by decide +kernel
  have read : (((serveAll (deployment .postgres) {} overtaken).answered 2).bind Answer.signedIn).map (·.2) = some (attendee, 0) := by
    decide +kernel
  obtain ⟨⟨session, found⟩, isRead, rfl⟩ := map_eq_some_iff.mp read
  obtain ⟨answer, answered, signedIn⟩ := bind_eq_some_iff.mp isRead
  unfold Answer.signedIn at signedIn
  split at signedIn
  · next held =>
    obtain ⟨person, isPerson, same⟩ := map_eq_some_iff.mp signedIn
    obtain ⟨rfl, rfl, isOrigin⟩ := Prod.mk.inj same |>.imp_right Prod.mk.inj
    exact absurd (safe.final overtakenFirst _ _ rfl 1 _ 0 held revoked (begun ▸ answered) (.inl ⟨isPerson, isOrigin⟩)) (by decide)
  · cases signedIn

theorem unwatched_empty : Db.Unwatched {} where
  history := rfl
  ids _ listed := absurd listed not_mem_nil
  versions _ _ none := absurd none (some_ne_none _).symm
  formed _ listed := absurd listed not_mem_nil
  claims _ listed := absurd listed not_mem_nil

/-- Begun after the revocation has taken effect, the sign-in stands. -/
def undisturbed : List (Event Request Ctx) :=
  [.start (.revoke attendee)] ++ steps 0 2 {} ++ [.start (.authenticate none { personId := attendee })] ++ steps 1 10 {} ++
  [.start (.read (some 2))] ++ steps 2 3 {}

theorem sessions_safe_undisturbed : SessionsSafe (deployment .postgres) {} undisturbed :=
  sessions_safe (deployment .postgres) unwatched_empty undisturbed (by decide +kernel)

end MilkAndHenny.Access

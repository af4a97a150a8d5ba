import MilkAndHenny.Library.Contract
import MilkAndHenny.Access.Evolution

/-! The contract that every request keeps with the session store, whatever is vouched for
about the sign-ins that sessions carry. -/

namespace MilkAndHenny.Access
open Library

variable {site : Site} {condition : Condition Statement Ctx Db} {db after : Db} {history : List Entry}
  {identity : Identity} {β : Type}

def Claim.Drawn (claim : Claim) (db : Db) : Prop :=
  ∀ version, claim.version = some version → version < db.minted

/-- Something that is true of a sign-in when it reads the version, and stays true. -/
structure Vouching (site : Site) (condition : Condition Statement Ctx Db) where
  holds : Db → PersonId → Claim → Prop
  /-- What the history of the reads that were answered shows. -/
  shows : List Entry → Prop
  drawn : ∀ {db person claim}, holds db person claim → claim.Drawn db
  lasts : ∀ {db after person claim}, Evolves db after → holds db person claim → holds after person claim
  begins : ∀ {live worker ctx db person}, (∀ version, db.version person = some version → version < db.minted) →
    condition live worker (.session (.personSessionVersion person none)) ctx db →
    holds db person { version := db.version person, origin := worker }
  yields : ∀ {db person claim worker}, holds db person claim → db.version person = claim.version →
    shows db.history → shows (.yielded worker person claim.origin :: db.history)
  others : ∀ {history entry}, (∀ worker person origin, entry ≠ Entry.yielded worker person origin) →
    shows history → shows (entry :: history)

def openedUnder : List Entry → List (Nat × Nat)
  | [] => []
  | .opened ticket session :: history => (ticket, session) :: openedUnder history
  | .rotated _ old new :: history =>
    (openedUnder history).map fun opened => if opened.2 = old.id then (opened.1, new.id) else opened
  | _ :: history => openedUnder history

/-- A rotation that is no sign-in of its own turns a pending second factor into an identity
only for the same person and version. -/
def Completes (worker : Nat) (old new : Identity) : Prop :=
  ∀ pending person, old.pendingMfa = some pending → new.personId = some person → new.origin ≠ worker →
    person = pending.personId ∧ new.personSessionVersion = pending.personSessionVersion

section
variable (vouching : Vouching site condition)

structure Vouched (db : Db) (identity : Identity) : Prop where
  person : ∀ person, identity.personId = some person → vouching.holds db person identity.claim
  pending : ∀ pending, identity.pendingMfa = some pending → vouching.holds db pending.personId pending.claim

structure SessionsValid (db : Db) : Prop where
  ids : ∀ row ∈ db.sessions, row.session.id < db.minted
  versions : ∀ person version, db.version person = some version → version < db.minted
  formed : ∀ id session, db.row id = some session → session.identity.WellFormed
  vouched : ∀ id session, db.row id = some session → Vouched vouching db session.identity
  /-- Whatever was rotated away is gone. -/
  retired : ∀ worker old new, Entry.rotated worker old new ∈ db.history → old.id < db.minted ∧ db.row old.id = none
  completed : ∀ worker old new, Entry.rotated worker old new ∈ db.history → Completes worker old.identity new.identity
  opened : ∀ ticket id session, (ticket, id) ∈ openedUnder db.history → db.row id = some session →
    ∃ access ∈ session.tickets, access.ticketId = ticket
  openedIds : ∀ ticket id, (ticket, id) ∈ openedUnder db.history → id < db.minted
  shown : vouching.shows db.history

/-- The version is no longer that of the person, nor will it be again. -/
def Stale (db : Db) (person : PersonId) (version : Option Nat) : Prop :=
  db.version person ≠ version ∧ ∀ drawn, version = some drawn → drawn < db.minted

/-- What the worker has to know of the store when it makes the call. -/
def SessionOwes (worker : Nat) {β : Type} : SessionStatement β → Db → Prop
  | .personSessionVersion person (some held), db => vouching.holds db person held
  | .write session, _ => session.identity = {}
  | .writeCurrent id session opens, db =>
    (site.mode ≠ .redis → db.lockedBy id = some worker) ∧ (∃ access ∈ session.tickets, access.ticketId = opens) ∧
    ∀ old, db.row id = some old → db.lockedBy id = some worker → session.identity.Descends old.identity ∧
      ∀ access ∈ old.tickets, ∃ kept ∈ session.tickets, kept.ticketId = access.ticketId
  | .replaceCurrent id session, db =>
    (site.mode ≠ .redis → db.lockedBy id = some worker) ∧ session.identity.WellFormed ∧
    Vouched vouching db session.identity ∧
    ∀ old, db.row id = some old → Completes worker old.identity session.identity ∧
      (db.lockedBy id = some worker → session.tickets = old.tickets)
  | _, _ => True

/-- The identity shows the person, by a sign-in of the request `origin`. -/
def Identity.Shows (identity : Identity) (person : PersonId) (origin : Nat) : Prop :=
  (identity.personId = some person ∧ identity.origin = origin) ∨
    ∃ pending, identity.pendingMfa = some pending ∧ pending.personId = person ∧ pending.origin = origin

/-- The worker itself has found current what the identity shows. -/
def Shown (worker : Nat) (db : Db) (identity : Identity) : Prop :=
  ∀ person origin, identity.Shows person origin → Entry.yielded worker person origin ∈ db.history

/-- A read answers only what it has found to be current, a revocation has taken effect when it
returns, and an attempt that was refused after it completed a session has made the session
worthless. -/
def Answer.Settled (worker : Nat) (db : Db) : Answer → Prop
  | .read answered => ∀ found, answered = some found → Shown worker db found.identity
  | .revoked person => Entry.revoked worker person ∈ db.history
  | .attempt tried => ∀ session error person, tried.completed = some session → tried.answer = .error error →
    session.identity.personId = some person → Stale db person session.identity.personSessionVersion
  | _ => True

def Owes (worker : Nat) {β : Type} : Statement β → Db → Prop
  | .session op, db => SessionOwes vouching worker op db
  | .totp _, _ => True

def custody : Contract Statement Answer Db where
  valid := SessionsValid vouching
  owes worker _ op db := Owes vouching worker op db
  allows := Respects site.mode
  ends worker answer db := answer.Settled worker db

end

/-! ### Every statement keeps the sessions valid -/

/-- The entry neither opens a ticket nor rotates a session. -/
def Entry.Calm (entry : Entry) : Prop :=
  (∀ ticket session, entry ≠ .opened ticket session) ∧ ∀ worker old new, entry ≠ .rotated worker old new

theorem openedUnder_calm {entries : List Entry} (calm : ∀ entry ∈ entries, entry.Calm) :
    openedUnder (entries ++ history) = openedUnder history := by
  induction entries with
  | nil => rfl
  | cons entry entries ih =>
    have quiet := calm entry mem_cons_self
    have rest := ih fun other mem => calm other (mem_cons_of_mem _ mem)
    cases entry with
    | opened ticket session => exact absurd rfl (quiet.1 ticket session)
    | rotated worker old new => exact absurd rfl (quiet.2 worker old new)
    | _ => exact rest

section
variable {vouching : Vouching site condition} {entries : List Entry}

theorem Vouched.later (vouched : Vouched vouching db identity) (evolves : Evolves db after) :
    Vouched vouching after identity :=
  ⟨fun person held => vouching.lasts evolves (vouched.person person held),
    fun pending held => vouching.lasts evolves (vouched.pending pending held)⟩

theorem Vouched.descends {origin : Identity} (vouched : Vouched vouching db origin)
    (descends : identity.Descends origin) : Vouched vouching db identity := by
  rcases descends with rfl | rfl | rfl
  · exact vouched
  · exact ⟨vouched.person, nofun⟩
  · exact ⟨nofun, nofun⟩

theorem SessionsValid.later (valid : SessionsValid vouching db) (evolves : Evolves db after)
    (ids : ∀ row ∈ after.sessions, row.session.id < after.minted)
    (versions : ∀ person version, after.version person = some version → version < after.minted)
    (rows : ∀ id session, after.row id = some session →
      (∃ old, db.row id = some old ∧ session.identity.Descends old.identity ∧
        ∀ access ∈ old.tickets, ∃ kept ∈ session.tickets, kept.ticketId = access.ticketId) ∨
      db.minted ≤ id ∧ session.identity.WellFormed ∧ Vouched vouching db session.identity)
    (history : after.history = entries ++ db.history) (calm : ∀ entry ∈ entries, entry.Calm)
    (shown : vouching.shows after.history) : SessionsValid vouching after := by
  have rotated {worker : Nat} {old new : AttendeeSession} (listed : Entry.rotated worker old new ∈ after.history) :
      Entry.rotated worker old new ∈ db.history := by
    rw [history, mem_append] at listed
    exact listed.resolve_left fun new => (calm _ new).2 _ _ _ rfl
  have same : openedUnder after.history = openedUnder db.history := by rw [history, openedUnder_calm calm]
  refine ⟨ids, versions, fun id session found => ?_, fun id session found => ?_, fun worker old new listed => ?_,
    fun worker old new listed => valid.completed worker old new (rotated listed), fun ticket id session listed found => ?_,
    fun ticket id listed => (valid.openedIds ticket id (same ▸ listed)).trans_le evolves.minted, shown⟩
  · rcases rows id session found with ⟨old, isOld, descends, -⟩ | ⟨-, formed, -⟩
    · exact descends.wellFormed (valid.formed id old isOld)
    · exact formed
  · rcases rows id session found with ⟨old, isOld, descends, -⟩ | ⟨-, -, vouched⟩
    · exact ((valid.vouched id old isOld).descends descends).later evolves
    · exact vouched.later evolves
  · obtain ⟨low, gone⟩ := valid.retired worker old new (rotated listed)
    refine ⟨low.trans_le evolves.minted, Option.eq_none_iff_forall_ne_some.mpr fun session found => ?_⟩
    rcases rows old.id session found with ⟨row, isRow, -⟩ | ⟨high, -⟩
    · rw [gone] at isRow
      cases isRow
    · exact absurd low (not_lt.mpr high)
  · rw [same] at listed
    rcases rows id session found with ⟨old, isOld, -, kept⟩ | ⟨high, -⟩
    · obtain ⟨access, mem, named⟩ := valid.opened ticket id old listed isOld
      obtain ⟨later, isLater, same⟩ := kept access mem
      exact ⟨later, isLater, same.trans named⟩
    · exact absurd (valid.openedIds ticket id listed) (not_lt.mpr high)

theorem SessionsValid.fewer (valid : SessionsValid vouching db) (evolves : Evolves db after)
    (ids : ∀ row ∈ after.sessions, row.session.id < after.minted)
    (versions : ∀ person version, after.version person = some version → version < after.minted)
    (rows : ∀ id session, after.row id = some session → db.row id = some session)
    (history : after.history = entries ++ db.history) (calm : ∀ entry ∈ entries, entry.Calm)
    (shown : vouching.shows after.history) : SessionsValid vouching after :=
  valid.later evolves ids versions
    (fun id session found => .inl ⟨session, rows id session found, .refl _, fun access mem => ⟨access, mem, rfl⟩⟩)
    history calm shown

theorem SessionsValid.quiet (valid : SessionsValid vouching db) (quiet : Quiet db after)
    (shown : vouching.shows after.history) : SessionsValid vouching after := by
  obtain ⟨entries, same, silent⟩ := quiet.history
  refine valid.fewer (@Quiet.respects site.mode 0 _ _ quiet).toEvolves (fun row mem => ?_)
    (fun person version held => ?_) (fun id session found => quiet.row id ▸ found) same (fun entry mem => ?_) shown
  · exact (valid.ids row (quiet.sessions ▸ mem)).trans_le quiet.minted
  · exact (valid.versions person version (quiet.version person ▸ held)).trans_le quiet.minted
  · have aside := silent entry mem
    refine ⟨?_, ?_⟩
    · rintro ticket session rfl
      exact aside
    · rintro worker old new rfl
      exact aside

theorem SessionsValid.insertSession (valid : SessionsValid vouching db) {now : Int} {session : AttendeeSession}
    (formed : session.identity.WellFormed) (vouched : Vouched vouching db session.identity) :
    SessionsValid vouching (db.insertSession site.mode now session).2 := by
  refine valid.later (@respects_insertSession site.mode 0 _ _ _ valid.ids).toEvolves (fun row mem => ?_)
    (fun person version held => (valid.versions person version held).trans (Nat.lt_succ_self _))
    (fun id found isRow => ?_) (show _ = [] ++ db.history from rfl) (fun _ listed => absurd listed not_mem_nil) valid.shown
  · rcases mem_append.mp mem with old | new
    · exact (valid.ids row old).trans (Nat.lt_succ_self _)
    · cases mem_singleton.mp new
      exact Nat.lt_succ_self _
  · rw [Db.row_insertSession valid.ids] at isRow
    split at isRow
    · next same =>
      cases isRow
      exact .inr ⟨same.ge, formed, vouched⟩
    · exact .inl ⟨found, isRow, .refl _, fun access mem => ⟨access, mem, rfl⟩⟩

theorem SessionsValid.removeSessions (valid : SessionsValid vouching db) (ids : List Nat) :
    SessionsValid vouching (db.removeSessions ids) := by
  refine valid.fewer (@respects_removeSessions site.mode 0 _ ids).toEvolves
    (fun row mem => valid.ids row (mem_filter.mp mem).1) valid.versions (fun id session found => ?_)
    (show _ = [] ++ db.history from rfl) (fun _ listed => absurd listed not_mem_nil) valid.shown
  rw [Db.row_removeSessions] at found
  split at found
  · cases found
  · exact found

theorem SessionsValid.setVersion (valid : SessionsValid vouching db) (worker : Nat) (person : PersonId) :
    SessionsValid vouching { db.setVersion person with history := .revoked worker person :: db.history } := by
  refine valid.fewer (@respects_setVersion site.mode 0 _ worker person).toEvolves
    (fun row mem => (valid.ids row mem).trans (Nat.lt_succ_self _)) (fun subject version held => ?_)
    (fun id session found => found) (show _ = [.revoked worker person] ++ db.history from rfl) (fun entry listed => ?_)
    (vouching.others (fun _ _ _ => nofun) valid.shown)
  · have held := (version_setVersion person subject).symm.trans held
    split at held
    · exact some.inj held ▸ Nat.lt_succ_self _
    · exact (valid.versions subject version held).trans (Nat.lt_succ_self _)
  · cases mem_singleton.mp listed
    exact ⟨fun _ _ => nofun, fun _ _ _ => nofun⟩

theorem SessionsValid.locks (valid : SessionsValid vouching db) (locks : List (Nat × Nat)) :
    SessionsValid vouching { db with locks } := by
  have evolves : Evolves db { db with locks } :=
    ⟨le_rfl, suffix_refl _, fun _ => .inl ⟨rfl, fun _ listed => listed⟩, fun id session _ found => ⟨session, found, .refl _⟩⟩
  exact valid.fewer evolves valid.ids valid.versions (fun _ _ found => found) (show _ = [] ++ db.history from rfl)
    (fun _ listed => absurd listed not_mem_nil) valid.shown

theorem SessionsValid.rewrite (valid : SessionsValid vouching db) {now : Int} {id : Nat} {session : AttendeeSession}
    (descends : ∀ old, db.row id = some old → session.identity.Descends old.identity)
    (kept : ∀ old, db.row id = some old → ∀ access ∈ old.tickets, ∃ kept ∈ session.tickets, kept.ticketId = access.ticketId) :
    SessionsValid vouching (db.rewrite site.mode now id session) := by
  have rows : ∀ other found, (db.rewrite site.mode now id session).row other = some found →
      ∃ old, db.row other = some old ∧ found.identity.Descends old.identity ∧
        ∀ access ∈ old.tickets, ∃ kept ∈ found.tickets, kept.ticketId = access.ticketId := by
    intro other found isRow
    rw [Db.row_rewrite] at isRow
    split at isRow
    · next same =>
      obtain ⟨old, isOld, rfl⟩ := map_eq_some_iff.mp isRow
      exact ⟨old, same ▸ isOld, descends old isOld, kept old isOld⟩
    · exact ⟨found, isRow, .refl _, fun access mem => ⟨access, mem, rfl⟩⟩
  have evolves : Evolves db (db.rewrite site.mode now id session) :=
    ⟨le_rfl, suffix_refl _, fun _ => .inl ⟨rfl, fun _ listed => listed⟩, fun other found _ isRow =>
      have ⟨old, isOld, descends, _⟩ := rows other found isRow
      ⟨old, isOld, descends⟩⟩
  refine valid.later evolves (fun row mem => ?_) valid.versions (fun other found isRow => .inl (rows other found isRow))
    (show _ = [] ++ db.history from rfl) (fun _ listed => absurd listed not_mem_nil) valid.shown
  obtain ⟨old, isOld, rfl⟩ := mem_map.mp mem
  split
  · next same => exact same ▸ valid.ids old isOld
  · exact valid.ids old isOld

theorem SessionsValid.note_opened (valid : SessionsValid vouching db) {ticket id : Nat} (low : id < db.minted)
    (held : ∀ session, db.row id = some session → ∃ access ∈ session.tickets, access.ticketId = ticket) :
    SessionsValid vouching { db with history := .opened ticket id :: db.history } := by
  have evolves : Evolves db { db with history := .opened ticket id :: db.history } :=
    ⟨le_rfl, suffix_cons _ _, fun _ => .inl ⟨rfl, fun _ listed => (mem_cons.mp listed).resolve_left nofun⟩,
      fun id session _ found => ⟨session, found, .refl _⟩⟩
  refine ⟨valid.ids, valid.versions, valid.formed, fun id session found => (valid.vouched id session found).later evolves,
    fun worker old new listed => valid.retired worker old new ((mem_cons.mp listed).resolve_left nofun),
    fun worker old new listed => valid.completed worker old new ((mem_cons.mp listed).resolve_left nofun),
    fun named other session listed found => ?_, fun named other listed => ?_,
    vouching.others (fun _ _ _ => nofun) valid.shown⟩
  · rcases mem_cons.mp listed with new | old
    · obtain ⟨rfl, rfl⟩ := Prod.mk.inj new
      exact held session found
    · exact valid.opened named other session old found
  · rcases mem_cons.mp listed with new | old
    · exact (Prod.mk.inj new).2 ▸ low
    · exact valid.openedIds named other old

theorem SessionsValid.note_rotated (valid : SessionsValid vouching db) {worker : Nat} {old new : AttendeeSession}
    (low : old.id < db.minted) (gone : db.row old.id = none) (drawn : new.id < db.minted)
    (completes : Completes worker old.identity new.identity)
    (carried : ∀ ticket, (ticket, old.id) ∈ openedUnder db.history → ∃ access ∈ new.tickets, access.ticketId = ticket)
    (stored : db.row new.id = some new) :
    SessionsValid vouching { db with history := .rotated worker old new :: db.history } := by
  have evolves : Evolves db { db with history := .rotated worker old new :: db.history } :=
    ⟨le_rfl, suffix_cons _ _, fun _ => .inl ⟨rfl, fun _ listed => (mem_cons.mp listed).resolve_left nofun⟩,
      fun id session _ found => ⟨session, found, .refl _⟩⟩
  refine ⟨valid.ids, valid.versions, valid.formed, fun id session found => (valid.vouched id session found).later evolves,
    fun by' before after listed => ?_, fun by' before after listed => ?_, fun ticket id session listed found => ?_,
    fun ticket id listed => ?_, vouching.others (fun _ _ _ => nofun) valid.shown⟩
  · rcases mem_cons.mp listed with same | earlier
    · obtain ⟨-, rfl, -⟩ := Entry.rotated.inj same
      exact ⟨low, gone⟩
    · exact valid.retired by' before after earlier
  · rcases mem_cons.mp listed with same | earlier
    · obtain ⟨rfl, rfl, rfl⟩ := Entry.rotated.inj same
      exact completes
    · exact valid.completed by' before after earlier
  · obtain ⟨⟨opened, under⟩, mem, same⟩ := mem_map.mp listed
    split at same
    · next moved =>
      obtain ⟨rfl, rfl⟩ := Prod.mk.inj same
      cases some.inj (stored.symm.trans found)
      exact carried opened (moved ▸ mem)
    · obtain ⟨rfl, rfl⟩ := Prod.mk.inj same
      exact valid.opened opened under session mem found
  · obtain ⟨⟨opened, under⟩, mem, same⟩ := mem_map.mp listed
    split at same
    · exact (Prod.mk.inj same).2 ▸ drawn
    · obtain ⟨rfl, rfl⟩ := Prod.mk.inj same
      exact valid.openedIds opened under mem

end

section
variable {session : AttendeeSession} {id : Nat} {β : Type} {person : PersonId} {now : Int}
variable {vouching : Vouching site condition} {worker : Nat} {live : Nat → Bool} {ctx : Ctx}

theorem totp_frame (op : TotpStatement β) (ctx : Ctx) (db : Db) :
    (op.exec site ctx db).2.sessions = db.sessions ∧ (op.exec site ctx db).2.locks = db.locks ∧
    (op.exec site ctx db).2.versions = db.versions ∧ db.minted ≤ (op.exec site ctx db).2.minted := by
  cases op with
  | enroll => exact ⟨rfl, rfl, rfl, Nat.le_succ _⟩
  | regenerate => exact ⟨rfl, rfl, rfl, (Nat.le_succ _).trans (Nat.le_add_right _ _)⟩
  | finishEnrollment =>
    simp only [TotpStatement.exec]
    split
    · exact ⟨rfl, rfl, rfl, le_rfl⟩
    · split
      · exact ⟨rfl, rfl, rfl, le_rfl⟩
      · exact ⟨rfl, rfl, rfl, (Nat.le_succ _).trans (Nat.le_add_right _ _)⟩
  | acceptTotp =>
    simp only [TotpStatement.exec]
    split
    · exact ⟨rfl, rfl, rfl, le_rfl⟩
    · split <;> exact ⟨rfl, rfl, rfl, le_rfl⟩
  | consumeRecoveryCode =>
    simp only [TotpStatement.exec]
    split <;> exact ⟨rfl, rfl, rfl, le_rfl⟩
  | _ => exact ⟨rfl, rfl, rfl, le_rfl⟩

def Entry.Factor : Entry → Prop
  | .accepted _ _ => True
  | .replaced _ _ => True
  | .checked _ _ _ _ _ => True
  | _ => False

theorem observe_totp (op : TotpStatement β) (reply : β) :
    ∀ entry ∈ observe worker db (.totp op) reply, entry.Factor := by
  have only {entry : Entry} (factor : entry.Factor) : ∀ listed ∈ [entry], listed.Factor := fun listed mem =>
    mem_singleton.mp mem ▸ factor
  have none {entry : Entry} (listed : entry ∈ ([] : List Entry)) : entry.Factor := absurd listed not_mem_nil
  cases op with
  | finishEnrollment => cases reply with
    | none => exact fun _ => none
    | some =>
      intro entry listed
      rcases mem_cons.mp listed with rfl | replaced
      · trivial
      · exact @only (.replaced _ _) trivial entry replaced
  | regenerate => exact only trivial
  | acceptTotp | consumeRecoveryCode => cases reply with
    | none => exact fun _ => none
    | some => exact only trivial
  | completedEmailMfaIsStillValid => exact only trivial
  | _ => exact fun _ => none

theorem totp_quiet (op : TotpStatement β) : Quiet db ((engine site).exec worker (.totp op) ctx db).2 := by
  obtain ⟨sessions, locks, versions, minted⟩ := @totp_frame site _ op ctx db
  refine ⟨sessions, locks, versions, minted, _, rfl, fun entry mem => ?_⟩
  have factor := observe_totp op _ entry mem
  cases entry with
  | accepted | replaced | checked => trivial
  | _ => exact factor.elim

theorem shows_append (entries : List Entry) (factors : ∀ entry ∈ entries, entry.Factor)
    (shown : vouching.shows history) : vouching.shows (entries ++ history) := by
  induction entries with
  | nil => exact shown
  | cons entry entries ih =>
    refine vouching.others ?_ (ih fun other mem => factors other (mem_cons_of_mem _ mem))
    rintro by' person origin rfl
    exact factors _ mem_cons_self

/-- The store stays valid, and the others find it as they may. -/
def Keeps (vouching : Vouching site condition) (worker : Nat) (db after : Db) : Prop :=
  SessionsValid vouching after ∧ ∀ other, other ≠ worker → Respects site.mode other db after

theorem keeps_quiet (valid : SessionsValid vouching db) (quiet : Quiet db after)
    (shown : vouching.shows after.history) : Keeps vouching worker db after :=
  ⟨valid.quiet quiet shown, fun _ _ => quiet.respects⟩

theorem keeps_self (valid : SessionsValid vouching db) : Keeps vouching worker db db :=
  ⟨valid, fun _ _ => .refl db⟩

theorem keeps_totp (op : TotpStatement β) (valid : SessionsValid vouching db) :
    Keeps vouching worker db ((engine site).exec worker (.totp op) ctx db).2 :=
  keeps_quiet valid (totp_quiet op) (shows_append _ (observe_totp op _) valid.shown)

theorem keeps_yielded {held : Claim} (valid : SessionsValid vouching db) (vouched : vouching.holds db person held) :
    Keeps vouching worker db ((engine site).exec worker (.session (.personSessionVersion person (some held))) ctx db).2 := by
  change Keeps vouching worker db { db with history :=
    (if db.version person = held.version then [.yielded worker person held.origin] else []) ++ db.history }
  split
  · next current =>
    refine keeps_quiet valid ⟨rfl, rfl, rfl, le_rfl, [.yielded worker person held.origin], rfl, fun entry mem => ?_⟩
      (vouching.yields vouched current valid.shown)
    cases mem_singleton.mp mem
    trivial
  · exact keeps_self valid

theorem keeps_acquire (valid : SessionsValid vouching db) :
    Keeps vouching worker db ((engine site).exec worker (.session (.acquire id)) ctx db).2 := by
  simp only [engine, Statement.exec, SessionStatement.exec]
  split
  · exact keeps_self valid
  · split
    · exact keeps_self valid
    · next unlocked _ => exact ⟨valid.locks _, fun other apart => respects_lock (not_isSome_iff_eq_none.mp unlocked) apart⟩

theorem keeps_release (valid : SessionsValid vouching db) :
    Keeps vouching worker db ((engine site).exec worker (.session (.release id)) ctx db).2 := by
  simp only [engine, Statement.exec, SessionStatement.exec]
  split
  · next mine =>
    refine ⟨valid.locks _, fun other apart => respects_free fun _ locked => apart ?_⟩
    exact (some.inj (mine.symm.trans locked)).symm
  · exact keeps_self valid

theorem keeps_expireLock (valid : SessionsValid vouching db) :
    Keeps vouching worker db ((engine site).exec worker (.session (.expireLock id)) ctx db).2 := by
  simp only [engine, Statement.exec, SessionStatement.exec]
  split
  · next redis => exact ⟨valid.locks _, fun other _ => respects_free fun durable => absurd redis durable⟩
  · exact keeps_self valid

theorem keeps_commitRevocation {ids : List Nat} (valid : SessionsValid vouching db) :
    Keeps vouching worker db ((engine site).exec worker (.session (.commitRevocation person ids)) ctx db).2 :=
  ⟨(valid.setVersion worker person).removeSessions ids,
    fun _ _ => (respects_setVersion worker person).trans (respects_removeSessions ids)⟩

theorem lockedBy_of_commits (commits : db.commits site.mode worker now id)
    (held : site.mode ≠ .redis → db.lockedBy id = some worker) : db.lockedBy id = some worker := by
  by_cases redis : site.mode = .redis
  · simp only [Db.commits, redis, and_eq_true] at commits
    simpa using commits.2
  · exact held redis

theorem row_of_commits (commits : db.commits site.mode worker now id) : ∃ old, db.row id = some old := by
  simp only [Db.commits, and_eq_true] at commits
  obtain ⟨old, found⟩ := isSome_iff_exists.mp commits.1
  exact ⟨old, Db.row_of_session found⟩

theorem keeps_writeCurrent {id opens : Nat} (valid : SessionsValid vouching db)
    (owed : SessionOwes vouching worker (.writeCurrent id session opens) db) :
    Keeps vouching worker db ((engine site).exec worker (.session (.writeCurrent id session opens)) ctx db).2 := by
  obtain ⟨held, opening, owed⟩ := owed
  simp only [engine, Statement.exec, SessionStatement.exec]
  split
  swap
  · exact keeps_self valid
  next commits =>
  have mine := lockedBy_of_commits commits held
  obtain ⟨old, isOld⟩ := row_of_commits commits
  have stored := @SessionsValid.rewrite _ _ _ _ valid ctx.now _ _ (fun old isOld => (owed old isOld mine).1)
    fun old isOld => (owed old isOld mine).2
  have low : id < db.minted := by
    obtain ⟨row, mem, same⟩ := Db.mem_of_row isOld
    rw [← Db.row_id isOld, ← same]
    exact valid.ids row mem
  refine ⟨@SessionsValid.note_opened _ _ _ _ stored opens _ low fun found isRow => ?_, fun other apart => ?_⟩
  · rw [Db.row_rewrite, if_pos rfl, isOld] at isRow
    exact some.inj isRow ▸ opening
  · refine respects_rows rfl rfl le_rfl (suffix_cons _ _)
      (fun _ _ listed => (mem_cons.mp listed).resolve_left nofun) fun id' found _ isRow => ?_
    have isRow := (Db.row_rewrite id').symm.trans isRow
    split at isRow
    · next same =>
      subst same
      rw [isOld] at isRow
      cases isRow
      exact ⟨old, isOld, (owed old isOld mine).1, fun locked => absurd (some.inj (mine.symm.trans locked)).symm apart⟩
    · exact ⟨found, isRow, .refl _, fun _ => rfl⟩

theorem row_replaced {id other : Nat} (valid : SessionsValid vouching db) :
    ((db.insertSession site.mode now session).2.removeSessions [id]).row other =
      if other = id then none else if other = db.minted then some { session with id := db.minted } else db.row other := by
  rw [Db.row_removeSessions, Db.row_insertSession valid.ids]
  simp

theorem keeps_replaceCurrent (valid : SessionsValid vouching db)
    (owed : SessionOwes vouching worker (.replaceCurrent id session) db) :
    Keeps vouching worker db ((engine site).exec worker (.session (.replaceCurrent id session)) ctx db).2 := by
  obtain ⟨held, formed, vouched, owed⟩ := owed
  simp only [engine, Statement.exec, SessionStatement.exec]
  split
  swap
  · exact keeps_self valid
  next commits =>
  obtain ⟨old, isOld⟩ : ∃ old, db.row id = some old := by
    simp only [Db.commitsReplacement] at commits
    split at commits
    · exact isSome_iff_exists.mp commits
    · exact row_of_commits commits
  have mine : db.lockedBy id = some worker := by
    simp only [Db.commitsReplacement] at commits
    split at commits
    · next postgres => exact held (postgres ▸ nofun)
    · exact lockedBy_of_commits commits held
  obtain ⟨completes, carries⟩ := owed old isOld
  cases Db.row_id isOld
  have low : old.id < db.minted := by
    obtain ⟨row, mem, same⟩ := Db.mem_of_row isOld
    exact same ▸ valid.ids row mem
  have stored := (@SessionsValid.insertSession _ _ _ _ valid ctx.now _ formed vouched).removeSessions [old.id]
  have noted := @SessionsValid.note_rotated _ _ _ _ stored worker old { session with id := db.minted }
    (low.trans (Nat.lt_succ_self _)) ((row_replaced valid).trans (if_pos rfl)) (Nat.lt_succ_self _) completes
    (fun ticket listed => (carries mine : session.tickets = old.tickets) ▸ valid.opened ticket old.id old listed isOld)
    ((row_replaced valid).trans (by rw [if_neg low.ne', if_pos rfl]))
  change Keeps vouching worker db { (db.insertSession site.mode ctx.now session).2.removeSessions [old.id] with
    history := (db.row old.id).toList.map (.rotated worker · { session with id := db.minted }) ++ db.history }
  rw [isOld]
  refine ⟨noted, fun other apart => respects_rows rfl rfl (Nat.le_succ _) (suffix_cons _ _)
    (fun _ _ listed => (mem_cons.mp listed).resolve_left nofun) fun id' found lower isRow => ?_⟩
  have isRow := (row_replaced valid).symm.trans isRow
  split at isRow
  · cases isRow
  · rw [if_neg lower.ne] at isRow
    exact ⟨found, isRow, .refl _, fun _ => rfl⟩

theorem keeps_session (op : SessionStatement β) (valid : SessionsValid vouching db)
    (owed : SessionOwes vouching worker op db) :
    Keeps vouching worker db ((engine site).exec worker (.session op) ctx db).2 := by
  cases op with
  | personSessionVersion person held => cases held with
    | none => exact keeps_self valid
    | some => exact keeps_yielded valid owed
  | write session =>
    have empty : session.identity = {} := owed
    refine ⟨valid.insertSession ?_ ?_, fun _ _ => respects_insertSession valid.ids⟩
    · exact empty ▸ absurd rfl
    · exact empty ▸ ⟨nofun, nofun⟩
  | acquire => exact keeps_acquire valid
  | release => exact keeps_release valid
  | writeCurrent => exact keeps_writeCurrent valid owed
  | replaceCurrent => exact keeps_replaceCurrent valid owed
  | revokePersonSessionVersion person => exact ⟨valid.setVersion worker person, fun _ _ => respects_setVersion worker person⟩
  | deleteSessions ids => exact ⟨valid.removeSessions ids, fun _ _ => respects_removeSessions ids⟩
  | commitRevocation => exact keeps_commitRevocation valid
  | expireLock => exact keeps_expireLock valid
  | _ => exact keeps_self valid

theorem keeps_statement (op : Statement β) (valid : SessionsValid vouching db)
    (owed : Owes vouching worker op db) : Keeps vouching worker db ((engine site).exec worker op ctx db).2 := by
  cases op with
  | session op => exact keeps_session op valid owed
  | totp op => exact keeps_totp op valid

theorem evolves_statement (op : Statement β) (valid : SessionsValid vouching db)
    (owed : Owes vouching worker op db) : Evolves db ((engine site).exec worker op ctx db).2 :=
  ((keeps_statement op valid owed).2 (worker + 1) (Nat.succ_ne_self worker)).toEvolves

theorem Stale.later {version : Option Nat} (stale : Stale db person version)
    (evolves : Evolves db after) : Stale after person version := by
  refine ⟨fun same => ?_, fun drawn held => (stale.2 drawn held).trans_le evolves.minted⟩
  rcases evolves.version person with ⟨kept, -⟩ | ⟨drawn, high, later⟩
  · exact stale.1 (kept.symm.trans same)
  · exact absurd (stale.2 drawn (same.symm.trans later)) (not_lt.mpr high)

theorem Shown.later (shown : Shown worker db identity) (history : db.history <:+ after.history) :
    Shown worker after identity :=
  fun person origin shows => history.subset (shown person origin shows)

theorem Answer.Settled.later {answer : Answer} (settled : answer.Settled worker db) (evolves : Evolves db after) :
    answer.Settled worker after := by
  cases answer with
  | read => exact fun found same => (settled found same).later evolves.history
  | revoked => exact evolves.history.subset settled
  | attempt =>
    exact fun session error person completed refused held => (settled session error person completed refused held).later evolves
  | _ => trivial

theorem custody_sound : (custody vouching).Sound (engine site) condition where
  trans _ _ _ _ first second := Respects.trans first second
  valid _ _ _ op _ _ valid owed _ := (keeps_statement op valid owed).1
  allows _ _ _ op _ _ valid owed _ other apart _ := (keeps_statement op valid owed).2 other apart
  ends _ _ _ op _ _ valid owed _ _ _ settled := settled.later (evolves_statement op valid owed)

end

end MilkAndHenny.Access

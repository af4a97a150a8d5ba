import MilkAndHenny.Access.Totp

/-! How the session store may change. Sessions lose their identity but never change it, ids and
versions are never drawn twice, and only the holder of a lock touches the session under it. -/

namespace MilkAndHenny.Access
open Library

/-- What normalisation may leave of an identity. -/
def Identity.Descends (identity origin : Identity) : Prop :=
  identity = origin ∨ identity = { origin with pendingMfa := none } ∨ identity = {}

/-- A pending second factor stands beside no person. -/
def Identity.WellFormed (identity : Identity) : Prop :=
  identity.pendingMfa ≠ none → identity.personId = none

namespace Identity.Descends
variable {identity between origin : Identity}

theorem refl (identity : Identity) : identity.Descends identity := .inl rfl

theorem trans (first : identity.Descends between) (second : between.Descends origin) : identity.Descends origin := by
  rcases first with rfl | rfl | rfl
  · exact second
  · rcases second with rfl | rfl | rfl
    · exact .inr (.inl rfl)
    · exact .inr (.inl rfl)
    · exact .inr (.inr rfl)
  · exact .inr (.inr rfl)

theorem wellFormed (descends : identity.Descends origin) (formed : origin.WellFormed) : identity.WellFormed := by
  rcases descends with rfl | rfl | rfl
  · exact formed
  · exact absurd rfl
  · exact absurd rfl

theorem pendingMfa (descends : identity.Descends origin) {pending : PendingMfa}
    (held : identity.pendingMfa = some pending) : origin.pendingMfa = some pending := by
  rcases descends with rfl | rfl | rfl
  · exact held
  · cases held
  · cases held

theorem personId (descends : identity.Descends origin) {person : PersonId}
    (held : identity.personId = some person) : origin.personId = some person := by
  rcases descends with rfl | rfl | rfl
  · exact held
  · exact held
  · cases held

end Identity.Descends

/-! ### Rows -/

namespace Db
variable {db : Db} {mode : StorageMode} {now : Int} {session : AttendeeSession} {id : Nat}

theorem row_id (found : db.row id = some session) : session.id = id := by
  obtain ⟨row, isRow, rfl⟩ := map_eq_some_iff.mp found
  simpa using find?_some isRow

theorem mem_of_row (found : db.row id = some session) : ∃ row ∈ db.sessions, row.session = session := by
  obtain ⟨row, isRow, same⟩ := map_eq_some_iff.mp found
  exact ⟨row, mem_of_find?_eq_some isRow, same⟩

theorem row_of_session (found : db.session id now = some session) : db.row id = some session := by
  obtain ⟨row, isRow, same⟩ := map_eq_some_iff.mp found
  rw [filter_eq_some_iff] at isRow
  exact map_eq_some_iff.mpr ⟨row, isRow.1, same⟩

theorem row_eq_none (above : ∀ row ∈ db.sessions, row.session.id < db.minted) (high : db.minted ≤ id) : db.row id = none := by
  refine map_eq_none_iff.mpr (find?_eq_none.mpr fun row mem => ?_)
  have low := above row mem
  simp only [beq_iff_eq]
  omega

theorem row_removeSessions (ids : List Nat) : (db.removeSessions ids).row id = if ids.contains id then none else db.row id := by
  simp only [row, removeSessions, find?_filter]
  split
  · next gone =>
    refine map_eq_none_iff.mpr (find?_eq_none.mpr fun row _ => ?_)
    simp only [decide_eq_true_eq, beq_iff_eq, not_and]
    rintro kept rfl
    rw [gone] at kept
    cases kept
  · next kept =>
    congr 2
    funext row
    by_cases same : row.session.id = id
    · subst same
      simpa using kept
    · simp [same]

theorem row_insertSession (above : ∀ row ∈ db.sessions, row.session.id < db.minted) :
    (db.insertSession mode now session).2.row id =
      if id = db.minted then some { session with id := db.minted } else db.row id := by
  simp only [row, insertSession, find?_append]
  split
  · next same =>
    have absent := map_eq_none_iff.mp (@row_eq_none _ id above same.ge)
    rw [absent]
    simp [store, same]
  · next other =>
    have skipped : ¬ db.minted = id := fun same => other same.symm
    cases db.sessions.find? fun row => row.session.id == id <;> simp [store, skipped]

theorem row_rewrite (other : Nat) :
    (db.rewrite mode now id session).row other =
      if other = id then (db.row id).map fun _ => { session with id } else db.row other := by
  simp only [row, rewrite, find?_map]
  have unmoved : ((fun row : StoredSession => row.session.id == other) ∘ fun row : StoredSession =>
      if row.session.id = id then Db.store mode now { session with id } else row) =
        fun row => row.session.id == other := by
    funext row
    simp only [Function.comp_apply]
    split
    · next same => simp [store, same]
    · rfl
  rw [unmoved]
  split
  · next same =>
    subst same
    cases found : db.sessions.find? fun row => row.session.id == other with
    | none => rfl
    | some row =>
      have named : row.session.id = other := by simpa using find?_some found
      simp [named, store]
  · next apart =>
    cases found : db.sessions.find? fun row => row.session.id == other with
    | none => rfl
    | some row =>
      have named : row.session.id = other := by simpa using find?_some found
      simp [named, apart]

end Db

structure Evolves (db after : Db) : Prop where
  minted : db.minted ≤ after.minted
  history : db.history <:+ after.history
  /-- A person's version stays, without a revocation, or becomes one that was never drawn. -/
  version : ∀ person,
    after.version person = db.version person ∧
        (∀ worker, Entry.revoked worker person ∈ after.history → Entry.revoked worker person ∈ db.history) ∨
      ∃ drawn, db.minted ≤ drawn ∧ after.version person = some drawn
  rows : ∀ id session, id < db.minted → after.row id = some session →
    ∃ old, db.row id = some old ∧ session.identity.Descends old.identity

namespace Evolves
variable {db middle after : Db}

theorem refl (db : Db) : Evolves db db where
  minted := le_rfl
  history := suffix_refl _
  version := fun _ => .inl ⟨rfl, fun _ listed => listed⟩
  rows := fun _ session _ found => ⟨session, found, .refl _⟩

theorem trans (first : Evolves db middle) (second : Evolves middle after) : Evolves db after where
  minted := first.minted.trans second.minted
  history := first.history.trans second.history
  version := fun person => by
    rcases second.version person with ⟨same, listed⟩ | ⟨drawn, high, later⟩
    · rcases first.version person with ⟨same', listed'⟩ | ⟨drawn, high, later⟩
      · exact .inl ⟨same.trans same', fun worker entry => listed' worker (listed worker entry)⟩
      · exact .inr ⟨drawn, high, same.trans later⟩
    · exact .inr ⟨drawn, first.minted.trans high, later⟩
  rows := fun id session low found => by
    obtain ⟨between, isRow, descends⟩ := second.rows id session (low.trans_le first.minted) found
    obtain ⟨old, isOld, descends'⟩ := first.rows id between low isRow
    exact ⟨old, isOld, descends.trans descends'⟩

end Evolves

/-- What the others may do while the worker is in the middle of its program: besides, they never
lock in its name, and leave a session that it has locked as it is. -/
structure Respects (mode : StorageMode) (worker : Nat) (db after : Db) : Prop extends Evolves db after where
  lockedBy : ∀ id, after.lockedBy id = some worker → db.lockedBy id = some worker
  held : mode ≠ .redis → ∀ id, db.lockedBy id = some worker → after.lockedBy id = some worker
  row : ∀ id old session, id < db.minted → db.row id = some old → after.row id = some session →
    after.lockedBy id = some worker → session = old

namespace Respects
variable {mode : StorageMode} {worker : Nat} {db middle after : Db}

theorem refl (db : Db) : Respects mode worker db db where
  toEvolves := .refl db
  lockedBy := fun _ locked => locked
  held := fun _ _ locked => locked
  row := fun _ _ _ _ isOld found _ => some.inj (found.symm.trans isOld)

theorem trans (first : Respects mode worker db middle) (second : Respects mode worker middle after) :
    Respects mode worker db after where
  toEvolves := first.toEvolves.trans second.toEvolves
  lockedBy := fun id locked => first.lockedBy id (second.lockedBy id locked)
  held := fun durable id locked => second.held durable id (first.held durable id locked)
  row := fun id old session low isOld found locked => by
    obtain ⟨between, isRow, -⟩ := second.rows id session (low.trans_le first.minted) found
    rw [second.row id between session (low.trans_le first.minted) isRow found locked]
    exact first.row id old between low isOld isRow (second.lockedBy id locked)

end Respects

/-! ### What each kind of statement does -/

section
variable {mode : StorageMode} {worker other : Nat} {db after : Db} {now : Int} {session : AttendeeSession} {id : Nat}

/-- The entry is about no revocation, rotation or opened ticket. -/
def Entry.Aside : Entry → Prop
  | .revoked _ _ | .rotated _ _ _ | .opened _ _ => False
  | _ => True

structure Quiet (db after : Db) : Prop where
  sessions : after.sessions = db.sessions
  locks : after.locks = db.locks
  versions : after.versions = db.versions
  minted : db.minted ≤ after.minted
  history : ∃ entries, after.history = entries ++ db.history ∧ ∀ entry ∈ entries, entry.Aside

theorem Quiet.row (quiet : Quiet db after) (id : Nat) : after.row id = db.row id := by
  simp [Db.row, quiet.sessions]

theorem Quiet.version (quiet : Quiet db after) (person : PersonId) : after.version person = db.version person := by
  simp [Db.version, quiet.versions]

theorem Quiet.respects (quiet : Quiet db after) : Respects mode worker db after := by
  obtain ⟨entries, same, silent⟩ := quiet.history
  have locked (id : Nat) : after.lockedBy id = db.lockedBy id := by simp [Db.lockedBy, quiet.locks]
  refine ⟨⟨quiet.minted, ⟨entries, same.symm⟩, fun person => .inl ⟨quiet.version person, fun revoker listed => ?_⟩,
    fun id session _ found => ⟨session, quiet.row id ▸ found, .refl _⟩⟩, fun id => (locked id ▸ ·),
    fun _ id => (locked id ▸ ·), fun id old session _ isOld found _ => ?_⟩
  · rw [same, mem_append] at listed
    exact listed.resolve_left fun fresh => silent _ fresh
  · rw [quiet.row id, isOld] at found
    exact (some.inj found).symm

theorem respects_rows (locks : after.locks = db.locks) (versions : after.versions = db.versions)
    (minted : db.minted ≤ after.minted) (history : db.history <:+ after.history)
    (calm : ∀ worker person, Entry.revoked worker person ∈ after.history → Entry.revoked worker person ∈ db.history)
    (rows : ∀ id session, id < db.minted → after.row id = some session → ∃ old, db.row id = some old ∧
      session.identity.Descends old.identity ∧ (db.lockedBy id = some worker → session = old)) :
    Respects mode worker db after := by
  have locked (id : Nat) : after.lockedBy id = db.lockedBy id := by simp [Db.lockedBy, locks]
  refine ⟨⟨minted, history, fun person => .inl ⟨by simp [Db.version, versions], fun revoker => calm revoker person⟩,
    fun id session low found => ?_⟩, fun id => (locked id ▸ ·), fun _ id => (locked id ▸ ·),
    fun id old session low isOld found mine => ?_⟩
  · obtain ⟨old, isOld, descends, -⟩ := rows id session low found
    exact ⟨old, isOld, descends⟩
  · obtain ⟨old', isOld', -, same⟩ := rows id session low found
    cases some.inj (isOld.symm.trans isOld')
    exact same (locked id ▸ mine)

theorem respects_insertSession (above : ∀ row ∈ db.sessions, row.session.id < db.minted) :
    Respects mode worker db (db.insertSession mode now session).2 := by
  refine respects_rows rfl rfl (Nat.le_succ _) (suffix_refl _) (fun _ _ listed => listed) fun id found low isRow => ?_
  rw [Db.row_insertSession above, if_neg low.ne] at isRow
  exact ⟨found, isRow, .refl _, fun _ => rfl⟩

theorem respects_removeSessions (ids : List Nat) : Respects mode worker db (db.removeSessions ids) := by
  refine respects_rows rfl rfl le_rfl (suffix_refl _) (fun _ _ listed => listed) fun id found _ isRow => ?_
  rw [Db.row_removeSessions] at isRow
  split at isRow
  · cases isRow
  · exact ⟨found, isRow, .refl _, fun _ => rfl⟩

theorem version_setVersion (person other : PersonId) :
    (db.setVersion person).version other = if other = person then some db.minted else db.version other := by
  simp only [Db.version, Db.setVersion]
  split
  · next same => rw [same, lookup_cons_self]
  · next apart =>
    rw [lookup_cons, beq_false_of_ne apart]
    exact lookup_filter_ne apart

theorem respects_setVersion (revoker : Nat) (person : PersonId) :
    Respects mode worker db { db.setVersion person with history := .revoked revoker person :: db.history } := by
  refine ⟨⟨Nat.le_succ _, suffix_cons _ _, fun subject => ?_, fun id session _ found => ⟨session, found, .refl _⟩⟩,
    fun _ locked => locked, fun _ _ locked => locked,
    fun _ _ _ _ isOld found _ => some.inj (found.symm.trans isOld)⟩
  by_cases same : subject = person
  · exact .inr ⟨db.minted, le_rfl, (version_setVersion person subject).trans (if_pos same)⟩
  · refine .inl ⟨(version_setVersion person subject).trans (if_neg same), fun worker listed => ?_⟩
    rcases mem_cons.mp listed with new | listed
    · exact absurd (Entry.revoked.inj new).2 same
    · exact listed

theorem lockedBy_free (id' : Nat) : (db.free id).lockedBy id' = if id' = id then none else db.lockedBy id' := by
  simp only [Db.lockedBy, Db.free]
  split
  · next same => rw [same, lookup_filter_self]
  · next apart => exact lookup_filter_ne apart

theorem respects_free (harmless : mode ≠ .redis → db.lockedBy id ≠ some worker) : Respects mode worker db (db.free id) := by
  refine ⟨⟨le_rfl, suffix_refl _, fun _ => .inl ⟨rfl, fun _ listed => listed⟩,
    fun id session _ found => ⟨session, found, .refl _⟩⟩, fun id' locked => ?_, fun durable id' locked => ?_,
    fun _ _ _ _ isOld found _ => some.inj (found.symm.trans isOld)⟩
  · rw [lockedBy_free] at locked
    split at locked
    · cases locked
    · exact locked
  · rw [lockedBy_free, if_neg]
    · exact locked
    · rintro rfl
      exact harmless durable locked

theorem respects_lock (free : db.lockedBy id = none) (apart : other ≠ worker) :
    Respects mode other db { db with locks := (id, worker) :: db.locks } := by
  have locked (id' : Nat) : Db.lockedBy { db with locks := (id, worker) :: db.locks } id' =
      if id' = id then some worker else db.lockedBy id' := by
    simp only [Db.lockedBy]
    split
    · next same => rw [same, lookup_cons_self]
    · next apart => rw [lookup_cons, beq_false_of_ne apart]
  refine ⟨⟨le_rfl, suffix_refl _, fun _ => .inl ⟨rfl, fun _ listed => listed⟩,
    fun id session _ found => ⟨session, found, .refl _⟩⟩, fun id' mine => ?_, fun _ id' mine => ?_,
    fun _ _ _ _ isOld found _ => some.inj (found.symm.trans isOld)⟩
  · rw [locked] at mine
    split at mine
    · exact absurd (some.inj mine).symm apart
    · exact mine
  · rw [locked, if_neg]
    · exact mine
    · rintro rfl
      rw [free] at mine
      cases mine

end

end MilkAndHenny.Access

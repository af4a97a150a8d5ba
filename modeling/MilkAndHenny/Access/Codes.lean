import MilkAndHenny.Access.Totp

/-! One-time codes. An authenticator remembers the last time step it has accepted and a
recovery code that it has been consumed, so none is accepted twice, in any run. -/

namespace MilkAndHenny.Access
open Library

variable {row : Authenticator} {counter : Int} {secret : String} {now : Int}

/-- May the code be accepted once the earlier one has been? -/
def Code.precedes : Code → Code → Bool
  | .totp authenticator counter, .totp other later => authenticator != other || decide (counter < later)
  | .recovery _ id, .recovery _ other => id != other
  | _, _ => true

def codesOf (history : List Entry) : List Code :=
  history.filterMap fun
    | .accepted _ code => some code
    | _ => none

/-- Every time step of an authenticator is later than those before it, and no recovery code is
accepted twice. -/
def OneTime (history : List Entry) : Prop := (codesOf history).Pairwise fun later earlier => earlier.precedes later

/-- The tables remember that the code has been accepted. -/
def Code.Used (db : Db) : Code → Prop
  | .totp authenticator counter => authenticator < db.minted ∧ ∀ row ∈ db.authenticators, row.id = authenticator →
      row.verifiedAt.isSome ∧ ∃ last, row.lastCounter = some last ∧ counter ≤ last
  | .recovery _ id => id < db.minted ∧ ∀ row ∈ db.recoveryCodes, row.id = id → row.consumedAt.isSome

/-- The primary keys of both tables. -/
structure Db.Keyed (db : Db) : Prop where
  authenticators : (db.authenticators.map (·.id)).Nodup
  recoveryCodes : (db.recoveryCodes.map (·.id)).Nodup
  authenticatorsDrawn : ∀ row ∈ db.authenticators, row.id < db.minted
  recoveryCodesDrawn : ∀ row ∈ db.recoveryCodes, row.id < db.minted

structure CodesValid (db : Db) : Prop extends db.Keyed where
  used : ∀ code ∈ codesOf db.history, code.Used db
  oneTime : OneTime db.history

/-- Verified authenticators never go back, nor do consumed codes; whatever else there is, is new. -/
structure Remembers (db after : Db) : Prop where
  minted : db.minted ≤ after.minted
  authenticators : ∀ row ∈ after.authenticators, row.id < db.minted → ∃ old ∈ db.authenticators, old.id = row.id ∧
    (old.verifiedAt.isSome → row.verifiedAt.isSome ∧
      ∀ last, old.lastCounter = some last → ∃ later, row.lastCounter = some later ∧ last ≤ later)
  recoveryCodes : ∀ row ∈ after.recoveryCodes, row.id < db.minted → ∃ old ∈ db.recoveryCodes, old.id = row.id ∧
    (old.consumedAt.isSome → row.consumedAt.isSome)

section
variable {db after : Db} {code : Code}

theorem Code.Used.later (used : code.Used db) (remembers : Remembers db after) : code.Used after := by
  cases code with
  | totp =>
    refine ⟨used.1.trans_le remembers.minted, fun row mem same => ?_⟩
    obtain ⟨old, listed, id, kept⟩ := remembers.authenticators row mem (same ▸ used.1)
    obtain ⟨verified, last, held, before⟩ := used.2 old listed (id.trans same)
    obtain ⟨later, held', after⟩ := (kept verified).2 last held
    exact ⟨(kept verified).1, later, held', before.trans after⟩
  | recovery person id =>
    refine ⟨used.1.trans_le remembers.minted, fun row mem same => ?_⟩
    obtain ⟨old, listed, id, kept⟩ := remembers.recoveryCodes row mem (same ▸ used.1)
    exact kept (used.2 old listed (id.trans same))

theorem CodesValid.unaccepted (valid : CodesValid db) (keyed : after.Keyed) (remembers : Remembers db after)
    (silent : codesOf after.history = codesOf db.history) : CodesValid after := by
  refine ⟨keyed, fun code listed => ?_, ?_⟩
  · rw [silent] at listed
    exact (valid.used code listed).later remembers
  · unfold OneTime
    rw [silent]
    exact valid.oneTime

theorem CodesValid.accepting (valid : CodesValid db) (keyed : after.Keyed) (remembers : Remembers db after)
    (accepts : codesOf after.history = code :: codesOf db.history) (used : code.Used after)
    (first : ∀ earlier : Code, earlier.Used db → earlier.precedes code) : CodesValid after := by
  refine ⟨keyed, fun other listed => ?_, ?_⟩
  · rw [accepts] at listed
    rcases mem_cons.mp listed with rfl | earlier
    · exact used
    · exact (valid.used other earlier).later remembers
  · unfold OneTime
    rw [accepts]
    exact pairwise_cons.mpr ⟨fun earlier listed => first earlier (valid.used earlier listed), valid.oneTime⟩

end

/-! ### What the statements do to the tables -/

section
variable {site : Site} {worker : Nat} {ctx : Ctx} {db after : Db} {person : PersonId} {active replaced : List Nat}
  {codes : List String} {change : Authenticator → Authenticator} {which : Authenticator → Bool}
  {β : Type} {authenticator : Nat} {token : String} {session : Nat}

theorem session_frame (op : SessionStatement β) (mode : StorageMode) (worker : Nat) (ctx : Ctx) (db : Db) :
    (op.exec mode worker ctx db).2.authenticators = db.authenticators ∧
    (op.exec mode worker ctx db).2.recoveryCodes = db.recoveryCodes ∧
    db.minted ≤ (op.exec mode worker ctx db).2.minted := by
  cases op with
  | write | revokePersonSessionVersion | commitRevocation => exact ⟨rfl, rfl, Nat.le_succ _⟩
  | acquire =>
    simp only [SessionStatement.exec]
    split
    · exact ⟨rfl, rfl, le_rfl⟩
    · split <;> exact ⟨rfl, rfl, le_rfl⟩
  | release | expireLock | writeCurrent =>
    simp only [SessionStatement.exec]
    split <;> exact ⟨rfl, rfl, le_rfl⟩
  | replaceCurrent =>
    simp only [SessionStatement.exec]
    split
    · exact ⟨rfl, rfl, Nat.le_succ _⟩
    · exact ⟨rfl, rfl, le_rfl⟩
  | _ => exact ⟨rfl, rfl, le_rfl⟩

theorem Db.Keyed.same (keyed : db.Keyed) (authenticators : after.authenticators = db.authenticators)
    (recoveryCodes : after.recoveryCodes = db.recoveryCodes) (minted : db.minted ≤ after.minted) : after.Keyed := by
  refine ⟨?_, ?_, fun row mem => ?_, fun row mem => ?_⟩
  · rw [authenticators]
    exact keyed.authenticators
  · rw [recoveryCodes]
    exact keyed.recoveryCodes
  · exact (keyed.authenticatorsDrawn row (authenticators ▸ mem)).trans_le minted
  · exact (keyed.recoveryCodesDrawn row (recoveryCodes ▸ mem)).trans_le minted

theorem Remembers.of_same (authenticators : after.authenticators = db.authenticators)
    (recoveryCodes : after.recoveryCodes = db.recoveryCodes) (minted : db.minted ≤ after.minted) : Remembers db after := by
  refine ⟨minted, fun row mem _ => ?_, fun row mem _ => ?_⟩
  · exact ⟨row, authenticators ▸ mem, rfl, fun verified => ⟨verified, fun last held => ⟨last, held, le_rfl⟩⟩⟩
  · exact ⟨row, recoveryCodes ▸ mem, rfl, id⟩

theorem Remembers.update_authenticators (kept : ∀ row, (change row).id = row.id)
    (better : ∀ row ∈ db.authenticators, which row → row.verifiedAt.isSome → (change row).verifiedAt.isSome ∧
      ∀ last, row.lastCounter = some last → ∃ later, (change row).lastCounter = some later ∧ last ≤ later) :
    Remembers db { db with authenticators := update db.authenticators which change } := by
  refine ⟨le_rfl, fun row mem _ => ?_, fun row mem _ => ⟨row, mem, rfl, id⟩⟩
  obtain ⟨old, listed, rfl⟩ := mem_update.mp mem
  split
  · next changed => exact ⟨old, listed, (kept old).symm, better old listed changed⟩
  · exact ⟨old, listed, rfl, fun verified => ⟨verified, fun last held => ⟨last, held, le_rfl⟩⟩⟩

theorem Db.Keyed.update_authenticators (keyed : db.Keyed) (kept : ∀ row, (change row).id = row.id) :
    Db.Keyed { db with authenticators := update db.authenticators which change } := by
  refine ⟨nodup_update kept keyed.authenticators, keyed.recoveryCodes, fun row mem => ?_, keyed.recoveryCodesDrawn⟩
  obtain ⟨old, listed, rfl⟩ := mem_update.mp mem
  split
  · exact kept old ▸ keyed.authenticatorsDrawn old listed
  · exact keyed.authenticatorsDrawn old listed

theorem Remembers.trans {middle : Db} (first : Remembers db middle) (second : Remembers middle after) : Remembers db after where
  minted := first.minted.trans second.minted
  authenticators row mem low := by
    obtain ⟨between, listed, same, kept⟩ := second.authenticators row mem (low.trans_le first.minted)
    obtain ⟨old, listed', same', kept'⟩ := first.authenticators between listed (same ▸ low)
    refine ⟨old, listed', same'.trans same, fun verified => ⟨(kept (kept' verified).1).1, fun last held => ?_⟩⟩
    obtain ⟨next, held', before⟩ := (kept' verified).2 last held
    obtain ⟨later, held'', after⟩ := (kept (kept' verified).1).2 next held'
    exact ⟨later, held'', before.trans after⟩
  recoveryCodes row mem low := by
    obtain ⟨between, listed, same, kept⟩ := second.recoveryCodes row mem (low.trans_le first.minted)
    obtain ⟨old, listed', same', kept'⟩ := first.recoveryCodes between listed (same ▸ low)
    exact ⟨old, listed', same'.trans same, kept ∘ kept'⟩

theorem mem_replaceRecoveryCodes {row : RecoveryCode}
    (mem : row ∈ (db.replaceRecoveryCodes person replaced codes).recoveryCodes) :
    row ∈ db.recoveryCodes ∧ (row.personId ≠ person ∨ row.id ∉ replaced) ∨
      db.minted < row.id ∧ row.id < db.minted + 1 + codes.length ∧ row.personId = person ∧ row.generationId = db.minted := by
  rcases mem_append.mp mem with old | new
  · obtain ⟨listed, other⟩ := mem_filter.mp old
    exact .inl ⟨listed, of_decide_eq_true other⟩
  · obtain ⟨index, inside, rfl⟩ := List.mem_mapIdx.mp new
    refine .inr ⟨?_, ?_, rfl, rfl⟩
    · show db.minted < db.minted + 1 + index
      omega
    · show db.minted + 1 + index < db.minted + 1 + codes.length
      omega

theorem Db.Keyed.replaceRecoveryCodes (keyed : db.Keyed) (person : PersonId) (replaced : List Nat) (codes : List String) :
    (db.replaceRecoveryCodes person replaced codes).Keyed := by
  refine ⟨keyed.authenticators, ?_, fun row mem => ?_, fun row mem => ?_⟩
  · have drawn : (codes.mapIdx fun index codeHash => (
        { id := db.minted + 1 + index, personId := person, generationId := db.minted, codeHash } : RecoveryCode)).map (·.id) =
        (List.range codes.length).map (db.minted + 1 + ·) := by
      refine List.ext_getElem (by simp) fun index _ _ => by simp
    simp only [Db.replaceRecoveryCodes, map_append, drawn]
    refine nodup_append.mpr ⟨keyed.recoveryCodes.sublist (filter_sublist.map _), ?_, fun old listed new drawn same => ?_⟩
    · exact List.nodup_range.map fun first second same => by omega
    · obtain ⟨row, mem, rfl⟩ := mem_map.mp listed
      obtain ⟨index, -, rfl⟩ := mem_map.mp drawn
      have low := keyed.recoveryCodesDrawn row (mem_filter.mp mem).1
      omega
  · exact (keyed.authenticatorsDrawn row mem).trans_le (by simp only [Db.replaceRecoveryCodes]; omega)
  · rcases mem_replaceRecoveryCodes mem with ⟨old, -⟩ | ⟨-, below, -, -⟩
    · exact (keyed.recoveryCodesDrawn row old).trans_le (by simp only [Db.replaceRecoveryCodes]; omega)
    · exact below

theorem Remembers.replaceRecoveryCodes (person : PersonId) (replaced : List Nat) (codes : List String) :
    Remembers db (db.replaceRecoveryCodes person replaced codes) := by
  refine ⟨by simp only [Db.replaceRecoveryCodes]; omega, fun row mem _ => ?_, fun row mem low => ?_⟩
  · exact ⟨row, mem, rfl, fun verified => ⟨verified, fun last held => ⟨last, held, le_rfl⟩⟩⟩
  · rcases mem_replaceRecoveryCodes mem with ⟨old, -⟩ | ⟨above, -⟩
    · exact ⟨row, old, rfl, id⟩
    · omega

theorem Db.Keyed.row_unique (keyed : db.Keyed) {other : Authenticator} (mem : row ∈ db.authenticators)
    (listed : other ∈ db.authenticators) (same : row.id = other.id) : row = other :=
  inj_on_of_nodup_map keyed.authenticators mem listed same

theorem precedes_step {earlier : Code} (later : ∀ before, earlier = .totp authenticator before → before < counter) :
    earlier.precedes (.totp authenticator counter) := by
  cases earlier with
  | totp other before =>
    by_cases same : other = authenticator
    · subst same
      simp [Code.precedes, later before rfl]
    · simp [Code.precedes, same]
  | recovery => rfl

theorem keeps_enroll (valid : CodesValid db) :
    CodesValid ((engine site).exec worker (.totp (.enroll person session secret)) ctx db).2 := by
  refine valid.unaccepted ⟨?_, valid.recoveryCodes, fun row mem => ?_, fun row mem => ?_⟩
    ⟨Nat.le_succ _, fun row mem low => ?_, fun row mem _ => ⟨row, mem, rfl, id⟩⟩ rfl
  · show ((_ ++ [_]).map _).Nodup
    rw [map_append]
    refine nodup_append.mpr ⟨valid.authenticators.sublist (filter_sublist.map _), nodup_singleton _,
      fun id listed new drawn same => ?_⟩
    obtain ⟨row, mem, rfl⟩ := mem_map.mp listed
    cases mem_singleton.mp drawn
    exact absurd same (valid.authenticatorsDrawn row (mem_filter.mp mem).1).ne
  · rcases mem_append.mp mem with old | new
    · exact (valid.authenticatorsDrawn row (mem_filter.mp old).1).trans (Nat.lt_succ_self _)
    · cases mem_singleton.mp new
      exact Nat.lt_succ_self _
  · exact (valid.recoveryCodesDrawn row mem).trans (Nat.lt_succ_self _)
  · rcases mem_append.mp mem with old | new
    · exact ⟨row, (mem_filter.mp old).1, rfl, fun verified => ⟨verified, fun last held => ⟨last, held, le_rfl⟩⟩⟩
    · cases mem_singleton.mp new
      exact absurd low (lt_irrefl _)

theorem keeps_verifyEnrollment     (valid : CodesValid db) (mem : row ∈ db.authenticators) (unverified : row.verifiedAt = none) :
    CodesValid { (db.verifyEnrollment row.id person active counter now).replaceRecoveryCodes person replaced codes with
      history := .accepted worker (.totp row.id counter) :: .replaced person db.minted :: db.history } := by
  let revoked := update db.authenticators (fun row => row.personId == person && row.active && active.contains row.id)
    fun row => { row with revokedAt := some now }
  have keyed : Db.Keyed { db with authenticators := revoked } := valid.toKeyed.update_authenticators fun _ => rfl
  have remembers : Remembers db { db with authenticators := revoked } :=
    Remembers.update_authenticators (fun _ => rfl) fun _ _ _ verified => ⟨verified, fun last held => ⟨last, held, le_rfl⟩⟩
  have fresh : ∀ other ∈ revoked, other.id = row.id → other.verifiedAt = none := by
    intro other listed same
    obtain ⟨old, inTable, id, verifiedAt⟩ : ∃ old ∈ db.authenticators, other.id = old.id ∧ other.verifiedAt = old.verifiedAt := by
      obtain ⟨old, inTable, rfl⟩ := mem_update.mp listed
      refine ⟨old, inTable, ?_⟩
      split <;> exact ⟨rfl, rfl⟩
    rw [verifiedAt, valid.toKeyed.row_unique inTable mem (id.symm.trans same), unverified]
  have verifies : Remembers { db with authenticators := revoked } (db.verifyEnrollment row.id person active counter now) := by
    refine Remembers.update_authenticators (fun _ => rfl) fun other listed same verified => ?_
    rw [fresh other listed (by simpa using same)] at verified
    cases verified
  have verifiedKeyed : (db.verifyEnrollment row.id person active counter now).Keyed := keyed.update_authenticators fun _ => rfl
  have replacedKeyed := verifiedKeyed.replaceRecoveryCodes person replaced codes
  have kept := (remembers.trans verifies).trans (.replaceRecoveryCodes person replaced codes)
  refine valid.accepting (replacedKeyed.same rfl rfl le_rfl) (kept.trans (.of_same rfl rfl le_rfl)) rfl
    ⟨?_, fun other listed same => ?_⟩ fun earlier used => precedes_step ?_
  · exact (valid.authenticatorsDrawn row mem).trans_le (by simp only [Db.replaceRecoveryCodes, Db.verifyEnrollment]; omega)
  · obtain ⟨old, -, rfl⟩ := mem_update.mp listed
    split
    · exact ⟨rfl, counter, rfl, le_rfl⟩
    · next apart =>
      rw [if_neg apart] at same
      exact absurd (beq_iff_eq.mpr same) apart
  · rintro before rfl
    have verified := (used.2 row mem rfl).1
    rw [unverified] at verified
    cases verified

theorem keeps_finishEnrollment {enrollment : Nat} (valid : CodesValid db) :
    CodesValid ((engine site).exec worker (.totp (.finishEnrollment enrollment person session token active replaced codes)) ctx db).2 := by
  simp only [engine, Statement.exec, TotpStatement.exec]
  split
  · exact valid
  · next row found =>
    split
    · exact valid
    · have named := find?_some found
      simp only [and_eq_true, beq_iff_eq, isNone_iff_eq_none] at named
      obtain ⟨⟨⟨⟨⟨rfl, -⟩, unverified⟩, -⟩, -⟩, -⟩ := named
      exact keeps_verifyEnrollment valid (mem_of_find?_eq_some found) unverified

theorem lt_of_validateTotp {token : String} {lastCounter : Option Int} {last : Int}
    (accepted : site.validateTotp now token secret lastCounter = some counter) (held : lastCounter = some last) :
    last < counter := by
  subst held
  simp only [Site.validateTotp] at accepted
  split at accepted
  · cases accepted
  split at accepted
  · cases accepted
  split at accepted
  · cases accepted
  · next late =>
    cases accepted
    simpa using late

theorem keeps_acceptTotp (valid : CodesValid db) :
    CodesValid ((engine site).exec worker (.totp (.acceptTotp authenticator token)) ctx db).2 := by
  simp only [engine, Statement.exec, TotpStatement.exec]
  split
  · exact valid
  · next row found =>
    split
    · exact valid
    · next counter accepted =>
      have mem := mem_of_find?_eq_some found
      have named := find?_some found
      simp only [and_eq_true, beq_iff_eq, Authenticator.active] at named
      obtain ⟨rfl, verified, -⟩ := named
      have later : ∀ last, row.lastCounter = some last → last < counter := fun last => lt_of_validateTotp accepted
      let advanced : Db := { db with authenticators := update db.authenticators (·.id == row.id) fun row =>
        { row with lastCounter := some counter, lastUsedAt := some ctx.now } }
      let stepped : Db := { advanced with history := .accepted worker (.totp row.id counter) :: db.history }
      have advancedKeyed : advanced.Keyed := valid.toKeyed.update_authenticators fun _ => rfl
      have keyed : stepped.Keyed := advancedKeyed.same rfl rfl le_rfl
      have advances : Remembers db advanced := by
        refine Remembers.update_authenticators (fun _ => rfl) fun other listed same verified => ⟨verified, fun last held => ?_⟩
        cases valid.toKeyed.row_unique listed mem (by simpa using same)
        exact ⟨counter, rfl, (later last held).le⟩
      have remembers : Remembers db stepped := advances.trans (.of_same rfl rfl le_rfl)
      have used : (Code.totp row.id counter).Used stepped := by
        refine ⟨valid.authenticatorsDrawn row mem, fun other listed same => ?_⟩
        obtain ⟨old, inTable, rfl⟩ := mem_update.mp listed
        split
        · next selected =>
          cases valid.toKeyed.row_unique inTable mem (by simpa using selected)
          exact ⟨verified, counter, rfl, le_rfl⟩
        · next apart =>
          rw [if_neg apart] at same
          exact absurd (beq_iff_eq.mpr same) apart
      refine valid.accepting keyed remembers rfl used fun earlier used => precedes_step ?_
      rintro before rfl
      obtain ⟨-, last, held, reached⟩ := used.2 row mem rfl
      exact reached.trans_lt (later last held)

theorem keeps_consumeRecoveryCode {wanted : String} (valid : CodesValid db) :
    CodesValid ((engine site).exec worker (.totp (.consumeRecoveryCode person wanted)) ctx db).2 := by
  simp only [engine, Statement.exec, TotpStatement.exec]
  split
  · exact valid
  · next row found =>
    have mem := mem_of_find?_eq_some found
    have named := find?_some found
    simp only [and_eq_true, beq_iff_eq, isNone_iff_eq_none] at named
    obtain ⟨⟨rfl, unconsumed⟩, -⟩ := named
    let consumed : Db := { db with
      recoveryCodes := update db.recoveryCodes (·.id == row.id) fun row => { row with consumedAt := some ctx.now }
      history := .accepted worker (.recovery row.personId row.id) :: db.history }
    have keyed : consumed.Keyed := by
      refine ⟨valid.authenticators, nodup_update (fun _ => rfl) valid.recoveryCodes, valid.authenticatorsDrawn, fun other listed => ?_⟩
      obtain ⟨old, inTable, rfl⟩ := mem_update.mp listed
      split <;> exact valid.recoveryCodesDrawn old inTable
    have remembers : Remembers db consumed := by
      refine ⟨le_rfl, fun other listed _ => ?_, fun other listed _ => ?_⟩
      · exact ⟨other, listed, rfl, fun verified => ⟨verified, fun last held => ⟨last, held, le_rfl⟩⟩⟩
      · obtain ⟨old, inTable, rfl⟩ := mem_update.mp listed
        split
        · exact ⟨old, inTable, rfl, fun _ => rfl⟩
        · exact ⟨old, inTable, rfl, id⟩
    have used : (Code.recovery row.personId row.id).Used consumed := by
      refine ⟨valid.recoveryCodesDrawn row mem, fun other listed same => ?_⟩
      obtain ⟨old, inTable, rfl⟩ := mem_update.mp listed
      split
      · rfl
      · next apart =>
        rw [if_neg apart] at same
        exact absurd (beq_iff_eq.mpr same) apart
    refine valid.accepting keyed remembers rfl used fun earlier used => ?_
    cases earlier with
    | totp => rfl
    | recovery =>
      refine bne_iff_ne.mpr fun same => ?_
      have consumed := used.2 row mem same.symm
      rw [unconsumed] at consumed
      cases consumed

theorem codesOf_session (op : SessionStatement β) (reply : β) (history : List Entry) :
    codesOf (observe worker db (.session op) reply ++ history) = codesOf history := by
  cases op with
  | personSessionVersion person held => cases held with
    | none => rfl
    | some =>
      simp only [observe]
      split <;> rfl
  | writeCurrent => cases reply <;> rfl
  | replaceCurrent id => cases reply with
    | none => rfl
    | some =>
      simp only [observe]
      cases db.row id <;> rfl
  | _ => rfl

theorem codes_kept (op : Statement β) (worker : Nat) (ctx : Ctx) (valid : CodesValid db) :
    CodesValid ((engine site).exec worker op ctx db).2 := by
  cases op with
  | session op =>
    obtain ⟨authenticators, recoveryCodes, minted⟩ := session_frame op site.mode worker ctx db
    exact valid.unaccepted (valid.toKeyed.same authenticators recoveryCodes minted)
      (.of_same authenticators recoveryCodes minted) (codesOf_session op _ db.history)
  | totp op =>
    cases op with
    | enroll => exact keeps_enroll valid
    | finishEnrollment => exact keeps_finishEnrollment valid
    | acceptTotp => exact keeps_acceptTotp valid
    | consumeRecoveryCode => exact keeps_consumeRecoveryCode valid
    | disable =>
      refine valid.unaccepted ⟨nodup_update (fun _ => rfl) valid.authenticators,
        valid.recoveryCodes.sublist (filter_sublist.map _), fun row mem => ?_,
        fun row mem => valid.recoveryCodesDrawn row (mem_filter.mp mem).1⟩
        ⟨le_rfl, fun row mem _ => ?_, fun row mem _ => ⟨row, (mem_filter.mp mem).1, rfl, id⟩⟩ rfl
      all_goals obtain ⟨old, inTable, rfl⟩ := mem_update.mp mem
      · split <;> exact valid.authenticatorsDrawn old inTable
      · split <;> exact ⟨old, inTable, rfl, fun verified => ⟨verified, fun last held => ⟨last, held, le_rfl⟩⟩⟩
    | regenerate person replaced codes =>
      exact valid.unaccepted ((valid.toKeyed.replaceRecoveryCodes person replaced codes).same rfl rfl le_rfl)
        ((Remembers.replaceRecoveryCodes person replaced codes).trans (.of_same rfl rfl le_rfl)) rfl
    | _ => exact valid.unaccepted (valid.toKeyed.same rfl rfl le_rfl) (.of_same rfl rfl le_rfl) rfl

end

end MilkAndHenny.Access

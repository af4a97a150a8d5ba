import MilkAndHenny.GameResults.Delivery

/-! Rows of the outbox in Postgres: a row is marked delivered only under the claim of the drain whose consumer consumed it. -/

namespace MilkAndHenny.GameResults

open Library

variable {watched : Claimed} {rows : List ResultRow} {row : ResultRow}

namespace PostgresOutbox

variable {outbox : PostgresOutbox}

def persists (outbox : PostgresOutbox) : PostgresAction → List OfficialGameResultEnvelope
  | .transition results =>
    match outbox.insertResults results with
    | .ok _ => results
    | .error _ => []
  | _ => []

def accepts (outbox : PostgresOutbox) : PostgresAction → List Identity
  | .turn index (.answer answer) => outbox.drains[index]?.elim [] fun drain => consumes (fun item => item.envelope.identity) drain answer
  | _ => []

def looks (outbox : PostgresOutbox) : PostgresAction → List (Nat × ClaimedResult)
  | .turn index turn => (outbox.drains[index]?.elim [] fun drain => drain.passes turn).map (index, ·)
  | _ => []

/-- The rows' last claims besides, by the numbers of the drains. -/
structure Claimed extends Watched PostgresOutbox ClaimedResult where
  lastClaim : String × String × Nat → Option Nat

def claims (outbox : PostgresOutbox) (action : PostgresAction) (lastClaim : String × String × Nat → Option Nat) : String × String × Nat → Option Nat :=
  match action with
  | .claim textLe held limit => fun key => if (outbox.claimedKeys textLe held limit).contains key then some outbox.drains.length else lastClaim key
  | _ => lastClaim

def next (action : PostgresAction) (watched : Claimed) : Claimed where
  outbox := watched.outbox.apply action
  persisted := watched.persisted ++ persists watched.outbox action
  accepted := watched.accepted ++ accepts watched.outbox action
  looked := watched.looked ++ looks watched.outbox action
  lastClaim := claims watched.outbox action watched.lastClaim

def content (row : ResultRow) : (String × String × Nat) × OfficialGameResultEnvelope × String := (row.key, row.envelope, row.payloadHash)

inductive Holds (drain : Drain ClaimedResult ClaimedResult) (item : ClaimedResult) : Prop
  | left (mem : item ∈ drain.left)
  | offering (stage : drain.stage = .offering item)
  | answered (consumed : Bool) (stage : drain.stage = .answered item consumed)

structure RowsSound (rows : List ResultRow) : Prop where
  keys : (rows.map (·.key)).Nodup
  named : ∀ row ∈ rows, row.envelope.identity = (row.key, row.payloadHash)

structure Sound (watched : Claimed) : Prop where
  rows : RowsSound watched.outbox.rows
  kept : ∀ envelope ∈ watched.persisted, ∃ row ∈ watched.outbox.rows, row.envelope.identity = envelope.identity
  delivered : ∀ row ∈ watched.outbox.rows, row.status = .delivered → row.envelope.identity ∈ watched.accepted
  claims : ∀ row ∈ watched.outbox.rows, ∀ claimToken, row.claimToken = some claimToken → watched.lastClaim row.key = some claimToken
  held : ∀ index drain, watched.outbox.drains[index]? = some drain → ∀ item, Holds drain item →
    item.claimToken = index ∧ ∃ row ∈ watched.outbox.rows, row.key = item.key ∧ row.envelope = item.envelope
  answered : ∀ drain ∈ watched.outbox.drains, ∀ item, drain.stage = .answered item true → item.envelope.identity ∈ watched.accepted

/-! ### Rows -/

section

variable {after : List ResultRow} {now : Int} {envelope : OfficialGameResultEnvelope}
  {results : List OfficialGameResultEnvelope}

theorem RowsSound.of_content (sound : RowsSound rows) (same : after.map content = rows.map content) : RowsSound after := by
  have keys : after.map (·.key) = rows.map (·.key) := by
    have firsts := congrArg (List.map (·.1)) same
    rwa [map_map, map_map] at firsts
  constructor
  · rw [keys]
    exact sound.keys
  · intro row mem
    have listed : content row ∈ rows.map content := same ▸ mem_map_of_mem mem
    obtain ⟨other, known, equal⟩ := mem_map.mp listed
    have named := sound.named other known
    simp only [content, Prod.mk.injEq] at equal
    rwa [equal.1, equal.2.1, equal.2.2] at named

theorem mem_content (same : after.map content = rows.map content) (mem : row ∈ rows) :
    ∃ other ∈ after, other.key = row.key ∧ other.envelope = row.envelope := by
  have listed : content row ∈ after.map content := same ▸ mem_map_of_mem mem
  obtain ⟨other, known, equal⟩ := mem_map.mp listed
  simp only [content, Prod.mk.injEq] at equal
  exact ⟨other, known, equal.1, equal.2.1⟩

theorem row_unique (sound : RowsSound rows) {other : ResultRow} (mem : row ∈ rows) (listed : other ∈ rows) (same : row.key = other.key) : row = other :=
  inj_on_of_nodup_map sound.keys mem listed same

structure Inserted (rows : List ResultRow) (results : List OfficialGameResultEnvelope) (after : List ResultRow) : Prop where
  sound : RowsSound after
  old : ∀ row ∈ rows, row ∈ after
  new : ∀ row ∈ after, row ∈ rows ∨ row.status = .pending ∧ row.claimToken = none
  kept : ∀ envelope ∈ results, ∃ row ∈ after, row.envelope.identity = envelope.identity

theorem insertResult_inserted (sound : RowsSound rows) (inserted : insertResult now rows envelope = .ok after) : Inserted rows [envelope] after := by
  unfold insertResult at inserted
  split at inserted
  · cases inserted
  split at inserted
  · cases inserted
  split at inserted
  · next missing =>
    cases inserted
    have fresh : envelope.key ∉ rows.map (·.key) := by
      intro listed
      obtain ⟨row, mem, same⟩ := mem_map.mp listed
      exact find?_eq_none.mp missing row mem (beq_iff_eq.mpr same)
    refine ⟨⟨?_, ?_⟩, fun row mem => mem_append_left _ mem, ?_, ?_⟩
    · rw [map_append, nodup_append_comm]
      exact nodup_cons.mpr ⟨fresh, sound.keys⟩
    · intro row mem
      rcases mem_append.mp mem with mem | mem
      · exact sound.named row mem
      · rw [mem_singleton.mp mem]
        rfl
    · intro row mem
      rcases mem_append.mp mem with mem | mem
      · exact .inl mem
      · rw [mem_singleton.mp mem]
        exact .inr ⟨rfl, rfl⟩
    · intro other mem
      rw [mem_singleton.mp mem]
      exact ⟨newRow now envelope, mem_append_right _ (mem_singleton_self _), rfl⟩
  · next existing found =>
    split at inserted
    · cases inserted
    · next same =>
      cases inserted
      refine ⟨sound, fun row mem => mem, fun row mem => .inl mem, ?_⟩
      intro other mem
      rw [mem_singleton.mp mem]
      have known := mem_of_find?_eq_some found
      have key : existing.key = envelope.key := eq_of_beq (find?_some (p := (ResultRow.key · == envelope.key)) found)
      refine ⟨existing, known, ?_⟩
      rw [sound.named existing known, key, not_not.mp same]
      rfl

theorem Inserted.trans {middle : List ResultRow} (first : Inserted rows [envelope] middle)
    (rest : Inserted middle results after) : Inserted rows (envelope :: results) after where
  sound := rest.sound
  old row mem := rest.old row (first.old row mem)
  new row mem := by
    rcases rest.new row mem with mem | waits
    · exact first.new row mem
    · exact .inr waits
  kept other mem := by
    rcases mem_cons.mp mem with rfl | mem
    · obtain ⟨row, known, same⟩ := first.kept other (mem_singleton_self _)
      exact ⟨row, rest.old row known, same⟩
    · exact rest.kept other mem

theorem insertResults_inserted (sound : RowsSound rows)
    (inserted : results.foldlM (insertResult now) rows = .ok after) : Inserted rows results after := by
  induction results generalizing rows with
  | nil =>
    cases inserted
    exact ⟨sound, fun row mem => mem, fun row mem => .inl mem, by simp⟩
  | cons envelope results ih =>
    rw [List.foldlM_cons] at inserted
    cases first : insertResult now rows envelope with
    | error =>
      rw [first] at inserted
      cases inserted
    | ok =>
      rw [first] at inserted
      have step := insertResult_inserted sound first
      exact step.trans (ih step.sound inserted)

end

/-! ### Steps -/

section

variable {action : PostgresAction} {drain : Drain ClaimedResult ClaimedResult} {item : ClaimedResult} {index : Nat}
  {delivered : Bool} {row : ResultRow} {turn : Turn}

theorem content_update {which : ResultRow → Bool} {change : ResultRow → ResultRow} (kept : ∀ row, content (change row) = content row) :
    (update rows which change).map content = rows.map content := map_update kept

theorem apply_content (old : ∀ results, action ≠ .transition results) (outbox : PostgresOutbox) :
    (outbox.apply action).rows.map content = outbox.rows.map content := by
  cases action with
  | transition results => exact absurd rfl (old results)
  | wait => rfl
  | claim => exact content_update fun row => rfl
  | turn index turn =>
    simp only [apply]
    split
    · rfl
    · cases turn with
      | look | answer => rfl
      | settle =>
        simp only
        split
        · exact content_update fun row => rfl
        · rfl

theorem turn_drains (index : Nat) (turn : Turn) (known : outbox.drains[index]? = some drain) :
    ∃ delivered, (outbox.apply (.turn index turn)).drains = outbox.drains.set index (drain.turned some delivered turn) := by
  simp only [apply, known]
  cases turn with
  | look | answer => exact ⟨false, rfl⟩
  | settle =>
    obtain ⟨inside, same⟩ := getElem?_eq_some_iff.mp known
    have idle (stays : drain.settle false = drain) : outbox.drains = outbox.drains.set index (drain.settle false) := by
      rw [stays, ← same, List.set_getElem_self]
    cases stage : drain.stage with
    | ready | offering => exact ⟨false, idle (by simp [Drain.settle, stage])⟩
    | answered => exact ⟨_, rfl⟩

theorem Holds.turned (holds : Holds (drain.turned some delivered turn) item) : Holds drain item := by
  obtain ⟨left, -⟩ := drain.turned_left some delivered turn
  cases holds with
  | left mem =>
    refine .left ?_
    rw [left]
    exact mem_append_right _ mem
  | offering stage =>
    cases turn with
    | look =>
      simp only [Drain.turned, Drain.look] at stage
      split at stage
      · next head rest ready items =>
        cases stage
        exact .left (items ▸ mem_cons_self ..)
      · exact .offering stage
    | answer answer =>
      simp only [Drain.turned, Drain.answer] at stage
      split at stage
      · cases stage
      · exact .offering stage
    | settle =>
      simp only [Drain.turned, Drain.settle] at stage
      split at stage
      · cases stage
      · exact .offering stage
  | answered consumed stage =>
    cases turn with
    | look =>
      simp only [Drain.turned, Drain.look] at stage
      split at stage
      · cases stage
      · exact .answered consumed stage
    | answer answer =>
      simp only [Drain.turned, Drain.answer] at stage
      split at stage
      · next offered offering =>
        cases stage
        exact .offering offering
      · exact .answered consumed stage
    | settle =>
      simp only [Drain.turned, Drain.settle] at stage
      split at stage
      · cases stage
      · exact .answered consumed stage

theorem answered_turned (answered : (drain.turned some delivered turn).stage = .answered item true) :
    drain.stage = .answered item true ∨
      ∃ answer, turn = .answer answer ∧ item.envelope.identity ∈ consumes (fun item => item.envelope.identity) drain answer := by
  cases turn with
  | look =>
    simp only [Drain.turned, Drain.look] at answered
    split at answered
    · cases answered
    · exact .inl answered
  | answer answer =>
    simp only [Drain.turned, Drain.answer] at answered
    split at answered
    · next offered offering =>
      simp only [Stage.answered.injEq, beq_iff_eq] at answered
      refine .inr ⟨answer, rfl, ?_⟩
      simp only [consumes, offering, if_pos answered.2, answered.1]
      exact mem_singleton_self _
    · exact .inl answered
  | settle =>
    simp only [Drain.turned, Drain.settle] at answered
    split at answered
    · cases answered
    · exact .inl answered

theorem transition_cases (sound : RowsSound outbox.rows) (results : List OfficialGameResultEnvelope) :
    (outbox.apply (.transition results) = outbox ∧ persists outbox (.transition results) = []) ∨
      ∃ rows, outbox.apply (.transition results) = { outbox with rows } ∧ persists outbox (.transition results) = results ∧
        Inserted outbox.rows results rows := by
  simp only [apply, persists]
  cases inserted : outbox.insertResults results with
  | error => exact .inl ⟨rfl, rfl⟩
  | ok rows => exact .inr ⟨rows, rfl, rfl, insertResults_inserted sound inserted⟩

theorem apply_sound (sound : RowsSound outbox.rows) (action : PostgresAction) : RowsSound (outbox.apply action).rows := by
  cases action with
  | transition results =>
    rcases transition_cases sound results with ⟨same, -⟩ | ⟨rows, same, -, inserted⟩
    · rw [same]
      exact sound
    · rw [same]
      exact inserted.sound
  | _ => exact sound.of_content (apply_content (by simp) outbox)

theorem apply_keeps (sound : RowsSound outbox.rows) (action : PostgresAction) (mem : row ∈ outbox.rows) :
    ∃ other ∈ (outbox.apply action).rows, other.key = row.key ∧ other.envelope = row.envelope := by
  cases action with
  | transition results =>
    rcases transition_cases sound results with ⟨same, -⟩ | ⟨rows, same, -, inserted⟩
    · rw [same]
      exact ⟨row, mem, rfl, rfl⟩
    · rw [same]
      exact ⟨row, inserted.old row mem, rfl, rfl⟩
  | _ => exact mem_content (apply_content (by simp) outbox) mem

theorem Sound.kept_next (sound : Sound watched) (action : PostgresAction) :
    ∀ envelope ∈ (next action watched).persisted, ∃ row ∈ (next action watched).outbox.rows, row.envelope.identity = envelope.identity := by
  have old {envelope : OfficialGameResultEnvelope} (mem : envelope ∈ watched.persisted) :
      ∃ row ∈ (watched.outbox.apply action).rows, row.envelope.identity = envelope.identity := by
    obtain ⟨row, known, same⟩ := sound.kept envelope mem
    obtain ⟨other, listed, -, content⟩ := apply_keeps sound.rows action known
    exact ⟨other, listed, by rw [content, same]⟩
  intro envelope mem
  rcases mem_append.mp mem with mem | mem
  · exact old mem
  · cases action with
    | transition results =>
      rcases transition_cases sound.rows results with ⟨-, none⟩ | ⟨rows, same, all, inserted⟩
      · rw [none] at mem
        cases mem
      · rw [all] at mem
        simp only [next, same]
        exact inserted.kept envelope mem
    | _ => cases mem

theorem Sound.owned_row (sound : Sound watched) (known : watched.outbox.drains[index]? = some drain)
    (holds : Holds drain item) (mem : row ∈ watched.outbox.rows) (owns : owned item row = true) :
    row.envelope = item.envelope ∧ row.key = item.key ∧ watched.lastClaim row.key = some index := by
  obtain ⟨token, other, listed, key, envelope⟩ := sound.held index drain known item holds
  simp only [owned, and_eq_true, beq_iff_eq] at owns
  obtain ⟨⟨same, -⟩, claimed⟩ := owns
  cases row_unique sound.rows mem listed (same.trans key.symm)
  exact ⟨envelope, same, by rw [sound.claims row mem _ claimed, token]⟩

theorem settle_rows (known : outbox.drains[index]? = some drain) :
    (outbox.apply (.turn index .settle)).rows = outbox.rows ∨
      ∃ item consumed, drain.stage = .answered item consumed ∧
        (outbox.apply (.turn index .settle)).rows = update outbox.rows (owned item) (outbox.finishedRow consumed) := by
  simp only [apply, known]
  split
  · next item consumed stage => exact .inr ⟨item, consumed, stage, rfl⟩
  · exact .inl rfl

theorem Sound.delivered_next (sound : Sound watched) (action : PostgresAction) :
    ∀ row ∈ (next action watched).outbox.rows, row.status = .delivered → row.envelope.identity ∈ (next action watched).accepted := by
  have old {row : ResultRow} (mem : row ∈ watched.outbox.rows) (delivered : row.status = .delivered) :
      row.envelope.identity ∈ (next action watched).accepted := mem_append_left _ (sound.delivered row mem delivered)
  intro row mem delivered
  cases action with
  | transition results =>
    rcases transition_cases sound.rows results with ⟨same, -⟩ | ⟨rows, same, -, inserted⟩
    · rw [next, same] at mem
      exact old mem delivered
    · rw [next, same] at mem
      rcases inserted.new row mem with mem | ⟨waits, -⟩
      · exact old mem delivered
      · rw [waits] at delivered
        cases delivered
  | wait => exact old mem delivered
  | claim =>
    obtain ⟨other, known, same⟩ := mem_update.mp mem
    split at same
    · rw [same] at delivered ⊢
      exact @old other known delivered
    · rw [same] at delivered ⊢
      exact old known delivered
  | turn index turn =>
    cases known : watched.outbox.drains[index]? with
    | none =>
      simp only [next, apply, known] at mem
      exact old mem delivered
    | some drain =>
      cases turn with
      | look | answer =>
        simp only [next, apply, known] at mem
        exact old mem delivered
      | settle =>
        rcases settle_rows known with same | ⟨item, consumed, stage, rows⟩
        · rw [next, same] at mem
          exact old mem delivered
        · rw [next, rows] at mem
          obtain ⟨other, listed, same⟩ := mem_update.mp mem
          split at same
          · next owns =>
            rw [same] at delivered ⊢
            have told : consumed = true := by
              by_contra refused
              simp [finishedRow, refused] at delivered
            subst told
            have content : (watched.outbox.finishedRow true other).envelope = item.envelope :=
              (sound.owned_row known (.answered true stage) listed owns).1
            rw [content]
            exact mem_append_left _ (sound.answered drain (mem_of_getElem? known) item stage)
          · rw [same] at delivered ⊢
            exact old listed delivered

theorem Sound.claims_next (sound : Sound watched) (action : PostgresAction) :
    ∀ row ∈ (next action watched).outbox.rows, ∀ claimToken, row.claimToken = some claimToken →
      (next action watched).lastClaim row.key = some claimToken := by
  intro row mem claimToken token
  cases action with
  | transition results =>
    rcases transition_cases sound.rows results with ⟨same, -⟩ | ⟨rows, same, -, inserted⟩
    · rw [next, same] at mem
      exact sound.claims row mem claimToken token
    · rw [next, same] at mem
      rcases inserted.new row mem with mem | ⟨-, unclaimed⟩
      · exact sound.claims row mem claimToken token
      · rw [unclaimed] at token
        cases token
  | wait => exact sound.claims row mem claimToken token
  | claim =>
    obtain ⟨other, known, same⟩ := mem_update.mp mem
    simp only [next, PostgresOutbox.claims]
    split at same
    · next chosen =>
      rw [same] at token ⊢
      have key : (watched.outbox.claimedRow watched.outbox.drains.length other).key = other.key := rfl
      rw [key, if_pos chosen]
      exact token
    · next left =>
      rw [same] at token ⊢
      rw [if_neg left]
      exact sound.claims other known claimToken token
  | turn index turn =>
    cases known : watched.outbox.drains[index]? with
    | none =>
      simp only [next, apply, known] at mem
      exact sound.claims row mem claimToken token
    | some =>
      cases turn with
      | look | answer =>
        simp only [next, apply, known] at mem
        exact sound.claims row mem claimToken token
      | settle =>
        rcases settle_rows known with same | ⟨item, consumed, stage, rows⟩
        · rw [next, same] at mem
          exact sound.claims row mem claimToken token
        · rw [next, rows] at mem
          obtain ⟨other, listed, same⟩ := mem_update.mp mem
          split at same
          · rw [same] at token
            cases token
          · rw [same] at token ⊢
            exact sound.claims other listed claimToken token

theorem drains_next (action : PostgresAction) {after : Drain ClaimedResult ClaimedResult}
    (known : (outbox.apply action).drains[index]? = some after) :
    outbox.drains[index]? = some after ∨
      (∃ drain turn delivered, action = .turn index turn ∧ outbox.drains[index]? = some drain ∧ after = drain.turned some delivered turn) ∨
      index = outbox.drains.length ∧ ∃ keys : List (String × String × Nat),
        after = .start ((outbox.rows.filter fun row => keys.contains row.key).map (returning index)) := by
  cases action with
  | transition =>
    simp only [apply] at known
    split at known <;> exact .inl known
  | wait => exact .inl known
  | claim textLe held limit =>
    simp only [apply, claimPostgresOfficialResults] at known
    rcases Nat.lt_or_ge index outbox.drains.length with inside | outside
    · rw [List.getElem?_append_left inside] at known
      exact .inl known
    · rw [List.getElem?_append_right outside, List.getElem?_singleton] at known
      split at known
      · next first =>
        have last : index = outbox.drains.length := by omega
        subst last
        exact .inr (.inr ⟨rfl, outbox.claimedKeys textLe held limit, (some.inj known).symm⟩)
      · cases known
  | turn other turn =>
    cases found : outbox.drains[other]? with
    | none =>
      simp only [apply, found] at known
      exact .inl known
    | some drain =>
      obtain ⟨delivered, turned⟩ := turn_drains other turn found
      rw [turned, List.getElem?_set] at known
      split at known
      · next same =>
        subst same
        have inside := (getElem?_eq_some_iff.mp found).1
        simp only [inside, if_true] at known
        exact .inr (.inl ⟨drain, turn, delivered, rfl, found, (some.inj known).symm⟩)
      · exact .inl known

theorem Sound.held_next (sound : Sound watched) (action : PostgresAction) :
    ∀ index drain, (next action watched).outbox.drains[index]? = some drain → ∀ item, Holds drain item →
      item.claimToken = index ∧ ∃ row ∈ (next action watched).outbox.rows, row.key = item.key ∧ row.envelope = item.envelope := by
  have old {index : Nat} {drain : Drain ClaimedResult ClaimedResult} (known : watched.outbox.drains[index]? = some drain) {item : ClaimedResult}
      (holds : Holds drain item) :
      item.claimToken = index ∧ ∃ row ∈ (watched.outbox.apply action).rows, row.key = item.key ∧ row.envelope = item.envelope := by
    obtain ⟨token, row, mem, key, envelope⟩ := sound.held index drain known item holds
    obtain ⟨other, listed, sameKey, content⟩ := apply_keeps sound.rows action mem
    exact ⟨token, other, listed, sameKey.trans key, content.trans envelope⟩
  intro index after found item holds
  rcases drains_next action found with known | ⟨drain, turn, delivered, -, known, rfl⟩ | ⟨rfl, keys, rfl⟩
  · exact old known holds
  · exact old known holds.turned
  · cases holds with
    | left mem =>
      obtain ⟨row, listed, rfl⟩ := mem_map.mp mem
      obtain ⟨other, present, key, content⟩ := apply_keeps sound.rows action (mem_filter.mp listed).1
      exact ⟨rfl, other, present, key, content⟩
    | offering stage => cases stage
    | answered consumed stage => cases stage

theorem Sound.answered_next (sound : Sound watched) (action : PostgresAction) :
    ∀ drain ∈ (next action watched).outbox.drains, ∀ item, drain.stage = .answered item true → item.envelope.identity ∈ (next action watched).accepted := by
  have old {drain : Drain ClaimedResult ClaimedResult} {index : Nat} (known : watched.outbox.drains[index]? = some drain) {item : ClaimedResult}
      (stage : drain.stage = .answered item true) : item.envelope.identity ∈ (next action watched).accepted :=
    mem_append_left _ (sound.answered drain (mem_of_getElem? known) item stage)
  intro after mem item stage
  obtain ⟨index, found⟩ := List.mem_iff_getElem?.mp mem
  rcases drains_next action found with known | ⟨drain, turn, delivered, rfl, known, rfl⟩ | ⟨rfl, keys, rfl⟩
  · exact old known stage
  · rcases answered_turned stage with stage | ⟨answer, rfl, told⟩
    · exact old known stage
    · refine mem_append_right _ ?_
      simpa [accepts, known] using told
  · cases stage

theorem Sound.next (sound : Sound watched) (action : PostgresAction) : Sound (next action watched) :=
  ⟨apply_sound sound.rows action, sound.kept_next action, sound.delivered_next action, sound.claims_next action, sound.held_next action,
    sound.answered_next action⟩

theorem Sound.served_next (sound : Served watched.outbox.drains watched.looked) (action : PostgresAction) :
    Served (PostgresOutbox.next action watched).outbox.drains (PostgresOutbox.next action watched).looked := by
  have quiet (drains : (watched.outbox.apply action).drains = watched.outbox.drains) (none : looks watched.outbox action = []) :
      Served (PostgresOutbox.next action watched).outbox.drains (PostgresOutbox.next action watched).looked := by
    simp only [PostgresOutbox.next, drains, none, append_nil]
    exact sound
  cases action with
  | transition =>
    refine quiet ?_ rfl
    simp only [apply]
    split <;> rfl
  | wait => exact quiet rfl rfl
  | claim textLe held limit =>
    have started := sound.start ((watched.outbox.rows.filter fun row => (watched.outbox.claimedKeys textLe held limit).contains row.key).map
      (returning watched.outbox.drains.length))
    simpa [PostgresOutbox.next, looks, apply, claimPostgresOfficialResults] using started
  | turn index turn =>
    cases known : watched.outbox.drains[index]? with
    | none => exact quiet (by simp [apply, known]) (by simp [looks, known])
    | some drain =>
      obtain ⟨delivered, turned⟩ := turn_drains index turn known
      obtain ⟨left, selected⟩ := drain.turned_left some delivered turn
      simp only [PostgresOutbox.next, looks, known, turned]
      exact sound.set known _ left selected

end

def Waits (outbox : PostgresOutbox) (envelope : OfficialGameResultEnvelope) : Prop :=
  ∃ row ∈ outbox.rows, row.envelope.identity = envelope.identity ∧
    ∃ time, ∀ now, time ≤ now → claimable { outbox with now } (fun _ => false) row = true

/-- What holds between the steps of any drains. -/
structure Safe (watched : Claimed) : Prop where
  lossless : ∀ envelope ∈ watched.persisted, envelope.identity ∈ watched.accepted ∨ watched.outbox.Waits envelope
  served : Served watched.outbox.drains watched.looked
  fair : Fair watched.outbox.drains (fun index turn => (watched.outbox.apply (.turn index turn)).drains) some

/-- The end of an item changes no row but the item's own, and that one only while the drain's claim is the last. -/
def Fenced (action : PostgresAction) (watched : Claimed) : Prop :=
  ∀ index drain item consumed, action = .turn index .settle → watched.outbox.drains[index]? = some drain → drain.stage = .answered item consumed →
    ∀ row ∈ watched.outbox.rows, row ∈ (watched.outbox.apply action).rows ∨ row.key = item.key ∧ watched.lastClaim row.key = some index

theorem claimable_pending (waits : row.status = .pending) :
    ∃ time, ∀ now, time ≤ now → claimable { outbox with now } (fun _ => false) row = true := by
  refine ⟨max row.nextAttemptAt (row.claimUntil.getD row.nextAttemptAt), fun now late => ?_⟩
  cases until' : row.claimUntil with
  | none =>
    rw [until', getD_none, max_self] at late
    simp [claimable, waits, until', late]
  | some =>
    rw [until', getD_some] at late
    simp [claimable, waits, until', (Int.max_le.mp late).1, (Int.max_le.mp late).2]

theorem Sound.lossless (sound : Sound watched) :
    ∀ envelope ∈ watched.persisted, envelope.identity ∈ watched.accepted ∨ watched.outbox.Waits envelope := by
  intro envelope mem
  obtain ⟨row, known, same⟩ := sound.kept envelope mem
  cases status : row.status with
  | pending => exact .inr ⟨row, known, same, claimable_pending status⟩
  | delivered =>
    have told := sound.delivered row known status
    rw [same] at told
    exact .inl told

theorem Sound.fenced (sound : Sound watched) (action : PostgresAction) : Fenced action watched := by
  rintro index drain item consumed rfl known stage row mem
  rcases settle_rows known with same | ⟨other, answer, answered, rows⟩
  · rw [same]
    exact .inl mem
  · rw [stage] at answered
    cases answered
    rcases Bool.eq_false_or_eq_true (owned item row) with owns | foreign
    · obtain ⟨-, key, last⟩ := sound.owned_row known (.answered consumed stage) mem owns
      exact .inr ⟨key, last⟩
    · rw [rows]
      exact .inl (mem_update.mpr ⟨row, mem, (if_neg (not_eq_true _ ▸ foreign)).symm⟩)

def start (now : Int) : Claimed :=
  { outbox := { now, rows := [], drains := [] }, persisted := [], accepted := [], looked := [], lastClaim := fun _ => none }

theorem start_sound (now : Int) : Sound (start now) := by
  constructor <;> simp [start]
  exact ⟨nodup_nil, by simp⟩

theorem safe (now : Int) (actions : List PostgresAction) :
    Throughout next Safe (start now) actions ∧ EachStep next Fenced (start now) actions := by
  have step {watched : Claimed} {action : PostgresAction} (kept : Sound watched ∧ Served watched.outbox.drains watched.looked) (_ : True) :
      (Sound (next action watched) ∧ Served (next action watched).outbox.drains (next action watched).looked) ∧ Fenced action watched :=
    ⟨⟨kept.1.next action, Sound.served_next kept.2 action⟩, kept.1.fenced action⟩
  have empty : Served (start now).outbox.drains (start now).looked := ⟨by simp [start], by simp [start]⟩
  obtain ⟨throughout, fenced⟩ := @EachStep.shows _ _ next (fun _ _ => True) (fun watched => Sound watched ∧ Served watched.outbox.drains watched.looked)
    Fenced step _ actions ⟨start_sound now, empty⟩ (EachStep.always fun _ _ => trivial)
  refine ⟨throughout.imp fun watched kept => ⟨kept.1.lossless, kept.2, .of_turned fun index _ turn known => turn_drains index turn known⟩, fenced⟩

end PostgresOutbox

/-- In Redis nothing stops being offered before it has been consumed exactly in the runs that keep what nobody has consumed; in Postgres nothing does in
any run, and no drain settles what another has claimed since. In neither does an item keep a drain from those after it. -/
theorem result_outboxes_settle (now : Int) :
    (∀ actions, (Throughout RedisOutbox.next RedisOutbox.Lossless (RedisOutbox.start now) actions ↔
        EachStep RedisOutbox.next RedisOutbox.Keeps (RedisOutbox.start now) actions) ∧
      Throughout RedisOutbox.next RedisOutbox.Passes (RedisOutbox.start now) actions) ∧
    ∀ actions, Throughout PostgresOutbox.next PostgresOutbox.Safe (PostgresOutbox.start now) actions ∧
      EachStep PostgresOutbox.next PostgresOutbox.Fenced (PostgresOutbox.start now) actions :=
  ⟨fun actions => ⟨RedisOutbox.lossless_iff now actions, RedisOutbox.passes now actions⟩, PostgresOutbox.safe now⟩

def lostResult (payloadHash : String) : OfficialGameResultEnvelope :=
  { channelId := "night", resultId := "game:1", revision := 1, payload := payloadHash, payloadHash }

/-- A key runs out before any consumer has consumed its envelope. -/
def expiring : List RedisAction := [.persist [lostResult "first"] 60, .wait 60001]

/-- A slow drain deletes a newer envelope than the one that its consumer has consumed. -/
def overtaken : List RedisAction :=
  let keys := [outboxKey (lostResult "first")]
  [.persist [lostResult "first"] 60, .scan keys 50, .turn 0 .look, .scan keys 50, .turn 1 .look, .turn 1 (.answer (some true)), .turn 1 .settle,
    .persist [lostResult "second"] 60, .turn 0 (.answer (some true)), .turn 0 .settle]

instance RedisOutbox.Lossless.decidable (watched : Watched RedisOutbox String) : Decidable (RedisOutbox.Lossless watched) :=
  inferInstanceAs (Decidable (∀ envelope ∈ watched.persisted, envelope.identity ∈ watched.accepted ∨
    (watched.outbox.read (outboxKey envelope)).map (·.identity) = some envelope.identity))

theorem results_lost : ¬ Throughout RedisOutbox.next RedisOutbox.Lossless (RedisOutbox.start 0) expiring ∧
    ¬ Throughout RedisOutbox.next RedisOutbox.Lossless (RedisOutbox.start 0) overtaken := by
  have first : ¬ RedisOutbox.Lossless (runFrom RedisOutbox.next (RedisOutbox.start 0) expiring) := by decide
  have second : ¬ RedisOutbox.Lossless (runFrom RedisOutbox.next (RedisOutbox.start 0) overtaken) := by decide
  exact ⟨mt Throughout.last first, mt Throughout.last second⟩

end MilkAndHenny.GameResults

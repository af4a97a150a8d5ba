import MilkAndHenny.Library.Machine
import MilkAndHenny.Paired.Room

/-! The official results of a paired game are idempotent, for as long as no result that the room
stores anew has been recorded in another payload before. -/

namespace MilkAndHenny.Paired
open Library Multiplayer

variable {snapshot : RemoteSyncedSnapshot} {room : PostgresPairedRoomState} {ctx : RequestContext} {otherwise : Reply}
  {use : PostgresPairedRoomState → PostgresPairedRoomState × Reply}

/-- What tells one result of the room from another. -/
def RemoteSyncedSnapshot.revisionKey (snapshot : RemoteSyncedSnapshot) : Nat × Nat := (snapshot.resultId, snapshot.revision)

def resultKey (row : OfficialGameResultEnvelope) : Nat × Nat := (row.resultId, row.revision)

def Highest (results : List OfficialGameResultEnvelope) (round : Nat) (row : OfficialGameResultEnvelope) : Prop :=
  row.resultId = round ∧ ∀ other ∈ results, other.resultId = round → other.revision ≤ row.revision

instance {results : List OfficialGameResultEnvelope} {round : Nat} {row : OfficialGameResultEnvelope} : Decidable (Highest results round row) :=
  inferInstanceAs (Decidable (row.resultId = round ∧ ∀ other ∈ results, other.resultId = round → other.revision ≤ row.revision))

/-- Each revision that was shown, the last one first, has one envelope, there are no others, and the
highest one of a round carries the score last shown. -/
structure Ledger (results : List OfficialGameResultEnvelope) (shown : List RemoteSyncedSnapshot) : Prop where
  once : ∀ snapshot ∈ shown, (results.countP fun row => resultKey row == snapshot.revisionKey) = 1
  only : ∀ row ∈ results, ∃ snapshot ∈ shown, resultKey row = snapshot.revisionKey
  highest : ∀ round, ∀ last ∈ shown.find? (·.resultId == round), ∀ row ∈ results, Highest results round row → row.rawScores = [some (last.score : Int)]

def Tops (results : List OfficialGameResultEnvelope) (snapshot : RemoteSyncedSnapshot) : Prop :=
  ∀ held ∈ results, Highest results snapshot.resultId held → snapshot.revision ≤ held.revision → held.rawScores = [some (snapshot.score : Int)]

instance {results : List OfficialGameResultEnvelope} {snapshot : RemoteSyncedSnapshot} : Decidable (Tops results snapshot) :=
  inferInstanceAs (Decidable (∀ held ∈ results, Highest results snapshot.resultId held → snapshot.revision ≤ held.revision →
    held.rawScores = [some (snapshot.score : Int)]))

/-- A room, how much of the outbox was there before it, the results it has been shown, and whether
a sync has failed because of one that was recorded already. -/
structure Watched where
  store : Store
  earlier : Nat
  shown : List RemoteSyncedSnapshot := []
  failed : Bool := false

def Watched.results (watched : Watched) : List OfficialGameResultEnvelope := watched.store.outbox.drop watched.earlier

structure Watched.Settled (watched : Watched) : Prop where
  unfailed : watched.failed = false
  ledger : Ledger watched.results watched.shown

namespace PostgresPairedRoomState

def shows (ctx : RequestContext) (input : SyncInput) (room : PostgresPairedRoomState) : Option RemoteSyncedSnapshot :=
  if room.roomMeta.officialResultChannelId.isSome ∧ room.syncRefusal ctx input = none ∧ room.shouldStoreSnapshot input.snapshot ∧
      input.snapshot.phase = .results then
    some input.snapshot
  else none

/-- The result differs from what is stored, its revision is one that the outbox takes, and it has not been recorded yet, or in this
very payload; or it does not differ, and has been recorded. No higher one has another score. -/
def Accepts (room : PostgresPairedRoomState) (clock : Int) (watched : Watched) (snapshot : RemoteSyncedSnapshot) : Prop :=
  (if room.snapshot.any snapshot.sameResult then ∃ held ∈ watched.results, resultKey held = snapshot.revisionKey
    else isRevision snapshot.revision ∧ ∀ channelId ∈ room.roomMeta.officialResultChannelId,
      ∀ envelope ∈ snapshot.pairedGameOfficialResult room.roomId channelId clock,
      (∀ held ∈ watched.store.outbox, held.key ≠ envelope.key) ∨
        ∃ held ∈ watched.results, held.key = envelope.key ∧ held.payloadHash = envelope.payloadHash) ∧
    Tops watched.results snapshot

instance {room : PostgresPairedRoomState} {clock : Int} {watched : Watched} {snapshot : RemoteSyncedSnapshot} :
    Decidable (room.Accepts clock watched snapshot) := by
  unfold Accepts
  infer_instance

end PostgresPairedRoomState

namespace Request

def shows (request : Request) (store : Store) : Option RemoteSyncedSnapshot :=
  match request with
  | .sync ctx input => (store.found ctx.clock).bind (·.shows ctx input)
  | _ => none

def conflicts (request : Request) (store : Store) : Bool :=
  match request.run store with
  | .error .conflictingRevision => true
  | _ => false

def apply (request : Request) (store : Store) : Store :=
  match request.run store with
  | .ok (committed, _) => committed
  | .error _ => store

def watch (request : Request) (watched : Watched) : Watched where
  store := request.apply watched.store
  earlier := watched.earlier
  shown := (request.shows watched.store).toList ++ watched.shown
  failed := watched.failed || request.conflicts watched.store

/-- Whatever results the request has the room show, it accepts them. -/
def Settles (request : Request) (watched : Watched) : Prop :=
  ∀ snapshot ∈ request.shows watched.store, ∀ room ∈ watched.store.found request.ctx.clock, room.Accepts request.ctx.clock watched snapshot

instance {request : Request} {watched : Watched} : Decidable (request.Settles watched) := by
  unfold Settles
  infer_instance

end Request

section
variable {results : List OfficialGameResultEnvelope} {shown : List RemoteSyncedSnapshot}

theorem count_iff (unique : (results.map resultKey).Nodup) :
    (results.countP fun row => resultKey row == snapshot.revisionKey) = 1 ↔ ∃ held ∈ results, resultKey held = snapshot.revisionKey := by
  have bound := List.nodup_iff_count_le_one.mp unique snapshot.revisionKey
  rw [List.count, countP_map] at bound
  change (results.countP fun row => resultKey row == snapshot.revisionKey) ≤ 1 at bound
  have positive : 0 < (results.countP fun row => resultKey row == snapshot.revisionKey) ↔
      ∃ held ∈ results, resultKey held = snapshot.revisionKey := by
    simp
  rw [← positive]
  omega

theorem find?_shown (round : Nat) :
    (snapshot :: shown).find? (·.resultId == round) =
      if snapshot.resultId = round then some snapshot else shown.find? (·.resultId == round) := by
  rw [find?_cons]
  split
  · next same => rw [if_pos (eq_of_beq same)]
  · next other =>
    rw [if_neg]
    intro same
    rw [same, beq_self_eq_true] at other
    cases other

theorem Ledger.again (ledger : Ledger results shown) (unique : (results.map resultKey).Nodup) :
    Ledger results (snapshot :: shown) ↔ (∃ held ∈ results, resultKey held = snapshot.revisionKey) ∧ Tops results snapshot := by
  constructor
  · intro after
    refine ⟨(count_iff unique).mp (after.once snapshot (mem_cons_self ..)), ?_⟩
    intro held mem highest _
    apply after.highest snapshot.resultId snapshot _ held mem highest
    rw [find?_shown, if_pos rfl]
    rfl
  · rintro ⟨⟨held, mem, same⟩, tops⟩
    refine ⟨?_, ?_, ?_⟩
    · intro other listed
      rcases mem_cons.mp listed with rfl | listed
      · exact (count_iff unique).mpr ⟨held, mem, same⟩
      · exact ledger.once other listed
    · intro row listed
      obtain ⟨other, known, same⟩ := ledger.only row listed
      exact ⟨other, mem_cons_of_mem _ known, same⟩
    · intro round last isLast row listed highest
      rw [find?_shown] at isLast
      split at isLast
      · next ofRound =>
        obtain rfl : snapshot = last := some.inj isLast
        subst ofRound
        obtain ⟨sameRound, sameRevision⟩ := Prod.mk.inj same
        apply tops row listed highest
        rw [← sameRevision]
        exact highest.2 held mem sameRound
      · exact ledger.highest round last isLast row listed highest

/-- Results that are recorded for the first time. -/
theorem Ledger.append (ledger : Ledger results shown) {envelope : OfficialGameResultEnvelope}
    (unique : ((results ++ [envelope]).map resultKey).Nodup) (key : resultKey envelope = snapshot.revisionKey)
    (score : envelope.rawScores = [some (snapshot.score : Int)]) :
    Ledger (results ++ [envelope]) (snapshot :: shown) ↔ Tops results snapshot := by
  obtain ⟨sameRound, sameRevision⟩ := Prod.mk.inj key
  constructor
  · intro after held mem highest above
    refine after.highest snapshot.resultId snapshot ?_ held (mem_append_left _ mem) ⟨highest.1, ?_⟩
    · rw [find?_shown, if_pos rfl]
      rfl
    · intro other listed ofRound
      rcases mem_append.mp listed with listed | listed
      · exact highest.2 other listed ofRound
      · rw [mem_singleton.mp listed, sameRevision]
        exact above
  · intro tops
    refine ⟨?_, ?_, ?_⟩
    · intro other listed
      rw [count_iff unique]
      rcases mem_cons.mp listed with rfl | listed
      · exact ⟨envelope, mem_append_right _ (mem_singleton_self _), key⟩
      · have counted := ledger.once other listed
        obtain ⟨held, mem, same⟩ := countP_pos_iff.mp (Nat.lt_of_lt_of_eq Nat.one_pos counted.symm)
        exact ⟨held, mem_append_left _ mem, eq_of_beq same⟩
    · intro row listed
      rcases mem_append.mp listed with listed | listed
      · obtain ⟨other, known, same⟩ := ledger.only row listed
        exact ⟨other, mem_cons_of_mem _ known, same⟩
      · exact ⟨snapshot, mem_cons_self .., mem_singleton.mp listed ▸ key⟩
    · intro round last isLast row listed highest
      rw [find?_shown] at isLast
      rcases mem_append.mp listed with listed | listed
      · have before : Highest results round row :=
          ⟨highest.1, fun other mem => highest.2 other (mem_append_left _ mem)⟩
        split at isLast
        · next ofRound =>
          obtain rfl : snapshot = last := some.inj isLast
          subst ofRound
          apply tops row listed before
          rw [← sameRevision]
          exact highest.2 envelope (mem_append_right _ (mem_singleton_self _)) sameRound
        · exact ledger.highest round last isLast row listed before
      · cases mem_singleton.mp listed
        rw [if_pos (sameRound.symm.trans highest.1)] at isLast
        obtain rfl : snapshot = last := some.inj isLast
        exact score

end

/-- What holds of the envelopes of the room after every request. -/
structure Recorded (channel : Option Nat) (watched : Watched) : Prop where
  earlier : watched.earlier ≤ watched.store.outbox.length
  found : ∀ row ∈ watched.results, watched.store.outbox.find? (·.key == row.key) = some row
  unique : (watched.results.map resultKey).Nodup
  channels : ∀ row ∈ watched.results, some row.channelId = channel
  ranged : ∀ row ∈ watched.results, isRevision row.revision
  room : ∀ room ∈ watched.store.room, room.roomMeta.officialResultChannelId = channel

section
variable {α : Type} {store : Store} {after : PostgresPairedRoomState} {clock : Int}

theorem renewed_same : (room.renewed after clock).snapshot = room.snapshot ∧ (room.renewed after clock).roomId = room.roomId ∧
    (room.renewed after clock).roomMeta.officialResultChannelId = room.roomMeta.officialResultChannelId := by
  unfold PostgresPairedRoomState.renewed PostgresPairedRoomState.applyPostgresRoomExpiry
  split
  · exact ⟨rfl, rfl, rfl⟩
  · split <;> exact ⟨rfl, rfl, rfl⟩

theorem renewed_alive (alive : clock < room.expiresAt) : clock < (room.renewed after clock).expiresAt := by
  unfold PostgresPairedRoomState.renewed PostgresPairedRoomState.applyPostgresRoomExpiry
  split
  · exact alive
  · split
    · exact alive
    · simp only [presenceLeaseMs]
      omega

theorem officialResults_renewed {before other : PostgresPairedRoomState} :
    PostgresPairedRoomState.officialResults clock before (room.renewed other clock) =
      PostgresPairedRoomState.officialResults clock before room := by
  obtain ⟨snapshot, roomId, channel⟩ := @renewed_same room other clock
  simp [PostgresPairedRoomState.officialResults, snapshot, roomId, channel]

theorem sameResult_self (snapshot : RemoteSyncedSnapshot) : snapshot.sameResult snapshot = true := by
  simp [RemoteSyncedSnapshot.sameResult]

theorem officialResults_kept (kept : after.snapshot = room.snapshot) : PostgresPairedRoomState.officialResults clock room after = none := by
  unfold PostgresPairedRoomState.officialResults
  rw [kept]
  cases room.snapshot with
  | none => simp
  | some => simp [sameResult_self]

theorem officialResults_stored {stored : RemoteSyncedSnapshot} {channelId : Nat} (kept : after.snapshot = some stored)
    (results : stored.phase = .results) (channel : after.roomMeta.officialResultChannelId = some channelId) :
    PostgresPairedRoomState.officialResults clock room after =
      if room.snapshot.any stored.sameResult then none else stored.pairedGameOfficialResult after.roomId channelId clock := by
  unfold PostgresPairedRoomState.officialResults
  rw [channel, kept, bind_some, filter_some, results]
  cases room.snapshot.any stored.sameResult with
  | true | false => rfl

def Quiet (store : Store) : Except TransitionError (Store × α) → Prop
  | .ok (after, _) => after.outbox = store.outbox ∧ ∀ room ∈ after.room, ∃ before ∈ store.room,
      room.roomMeta.officialResultChannelId = before.roomMeta.officialResultChannelId
  | .error error => error = .persistsExpiry

theorem Quiet.same {reply : α} : Quiet store (.ok (store, reply)) := ⟨rfl, fun room listed => ⟨room, listed, rfl⟩⟩

theorem Quiet.answered {transition : Except TransitionError (Store × Option Reply)} (quiet : Quiet store transition) :
    Quiet store (answered otherwise transition) := by
  cases transition with
  | error | ok => exact quiet

theorem found_room (found : store.found clock = some room) : store.room = some room ∧ clock < room.expiresAt := by
  obtain ⟨stored, alive⟩ := filter_eq_some_iff.mp found
  exact ⟨stored, of_decide_eq_true alive⟩

theorem withPostgresPairedRoom_quiet
    (kept : ∀ room ∈ store.found clock, (use room).1.roomMeta.officialResultChannelId = room.roomMeta.officialResultChannelId ∧
      PostgresPairedRoomState.officialResults clock room (use room).1 = none) :
    Quiet store (store.withPostgresPairedRoom clock use) := by
  unfold Store.withPostgresPairedRoom
  cases found : store.found clock with
  | none => exact .same
  | some before =>
    obtain ⟨channel, none⟩ := kept before found
    dsimp only
    split
    · exact rfl
    · rw [officialResults_renewed, none]
      refine ⟨rfl, ?_⟩
      rintro room ⟨⟩
      exact ⟨before, (found_room found).1, renewed_same.2.2.trans channel⟩

end

/-- A reducer that leaves what the player shows alone. -/
def Mild (use : PostgresPairedRoomState → PostgresPairedRoomState × Reply) : Prop :=
  ∀ room, (use room).1.snapshot = room.snapshot ∧ (use room).1.roomMeta.officialResultChannelId = room.roomMeta.officialResultChannelId

section
open PostgresPairedRoomState
variable {store : Store} {input : SyncInput} {judgeToken judgeEpoch : Nat} {clock : Int} {playerToken : Nat}

theorem Mild.quiet (mild : Mild use) : Quiet store (answered otherwise (store.withPostgresPairedRoom clock use)) :=
  (withPostgresPairedRoom_quiet fun room _ => ⟨(mild room).2, officialResults_kept (mild room).1⟩).answered

theorem expiry_mild : (room.applyPostgresRoomExpiry clock).snapshot = room.snapshot ∧
    (room.applyPostgresRoomExpiry clock).roomMeta.officialResultChannelId = room.roomMeta.officialResultChannelId := by
  unfold applyPostgresRoomExpiry
  split <;> exact ⟨rfl, rfl⟩

theorem readSetup_mild : Mild (readPostgresPlayerSetup ctx playerToken) := by
  intro room
  unfold readPostgresPlayerSetup
  split
  · exact ⟨rfl, rfl⟩
  · exact expiry_mild

theorem readJudge_mild {takeover : Bool} : Mild (readPostgresJudge ctx judgeToken judgeEpoch takeover) := by
  intro room
  unfold readPostgresJudge
  split
  · exact ⟨rfl, rfl⟩
  · dsimp only
    split
    · exact expiry_mild
    · exact ⟨rfl, rfl⟩

theorem countCommand_mild {receivedAt : Int} : (room.countCommand receivedAt).snapshot = room.snapshot ∧
    (room.countCommand receivedAt).roomMeta.officialResultChannelId = room.roomMeta.officialResultChannelId := by
  unfold countCommand
  split <;> exact ⟨rfl, rfl⟩

theorem sendCommand_mild {command : RemoteCommandRequest} :
    Mild (sendPostgresJudgeCommand ctx judgeToken judgeEpoch command) := by
  intro room
  have counted := @countCommand_mild (room.pruneSequences ctx.now) ctx.now
  unfold sendPostgresJudgeCommand
  split
  · exact ⟨rfl, rfl⟩
  · split
    · exact ⟨rfl, rfl⟩
    · dsimp only
      split
      · exact ⟨rfl, rfl⟩
      · split
        · exact counted
        · split
          · exact counted
          · split <;> exact counted

theorem disconnectJudge_mild : Mild (disconnectPostgresJudge ctx playerToken) := by
  intro room
  unfold disconnectPostgresJudge
  split <;> exact ⟨rfl, rfl⟩

theorem leaveJudge_mild {token : Nat} : Mild (leavePostgresJudge ctx token) := by
  intro room
  unfold leavePostgresJudge
  split <;> exact ⟨rfl, rfl⟩

theorem synced (accepted : room.syncRefusal ctx input = none) :
    (room.syncPostgresPlayer ctx input).1.roomId = room.roomId ∧ (room.syncPostgresPlayer ctx input).1.expiresAt = room.expiresAt ∧
      (room.syncPostgresPlayer ctx input).1.roomMeta = room.roomMeta ∧ (room.syncPostgresPlayer ctx input).1.snapshot =
        if room.shouldStoreSnapshot input.snapshot then some { input.snapshot with updatedAt := ctx.now } else room.snapshot := by
  unfold syncPostgresPlayer
  rw [accepted]
  exact ⟨rfl, rfl, rfl, rfl⟩

theorem sync_quiet (hidden : (Request.sync ctx input).shows store = none) : Quiet store ((Request.sync ctx input).run store) := by
  refine (withPostgresPairedRoom_quiet fun room found => ?_).answered
  have hidden : room.shows ctx input = none := by
    simpa [Request.shows, mem_def.mp found] using hidden
  cases refused : room.syncRefusal ctx input with
  | some =>
    have same : (room.syncPostgresPlayer ctx input).1 = room := by
      unfold syncPostgresPlayer
      rw [refused]
    rw [same]
    exact ⟨rfl, officialResults_kept rfl⟩
  | none =>
    obtain ⟨roomId, -, roomMeta, snapshot⟩ := synced refused
    refine ⟨congrArg _ roomMeta, ?_⟩
    cases stored : room.shouldStoreSnapshot input.snapshot with
    | false =>
      rw [stored] at snapshot
      exact officialResults_kept snapshot
    | true =>
      simp only [shows, refused, stored, true_and] at hidden
      rw [stored, if_pos rfl] at snapshot
      simp only [officialResults, roomMeta, roomId, snapshot]
      cases channel : room.roomMeta.officialResultChannelId with
      | none => rfl
      | some =>
        have other : input.snapshot.phase ≠ .results := fun results => by simp [channel, results] at hidden
        simp [other]

theorem delete_quiet {authorized : PostgresPairedRoomState → Bool} : Quiet store (.ok (store.deletePostgresRoom clock authorized)) := by
  unfold Store.deletePostgresRoom
  split
  · exact .same
  · split
    · refine ⟨rfl, ?_⟩
      rintro room ⟨⟩
    · exact .same

theorem request_quiet {request : Request} (hidden : request.shows store = none) : Quiet store (request.run store) := by
  cases request with
  | readSetup => exact readSetup_mild.quiet
  | sync => exact sync_quiet hidden
  | readJudge => exact readJudge_mild.quiet
  | sendCommand =>
    simp only [Request.run]
    split
    · exact .same
    · exact sendCommand_mild.quiet
  | disconnectJudge => exact disconnectJudge_mild.quiet
  | close =>
    simp only [Request.run]
    split
    · exact .same
    · split
      · exact leaveJudge_mild.quiet
      · exact delete_quiet

theorem sync_shows {snapshot : RemoteSyncedSnapshot} (found : store.found ctx.clock = some room) (shown : room.shows ctx input = some snapshot) :
    ∃ channelId, room.roomMeta.officialResultChannelId = some channelId ∧
      ∃ envelope, snapshot.pairedGameOfficialResult room.roomId channelId ctx.clock = some envelope ∧
        ∃ after reply, after.roomMeta.officialResultChannelId = some channelId ∧ (Request.sync ctx input).run store =
          (if room.snapshot.any snapshot.sameResult then .ok store.outbox else insertResult store.outbox envelope).map fun outbox =>
            ({ room := some after, outbox }, reply) := by
  unfold shows at shown
  split at shown
  · next stores =>
    obtain ⟨official, accepted, stored, results⟩ := stores
    cases shown
    obtain ⟨channelId, channel⟩ := isSome_iff_exists.mp official
    obtain ⟨roomId, expiresAt, roomMeta, kept⟩ := synced accepted
    rw [if_pos stored] at kept
    have alive := @renewed_alive (room.syncPostgresPlayer ctx input).1 room ctx.clock (expiresAt ▸ (found_room found).2)
    have sealed_ : ∃ envelope, input.snapshot.pairedGameOfficialResult room.roomId channelId ctx.clock = some envelope :=
      ⟨_, if_neg (not_not_intro results)⟩
    obtain ⟨envelope, sealed_⟩ := sealed_
    have official : officialResults ctx.clock room (room.syncPostgresPlayer ctx input).1 =
        if room.snapshot.any input.snapshot.sameResult then none else some envelope := by
      rw [@officialResults_stored room _ ctx.clock _ channelId kept results (by rw [roomMeta, channel]), roomId, ← sealed_]
      rfl
    refine ⟨channelId, channel, envelope, sealed_, (room.syncPostgresPlayer ctx input).1.renewed room ctx.clock,
      (room.syncPostgresPlayer ctx input).2, ?_, ?_⟩
    · rw [renewed_same.2.2, roomMeta, channel]
    · simp only [Request.run, Store.withPostgresPairedRoom, found, if_neg (Int.not_le.mpr alive), officialResults_renewed, official]
      cases room.snapshot.any input.snapshot.sameResult with
      | true => rfl
      | false =>
        simp only [false_eq_true, if_false]
        cases insertResult store.outbox envelope with
        | ok | error => rfl
  · cases shown

end

section
variable {channel : Option Nat} {watched : Watched} {store : Store} {request : Request}

theorem Recorded.same (recorded : Recorded channel watched) {shown : List RemoteSyncedSnapshot} {failed : Bool}
    (outbox : store.outbox = watched.store.outbox) (room : ∀ room ∈ store.room, room.roomMeta.officialResultChannelId = channel) :
    Recorded channel { store, earlier := watched.earlier, shown, failed } := by
  have results : Watched.results { store, earlier := watched.earlier, shown, failed } = watched.results :=
    congrArg (List.drop watched.earlier) outbox
  refine ⟨outbox ▸ recorded.earlier, ?_, results ▸ recorded.unique, results ▸ recorded.channels, results ▸ recorded.ranged, room⟩
  rw [results]
  change ∀ row ∈ watched.results, store.outbox.find? (·.key == row.key) = some row
  rw [outbox]
  exact recorded.found

theorem Recorded.key_iff (recorded : Recorded channel watched) {envelope row : OfficialGameResultEnvelope} (of : some envelope.channelId = channel)
    (mem : row ∈ watched.results) : row.key = envelope.key ↔ resultKey row = resultKey envelope := by
  have channels : row.channelId = envelope.channelId := some.inj ((recorded.channels row mem).trans of.symm)
  simp [OfficialGameResultEnvelope.key, resultKey, channels]

theorem results_append (recorded : Recorded channel watched) {envelope : OfficialGameResultEnvelope} :
    (watched.store.outbox ++ [envelope]).drop watched.earlier = watched.results ++ [envelope] :=
  List.drop_append_of_le_length recorded.earlier

theorem Recorded.append (recorded : Recorded channel watched) {envelope : OfficialGameResultEnvelope} {shown : List RemoteSyncedSnapshot} {failed : Bool}
    (fresh : watched.store.outbox.find? (·.key == envelope.key) = none) (of : some envelope.channelId = channel)
    (ranged : isRevision envelope.revision) (outbox : store.outbox = watched.store.outbox ++ [envelope]) (room : ∀ room ∈ store.room, room.roomMeta.officialResultChannelId = channel) :
    Recorded channel { store, earlier := watched.earlier, shown, failed } := by
  have results : Watched.results { store, earlier := watched.earlier, shown, failed } = watched.results ++ [envelope] :=
    (congrArg (List.drop watched.earlier) outbox).trans (results_append recorded)
  have apart : ∀ row ∈ watched.results, resultKey row ≠ resultKey envelope := by
    intro row mem same
    have key := (recorded.key_iff of mem).mpr same
    have found := recorded.found row mem
    rw [key, fresh] at found
    cases found
  refine ⟨?_, ?_, ?_, ?_, ?_, room⟩
  · have before := recorded.earlier
    simp only [outbox, length_append]
    omega
  · rw [results]
    change ∀ row ∈ watched.results ++ [envelope], store.outbox.find? (·.key == row.key) = some row
    rw [outbox]
    intro row mem
    rw [find?_append]
    rcases mem_append.mp mem with mem | mem
    · rw [recorded.found row mem]
      rfl
    · cases mem_singleton.mp mem
      rw [fresh]
      simp
  · rw [results, map_append, nodup_append]
    refine ⟨recorded.unique, nodup_singleton _, ?_⟩
    intro key listed other last same
    obtain ⟨row, mem, rfl⟩ := mem_map.mp listed
    rw [map_singleton, mem_singleton] at last
    exact apart row mem (same.trans last)
  · rw [results]
    intro row mem
    rcases mem_append.mp mem with mem | mem
    · exact recorded.channels row mem
    · exact mem_singleton.mp mem ▸ of
  · rw [results]
    intro row mem
    rcases mem_append.mp mem with mem | mem
    · exact recorded.ranged row mem
    · exact mem_singleton.mp mem ▸ ranged

theorem settles_iff {ctx : RequestContext} {input : PostgresPairedRoomState.SyncInput}
    (found : watched.store.found ctx.clock = some room) (shown : room.shows ctx input = some snapshot) :
    (Request.sync ctx input).Settles watched ↔ room.Accepts ctx.clock watched snapshot := by
  simp [Request.Settles, Request.shows, Request.ctx, found, shown]

theorem Quiet.applied (quiet : Quiet store (request.run store)) :
    (request.apply store).outbox = store.outbox ∧ request.conflicts store = false ∧ ∀ room ∈ (request.apply store).room,
      ∃ before ∈ store.room, room.roomMeta.officialResultChannelId = before.roomMeta.officialResultChannelId := by
  unfold Request.apply Request.conflicts
  cases ran : request.run store with
  | ok =>
    rw [ran] at quiet
    exact ⟨quiet.1, rfl, quiet.2⟩
  | error error =>
    rw [ran] at quiet
    obtain rfl : error = .persistsExpiry := quiet
    exact ⟨rfl, rfl, fun room listed => ⟨room, listed, rfl⟩⟩

theorem quiet_step (recorded : Recorded channel watched) (settled : watched.Settled)
    (hidden : request.shows watched.store = none) : Recorded channel (request.watch watched) ∧ (request.watch watched).Settled := by
  obtain ⟨outbox, agrees, rooms⟩ := (request_quiet hidden).applied
  have results : (request.watch watched).results = watched.results := congrArg (List.drop watched.earlier) outbox
  have shown : (request.watch watched).shown = watched.shown := by simp [Request.watch, hidden]
  have failed : (request.watch watched).failed = false := by simp [Request.watch, agrees, settled.unfailed]
  refine ⟨recorded.same outbox fun room listed => ?_, failed, results ▸ shown ▸ settled.ledger⟩
  obtain ⟨before, stored, same⟩ := rooms room listed
  exact same.trans (recorded.room before stored)

theorem watch_ok {after : Store} {reply : Reply} (ran : request.run watched.store = .ok (after, reply)) :
    request.watch watched = { store := after, earlier := watched.earlier, shown := (request.shows watched.store).toList ++ watched.shown, failed := watched.failed } := by
  simp [Request.watch, Request.apply, Request.conflicts, ran]

theorem watch_error {error : TransitionError} (ran : request.run watched.store = .error error) :
    request.watch watched = { watched with
      shown := (request.shows watched.store).toList ++ watched.shown
      failed := watched.failed || error == .conflictingRevision } := by
  cases error <;> simp [Request.watch, Request.apply, Request.conflicts, ran]

theorem sealed_same {roomId channelId : Nat} {clock : Int} {envelope : OfficialGameResultEnvelope}
    (sealed_ : snapshot.pairedGameOfficialResult roomId channelId clock = some envelope) :
    resultKey envelope = snapshot.revisionKey ∧ envelope.rawScores = [some (snapshot.score : Int)] ∧ envelope.channelId = channelId := by
  unfold RemoteSyncedSnapshot.pairedGameOfficialResult at sealed_
  split at sealed_
  · cases sealed_
  · cases sealed_
    exact ⟨rfl, rfl, rfl⟩

section
variable {input : PostgresPairedRoomState.SyncInput}

theorem shows_step (recorded : Recorded channel watched) (settled : watched.Settled) (found : watched.store.found ctx.clock = some room)
    (shown : room.shows ctx input = some snapshot) :
    Recorded channel ((Request.sync ctx input).watch watched) ∧
      (((Request.sync ctx input).watch watched).Settled ↔ room.Accepts ctx.clock watched snapshot) := by
  obtain ⟨channelId, official, envelope, sealed_, after, reply, kept, ran⟩ := sync_shows found shown
  have of : channel = some channelId := (recorded.room room (found_room found).1).symm.trans official
  have newShown : ((Request.sync ctx input).shows watched.store).toList ++ watched.shown = snapshot :: watched.shown := by
    simp [Request.shows, found, shown]
  unfold PostgresPairedRoomState.Accepts
  cases repeated : room.snapshot.any snapshot.sameResult with
  | true =>
    rw [repeated, if_pos rfl] at ran
    rw [watch_ok ran, newShown, if_pos rfl]
    refine ⟨recorded.same rfl ?_, ?_⟩
    · rintro room ⟨⟩
      exact kept.trans of.symm
    · rw [← settled.ledger.again recorded.unique]
      exact ⟨fun settled => settled.ledger, fun ledger => ⟨settled.unfailed, ledger⟩⟩
  | false =>
    obtain ⟨key, score, channels⟩ := sealed_same sealed_
    rw [repeated, if_neg Bool.false_ne_true] at ran
    have accepts : (∀ channelId ∈ room.roomMeta.officialResultChannelId, ∀ envelope ∈ snapshot.pairedGameOfficialResult room.roomId channelId ctx.clock,
        (∀ held ∈ watched.store.outbox, held.key ≠ envelope.key) ∨
          ∃ held ∈ watched.results, held.key = envelope.key ∧ held.payloadHash = envelope.payloadHash) ↔
        (∀ held ∈ watched.store.outbox, held.key ≠ envelope.key) ∨
          ∃ held ∈ watched.results, held.key = envelope.key ∧ held.payloadHash = envelope.payloadHash := by
      simp [official, sealed_]
    rw [if_neg Bool.false_ne_true, accepts]
    have revision : envelope.revision = snapshot.revision := (Prod.mk.inj key).2
    cases ranged : isRevision snapshot.revision with
    | false =>
      unfold insertResult at ran
      rw [revision, ranged, Bool.not_false, if_pos rfl] at ran
      rw [watch_error ran, newShown]
      refine ⟨recorded.same rfl recorded.room, fun after => ?_, fun accepted => absurd accepted.1.1 Bool.false_ne_true⟩
      -- A revision that the outbox does not take has no envelope, though it has been shown.
      obtain ⟨held, mem, same⟩ := (count_iff recorded.unique).mp (after.ledger.once snapshot mem_cons_self)
      have taken := recorded.ranged held mem
      rw [(Prod.mk.inj same).2, ranged] at taken
      cases taken
    | true =>
      have rooms : ∀ held ∈ some after, held.roomMeta.officialResultChannelId = channel := by
        rintro held ⟨⟩
        exact kept.trans of.symm
      unfold insertResult at ran
      rw [revision, ranged, Bool.not_true, if_neg Bool.false_ne_true] at ran
      cases known : watched.store.outbox.find? (·.key == envelope.key) with
      | none =>
        rw [known] at ran
        rw [watch_ok ran, newShown]
        have added := @Recorded.append channel watched { room := some after, outbox := watched.store.outbox ++ [envelope] } recorded envelope
          (snapshot :: watched.shown) watched.failed known (channels ▸ of.symm) (revision ▸ ranged) rfl rooms
        have results := @results_append channel watched recorded envelope
        refine ⟨added, ?_⟩
        have unique : ((watched.results ++ [envelope]).map resultKey).Nodup := results ▸ added.unique
        have fresh : ∀ held ∈ watched.store.outbox, held.key ≠ envelope.key := by simpa using known
        rw [and_iff_right ⟨rfl, .inl fresh⟩, ← settled.ledger.append unique key score, ← results]
        exact ⟨fun settled => settled.ledger, fun ledger => ⟨settled.unfailed, ledger⟩⟩
      | some existing =>
        have same : existing.key = envelope.key := eq_of_beq (find?_some (p := fun row : OfficialGameResultEnvelope => row.key == envelope.key) known)
        have taken : ¬ ∀ held ∈ watched.store.outbox, held.key ≠ envelope.key :=
          fun fresh => fresh existing (mem_of_find?_eq_some known) same
        -- The one result of the room under the key is the envelope that the insertion finds there.
        have isFound : ∀ held ∈ watched.results, held.key = envelope.key → held = existing := by
          intro held mem key
          have found := recorded.found held mem
          rw [key, known] at found
          exact (some.inj found).symm
        rw [known] at ran
        rw [or_iff_right taken]
        by_cases equal : existing.payloadHash = envelope.payloadHash
        · simp only [if_pos equal] at ran
          rw [watch_ok ran, newShown]
          refine ⟨recorded.same rfl rooms, ?_⟩
          have held : (∃ held ∈ watched.results, held.key = envelope.key ∧ held.payloadHash = envelope.payloadHash) ↔
              ∃ held ∈ watched.results, resultKey held = snapshot.revisionKey := by
            constructor
            · rintro ⟨held, mem, same, -⟩
              exact ⟨held, mem, ((recorded.key_iff (channels ▸ of.symm) mem).mp same).trans key⟩
            · rintro ⟨held, mem, of'⟩
              have same := (recorded.key_iff (channels ▸ of.symm) mem).mpr (of'.trans key.symm)
              exact ⟨held, mem, same, isFound held mem same ▸ equal⟩
          rw [held, and_iff_right rfl, ← settled.ledger.again recorded.unique]
          exact ⟨fun settled => settled.ledger, fun ledger => ⟨settled.unfailed, ledger⟩⟩
        · simp only [if_neg equal] at ran
          rw [watch_error ran, newShown]
          refine ⟨recorded.same rfl recorded.room, fun settled => ?_, ?_⟩
          · have failed := settled.unfailed
            simp at failed
          · rintro ⟨⟨-, held, mem, same, payload⟩, -⟩
            exact absurd (isFound held mem same ▸ payload) equal

end

theorem request_step (recorded : Recorded channel watched) (settled : watched.Settled) :
    Recorded channel (request.watch watched) ∧ ((request.watch watched).Settled ↔ request.Settles watched) := by
  cases shows : request.shows watched.store with
  | none =>
    obtain ⟨kept, still⟩ := quiet_step recorded settled shows
    refine ⟨kept, fun _ => ?_, fun _ => still⟩
    simp [Request.Settles, shows]
  | some =>
    cases request with
    | sync =>
      obtain ⟨room, found, shown⟩ := bind_eq_some_iff.mp shows
      rw [settles_iff found shown]
      exact shows_step recorded settled found shown
    | _ => cases shows

def opened (input : CreateInput) (now : Int) (outbox : List OfficialGameResultEnvelope) : Watched where
  store := { room := some (createPairedGameRoom input now), outbox }
  earlier := outbox.length

theorem opened_recorded (input : CreateInput) (now : Int) (outbox : List OfficialGameResultEnvelope) :
    Recorded input.officialResultChannelId (opened input now outbox) := by
  have empty : (opened input now outbox).results = [] := List.drop_length
  refine ⟨Nat.le_refl _, ?_, ?_, ?_, ?_, ?_⟩
  · simp [empty]
  · simp [empty]
  · simp [empty]
  · simp [empty]
  · rintro room ⟨⟩
    rfl

theorem opened_settled (input : CreateInput) (now : Int) (outbox : List OfficialGameResultEnvelope) : (opened input now outbox).Settled := by
  have empty : (opened input now outbox).results = [] := List.drop_length
  refine ⟨rfl, ?_⟩
  rw [empty]
  refine ⟨?_, ?_, ?_⟩
  · intro snapshot listed
    cases listed
  · intro row listed
    cases listed
  · intro round last isLast row listed
    cases listed

end

/-- In every run of a room, whatever is in the outbox before, no sync fails because of a result that has been recorded, each
revision shown has one envelope and the highest of a round carries the score last shown, exactly where the room accepts
every result that it stores. -/
theorem results_idempotent {input : CreateInput} {now : Int} {outbox : List OfficialGameResultEnvelope} {requests : List Request} :
    Throughout Request.watch Watched.Settled (opened input now outbox) requests ↔
      EachStep Request.watch Request.Settles (opened input now outbox) requests := by
  have allowed : EachStep Request.watch (fun _ _ => True) (opened input now outbox) requests :=
    @EachStep.always Watched Request Request.watch (fun _ => True) _ _ fun _ _ => trivial
  exact @throughout_iff_within Watched Request Request.watch Watched.Settled Request.Settles (Recorded input.officialResultChannelId)
    (fun _ _ => True) (fun recorded settled _ => request_step recorded settled) _ _ (opened_recorded input now outbox)
    (opened_settled input now outbox) allowed

def headsUpRoom : Watched :=
  opened { roomId := 1, creatorRole := .player, game := .headsUp, playerToken := 2, judgeToken := 3, officialResultChannelId := some 5 } 0 []

def Request.showing (now : Int) (connectionEpoch revision score : Nat) : Request :=
  .sync { now, clock := now, newToken := 0 }
    { playerToken := 2, lastCommandSequence := 0
      snapshot := { game := .headsUp, phase := .results, score, roundId := some 9, revision, connectionEpoch } }

/-- The same score is shown again by the same phone, and another one after it. -/
example : EachStep Request.watch Request.Settles headsUpRoom [.showing 1000 7 4 3, .showing 2000 7 4 3, .showing 3000 7 5 2] := by
  decide +kernel

/-- Half a minute later, the phone reconnects and shows the same result. -/
theorem reconnect_conflicts : ¬ Throughout Request.watch Watched.Settled headsUpRoom [.showing 1000 7 4 3, .showing 40000 8 4 3] := by
  intro settled
  exact absurd settled.last.unfailed (by decide +kernel)

end MilkAndHenny.Paired

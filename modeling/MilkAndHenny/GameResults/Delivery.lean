import MilkAndHenny.GameResults.Outbox
import MilkAndHenny.Library.Machine

/-! No result that has been committed stops being offered before somebody has consumed it: in Postgres whatever happens, in Redis while no
key is lost early. -/

namespace MilkAndHenny.GameResults

open Library

abbrev Identity : Type := (String × String × Nat) × String

/-! ### Drains -/

section

variable {ι α : Type}

namespace Drain

variable (drain : Drain ι α) {offered : α}

def finished : Prop := drain.left = [] ∧ drain.stage = .ready

def next (answer : Option Bool) : Turn :=
  match drain.stage with
  | .ready => .look
  | .offering _ => .answer answer
  | .answered _ _ => .settle

/-- How many turns a drain may take yet. -/
def work : Nat :=
  3 * drain.left.length +
    match drain.stage with
    | .ready => 0
    | .offering _ => 2
    | .answered _ _ => 1

def passed : List ι :=
  match drain.stage with
  | .ready => drain.left.take 1
  | _ => []

variable {drain}

theorem look_left (found : ι → Option α) : drain.left = drain.passed ++ (drain.look found).left := by
  unfold passed look
  cases stage : drain.stage <;> cases left : drain.left <;> simp [left]

theorem look_selected (found : ι → Option α) : (drain.look found).selected = drain.selected := by
  unfold look
  split <;> rfl

theorem look_work (found : ι → Option α) (ready : drain.stage = .ready) (left : drain.left ≠ []) : (drain.look found).work < drain.work := by
  obtain ⟨item, rest, items⟩ := List.exists_cons_of_ne_nil left
  simp only [work, look, ready, items, length_cons]
  cases found item with
  | none => simp
  | some =>
    simp only [elim_some]
    omega

theorem answer_left (answer : Option Bool) : (drain.answer answer).left = drain.left ∧ (drain.answer answer).selected = drain.selected := by
  unfold Drain.answer
  split <;> exact ⟨rfl, rfl⟩

theorem settle_left (delivered : Bool) : (drain.settle delivered).left = drain.left ∧ (drain.settle delivered).selected = drain.selected := by
  unfold settle
  split <;> exact ⟨rfl, rfl⟩

theorem answer_work (offers : drain.stage = .offering offered) (answer : Option Bool) : (drain.answer answer).work < drain.work := by
  simp [work, Drain.answer, offers]

theorem settle_work {consumed : Bool} (answered : drain.stage = .answered offered consumed) (delivered : Bool) :
    (drain.settle delivered).work < drain.work := by
  simp [work, settle, answered]

def turned (found : ι → Option α) (delivered : Bool) (drain : Drain ι α) : Turn → Drain ι α
  | .look => drain.look found
  | .answer answer => drain.answer answer
  | .settle => drain.settle delivered

def passes (drain : Drain ι α) : Turn → List ι
  | .look => drain.passed
  | _ => []

theorem turned_left (found : ι → Option α) (delivered : Bool) (turn : Turn) :
    drain.left = drain.passes turn ++ (drain.turned found delivered turn).left ∧ (drain.turned found delivered turn).selected = drain.selected := by
  cases turn with
  | look => exact ⟨look_left found, look_selected found⟩
  | answer answer => exact ⟨(answer_left answer).1.symm, (answer_left answer).2⟩
  | settle => exact ⟨(settle_left delivered).1.symm, (settle_left delivered).2⟩

theorem turned_work (found : ι → Option α) (delivered : Bool) (answer : Option Bool) (going : ¬ drain.finished) :
    (drain.turned found delivered (drain.next answer)).work < drain.work := by
  cases stage : drain.stage with
  | ready =>
    have left : drain.left ≠ [] := fun empty => going ⟨empty, stage⟩
    simp only [next, stage]
    exact look_work found stage left
  | offering =>
    simp only [next, stage]
    exact answer_work stage answer
  | answered =>
    simp only [next, stage]
    exact settle_work stage delivered

theorem look_offers {found : ι → Option α} {item : ι} {left : List ι} (ready : drain.stage = .ready) (items : drain.left = item :: left)
    (offers : found item = some offered) : (drain.look found).stage = .offering offered := by
  simp [look, ready, items, offers]

end Drain

/-- Every item that a drain selected has been passed by its look, in its turn, or is still ahead. -/
structure Served (drains : List (Drain ι α)) (looked : List (Nat × ι)) : Prop where
  known : ∀ mark ∈ looked, mark.1 < drains.length
  passed : ∀ index drain, drains[index]? = some drain → drain.selected = (looked.filter (·.1 == index)).map (·.2) ++ drain.left

namespace Served

variable {drains : List (Drain ι α)} {looked : List (Nat × ι)} {index : Nat} {drain after : Drain ι α}

theorem start (served : Served drains looked) (selected : List ι) : Served (drains ++ [.start selected]) looked := by
  constructor
  · intro mark mem
    have known := served.known mark mem
    rw [length_append]
    exact Nat.lt_add_right _ known
  · intro index drain found
    rcases Nat.lt_or_ge index drains.length with inside | outside
    · rw [List.getElem?_append_left inside] at found
      exact served.passed index drain found
    · have none_yet : looked.filter (·.1 == index) = [] := by
        rw [filter_eq_nil_iff]
        intro mark mem same
        have known := served.known mark mem
        have same := eq_of_beq same
        omega
      rw [List.getElem?_append_right outside, List.getElem?_singleton] at found
      split at found
      · cases found
        rw [none_yet]
        rfl
      · cases found

theorem set (served : Served drains looked) (found : drains[index]? = some drain) (passed : List ι)
    (left : drain.left = passed ++ after.left) (selected : after.selected = drain.selected) :
    Served (drains.set index after) (looked ++ passed.map (index, ·)) := by
  obtain ⟨inside, -⟩ := getElem?_eq_some_iff.mp found
  constructor
  · intro mark mem
    rw [length_set]
    rcases mem_append.mp mem with mem | mem
    · exact served.known mark mem
    · obtain ⟨item, -, rfl⟩ := mem_map.mp mem
      exact inside
  · intro other drain' found'
    rw [List.getElem?_set] at found'
    split at found'
    · next same =>
      subst same
      cases found'
      have mine : (passed.map (index, ·)).filter (·.1 == index) = passed.map (index, ·) := by
        rw [filter_eq_self]
        intro mark mem
        obtain ⟨item, -, rfl⟩ := mem_map.mp mem
        exact beq_self_eq_true index
      have items : (passed.map (index, ·)).map (·.2) = passed := by rw [map_map]; exact map_id _
      rw [selected, served.passed index drain found, left, filter_append, mine, map_append, items, append_assoc]
    · next apart =>
      have others : (passed.map (index, ·)).filter (·.1 == other) = [] := by
        rw [filter_eq_nil_iff]
        intro mark mem
        obtain ⟨item, -, rfl⟩ := mem_map.mp mem
        simpa using apart
      rw [served.passed other drain' found', filter_append, others, append_nil]

end Served

/-- Drains take their turns whatever their consumers answer, and are offered what they find. -/
structure Fair (drains : List (Drain ι α)) (turn : Nat → Turn → List (Drain ι α)) (found : ι → Option α) : Prop where
  goesOn : ∀ index drain answer, drains[index]? = some drain → ¬ drain.finished →
    ∃ after, (turn index (drain.next answer))[index]? = some after ∧ after.work < drain.work
  offers : ∀ index drain item left offered, drains[index]? = some drain → drain.stage = .ready → drain.left = item :: left → found item = some offered →
    ∃ after, (turn index .look)[index]? = some after ∧ after.stage = .offering offered

theorem Fair.of_turned {drains : List (Drain ι α)} {turn : Nat → Turn → List (Drain ι α)} {found : ι → Option α}
    (turned : ∀ index drain step, drains[index]? = some drain → ∃ delivered, turn index step = drains.set index (drain.turned found delivered step)) :
    Fair drains turn found := by
  have own {index : Nat} {drain : Drain ι α} (known : drains[index]? = some drain) (step : Turn) :
      ∃ delivered, (turn index step)[index]? = some (drain.turned found delivered step) := by
    obtain ⟨delivered, set⟩ := turned index drain step known
    obtain ⟨inside, -⟩ := getElem?_eq_some_iff.mp known
    exact ⟨delivered, by rw [set, List.getElem?_set_self inside]⟩
  constructor
  · intro index drain answer known going
    obtain ⟨delivered, after⟩ := own known (drain.next answer)
    exact ⟨_, after, Drain.turned_work found delivered answer going⟩
  · intro index drain item left offered known ready items offers
    obtain ⟨delivered, after⟩ := own known .look
    exact ⟨_, after, Drain.look_offers ready items offers⟩

/-- The outbox with the envelopes that have been committed, those that a consumer has consumed, and the items that each drain has passed. -/
structure Watched (σ ι : Type) where
  outbox : σ
  persisted : List OfficialGameResultEnvelope
  accepted : List Identity
  looked : List (Nat × ι)

def consumes (identity : α → Identity) (drain : Drain ι α) (answer : Option Bool) : List Identity :=
  match drain.stage with
  | .offering offered => if answer = some true then [identity offered] else []
  | _ => []

end

/-! ### Redis -/

namespace RedisOutbox

variable {outbox : RedisOutbox} {envelope : OfficialGameResultEnvelope} {action : RedisAction}

def lastUnder (envelopes : List OfficialGameResultEnvelope) (key : String) : Option OfficialGameResultEnvelope :=
  envelopes.reverse.find? (outboxKey · == key)

variable (envelopes : List OfficialGameResultEnvelope)

theorem find?_persist (ttlSeconds : Nat) (entries : List Entry) (key : String) :
    (envelopes.foldl (outbox.set ttlSeconds) entries).find? (Entry.key · == key) =
      ((lastUnder envelopes key).map fun envelope => { key := outboxKey envelope, envelope, expiresAt := outbox.now + ttlSeconds * 1000 }).or
        (entries.find? (Entry.key · == key)) := by
  induction envelopes generalizing entries with
  | nil => rfl
  | cons envelope envelopes ih =>
    have last : lastUnder (envelope :: envelopes) key = (lastUnder envelopes key).or (if outboxKey envelope = key then some envelope else none) := by
      unfold lastUnder
      simp
    rw [foldl_cons, ih, set, find?_setKey, last]
    cases lastUnder envelopes key with
    | some => rfl
    | none => split <;> rfl

theorem read_persist (ttlSeconds : Nat) (key : String) :
    (outbox.persistRoomWithOfficialResults envelopes ttlSeconds).read key = (lastUnder envelopes key).or (outbox.read key) := by
  unfold read entry persistRoomWithOfficialResults
  simp only [find?_persist]
  cases lastUnder envelopes key with
  | none => rfl
  | some =>
    have live : outbox.now ≤ outbox.now + (ttlSeconds : Int) * 1000 := by omega
    simp [live]

theorem read_del (gone key : String) : (outbox.del gone).read key = if key = gone then none else outbox.read key := by
  have found : (outbox.entries.filter (Entry.key · != gone)).find? (Entry.key · == key) = if key = gone then none else outbox.entry key := by
    rw [find?_filter]
    split
    · next same =>
      rw [find?_eq_none]
      intro entry _
      simp [same]
    · next apart =>
      congr 1
      funext entry
      by_cases same : entry.key = key
      · simp [same, apart]
      · simp [same]
  unfold read
  simp only [del, entry, found]
  split <;> rfl

def persists : RedisAction → List OfficialGameResultEnvelope
  | .persist envelopes _ => envelopes
  | _ => []

def accepts (outbox : RedisOutbox) : RedisAction → List Identity
  | .turn index (.answer answer) => outbox.drains[index]?.elim [] fun drain => consumes (fun offered => offered.2.identity) drain answer
  | _ => []

def looks (outbox : RedisOutbox) : RedisAction → List (Nat × String)
  | .turn index turn => (outbox.drains[index]?.elim [] fun drain => drain.passes turn).map (index, ·)
  | _ => []

def next (action : RedisAction) (watched : Watched RedisOutbox String) : Watched RedisOutbox String where
  outbox := watched.outbox.apply action
  persisted := watched.persisted ++ persists action
  accepted := watched.accepted ++ accepts watched.outbox action
  looked := watched.looked ++ looks watched.outbox action

def Waits (outbox : RedisOutbox) (envelope : OfficialGameResultEnvelope) : Prop :=
  (outbox.read (outboxKey envelope)).map (·.identity) = some envelope.identity

/-- Nothing has stopped being offered before a consumer consumed it. -/
def Lossless (watched : Watched RedisOutbox String) : Prop :=
  ∀ envelope ∈ watched.persisted, envelope.identity ∈ watched.accepted ∨ watched.outbox.Waits envelope

def deleted (outbox : RedisOutbox) : RedisAction → Option String
  | .turn index .settle => outbox.drains[index]?.bind deletes
  | _ => none

/-- No envelope that nobody has consumed is written over by another one under its key, runs out, or lies under the key that a drain deletes for an
envelope that it read there earlier. -/
def Keeps (action : RedisAction) (watched : Watched RedisOutbox String) : Prop :=
  ∀ envelope ∈ watched.persisted ++ persists action, envelope.identity ∈ watched.accepted ∨
    match action with
    | .persist envelopes _ => ∀ last, lastUnder envelopes (outboxKey envelope) = some last → last.identity = envelope.identity
    | .wait now => ∀ entry, watched.outbox.entry (outboxKey envelope) = some entry → now ≤ entry.expiresAt
    | action => deleted watched.outbox action ≠ some (outboxKey envelope)

theorem Waits.of_read {other : RedisOutbox} (same : other.read (outboxKey envelope) = outbox.read (outboxKey envelope)) :
    other.Waits envelope ↔ outbox.Waits envelope := by
  unfold Waits
  rw [same]

theorem waits_persist (ttlSeconds : Nat) (envelope : OfficialGameResultEnvelope) :
    (outbox.persistRoomWithOfficialResults envelopes ttlSeconds).Waits envelope ↔
      match lastUnder envelopes (outboxKey envelope) with
      | some last => last.identity = envelope.identity
      | none => outbox.Waits envelope := by
  unfold Waits
  rw [read_persist]
  cases lastUnder envelopes (outboxKey envelope) with
  | some => simp
  | none => rfl

theorem lastUnder_batch {envelopes : List OfficialGameResultEnvelope} (mem : envelope ∈ envelopes) :
    lastUnder envelopes (outboxKey envelope) ≠ none := by
  intro missing
  exact find?_eq_none.mp missing envelope (mem_reverse.mpr mem) (beq_self_eq_true _)

theorem waits_wait {now : Int} (waits : outbox.Waits envelope) :
    (outbox.apply (.wait now)).Waits envelope ↔ ∀ entry, outbox.entry (outboxKey envelope) = some entry → now ≤ entry.expiresAt := by
  unfold Waits read at *
  have same : (outbox.apply (.wait now)).entry (outboxKey envelope) = outbox.entry (outboxKey envelope) := rfl
  rw [same]
  cases found : outbox.entry (outboxKey envelope) with
  | none => simp [found] at waits
  | some entry =>
    have live : outbox.now ≤ entry.expiresAt := by
      by_contra late
      simp [found, late] at waits
    have held : entry.envelope.identity = envelope.identity := by simpa [found, live] using waits
    have later : (outbox.apply (.wait now)).now ≤ entry.expiresAt ↔ now ≤ entry.expiresAt := by
      simp only [apply]
      omega
    by_cases lives : now ≤ entry.expiresAt
    · simp [later.mpr lives, held, lives]
    · simp [mt later.mp lives, lives]

theorem read_apply (key : String) (stores : ∀ envelopes ttlSeconds, action ≠ .persist envelopes ttlSeconds)
    (clock : ∀ now, action ≠ .wait now) : (outbox.apply action).read key = if deleted outbox action = some key then none else outbox.read key := by
  cases action with
  | persist envelopes ttlSeconds => exact absurd rfl (stores envelopes ttlSeconds)
  | wait now => exact absurd rfl (clock now)
  | scan => rfl
  | failDelete =>
    simp only [apply]
    split <;> rfl
  | turn index turn =>
    simp only [apply]
    cases found : outbox.drains[index]? with
    | none => cases turn <;> simp [deleted, found]
    | some drain =>
      cases turn with
      | look | answer => rfl
      | settle =>
        simp only [deleted, found, bind_some]
        cases deletes drain with
        | none => rfl
        | some =>
          simp only [elim_some, some.injEq, read_del, eq_comm]
          rfl

theorem accepts_deleted {key : String} (gone : deleted outbox action = some key) : accepts outbox action = [] := by
  cases action with
  | turn index turn =>
    cases turn with
    | settle => rfl
    | _ => cases gone
  | _ => cases gone

theorem persists_other (stores : ∀ envelopes ttlSeconds, action ≠ .persist envelopes ttlSeconds) : persists action = [] := by
  cases action with
  | persist envelopes ttlSeconds => exact absurd rfl (stores envelopes ttlSeconds)
  | _ => rfl

variable {watched : Watched RedisOutbox String}

theorem lossless_persist (lossless : Lossless watched) (envelopes : List OfficialGameResultEnvelope) (ttlSeconds : Nat) :
    Lossless (next (.persist envelopes ttlSeconds) watched) ↔ Keeps (.persist envelopes ttlSeconds) watched := by
  refine forall_congr' fun envelope => forall_congr' fun mem => ?_
  have accepted : (next (.persist envelopes ttlSeconds) watched).accepted = watched.accepted := append_nil _
  rw [accepted]
  simp only [next, apply, waits_persist]
  cases last : lastUnder envelopes (outboxKey envelope) with
  | some => simp
  | none =>
    refine iff_of_true ?_ (.inr nofun)
    rcases mem_append.mp mem with mem | mem
    · exact lossless envelope mem
    · exact absurd last (lastUnder_batch mem)

theorem lossless_wait (lossless : Lossless watched) (now : Int) : Lossless (next (.wait now) watched) ↔ Keeps (.wait now) watched := by
  refine forall_congr' fun envelope => forall_congr' fun mem => ?_
  have accepted : (next (.wait now) watched).accepted = watched.accepted := append_nil _
  rw [accepted]
  have known : envelope ∈ watched.persisted := (append_nil watched.persisted) ▸ mem
  rcases lossless envelope known with held | waits
  · exact iff_of_true (.inl held) (.inl held)
  · exact or_congr_right (waits_wait waits)

theorem lossless_other (lossless : Lossless watched) (stores : ∀ envelopes ttlSeconds, action ≠ .persist envelopes ttlSeconds)
    (clock : ∀ now, action ≠ .wait now) :
    Lossless (next action watched) ↔
      ∀ envelope ∈ watched.persisted, envelope.identity ∈ watched.accepted ∨ deleted watched.outbox action ≠ some (outboxKey envelope) := by
  have persisted : (next action watched).persisted = watched.persisted := by
    simp [next, persists_other stores]
  unfold Lossless
  rw [persisted]
  refine forall_congr' fun envelope => forall_congr' fun mem => ?_
  have read : (watched.outbox.apply action).read (outboxKey envelope) =
      if deleted watched.outbox action = some (outboxKey envelope) then none else watched.outbox.read (outboxKey envelope) :=
    read_apply _ stores clock
  by_cases gone : deleted watched.outbox action = some (outboxKey envelope)
  · have accepted : (next action watched).accepted = watched.accepted := by simp [next, accepts_deleted gone]
    have lost : ¬ (next action watched).outbox.Waits envelope := by
      unfold Waits
      rw [show (next action watched).outbox = watched.outbox.apply action from rfl, read, if_pos gone]
      simp
    rw [accepted]
    simp [lost, gone]
  · rw [if_neg gone] at read
    refine iff_of_true ?_ (.inr gone)
    rcases lossless envelope mem with held | waits
    · exact .inl (mem_append_left _ held)
    · exact .inr ((Waits.of_read read).mpr waits)

theorem lossless_step (lossless : Lossless watched) (action : RedisAction) : Lossless (next action watched) ↔ Keeps action watched := by
  cases action with
  | persist envelopes ttlSeconds => exact lossless_persist lossless envelopes ttlSeconds
  | wait now => exact lossless_wait lossless now
  | _ =>
    rw [lossless_other lossless (by simp) (by simp)]
    simp [Keeps, persists]

theorem turn_drains (index : Nat) {drain : Drain String (String × OfficialGameResultEnvelope)} (turn : Turn) (known : outbox.drains[index]? = some drain) :
    ∃ delivered, (outbox.apply (.turn index turn)).drains =
      outbox.drains.set index (drain.turned (fun key => (outbox.read key).map (key, ·)) delivered turn) := by
  simp only [apply, known]
  cases turn with
  | look | answer => exact ⟨false, rfl⟩
  | settle =>
    refine ⟨(deletes drain).isSome, ?_⟩
    cases deletes drain with
    | none | some => rfl

theorem served_next (served : Served watched.outbox.drains watched.looked) (action : RedisAction) :
    Served (next action watched).outbox.drains (next action watched).looked := by
  cases action with
  | persist => simpa [next, looks, apply, persistRoomWithOfficialResults] using served
  | wait => simpa [next, looks, apply] using served
  | scan => simpa [next, looks, apply] using served.start _
  | turn index turn =>
    cases known : watched.outbox.drains[index]? with
    | none => simpa [next, looks, apply, known] using served
    | some drain =>
      obtain ⟨delivered, turned⟩ := turn_drains index turn known
      obtain ⟨left, selected⟩ := drain.turned_left (fun key => (watched.outbox.read key).map (key, ·)) delivered turn
      simp only [next, looks, known, turned]
      exact served.set known _ left selected
  | failDelete index =>
    cases known : watched.outbox.drains[index]? with
    | none => simpa [next, looks, apply, known] using served
    | some drain =>
      obtain ⟨left, selected⟩ := drain.settle_left false
      simpa [next, looks, apply, known] using served.set known [] left.symm selected

/-- Every drain comes to all that it selected, past any item that is not consumed. -/
structure Passes (watched : Watched RedisOutbox String) : Prop where
  served : Served watched.outbox.drains watched.looked
  fair : Fair watched.outbox.drains (fun index turn => (watched.outbox.apply (.turn index turn)).drains)
    fun key => (watched.outbox.read key).map (key, ·)

theorem Passes.of_served (served : Served watched.outbox.drains watched.looked) : Passes watched :=
  ⟨served, .of_turned fun index _ turn known => turn_drains index turn known⟩

def start (now : Int) : Watched RedisOutbox String :=
  { outbox := { now, entries := [], drains := [] }, persisted := [], accepted := [], looked := [] }

theorem passes (now : Int) (actions : List RedisAction) : Throughout next Passes (start now) actions := by
  have step {watched : Watched RedisOutbox String} {action : RedisAction} (passes : Passes watched) (_ : True) :
      Passes (next action watched) ∧ True := ⟨.of_served (served_next passes.served action), trivial⟩
  have empty : Served (start now).outbox.drains (start now).looked := ⟨by simp [start], by simp [start]⟩
  exact (@EachStep.shows _ _ next (fun _ _ => True) Passes (fun _ _ => True) step _ actions (.of_served empty) (EachStep.always fun _ _ => trivial)).1

theorem lossless_iff (now : Int) (actions : List RedisAction) :
    Throughout next Lossless (start now) actions ↔ EachStep next Keeps (start now) actions :=
  @throughout_iff _ _ next Lossless Keeps (fun _ => True) (fun lossless _ => lossless_step lossless _) _ actions (nofun)
    fun _ _ => trivial

end RedisOutbox

end MilkAndHenny.GameResults

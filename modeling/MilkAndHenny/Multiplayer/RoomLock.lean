import Mathlib.Logic.Function.Basic
import MilkAndHenny.Library.Machine

/-! The mutation lock of a room. A writer takes it around reading, changing and writing the room. It runs out in Redis
unless it is renewed, and answers take their time. -/

namespace MilkAndHenny.Multiplayer
open Library

variable {α : Type}

def roomLockTtlMs : Int := 15000
def roomLockRenewIntervalMs : Int := 5000
def roomLockRenewRetryMs : Int := 500
def roomLockAttempts : Nat := 12

/-- A key in Redis that holds the credential of one call. -/
structure Lock where
  owner : Nat
  expiresAt : Int

/-- Where a call of `withMultiplayerRoomLock` has come to. -/
inductive Stage where
  | trying (attempts : Nat)
  /-- The attempt has been made, and its answer is on the way. -/
  | asked (attempts : Nat) (acquired : Bool)
  | working
  /-- `use` has ended, and a renewal may still be on the way. -/
  | stopped (throws : Bool)
  | releasing (throws leaseInvalid : Bool)
  | returned
  | thrown
  | busy
deriving DecidableEq

def Stage.early : Stage → Bool
  | .trying _ | .asked _ _ => true
  | _ => false

inductive Renewal where
  | idle
  | due (time : Int)
  | sent
  | ran (renewed : Bool)

structure Call (α : Type) where
  stage : Stage := .trying 0
  leaseValidUntil : Int := 0
  leaseLost : Bool := false
  renewal : Renewal := .idle
  /-- The room as `use` has it. -/
  seen : Option α := none

/-- What a call does of its own. -/
inductive Move where
  | hear
  | send
  | learn
  /-- The answer to the attempt or to the renewal is an exception, whether or not it ran. -/
  | fail
  | stop (throws : Bool)
  | settle

/-- `scheduleRenewal`. -/
def Call.scheduleRenewal (call : Call α) (time : Int) : Call α :=
  { call with renewal := if call.stage = .working ∧ !call.leaseLost then .due time else .idle }

def Move.apply (move : Move) (now : Int) (call : Call α) : Call α :=
  match move, call.stage, call.renewal with
  | .hear, .asked _ true, _ =>
    { call with stage := .working, leaseValidUntil := now + roomLockTtlMs }.scheduleRenewal (now + roomLockRenewIntervalMs)
  | .hear, .asked attempts false, _ => { call with stage := if attempts + 1 < roomLockAttempts then .trying (attempts + 1) else .busy }
  | .send, _, .due time => if time ≤ now then { call with renewal := .sent } else call
  | .learn, _, .ran true => { call with leaseValidUntil := now + roomLockTtlMs }.scheduleRenewal (now + roomLockRenewIntervalMs)
  | .learn, _, .ran false => { call with leaseLost := true, renewal := .idle }
  | .fail, .trying _, _ | .fail, .asked _ _, _ => { call with stage := .thrown }
  | .fail, _, .sent | .fail, _, .ran _ =>
    if call.leaseValidUntil ≤ now then { call with leaseLost := true, renewal := .idle } else call.scheduleRenewal (now + roomLockRenewRetryMs)
  | .stop throws, .working, .due _ => { call with stage := .stopped throws, renewal := .idle }
  | .stop throws, .working, _ => { call with stage := .stopped throws }
  -- a renewal that is still on the way is awaited
  | .settle, .stopped throws, .idle => { call with stage := .releasing throws (call.leaseLost || decide (call.leaseValidUntil ≤ now)) }
  | _, _, _ => call

theorem Move.apply_keeps (move : Move) (now : Int) (call : Call α) :
    (move.apply now call).seen = call.seen ∧ ((move.apply now call).stage.early → call.stage.early) := by
  unfold Move.apply
  split <;> (try split) <;> simp_all [Stage.early, Call.scheduleRenewal]

/-- Redis and the calls, each with a credential of its own. -/
structure Shared (α : Type) where
  now : Int
  lock : Option Lock
  room : α
  /-- What each write has done to the room, the first first. -/
  uses : List (α → α)
  calls : Nat → Call α

inductive Event (α : Type) where
  | pass (ms : Nat)
  | go (id : Nat) (move : Move)
  | attempt (id : Nat)
  | renew (id : Nat)
  | release (id : Nat) (runs : Bool)
  | read (id : Nat)
  | write (id : Nat) (use : α → α)

section

namespace Shared

/-- Whose credential the key holds now. -/
def owner (shared : Shared α) : Option Nat := (shared.lock.filter fun lock => decide (shared.now < lock.expiresAt)).map Lock.owner

def set (shared : Shared α) (id : Nat) (call : Call α) : Shared α := { shared with calls := Function.update shared.calls id call }

def opened (now : Int) (room : α) : Shared α := { now, lock := none, room, uses := [], calls := fun _ => {} }

end Shared

def Event.apply (event : Event α) (shared : Shared α) : Shared α :=
  match event with
  | .pass ms => { shared with now := shared.now + ms }
  | .go id move => shared.set id (move.apply shared.now (shared.calls id))
  | .attempt id =>
    match (shared.calls id).stage with
    | .trying attempts =>
      { shared.set id { shared.calls id with stage := .asked attempts shared.owner.isNone } with
        lock := if shared.owner.isNone then some ⟨id, shared.now + roomLockTtlMs⟩ else shared.lock }
    | _ => shared
  | .renew id =>
    match (shared.calls id).renewal with
    | .sent =>
      { shared.set id { shared.calls id with renewal := .ran (shared.owner == some id) } with
        lock := if shared.owner = some id then some ⟨id, shared.now + roomLockTtlMs⟩ else shared.lock }
    | _ => shared
  | .release id runs =>
    match (shared.calls id).stage with
    | .releasing throws leaseInvalid =>
      { shared.set id { shared.calls id with stage := if throws then .thrown else if leaseInvalid then .busy else .returned } with
        lock := if runs ∧ shared.owner = some id then none else shared.lock }
    | _ => shared
  | .read id => if (shared.calls id).stage = .working then shared.set id { shared.calls id with seen := some shared.room } else shared
  | .write id use =>
    match (shared.calls id).stage, (shared.calls id).seen with
    | .working, some seen =>
      { shared.set id { shared.calls id with seen := some (use seen) } with room := use seen, uses := shared.uses ++ [use] }
    | _, _ => shared

/-- A write is made while the lock of its call has not run out. -/
def Event.guarded (event : Event α) (shared : Shared α) : Bool :=
  match event with
  | .write id _ => (shared.calls id).seen.isNone || shared.owner == some id
  | _ => true

/-- The owner's own release, or time. -/
def Event.frees (event : Event α) (owner : Nat) : Prop :=
  match event with
  | .pass _ => True
  | .release id _ => id = owner
  | _ => False

/-- Nothing else takes the lock away from its owner. -/
def Event.spares (event : Event α) (shared : Shared α) : Prop :=
  ∀ owner, shared.owner = some owner → (event.apply shared).owner = some owner ∨ event.frees owner

/-- No write is lost, and whoever holds the lock has read the room as it is. -/
structure Kept (first : α) (shared : Shared α) : Prop where
  room : shared.room = shared.uses.foldl (fun room use => use room) first
  early : ∀ id, (shared.calls id).stage.early → (shared.calls id).seen = none
  current : ∀ id, shared.owner = some id → ∀ room ∈ (shared.calls id).seen, room = shared.room
  short : ∀ lock ∈ shared.lock, lock.expiresAt ≤ shared.now + roomLockTtlMs

variable {first : α} {shared : Shared α} {id : Nat} {call : Call α}

theorem owner_some {other : Nat} : shared.owner = some other ↔ ∃ held ∈ shared.lock, shared.now < held.expiresAt ∧ held.owner = other := by
  simp [Shared.owner, Option.map_eq_some_iff, Option.filter_eq_some_iff, and_assoc]

namespace Kept

theorem set (kept : Kept first shared) (early : call.stage.early → call.seen = none)
    (current : shared.owner = some id → ∀ room ∈ call.seen, room = shared.room) : Kept first (shared.set id call) where
  room := kept.room
  short := kept.short
  early other := by
    by_cases same : other = id
    · simp only [Shared.set, same, Function.update_self]
      exact early
    · simp only [Shared.set, Function.update_of_ne same]
      exact kept.early other
  current other holds := by
    by_cases same : other = id
    · simp only [Shared.set, same, Function.update_self]
      exact current (same ▸ holds)
    · simp only [Shared.set, Function.update_of_ne same]
      exact kept.current other holds

/-- The call goes on with the room as it has it. -/
theorem goOn (kept : Kept first shared) (seen : call.seen = (shared.calls id).seen) (later : call.stage.early → (shared.calls id).stage.early) :
    Kept first (shared.set id call) :=
  kept.set (fun early => seen.trans (kept.early id (later early))) fun holds => seen ▸ kept.current id holds

/-- The key goes to a call that has read nothing yet, or stays with its owner. -/
theorem relock (kept : Kept first shared) {p : Prop} [Decidable p] {lock : Option Lock}
    (fits : p → ∀ held ∈ lock, held.expiresAt ≤ shared.now + roomLockTtlMs ∧
      (shared.owner = some held.owner ∨ (shared.calls held.owner).seen = none)) :
    Kept first { shared with lock := if p then lock else shared.lock } := by
  split
  · next holds =>
    refine ⟨kept.room, kept.early, fun other owned => ?_, fun held present => (fits holds held present).1⟩
    obtain ⟨held, present, -, rfl⟩ := owner_some.mp owned
    rcases (fits holds held present).2 with before | unseen
    · exact kept.current held.owner before
    · simp [unseen]
  · exact kept

theorem apply (kept : Kept first shared) {event : Event α} (guarded : event.guarded shared) : Kept first (event.apply shared) := by
  cases event with
  | pass ms =>
    refine ⟨kept.room, kept.early, fun other holds => kept.current other ?_, fun lock held => ?_⟩
    · obtain ⟨lock, held, later, rfl⟩ := owner_some.mp holds
      change shared.now + ms < lock.expiresAt at later
      exact owner_some.mpr ⟨lock, held, by omega, rfl⟩
    · have short := kept.short lock held
      change lock.expiresAt ≤ shared.now + ms + roomLockTtlMs
      omega
  | go id move =>
    obtain ⟨seen, early⟩ := move.apply_keeps shared.now (shared.calls id)
    exact kept.goOn seen early
  | attempt id =>
    simp only [Event.apply]
    split
    · next trying =>
      have asked (acquired : Bool) (attempts : Nat) : Kept first (shared.set id { shared.calls id with stage := .asked attempts acquired }) :=
        kept.goOn rfl fun _ => by rw [trying]; rfl
      refine (asked _ _).relock fun free held present => ?_
      cases present
      exact ⟨Int.le_refl _, .inr ((asked _ _).early id (by simp [Shared.set, Stage.early]))⟩
    · exact kept
  | renew id =>
    simp only [Event.apply]
    split
    · have ran (renewed : Bool) : Kept first (shared.set id { shared.calls id with renewal := .ran renewed }) := kept.goOn rfl fun early => early
      refine (ran _).relock fun holds held present => ?_
      cases present
      exact ⟨Int.le_refl _, .inl holds⟩
    · exact kept
  | release id =>
    simp only [Event.apply]
    split
    · next throws leaseInvalid _ =>
      have ended (stage : Stage) (later : stage.early = false) : Kept first (shared.set id { shared.calls id with stage }) :=
        kept.goOn rfl fun early => by simp [later] at early
      refine (ended _ ?_).relock fun _ held present => ?_
      · cases throws <;> cases leaseInvalid <;> rfl
      · cases present
    · exact kept
  | read =>
    simp only [Event.apply]
    split
    · next working => exact kept.set (by simp [working, Stage.early]) fun _ room seen => (Option.some.inj seen).symm
    · exact kept
  | write id use =>
    simp only [Event.apply]
    split
    · next seen working has =>
      have holds : shared.owner = some id := by simpa [Event.guarded, has] using guarded
      have same : seen = shared.room := kept.current id holds seen has
      refine ⟨?_, fun other => ?_, fun other owned => ?_, kept.short⟩
      · change use seen = (shared.uses ++ [use]).foldl (fun room use => use room) first
        rw [List.foldl_append, ← kept.room, same]
        rfl
      · by_cases mine : other = id
        · simp [Shared.set, mine, working, Stage.early]
        · simp only [Shared.set, Function.update_of_ne mine]
          exact kept.early other
      · obtain rfl : id = other := Option.some.inj (holds.symm.trans owned)
        simp [Shared.set]
    · exact kept

end Kept

theorem spares (event : Event α) (shared : Shared α) : event.spares shared := by
  intro owner holds
  cases event with
  | pass => exact .inr trivial
  | go => exact .inl holds
  | attempt =>
    simp only [Event.apply, holds]
    split <;> exact .inl holds
  | renew id =>
    simp only [Event.apply]
    split
    · split
      · next mine =>
        obtain rfl : id = owner := Option.some.inj (mine.symm.trans holds)
        exact .inl (owner_some.mpr ⟨_, rfl, Int.lt_add_of_pos_right _ (by decide), rfl⟩)
      · exact .inl holds
    · exact .inl holds
  | release id runs =>
    by_cases mine : runs = true ∧ shared.owner = some id
    · exact .inr (Option.some.inj (mine.2.symm.trans holds))
    · simp only [Event.apply, if_neg mine]
      split <;> exact .inl holds
  | read id | write id use =>
    simp only [Event.apply]
    split <;> exact .inl holds

end

/-- However any number of calls interleave, with answers that come late or never and renewals that fail: while every write is
made before the lock of its call has run out, the room is what all writes in their order have made of it. Nothing but
time and its owner's release takes the lock away, and time takes it away within its TTL from a call that has stopped. -/
theorem lock_keepsWrites {α : Type} {now : Int} {room : α} {events : List (Event α)}
    (guarded : EachStep Event.apply (fun event shared => event.guarded shared = true) (Shared.opened now room) events) :
    Throughout Event.apply (fun shared => shared.room = shared.uses.foldl (fun room use => use room) room ∧
        ∀ lock ∈ shared.lock, lock.expiresAt ≤ shared.now + roomLockTtlMs) (Shared.opened now room) events ∧
      EachStep Event.apply Event.spares (Shared.opened now room) events := by
  have start : Kept room (Shared.opened now room) := by
    refine ⟨rfl, fun _ _ => rfl, fun id holds => ?_, fun lock held => ?_⟩
    · cases holds
    · cases held
  have kept := @EachStep.shows _ _ Event.apply _ (Kept room) Event.spares (fun kept guarded => ⟨kept.apply guarded, spares _ _⟩) _ _ start guarded
  exact ⟨kept.1.imp fun _ kept => ⟨kept.room, kept.short⟩, kept.2⟩

/-- The second call waits for the first, which renews its lock and writes. -/
def contended : List (Event Nat) :=
  [.attempt 0, .go 0 .hear, .attempt 1, .go 1 .hear, .read 0, .pass 5000, .go 0 .send, .renew 0, .go 0 .learn, .write 0 (· + 1), .go 0 (.stop false),
    .go 0 .settle, .release 0 true, .attempt 1, .go 1 .hear, .read 1, .write 1 (2 * ·)]

theorem lock_keepsWrites_contended : (runFrom Event.apply (Shared.opened 0 3) contended).room =
    (runFrom Event.apply (Shared.opened 0 3) contended).uses.foldl (fun room use => use room) 3 :=
  (@lock_keepsWrites Nat 0 3 contended (by decide)).1.last.1

example : (runFrom Event.apply (Shared.opened 0 3) contended).room = 8 := by decide

end MilkAndHenny.Multiplayer

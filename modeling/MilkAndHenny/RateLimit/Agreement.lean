import MilkAndHenny.RateLimit.Stores
import MilkAndHenny.Library.Machine

/-! Every store answers as the limiter does that keeps one window for each identity and one for everyone, as long as nothing confuses its windows. -/

namespace MilkAndHenny.RateLimit

open Library

variable {windows : Windows Subject} {options : RateLimitOptions} {now : Int} {view : List Subject}
  {state : Windows String} {sooner later : Int}

/-- Whose attempts a window counts. -/
inductive Subject
  | identity (name identity : String)
  | everyone (name : String)
  deriving DecidableEq

structure Ruling where
  allowed : Bool
  remaining : Int
  /-- How long the identity's window goes on. -/
  left : Int
  /-- Where the global cap alone refuses: how long the global window goes on. -/
  capped : Option Int

/-! ### The limiter -/

namespace Limiter

def reserve (options : RateLimitOptions) (now : Int) (windows : Windows Subject) : Ruling × Windows Subject :=
  let (identity, windows) := windows.attempt running (.identity options.name options.identity) now (milliseconds options.windowSeconds)
  let within : Bool := identity.attempts ≤ options.limit
  let remaining := max 0 (options.limit - identity.attempts)
  let left := identity.endsAt - now
  match options.globalLimit with
  | none => ({ allowed := within, remaining, left, capped := none }, windows)
  | some globalLimit =>
    let (shared, windows) := windows.attempt running (.everyone options.name) now (milliseconds options.windowSeconds)
    let admitted : Bool := shared.attempts ≤ globalLimit
    ({ allowed := within && admitted, remaining, left, capped := if within && !admitted then some (shared.endsAt - now) else none }, windows)

def store : Store (Windows Subject) Ruling where
  reserve := reserve
  clear name identity windows := windows.clear (.identity name identity)

end Limiter

def Call.subjects : Call → List Subject
  | .reserve options _ => .identity options.name options.identity :: (options.globalLimit.map fun _ => .everyone options.name).toList
  | .clear name identity _ => [.identity name identity]

def subjects (calls : List Call) : List Subject := calls.flatMap Call.subjects

/-- The same call answered as the limiter rules; one that only the global cap refuses is told to wait as long as the global window lasts. -/
structure Agrees (seconds : Int → Int) (ruled : RateLimitOptions × Ruling) (answered : RateLimitOptions × RateLimitDecision) : Prop where
  options : answered.1 = ruled.1
  allowed : answered.2.allowed = ruled.2.allowed
  remaining : answered.2.remaining = ruled.2.remaining
  waits : ∀ left ∈ ruled.2.capped, seconds left ≤ answered.2.retryAfterSeconds

section

variable {σ : Type} {store : Store σ RateLimitDecision} {seconds : Int → Int} {meets : Call → Windows Subject → Prop}
  {related : σ → Windows Subject → Prop} {here : Call → Prop}

theorem answers_agree
    (reserve : ∀ {options now state windows}, related state windows → here (.reserve options now) → meets (.reserve options now) windows →
      Agrees seconds (options, (Limiter.reserve options now windows).1) (options, (store.reserve options now state).1) ∧
        related (store.reserve options now state).2 (Limiter.reserve options now windows).2)
    (clear : ∀ {name identity now state windows}, related state windows → here (.clear name identity now) → meets (.clear name identity now) windows →
      related (store.clear name identity state) (windows.clear (.identity name identity)))
    {state : σ} {windows : Windows Subject} {calls : List Call} (start : related state windows) (allowed : ∀ call ∈ calls, here call)
    (each : EachStep Limiter.store.next meets windows calls) :
    Forall₂ (Agrees seconds) (Limiter.store.answers windows calls) (store.answers state calls) := by
  induction calls generalizing state windows with
  | nil => exact .nil
  | cons call calls ih =>
    have first := allowed call (mem_cons_self ..)
    have rest : ∀ other ∈ calls, here other := fun other mem => allowed other (mem_cons_of_mem _ mem)
    cases call with
    | reserve =>
      obtain ⟨agrees, kept⟩ := reserve start first each.1
      exact .cons agrees (ih kept rest each.2)
    | clear => exact ih (clear start first each.1) rest each.2

end

/-! ### Redis -/

def redisKey : Subject → String
  | .identity name identity => identityKey name identity
  | .everyone name => globalKey name

/-- A call that only the global cap refuses finds that the identity's window goes on at least as long as the global one. -/
def Outlasts (call : Call) (windows : Windows Subject) : Prop :=
  match call with
  | .reserve options now => ∀ left ∈ (Limiter.reserve options now windows).1.capped, left ≤ (Limiter.reserve options now windows).1.left
  | .clear _ _ _ => True

instance Outlasts.decidable : (call : Call) → (windows : Windows Subject) → Decidable (Outlasts call windows)
  | .reserve options now, windows =>
    inferInstanceAs (Decidable (∀ left ∈ (Limiter.reserve options now windows).1.capped, left ≤ (Limiter.reserve options now windows).1.left))
  | .clear .., _ => .isTrue trivial

def OffTheEnd (service : RedisService) (call : Call) (windows : Windows Subject) : Prop :=
  service.lingers = true → ∀ subject ∈ call.subjects, ∀ window, List.lookup subject windows = some window → window.endsAt ≠ call.now

def RedisMeets (service : RedisService) (call : Call) (windows : Windows Subject) : Prop := OffTheEnd service call windows ∧ Outlasts call windows

theorem ceilSeconds_mono (le : sooner ≤ later) : ceilSeconds sooner ≤ ceilSeconds later := by
  unfold ceilSeconds
  omega

section

variable {globalLimit : Int}

def own (windows : Windows Subject) (options : RateLimitOptions) (now : Int) : Window :=
  windows.attempted running (.identity options.name options.identity) now (milliseconds options.windowSeconds)

def afterOwn (windows : Windows Subject) (options : RateLimitOptions) (now : Int) : Windows Subject :=
  windows.set (.identity options.name options.identity) (own windows options now)

def shared (windows : Windows Subject) (options : RateLimitOptions) (now : Int) : Window :=
  (afterOwn windows options now).attempted running (.everyone options.name) now (milliseconds options.windowSeconds)

theorem lookup_afterOwn (windows : Windows Subject) (options : RateLimitOptions) (now : Int) :
    List.lookup (.everyone options.name) (afterOwn windows options now) = List.lookup (.everyone options.name) windows := by
  unfold afterOwn
  rw [Windows.lookup_set, if_neg (by simp)]

theorem reserve_uncapped (uncapped : options.globalLimit = none) :
    Limiter.reserve options now windows =
      ({ allowed := (own windows options now).attempts ≤ options.limit, remaining := max 0 (options.limit - (own windows options now).attempts)
         left := (own windows options now).endsAt - now, capped := none }, afterOwn windows options now) := by
  simp only [Limiter.reserve, uncapped]
  rfl

theorem reserve_capped (capped : options.globalLimit = some globalLimit) :
    Limiter.reserve options now windows =
      ({ allowed := decide ((own windows options now).attempts ≤ options.limit) && decide ((shared windows options now).attempts ≤ globalLimit)
         remaining := max 0 (options.limit - (own windows options now).attempts)
         left := (own windows options now).endsAt - now
         capped := if decide ((own windows options now).attempts ≤ options.limit) && !decide ((shared windows options now).attempts ≤ globalLimit)
           then some ((shared windows options now).endsAt - now) else none },
       (afterOwn windows options now).set (.everyone options.name) (shared windows options now)) := by
  simp only [Limiter.reserve, capped]
  rfl

theorem own_subject : Subject.identity options.name options.identity ∈ (Call.reserve options now).subjects := mem_cons_self ..

theorem shared_subject {globalLimit : Int} (capped : options.globalLimit = some globalLimit) :
    Subject.everyone options.name ∈ (Call.reserve options now).subjects := by
  simp [Call.subjects, capped]

variable {κ : Type} [DecidableEq κ] {k : Subject → κ} {store : Windows κ} {alive : Int → Int → Bool}

theorem own_agrees (agree : Windows.Agree k view store windows) (apart : Windows.Apart k view)
    (inside : ∀ subject ∈ (Call.reserve options now).subjects, subject ∈ view)
    (alike : ∀ subject ∈ (Call.reserve options now).subjects, Windows.Alike alive running windows subject now) :
    store.attempted alive (k (.identity options.name options.identity)) now (milliseconds options.windowSeconds) = own windows options now ∧
      Windows.Agree k view (store.set (k (.identity options.name options.identity)) (own windows options now)) (afterOwn windows options now) :=
  ⟨agree.attempted (inside _ own_subject) (alike _ own_subject) _, agree.set apart (inside _ own_subject) _⟩

theorem shared_agrees (capped : options.globalLimit = some globalLimit) (apart : Windows.Apart k view)
    (inside : ∀ subject ∈ (Call.reserve options now).subjects, subject ∈ view)
    (alike : ∀ subject ∈ (Call.reserve options now).subjects, Windows.Alike alive running windows subject now)
    (agree : Windows.Agree k view store (afterOwn windows options now)) :
    store.attempted alive (k (.everyone options.name)) now (milliseconds options.windowSeconds) = shared windows options now ∧
      Windows.Agree k view (store.set (k (.everyone options.name)) (shared windows options now))
        ((afterOwn windows options now).set (.everyone options.name) (shared windows options now)) := by
  have same : Windows.Alike alive running (afterOwn windows options now) (.everyone options.name) now := by
    intro window found
    rw [lookup_afterOwn] at found
    exact alike _ (shared_subject capped) window found
  exact ⟨agree.attempted (inside _ (shared_subject capped)) same _, agree.set apart (inside _ (shared_subject capped)) _⟩

end

namespace RedisService

variable {service : RedisService}

theorem alike {subject : Subject} (ends : service.lingers = true → ∀ window, List.lookup subject windows = some window → window.endsAt ≠ now) :
    Windows.Alike service.alive running windows subject now := by
  intro window found
  unfold alive running
  cases lingers : service.lingers with
  | false => simp
  | true => simp [(ends lingers window found).symm]

theorem ttlSeconds_mono (le : sooner ≤ later) : service.ttlSeconds sooner ≤ service.ttlSeconds later := by
  have ttl := service.ordered le
  unfold ttlSeconds
  omega

theorem reserve_agrees (apart : Windows.Apart redisKey view) (agree : Windows.Agree redisKey view state windows)
    (inside : ∀ subject ∈ (Call.reserve options now).subjects, subject ∈ view) (meets : RedisMeets service (.reserve options now) windows) :
    Agrees service.ttlSeconds (options, (Limiter.reserve options now windows).1) (options, (service.reserveRateLimit options now state).1) ∧
      Windows.Agree redisKey view (service.reserveRateLimit options now state).2 (Limiter.reserve options now windows).2 := by
  obtain ⟨off, outlasts⟩ := meets
  have alike : ∀ subject ∈ (Call.reserve options now).subjects, Windows.Alike service.alive running windows subject now :=
    fun subject mem => RedisService.alike fun lingers => off lingers subject mem
  obtain ⟨counted, kept⟩ := own_agrees agree apart inside alike
  simp only [redisKey] at counted kept
  cases cap : options.globalLimit with
  | none =>
    simp only [reserveRateLimit, Windows.attempt, cap, counted, reserve_uncapped cap]
    exact ⟨⟨rfl, rfl, rfl, by simp⟩, kept⟩
  | some =>
    obtain ⟨alsoCounted, alsoKept⟩ := shared_agrees cap apart inside alike kept
    simp only [redisKey] at alsoCounted alsoKept
    simp only [Outlasts, reserve_capped cap] at outlasts
    simp only [reserveRateLimit, Windows.attempt, cap, counted, alsoCounted, reserve_capped cap]
    exact ⟨⟨rfl, rfl, rfl, fun left capped => ttlSeconds_mono (outlasts left capped)⟩, alsoKept⟩

end RedisService

/-! ### Memory -/

def Spare (call : Call) (windows : Windows Subject) : Prop :=
  match call with
  | .reserve options now => options.globalLimit.isSome → (own windows options now).attempts ≤ options.limit
  | .clear _ _ _ => True

instance Spare.decidable : (call : Call) → (windows : Windows Subject) → Decidable (Spare call windows)
  | .reserve options now, windows => inferInstanceAs (Decidable (options.globalLimit.isSome → (own windows options now).attempts ≤ options.limit))
  | .clear .., _ => .isTrue trivial

def MemoryMeets (call : Call) (windows : Windows Subject) : Prop := Spare call windows ∧ Outlasts call windows

instance MemoryMeets.decidable (call : Call) (windows : Windows Subject) : Decidable (MemoryMeets call windows) :=
  inferInstanceAs (Decidable (Spare call windows ∧ Outlasts call windows))

namespace Memory

def seconds (left : Int) : Int := max 1 (ceilSeconds left)

theorem reserve_agrees (apart : Windows.Apart redisKey view) (agree : Windows.Agree redisKey view state windows)
    (inside : ∀ subject ∈ (Call.reserve options now).subjects, subject ∈ view) (meets : MemoryMeets (.reserve options now) windows) :
    Agrees seconds (options, (Limiter.reserve options now windows).1) (options, (reserveRateLimit options now state).1) ∧
      Windows.Agree redisKey view (reserveRateLimit options now state).2 (Limiter.reserve options now windows).2 := by
  obtain ⟨spare, outlasts⟩ := meets
  have alike : ∀ subject ∈ (Call.reserve options now).subjects, Windows.Alike running running windows subject now := fun _ _ _ _ => rfl
  obtain ⟨counted, kept⟩ := own_agrees agree apart inside alike
  simp only [redisKey] at counted kept
  cases cap : options.globalLimit with
  | none =>
    simp only [reserveRateLimit, reserveInMemory, Windows.attempt, cap, counted, reserve_uncapped cap]
    exact ⟨⟨rfl, rfl, rfl, by simp⟩, kept⟩
  | some =>
    obtain ⟨alsoCounted, alsoKept⟩ := shared_agrees cap apart inside alike kept
    simp only [redisKey] at alsoCounted alsoKept
    simp only [Outlasts, reserve_capped cap] at outlasts
    have within : (own windows options now).attempts ≤ options.limit := spare (by rw [cap]; rfl)
    simp only [reserveRateLimit, reserveInMemory, Windows.attempt, cap, counted, alsoCounted, reserve_capped cap, within, decide_true, if_true,
      Bool.true_and]
    refine ⟨⟨rfl, ?_, ?_, ?_⟩, alsoKept⟩
    · split
      · next admitted => exact admitted.symm
      · next refused => exact (eq_false_iff.mpr refused).symm
    · split <;> rfl
    · intro left capped
      simp only [within, decide_true, Bool.true_and] at outlasts
      have mono := ceilSeconds_mono (outlasts left capped)
      have longer : seconds left ≤ seconds ((own windows options now).endsAt - now) := by
        unfold seconds
        omega
      split <;> exact longer

end Memory

/-! ### Postgres -/

/-- A valid call with a name that can be stored, whose counts fit their column. -/
def PostgresMeets (call : Call) (windows : Windows Subject) : Prop :=
  match call with
  | .reserve options now =>
    PostgresService.storable options.name = true ∧ ((own windows options now).attempts : Int) ≤ maxInteger ∧
      (options.globalLimit.isSome → ((shared windows options now).attempts : Int) ≤ maxInteger)
  | .clear name _ _ => PostgresService.storable name = true

instance PostgresMeets.decidable : (call : Call) → (windows : Windows Subject) → Decidable (PostgresMeets call windows)
  | .reserve options now, windows =>
    inferInstanceAs (Decidable (PostgresService.storable options.name = true ∧ ((own windows options now).attempts : Int) ≤ maxInteger ∧
      (options.globalLimit.isSome → ((shared windows options now).attempts : Int) ≤ maxInteger)))
  | .clear name _ _, _ => inferInstanceAs (Decidable (PostgresService.storable name = true))

namespace PostgresService

variable {service : PostgresService} {state : Windows PostgresKey}

def key (service : PostgresService) : Subject → PostgresKey
  | .identity name identity => service.identityRow name identity
  | .everyone name => service.globalRow name

theorem reservePostgresWindow_counts {key : PostgresKey} {windowSeconds : Int} {window : Window}
    (counted : state.attempted running key now (milliseconds windowSeconds) = window) (storable : PostgresService.storable key.1 = true)
    (fits : (window.attempts : Int) ≤ maxInteger) : reservePostgresWindow key windowSeconds now state = some (window, state.set key window) := by
  unfold reservePostgresWindow
  simp [Windows.attempt, counted, storable, fits]

theorem not_blocked (attempts limit : Int) : (!decide (attempts > limit)) = decide (attempts ≤ limit) := by
  rw [← decide_not]
  exact decide_eq_decide.mpr Int.not_lt

theorem reserve_agrees (valid : validRateLimitOptions options = true) (apart : Windows.Apart service.key view)
    (agree : Windows.Agree service.key view state windows) (inside : ∀ subject ∈ (Call.reserve options now).subjects, subject ∈ view)
    (meets : PostgresMeets (.reserve options now) windows) :
    Agrees retrySeconds (options, (Limiter.reserve options now windows).1) (options, (service.reserveRateLimit options now state).1) ∧
      Windows.Agree service.key view (service.reserveRateLimit options now state).2 (Limiter.reserve options now windows).2 := by
  obtain ⟨storable, fits, alsoFits⟩ := meets
  have alike : ∀ subject ∈ (Call.reserve options now).subjects, Windows.Alike running running windows subject now := fun _ _ _ _ => rfl
  obtain ⟨counted, kept⟩ := own_agrees agree apart inside alike
  have first : reservePostgresWindow (service.identityRow options.name options.identity) options.windowSeconds now state =
      some (own windows options now, state.set (service.identityRow options.name options.identity) (own windows options now)) :=
    reservePostgresWindow_counts counted storable fits
  unfold reserveRateLimit
  rw [if_pos valid]
  unfold reserveInPostgres
  rw [first]
  cases cap : options.globalLimit with
  | none =>
    simp only [reserve_uncapped cap, bind_eq_bind, bind_some, getD_some]
    exact ⟨⟨rfl, not_blocked _ _, rfl, by simp⟩, kept⟩
  | some globalLimit =>
    obtain ⟨alsoCounted, alsoKept⟩ := shared_agrees cap apart inside alike kept
    have second : reservePostgresWindow (service.globalRow options.name) options.windowSeconds now
        (state.set (service.identityRow options.name options.identity) (own windows options now)) =
          some (shared windows options now, (state.set (service.identityRow options.name options.identity) (own windows options now)).set
            (service.globalRow options.name) (shared windows options now)) :=
      reservePostgresWindow_counts alsoCounted storable (alsoFits (by rw [cap]; rfl))
    simp only [reserve_capped cap, bind_eq_bind, bind_some, second, getD_some]
    refine ⟨⟨rfl, ?_, rfl, ?_⟩, alsoKept⟩
    · simp [not_blocked]
    · intro left capped
      simp only [mem_def, Option.ite_none_right_eq_some, and_eq_true, decide_eq_true_eq, not_eq_true', decide_eq_false_iff_not,
        some.injEq] at capped
      obtain ⟨⟨within, refused⟩, rfl⟩ := capped
      have open' : ¬ ((own windows options now).attempts : Int) > options.limit := Int.not_lt.mpr within
      have blocked : ((shared windows options now).attempts : Int) > globalLimit := Int.not_le.mp refused
      simp [open', blocked]

end PostgresService

end MilkAndHenny.RateLimit
